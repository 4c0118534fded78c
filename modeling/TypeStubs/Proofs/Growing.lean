import TypeStubs.Proofs.Refusal
import TypeStubs.Proofs.Renumbering

/-!
# Registering one more class

What a build comes to changes only where the new class is: all other classes keep their accessors,
all other modules their texts, and the failures there were stay in order. Modules above the module
of the new class may turn into packages.
-/

namespace TypeStubs

open ClassNode StubTree

/-! ## Trees that differ at one site -/

namespace StubTree

variable {s : Site} {t u : StubTree}

/-- The second tree has all places of the first one and differs from it in one module, where
accessors are the same but at one site. -/
structure GrowsAt (s : Site) (t u : StubTree) : Prop where
  modules : ∀ module ≠ s.module, ∀ path, u.accessorsAt module path = t.accessorsAt module path
  kept : ∀ module path, (t.accessorsAt module path).isSome → (u.accessorsAt module path).isSome
  accessors : ∀ module path, (module = s.module → path ≠ s.path) →
    (u.accessorsAt module path).getD [] = (t.accessorsAt module path).getD []

theorem growsAt_putAt {edits : List (Site × List Accessor)} (h : ∀ e ∈ edits, e.1 = s)
    (t : StubTree) : GrowsAt s t (putAt edits t) where
  modules := fun _ hne path =>
    accessorsAt_putAt_of_ne (fun e he => by rw [h e he]; exact hne) t path
  kept := fun module path hsome =>
    (isSome_accessorsAt_putAt edits t module path).mpr (Or.inl hsome)
  accessors := fun _ _ hne =>
    getD_accessorsAt_putAt_of_ne (fun e he => by rw [h e he]; exact hne) t

namespace GrowsAt

theorem congr {v : StubTree} (h : GrowsAt s t u)
    (hsame : ∀ module path, v.accessorsAt module path = u.accessorsAt module path) :
    GrowsAt s t v where
  modules := by simpa only [hsame] using h.modules
  kept := by simpa only [hsame] using h.kept
  accessors := by simpa only [hsame] using h.accessors

theorem at? (h : GrowsAt s t u) {place : Site} (hne : place ≠ s) {n : ClassNode}
    (hn : t.at? place = some n) : ∃ k, u.at? place = some k ∧ k.accessors = n.accessors := by
  have hold : t.accessorsAt place.module place.path = some n.accessors := by
    rw [accessorsAt_eq_map_at?, hn]
    rfl
  have hsome := h.kept place.module place.path (by rw [hold, Option.isSome_some])
  have hsame := h.accessors place.module place.path fun hmodule hpath =>
    hne (Site.eq_of_path hmodule hpath)
  rw [accessorsAt_eq_map_at?, Option.isSome_map] at hsome
  obtain ⟨k, hk⟩ := Option.isSome_iff_exists.mp hsome
  rw [accessorsAt_eq_map_at?, hk, hold] at hsame
  exact ⟨k, hk, hsame⟩

theorem mem_names (h : GrowsAt s t u) {name : String}
    (hname : name ∈ t.modules.map ModuleNode.name) : name ∈ u.modules.map ModuleNode.name := by
  rw [mem_map_name_iff] at hname ⊢
  exact h.kept name [] hname

theorem mem_names_of_ne (h : GrowsAt s t u) {name : String} (hne : name ≠ s.module)
    (hname : name ∈ u.modules.map ModuleNode.name) : name ∈ t.modules.map ModuleNode.name := by
  rw [mem_map_name_iff] at hname ⊢
  rwa [← h.modules name hne]

/-- A module that is a package in one tree only is so for the module that has grown. -/
theorem isPackage (h : GrowsAt s t u) {name : String}
    (hne : u.isPackage name ≠ t.isPackage name) :
    Text.startsWith (name ++ ".") s.module ∧ t.isPackage name = false ∧
      u.isPackage name = true := by
  have hmono : t.isPackage name → u.isPackage name := by
    rw [isPackage_iff_exists, isPackage_iff_exists]
    rintro ⟨other, hother, hbelow⟩
    exact ⟨other, h.mem_names hother, hbelow⟩
  have hold : t.isPackage name = false := by
    rw [← Bool.not_eq_true]
    exact fun ht => hne ((hmono ht).trans ht.symm)
  have hnew : u.isPackage name = true := by
    rw [← Bool.not_eq_false]
    exact fun hu => hne (hu.trans hold.symm)
  obtain ⟨other, hother, hbelow⟩ := isPackage_iff_exists.mp hnew
  have hmodule : other = s.module := by
    by_contra hother'
    have ht := isPackage_iff_exists.mpr ⟨other, h.mem_names_of_ne hother' hother, hbelow⟩
    exact Bool.false_ne_true (hold.symm.trans ht)
  exact ⟨hmodule ▸ hbelow, hold, hnew⟩

end GrowsAt

/-- A module of a tree stands in the files under its path. -/
structure Writes (t : StubTree) (files : Files) (m : ModuleNode) (path : Path) : Prop where
  mem : m ∈ t.modules
  placed : stubPath m.name (t.isPackage m.name) = .ok path
  text : Files.text? path files = some m.text

end StubTree

namespace StaticRegistry

variable {r r' : StaticRegistry} {g : GeneratorCompiler} {i : ClassId} {name : String}

/-- A class of the store that can be registered without getting in the way of others: it has a name
that is free and not that of the root, its bases come to an end, and its module is of proper
segments. -/
structure Joins (r : StaticRegistry) (g : GeneratorCompiler) (i : ClassId) (name : String) :
    Prop where
  called : (r.get i).name = some (.text name)
  named : name ≠ ""
  fresh : ∀ c ∈ r.registered, r.nameOf? c ≠ r.nameOf? i
  notRoot : r.nameOf? i ≠ some g.root
  chain : ∃ above, r.Chain (r.get i).base above
  segmented : Segmented (r.get i).module

/-- The outcome of a build with one more class, against that without it. -/
structure GrowsBy (r : StaticRegistry) (g : GeneratorCompiler) (i : ClassId) (s : Site)
    (built : Build) (files : Files) (built' : Build) (files' : Files) : Prop where
  /-- Failures stay in order, and at most one comes in, for the class. -/
  failures : ∃ before after, built.failures = before ++ after ∧
    (built'.failures = before ++ after ∨
      built'.failures = before ++ [r.strayReport g i] ++ after)
  /-- Accessors change at the site of the class alone. -/
  nodes : ∀ place ≠ s, ∀ n, built.tree.at? place = some n →
    ∃ k, built'.tree.at? place = some k ∧ k.accessors = n.accessors
  /-- No other class is at that site. -/
  sites : ∀ c ∈ r.registered, ∀ name, (r.get c).name = some (.text name) →
    Site.ofPath (r.get c).module name ≠ s
  /-- Other modules are written with the text they had, where they were; only one above the module
  of the class may be made a package. -/
  modules : ∀ m ∈ built.tree.modules, m.name ≠ s.module →
    ∃ k path path', built.tree.Writes files m path ∧ built'.tree.Writes files' k path' ∧
      k.name = m.name ∧ k.text = m.text ∧
      (path' = path ∨ Text.startsWith (m.name ++ ".") s.module ∧
        path = stubFile m.name false ∧ path' = stubFile m.name true)
  /-- No other module comes in. -/
  names : ∀ k ∈ built'.tree.modules, k.name ≠ s.module →
    k.name ∈ built.tree.modules.map ModuleNode.name

/-! ## The registry -/

theorem renumbers_of_store (h : r'.store = r.store) : r.Renumbers (Equiv.refl ClassId) r' where
  get := by
    intro i
    rw [Equiv.coe_refl, Option.map_id]
    exact get_congr_store h i

theorem described_congr_store (h : r'.store = r.store) (c : ClassId) :
    r'.reflection.described c = r.reflection.described c := (renumbers_of_store h).described c

theorem strayReport_congr_store (h : r'.store = r.store) (c : ClassId) :
    r'.strayReport g c = r.strayReport g c := by
  rw [strayReport, strayReport, strayFault, strayFault, described_congr_store h]

/-- Registries over one store have the same classes, wherever bases come to an end. -/
theorem mirrors_of_store (h : r'.store = r.store) :
    r.reflection.Mirrors (fun c => ∃ above, r.Chain (r.get c).base above) id r'.reflection :=
  (renumbers_of_store h).mirrors

/-- Sorted lists of candidates are told by what is in them. -/
theorem Orderly.eq_of_perm (h : r.Orderly) {cs ds : List ClassId} (hperm : cs.Perm ds)
    (hds : ∀ d ∈ ds, r.Candidate g d)
    (hcs : cs.Pairwise fun c d => (r.nameOf? c).getD "" ≤ (r.nameOf? d).getD "")
    (hsorted : ds.Pairwise fun c d => (r.nameOf? c).getD "" ≤ (r.nameOf? d).getD "") :
    cs = ds := by
  refine eq_of_perm_of_sorted (fun c d hc hd hname => ?_) hperm hds hcs hsorted
  obtain ⟨a, ha⟩ := hc.exists_nameOf?
  exact h.distinct c hc.registered d hd.registered (by rw [ha, Option.isSome_some]) hname

theorem Orderly.build_gives (h : r.Orderly) {cs : List ClassId}
    (hselected : g.selected r.reflection = .ok cs) (hcs : ∀ c ∈ cs, r.Candidate g c) :
    (BoundCompiler.build (Compiler.bound r.reflection [.generators g])).Gives
      (.ok ⟨putAt (g.edits r.reflection cs) .empty, g.notes r.reflection cs⟩) := by
  have hbuild := Compiler.build_one_gives g r.reflection
  rw [hselected] at hbuild
  exact hbuild.congr (((h.workable g).isolated hcs).settled .empty)

section Add

variable (h : r.Orderly) (hi : r.Joins g i name) (hadd : r.add i = .ok r')
include h hi hadd

theorem Orderly.add : r'.Orderly := by
  obtain ⟨hstore, hregistered⟩ := add_ok hadd
  have hget := get_congr_store hstore
  have hcases : ∀ {c : ClassId}, c ∈ r'.registered → c ∈ r.registered ∨ c = i := by
    intro c hc
    rw [hregistered] at hc
    simpa using hc
  constructor
  · intro c l hl
    rw [hget] at hl
    exact h.texts c l hl
  · intro c hc
    rw [hget]
    rcases hcases hc with hc | rfl
    · exact h.named c hc
    · rw [hi.called]
      exact fun heq => hi.named (Label.text.inj (Option.some.inj heq))
  · intro c hc d hd hsome hname
    rw [nameOf?_congr_store hstore] at hsome hname
    rw [nameOf?_congr_store hstore] at hname
    rcases hcases hc with hc | rfl
    · rcases hcases hd with hd | rfl
      · exact h.distinct c hc d hd hsome hname
      · exact (hi.fresh c hc hname).elim
    · rcases hcases hd with hd | rfl
      · exact (hi.fresh d hd hname.symm).elim
      · rfl
  · intro c hc
    rw [hget]
    rcases hcases hc with hc | rfl
    · obtain ⟨above, habove⟩ := h.chains c hc
      exact ⟨above, habove.congr_store hstore⟩
    · obtain ⟨above, habove⟩ := hi.chain
      exact ⟨above, habove.congr_store hstore⟩

omit h in
theorem candidate_add_iff {c : ClassId} (hc : c ∈ r.registered) :
    r'.Candidate g c ↔ r.Candidate g c := by
  obtain ⟨hstore, hregistered⟩ := add_ok hadd
  have hlookup : r'.lookup g.root = r.lookup g.root := by
    rw [lookup_add hadd, if_neg hi.notRoot]
  have hown : r'.isOwn g c = r.isOwn g c := by
    rw [isOwn, isOwn, nameOf?_congr_store hstore]
  constructor
  · rintro ⟨-, hcown, root, above, hroot, habove, hbelow⟩
    have habove' := habove.congr_store hstore.symm
    rw [get_congr_store hstore] at habove'
    exact ⟨hc, hown ▸ hcown, root, above, hlookup ▸ hroot, habove', hbelow⟩
  · rintro ⟨-, hcown, root, above, hroot, habove, hbelow⟩
    have habove' := habove.congr_store hstore
    rw [← get_congr_store hstore] at habove'
    have hmem : c ∈ r'.registered := hregistered ▸ List.mem_append_left [i] hc
    exact ⟨hmem, hown ▸ hcown, root, above, hlookup ▸ hroot, habove', hbelow⟩

/-- The new class goes in between the candidates there were, or is none. -/
theorem selected_add :
    ∃ before new after, (new = [] ∨ new = [i]) ∧
      g.selected r.reflection = .ok (before ++ after) ∧
      g.selected r'.reflection = .ok (before ++ new ++ after) ∧
      (∀ c, c ∈ before ++ after ↔ r.Candidate g c) ∧
      ∀ c, c ∈ before ++ new ++ after ↔ r'.Candidate g c := by
  classical
  obtain ⟨hstore, hregistered⟩ := add_ok hadd
  have h' := h.add hi hadd
  obtain ⟨cs, hselected, hperm, hsorted⟩ := selected_perm h.texts (h.workable g).chains
  obtain ⟨cs', hselected', hperm', hsorted'⟩ := selected_perm h'.texts (h'.workable g).chains
  have hmem := mem_iff_candidate hperm
  have hmem' := mem_iff_candidate hperm'
  have hold : r.registered.filter (fun c => r'.Candidate g c) =
      r.registered.filter fun c => r.Candidate g c :=
    List.filter_congr fun c hc => decide_eq_decide.mpr (candidate_add_iff hi hadd hc)
  rw [hregistered, List.filter_append, hold] at hperm'
  simp only [nameOf?_congr_store hstore] at hsorted'
  by_cases hnew : r'.Candidate g i
  · -- Without the new class the longer list is sorted and has the candidates there were.
    obtain ⟨before, after, rfl⟩ := List.append_of_mem ((hmem' i).mpr hnew)
    have hrest : (before ++ after).Perm cs := by
      have hone : [i].filter (fun c => r'.Candidate g c) = [i] := by simp [hnew]
      rw [hone] at hperm'
      have hcons := List.perm_middle.symm.trans (hperm'.trans (List.perm_append_singleton i _))
      exact hcons.cons_inv.trans hperm.symm
    have hbetween : (before ++ after).Sublist (before ++ i :: after) :=
      (List.sublist_cons_self i after).append_left before
    obtain rfl := h.eq_of_perm hrest (fun c hc => (hmem c).mp hc) (hsorted'.sublist hbetween)
      hsorted
    exact ⟨before, [i], after, Or.inr rfl, hselected, by simpa using hselected', hmem,
      by simpa using hmem'⟩
  · have hnone : [i].filter (fun c => r'.Candidate g c) = [] := by simp [hnew]
    rw [hnone, List.append_nil] at hperm'
    obtain rfl := h.eq_of_perm (hperm'.trans hperm.symm) (fun c hc => (hmem c).mp hc) hsorted'
      hsorted
    exact ⟨cs', [], [], Or.inl rfl, by simpa using hselected, by simpa using hselected',
      by simpa using hmem, by simpa using hmem'⟩

/-! ## The build -/

theorem notes_new {new : List ClassId} (hnew : new = [] ∨ new = [i])
    (hcs : ∀ c ∈ new, r'.Candidate g c) :
    g.notes r'.reflection new = [] ∨ g.notes r'.reflection new = [r.strayReport g i] := by
  classical
  rcases hnew with rfl | rfl
  · exact Or.inl rfl
  · rw [((h.add hi hadd).workable g).notes_eq hcs]
    simp only [failure_stray, strayReport_congr_store (add_ok hadd).1]
    by_cases hstray : ∃ b, r'.Nearest g i b
    · exact Or.inl (by simp [hstray])
    · have hone : [i].filter (fun c => ¬ ∃ b, r'.Nearest g c b) = [i] :=
        List.filter_cons_of_pos (decide_eq_true hstray)
      rw [hone]
      exact Or.inr rfl

theorem notes_add {before new after : List ClassId} (hnew : new = [] ∨ new = [i])
    (hcs : ∀ c ∈ before ++ after, r.Candidate g c) (hcs' : ∀ c ∈ new, r'.Candidate g c) :
    g.notes r'.reflection (before ++ new ++ after) =
        g.notes r.reflection before ++ g.notes r.reflection after ∨
      g.notes r'.reflection (before ++ new ++ after) =
        g.notes r.reflection before ++ [r.strayReport g i] ++ g.notes r.reflection after := by
  have hold : ∀ cs, (∀ c ∈ cs, c ∈ before ++ after) →
      g.notes r'.reflection cs = g.notes r.reflection cs := by
    intro cs hmem
    have hnotes := (mirrors_of_store (add_ok hadd).1).notes (g := g) fun c hc =>
      (hcs c (hmem c hc)).shown
    rwa [List.map_id] at hnotes
  rw [GeneratorCompiler.notes_append, GeneratorCompiler.notes_append,
    hold before fun c hc => List.mem_append_left after hc,
    hold after fun c hc => List.mem_append_right before hc]
  rcases notes_new h hi hadd hnew hcs' with hnone | hone
  · exact Or.inl (by rw [hnone, List.append_nil])
  · exact Or.inr (by rw [hone])

theorem site_of_mem_edits_new {new : List ClassId} (hnew : new = [] ∨ new = [i])
    (hcs : ∀ c ∈ new, r'.Candidate g c) {e : Site × List Accessor}
    (he : e ∈ g.edits r'.reflection new) : e.1 = Site.ofPath (r.get i).module name := by
  obtain ⟨c, hc, added, hv, -⟩ := GeneratorCompiler.mem_edits.mp he
  obtain rfl : c = i := by
    rcases hnew with rfl | rfl
    · simp at hc
    · exact List.mem_singleton.mp hc
  obtain ⟨-, path, hpath, hsite⟩ := GeneratorCompiler.verdict_eq_stub hv
  have hget := get_congr_store (add_ok hadd).1 c
  rw [(h.add hi hadd).texts.textPath, hget, hi.called] at hpath
  obtain rfl : name = path := Option.some.inj hpath
  rw [hsite, reflection_moduleOf, hget]

/-- The tree with the new class has grown at its site. -/
theorem growsAt_edits {before new after : List ClassId} (hnew : new = [] ∨ new = [i])
    (hcs : ∀ c ∈ before ++ after, r.Candidate g c)
    (hcs' : ∀ c ∈ before ++ new ++ after, r'.Candidate g c) :
    GrowsAt (Site.ofPath (r.get i).module name)
      (putAt (g.edits r.reflection (before ++ after)) .empty)
      (putAt (g.edits r'.reflection (before ++ new ++ after)) .empty) := by
  have hold := (mirrors_of_store (add_ok hadd).1).edits (g := g) fun c hc => (hcs c hc).shown
  rw [List.map_id, GeneratorCompiler.edits_append] at hold
  have hmem : ∀ e, e ∈ g.edits r'.reflection (before ++ new ++ after) ↔
      e ∈ g.edits r.reflection (before ++ after) ++ g.edits r'.reflection new := by
    intro e
    rw [← hold, GeneratorCompiler.edits_append, GeneratorCompiler.edits_append]
    simp only [List.mem_append]
    tauto
  have hsame : Consistent (g.edits r'.reflection (before ++ new ++ after)) :=
    GeneratorCompiler.edits_consistent ((h.add hi hadd).apart hcs')
  have hat : ∀ e ∈ g.edits r'.reflection new, e.1 = Site.ofPath (r.get i).module name :=
    fun e he => site_of_mem_edits_new h hi hadd hnew
      (fun c hc => hcs' c (List.mem_append_left after (List.mem_append_right before hc))) he
  -- Each site is always given the same accessors, so that the new edits may as well come last.
  apply (growsAt_putAt hat _).congr
  intro module path
  rw [accessorsAt_putAt_congr hsame hmem, putAt_append]

end Add

theorem Joins.site_ne (h : r.Joins g i name) {c : ClassId} (hc : c ∈ r.registered)
    {path : String} (hpath : (r.get c).name = some (.text path)) :
    Site.ofPath (r.get c).module path ≠ Site.ofPath (r.get i).module name := by
  intro hsite
  obtain ⟨hmodule, rfl⟩ := Site.ofPath_injective hsite
  exact h.fresh c hc (nameOf?_congr hmodule (hpath.trans h.called.symm))

theorem segmented_of_mem_modules (h : r.Workable g) {cs : List ClassId}
    (hcs : ∀ c, c ∈ cs ↔ r.Candidate g c)
    (hmodules : ∀ c ∈ r.registered, Segmented (r.get c).module) :
    ∀ m ∈ (putAt (g.edits r.reflection cs) .empty).modules, Segmented m.name := by
  intro m hm
  obtain ⟨c, b, path, hc, hmodule⟩ := (mem_modules_iff h hcs).mp (List.mem_map_of_mem hm)
  exact hmodule ▸ hmodules c hc.candidate.registered

/-- A module keeps its text and, unless it turns into a package, its file. -/
theorem exists_writes {t u : StubTree} {s : Site} (h : GrowsAt s t u) (ht : t.Distinct)
    (hu : u.Distinct) {files files' : Files}
    (hfiles : ∀ m ∈ t.modules,
      Files.text? (stubFile m.name (t.isPackage m.name)) files = some m.text)
    (hfiles' : ∀ k ∈ u.modules,
      Files.text? (stubFile k.name (u.isPackage k.name)) files' = some k.text)
    {m : ModuleNode} (hm : m ∈ t.modules) (hsegmented : Segmented m.name)
    (hne : m.name ≠ s.module) :
    ∃ k path path', t.Writes files m path ∧ u.Writes files' k path' ∧
      k.name = m.name ∧ k.text = m.text ∧
      (path' = path ∨ Text.startsWith (m.name ++ ".") s.module ∧
        path = stubFile m.name false ∧ path' = stubFile m.name true) := by
  obtain ⟨k, hk, hname, htext⟩ :=
    exists_mem_same_text ht hu hm fun path => (h.modules m.name hne path).symm
  refine ⟨k, _, _, ⟨hm, hsegmented.stubPath_eq _, hfiles m hm⟩,
    ⟨hk, (hname ▸ hsegmented).stubPath_eq _, hfiles' k hk⟩, hname, htext, ?_⟩
  rw [hname]
  by_cases hpackage : u.isPackage m.name = t.isPackage m.name
  · exact Or.inl (by rw [hpackage])
  · obtain ⟨hbelow, hold, hnew⟩ := h.isPackage hpackage
    exact Or.inr ⟨hbelow, by rw [hold], by rw [hnew]⟩

/-- To register one more class in an orderly registry does no more than to add its accessors, or a
failure for it, to what a build comes to. -/
theorem build_add (g : GeneratorCompiler) (h : r.Orderly)
    (hmodules : ∀ c ∈ r.registered, Segmented (r.get c).module) (hi : r.Joins g i name) :
    ∃ r' built built' files files', r.add i = .ok r' ∧
      (BoundCompiler.build (Compiler.bound r.reflection [.generators g])).Gives (.ok built) ∧
      (BoundCompiler.build (Compiler.bound r'.reflection [.generators g])).Gives (.ok built') ∧
      built.tree.render.Gives (.ok files) ∧ built'.tree.render.Gives (.ok files') ∧
      r.GrowsBy g i (Site.ofPath (r.get i).module name) built files built' files' := by
  obtain ⟨r', hadd⟩ := exists_add h.texts.text_of_qualifiedName
  obtain ⟨hstore, hregistered⟩ := add_ok hadd
  have h' := h.add hi hadd
  obtain ⟨before, new, after, hnew, hselected, hselected', hcs, hcs'⟩ := selected_add h hi hadd
  have hcandidates := fun c hc => (hcs c).mp hc
  have hcandidates' := fun c hc => (hcs' c).mp hc
  have hgrows := growsAt_edits h hi hadd hnew hcandidates hcandidates'
  have hdistinct := distinct_empty.putAt (g.edits r.reflection (before ++ after))
  have hdistinct' := distinct_empty.putAt (g.edits r'.reflection (before ++ new ++ after))
  have hmodules' : ∀ c ∈ r'.registered, Segmented (r'.get c).module := by
    intro c hc
    rw [get_congr_store hstore]
    rw [hregistered, List.mem_append, List.mem_singleton] at hc
    rcases hc with hc | rfl
    · exact hmodules c hc
    · exact hi.segmented
  have hsegmented := segmented_of_mem_modules (h.workable g) hcs hmodules
  have hsegmented' := segmented_of_mem_modules (h'.workable g) hcs' hmodules'
  obtain ⟨files, hplaced, hfiles⟩ := exists_files_of_segmented hdistinct hsegmented
  obtain ⟨files', hplaced', hfiles'⟩ := exists_files_of_segmented hdistinct' hsegmented'
  refine ⟨r', _, _, files, files', hadd, h.build_gives hselected hcandidates,
    h'.build_gives hselected' hcandidates', (render_gives _).congr hplaced,
    (render_gives _).congr hplaced', ?_⟩
  constructor
  · exact ⟨_, _, GeneratorCompiler.notes_append g _ before after,
      notes_add h hi hadd hnew hcandidates fun c hc =>
        hcandidates' c (List.mem_append_left after (List.mem_append_right before hc))⟩
  · exact fun place hne n hn => hgrows.at? hne hn
  · exact fun c hc path hpath => hi.site_ne hc hpath
  · intro m hm hne
    exact exists_writes hgrows hdistinct hdistinct' hfiles hfiles' hm (hsegmented m hm) hne
  · exact fun k hk hne => hgrows.mem_names_of_ne hne (List.mem_map_of_mem hk)

open GeneratorCompiler in
/-- The nested classes beside one that is not registered yet, in a module below theirs. -/
def nestedWithLeaf : StaticRegistry :=
  { nestedClasses with
    store := nestedClasses.store.push
      ⟨"app.sub", some (.text "Leaf"), some 1, [⟨"depth", .numeric, true, false⟩], []⟩ }

theorem orderly_nestedWithLeaf : nestedWithLeaf.Orderly where
  texts := by
    apply textNames_of_store
    intro c hc l hl
    rcases Array.mem_push.mp hc with hc | rfl
    · obtain ⟨j, hj, rfl⟩ := Array.mem_iff_getElem.mp hc
      apply orderly_nestedClasses.texts j l
      rw [← hl, get, Array.getElem?_eq_getElem hj, Option.getD_some]
    · exact ⟨_, (Option.some.inj hl).symm⟩
  named := by
    intro c hc h
    simp only [nestedWithLeaf, GeneratorCompiler.nestedClasses, List.mem_cons, List.not_mem_nil,
      or_false] at hc
    rcases hc with rfl | rfl | rfl <;>
      simp [nestedWithLeaf, GeneratorCompiler.nestedClasses, get] at h
  distinct := by decide
  chains := by
    intro c hc
    apply exists_chain_iff.mpr
    simp only [nestedWithLeaf, GeneratorCompiler.nestedClasses, List.mem_cons, List.not_mem_nil,
      or_false] at hc
    rcases hc with rfl | rfl | rfl <;> rfl

open GeneratorCompiler in
theorem joins_leaf : nestedWithLeaf.Joins libraryCompiler 3 "Leaf" where
  called := rfl
  named := by decide
  fresh := by decide
  notRoot := by decide
  chain := ⟨[1, 0], ancestors_eq_ok_iff.mp rfl⟩
  segmented := by decide

open GeneratorCompiler in
theorem build_add_of_leaf :
    nestedWithLeaf.Orderly ∧
    (∀ c ∈ nestedWithLeaf.registered, Segmented (nestedWithLeaf.get c).module) ∧
    nestedWithLeaf.Joins libraryCompiler 3 "Leaf" ∧
    ∃ r' built built' files files', nestedWithLeaf.add 3 = .ok r' ∧
      (BoundCompiler.build (Compiler.bound nestedWithLeaf.reflection
        [.generators libraryCompiler])).Gives (.ok built) ∧
      (BoundCompiler.build (Compiler.bound r'.reflection
        [.generators libraryCompiler])).Gives (.ok built') ∧
      built.tree.render.Gives (.ok files) ∧ built'.tree.render.Gives (.ok files') ∧
      nestedWithLeaf.GrowsBy libraryCompiler 3 (Site.ofPath "app.sub" "Leaf") built files built'
        files' :=
  ⟨orderly_nestedWithLeaf, by decide, joins_leaf,
    build_add libraryCompiler orderly_nestedWithLeaf (by decide) joins_leaf⟩

end StaticRegistry

end TypeStubs
