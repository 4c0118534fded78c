import TypeStubs.Proofs.OrderFree
import TypeStubs.Proofs.Selection

/-!
# What a build holds

In an orderly registry every candidate with a built-in ancestor has its accessors at its own place,
and nothing else is in the tree.
-/

namespace TypeStubs

open ClassNode StubTree

namespace Contribution

/-- The names of the members in the order in which each first comes up. -/
def names (c : Contribution) : List String :=
  (c.arguments.map (·.name) ++ c.options.map Prod.fst).eraseDups

/-- The type of a name: that of its option if there is one, or else of its last argument. -/
def typeOf? (c : Contribution) (name : String) : Option Annotation :=
  ((c.options.filter (·.1 == name)).getLast?.map fun o => o.2.accessorType).or
    ((c.arguments.filter (·.name == name)).getLast?.map fun a => a.accessorType)

/-- The accessors are the members of the contribution: one for each name, of its type. -/
structure ListedBy (c : Contribution) (as : List Accessor) : Prop where
  names : as.map Accessor.name = c.names
  types : ∀ a ∈ as, c.typeOf? a.name = some a.type

theorem typeOf?_eq (c : Contribution) (name : String) :
    c.typeOf? name = (lastNamed? name c.accessors).map Accessor.type := by
  rw [accessors, lastNamed?_append, lastNamed?_map, lastNamed?_map, typeOf?]
  cases (c.options.filter (·.1 == name)).getLast? with
  | some o => rfl
  | none =>
      cases (c.arguments.filter (·.name == name)).getLast? with
      | some a => rfl
      | none => rfl

theorem names_eq (c : Contribution) : c.names = (c.accessors.map Accessor.name).eraseDups := by
  simp [names, accessors, Function.comp_def]

theorem listedBy_putAll (c : Contribution) : c.ListedBy (putAll c.accessors []) where
  names := by rw [map_name_putAll_nil, names_eq]
  types := by
    intro a ha
    rw [typeOf?_eq, lastNamed?_of_mem_putAll ha]
    rfl

theorem listedBy_nil {c : Contribution} (h : c.isEmpty) : c.ListedBy [] := by
  rw [isEmpty, Bool.and_eq_true, List.isEmpty_iff, List.isEmpty_iff] at h
  constructor
  · simp [names, h.1, h.2]
  · simp

end Contribution

namespace StaticRegistry

variable {r : StaticRegistry} {g : GeneratorCompiler}

/-- Names are texts and not empty, qualified names tell registered classes apart, and no bases run
into a cycle. -/
structure Orderly (r : StaticRegistry) : Prop where
  texts : r.TextNames
  named : ∀ c ∈ r.registered, (r.get c).name ≠ some (.text "")
  distinct : ∀ c ∈ r.registered, ∀ d ∈ r.registered, (r.nameOf? c).isSome →
    r.nameOf? c = r.nameOf? d → c = d
  chains : ∀ c ∈ r.registered, ∃ above, r.Chain (r.get c).base above

theorem Workable.isolated (h : r.Workable g) {cs : List ClassId}
    (hcs : ∀ c ∈ cs, r.Candidate g c) : g.Isolated r.reflection cs :=
  GeneratorCompiler.isolated_of_fatal? fun c hc => h.fatal?_eq_none (hcs c hc)

/-- A compiler finds its candidates and gets through all of them. -/
theorem Workable.exists_settled (h : r.Workable g) :
    ∃ cs, g.selected r.reflection = .ok cs ∧ (∀ c, c ∈ cs ↔ r.Candidate g c) ∧
      ∀ b, g.settled r.reflection cs b =
        .ok ⟨putAt (g.edits r.reflection cs) b.tree, b.failures ++ g.notes r.reflection cs⟩ := by
  obtain ⟨cs, hselected, hcs, -, -⟩ := selected_of_chains h.texts h.chains
  exact ⟨cs, hselected, hcs, (h.isolated fun c hc => (hcs c).mp hc).settled⟩

namespace Orderly

theorem workable (h : r.Orderly) (g : GeneratorCompiler) : r.Workable g where
  texts := h.texts
  chains := fun _ c hc _ => h.chains c hc
  named := fun c b name hb hempty =>
    h.named c hb.candidate.registered (by rw [hb.name, hempty])

theorem eq_of_place (h : r.Orderly) {c d : ClassId} (hc : c ∈ r.registered)
    (hd : d ∈ r.registered) (hown : r.isOwn g c)
    (hmodule : (r.get c).module = (r.get d).module) (hname : (r.get c).name = (r.get d).name) :
    c = d := by
  obtain ⟨name, hsome, -⟩ := (Option.any_eq_true _ _).mp hown
  exact h.distinct c hc d hd (by rw [hsome, Option.isSome_some]) (nameOf?_congr hmodule hname)

theorem apart (h : r.Orderly) {cs : List ClassId} (hcs : ∀ c ∈ cs, r.Candidate g c) :
    r.reflection.Apart cs := by
  intro c hc d hd hmodule hsome hpath
  obtain ⟨name, hname⟩ := h.texts.exists_name (hcs c hc).own
  obtain ⟨name', hname'⟩ := h.texts.exists_name (hcs d hd).own
  rw [h.texts.textPath, h.texts.textPath, hname, hname'] at hpath
  obtain rfl : name = name' := Option.some.inj hpath
  exact h.eq_of_place (hcs c hc).registered (hcs d hd).registered (hcs c hc).own hmodule
    (hname.trans hname'.symm)

/-- A candidate that has a built-in ancestor finds its members at its place. -/
theorem listedBy_of_nearest (h : r.Orderly) {cs : List ClassId}
    (hcs : ∀ c, c ∈ cs ↔ r.Candidate g c) {c b : ClassId} {name : String}
    (hc : r.Candidate g c) (hb : r.Nearest g c b) (hname : (r.get c).name = some (.text name)) :
    (r.added c b).ListedBy (((putAt (g.edits r.reflection cs) .empty).accessorsAt
      (r.get c).module (Site.ofPath (r.get c).module name).path).getD []) := by
  have hmem := fun e => (h.workable g).mem_edits_iff hcs (e := e)
  by_cases hempty : (r.added c b).isEmpty
  · -- What is set at the place of the class is its own, and it has nothing to be set.
    have hnone : ∀ e ∈ g.edits r.reflection cs, (r.get c).module = e.1.module →
        (Site.ofPath (r.get c).module name).path ≠ e.1.path := by
      intro e he hmodule hpath
      obtain ⟨d, b', name', hd, rfl⟩ := (hmem e).mp he
      have hsite := Site.eq_of_path ((Site.module_ofPath _ _).trans hmodule) hpath
      obtain ⟨hmodules, rfl⟩ := Site.ofPath_injective hsite
      obtain rfl : c = d := h.eq_of_place hc.registered hd.candidate.registered hc.own hmodules
        (hname.trans hd.name.symm)
      obtain rfl := hb.unique hd.nearest
      exact hd.adds hempty
    rw [getD_accessorsAt_of_forall_ne hnone]
    exact Contribution.listedBy_nil hempty
  · have he : (Site.ofPath (r.get c).module name, (r.added c b).accessors) ∈
        g.edits r.reflection cs := (hmem _).mpr ⟨c, b, name, ⟨hc, hb, hempty, hname⟩, rfl⟩
    have hsame : Consistent (g.edits r.reflection cs) :=
      GeneratorCompiler.edits_consistent (h.apart fun c hc => (hcs c).mp hc)
    have hheld := getD_accessorsAt_of_mem he fun e' he' => hsame e' he' _ he
    rw [Site.module_ofPath] at hheld
    rw [hheld]
    exact (r.added c b).listedBy_putAll

theorem exists_of_accessors (h : r.Orderly) {cs : List ClassId}
    (hcs : ∀ c, c ∈ cs ↔ r.Candidate g c) {s : Site} {n : ClassNode}
    (hn : (putAt (g.edits r.reflection cs) .empty).at? s = some n) (hne : n.accessors ≠ []) :
    ∃ c b name, r.Candidate g c ∧ r.Nearest g c b ∧ (r.get c).name = some (.text name) ∧
      s = Site.ofPath (r.get c).module name := by
  by_cases hset : ∃ e ∈ g.edits r.reflection cs, s.module = e.1.module ∧ s.path = e.1.path
  · obtain ⟨e, he, hmodule, hpath⟩ := hset
    obtain ⟨c, b, name, hc, rfl⟩ := ((h.workable g).mem_edits_iff hcs).mp he
    exact ⟨c, b, name, hc.candidate, hc.nearest, hc.name, Site.eq_of_path hmodule hpath⟩
  · have hnone : ∀ e ∈ g.edits r.reflection cs, s.module = e.1.module → s.path ≠ e.1.path :=
      fun e he hmodule hpath => hset ⟨e, he, hmodule, hpath⟩
    have hnil := getD_accessorsAt_of_forall_ne hnone
    rw [accessorsAt_eq_map_at?, hn] at hnil
    exact (hne hnil).elim

end Orderly

/-- A build over an orderly registry comes to an end, and its tree holds the members of each
candidate that has a built-in ancestor at the candidate's place, no accessor anywhere else, and no
class or module without an accessor in it. -/
theorem build_exact (g : GeneratorCompiler) (h : r.Orderly) :
    ∃ built, (BoundCompiler.build (Compiler.bound r.reflection [.generators g])).Gives
        (.ok built) ∧
      built.tree.Distinct ∧
      (∀ c b name, r.Candidate g c → r.Nearest g c b → (r.get c).name = some (.text name) →
        (r.added c b).ListedBy
          (((built.tree.get? (r.get c).module name).map ClassNode.accessors).getD [])) ∧
      (∀ s n, built.tree.at? s = some n → n.accessors ≠ [] →
        ∃ c b name, r.Candidate g c ∧ r.Nearest g c b ∧ (r.get c).name = some (.text name) ∧
          s = Site.ofPath (r.get c).module name) ∧
      (∀ s n, built.tree.at? s = some n → ¬ n.isEmpty) ∧
      ∀ m ∈ built.tree.modules, ∃ n ∈ m.classes, ¬ n.isEmpty := by
  obtain ⟨cs, hselected, hmem, hsettled⟩ := (h.workable g).exists_settled
  have hsame : Consistent (g.edits r.reflection cs) :=
    GeneratorCompiler.edits_consistent (h.apart fun c hc => (hmem c).mp hc)
  have hbuild := Compiler.build_one_gives g r.reflection
  rw [hselected] at hbuild
  have hnonempty : ∀ s n, (putAt (g.edits r.reflection cs) .empty).at? s = some n →
      ¬ n.isEmpty := fun s n hn => not_isEmpty_of_at? hsame GeneratorCompiler.edits_ne_nil hn
  refine ⟨_, hbuild.congr (hsettled .empty), distinct_empty.putAt _, ?_, ?_, hnonempty, ?_⟩
  · intro c b name hc hb hname
    rw [← accessorsAt_eq_map_get?, ← Site.path_ofPath (r.get c).module name]
    exact h.listedBy_of_nearest hmem hc hb hname
  · exact fun s n hn hne => h.exists_of_accessors hmem hn hne
  · intro m hm
    obtain ⟨s, n, hn, hclass⟩ := exists_class_of_mem_modules hm
    exact ⟨n, hclass, hnonempty s n hn⟩

open GeneratorCompiler in
theorem orderly_nestedClasses : nestedClasses.Orderly where
  texts := by
    apply textNames_of_store
    intro c hc l hl
    simp only [nestedClasses, List.mem_toArray, List.mem_cons, List.not_mem_nil, or_false] at hc
    rcases hc with rfl | rfl | rfl <;> exact ⟨_, (Option.some.inj hl).symm⟩
  named := by
    intro c hc h
    simp only [nestedClasses, List.mem_cons, List.not_mem_nil, or_false] at hc
    rcases hc with rfl | rfl | rfl <;> simp [nestedClasses, get] at h
  distinct := by decide
  chains := by
    intro c hc
    apply exists_chain_iff.mpr
    simp only [nestedClasses, List.mem_cons, List.not_mem_nil, or_false] at hc
    rcases hc with rfl | rfl | rfl <;> rfl

open GeneratorCompiler in
theorem build_exact_of_nested :
    nestedClasses.Candidate libraryCompiler 2 ∧ nestedClasses.Nearest libraryCompiler 2 0 ∧
    ∃ built, (BoundCompiler.build
        (Compiler.bound nestedClasses.reflection [.generators libraryCompiler])).Gives (.ok built) ∧
      (nestedClasses.added 2 0).ListedBy
        (((built.tree.get? "app" "Outer.Inner").map ClassNode.accessors).getD []) := by
  have hchain : nestedClasses.Chain (nestedClasses.get 2).base [1, 0] :=
    ancestors_eq_ok_iff.mp rfl
  have hcandidate : nestedClasses.Candidate libraryCompiler 2 :=
    ⟨by decide, by decide, 0, [1, 0], rfl, hchain, by decide⟩
  have hnearest : nestedClasses.Nearest libraryCompiler 2 0 := ⟨[1, 0], hchain, by decide⟩
  obtain ⟨built, hbuild, -, hlists, -⟩ := build_exact libraryCompiler orderly_nestedClasses
  exact ⟨hcandidate, hnearest, built, hbuild,
    hlists 2 0 "Outer.Inner" hcandidate hnearest rfl⟩

end StaticRegistry

end TypeStubs
