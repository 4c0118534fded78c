import TypeStubs.Proofs.Exactness
import TypeStubs.Proofs.Placing
import TypeStubs.Proofs.Requests

/-!
# Requests that are refused

One class can keep a whole request from being answered: by a cycle among its bases, by an empty
name, or by a module that has no place. If there is no such class, all stubs are written, but of
modules that share a place only one is kept.
-/

namespace TypeStubs

open ClassNode StubTree

namespace StaticRegistry

variable {r : StaticRegistry} {g : GeneratorCompiler}

/-- A module is a package if some class contributes to a module below it. -/
def Package (r : StaticRegistry) (g : GeneratorCompiler) (module : String) : Prop :=
  ∃ c b name, r.Contributes g c b name ∧
    Text.startsWith (module ++ ".") (r.get c).module

/-- Nothing keeps a request from being answered. -/
structure Serviceable (r : StaticRegistry) (g : GeneratorCompiler) : Prop extends
    r.Workable g where
  placed : ∀ c b name, r.Contributes g c b name →
    HasPlace (r.get c).module (r.Package g (r.get c).module)

/-- The stub file of a module. -/
def PathOf (r : StaticRegistry) (g : GeneratorCompiler) (module : String) (path : Path) : Prop :=
  ∃ package : Bool, (package ↔ r.Package g module) ∧ stubPath module package = .ok path

/-- Of the modules that share a stub file, the one with the greatest name. -/
structure Keeps (r : StaticRegistry) (g : GeneratorCompiler) (path : Path) (module : String) :
    Prop where
  contributed : ∃ c b name, r.Contributes g c b name ∧ (r.get c).module = module
  placed : r.PathOf g module path
  greatest : ∀ c b name, r.Contributes g c b name → r.PathOf g (r.get c).module path →
    (r.get c).module ≤ module

/-- The report on a candidate without a built-in ancestor. -/
def strayReport (r : StaticRegistry) (g : GeneratorCompiler) (c : ClassId) : Failure :=
  ⟨GeneratorCompiler.name, r.reflection.described c, (r.strayFault g c).message⟩

end StaticRegistry

/-- A text shows a class at a path: its lines are there, written with these accessors. -/
def Shows (text : String) (path : List String) (as : List Accessor) : Prop :=
  ∃ (n : ClassNode) (before after : List String), path.getLast? = some n.name ∧ n.accessors = as ∧
    text = String.intercalate "\n" (before ++ n.lines (path.length - 1) ++ after) ++ "\n"

namespace StaticRegistry

/-- An answer reports on the candidates without a built-in ancestor, in the order of their names,
and has the stub of each class that contributes, unless another module took the place of its own. -/
structure Answered (r : StaticRegistry) (g : GeneratorCompiler) (files : Files)
    (failures : List Failure) : Prop where
  reports : ∃ strays : List ClassId, failures = strays.map (r.strayReport g) ∧ strays.Nodup ∧
    (∀ c, c ∈ strays ↔ r.Candidate g c ∧ ¬ ∃ b, r.Nearest g c b) ∧
    strays.Pairwise fun c d => (r.nameOf? c).getD "" ≤ (r.nameOf? d).getD ""
  stubs : ∀ c b name, r.Contributes g c b name →
    ∃ path module text, r.PathOf g (r.get c).module path ∧ r.Keeps g path module ∧
      Files.text? path files = some text ∧
      ((r.get c).module = module → ∃ as, Shows text (Text.segments name) as ∧
        (∀ x ∈ (r.added c b).names, x ∈ as.map Accessor.name) ∧
        ((∀ d b', r.Contributes g d b' name → (r.get d).module = (r.get c).module → d = c) →
          (r.added c b).ListedBy as))

variable {r : StaticRegistry} {g : GeneratorCompiler}

theorem failure_stray (c : ClassId) :
    Compiler.failure r.reflection (.generators g) c (r.strayFault g c) = r.strayReport g c := by
  have hclass : Compiler.failedClass r.reflection c (r.strayFault g c) =
      r.reflection.described c := ite_self _
  rw [Compiler.failure, hclass]
  rfl

/-! ## The tree of a workable registry -/

section Tree

variable (h : r.Workable g) {cs : List ClassId} (hcs : ∀ c, c ∈ cs ↔ r.Candidate g c)
include h hcs

theorem mem_modules_iff {module : String} :
    module ∈ (putAt (g.edits r.reflection cs) .empty).modules.map ModuleNode.name ↔
      ∃ c b name, r.Contributes g c b name ∧ (r.get c).module = module := by
  rw [mem_map_name_iff, isSome_accessorsAt_putAt]
  constructor
  · rintro (hnone | ⟨e, he, hmodule, -⟩)
    · simp at hnone
    · obtain ⟨c, b, name, hc, rfl⟩ := (h.mem_edits_iff hcs).mp he
      exact ⟨c, b, name, hc, (hmodule.trans (Site.module_ofPath _ _)).symm⟩
  · rintro ⟨c, b, name, hc, rfl⟩
    refine Or.inr ⟨_, (h.mem_edits_iff hcs).mpr ⟨c, b, name, hc, rfl⟩, ?_, List.nil_prefix⟩
    exact (Site.module_ofPath _ _).symm

theorem isPackage_iff {module : String} :
    (putAt (g.edits r.reflection cs) .empty).isPackage module ↔ r.Package g module := by
  rw [isPackage_iff_exists]
  constructor
  · rintro ⟨other, hother, hbelow⟩
    obtain ⟨c, b, name, hc, rfl⟩ := (mem_modules_iff h hcs).mp hother
    exact ⟨c, b, name, hc, hbelow⟩
  · rintro ⟨c, b, name, hc, hbelow⟩
    exact ⟨_, (mem_modules_iff h hcs).mpr ⟨c, b, name, hc, rfl⟩, hbelow⟩

theorem pathOf_iff {module : String} {path : Path} :
    r.PathOf g module path ↔
      stubPath module ((putAt (g.edits r.reflection cs) .empty).isPackage module) = .ok path := by
  constructor
  · rintro ⟨package, hpackage, hpath⟩
    have hsame : (putAt (g.edits r.reflection cs) .empty).isPackage module = package :=
      Bool.eq_iff_iff.mpr ((isPackage_iff h hcs).trans hpackage.symm)
    rw [hsame, hpath]
  · exact fun hpath => ⟨_, isPackage_iff h hcs, hpath⟩

/-- The place of a class that contributes is in the tree, with all names of its members, and with
nothing else if no other class contributes there. -/
theorem exists_at?_of_contributes {c b : ClassId} {name : String}
    (hc : r.Contributes g c b name) :
    ∃ n, (putAt (g.edits r.reflection cs) .empty).at? (Site.ofPath (r.get c).module name) =
        some n ∧
      (∀ x ∈ (r.added c b).names, x ∈ n.accessors.map Accessor.name) ∧
      ((∀ d b', r.Contributes g d b' name → (r.get d).module = (r.get c).module → d = c) →
        (r.added c b).ListedBy n.accessors) := by
  have he := (h.mem_edits_iff hcs).mpr ⟨c, b, name, hc, rfl⟩
  have hsome := (isSome_accessorsAt_putAt (g.edits r.reflection cs) .empty _ _).mpr
    (Or.inr ⟨_, he, rfl, List.prefix_rfl⟩)
  rw [accessorsAt_eq_map_at?, Option.isSome_map] at hsome
  obtain ⟨n, hn⟩ := Option.isSome_iff_exists.mp hsome
  have hheld : ((putAt (g.edits r.reflection cs) .empty).accessorsAt
      (Site.ofPath (r.get c).module name).module (Site.ofPath (r.get c).module name).path).getD [] =
      n.accessors := by
    rw [accessorsAt_eq_map_at?, hn]
    rfl
  refine ⟨n, hn, fun x hx => ?_, fun halone => ?_⟩
  · rw [Contribution.names_eq, List.mem_eraseDups] at hx
    exact hheld ▸ mem_map_name_of_mem he hx
  · have hsame : ∀ e' ∈ g.edits r.reflection cs,
        e'.1 = Site.ofPath (r.get c).module name → e'.2 = (r.added c b).accessors := by
      intro e' he' hsite
      obtain ⟨d, b', name', hd, rfl⟩ := (h.mem_edits_iff hcs).mp he'
      obtain ⟨hmodule, rfl⟩ := Site.ofPath_injective hsite
      obtain rfl := halone d b' hd hmodule
      obtain rfl := hc.nearest.unique hd.nearest
      rfl
    rw [← hheld, getD_accessorsAt_of_mem he hsame]
    exact (r.added c b).listedBy_putAll

theorem shows_of_contributes {m : ModuleNode}
    (hm : m ∈ (putAt (g.edits r.reflection cs) .empty).modules) {c b : ClassId} {name : String}
    (hc : r.Contributes g c b name) (hmodule : (r.get c).module = m.name) :
    ∃ as, Shows m.text (Text.segments name) as ∧
      (∀ x ∈ (r.added c b).names, x ∈ as.map Accessor.name) ∧
      ((∀ d b', r.Contributes g d b' name → (r.get d).module = (r.get c).module → d = c) →
        (r.added c b).ListedBy as) := by
  obtain ⟨n, hn, hnames, halone⟩ := exists_at?_of_contributes h hcs hc
  obtain ⟨k, hk, hname, before, after, hlines⟩ := lines_infix_of_at? hn
  rw [Site.module_ofPath, hmodule] at hname
  obtain rfl : k = m :=
    List.inj_on_of_nodup_map (distinct_empty.putAt (g.edits r.reflection cs)).modules hk hm hname
  refine ⟨n.accessors, ⟨n, before, after, ?_, rfl, ?_⟩, hnames, halone⟩
  · rw [← Site.path_ofPath (r.get c).module name]
    exact name_of_at? hn
  · have hlength : (Text.segments name).length - 1 =
        (Site.ofPath (r.get c).module name).nested.length := by
      rw [← Site.path_ofPath (r.get c).module name]
      rfl
    rw [hlength, hlines]
    rfl

/-- Of the modules that share a stub file, the one with the greatest name is in it. -/
theorem exists_keeps_of_contributes {files : Files}
    (hfiles : placeTexts (putAt (g.edits r.reflection cs) .empty).isPackage
      (putAt (g.edits r.reflection cs) .empty).sortedTexts = .ok files)
    {c b : ClassId} {name : String} (hc : r.Contributes g c b name) :
    ∃ path, r.PathOf g (r.get c).module path ∧
      ∃ m ∈ (putAt (g.edits r.reflection cs) .empty).modules, r.Keeps g path m.name ∧
        Files.text? path files = some m.text := by
  obtain ⟨m, hm, hname⟩ := List.mem_map.mp ((mem_modules_iff h hcs).mpr ⟨c, b, name, hc, rfl⟩)
  obtain ⟨path, hpath, k, hk, hkpath, htext, hgreatest⟩ := exists_kept hfiles hm
  rw [hname] at hpath
  refine ⟨path, (pathOf_iff h hcs).mpr hpath, k, hk, ?_, htext⟩
  constructor
  · exact (mem_modules_iff h hcs).mp (List.mem_map_of_mem hk)
  · exact (pathOf_iff h hcs).mpr hkpath
  · intro d b' name' hd hdpath
    obtain ⟨l, hl, hlname⟩ :=
      List.mem_map.mp ((mem_modules_iff h hcs).mpr ⟨d, b', name', hd, rfl⟩)
    rw [← hlname] at hdpath ⊢
    exact hgreatest l hl ((pathOf_iff h hcs).mp hdpath)

/-- There is a stub file for every module if and only if every contribution has a place. -/
theorem exists_files_iff :
    (∃ files, placeTexts (putAt (g.edits r.reflection cs) .empty).isPackage
      (putAt (g.edits r.reflection cs) .empty).sortedTexts = .ok files) ↔ r.Serviceable g := by
  rw [exists_placeTexts_iff]
  have hplace : ∀ module, HasPlace module
      ((putAt (g.edits r.reflection cs) .empty).isPackage module) ↔
      HasPlace module (r.Package g module) := by
    intro module
    rw [propext (isPackage_iff h hcs)]
  constructor
  · intro hall
    refine ⟨h, fun c b name hc => ?_⟩
    obtain ⟨m, hm, hname⟩ := List.mem_map.mp ((mem_modules_iff h hcs).mpr ⟨c, b, name, hc, rfl⟩)
    rw [← hname, ← hplace]
    exact hall _ (mem_sortedTexts.mpr ⟨m, hm, rfl⟩)
  · intro hserviceable item hitem
    obtain ⟨m, hm, rfl⟩ := mem_sortedTexts.mp hitem
    obtain ⟨c, b, name, hc, hmodule⟩ := (mem_modules_iff h hcs).mp (List.mem_map_of_mem hm)
    rw [hplace, ← hmodule]
    exact hserviceable.placed c b name hc

theorem answered_of_placeTexts {files : Files}
    (hfiles : placeTexts (putAt (g.edits r.reflection cs) .empty).isPackage
      (putAt (g.edits r.reflection cs) .empty).sortedTexts = .ok files) (hnodup : cs.Nodup)
    (hsorted : cs.Pairwise fun c d => (r.nameOf? c).getD "" ≤ (r.nameOf? d).getD "") :
    r.Answered g files (g.notes r.reflection cs) := by
  constructor
  · classical
    refine ⟨cs.filter fun c => ¬ ∃ b, r.Nearest g c b, ?_, hnodup.filter _, fun c => ?_,
      hsorted.filter _⟩
    · simp only [h.notes_eq fun c hc => (hcs c).mp hc, failure_stray]
    · rw [List.mem_filter, hcs, decide_eq_true_eq]
  · intro c b name hc
    obtain ⟨path, hpath, m, hm, hkeeps, htext⟩ := exists_keeps_of_contributes h hcs hfiles hc
    exact ⟨path, m.name, m.text, hpath, hkeeps, htext, shows_of_contributes h hcs hm hc⟩

end Tree

theorem Candidate.eq_of_fatal? (htexts : r.TextNames) {c : ClassId} (hc : r.Candidate g c)
    {f : Fault} (hf : (g.verdict r.reflection c).fatal? = some f) : f = .emptyClassPath := by
  rcases hc.verdict_cases htexts with ⟨-, hv⟩ | ⟨b, name, -, hv⟩ | ⟨-, hv⟩
  · rw [hv] at hf
    simp [Verdict.fatal?, Verdict.outcome] at hf
  · rw [hv] at hf
    split at hf
    · exact (Option.some.inj hf).symm
    · simp [Verdict.fatal?, Verdict.outcome] at hf
  · rw [hv] at hf
    simp [Verdict.fatal?, Verdict.outcome, strayFault, Fault.family,
      Fault.Family.isCompilation] at hf

theorem settled_of_unnamed (htexts : r.TextNames) {cs : List ClassId}
    (hcs : ∀ c, c ∈ cs ↔ r.Candidate g c) {c b : ClassId} (hc : r.Contributes g c b "")
    (built : Build) : g.settled r.reflection cs built = .error .emptyClassPath := by
  have hv : (g.verdict r.reflection c).fatal? = some .emptyClassPath := by
    rw [verdict_of_nearest htexts hc.nearest hc.name, if_neg hc.adds]
    rfl
  cases hfirst : g.firstFatal? r.reflection cs with
  | none =>
      have hnone := GeneratorCompiler.fatal?_eq_none_of_firstFatal? _ _ hfirst c
        ((hcs c).mpr hc.candidate)
      simp [hv] at hnone
  | some f =>
      obtain ⟨d, hd, hf⟩ := List.exists_of_findSome?_eq_some hfirst
      obtain rfl := ((hcs d).mp hd).eq_of_fatal? htexts hf
      rw [GeneratorCompiler.settled, hfirst]

/-- A registry is serviceable if each of its classes has a name, bases that come to an end and a
module that has a place. -/
theorem serviceable_of_forall (htexts : r.TextNames)
    (h : ∀ c ∈ r.registered, (r.get c).name.bind Label.text? ≠ some "" ∧ (r.ancestors c).isOk ∧
      (stubPath (r.get c).module false).isOk) : r.Serviceable g where
  texts := htexts
  chains := fun _ c hc _ => exists_chain_iff.mpr (h c hc).2.1
  named := by
    intro c b name hc hempty
    apply (h c hc.candidate.registered).1
    rw [hc.name, hempty]
    rfl
  placed := by
    intro c b name hc
    have hisOk := (h c hc.candidate.registered).2.2
    cases hpath : stubPath (r.get c).module false with
    | error f => simp [hpath, Except.isOk, Except.toBool] at hisOk
    | ok path =>
        obtain ⟨last, hlast, hslash⟩ := stubPath_ok_iff.mp ⟨path, hpath⟩
        exact ⟨last, hlast, Or.inr (hslash.resolve_left Bool.false_ne_true)⟩

end StaticRegistry

namespace Service

open StaticRegistry

variable {compile : PatternCompiler} {q : StubRequest} {r : StaticRegistry} {g : GeneratorCompiler}

/-- What a registry comes to under some settings: its candidates are selected and worked off one
after another, then the tree is written. -/
def response (r : StaticRegistry) (g : GeneratorCompiler) :
    Except Fault (Files × List Failure) := do
  let cs ← g.selected r.reflection
  let built ← g.settled r.reflection cs .empty
  let files ← placeTexts built.tree.isPackage built.tree.sortedTexts
  pure (files, built.failures)

theorem generate_gives_response (compile : PatternCompiler) (q : StubRequest) :
    (generate compile q).Gives (ofPayload q.payload >>= fun r =>
      GeneratorCompiler.ofSettings compile q.rootClass q.builtinNamespaces >>= response r) := by
  unfold generate
  refine (Attempt.gives_ofExcept _).bind fun r => (Attempt.gives_ofExcept _).bind fun g => ?_
  have hbuild := (Compiler.build_one_gives g r.reflection).bind fun built =>
    (render_gives built.tree).bind fun files => Attempt.gives_pure (files, built.failures)
  refine hbuild.congr ?_
  unfold response
  cases g.selected r.reflection <;> rfl

theorem generate_gives (hr : ofPayload q.payload = .ok r)
    (hg : GeneratorCompiler.ofSettings compile q.rootClass q.builtinNamespaces = .ok g) :
    (generate compile q).Gives (response r g) :=
  (generate_gives_response compile q).congr (by rw [hr, ok_bind, hg, ok_bind])

/-- If the candidates can be found and processed, writing decides on the answer. -/
theorem generate_gives_of_workable (hr : ofPayload q.payload = .ok r)
    (hg : GeneratorCompiler.ofSettings compile q.rootClass q.builtinNamespaces = .ok g)
    (h : r.Workable g) :
    ∃ cs, (∀ c, c ∈ cs ↔ r.Candidate g c) ∧ cs.Nodup ∧
      (cs.Pairwise fun c d => (r.nameOf? c).getD "" ≤ (r.nameOf? d).getD "") ∧
      (generate compile q).Gives ((placeTexts (putAt (g.edits r.reflection cs) .empty).isPackage
        (putAt (g.edits r.reflection cs) .empty).sortedTexts).map fun files =>
          (files, g.notes r.reflection cs)) := by
  obtain ⟨cs, hselected, hcs, hnodup, hsorted⟩ := selected_of_chains h.texts h.chains
  have hsettled := (h.isolated fun c hc => (hcs c).mp hc).settled Build.empty
  refine ⟨cs, hcs, hnodup (lists_of_payload hr).nodup, hsorted, (generate_gives hr hg).congr ?_⟩
  rw [response, hselected]
  change (g.settled r.reflection cs .empty >>= _) = _
  rw [hsettled]
  change (placeTexts (putAt (g.edits r.reflection cs) .empty).isPackage
    (putAt (g.edits r.reflection cs) .empty).sortedTexts >>= _) = _
  cases placeTexts (putAt (g.edits r.reflection cs) .empty).isPackage
    (putAt (g.edits r.reflection cs) .empty).sortedTexts <;> rfl

theorem refused_of_cycle (hr : ofPayload q.payload = .ok r)
    (hg : GeneratorCompiler.ofSettings compile q.rootClass q.builtinNamespaces = .ok g)
    {root c : ClassId} (hroot : r.lookup g.root = some root) (hc : c ∈ r.registered)
    (hown : r.isOwn g c) (h : ¬ ∃ above, r.Chain (r.get c).base above) :
    ∃ i, (generate compile q).Gives (.error (.inheritanceCycle (r.get i).shown)) := by
  obtain ⟨i, hselected⟩ :=
    selected_of_not_chain (lists_of_payload hr).texts hroot hc hown h
  refine ⟨i, (generate_gives hr hg).congr ?_⟩
  rw [response, hselected]
  rfl

theorem refused_of_unnamed (hr : ofPayload q.payload = .ok r)
    (hg : GeneratorCompiler.ofSettings compile q.rootClass q.builtinNamespaces = .ok g)
    (hchains : (r.lookup g.root).isSome → ∀ c ∈ r.registered, r.isOwn g c →
      ∃ above, r.Chain (r.get c).base above) {c b : ClassId} (hc : r.Contributes g c b "") :
    (generate compile q).Gives (.error .emptyClassPath) := by
  have htexts : r.TextNames := (lists_of_payload hr).texts
  obtain ⟨cs, hselected, hcs, -, -⟩ := selected_of_chains htexts hchains
  refine (generate_gives hr hg).congr ?_
  rw [response, hselected]
  change (g.settled r.reflection cs .empty >>= _) = _
  rw [settled_of_unnamed htexts hcs hc]
  rfl

theorem refused_of_not_serviceable (hr : ofPayload q.payload = .ok r)
    (hg : GeneratorCompiler.ofSettings compile q.rootClass q.builtinNamespaces = .ok g)
    (h : ¬ r.Serviceable g) : ∃ f, (generate compile q).Gives (.error f) ∧ f.family = .value := by
  by_cases hchains : (r.lookup g.root).isSome → ∀ c ∈ r.registered, r.isOwn g c →
      ∃ above, r.Chain (r.get c).base above
  · by_cases hnamed : ∀ c b name, r.Contributes g c b name → name ≠ ""
    · have hworkable : r.Workable g := ⟨(lists_of_payload hr).texts, hchains, hnamed⟩
      obtain ⟨cs, hcs, -, -, hgives⟩ := generate_gives_of_workable hr hg hworkable
      cases hfiles : placeTexts (putAt (g.edits r.reflection cs) .empty).isPackage
          (putAt (g.edits r.reflection cs) .empty).sortedTexts with
      | ok files => exact (h ((exists_files_iff hworkable hcs).mp ⟨files, hfiles⟩)).elim
      | error f =>
          rw [hfiles] at hgives
          exact ⟨f, hgives, placeTexts_error hfiles⟩
    · push Not at hnamed
      obtain ⟨c, b, name, hc, rfl⟩ := hnamed
      exact ⟨.emptyClassPath, refused_of_unnamed hr hg hchains hc, rfl⟩
  · push Not at hchains
    obtain ⟨hroot, c, hc, hown, hnone⟩ := hchains
    obtain ⟨root, hroot⟩ := Option.isSome_iff_exists.mp hroot
    obtain ⟨i, hgives⟩ := refused_of_cycle hr hg hroot hc hown (by simpa using hnone)
    exact ⟨.inheritanceCycle (r.get i).shown, hgives, rfl⟩

/-- A request whose patterns can be read is answered if nothing keeps it from being answered, and
then the answer is complete. Otherwise it is refused, whatever its other classes are. -/
theorem generate_of_request (hr : ofPayload q.payload = .ok r)
    (hg : GeneratorCompiler.ofSettings compile q.rootClass q.builtinNamespaces = .ok g) :
    (r.Serviceable g → ∃ files failures, (generate compile q).Gives (.ok (files, failures)) ∧
      r.Answered g files failures) ∧
    (¬ r.Serviceable g → ∃ f, (generate compile q).Gives (.error f) ∧ f.family = .value) := by
  refine ⟨fun h => ?_, refused_of_not_serviceable hr hg⟩
  obtain ⟨cs, hcs, hnodup, hsorted, hgives⟩ := generate_gives_of_workable hr hg h.toWorkable
  obtain ⟨files, hfiles⟩ := (exists_files_iff h.toWorkable hcs).mpr h
  rw [hfiles] at hgives
  exact ⟨files, g.notes r.reflection cs, hgives,
    answered_of_placeTexts h.toWorkable hcs hfiles hnodup hsorted⟩

/-- Patterns in which no character is given by its name. -/
def plainPatterns : PatternCompiler := Pattern.compile fun _ => none

/-- A request for two classes below a built-in one, the second of them with a base to be chosen. -/
def rebasedRequest (base : String) : StubRequest where
  classes := [⟨"lib", some "Root", none, [], []⟩,
    ⟨"app", some "Good", some "lib.Root", [], [("size", [(.text "type", .text "numeric")])]⟩,
    ⟨"app", some "Other", some base, [], []⟩]
  rootClass := some "lib.Root"
  builtinNamespaces := ["^lib[.]"]

theorem generate_of_request_of_rebased :
    (∃ r g files failures, ofPayload (rebasedRequest "app.Good").payload = .ok r ∧
      r.Serviceable g ∧
      (generate plainPatterns (rebasedRequest "app.Good")).Gives (.ok (files, failures)) ∧
      r.Answered g files failures) ∧
    ∃ r g f, ofPayload (rebasedRequest "app.Other").payload = .ok r ∧ ¬ r.Serviceable g ∧
      (generate plainPatterns (rebasedRequest "app.Other")).Gives (.error f) ∧
      f.family = .value := by
  have hsettings : (GeneratorCompiler.ofSettings plainPatterns (some "lib.Root")
      ["^lib[.]"]).toOption.any fun g => g.root = "lib.Root" ∧ ! g.isBuiltin "app.Other" := by
    decide +kernel
  obtain ⟨g, hg, hcompiler⟩ := exists_eq_ok_of_any hsettings
  obtain ⟨hroot, hother⟩ := of_decide_eq_true hcompiler
  constructor
  · have hpayload : (ofPayload (rebasedRequest "app.Good").payload).toOption.any fun r =>
        ∀ c ∈ r.registered, (r.get c).name.bind Label.text? ≠ some "" ∧ (r.ancestors c).isOk ∧
          (stubPath (r.get c).module false).isOk := by decide +kernel
    obtain ⟨r, hr, hclasses⟩ := exists_eq_ok_of_any hpayload
    have h : r.Serviceable g :=
      serviceable_of_forall (lists_of_payload hr).texts (of_decide_eq_true hclasses)
    obtain ⟨files, failures, hgives, hanswered⟩ := (generate_of_request hr hg).1 h
    exact ⟨r, g, files, failures, hr, h, hgives, hanswered⟩
  · have hpayload : (ofPayload (rebasedRequest "app.Other").payload).toOption.any fun r =>
        (r.lookup "lib.Root").isSome ∧ 2 ∈ r.registered ∧ r.nameOf? 2 = some "app.Other" ∧
          ¬ (r.ancestors 2).isOk := by decide +kernel
    obtain ⟨r, hr, hclasses⟩ := exists_eq_ok_of_any hpayload
    obtain ⟨hlookup, hregistered, hname, hcycle⟩ := of_decide_eq_true hclasses
    have h : ¬ r.Serviceable g := by
      intro h
      have hown : r.isOwn g 2 := by
        rw [isOwn, hname]
        exact hother
      exact hcycle (exists_chain_iff.mp (h.chains (hroot ▸ hlookup) 2 hregistered hown))
    obtain ⟨f, hgives, hfamily⟩ := (generate_of_request hr hg).2 h
    exact ⟨r, g, f, hr, h, hgives, hfamily⟩

end Service

end TypeStubs
