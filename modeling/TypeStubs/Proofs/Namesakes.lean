import TypeStubs.Proofs.Candidates
import TypeStubs.Proofs.Isolation
import TypeStubs.Proofs.Restoring

/-!
# Classes of one place

Several live classes may have the same module and path. What stands at their place when a build is
done is what each of them puts there by itself, set one after another in the order of the walk over
all classes.
-/

namespace TypeStubs

open ClassNode StubTree Scaffold

/-! ## Places -/

section Places

variable {C : Type}

def Reflection.SharesPlace (r : Reflection C) (c d : C) : Prop :=
  r.moduleOf d = r.moduleOf c ∧ r.textPath d = r.textPath c

instance (r : Reflection C) (c d : C) : Decidable (r.SharesPlace c d) :=
  inferInstanceAs (Decidable (_ ∧ _))

/-- The accessors that a tree has at the place of a class. -/
def Reflection.accessorsOf (r : Reflection C) (t : StubTree) (c : C) : List Accessor :=
  match r.textPath c with
  | none => []
  | some path => ((t.get? (r.moduleOf c) path).map ClassNode.accessors).getD []

theorem Reflection.accessorsOf_eq {r : Reflection C} {c : C} {path : String}
    (h : r.textPath c = some path) (t : StubTree) :
    r.accessorsOf t c = (t.accessorsAt (r.moduleOf c) (Text.segments path)).getD [] := by
  rw [accessorsOf, h, accessorsAt_eq_map_get?]

namespace GeneratorCompiler

variable (g : GeneratorCompiler) (r : Reflection C)

/-- The accessors of a class that is processed into an empty tree. -/
def alone (c : C) : List Accessor :=
  r.accessorsOf ((g.process r c).perform ⟨.empty, #[]⟩).2.tree c

/-- The accessors that are set for a class, one after another. -/
def given (c : C) : List Accessor := ((g.verdict r c).edit?.map Prod.snd).getD []

variable {g r}

theorem edit?_cases (c : C) :
    ((g.verdict r c).edit? = none ∧ g.given r c = []) ∨
      ∃ path, r.textPath c = some path ∧
        (g.verdict r c).edit? = some (Site.ofPath (r.moduleOf c) path, g.given r c) := by
  unfold given
  cases hv : g.verdict r c with
  | stub s added =>
      obtain ⟨-, path, hpath, rfl⟩ := verdict_eq_stub hv
      exact Or.inr ⟨path, hpath, rfl⟩
  | nothing => exact Or.inl ⟨rfl, rfl⟩
  | fault f => exact Or.inl ⟨rfl, rfl⟩
  | stuck module f => exact Or.inl ⟨rfl, rfl⟩

/-- What is set at the place of a class is what is given by the classes that share the place. -/
theorem flatten_setAt_edits {c : C} {path : String} (hpath : r.textPath c = some path)
    (cs : List C) :
    (setAt (g.edits r cs) (r.moduleOf c) (Text.segments path)).flatten =
      (cs.filter fun d => r.SharesPlace c d).flatMap (g.given r) := by
  induction cs with
  | nil => rfl
  | cons d cs ih =>
      unfold edits setAt at ih ⊢
      rw [List.filterMap_cons, List.filter_cons]
      rcases edit?_cases (g := g) (r := r) d with ⟨hnone, hnil⟩ | ⟨path', hpath', hsome⟩
      · rw [hnone, ih]
        split <;> simp [hnil]
      · have hsite : (r.moduleOf c = (Site.ofPath (r.moduleOf d) path').module ∧
            Text.segments path = (Site.ofPath (r.moduleOf d) path').path) ↔ r.SharesPlace c d := by
          rw [Site.module_ofPath, Site.path_ofPath, Reflection.SharesPlace, hpath, hpath']
          constructor
          · rintro ⟨hmodule, hsegments⟩
            exact ⟨hmodule.symm, by rw [Text.segments_injective hsegments]⟩
          · rintro ⟨hmodule, hsame⟩
            exact ⟨hmodule.symm, by rw [Option.some.inj hsame]⟩
        rw [hsome]
        dsimp only
        rw [List.filter_cons]
        simp only [hsite]
        split
        · rw [List.map_cons, List.flatten_cons, ih, List.flatMap_cons]
        · exact ih

theorem accessorsOf_putAt_edits (c : C) (cs : List C) :
    r.accessorsOf (putAt (g.edits r cs) .empty) c =
      putAll ((cs.filter fun d => r.SharesPlace c d).flatMap (g.given r)) [] := by
  cases hpath : r.textPath c with
  | some path =>
      rw [Reflection.accessorsOf_eq hpath, getD_accessorsAt_putAt, foldl_putAll,
        flatten_setAt_edits hpath]
      rfl
  | none =>
      have hnil : (cs.filter fun d => r.SharesPlace c d).flatMap (g.given r) = [] := by
        apply List.flatMap_eq_nil_iff.mpr
        intro d hd
        have hplace : r.SharesPlace c d := by simpa using (List.mem_filter.mp hd).2
        rcases edit?_cases (g := g) (r := r) d with ⟨-, hnil⟩ | ⟨path, hsome, -⟩
        · exact hnil
        · exact absurd (hsome.symm.trans (hplace.2.trans hpath)) (by simp)
      rw [hnil, Reflection.accessorsOf, hpath]
      rfl

theorem alone_eq {c : C} (h : (g.verdict r c).fatal? = none) :
    g.alone r c = putAll (g.given r c) [] := by
  have hone := accessorsOf_putAt_edits (g := g) (r := r) c [c]
  have hself : r.SharesPlace c c := ⟨rfl, rfl⟩
  rw [List.filter_cons_of_pos (by simpa using hself), List.filter_nil,
    List.flatMap_singleton] at hone
  rw [alone, (g.process_does r c _).2, ← hone]
  change r.accessorsOf ((g.verdict r c).leaves .empty) c = _
  rw [leaves_of_not_fatal h]
  unfold edits
  rw [List.filterMap_cons]
  cases (g.verdict r c).edit? <;> rfl

end GeneratorCompiler

end Places

/-! ## Live classes -/

namespace Live

variable {u : Universe} {names : AttributeNames}

theorem qualifiedName_eq {k : LiveClass} {l : Label} (h : qualifiedName k = some l) :
    l = .text (k.module.plain ++ "." ++ k.path) := by
  unfold qualifiedName at h
  split at h
  · simp at h
  · split at h
    · simp at h
    · exact (Option.some.inj h).symm

/-- A class is known by its module and its path: together they are its name. -/
theorem name_eq_of_textPath {c : Nat} {path : String}
    (h : (reflection u names).textPath c = some path) :
    (reflection u names).name c = some (.text
      (if (moduleOf (u.get c)).isEmpty then path else moduleOf (u.get c) ++ "." ++ path)) := by
  unfold Reflection.textPath Reflection.classPath at h
  change ((qualifiedName (u.get c)).map _).bind _ = _ at h
  change qualifiedName (u.get c) = _
  cases hname : qualifiedName (u.get c) with
  | none => simp [hname] at h
  | some l =>
      obtain rfl := qualifiedName_eq hname
      rw [hname] at h
      change Label.text? (if (moduleOf (u.get c)).isEmpty then _ else _) = some path at h
      by_cases hempty : (moduleOf (u.get c)).isEmpty
      · rw [if_pos hempty] at h ⊢
        obtain rfl := Option.some.inj h
        rfl
      · have hmodule : moduleOf (u.get c) = (u.get c).module.plain := by
          unfold moduleOf at hempty ⊢
          split at hempty
          · rename_i htrue
            rw [if_pos htrue]
          · simp at hempty
        have hreflected : (reflection u names).moduleOf c = moduleOf (u.get c) := rfl
        rw [if_neg hempty] at h ⊢
        rw [hreflected, ← hmodule, Text.afterStart?_append] at h
        obtain rfl := Option.some.inj h
        rw [hmodule]
        rfl

theorem name_eq_none_of_textPath {c : Nat} (h : (reflection u names).textPath c = none) :
    (reflection u names).name c = none := by
  cases hpath : (reflection u names).classPath c with
  | none => exact Option.map_eq_none_iff.mp hpath
  | some path =>
      rw [Reflection.textPath, hpath] at h
      exact (text?_classPath hpath h).elim

/-- Classes that share a place have one name. -/
theorem sortName_of_sharesPlace {c d : Nat} (h : (reflection u names).SharesPlace c d) :
    GeneratorCompiler.sortName (reflection u names) d =
      GeneratorCompiler.sortName (reflection u names) c := by
  have hmodule : moduleOf (u.get d) = moduleOf (u.get c) := h.1
  unfold GeneratorCompiler.sortName
  cases hpath : (reflection u names).textPath c with
  | none => rw [name_eq_none_of_textPath hpath, name_eq_none_of_textPath (h.2.trans hpath)]
  | some path => rw [name_eq_of_textPath hpath, name_eq_of_textPath (h.2.trans hpath), hmodule]

/-- The candidates that share the place of a class, in the order of the walk over all classes. -/
def namesakes (u : Universe) (names : AttributeNames) (cs : List Nat) (c : Nat) : List Nat :=
  u.allClasses.filter fun d => d ∈ cs ∧ (reflection u names).SharesPlace c d

end Live

open GeneratorCompiler in
/-- The accessors at the place of a candidate are those that each candidate of this place puts there
alone, set one class after another in the order of the walk over all classes. So each name stands
where it first came up and has the type it was given last. They are the candidate's own if and only
if the names come to the same and the last type of each is the candidate's. -/
theorem build_merges_namesakes {u : Universe} {names : AttributeNames} {g : GeneratorCompiler}
    {cs : List Nat} {built : Build} (hcs : g.selected (Live.reflection u names) = .ok cs)
    (hbuilt : (BoundCompiler.build (Compiler.bound (Live.reflection u names) [.generators g])).Gives
      (.ok built)) (c : Nat) :
    let r := Live.reflection u names
    let merged := (Live.namesakes u names cs c).flatMap (g.alone r)
    r.accessorsOf built.tree c = putAll merged [] ∧
    (r.accessorsOf built.tree c).map Accessor.name = (merged.map Accessor.name).eraseDups ∧
    (∀ a ∈ r.accessorsOf built.tree c, lastNamed? a.name merged = some a) ∧
    (r.accessorsOf built.tree c = g.alone r c ↔
      (merged.map Accessor.name).eraseDups = (g.alone r c).map Accessor.name ∧
        ∀ a ∈ g.alone r c, lastNamed? a.name merged = some a) := by
  intro r merged
  have hgives := Compiler.build_one_gives g r
  have hsettled : g.settled r cs .empty = .ok built := by
    have heq := (hgives #[]).symm.trans (hbuilt #[])
    rw [hcs] at heq
    exact heq
  have hfirst : g.firstFatal? r cs = none := by
    unfold settled at hsettled
    split at hsettled
    · simp at hsettled
    · assumption
  have hfatal := fatal?_eq_none_of_firstFatal? g r hfirst
  have htree : built.tree = putAt (g.edits r cs) .empty := by
    unfold settled at hsettled
    rw [hfirst] at hsettled
    obtain rfl := Except.ok.inj hsettled
    exact leaves_eq_putAt hfatal .empty
  have hgroup : (cs.filter fun d => r.SharesPlace c d) = Live.namesakes u names cs c := by
    rw [Live.namesakes, filter_selected hcs]
    · exact List.filter_congr fun d _ => by simp [r]
    · intro d hd e he hdplace heplace
      rw [Live.sortName_of_sharesPlace (of_decide_eq_true hdplace),
        Live.sortName_of_sharesPlace (of_decide_eq_true heplace)]
  have hmerged : r.accessorsOf built.tree c = putAll merged [] := by
    have halone : ∀ d ∈ Live.namesakes u names cs c, g.alone r d = putAll (g.given r d) [] := by
      intro d hd
      have hmem := (List.mem_filter.mp hd).2
      exact alone_eq (hfatal d (of_decide_eq_true hmem).1)
    rw [htree, accessorsOf_putAt_edits, hgroup, ← putAll_flatMap_putAll_nil]
    exact congrArg (putAll · []) (List.flatMap_congr fun d hd => (halone d hd).symm)
  have hnames : (r.accessorsOf built.tree c).map Accessor.name =
      (merged.map Accessor.name).eraseDups := by
    rw [hmerged, map_name_putAll_nil]
  have hlast : ∀ a ∈ r.accessorsOf built.tree c, lastNamed? a.name merged = some a := by
    intro a ha
    rw [hmerged] at ha
    exact lastNamed?_of_mem_putAll ha
  refine ⟨hmerged, hnames, hlast, fun heq => ⟨?_, ?_⟩, fun ⟨hsame, htypes⟩ => ?_⟩
  · rw [← hnames, heq]
  · rwa [heq] at hlast
  · have hnodup : ((r.accessorsOf built.tree c).map Accessor.name).Nodup := by
      rw [hmerged]
      exact nodup_putAll merged (by simp)
    apply eq_of_names_of_named? (hnames.trans hsame) hnodup
    intro name
    cases halone : named? name (g.alone r c) with
    | some a =>
        have hname : a.name = name := by simpa using List.find?_some halone
        rw [hmerged, named?_putAll, ← hname, htypes a (List.mem_of_find?_eq_some halone)]
        rfl
    | none =>
        apply List.find?_eq_none.mpr
        intro a ha hname
        have hmem : a.name ∈ (g.alone r c).map Accessor.name := by
          rw [← hsame, ← hnames]
          exact List.mem_map_of_mem ha
        obtain ⟨b, hb, hba⟩ := List.mem_map.mp hmem
        have hne := List.find?_eq_none.mp halone b hb
        rw [hba] at hne
        exact hne hname

/-- A generator that is declared a second time with other members, while the first one is still
there. -/
def redeclared : Universe :=
  (builtIn.declare ⟨"app", "Report", [namedId],
    [bound .argument "size" .string none, bound .option "old" .boolean none]⟩).declare
    ⟨"app", "Report", [namedId], [bound .argument "size" .numeric none]⟩

theorem selected_redeclared :
    scaffoldCompiler.selected (Live.reflection redeclared .standard) = .ok [5, 4] := by
  have hroot : (Live.reflection redeclared .standard).lookup scaffoldCompiler.root = some 1 := by
    decide +kernel
  have hall : (Live.reflection redeclared .standard).allClasses = redeclared.allClasses := rfl
  have hany : (redeclared.allClasses.mapM
      (scaffoldCompiler.candidate? (Live.reflection redeclared .standard) 1)).toOption.any
        fun found => found.filterMap id = [("app.Report", 5), ("app.Report", 4)] := by
    decide +kernel
  obtain ⟨found, hfound, heq⟩ := exists_eq_ok_of_any hany
  have hsorted : [("app.Report", 5), ("app.Report", 4)].mergeSort
      (fun a b : String × Nat => a.1 ≤ b.1) = [("app.Report", 5), ("app.Report", 4)] :=
    List.mergeSort_of_pairwise (by decide)
  simp only [GeneratorCompiler.selected, hroot, hall, hfound, bind, Except.bind,
    of_decide_eq_true heq, hsorted]
  rfl

/-- The stub of the second class has the members of both, and the type the first one gave. -/
theorem build_merges_namesakes_of_redeclared :
    redeclared.lookup "app.Report" = some 5 ∧
    ∃ built, (BoundCompiler.build (Compiler.bound (Live.reflection redeclared .standard)
        [.generators scaffoldCompiler])).Gives (.ok built) ∧
      scaffoldCompiler.alone (Live.reflection redeclared .standard) 5 =
        [⟨"size", ⟨"float", false⟩⟩] ∧
      (Live.reflection redeclared .standard).accessorsOf built.tree 5 =
        [⟨"size", ⟨"str", false⟩⟩, ⟨"old", ⟨"bool", true⟩⟩] := by
  have hgives := Compiler.build_one_gives scaffoldCompiler (Live.reflection redeclared .standard)
  rw [selected_redeclared] at hgives
  have hfatal : scaffoldCompiler.firstFatal? (Live.reflection redeclared .standard) [5, 4] = none :=
    Option.isNone_iff_eq_none.mp (by decide +kernel)
  obtain ⟨built, hbuilt⟩ : ∃ built, scaffoldCompiler.settled (Live.reflection redeclared .standard)
      [5, 4] .empty = .ok built := ⟨_, by rw [GeneratorCompiler.settled, hfatal]⟩
  have hdone := hgives.congr hbuilt
  have hmerges := (build_merges_namesakes selected_redeclared hdone 5).1
  refine ⟨by decide +kernel, built, hdone, by decide +kernel, ?_⟩
  rw [hmerges]
  decide +kernel

end TypeStubs
