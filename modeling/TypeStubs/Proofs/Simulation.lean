import TypeStubs.Proofs.Candidates
import TypeStubs.Proofs.Rendering

/-!
# Two views of the same classes

One reflection mirrors part of another one if each class of the part has an image that answers
every question alike. A compiler then does the same with both.
-/

namespace TypeStubs

variable {C D : Type}

/-- Each class that is shown has an image; the images have the same names, places, ancestors and
declarations. -/
structure Reflection.Mirrors (r : Reflection C) (shown : C → Prop) (image : C → D)
    (r' : Reflection D) : Prop where
  name : ∀ c, shown c → r'.name (image c) = r.name c
  moduleOf : ∀ c, shown c → r'.moduleOf (image c) = r.moduleOf c
  described : ∀ c, shown c → (r.name c).isSome → r'.described (image c) = r.described c
  ancestors : ∀ c, shown c → ∃ above, r.ancestors c = .ok above ∧ (∀ d ∈ above, shown d) ∧
    r'.ancestors (image c) = .ok (above.map image)
  isSubtype : ∀ c d, shown c → shown d → r'.isSubtype (image c) (image d) = r.isSubtype c d
  arguments : ∀ c, shown c → (r'.arguments (image c)).outcome = (r.arguments c).outcome
  options : ∀ c, shown c → (r'.options (image c)).outcome = (r.options c).outcome

namespace Reflection.Mirrors

variable {r : Reflection C} {r' : Reflection D} {shown : C → Prop} {image : C → D}
  {g : GeneratorCompiler}

open GeneratorCompiler

/-! ## One class -/

theorem classPath (h : r.Mirrors shown image r') {c : C} (hc : shown c) :
    r'.classPath (image c) = r.classPath c := by
  rw [Reflection.classPath, Reflection.classPath, h.name c hc, h.moduleOf c hc]

theorem sortName (h : r.Mirrors shown image r') {c : C} (hc : shown c) :
    sortName r' (image c) = sortName r c := by
  rw [GeneratorCompiler.sortName, GeneratorCompiler.sortName, h.name c hc]

theorem firstBuiltin? (h : r.Mirrors shown image r') {above : List C}
    (habove : ∀ d ∈ above, shown d) :
    g.firstBuiltin? r' (above.map image) = (g.firstBuiltin? r above).map (Option.map image) := by
  induction above with
  | nil => rfl
  | cons d above ih =>
      have hrest := ih fun e he => habove e (List.mem_cons_of_mem d he)
      rw [List.map_cons, GeneratorCompiler.firstBuiltin?, GeneratorCompiler.firstBuiltin?,
        h.name d (habove d List.mem_cons_self)]
      cases r.name d with
      | none => exact hrest
      | some l =>
          dsimp only
          cases g.isBuiltinLabel l with
          | error f => rfl
          | ok isBuiltin =>
              cases isBuiltin with
              | true => rfl
              | false => exact hrest

theorem baseClass (h : r.Mirrors shown image r') {c : C} (hc : shown c)
    (hname : (r.name c).isSome) :
    g.baseClass r' (image c) = (g.baseClass r c).map image := by
  obtain ⟨above, habove, hshown, habove'⟩ := h.ancestors c hc
  unfold GeneratorCompiler.baseClass
  rw [habove, habove', h.described c hc hname]
  simp only [bind, Except.bind, h.firstBuiltin? hshown]
  cases g.firstBuiltin? r above with
  | error f => rfl
  | ok found => cases found <;> rfl

theorem shown_of_baseClass (h : r.Mirrors shown image r') {c b : C} (hc : shown c)
    (hbase : g.baseClass r c = .ok b) : shown b := by
  obtain ⟨above, habove, hshown, -⟩ := h.ancestors c hc
  obtain ⟨above', habove', hb⟩ := exists_ancestors_of_baseClass hbase
  obtain rfl := Except.ok.inj (habove.symm.trans habove')
  exact hshown b hb

theorem contribution (h : r.Mirrors shown image r') {c b : C} (hc : shown c) (hb : shown b) :
    (contribution r' (image c) (image b)).outcome = (contribution r c b).outcome := by
  unfold GeneratorCompiler.contribution
  simp only [Reading.outcome_bind, h.arguments c hc, h.arguments b hb, h.options c hc,
    h.options b hb]

theorem placing (h : r.Mirrors shown image r') {c : C} (hc : shown c) (added : Contribution) :
    r'.placing (image c) added = r.placing c added := by
  unfold Reflection.placing
  rw [h.classPath hc, h.moduleOf c hc]

/-- A named class and its image are judged alike. -/
theorem verdict (h : r.Mirrors shown image r') {c : C} (hc : shown c)
    (hname : (r.name c).isSome) : g.verdict r' (image c) = g.verdict r c := by
  unfold GeneratorCompiler.verdict
  rw [h.baseClass hc hname]
  cases hbase : g.baseClass r c with
  | error f => rfl
  | ok b =>
      have hb : shown b := h.shown_of_baseClass hc hbase
      simp only [Except.map, h.contribution hc hb, h.placing hc, unreadable,
        h.described c hc hname]

theorem failure (h : r.Mirrors shown image r') {c : C} (hc : shown c)
    (hname : (r.name c).isSome) (f : Fault) :
    Compiler.failure r' (.generators g) (image c) f = Compiler.failure r (.generators g) c f := by
  unfold Compiler.failure Compiler.failedClass
  rw [h.described c hc hname]
  rfl

/-! ## A run -/

theorem notes (h : r.Mirrors shown image r') {cs : List C}
    (hcs : ∀ c ∈ cs, shown c ∧ (r.name c).isSome) :
    g.notes r' (cs.map image) = g.notes r cs := by
  unfold GeneratorCompiler.notes
  rw [List.filterMap_map]
  refine List.filterMap_congr fun c hc => ?_
  rw [Function.comp_apply, h.verdict (hcs c hc).1 (hcs c hc).2]
  cases (g.verdict r c).noted? with
  | none => rfl
  | some f => rw [Option.map_some, Option.map_some, h.failure (hcs c hc).1 (hcs c hc).2]

theorem edits (h : r.Mirrors shown image r') {cs : List C}
    (hcs : ∀ c ∈ cs, shown c ∧ (r.name c).isSome) :
    g.edits r' (cs.map image) = g.edits r cs := by
  unfold GeneratorCompiler.edits
  rw [List.filterMap_map]
  refine List.filterMap_congr fun c hc => ?_
  rw [Function.comp_apply, h.verdict (hcs c hc).1 (hcs c hc).2]

theorem settled (h : r.Mirrors shown image r') {cs : List C}
    (hcs : ∀ c ∈ cs, shown c ∧ (r.name c).isSome) (b : Build) :
    g.settled r' (cs.map image) b = g.settled r cs b := by
  have hverdict : ∀ c ∈ cs, g.verdict r' (image c) = g.verdict r c :=
    fun c hc => h.verdict (hcs c hc).1 (hcs c hc).2
  have hfatal : g.firstFatal? r' (cs.map image) = g.firstFatal? r cs := by
    unfold firstFatal?
    clear hcs
    induction cs with
    | nil => rfl
    | cons c cs ih =>
        rw [List.map_cons, List.findSome?_cons, List.findSome?_cons,
          hverdict c List.mem_cons_self, ih fun d hd => hverdict d (List.mem_cons_of_mem c hd)]
  have hleaves : g.leaves r' (cs.map image) b.tree = g.leaves r cs b.tree := by
    unfold leaves
    rw [List.foldl_map]
    exact List.foldl_ext _ _ _ fun t c hc => by rw [hverdict c hc]
  unfold GeneratorCompiler.settled
  rw [hfatal, hleaves, h.notes hcs]

/-! ## Selection -/

theorem candidate? (h : r.Mirrors shown image r') {root c : C} (hroot : shown root)
    (hc : shown c) : g.candidate? r' (image root) (image c) =
      (g.candidate? r root c).map (Option.map (Prod.map id image)) := by
  unfold GeneratorCompiler.candidate?
  rw [h.name c hc, h.isSubtype c root hc hroot]
  cases r.name c with
  | none => rfl
  | some l =>
      dsimp only
      cases g.isBuiltinLabel l with
      | error f => rfl
      | ok isBuiltin =>
          cases isBuiltin with
          | true => rfl
          | false =>
              cases r.isSubtype c root with
              | error f => rfl
              | ok isBelow => cases isBelow <;> rfl

theorem picks (h : r.Mirrors shown image r') {root c : C} (hroot : shown root) (hc : shown c) :
    g.picks r' (image root) (image c) = g.picks r root c := by
  unfold GeneratorCompiler.picks
  rw [h.candidate? hroot hc]
  cases g.candidate? r root c with
  | error f => rfl
  | ok x => cases x <;> rfl

/-- Where names tell classes apart, it does not matter in which order images are found. -/
theorem inNameOrder (h : r.Mirrors shown image r') {cs : List C} {ds : List D}
    (hperm : ds.Perm (cs.map image)) (hcs : ∀ c ∈ cs, shown c)
    (hnames : (cs.map (GeneratorCompiler.sortName r)).Nodup) :
    inNameOrder r' ds = (inNameOrder r cs).map image := by
  have hkeys : (cs.map image).map (fun d => (GeneratorCompiler.sortName r' d, d)) =
      (cs.map fun c => (GeneratorCompiler.sortName r c, c)).map (Prod.map id image) := by
    rw [List.map_map, List.map_map]
    refine List.map_congr_left fun c hc => ?_
    rw [Function.comp_apply, h.sortName (hcs c hc)]
    rfl
  have hsorted := pairwise_mergeSort_key Prod.fst
    (cs.map fun c => (GeneratorCompiler.sortName r c, c))
  have hsorted' := pairwise_mergeSort_key Prod.fst
    (ds.map fun d => (GeneratorCompiler.sortName r' d, d))
  have hsame : (ds.map fun d => (GeneratorCompiler.sortName r' d, d)).Perm
      ((cs.map fun c => (GeneratorCompiler.sortName r c, c)).map (Prod.map id image)) :=
    hkeys ▸ hperm.map _
  have heq : (ds.map fun d => (GeneratorCompiler.sortName r' d, d)).mergeSort
      (fun a b => a.1 ≤ b.1) =
      ((cs.map fun c => (GeneratorCompiler.sortName r c, c)).mergeSort
        fun a b => a.1 ≤ b.1).map (Prod.map id image) := by
    apply eq_of_perm_of_pairwise_name
    · refine (List.mergeSort_perm _ _).trans (hsame.trans ?_)
      exact ((List.mergeSort_perm _ _).map _).symm
    · rw [((List.mergeSort_perm _ _).map Prod.fst).nodup_iff, (hsame.map Prod.fst).nodup_iff,
        List.map_map, List.map_map]
      exact hnames
    · exact hsorted'
    · rw [List.pairwise_map]
      exact hsorted
  rw [GeneratorCompiler.inNameOrder, GeneratorCompiler.inNameOrder, heq, List.map_map, List.map_map]
  rfl

/-- If the images are all there is on one side, and on the other side no class without an image is a
candidate, the candidates on both sides correspond. -/
theorem selected (h : r.Mirrors shown image r') [DecidablePred shown] {root : C}
    (hroot : shown root) (hlookup : r.lookup g.root = some root)
    (hlookup' : r'.lookup g.root = some (image root))
    (hok : ∀ c ∈ r.allClasses, ∃ x, g.candidate? r root c = .ok x)
    (hshown : ∀ c, g.picks r root c → shown c) (hnodup : r.allClasses.Nodup)
    (hall : r'.allClasses.Perm ((r.allClasses.filter fun c => shown c).map image))
    (hdistinct : ∀ c d, shown c → shown d → (r.name c).isSome →
      GeneratorCompiler.sortName r c = GeneratorCompiler.sortName r d → c = d) :
    ∃ cs, g.selected r = .ok cs ∧ g.selected r' = .ok (cs.map image) ∧
      ∀ c ∈ cs, shown c ∧ (r.name c).isSome := by
  have hok' : ∀ d ∈ r'.allClasses, ∃ x, g.candidate? r' (image root) d = .ok x := by
    intro d hd
    obtain ⟨c, hc, rfl⟩ := List.mem_map.mp (hall.mem_iff.mp hd)
    obtain ⟨hc, hcshown⟩ := List.mem_filter.mp hc
    obtain ⟨x, hx⟩ := hok c hc
    refine ⟨x.map (Prod.map id image), ?_⟩
    rw [h.candidate? hroot (of_decide_eq_true hcshown), hx]
    rfl
  have hpicked : (r'.allClasses.filter (g.picks r' (image root))).Perm
      ((r.allClasses.filter (g.picks r root)).map image) := by
    refine (hall.filter _).trans (List.Perm.of_eq ?_)
    rw [List.filter_map, List.filter_filter]
    refine congrArg (List.map image) (List.filter_congr fun c _ => ?_)
    rw [Function.comp_apply]
    by_cases hc : shown c
    · rw [h.picks hroot hc, decide_eq_true hc, Bool.and_true]
    · have hnot : g.picks r root c = false := by
        rw [← Bool.not_eq_true]
        exact fun hp => hc (hshown c hp)
      rw [decide_eq_false hc, Bool.and_false, hnot]
  have hmem : ∀ c ∈ r.allClasses.filter (g.picks r root), shown c ∧ (r.name c).isSome :=
    fun c hc => ⟨hshown c (List.mem_filter.mp hc).2, isSome_name_of_picks (List.mem_filter.mp hc).2⟩
  have hnames : ((r.allClasses.filter (g.picks r root)).map
      (GeneratorCompiler.sortName r)).Nodup := by
    refine (List.nodup_map_iff_inj_on (hnodup.filter _)).mpr fun c hc d hd heq => ?_
    exact hdistinct c d (hmem c hc).1 (hmem d hd).1 (hmem c hc).2 heq
  refine ⟨_, selected_of_forall hlookup hok, ?_, fun c hc => ?_⟩
  · rw [selected_of_forall hlookup' hok', h.inNameOrder hpicked (fun c hc => (hmem c hc).1) hnames]
  · exact hmem c ((inNameOrder_perm _).mem_iff.mp hc)

end Reflection.Mirrors

end TypeStubs
