import TypeStubs.Proofs.Verdict

/-!
# Candidates and bases

Selection takes classes from the walk one by one and sorts what it finds by name. The base of a
class is one of its ancestors.
-/

namespace TypeStubs.GeneratorCompiler

variable {C : Type} {g : GeneratorCompiler} {r : Reflection C}

/-! ## Bases -/

theorem mem_of_firstBuiltin? {above : List C} {b : C}
    (h : g.firstBuiltin? r above = .ok (some b)) : b ∈ above := by
  induction above with
  | nil => simp [firstBuiltin?] at h
  | cons a above ih =>
      rw [firstBuiltin?] at h
      split at h
      · exact List.mem_cons_of_mem a (ih h)
      · split at h
        · simp at h
        · obtain rfl := Option.some.inj (Except.ok.inj h)
          exact List.mem_cons_self
        · exact List.mem_cons_of_mem a (ih h)

theorem exists_ancestors_of_baseClass {c b : C} (h : g.baseClass r c = .ok b) :
    ∃ above, r.ancestors c = .ok above ∧ b ∈ above := by
  unfold baseClass at h
  obtain ⟨above, habove, h⟩ := bind_eq_ok_iff.mp h
  obtain ⟨found, hfound, h⟩ := bind_eq_ok_iff.mp h
  cases found with
  | none => simp [throw, throwThe, MonadExceptOf.throw] at h
  | some b' =>
      obtain rfl := Except.ok.inj h
      exact ⟨above, habove, mem_of_firstBuiltin? hfound⟩

/-! ## Selection -/

/-- The name by which candidates are sorted. -/
def sortName (r : Reflection C) (c : C) : String := ((r.name c).bind Label.text?).getD ""

/-- Some classes in the order of their names. -/
def inNameOrder (r : Reflection C) (cs : List C) : List C :=
  ((cs.map fun c => (sortName r c, c)).mergeSort fun a b => a.1 ≤ b.1).map Prod.snd

theorem inNameOrder_perm (cs : List C) : (inNameOrder r cs).Perm cs := by
  have hsecond : (cs.map fun c => (sortName r c, c)).map Prod.snd = cs := by
    rw [List.map_map]
    exact List.map_id _
  have hperm := (List.mergeSort_perm (cs.map fun c => (sortName r c, c))
    fun a b => a.1 ≤ b.1).map Prod.snd
  rwa [hsecond] at hperm

/-- The order is stable. -/
theorem filter_inNameOrder {cs : List C} {p : C → Bool}
    (h : ∀ c ∈ cs, ∀ d ∈ cs, p c → p d → sortName r c = sortName r d) :
    (inNameOrder r cs).filter p = cs.filter p := by
  have hstable := filter_mergeSort_key Prod.fst (cs.map fun c => (sortName r c, c))
    (fun x => p x.2) (by
      intro a ha b hb hpa hpb
      obtain ⟨c, hc, rfl⟩ := List.mem_map.mp ha
      obtain ⟨d, hd, rfl⟩ := List.mem_map.mp hb
      exact h c hc d hd hpa hpb)
  rw [inNameOrder, List.filter_map]
  change (List.filter (fun x : String × C => p x.2) _).map Prod.snd = _
  rw [hstable, List.filter_map, List.map_map]
  exact List.map_id _

theorem candidate?_eq_some {root c : C} {x : String × C}
    (h : g.candidate? r root c = .ok (some x)) :
    x = (sortName r c, c) ∧ r.isSubtype c root = .ok true := by
  unfold candidate? at h
  unfold sortName
  cases hname : r.name c with
  | none => simp [hname, pure, Except.pure] at h
  | some l =>
      rw [hname] at h
      obtain ⟨isBuiltin, -, h⟩ := bind_eq_ok_iff.mp h
      split at h
      · simp [pure, Except.pure] at h
      · obtain ⟨isBelow, hbelow, h⟩ := bind_eq_ok_iff.mp h
        cases isBelow with
        | true => exact ⟨(Option.some.inj (Except.ok.inj h)).symm, hbelow⟩
        | false => simp [pure, Except.pure] at h

/-- Is the class found to be a candidate? -/
def picks (g : GeneratorCompiler) (r : Reflection C) (root c : C) : Bool :=
  match g.candidate? r root c with
  | .ok (some _) => true
  | _ => false

theorem filterMap_of_mapM {root : C} {all : List C} {found : List (Option (String × C))}
    (h : all.mapM (g.candidate? r root) = .ok found) :
    found.filterMap id = (all.filter (g.picks r root)).map fun c => (sortName r c, c) := by
  have hall := mapM_eq_ok_iff.mp h
  clear h
  induction hall with
  | nil => rfl
  | @cons c x all found hx hall ih =>
      rw [List.filterMap_cons, List.filter_cons]
      cases x with
      | none =>
          have hpicks : g.picks r root c = false := by rw [picks, hx]
          rw [hpicks, ih]
          rfl
      | some y =>
          have hpicks : g.picks r root c = true := by rw [picks, hx]
          obtain ⟨rfl, -⟩ := candidate?_eq_some hx
          rw [hpicks, ih]
          rfl

theorem isSome_name_of_picks {root c : C} (h : g.picks r root c) : (r.name c).isSome := by
  cases hname : r.name c with
  | some l => rfl
  | none => simp [picks, candidate?, hname, pure, Except.pure] at h

/-- What is picked is below the root. -/
theorem isSubtype_of_picks {root c : C} (h : g.picks r root c) : r.isSubtype c root = .ok true := by
  unfold picks at h
  split at h
  · rename_i x hx
    exact (candidate?_eq_some hx).2
  · simp at h

theorem selected_of_mapM {root : C} (hroot : r.lookup g.root = some root)
    {found : List (Option (String × C))}
    (h : r.allClasses.mapM (g.candidate? r root) = .ok found) :
    g.selected r = .ok (inNameOrder r (r.allClasses.filter (g.picks r root))) := by
  unfold selected inNameOrder
  rw [← filterMap_of_mapM h]
  simp only [hroot, h]
  rfl

/-- Where no class is faulty, the candidates are the classes that are picked. -/
theorem selected_of_forall {root : C} (hroot : r.lookup g.root = some root)
    (h : ∀ c ∈ r.allClasses, ∃ x, g.candidate? r root c = .ok x) :
    g.selected r = .ok (inNameOrder r (r.allClasses.filter (g.picks r root))) := by
  cases hall : r.allClasses.mapM (g.candidate? r root) with
  | ok found => exact selected_of_mapM hroot hall
  | error f =>
      obtain ⟨c, hc, hf⟩ := mapM_error hall
      obtain ⟨x, hx⟩ := h c hc
      simp [hx] at hf

/-- What a selection tells: either there is no root, or no class is faulty. -/
theorem cases_of_selected {cs : List C} (h : g.selected r = .ok cs) :
    (r.lookup g.root = none ∧ cs = []) ∨
    ∃ root found, r.lookup g.root = some root ∧
      r.allClasses.mapM (g.candidate? r root) = .ok found ∧
      cs = inNameOrder r (r.allClasses.filter (g.picks r root)) := by
  cases hroot : r.lookup g.root with
  | none =>
      rw [selected, hroot] at h
      exact Or.inl ⟨rfl, (Except.ok.inj h).symm⟩
  | some root =>
      cases hall : r.allClasses.mapM (g.candidate? r root) with
      | error f => simp [selected, hroot, hall, bind, Except.bind] at h
      | ok found =>
          exact Or.inr ⟨root, found, rfl, hall,
            Except.ok.inj (h.symm.trans (selected_of_mapM hroot hall))⟩

theorem mem_inNameOrder_filter {root c : C} :
    c ∈ inNameOrder r (r.allClasses.filter (g.picks r root)) ↔
      c ∈ r.allClasses ∧ g.picks r root c := by
  rw [(inNameOrder_perm _).mem_iff, List.mem_filter]

theorem isSome_name_of_selected {cs : List C} (hselected : g.selected r = .ok cs) {c : C}
    (hc : c ∈ cs) : (r.name c).isSome := by
  obtain ⟨-, rfl⟩ | ⟨root, found, -, -, rfl⟩ := cases_of_selected hselected
  · simp at hc
  · exact isSome_name_of_picks (mem_inNameOrder_filter.mp hc).2

/-- Candidates of one name keep the order of the walk over all classes. -/
theorem filter_selected [DecidableEq C] {cs : List C} (h : g.selected r = .ok cs) {p : C → Bool}
    (hp : ∀ c ∈ cs, ∀ d ∈ cs, p c → p d → sortName r c = sortName r d) :
    cs.filter p = r.allClasses.filter fun c => c ∈ cs ∧ p c := by
  obtain ⟨-, rfl⟩ | ⟨root, found, -, -, rfl⟩ := cases_of_selected h
  · simp
  · have hsame : ∀ c ∈ r.allClasses.filter (g.picks r root),
        ∀ d ∈ r.allClasses.filter (g.picks r root), p c → p d →
          sortName r c = sortName r d := fun c hc d hd =>
      hp c (mem_inNameOrder_filter.mpr (List.mem_filter.mp hc)) d
        (mem_inNameOrder_filter.mpr (List.mem_filter.mp hd))
    rw [filter_inNameOrder hsame, List.filter_filter]
    refine List.filter_congr fun c hc => ?_
    rw [Bool.eq_iff_iff, decide_eq_true_eq, mem_inNameOrder_filter]
    simp [hc, and_comm]

end TypeStubs.GeneratorCompiler
