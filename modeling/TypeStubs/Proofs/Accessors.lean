import Mathlib.Data.List.Induction
import Mathlib.Data.List.Nodup
import TypeStubs.StubTree

/-!
# Lists of accessors

A list of accessors is filled by setting one accessor after another. Each name keeps the place at
which it first came up and has the type that was given to it last.
-/

namespace TypeStubs.ClassNode

def putAll (given done : List Accessor) : List Accessor :=
  given.foldl (fun done a => putAccessor a done) done

@[simp] theorem putAll_nil (done : List Accessor) : putAll [] done = done := rfl

@[simp] theorem putAll_cons (a : Accessor) (given done : List Accessor) :
    putAll (a :: given) done = putAll given (putAccessor a done) := rfl

theorem putAll_append (given more done : List Accessor) :
    putAll (given ++ more) done = putAll more (putAll given done) :=
  List.foldl_append

def named? (name : String) (as : List Accessor) : Option Accessor := as.find? (·.name == name)

def lastNamed? (name : String) (as : List Accessor) : Option Accessor :=
  (as.filter (·.name == name)).getLast?

/-! ## Setting one accessor -/

theorem named?_putAccessor (name : String) (a : Accessor) (done : List Accessor) :
    named? name (putAccessor a done) = if a.name = name then some a else named? name done := by
  induction done with
  | nil => by_cases h : a.name = name <;> simp [putAccessor, named?, h]
  | cons b rest ih =>
      unfold named? at ih ⊢
      by_cases hb : b.name = a.name
      · by_cases ha : a.name = name <;> simp [putAccessor, hb, ha]
      · rw [putAccessor, if_neg hb, List.find?_cons, ih, List.find?_cons]
        by_cases ha : a.name = name
        · have hne : (b.name == name) = false := beq_false_of_ne fun h => hb (h.trans ha.symm)
          simp [ha, hne]
        · simp [ha]

theorem map_name_putAccessor (a : Accessor) (done : List Accessor) :
    (putAccessor a done).map Accessor.name =
      if a.name ∈ done.map Accessor.name then done.map Accessor.name
      else done.map Accessor.name ++ [a.name] := by
  induction done with
  | nil => simp [putAccessor]
  | cons b rest ih =>
      by_cases hb : b.name = a.name
      · simp [putAccessor, hb]
      · have hb' : a.name ≠ b.name := Ne.symm hb
        simp only [putAccessor, hb, if_false, List.map_cons, ih, List.mem_cons, hb', false_or]
        split <;> rfl

theorem mem_map_name_putAccessor {name : String} {a : Accessor} {done : List Accessor} :
    name ∈ (putAccessor a done).map Accessor.name ↔
      name = a.name ∨ name ∈ done.map Accessor.name := by
  rw [map_name_putAccessor]
  split
  · rename_i hmem
    constructor
    · exact Or.inr
    · rintro (rfl | h)
      · exact hmem
      · exact h
  · rw [List.mem_append, List.mem_singleton, or_comm]

theorem mem_of_mem_putAccessor {a b : Accessor} {done : List Accessor}
    (h : a ∈ putAccessor b done) : a = b ∨ a ∈ done := by
  induction done with
  | nil => exact Or.inl (List.mem_singleton.mp h)
  | cons c rest ih =>
      rw [putAccessor] at h
      split at h
      · exact (List.mem_cons.mp h).imp_right (List.mem_cons_of_mem c)
      · rcases List.mem_cons.mp h with rfl | h
        · exact Or.inr List.mem_cons_self
        · exact (ih h).imp_right (List.mem_cons_of_mem c)

theorem nodup_putAccessor (a : Accessor) {done : List Accessor}
    (h : (done.map Accessor.name).Nodup) : ((putAccessor a done).map Accessor.name).Nodup := by
  rw [map_name_putAccessor]
  split
  · exact h
  · rename_i hmem
    exact h.append (List.nodup_singleton _) (List.disjoint_singleton.mpr hmem)

theorem putAccessor_again {a b : Accessor} (h : a.name = b.name) (done : List Accessor) :
    putAccessor a (putAccessor b done) = putAccessor a done := by
  induction done with
  | nil => simp [putAccessor, h]
  | cons c rest ih =>
      by_cases hc : c.name = b.name
      · simp [putAccessor, hc, h]
      · simp [putAccessor, hc, h, ih]

/-- Accessors of different names can be set in either order, if one of the names is there. -/
theorem putAccessor_comm {a b : Accessor} (hne : a.name ≠ b.name) {done : List Accessor}
    (ha : a.name ∈ done.map Accessor.name) :
    putAccessor a (putAccessor b done) = putAccessor b (putAccessor a done) := by
  induction done with
  | nil => simp at ha
  | cons c rest ih =>
      by_cases hb : c.name = b.name
      · have hca : c.name ≠ a.name := fun h => hne (h.symm.trans hb)
        simp [putAccessor, hb, Ne.symm hne]
      · by_cases hca : c.name = a.name
        · simp [putAccessor, hca, hne]
        · have hmem : a.name ∈ rest.map Accessor.name := by
            simpa [Ne.symm hca] using ha
          simp [putAccessor, hb, hca, ih hmem]

/-! ## Setting several accessors -/

theorem named?_putAll (name : String) (given done : List Accessor) :
    named? name (putAll given done) = (lastNamed? name given).or (named? name done) := by
  induction given generalizing done with
  | nil => rfl
  | cons a given ih =>
      rw [putAll_cons, ih, named?_putAccessor]
      unfold lastNamed?
      by_cases ha : a.name = name
      · cases hlast : (given.filter (·.name == name)).getLast? with
        | none =>
            have hnil : given.filter (·.name == name) = [] := List.getLast?_eq_none_iff.mp hlast
            simp [ha, hnil]
        | some b => simp [ha, List.getLast?_cons, hlast]
      · simp [ha]

theorem mem_map_name_putAll {name : String} {given done : List Accessor} :
    name ∈ (putAll given done).map Accessor.name ↔
      name ∈ given.map Accessor.name ∨ name ∈ done.map Accessor.name := by
  induction given generalizing done with
  | nil => simp
  | cons a given ih =>
      rw [putAll_cons, ih, mem_map_name_putAccessor, List.map_cons, List.mem_cons]
      tauto

theorem mem_of_mem_putAll {given done : List Accessor} {a : Accessor} (h : a ∈ putAll given done) :
    a ∈ given ∨ a ∈ done := by
  induction given generalizing done with
  | nil => exact Or.inr h
  | cons b given ih =>
      obtain hgiven | hdone := ih h
      · exact Or.inl (List.mem_cons_of_mem b hgiven)
      · obtain rfl | hdone := mem_of_mem_putAccessor hdone
        · exact Or.inl List.mem_cons_self
        · exact Or.inr hdone

theorem nodup_putAll (given : List Accessor) {done : List Accessor}
    (h : (done.map Accessor.name).Nodup) : ((putAll given done).map Accessor.name).Nodup := by
  induction given generalizing done with
  | nil => exact h
  | cons a given ih => exact ih (nodup_putAccessor a h)

theorem putAll_ne_nil {given : List Accessor} (h : given ≠ []) (done : List Accessor) :
    putAll given done ≠ [] := by
  obtain ⟨a, rest, rfl⟩ := List.exists_cons_of_ne_nil h
  have hmem : a.name ∈ (putAll (a :: rest) done).map Accessor.name :=
    mem_map_name_putAll.mpr (Or.inl List.mem_cons_self)
  intro hnil
  rw [hnil] at hmem
  exact List.not_mem_nil hmem

theorem map_name_putAll_of_subset {given done : List Accessor}
    (h : ∀ a ∈ given, a.name ∈ done.map Accessor.name) :
    (putAll given done).map Accessor.name = done.map Accessor.name := by
  induction given generalizing done with
  | nil => rfl
  | cons a given ih =>
      have ha : a.name ∈ done.map Accessor.name := h a List.mem_cons_self
      have hsame : (putAccessor a done).map Accessor.name = done.map Accessor.name := by
        rw [map_name_putAccessor, if_pos ha]
      rw [putAll_cons, ih, hsame]
      intro b hb
      rw [hsame]
      exact h b (List.mem_cons_of_mem a hb)

theorem eraseDups_concat {α : Type} [BEq α] [LawfulBEq α] (xs : List α) (x : α) :
    (xs ++ [x]).eraseDups = if x ∈ xs then xs.eraseDups else xs.eraseDups ++ [x] := by
  rw [List.eraseDups_append]
  by_cases hx : x ∈ xs
  · have hgone : List.removeAll [x] xs = [] := by simpa [List.removeAll] using hx
    simp [hgone, hx]
  · have hkept : List.removeAll [x] xs = [x] := by simpa [List.removeAll] using hx
    simp [hkept, hx, List.eraseDups_cons]

/-- The names of a list filled from nothing, in the order in which each first came up. -/
theorem map_name_putAll_nil (given : List Accessor) :
    (putAll given []).map Accessor.name = (given.map Accessor.name).eraseDups := by
  induction given using List.reverseRecOn with
  | nil => rfl
  | append_singleton given a ih =>
      rw [putAll_append, putAll_cons, putAll_nil, map_name_putAccessor, ih, List.map_append,
        List.map_singleton, eraseDups_concat]
      simp only [List.mem_eraseDups]

/-! ## Looking up the last one -/

theorem named?_of_mem {as : List Accessor} (hnodup : (as.map Accessor.name).Nodup) {a : Accessor}
    (ha : a ∈ as) : named? a.name as = some a := by
  unfold named?
  induction as with
  | nil => exact (List.not_mem_nil ha).elim
  | cons b rest ih =>
      rw [List.map_cons, List.nodup_cons] at hnodup
      rcases List.mem_cons.mp ha with rfl | ha
      · simp
      · have hne : (b.name == a.name) = false :=
          beq_false_of_ne fun heq => hnodup.1 (heq ▸ List.mem_map_of_mem ha)
        rw [List.find?_cons, hne]
        exact ih hnodup.2 ha

theorem lastNamed?_append (name : String) (as bs : List Accessor) :
    lastNamed? name (as ++ bs) = (lastNamed? name bs).or (lastNamed? name as) := by
  unfold lastNamed?
  rw [List.filter_append, List.getLast?_append]

theorem lastNamed?_map {α : Type} (name : String) (f : α → Accessor) (xs : List α) :
    lastNamed? name (xs.map f) = ((xs.filter fun x => (f x).name == name).getLast?).map f := by
  unfold lastNamed?
  rw [List.filter_map, List.getLast?_map]
  rfl

theorem lastNamed?_of_mem_putAll {given : List Accessor} {a : Accessor}
    (ha : a ∈ putAll given []) : lastNamed? a.name given = some a := by
  have hnodup : ((putAll given []).map Accessor.name).Nodup := nodup_putAll given (by simp)
  have hnamed := named?_of_mem hnodup ha
  rw [named?_putAll] at hnamed
  simpa [named?] using hnamed

/-! ## Filling a list twice -/

/-- A list in which no name comes twice is known by its names and the accessor of each. -/
theorem eq_of_names_of_named? {as bs : List Accessor}
    (hnames : as.map Accessor.name = bs.map Accessor.name) (hnodup : (as.map Accessor.name).Nodup)
    (hsame : ∀ name, named? name as = named? name bs) : as = bs := by
  induction as generalizing bs with
  | nil => exact (List.map_eq_nil_iff.mp hnames.symm).symm
  | cons a as ih =>
      cases bs with
      | nil => simp at hnames
      | cons b bs =>
          rw [List.map_cons, List.map_cons, List.cons.injEq] at hnames
          obtain ⟨hhead, htail⟩ := hnames
          rw [List.map_cons, List.nodup_cons] at hnodup
          have hab : a = b := by
            have h := hsame a.name
            simpa [named?, hhead] using h
          subst hab
          congr 1
          apply ih htail hnodup.2
          intro name
          by_cases hn : a.name = name
          · have hfresh : ∀ cs : List Accessor, cs.map Accessor.name = as.map Accessor.name →
                named? name cs = none := by
              intro cs hcs
              apply List.find?_eq_none.mpr
              intro c hc he
              apply hnodup.1
              rw [← hcs, hn, ← beq_iff_eq.mp he]
              exact List.mem_map_of_mem hc
            rw [hfresh as rfl, hfresh bs htail.symm]
          · simpa [named?, List.find?_cons, hn] using hsame name

theorem putAll_putAll (given : List Accessor) {done : List Accessor}
    (h : (done.map Accessor.name).Nodup) :
    putAll given (putAll given done) = putAll given done := by
  have hnames : (putAll given (putAll given done)).map Accessor.name =
      (putAll given done).map Accessor.name :=
    map_name_putAll_of_subset fun a ha =>
      mem_map_name_putAll.mpr (Or.inl (List.mem_map_of_mem ha))
  apply eq_of_names_of_named? hnames
  · rw [hnames]
    exact nodup_putAll given h
  · intro name
    rw [named?_putAll, named?_putAll]
    cases lastNamed? name given <;> rfl

theorem putAll_putAccessor {a : Accessor} {given : List Accessor}
    (hgiven : (given.map Accessor.name).Nodup) (done : List Accessor) :
    putAll (putAccessor a given) done = putAccessor a (putAll given done) := by
  have hcomm : ∀ {given done : List Accessor}, a.name ∉ given.map Accessor.name →
      a.name ∈ done.map Accessor.name →
      putAll given (putAccessor a done) = putAccessor a (putAll given done) := by
    intro given done hnot hmem
    induction given generalizing done with
    | nil => rfl
    | cons b given ih =>
        rw [List.map_cons, List.mem_cons, not_or] at hnot
        rw [putAll_cons, putAll_cons, ← putAccessor_comm hnot.1 hmem]
        exact ih hnot.2 (mem_map_name_putAccessor.mpr (Or.inr hmem))
  induction given generalizing done with
  | nil => rfl
  | cons b given ih =>
      rw [List.map_cons, List.nodup_cons] at hgiven
      by_cases hb : b.name = a.name
      · rw [putAccessor, if_pos hb, putAll_cons, putAll_cons, ← putAccessor_again hb.symm,
          hcomm (hb ▸ hgiven.1) (mem_map_name_putAccessor.mpr (Or.inl hb.symm))]
      · rw [putAccessor, if_neg hb, putAll_cons, putAll_cons, ih hgiven.2]

/-- Setting what a list is filled with is as good as setting the list it becomes. -/
theorem putAll_putAll_nil (given done : List Accessor) :
    putAll (putAll given []) done = putAll given done := by
  induction given using List.reverseRecOn with
  | nil => rfl
  | append_singleton given a ih =>
      rw [putAll_append, putAll_cons, putAll_nil, putAll_putAccessor (nodup_putAll given (by simp)),
        ih, putAll_append, putAll_cons, putAll_nil]

theorem putAll_flatMap_putAll_nil {α : Type} (given : α → List Accessor) (xs : List α)
    (done : List Accessor) :
    putAll (xs.flatMap fun x => putAll (given x) []) done = putAll (xs.flatMap given) done := by
  induction xs generalizing done with
  | nil => rfl
  | cons x xs ih =>
      rw [List.flatMap_cons, List.flatMap_cons, putAll_append, putAll_append, putAll_putAll_nil, ih]

theorem foldl_putAll (times : List (List Accessor)) (done : List Accessor) :
    times.foldl (fun done as => putAll as done) done = putAll times.flatten done := by
  induction times generalizing done with
  | nil => rfl
  | cons as times ih => rw [List.foldl_cons, ih, List.flatten_cons, putAll_append]

/-- However often the same accessors are set, the list is the one of the first time. -/
theorem foldl_putAll_replicate (given : List Accessor) {done : List Accessor}
    (h : (done.map Accessor.name).Nodup) {times : List (List Accessor)}
    (hsame : ∀ as ∈ times, as = given) (hne : times ≠ []) :
    times.foldl (fun done as => putAll as done) done = putAll given done := by
  induction times generalizing done with
  | nil => exact (hne rfl).elim
  | cons as times ih =>
      obtain rfl := hsame as List.mem_cons_self
      cases times with
      | nil => rfl
      | cons bs times =>
          rw [List.foldl_cons, ih (nodup_putAll as h)
            (fun cs hcs => hsame cs (List.mem_cons_of_mem as hcs)) (List.cons_ne_nil _ _),
            putAll_putAll as h]

end TypeStubs.ClassNode
