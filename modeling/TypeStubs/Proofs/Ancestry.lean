import Mathlib.Data.List.Perm.Subperm
import TypeStubs.Scaffold.Ancestry

/-!
# Merged rows

A merge takes the classes of its rows one after another. It keeps the order of every row, brings in
nothing else, and holds no class twice.
-/

namespace TypeStubs.Scaffold

/-- The steps of a merge: a class that stands at the front of a row and further back in none is
taken off all rows. -/
inductive Merged : List (List Nat) → List Nat → Prop
  | done {rows : List (List Nat)} (h : ∀ row ∈ rows, row = []) : Merged rows []
  | step {rows : List (List Nat)} {c : Nat} {out : List Nat}
      (hfront : ∃ row ∈ rows, row.head? = some c) (hnext : mayComeNext rows c)
      (h : Merged (advance c rows) out) : Merged rows (c :: out)

theorem merged_of_mergeRows {fuel : Nat} {rows : List (List Nat)} {out : List Nat}
    (h : mergeRows fuel rows = some out) : Merged rows out := by
  induction fuel generalizing rows out with
  | zero =>
      rw [mergeRows] at h
      split at h
      · rename_i hempty
        obtain rfl := Option.some.inj h
        exact .done (by simpa using hempty)
      · simp at h
  | succ fuel ih =>
      rw [mergeRows] at h
      split at h
      · rename_i hempty
        obtain rfl := Option.some.inj h
        exact .done (by simpa using hempty)
      · split at h
        · simp at h
        · rename_i c hfind
          obtain ⟨rest, hrest, rfl⟩ := Option.map_eq_some_iff.mp h
          have hfront : ∃ row ∈ rows, row.head? = some c :=
            List.mem_filterMap.mp (List.mem_of_find?_eq_some hfind)
          exact .step hfront (List.find?_some hfind) (ih hrest)

theorem not_mem_drop_of_mayComeNext {rows : List (List Nat)} {c : Nat}
    (h : mayComeNext rows c) {row : List Nat} (hrow : row ∈ rows) : c ∉ row.drop 1 := by
  have hall := List.all_eq_true.mp h row hrow
  simpa using hall

theorem mem_advance {rows : List (List Nat)} {c : Nat} {row : List Nat} :
    row ∈ advance c rows ↔
      ∃ old ∈ rows, row = if old.head? = some c then old.drop 1 else old := by
  unfold advance
  rw [List.mem_map]
  simp only [eq_comm]

namespace Merged

variable {rows : List (List Nat)} {out : List Nat}

/-- Every row keeps its order. -/
theorem sublist (h : Merged rows out) : ∀ row ∈ rows, row.Sublist out := by
  induction h with
  | done h =>
      intro row hrow
      rw [h row hrow]
  | @step rows c out hfront hnext h ih =>
      intro row hrow
      have hrest := ih _ (mem_advance.mpr ⟨row, hrow, rfl⟩)
      by_cases hhead : row.head? = some c
      · obtain ⟨tail, rfl⟩ : ∃ tail, row = c :: tail := List.head?_eq_some_iff.mp hhead
        rw [if_pos hhead] at hrest
        exact hrest.cons_cons c
      · rw [if_neg hhead] at hrest
        exact hrest.cons c

theorem mem_iff (h : Merged rows out) {d : Nat} : d ∈ out ↔ ∃ row ∈ rows, d ∈ row := by
  constructor
  · intro hd
    induction h with
    | done h => simp at hd
    | @step rows c out hfront hnext h ih =>
        rcases List.mem_cons.mp hd with rfl | hd
        · obtain ⟨row, hrow, hhead⟩ := hfront
          exact ⟨row, hrow, List.mem_of_head? hhead⟩
        · obtain ⟨row, hrow, hmem⟩ := ih hd
          obtain ⟨old, hold, rfl⟩ := mem_advance.mp hrow
          refine ⟨old, hold, ?_⟩
          split at hmem
          · exact List.mem_of_mem_drop hmem
          · exact hmem
  · rintro ⟨row, hrow, hd⟩
    exact (h.sublist row hrow).subset hd

/-- The class that is taken is gone from all rows. -/
theorem nodup (h : Merged rows out) : out.Nodup := by
  induction h with
  | done h => exact List.nodup_nil
  | @step rows c out hfront hnext h ih =>
      refine List.nodup_cons.mpr ⟨?_, ih⟩
      intro hmem
      obtain ⟨row, hrow, hc⟩ := h.mem_iff.mp hmem
      obtain ⟨old, hold, rfl⟩ := mem_advance.mp hrow
      have hback := not_mem_drop_of_mayComeNext hnext hold
      split at hc
      · exact hback hc
      · rename_i hhead
        cases old with
        | nil => simp at hc
        | cons d tail =>
            rcases List.mem_cons.mp hc with rfl | hc
            · exact hhead rfl
            · exact hback hc

end Merged

theorem merged_of_ancestry?_eq {bases : List Nat} {rowOf : Nat → List Nat} {out : List Nat}
    (h : ancestry? bases rowOf = some out) : Merged (bases.map rowOf ++ [bases]) out := by
  unfold ancestry? at h
  split at h
  · exact merged_of_mergeRows h
  · simp at h

theorem mem_ancestry?_iff {bases : List Nat} {rowOf : Nat → List Nat} {out : List Nat}
    (h : ancestry? bases rowOf = some out) {d : Nat} :
    d ∈ out ↔ d ∈ bases ∨ ∃ b ∈ bases, d ∈ rowOf b := by
  rw [(merged_of_ancestry?_eq h).mem_iff]
  constructor
  · rintro ⟨row, hrow, hd⟩
    rcases List.mem_append.mp hrow with hrow | hrow
    · obtain ⟨b, hb, rfl⟩ := List.mem_map.mp hrow
      exact Or.inr ⟨b, hb, hd⟩
    · exact Or.inl (List.mem_singleton.mp hrow ▸ hd)
  · rintro (hd | ⟨b, hb, hd⟩)
    · exact ⟨bases, by simp, hd⟩
    · exact ⟨rowOf b, List.mem_append_left _ (List.mem_map_of_mem hb), hd⟩

/-- A class with one base has the base's row above it. -/
theorem ancestry?_singleton {b : Nat} {rowOf : Nat → List Nat} {out : List Nat}
    (h : ancestry? [b] rowOf = some out) (hb : b ∈ rowOf b) : out = rowOf b := by
  have hmerged := merged_of_ancestry?_eq h
  have hsub : (rowOf b).Sublist out := hmerged.sublist _ (by simp)
  have hmem : out ⊆ rowOf b := by
    intro d hd
    rcases (mem_ancestry?_iff h).mp hd with hd | ⟨b', hb', hd⟩
    · rwa [List.mem_singleton.mp hd]
    · rwa [← List.mem_singleton.mp hb']
  have hle : out.length ≤ (rowOf b).length :=
    (List.subperm_of_subset hmerged.nodup hmem).length_le
  exact (hsub.eq_of_length_le hle).symm

theorem mergeRows_cons {fuel c : Nat} {row : List Nat} {rows : List (List Nat)}
    (h : mayComeNext ((c :: row) :: rows) c) :
    mergeRows (fuel + 1) ((c :: row) :: rows) =
      (mergeRows fuel (row :: advance c rows)).map (c :: ·) := by
  simp [mergeRows, h, advance]

/-- A row that is merged with nothing else stays as it is. -/
theorem mergeRows_single {fuel : Nat} {row : List Nat} (hfuel : row.length ≤ fuel)
    (h : row.Nodup) : mergeRows fuel [row, []] = some row := by
  induction row generalizing fuel with
  | nil => cases fuel <;> rfl
  | cons c row ih =>
      obtain ⟨hc, hrow⟩ := List.nodup_cons.mp h
      obtain ⟨fuel, rfl⟩ : ∃ n, fuel = n + 1 := Nat.exists_eq_add_one_of_ne_zero (by
        rintro rfl
        simp at hfuel)
      have hnext : mayComeNext [c :: row, []] c := by simp [mayComeNext, hc]
      rw [mergeRows_cons hnext]
      simp [advance, ih (Nat.le_of_succ_le_succ hfuel) hrow]

/-- A class can be put below any one base. -/
theorem ancestry?_of_nodup {b : Nat} {rowOf : Nat → List Nat} {above : List Nat}
    (hb : rowOf b = b :: above) (h : (rowOf b).Nodup) : ancestry? [b] rowOf = some (rowOf b) := by
  rw [hb] at h ⊢
  obtain ⟨hmem, habove⟩ := List.nodup_cons.mp h
  have hnext : mayComeNext [b :: above, [b]] b := by simp [mayComeNext, hmem]
  have hfuel : [b :: above, [b]].flatten.length = above.length + 1 + 1 := by simp
  have hrest : mergeRows (above.length + 1) [above, []] = some above :=
    mergeRows_single (Nat.le_succ _) habove
  unfold ancestry?
  rw [if_pos (by simp), List.map_singleton, hb, List.singleton_append, hfuel, mergeRows_cons hnext]
  simp [advance, hrest]

end TypeStubs.Scaffold
