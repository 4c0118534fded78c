import Mathlib.Data.List.Perm.Subperm
import Mathlib.Data.List.Nodup
import TypeStubs.Registry.Static

/-!
# Chains of bases

Following bases from a class on either ends, with the list of the classes met, or runs into a
cycle. The walk through the store finds the former whenever it is there, and reports the latter
otherwise.
-/

namespace TypeStubs.StaticRegistry

variable {r : StaticRegistry}

theorem get_congr_store {r' : StaticRegistry} (h : r'.store = r.store) (i : ClassId) :
    r'.get i = r.get i := by
  rw [get, get, h]

/-- The classes met in following bases, nearest first. -/
inductive Chain (r : StaticRegistry) : Option ClassId → List ClassId → Prop
  | done : Chain r none []
  | next {i : ClassId} {above : List ClassId} (h : Chain r (r.get i).base above) :
      Chain r (some i) (i :: above)

namespace Chain

theorem unique {base : Option ClassId} {l l' : List ClassId} (h : r.Chain base l)
    (h' : r.Chain base l') : l = l' := by
  induction h generalizing l' with
  | done =>
      cases h'
      rfl
  | next h ih =>
      cases h' with
      | next h' => rw [ih h']

/-- Chains depend on the store alone. -/
theorem congr_store {r' : StaticRegistry} {base : Option ClassId} {l : List ClassId}
    (h : r.Chain base l) (hstore : r'.store = r.store) : r'.Chain base l := by
  induction h with
  | done => exact .done
  | @next i above h ih =>
      rw [← get_congr_store hstore] at ih
      exact .next ih

theorem above {base : Option ClassId} {front : List ClassId} {i : ClassId} {back : List ClassId}
    (h : r.Chain base (front ++ i :: back)) : r.Chain (r.get i).base back := by
  induction front generalizing base with
  | nil =>
      cases h with
      | next h => exact h
  | cons j front ih =>
      cases h with
      | next h => exact ih h

theorem not_mem {i : ClassId} {l : List ClassId} (h : r.Chain (r.get i).base l) : i ∉ l := by
  intro hi
  obtain ⟨front, back, rfl⟩ := List.append_of_mem hi
  have hlength := congrArg List.length (h.unique h.above)
  simp only [List.length_append, List.length_cons] at hlength
  omega

theorem nodup {base : Option ClassId} {l : List ClassId} (h : r.Chain base l) : l.Nodup := by
  induction h with
  | done => exact List.nodup_nil
  | next h ih => exact List.nodup_cons.mpr ⟨h.not_mem, ih⟩

theorem lt_size_of_base {i j : ClassId} (h : (r.get i).base = some j) : i < r.store.size := by
  by_contra hi
  have hblank : r.get i = .blank := by simp [get, Array.getElem?_eq_none (Nat.le_of_not_lt hi)]
  simp [hblank, SyntheticClass.blank] at h

theorem lt_size_of_mem_dropLast {base : Option ClassId} {l : List ClassId} (h : r.Chain base l) :
    ∀ i ∈ l.dropLast, i < r.store.size := by
  induction h with
  | done => simp
  | @next i above h ih =>
      cases hbase : (r.get i).base with
      | none =>
          rw [hbase] at h
          cases h
          simp
      | some j =>
          have hne : above ≠ [] := by
            rintro rfl
            rw [hbase] at h
            cases h
          intro k hk
          rw [List.dropLast_cons_of_ne_nil hne] at hk
          rcases List.mem_cons.mp hk with rfl | hk
          · exact lt_size_of_base hbase
          · exact ih k hk

/-- All classes of a chain but the last are in the store, so that a chain cannot be longer than the
store by more than one. -/
theorem length_le {base : Option ClassId} {l : List ClassId} (h : r.Chain base l) :
    l.length ≤ r.store.size + 1 := by
  have hsubset : l.dropLast ⊆ List.range r.store.size :=
    fun i hi => List.mem_range.mpr (h.lt_size_of_mem_dropLast i hi)
  have hnodup : l.dropLast.Nodup := h.nodup.sublist (List.dropLast_sublist l)
  have hle := (List.subperm_of_subset hnodup hsubset).length_le
  rw [List.length_dropLast, List.length_range] at hle
  omega

end Chain

/-! ## The walk -/

theorem climb_of_chain {start : ClassId} {base : Option ClassId} {l passed : List ClassId}
    {fuel : Nat} (h : r.Chain base l) (hstart : start ∉ l) (hpassed : ∀ i ∈ l, i ∉ passed)
    (hfuel : l.length ≤ fuel) : r.climb start fuel passed base = .ok (passed.reverse ++ l) := by
  induction h generalizing passed fuel with
  | done => cases fuel <;> simp [climb]
  | @next i above h ih =>
      cases fuel with
      | zero => simp at hfuel
      | succ fuel =>
          have hi : i ∉ passed := hpassed i List.mem_cons_self
          have hne : i ≠ start := fun heq => hstart (heq ▸ List.mem_cons_self)
          rw [climb, if_neg (by simp [hi, hne])]
          rw [ih (fun hmem => hstart (List.mem_cons_of_mem i hmem)) ?_
            (Nat.le_of_succ_le_succ hfuel)]
          · simp
          · intro j hj hmem
            rcases List.mem_cons.mp hmem with rfl | hmem
            · exact h.not_mem hj
            · exact hpassed j (List.mem_cons_of_mem i hj) hmem

theorem chain_of_climb {start : ClassId} {base : Option ClassId} {passed out : List ClassId}
    {fuel : Nat} (h : r.climb start fuel passed base = .ok out) :
    ∃ l, out = passed.reverse ++ l ∧ r.Chain base l := by
  induction fuel generalizing passed base with
  | zero =>
      cases base with
      | none =>
          obtain rfl := Except.ok.inj h
          exact ⟨[], (List.append_nil _).symm, .done⟩
      | some i => simp [climb] at h
  | succ fuel ih =>
      cases base with
      | none =>
          obtain rfl := Except.ok.inj h
          exact ⟨[], (List.append_nil _).symm, .done⟩
      | some i =>
          rw [climb] at h
          split at h
          · simp at h
          · obtain ⟨l, rfl, hl⟩ := ih h
            exact ⟨i :: l, by simp, .next hl⟩

/-- The walk gives the chain, and fails only if there is none. -/
theorem ancestors_eq_ok_iff {i : ClassId} {l : List ClassId} :
    r.ancestors i = .ok l ↔ r.Chain (r.get i).base l := by
  constructor
  · intro h
    obtain ⟨l', rfl, hl⟩ := chain_of_climb h
    exact hl
  · intro h
    exact climb_of_chain h h.not_mem (by simp) h.length_le

theorem climb_error {start : ClassId} {base : Option ClassId} {passed : List ClassId} {fuel : Nat}
    {f : Fault} (h : r.climb start fuel passed base = .error f) :
    ∃ i, f = .inheritanceCycle (r.get i).shown := by
  induction fuel generalizing passed base with
  | zero =>
      cases base with
      | none => simp [climb] at h
      | some i => exact ⟨i, (Except.error.inj h).symm⟩
  | succ fuel ih =>
      cases base with
      | none => simp [climb] at h
      | some i =>
          rw [climb] at h
          split at h
          · exact ⟨i, (Except.error.inj h).symm⟩
          · exact ih h

/-- A class without a chain has a cycle above it, and the walk reports a class of it. -/
theorem ancestors_error {i : ClassId} {f : Fault} (h : r.ancestors i = .error f) :
    ∃ j, f = .inheritanceCycle (r.get j).shown := climb_error h

theorem exists_chain_iff {i : ClassId} :
    (∃ l, r.Chain (r.get i).base l) ↔ (r.ancestors i).isOk := by
  constructor
  · rintro ⟨l, hl⟩
    rw [ancestors_eq_ok_iff.mpr hl]
    rfl
  · intro h
    cases hanc : r.ancestors i with
    | ok l => exact ⟨l, ancestors_eq_ok_iff.mp hanc⟩
    | error f => simp [hanc, Except.isOk, Except.toBool] at h

theorem isSubtype_of_chain {i j : ClassId} {l : List ClassId} (h : r.Chain (r.get i).base l) :
    r.isSubtype i j = .ok (l.contains j) := by
  rw [isSubtype, ancestors_eq_ok_iff.mpr h]
  rfl

end TypeStubs.StaticRegistry
