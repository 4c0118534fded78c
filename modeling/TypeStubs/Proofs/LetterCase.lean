import TypeStubs.Text.Case

/-!
# The case of letters

Lowering a text takes no notice of the case of its letters from `a` to `z`. Such a letter belongs to
a word whichever case it has, so that a sigma beside it is lowered alike.
-/

namespace TypeStubs.Text

/-- The characters are the same save for the case of letters from `a` to `z`. -/
def SameLetters (cs ds : List Char) : Prop := cs.map Char.toLower = ds.map Char.toLower

instance (cs ds : List Char) : Decidable (SameLetters cs ds) :=
  inferInstanceAs (Decidable (cs.map Char.toLower = ds.map Char.toLower))

/-! ## Single letters -/

theorem isUpper_iff {c : Char} : c.isUpper ↔ 65 ≤ c.toNat ∧ c.toNat ≤ 90 := by
  change decide (65 ≤ c.val ∧ c.val ≤ 90) = true ↔ _
  rw [decide_eq_true_iff]
  rfl

theorem isLower_iff {c : Char} : c.isLower ↔ 97 ≤ c.toNat ∧ c.toNat ≤ 122 := by
  change (decide (97 ≤ c.val) && decide (c.val ≤ 122)) = true ↔ _
  rw [Bool.and_eq_true, decide_eq_true_iff, decide_eq_true_iff]
  rfl

theorem isAlpha_iff {c : Char} :
    c.isAlpha ↔ 65 ≤ c.toNat ∧ c.toNat ≤ 90 ∨ 97 ≤ c.toNat ∧ c.toNat ≤ 122 := by
  change (c.isUpper || c.isLower) = true ↔ _
  rw [Bool.or_eq_true, isUpper_iff, isLower_iff]

theorem toNat_lt_of_isAlpha {c : Char} (h : c.isAlpha) : c.toNat < 0x80 := by
  rw [isAlpha_iff] at h
  omega

theorem isAlpha_toLower {c : Char} (h : c.isAlpha) : c.toLower.isAlpha := by
  have hletters : ∀ n < 0x80, (Char.ofNat n).isAlpha → (Char.ofNat n).toLower.isAlpha := by
    decide +kernel
  have hletter := hletters c.toNat (toNat_lt_of_isAlpha h)
  rw [Char.ofNat_toNat] at hletter
  exact hletter h

/-- Below a bound only the switches below it count. -/
theorem CharClass.contains_eq_foldl_take {k : CharClass} {n bound : Nat}
    (h : ∀ s ∈ k.switches.toList.drop n, bound ≤ s) {c : Char} (hc : c.toNat < bound) :
    k.contains c = (k.switches.toList.take n).foldl
      (fun inside s => if s ≤ c.toNat then !inside else inside) false := by
  have hrest : ∀ (ss : List Nat) (inside : Bool), (∀ s ∈ ss, bound ≤ s) →
      ss.foldl (fun inside s => if s ≤ c.toNat then !inside else inside) inside = inside := by
    intro ss inside hss
    induction ss with
    | nil => rfl
    | cons s ss ih =>
        have hs : ¬s ≤ c.toNat := Nat.not_le.mpr (Nat.lt_of_lt_of_le hc (hss s List.mem_cons_self))
        rw [List.foldl_cons, if_neg hs]
        exact ih fun t ht => hss t (List.mem_cons_of_mem s ht)
  rw [CharClass.contains, ← Array.foldl_toList, ← List.take_append_drop n k.switches.toList,
    List.foldl_append, hrest _ _ h, List.take_append_drop]

theorem isCaseIgnorable_of_isAlpha {c : Char} (h : c.isAlpha) : isCaseIgnorable c = false := by
  -- Only the first ten switches of the table lie below 0x80.
  have hhigh : ∀ s ∈ Table.caseIgnorable.switches.toList.drop 10, 0x80 ≤ s := by decide +kernel
  have hletters : ∀ n < 0x80, 65 ≤ n ∧ n ≤ 90 ∨ 97 ≤ n ∧ n ≤ 122 →
      (Table.caseIgnorable.switches.toList.take 10).foldl
        (fun inside s => if s ≤ n then !inside else inside) false = false := by
    decide +kernel
  rw [isCaseIgnorable, CharClass.contains_eq_foldl_take hhigh (toNat_lt_of_isAlpha h)]
  exact hletters c.toNat (toNat_lt_of_isAlpha h) (isAlpha_iff.mp h)

theorem toLower_of_not_isAlpha {c : Char} (h : ¬c.isAlpha) : c.toLower = c := by
  refine dif_neg fun hupper => h (isAlpha_iff.mpr (Or.inl ?_))
  exact hupper

theorem eq_or_isAlpha {c d : Char} (h : c.toLower = d.toLower) :
    c = d ∨ c.isAlpha ∧ d.isAlpha := by
  by_cases hc : c.isAlpha
  · by_cases hd : d.isAlpha
    · exact Or.inr ⟨hc, hd⟩
    · rw [toLower_of_not_isAlpha hd] at h
      exact (hd (h ▸ isAlpha_toLower hc)).elim
  · by_cases hd : d.isAlpha
    · rw [toLower_of_not_isAlpha hc] at h
      exact (hc (h ▸ isAlpha_toLower hd)).elim
    · rw [toLower_of_not_isAlpha hc, toLower_of_not_isAlpha hd] at h
      exact Or.inl h

section Pair

variable {c d : Char} (h : c.toLower = d.toLower)

include h

theorem isCased_congr : isCased c = isCased d := by
  rcases eq_or_isAlpha h with rfl | ⟨hc, hd⟩
  · rfl
  · simp [isCased, toNat_lt_of_isAlpha hc, toNat_lt_of_isAlpha hd, hc, hd]

theorem isCaseIgnorable_congr : isCaseIgnorable c = isCaseIgnorable d := by
  rcases eq_or_isAlpha h with rfl | ⟨hc, hd⟩
  · rfl
  · rw [isCaseIgnorable_of_isAlpha hc, isCaseIgnorable_of_isAlpha hd]

theorem lowerOne_congr : lowerOne c = lowerOne d := by
  rcases eq_or_isAlpha h with rfl | ⟨hc, hd⟩
  · rfl
  · rw [lowerOne, if_pos (toNat_lt_of_isAlpha hc), lowerOne, if_pos (toNat_lt_of_isAlpha hd), h]

/-- A character that is lowered by a rule of its own is no letter from `a` to `z`. -/
theorem toNat_eq_iff_of_le {n : Nat} (hn : 0x80 ≤ n) : c.toNat = n ↔ d.toNat = n := by
  rcases eq_or_isAlpha h with rfl | ⟨hc, hd⟩
  · rfl
  · have hclt := toNat_lt_of_isAlpha hc
    have hdlt := toNat_lt_of_isAlpha hd
    omega

end Pair

/-! ## Texts -/

theorem SameLetters.dropWhile {cs ds : List Char} (h : SameLetters cs ds) :
    SameLetters (cs.dropWhile isCaseIgnorable) (ds.dropWhile isCaseIgnorable) := by
  induction cs generalizing ds with
  | nil =>
      obtain rfl := List.map_eq_nil_iff.mp h.symm
      rfl
  | cons c cs ih =>
      obtain ⟨d, ds, rfl, hd, hds⟩ := List.map_eq_cons_iff.mp h.symm
      rw [List.dropWhile_cons, List.dropWhile_cons, isCaseIgnorable_congr hd]
      split
      · exact ih hds.symm
      · exact h

theorem SameLetters.nil_or_cons {cs ds : List Char} (h : SameLetters cs ds) :
    cs = [] ∧ ds = [] ∨
      ∃ c d cs' ds', cs = c :: cs' ∧ ds = d :: ds' ∧ c.toLower = d.toLower := by
  cases cs with
  | nil => exact Or.inl ⟨rfl, List.map_eq_nil_iff.mp h.symm⟩
  | cons c cs =>
      obtain ⟨d, ds, rfl, hd, -⟩ := List.map_eq_cons_iff.mp h.symm
      exact Or.inr ⟨c, d, cs, ds, rfl, rfl, hd.symm⟩

theorem endsWord_congr {before before' after after' : List Char} (h : SameLetters before before')
    (h' : SameLetters after after') : endsWord before after = endsWord before' after' := by
  rw [endsWord, endsWord]
  congr 1
  · obtain ⟨hnil, hnil'⟩ | ⟨c, d, cs, ds, hcons, hcons', hsame⟩ := h.dropWhile.nil_or_cons
    · rw [hnil, hnil']
    · rw [hcons, hcons']
      exact isCased_congr hsame
  · obtain ⟨hnil, hnil'⟩ | ⟨c, d, cs, ds, hcons, hcons', hsame⟩ := h'.dropWhile.nil_or_cons
    · rw [hnil, hnil']
    · rw [hcons, hcons']
      exact congrArg (!·) (isCased_congr hsame)

theorem lowerFrom_congr {cs ds before before' : List Char} (h : SameLetters cs ds)
    (hbefore : SameLetters before before') : lowerFrom before cs = lowerFrom before' ds := by
  induction cs generalizing ds before before' with
  | nil =>
      obtain rfl := List.map_eq_nil_iff.mp h.symm
      rfl
  | cons c cs ih =>
      obtain ⟨d, ds, rfl, hd, hds⟩ := List.map_eq_cons_iff.mp h.symm
      have hfront : SameLetters (c :: before) (d :: before') := by
        simp only [SameLetters, List.map_cons, hd]
        rw [show before.map Char.toLower = before'.map Char.toLower from hbefore]
      simp only [lowerFrom, toNat_eq_iff_of_le hd (n := 0x3A3) (by decide),
        toNat_eq_iff_of_le hd (n := 0x130) (by decide), lowerOne_congr hd,
        endsWord_congr hbefore hds.symm, ih hds.symm hfront]

theorem lower_congr {s t : String} (h : SameLetters s.toList t.toList) : lower s = lower t := by
  rw [lower, lower, lowerFrom_congr h rfl]

end TypeStubs.Text
