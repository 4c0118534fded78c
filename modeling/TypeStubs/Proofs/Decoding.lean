import Mathlib.Data.List.Basic
import Mathlib.Tactic.Tauto
import TypeStubs.Text.Utf8

/-!
# Bytes of characters

Decoding takes off the bytes of one character after another. What encodes a text decodes to it, and
the beginning of what decodes decodes to a beginning.
-/

namespace TypeStubs.Text.Utf8

/-- The bytes that stand for one character. -/
inductive Stands : List UInt8 → Char → Prop
  | one {a : UInt8} (ha : a < 0x80) : Stands [a] (Char.ofNat a.toNat)
  | two {a b : UInt8} (ha : ¬ a < 0xC2) (ha' : a < 0xE0) (hb : isTail b) :
      Stands [a, b] (Char.ofNat ((a.toNat % 32) * 64 + tailBits b))
  | three {a b c : UInt8} (ha : ¬ a < 0xE0) (ha' : a < 0xF0) (hb : isSecond a b) (hc : isTail c) :
      Stands [a, b, c] (Char.ofNat ((a.toNat % 16) * 4096 + tailBits b * 64 + tailBits c))
  | four {a b c d : UInt8} (ha : ¬ a < 0xF0) (ha' : a < 0xF5) (hb : isSecond a b)
      (hc : isTail c) (hd : isTail d) : Stands [a, b, c, d] (Char.ofNat
        ((a.toNat % 8) * 262144 + tailBits b * 4096 + tailBits c * 64 + tailBits d))

theorem lead_of_not_lt {a : UInt8} (h : ¬ a < 0xC2) (h' : a < 0xF5) :
    ¬ a < 0x80 ∧ (a < 0xC2 || 0xF5 ≤ a) = false := by grind

theorem decodeFrom_append {bytes : List UInt8} {c : Char} (h : Stands bytes c) (i : Nat)
    (rest : List UInt8) :
    decodeFrom i (bytes ++ rest) = .cons c (decodeFrom (i + bytes.length) rest) := by
  cases h with
  | one ha =>
      rw [List.singleton_append, decodeFrom.eq_def]
      simp only [ha, if_true, List.length_singleton]
  | @two a b ha ha' hb =>
      obtain ⟨hone, hbad⟩ := lead_of_not_lt (a := a) (by grind) (by grind)
      rw [List.cons_append, List.singleton_append, decodeFrom.eq_def]
      simp [hone, hbad, ha', hb]
  | @three a b c ha ha' hb hc =>
      obtain ⟨hone, hbad⟩ := lead_of_not_lt (a := a) (by grind) (by grind)
      rw [List.cons_append, List.cons_append, List.singleton_append, decodeFrom.eq_def]
      simp [hone, hbad, ha, ha', hb, hc]
  | @four a b c d ha ha' hb hc hd =>
      obtain ⟨hone, hbad⟩ := lead_of_not_lt (a := a) (by grind) (by grind)
      have htwo : ¬ a < 0xE0 := by grind
      rw [List.cons_append, List.cons_append, List.cons_append, List.singleton_append,
        decodeFrom.eq_def]
      simp [hone, hbad, htwo, ha, hb, hc, hd]

/-- Bytes begin with those of a character, or they cannot be read. -/
theorem decodeFrom_cases (i : Nat) {bytes : List UInt8} (hne : bytes ≠ []) :
    (∃ front rest c, bytes = front ++ rest ∧ Stands front c) ∨
      ∃ f, decodeFrom i bytes = ⟨[], some f⟩ := by
  -- The cases are the tests of the decoder: each failing one is a fault, the last passing one
  -- completes a character.
  obtain ⟨a, bytes, rfl⟩ := List.exists_cons_of_ne_nil hne
  by_cases hone : a < 0x80
  · exact Or.inl ⟨[a], bytes, _, rfl, .one hone⟩
  rw [decodeFrom.eq_def]
  simp only [hone, if_false]
  by_cases hbad : (a < 0xC2 || 0xF5 ≤ a) = true
  · rw [if_pos hbad]
    exact Or.inr ⟨_, rfl⟩
  rw [if_neg hbad]
  by_cases htwo : a < 0xE0
  · rw [if_pos htwo]
    match bytes with
    | [] => exact Or.inr ⟨_, rfl⟩
    | b :: rest =>
        by_cases hb : isTail b
        · exact Or.inl ⟨[a, b], rest, _, rfl, .two (by grind) htwo hb⟩
        · simp only [hb]
          exact Or.inr ⟨_, rfl⟩
  rw [if_neg htwo]
  by_cases hthree : a < 0xF0
  · rw [if_pos hthree]
    match bytes with
    | [] => exact Or.inr ⟨_, rfl⟩
    | b :: bytes =>
        by_cases hb : isSecond a b
        · simp only [hb]
          match bytes with
          | [] => exact Or.inr ⟨_, rfl⟩
          | c :: rest =>
              by_cases hc : isTail c
              · exact Or.inl ⟨[a, b, c], rest, _, rfl, .three htwo hthree hb hc⟩
              · simp only [hc]
                exact Or.inr ⟨_, rfl⟩
        · simp only [hb]
          exact Or.inr ⟨_, rfl⟩
  rw [if_neg hthree]
  match bytes with
  | [] => exact Or.inr ⟨_, rfl⟩
  | b :: bytes =>
      by_cases hb : isSecond a b
      · simp only [hb]
        match bytes with
        | [] => exact Or.inr ⟨_, rfl⟩
        | c :: bytes =>
            by_cases hc : isTail c
            · simp only [hc]
              match bytes with
              | [] => exact Or.inr ⟨_, rfl⟩
              | d :: rest =>
                  by_cases hd : isTail d
                  · exact Or.inl ⟨[a, b, c, d], rest, _, rfl, .four hthree (by grind) hb hc hd⟩
                  · simp only [hd]
                    exact Or.inr ⟨_, rfl⟩
            · simp only [hc]
              exact Or.inr ⟨_, rfl⟩
      · simp only [hb]
        exact Or.inr ⟨_, rfl⟩

/-- A character that was read comes from the bytes that stand for it. -/
theorem exists_stands_of_decodeFrom {i : Nat} {bytes : List UInt8} {c : Char} {cs : List Char}
    {fault : Option Fault} (h : decodeFrom i bytes = ⟨c :: cs, fault⟩) :
    ∃ front rest, bytes = front ++ rest ∧ Stands front c ∧
      decodeFrom (i + front.length) rest = ⟨cs, fault⟩ := by
  have hne : bytes ≠ [] := by
    rintro rfl
    simp [decodeFrom] at h
  rcases decodeFrom_cases i hne with ⟨front, rest, c', rfl, hfront⟩ | ⟨f, hf⟩
  · rw [decodeFrom_append hfront, Decoded.cons, Decoded.mk.injEq, List.cons.injEq] at h
    obtain ⟨⟨rfl, htext⟩, hfault⟩ := h
    refine ⟨front, rest, rfl, hfront, ?_⟩
    rw [← htext, ← hfault]
  · rw [h] at hf
    simp at hf

theorem eq_nil_of_decodeFrom {i : Nat} {bytes : List UInt8}
    (h : decodeFrom i bytes = ⟨[], none⟩) : bytes = [] := by
  by_contra hne
  rcases decodeFrom_cases i hne with ⟨front, rest, c, rfl, hfront⟩ | ⟨f, hf⟩
  · rw [decodeFrom_append hfront] at h
    simp [Decoded.cons] at h
  · rw [h] at hf
    simp at hf

/-! ## Beginnings -/

/-- All was read, or the end came too early. -/
def Decoded.IsStart (d : Decoded) : Prop := ∀ f, d.fault = some f → f.defect = .cutShort

theorem isStart_of_stands {bytes : List UInt8} {c : Char} (h : Stands bytes c) {k : Nat}
    (hk : k < bytes.length) (i : Nat) : (decodeFrom i (bytes.take k)).IsStart := by
  by_cases hzero : k = 0
  · rw [hzero]
    intro f hf
    simp [decodeFrom] at hf
  intro f hf
  cases h with
  | one ha => simp at hk; omega
  | @two a b ha ha' hb =>
      obtain ⟨hone, hbad⟩ := lead_of_not_lt (a := a) (by grind) (by grind)
      obtain rfl : k = 1 := by simp at hk; omega
      simp [decodeFrom.eq_def, hone, hbad, ha', Decoded.stop] at hf
      exact hf ▸ rfl
  | @three a b c ha ha' hb hc =>
      obtain ⟨hone, hbad⟩ := lead_of_not_lt (a := a) (by grind) (by grind)
      obtain rfl | rfl : k = 1 ∨ k = 2 := by simp at hk; omega
      · simp [decodeFrom.eq_def, hone, hbad, ha, ha', Decoded.stop] at hf
        exact hf ▸ rfl
      · simp [decodeFrom.eq_def, hone, hbad, ha, ha', hb, Decoded.stop] at hf
        exact hf ▸ rfl
  | @four a b c d ha ha' hb hc hd =>
      obtain ⟨hone, hbad⟩ := lead_of_not_lt (a := a) (by grind) (by grind)
      have htwo : ¬ a < 0xE0 := by grind
      obtain rfl | rfl | rfl : k = 1 ∨ k = 2 ∨ k = 3 := by simp at hk; omega
      · simp [decodeFrom.eq_def, hone, hbad, htwo, ha, Decoded.stop] at hf
        exact hf ▸ rfl
      · simp [decodeFrom.eq_def, hone, hbad, htwo, ha, hb, Decoded.stop] at hf
        exact hf ▸ rfl
      · simp [decodeFrom.eq_def, hone, hbad, htwo, ha, hb, hc, Decoded.stop] at hf
        exact hf ▸ rfl

/-- The beginning of what can be read can be read, save that a character may be cut short. -/
theorem isStart_decodeFrom_take {i : Nat} {bytes : List UInt8} {cs : List Char}
    (h : decodeFrom i bytes = ⟨cs, none⟩) (k : Nat) : (decodeFrom i (bytes.take k)).IsStart := by
  induction cs generalizing i bytes k with
  | nil =>
      rw [eq_nil_of_decodeFrom h, List.take_nil]
      intro f hf
      simp [decodeFrom] at hf
  | cons c cs ih =>
      obtain ⟨front, rest, rfl, hfront, hrest⟩ := exists_stands_of_decodeFrom h
      rcases Nat.lt_or_ge k front.length with hk | hk
      · rw [List.take_append_of_le_length (Nat.le_of_lt hk)]
        exact isStart_of_stands hfront hk i
      · rw [List.take_append, List.take_of_length_le hk, decodeFrom_append hfront]
        exact ih hrest (k - front.length)

/-! ## Single characters -/

theorem isSecond_iff {a b : UInt8} : isSecond a b ↔ 0x80 ≤ b.toNat ∧ b.toNat ≤ 0xBF ∧
    (a.toNat = 0xE0 → 0xA0 ≤ b.toNat) ∧ (a.toNat = 0xED → b.toNat < 0xA0) ∧
    (a.toNat = 0xF0 → 0x90 ≤ b.toNat) ∧ (a.toNat = 0xF4 → b.toNat < 0x90) := by
  simp [isSecond, isTail, UInt8.le_iff_toNat_le, UInt8.lt_iff_toNat_lt, ← UInt8.toNat_inj]
  tauto

theorem isTail_ofNat (n : Nat) : isTail (UInt8.ofNat (0x80 + n % 64)) := by
  simp [isTail, UInt8.le_iff_toNat_le]
  omega

theorem tailBits_ofNat (n : Nat) : tailBits (UInt8.ofNat (0x80 + n % 64)) = n % 64 := by
  simp [tailBits]
  omega

theorem stands_encodeChar (c : Char) : Stands (encodeChar c) c := by
  have hvalid : c.toNat < 0xD800 ∨ (0xDFFF < c.toNat ∧ c.toNat < 0x110000) := c.valid
  have hself : Char.ofNat c.toNat = c := Char.ofNat_toNat c
  unfold encodeChar
  generalize c.toNat = n at hvalid hself
  subst hself
  dsimp only
  split_ifs with hone htwo hthree
  · have hbyte : (UInt8.ofNat n).toNat = n := by simp; omega
    have h := Stands.one (a := UInt8.ofNat n) (by simp [UInt8.lt_iff_toNat_lt]; omega)
    rwa [hbyte] at h
  · have h := Stands.two (a := UInt8.ofNat (0xC0 + n / 64)) (b := UInt8.ofNat (0x80 + n % 64))
      (by simp [UInt8.le_iff_toNat_le]; omega) (by simp [UInt8.lt_iff_toNat_lt]; omega)
      (isTail_ofNat n)
    have hvalue : ((UInt8.ofNat (0xC0 + n / 64)).toNat % 32) * 64 + n % 64 = n := by
      simp
      omega
    rwa [tailBits_ofNat, hvalue] at h
  · have h := Stands.three (a := UInt8.ofNat (0xE0 + n / 4096))
      (b := UInt8.ofNat (0x80 + n / 64 % 64)) (c := UInt8.ofNat (0x80 + n % 64))
      (by simp [UInt8.le_iff_toNat_le]; omega) (by simp [UInt8.lt_iff_toNat_lt]; omega)
      (isSecond_iff.mpr (by simp; omega)) (isTail_ofNat n)
    have hvalue : ((UInt8.ofNat (0xE0 + n / 4096)).toNat % 16) * 4096 + n / 64 % 64 * 64 +
        n % 64 = n := by
      simp
      omega
    rwa [tailBits_ofNat, tailBits_ofNat, hvalue] at h
  · have h := Stands.four (a := UInt8.ofNat (0xF0 + n / 262144))
      (b := UInt8.ofNat (0x80 + n / 4096 % 64)) (c := UInt8.ofNat (0x80 + n / 64 % 64))
      (d := UInt8.ofNat (0x80 + n % 64))
      (by simp [UInt8.le_iff_toNat_le]; omega) (by simp [UInt8.lt_iff_toNat_lt]; omega)
      (isSecond_iff.mpr (by simp; omega)) (isTail_ofNat (n / 64)) (isTail_ofNat n)
    have hvalue : ((UInt8.ofNat (0xF0 + n / 262144)).toNat % 8) * 262144 +
        n / 4096 % 64 * 4096 + n / 64 % 64 * 64 + n % 64 = n := by
      simp
      omega
    rwa [tailBits_ofNat, tailBits_ofNat, tailBits_ofNat, hvalue] at h

/-- The bytes that stand for a character are those with which it is written. -/
theorem eq_encodeChar_of_stands {bytes : List UInt8} {c : Char} (h : Stands bytes c) :
    bytes = encodeChar c := by
  have hvalue : ∀ n, n.isValidChar → (Char.ofNat n).toNat = n := fun n hn => by
    rw [Char.ofNat, dif_pos hn]
    rfl
  have hbyte : ∀ (x : UInt8) n, x.toNat = n → x = UInt8.ofNat n := by
    rintro x n rfl
    exact UInt8.ofNat_toNat.symm
  -- The number of the character tells its length, for overlong forms are ruled out.
  unfold encodeChar
  cases h with
  | @one a ha =>
      have hlt : a.toNat < 128 := by simpa [UInt8.lt_iff_toNat_lt] using ha
      rw [hvalue _ (Or.inl (by omega))]
      simp only [if_pos hlt, UInt8.ofNat_toNat]
  | @two a b ha ha' hb =>
      simp [UInt8.lt_iff_toNat_lt] at ha ha'
      simp [isTail, UInt8.le_iff_toNat_le] at hb
      unfold tailBits
      rw [hvalue _ (Or.inl (by omega))]
      rw [if_neg (by omega), if_pos (by omega)]
      simp only [List.cons.injEq, and_true]
      exact ⟨hbyte a _ (by omega), hbyte b _ (by omega)⟩
  | @three a b c ha ha' hb hc =>
      rw [isSecond_iff] at hb
      simp [UInt8.lt_iff_toNat_lt] at ha ha'
      simp [isTail, UInt8.le_iff_toNat_le] at hc
      unfold tailBits
      rw [hvalue _ (by unfold Nat.isValidChar; omega)]
      rw [if_neg (by omega), if_neg (by omega), if_pos (by omega)]
      simp only [List.cons.injEq, and_true]
      exact ⟨hbyte a _ (by omega), hbyte b _ (by omega), hbyte c _ (by omega)⟩
  | @four a b c d ha ha' hb hc hd =>
      rw [isSecond_iff] at hb
      simp [UInt8.lt_iff_toNat_lt] at ha ha'
      simp [isTail, UInt8.le_iff_toNat_le] at hc hd
      unfold tailBits
      rw [hvalue _ (by unfold Nat.isValidChar; omega)]
      rw [if_neg (by omega), if_neg (by omega), if_neg (by omega)]
      simp only [List.cons.injEq, and_true]
      exact ⟨hbyte a _ (by omega), hbyte b _ (by omega), hbyte c _ (by omega),
        hbyte d _ (by omega)⟩

/-- A character below 128 is a single byte. -/
theorem eq_of_stands {bytes : List UInt8} {c : Char} (h : Stands bytes c) (hc : c.toNat < 128) :
    bytes = [UInt8.ofNat c.toNat] := by
  rw [eq_encodeChar_of_stands h, encodeChar]
  exact if_pos hc

/-- What was written can be read. -/
theorem decodeFrom_encode (i : Nat) (cs : List Char) : decodeFrom i (encode cs) = ⟨cs, none⟩ := by
  induction cs generalizing i with
  | nil => rfl
  | cons c cs ih =>
      change decodeFrom i (encodeChar c ++ encode cs) = _
      rw [decodeFrom_append (stands_encodeChar c), ih]
      rfl

/-- What can be read is what was written. -/
theorem decodeFrom_eq_iff {i : Nat} {bytes : List UInt8} {cs : List Char} :
    decodeFrom i bytes = ⟨cs, none⟩ ↔ bytes = encode cs := by
  constructor
  · intro h
    induction cs generalizing i bytes with
    | nil => exact eq_nil_of_decodeFrom h
    | cons c cs ih =>
        obtain ⟨front, rest, rfl, hfront, hrest⟩ := exists_stands_of_decodeFrom h
        rw [eq_encodeChar_of_stands hfront, ih hrest]
        rfl
  · rintro rfl
    exact decodeFrom_encode i cs

theorem decodeAll_ok_iff {bytes : List UInt8} {cs : List Char} :
    decodeAll bytes = .ok cs ↔ bytes = encode cs := by
  rw [← decodeFrom_eq_iff (i := 0)]
  unfold decodeAll decode
  rcases decodeFrom 0 bytes with ⟨text, _ | f⟩
  · simp
  · simp

theorem encode_injective {cs cs' : List Char} (h : encode cs = encode cs') : cs = cs' := by
  have hread := decodeAll_ok_iff.mpr h
  rw [decodeAll_ok_iff.mpr rfl] at hread
  exact Except.ok.inj hread

end TypeStubs.Text.Utf8
