import TypeStubs.Disk.StubDirectory
import TypeStubs.Proofs.Decoding

/-!
# What is recognised as generated

A file that reads as a text with the header for its first line is recognised, although only its
beginning is looked at and newlines come in three forms.
-/

namespace TypeStubs

open Text

namespace Text

/-! ## Newlines -/

theorem unifyNewlines_cons {c : Char} (hc : c ≠ '\r') (cs : List Char) :
    unifyNewlines (c :: cs) = c :: unifyNewlines cs := by
  rw [unifyNewlines]
  · exact fun _ h => (hc h).elim
  · exact hc

theorem unifyNewlines_append {front : List Char} (h : '\r' ∉ front) (cs : List Char) :
    unifyNewlines (front ++ cs) = front ++ unifyNewlines cs := by
  induction front with
  | nil => rfl
  | cons c front ih =>
      rw [List.mem_cons, not_or] at h
      rw [List.cons_append, unifyNewlines_cons (Ne.symm h.1), ih h.2]
      rfl

theorem unifyNewlines_of_notMem {cs : List Char} (h : '\r' ∉ cs) : unifyNewlines cs = cs := by
  have hall := unifyNewlines_append h []
  rwa [List.append_nil, unifyNewlines, List.append_nil] at hall

theorem exists_unifyNewlines_cons {c : Char} (hc : c = '\n' ∨ c = '\r') (cs : List Char) :
    ∃ cs', unifyNewlines (c :: cs) = '\n' :: cs' := by
  rcases hc with rfl | rfl
  · exact ⟨_, unifyNewlines_cons (by decide) cs⟩
  · cases cs with
    | nil => exact ⟨[], rfl⟩
    | cons d cs =>
        by_cases hd : d = '\n'
        · rw [hd]
          exact ⟨_, rfl⟩
        · refine ⟨unifyNewlines (d :: cs), ?_⟩
          rw [unifyNewlines]
          exact fun cs' heq => hd (List.cons.inj heq).1

/-- A newline comes from either of two characters, and any other character from itself. -/
theorem unifyNewlines_eq_cons {cs text : List Char} {c : Char} (h : unifyNewlines cs = c :: text) :
    (c ≠ '\n' ∧ ∃ cs', cs = c :: cs' ∧ unifyNewlines cs' = text) ∨
      (c = '\n' ∧ ∃ d cs', cs = d :: cs' ∧ (d = '\n' ∨ d = '\r')) := by
  cases cs with
  | nil => simp [unifyNewlines] at h
  | cons d cs =>
      by_cases hd : d = '\n' ∨ d = '\r'
      · obtain ⟨text', htext⟩ := exists_unifyNewlines_cons hd cs
        rw [htext] at h
        exact Or.inr ⟨(List.cons.inj h).1.symm, d, cs, rfl, hd⟩
      · rw [not_or] at hd
        rw [unifyNewlines_cons hd.2, List.cons.injEq] at h
        obtain ⟨rfl, h⟩ := h
        exact Or.inl ⟨hd.1, cs, rfl, h⟩

theorem eq_nil_of_unifyNewlines {cs : List Char} (h : unifyNewlines cs = []) : cs = [] := by
  cases cs with
  | nil => rfl
  | cons c cs =>
      by_cases hc : c = '\r'
      · obtain ⟨text, htext⟩ := exists_unifyNewlines_cons (Or.inr hc) cs
        simp [htext] at h
      · simp [unifyNewlines_cons hc] at h

/-! ## Plain characters -/

namespace Utf8

/-- A character of one byte that is no newline. -/
def Plain (c : Char) : Prop := c.toNat < 128 ∧ c ≠ '\n' ∧ c ≠ '\r'

instance : DecidablePred Plain := fun _ => inferInstanceAs (Decidable (_ ∧ _))

def byteOf (c : Char) : UInt8 := UInt8.ofNat c.toNat

theorem stands_byteOf {c : Char} (h : c.toNat < 128) : Stands [byteOf c] c := by
  have hbyte : (byteOf c).toNat = c.toNat := by
    rw [byteOf, UInt8.toNat_ofNat']
    omega
  have hstands := Stands.one (a := byteOf c) (by
    rw [UInt8.lt_iff_toNat_lt, hbyte]
    exact h)
  rwa [hbyte, Char.ofNat_toNat] at hstands

theorem decodeFrom_plain {word : List Char} (h : ∀ c ∈ word, Plain c) (i : Nat)
    (rest : List UInt8) :
    decodeFrom i (word.map byteOf ++ rest) =
      ⟨word ++ (decodeFrom (i + word.length) rest).text,
        (decodeFrom (i + word.length) rest).fault⟩ := by
  induction word generalizing i with
  | nil => rfl
  | cons c word ih =>
      have hfirst := decodeFrom_append (stands_byteOf (h c List.mem_cons_self).1) i
        (word.map byteOf ++ rest)
      rw [List.singleton_append] at hfirst
      rw [List.map_cons, List.cons_append, hfirst, ih fun d hd => h d (List.mem_cons_of_mem c hd),
        List.length_singleton, List.length_cons, Nat.add_right_comm, Nat.add_assoc]
      rfl

/-- Plain characters at the beginning of a text are at the beginning of its bytes. -/
theorem exists_rest_of_decodeFrom {word rest : List Char} (h : ∀ c ∈ word, Plain c) {i : Nat}
    {bytes : List UInt8} {cs : List Char} (hbytes : decodeFrom i bytes = ⟨cs, none⟩)
    (htext : unifyNewlines cs = word ++ rest) :
    ∃ bytes' cs', bytes = word.map byteOf ++ bytes' ∧
      decodeFrom (i + word.length) bytes' = ⟨cs', none⟩ ∧ unifyNewlines cs' = rest := by
  induction word generalizing i bytes cs with
  | nil => exact ⟨bytes, cs, rfl, hbytes, htext⟩
  | cons c word ih =>
      obtain ⟨hlt, hnewline, -⟩ := h c List.mem_cons_self
      rcases unifyNewlines_eq_cons htext with ⟨-, cs', rfl, hrest⟩ | ⟨heq, -⟩
      · obtain ⟨front, bytes', rfl, hfront, hbytes'⟩ := exists_stands_of_decodeFrom hbytes
        obtain rfl := eq_of_stands hfront hlt
        obtain ⟨bytes'', cs'', rfl, hdecoded, htext'⟩ :=
          ih (fun d hd => h d (List.mem_cons_of_mem c hd)) hbytes' hrest
        refine ⟨bytes'', cs'', rfl, ?_, htext'⟩
        rw [List.length_cons, Nat.add_comm word.length, ← Nat.add_assoc]
        exact hdecoded
      · exact (hnewline heq).elim

end Utf8

end Text

/-! ## The first line -/

namespace StubDirectory

open Utf8

theorem plain_header : ∀ c ∈ header.toList, Plain c := by
  have hall : header.toList.all (fun c => decide (Plain c)) := by decide +kernel
  exact fun c hc => of_decide_eq_true (List.all_eq_true.mp hall c hc)

theorem length_header : header.toList.length < firstRead := by decide +kernel

theorem decodeStart_of_isStart {bytes : List UInt8} (h : (decodeFrom 0 bytes).IsStart) :
    decodeStart bytes = .ok (decodeFrom 0 bytes).text := by
  unfold decodeStart decode
  rcases hd : decodeFrom 0 bytes with ⟨text, _ | f⟩
  · rfl
  · have hcut : f.defect = .cutShort := h f (by rw [hd])
    simp only [hcut, if_true]

theorem firstLine?_header : firstLine? (header.toList.map byteOf) = some header.toList := by
  decide +kernel

/-- Only the beginning of what follows the header is looked at. -/
theorem firstLine?_header_append {b : UInt8} {bytes : List UInt8} {c : Char} {cs : List Char}
    (h : decodeFrom 0 (header.toList.map byteOf ++ b :: bytes) = ⟨cs, none⟩) (hb : Stands [b] c)
    (hc : c = '\n' ∨ c = '\r') :
    firstLine? (header.toList.map byteOf ++ b :: bytes) = some header.toList := by
  obtain ⟨k, hk⟩ : ∃ k, firstRead = header.toList.length + (k + 1) :=
    ⟨_, (Nat.add_sub_of_le length_header).symm⟩
  have htake : (header.toList.map byteOf ++ b :: bytes).take firstRead =
      header.toList.map byteOf ++ ([b] ++ bytes.take k) := by
    rw [hk, List.take_append, List.length_map, Nat.add_sub_cancel_left,
      List.take_of_length_le (by rw [List.length_map]; omega)]
    rfl
  have hseen := decodeStart_of_isStart (isStart_decodeFrom_take h firstRead)
  rw [htake, decodeFrom_plain plain_header, decodeFrom_append hb] at hseen
  have hreturn : '\r' ∉ header.toList := fun hmem => (plain_header _ hmem).2.2 rfl
  have hline : ∀ d ∈ header.toList, (d != '\n') = true := fun d hd =>
    bne_iff_ne.mpr (plain_header d hd).2.1
  obtain ⟨text, htext⟩ := exists_unifyNewlines_cons hc
    (decodeFrom (0 + header.toList.length + [b].length) (bytes.take k)).text
  have hnewline : (header.toList ++ '\n' :: text).contains '\n' := by simp
  unfold firstLine?
  dsimp only
  rw [htake, hseen]
  dsimp only [Decoded.cons]
  rw [unifyNewlines_append hreturn, htext, if_pos hnewline, List.takeWhile_append_of_pos hline]
  simp

theorem isGenerated_of_decodeText {bytes : List UInt8} {text : String}
    (h : Disk.decodeText bytes = .ok text)
    (hline : text.toList.takeWhile (· ≠ '\n') = header.toList) : isGenerated bytes := by
  obtain ⟨cs, hbytes, rfl⟩ : ∃ cs, decodeFrom 0 bytes = ⟨cs, none⟩ ∧
      text = String.ofList (unifyNewlines cs) := by
    unfold Disk.decodeText decodeAll decode at h
    split at h
    · rename_i cs hcs
      split at hcs
      · rename_i heq
        obtain rfl := Except.ok.inj hcs
        exact ⟨_, heq, (Except.ok.inj h).symm⟩
      · simp at hcs
    · simp at h
  rw [String.toList_ofList] at hline
  have hsplit := List.takeWhile_append_dropWhile (p := (· ≠ '\n')) (l := unifyNewlines cs)
  rw [hline] at hsplit
  obtain ⟨bytes', cs', rfl, hrest, htext⟩ :=
    exists_rest_of_decodeFrom plain_header hbytes hsplit.symm
  -- What comes next in the bytes decides whether the first line ends there.
  have hnext : bytes' = [] ∨
      ∃ b bytes'' c, bytes' = b :: bytes'' ∧ Stands [b] c ∧ (c = '\n' ∨ c = '\r') := by
    cases hdrop : (unifyNewlines cs).dropWhile (· ≠ '\n') with
    | nil =>
        rw [hdrop] at htext
        rw [eq_nil_of_unifyNewlines htext] at hrest
        exact Or.inl (eq_nil_of_decodeFrom hrest)
    | cons c rest =>
        have hc : c = '\n' := by
          have hhead := List.head?_dropWhile_not (· ≠ '\n') (unifyNewlines cs)
          rw [hdrop] at hhead
          simpa using hhead
        rw [hdrop] at htext
        rcases unifyNewlines_eq_cons htext with ⟨hne, -⟩ | ⟨-, d, cs'', rfl, hd⟩
        · exact (hne hc).elim
        · obtain ⟨front, bytes'', rfl, hfront, -⟩ := exists_stands_of_decodeFrom hrest
          have hlt : d.toNat < 128 := by rcases hd with rfl | rfl <;> decide
          obtain rfl := eq_of_stands hfront hlt
          exact Or.inr ⟨_, bytes'', d, rfl, hfront, hd⟩
  have hfirst : firstLine? (header.toList.map byteOf ++ bytes') = some header.toList := by
    rcases hnext with rfl | ⟨b, bytes'', c, rfl, hb, hc⟩
    · rw [List.append_nil]
      exact firstLine?_header
    · exact firstLine?_header_append hbytes hb hc
  rw [isGenerated, hfirst]
  exact beq_self_eq_true _

/-- A text without carriage returns is read as it was written. -/
theorem decodeText_encode {text : String} (h : '\r' ∉ text.toList) :
    Disk.decodeText (encode text.toList) = .ok text := by
  unfold Disk.decodeText decodeAll decode
  rw [decodeFrom_encode]
  simp only [unifyNewlines_of_notMem h, String.ofList_toList]

end StubDirectory

end TypeStubs
