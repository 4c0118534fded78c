import Mathlib.Data.List.TakeWhile
import TypeStubs.Project.Settings
import TypeStubs.Proofs.Decoding
import TypeStubs.Proofs.Work
import TypeStubs.Yaml.Data

/-!
# What a settings file may hold

A settings file comes to settings, or to the fault of a malformed one, or to a fault that tells
nothing of settings. Which of the three depends on its bytes and on what the reader of texts makes
of them; the reader itself tells a text that it does not accept as such.
-/

namespace TypeStubs

namespace Text

theorem isEmpty_strip_iff {s : String} :
    (strip s).isEmpty ↔ ∀ c ∈ s.toList, isBlank c := by
  unfold strip
  rw [String.isEmpty_iff, ← String.toList_inj, String.toList_ofList, String.toList_empty,
    List.reverse_eq_nil_iff, List.dropWhile_eq_nil_iff]
  simp only [List.mem_reverse]
  constructor
  · intro h
    cases hrest : s.toList.dropWhile isBlank with
    | nil => exact List.dropWhile_eq_nil_iff.mp hrest
    | cons c rest =>
        have hc := List.head_dropWhile_not isBlank (l := s.toList) (by simp [hrest])
        simp only [hrest, List.head_cons] at hc
        have hblank := h c (by simp [hrest])
        simp [hc] at hblank
  · intro h c hc
    exact h c ((List.dropWhile_sublist _).mem hc)

end Text

namespace Settings

/-! ## Settings that cannot be written -/

/-- A whole number with more digits than are written. -/
def Overlong (v : Value) : Prop := ∃ i, v = .int i ∧ Decimal.isTooLong i

def HoldsOverlong (v : Value) : Prop :=
  ∃ items, (v = .list items ∨ v = .tuple items) ∧ ∃ x ∈ items, Overlong x

theorem word?_error_iff {v : Value} {f : Fault} :
    word? v = .error f ↔ Overlong v ∧ f = .numberTooLong := by
  unfold word? Overlong
  cases v with
  | int i =>
      dsimp only
      split
      · next h => simp [h, eq_comm (a := f)]
      · next h => simp [h]
  | _ => simp

theorem mapM_word?_error_iff {items : List Value} {f : Fault} :
    items.mapM word? = .error f ↔ (∃ x ∈ items, Overlong x) ∧ f = .numberTooLong := by
  constructor
  · intro h
    obtain ⟨x, hx, hword⟩ := mapM_error h
    obtain ⟨hlong, hf⟩ := word?_error_iff.mp hword
    exact ⟨⟨x, hx, hlong⟩, hf⟩
  · rintro ⟨⟨x, hx, hlong⟩, rfl⟩
    have hword := word?_error_iff.mpr ⟨hlong, rfl⟩
    cases h : items.mapM word? with
    | ok ws =>
        obtain ⟨w, -, hw⟩ := exists_ok_of_mapM h hx
        simp [hword] at hw
    | error f =>
        obtain ⟨y, -, hy⟩ := mapM_error h
        rw [(word?_error_iff.mp hy).2]

theorem words_error_iff {v : Value} {f : Fault} :
    words v = .error f ↔ HoldsOverlong v ∧ f = .numberTooLong := by
  have hitems : ∀ items : List Value,
      ((items.mapM word?).map fun ws => ws.filterMap id) = .error f ↔
        (∃ x ∈ items, Overlong x) ∧ f = .numberTooLong := by
    intro items
    rw [← mapM_word?_error_iff]
    cases items.mapM word? <;> simp [Except.map]
  unfold words HoldsOverlong
  cases v with
  | list items => rw [hitems]; simp
  | tuple items => rw [hitems]; simp
  | _ => simp

/-- The settings that are single words. -/
def wordEntries (entries : List (Value × Value)) : List Value :=
  [entryOf entries "output_dir", entryOf (sectionOf entries "generators") "root_class"]

/-- The settings that are lists of words. -/
def listEntries (entries : List (Value × Value)) : List Value :=
  [entryOf (sectionOf entries "compilers") "enabled",
    entryOf (sectionOf entries "generators") "builtin_namespaces", entryOf entries "modules"]

/-- All settings of a map can be written, of whatever types its values are. -/
structure Writable (entries : List (Value × Value)) : Prop where
  words : ∀ v ∈ wordEntries entries, ¬ Overlong v
  lists : ∀ v ∈ listEntries entries, ¬ HoldsOverlong v

theorem writable_nil : Writable [] := by
  constructor
  · rintro v hv ⟨i, rfl, -⟩
    simp [wordEntries, entryOf, sectionOf, Value.lookup?] at hv
  · rintro v hv ⟨items, hitems, -⟩
    have hnull : v = .null := by
      simpa [listEntries, entryOf, sectionOf, Value.lookup?] using hv
    simp [hnull] at hitems

theorem outputOf_error_iff {root : Path} {v : Value} {f : Fault} :
    outputOf root v = .error f ↔ Overlong v ∧ f = .numberTooLong := by
  rw [← word?_error_iff]
  unfold outputOf
  cases word? v <;> simp [Except.map]

/-- What comes to a result has no reason to fail. -/
theorem not_of_ok {α : Type} {P : Prop} {x : Except Fault α} {a : α} {e : Fault}
    (hx : ∀ {f}, x = .error f ↔ P ∧ f = e) (h : x = .ok a) : ¬ P := by
  intro hP
  simp [hx.mpr ⟨hP, rfl⟩] at h

variable {root : Path} {entries : List (Value × Value)}

theorem writable_of_ok {s : Settings} (h : ofEntries root entries = .ok s) : Writable entries := by
  unfold ofEntries at h
  obtain ⟨output, houtput, h⟩ := bind_eq_ok_iff.mp h
  obtain ⟨enabled, henabled, h⟩ := bind_eq_ok_iff.mp h
  obtain ⟨rootClass, hrootClass, h⟩ := bind_eq_ok_iff.mp h
  obtain ⟨namespaces, hnamespaces, h⟩ := bind_eq_ok_iff.mp h
  obtain ⟨modules, hmodules, -⟩ := bind_eq_ok_iff.mp h
  constructor
  · simp only [wordEntries, List.forall_mem_cons]
    exact ⟨not_of_ok outputOf_error_iff houtput, not_of_ok word?_error_iff hrootClass, nofun⟩
  · simp only [listEntries, List.forall_mem_cons]
    exact ⟨not_of_ok words_error_iff henabled, not_of_ok words_error_iff hnamespaces,
      not_of_ok words_error_iff hmodules, nofun⟩

theorem ofEntries_error {f : Fault} (h : ofEntries root entries = .error f) :
    f = .numberTooLong ∧ ¬ Writable entries := by
  have hword : ∀ v ∈ wordEntries entries, Overlong v → ¬ Writable entries :=
    fun v hv hlong hwritable => hwritable.words v hv hlong
  have hlist : ∀ v ∈ listEntries entries, HoldsOverlong v → ¬ Writable entries :=
    fun v hv hlong hwritable => hwritable.lists v hv hlong
  unfold ofEntries at h
  obtain houtput | ⟨output, -, h⟩ := bind_eq_error_iff.mp h
  · obtain ⟨hlong, rfl⟩ := outputOf_error_iff.mp houtput
    exact ⟨rfl, hword _ (by simp [wordEntries]) hlong⟩
  obtain henabled | ⟨enabled, -, h⟩ := bind_eq_error_iff.mp h
  · obtain ⟨hlong, rfl⟩ := words_error_iff.mp henabled
    exact ⟨rfl, hlist _ (by simp [listEntries]) hlong⟩
  obtain hrootClass | ⟨rootClass, -, h⟩ := bind_eq_error_iff.mp h
  · obtain ⟨hlong, rfl⟩ := word?_error_iff.mp hrootClass
    exact ⟨rfl, hword _ (by simp [wordEntries]) hlong⟩
  obtain hnamespaces | ⟨namespaces, -, h⟩ := bind_eq_error_iff.mp h
  · obtain ⟨hlong, rfl⟩ := words_error_iff.mp hnamespaces
    exact ⟨rfl, hlist _ (by simp [listEntries]) hlong⟩
  obtain hmodules | ⟨modules, -, h⟩ := bind_eq_error_iff.mp h
  · obtain ⟨hlong, rfl⟩ := words_error_iff.mp hmodules
    exact ⟨rfl, hlist _ (by simp [listEntries]) hlong⟩
  · simp [pure, Except.pure] at h

theorem ofValue_of_not_truthy {v : Value} (h : v.isTruthy = false) :
    ofValue root v = .ok { root } := by
  unfold ofValue
  rw [if_pos (by simp [h])]

theorem ofValue_map (h : (Value.map entries).isTruthy) :
    ofValue root (.map entries) = ofEntries root entries := by
  unfold ofValue
  rw [if_neg (by simp [h])]

theorem ofValue_of_not_map {v : Value} (h : v.isTruthy) (hmap : ∀ entries, v ≠ .map entries) :
    ofValue root v = .error .settingsNotMap := by
  unfold ofValue
  rw [if_neg (by simp [h])]
  cases v with
  | map entries => exact (hmap entries rfl).elim
  | _ => rfl

/-! ## Texts -/

def Blank (text : String) : Prop := ∀ c ∈ text.toList, Text.isBlank c

section Texts

variable (load : Loader) (text : String)

/-- A text that is blank, or stands for nothing, or for a map of settings that can be written. What
does not count as true stands for nothing, be it a map or not. -/
def Accepted : Prop :=
  Blank text ∨ ∃ v, load text = .ok v ∧
    (v.isTruthy = false ∨ ∃ entries, v = .map entries ∧ Writable entries)

/-- A text that the reader does not accept, or that stands for something other than a map. -/
def Malformed : Prop :=
  ¬ Blank text ∧ (load text = .error .refused ∨
    ∃ v, load text = .ok v ∧ v.isTruthy ∧ ∀ entries, v ≠ .map entries)

/-- A text that stands for a map of settings that cannot be written. -/
def Unwritable : Prop :=
  ¬ Blank text ∧ ∃ entries, load text = .ok (.map entries) ∧ ¬ Writable entries

/-- The reader has a value for a text, or tells that it does not accept it. -/
def Tells : Prop := ∀ f, load text ≠ .error (.stray f)

end Texts

variable {load : Loader} {text : String}

theorem ofText_of_blank (root : Path) (h : Blank text) : ofText load root text = .ok { root } := by
  unfold ofText
  rw [if_pos (Text.isEmpty_strip_iff.mpr h)]
  rfl

theorem ofText_of_ok (root : Path) (h : ¬ Blank text) {v : Value} (hload : load text = .ok v) :
    ofText load root text = ofValue root v := by
  unfold ofText
  rw [if_neg fun hempty => h (Text.isEmpty_strip_iff.mp hempty), hload]
  rfl

theorem ofText_of_refused (root : Path) (h : ¬ Blank text) (hload : load text = .error .refused) :
    ofText load root text = .error .malformedSettings := by
  unfold ofText
  rw [if_neg fun hempty => h (Text.isEmpty_strip_iff.mp hempty), hload]
  rfl

theorem Accepted.ofText (h : Accepted load text) (root : Path) :
    ∃ s, ofText load root text = .ok s := by
  by_cases hblank : Blank text
  · exact ⟨_, ofText_of_blank root hblank⟩
  obtain ⟨v, hload, hv⟩ := h.resolve_left hblank
  rw [ofText_of_ok root hblank hload]
  cases htruthy : v.isTruthy with
  | false => exact ⟨_, ofValue_of_not_truthy htruthy⟩
  | true =>
      obtain ⟨entries, rfl, hwritable⟩ := hv.resolve_left (by simp [htruthy])
      rw [ofValue_map htruthy]
      cases hentries : ofEntries root entries with
      | ok s => exact ⟨s, rfl⟩
      | error f => exact ((ofEntries_error hentries).2 hwritable).elim

theorem Malformed.ofText (h : Malformed load text) (root : Path) :
    ∃ f, ofText load root text = .error f ∧ f.family = .settings := by
  obtain ⟨hblank, hload | ⟨v, hload, htruthy, hmap⟩⟩ := h
  · exact ⟨_, ofText_of_refused root hblank hload, rfl⟩
  · refine ⟨.settingsNotMap, ?_, rfl⟩
    rw [ofText_of_ok root hblank hload, ofValue_of_not_map htruthy hmap]

theorem Unwritable.ofText (h : Unwritable load text) (root : Path) :
    ∃ f, ofText load root text = .error f ∧ f.family ≠ .settings := by
  obtain ⟨hblank, entries, hload, hwritable⟩ := h
  refine ⟨.numberTooLong, ?_, by simp [Fault.family]⟩
  have htruthy : (Value.map entries).isTruthy := by
    cases entries with
    | nil => exact (hwritable writable_nil).elim
    | cons e entries => rfl
  rw [ofText_of_ok root hblank hload, ofValue_map htruthy]
  cases hentries : ofEntries root entries with
  | ok s => exact (hwritable (writable_of_ok hentries)).elim
  | error f => rw [(ofEntries_error hentries).1]

theorem Tells.cases (h : Tells load text) :
    Accepted load text ∨ Malformed load text ∨ Unwritable load text := by
  by_cases hblank : Blank text
  · exact Or.inl (Or.inl hblank)
  cases hload : load text with
  | error f =>
      cases f with
      | refused => exact Or.inr (Or.inl ⟨hblank, Or.inl hload⟩)
      | stray f => exact (h f hload).elim
  | ok v =>
      by_cases hmap : ∃ entries, v = .map entries
      · obtain ⟨entries, rfl⟩ := hmap
        by_cases hwritable : Writable entries
        · exact Or.inl (Or.inr ⟨_, hload, Or.inr ⟨entries, rfl, hwritable⟩⟩)
        · exact Or.inr (Or.inr ⟨hblank, entries, hload, hwritable⟩)
      · cases htruthy : v.isTruthy with
        | false => exact Or.inl (Or.inr ⟨v, hload, Or.inl htruthy⟩)
        | true => exact Or.inr (Or.inl ⟨hblank, Or.inr ⟨v, hload, htruthy, not_exists.mp hmap⟩⟩)

section Tells

variable (htells : Tells load text) (root : Path)
include htells

theorem exists_ofText_iff : (∃ s, ofText load root text = .ok s) ↔ Accepted load text := by
  refine ⟨fun ⟨s, hs⟩ => ?_, fun h => h.ofText root⟩
  rcases htells.cases with h | h | h
  · exact h
  · obtain ⟨f, hf, -⟩ := h.ofText root
    simp [hs] at hf
  · obtain ⟨f, hf, -⟩ := h.ofText root
    simp [hs] at hf

theorem ofText_malformed_iff :
    (∃ f, ofText load root text = .error f ∧ f.family = .settings) ↔ Malformed load text := by
  refine ⟨fun ⟨f, hf, hfamily⟩ => ?_, fun h => h.ofText root⟩
  rcases htells.cases with h | h | h
  · obtain ⟨s, hs⟩ := h.ofText root
    simp [hs] at hf
  · exact h
  · obtain ⟨f', hf', hother⟩ := h.ofText root
    obtain rfl := Except.error.inj (hf.symm.trans hf')
    exact (hother hfamily).elim

theorem ofText_unwritable_iff :
    (∃ f, ofText load root text = .error f ∧ f.family ≠ .settings) ↔ Unwritable load text := by
  refine ⟨fun ⟨f, hf, hother⟩ => ?_, fun h => h.ofText root⟩
  rcases htells.cases with h | h | h
  · obtain ⟨s, hs⟩ := h.ofText root
    simp [hs] at hf
  · obtain ⟨f', hf', hfamily⟩ := h.ofText root
    obtain rfl := Except.error.inj (hf.symm.trans hf')
    exact (hother hfamily).elim
  · exact h

end Tells

end Settings

namespace Disk

open Settings

variable {d : Disk} {p file : Path} {bytes : List UInt8}

/-- The text of some characters, with the three newline forms made one. -/
def textOf (cs : List Char) : String := String.ofList (Text.unifyNewlines cs)

theorem decodeText_encode (cs : List Char) :
    decodeText (Text.Utf8.encode cs) = .ok (textOf cs) := by
  rw [decodeText, Text.Utf8.decodeAll_ok_iff.mpr rfl]
  rfl

theorem decodeText_of_not_encode (h : ∀ cs, bytes ≠ Text.Utf8.encode cs) :
    ∃ e, decodeText bytes = .error (.undecodable e) := by
  unfold decodeText
  cases hdecode : Text.Utf8.decodeAll bytes with
  | ok cs => exact (h cs (Text.Utf8.decodeAll_ok_iff.mp hdecode)).elim
  | error e => exact ⟨e, rfl⟩

section File

variable (hfile : d.settingsFile p = .ok file) (hthere : d.stat file = .ok (.file bytes))
include hfile hthere

theorem settings_eq (load : Loader) :
    d.settings load p = decodeText bytes >>= Settings.ofText load file.parent := by
  have hexists : d.exists? file = .ok true := by
    rw [exists?, peek, hthere]
    rfl
  have htext : d.readText file = decodeText bytes := by
    rw [readText, readBytes, hthere]
    rfl
  rw [settings, hfile, ok_bind]
  dsimp only
  rw [hexists, ok_bind, if_pos rfl, htext]

/-- A settings file is settings, or malformed, or it fails in a way that is not put down to it: its
bytes are no text, or its settings cannot be written. -/
theorem settings_of_file (load : Loader)
    (htells : ∀ cs, bytes = Text.Utf8.encode cs → Tells load (textOf cs)) :
    ((∃ s, d.settings load p = .ok s) ↔
      ∃ cs, bytes = Text.Utf8.encode cs ∧ Accepted load (textOf cs)) ∧
    ((∃ f, d.settings load p = .error f ∧ f.family = .settings) ↔
      ∃ cs, bytes = Text.Utf8.encode cs ∧ Malformed load (textOf cs)) ∧
    ((∃ f, d.settings load p = .error f ∧ f.family ≠ .settings) ↔
      (∀ cs, bytes ≠ Text.Utf8.encode cs) ∨
        ∃ cs, bytes = Text.Utf8.encode cs ∧ Unwritable load (textOf cs)) := by
  rw [settings_eq hfile hthere]
  by_cases htext : ∃ cs, bytes = Text.Utf8.encode cs
  · obtain ⟨cs, rfl⟩ := htext
    -- No two texts have the same bytes, so what is said of some text is said of this one.
    have hsame : ∀ P : String → Prop,
        (∃ cs', Text.Utf8.encode cs = Text.Utf8.encode cs' ∧ P (textOf cs')) ↔ P (textOf cs) := by
      intro P
      constructor
      · rintro ⟨cs', hcs, hP⟩
        rwa [Text.Utf8.encode_injective hcs]
      · exact fun hP => ⟨cs, rfl, hP⟩
    have hread : ¬ ∀ cs', Text.Utf8.encode cs ≠ Text.Utf8.encode cs' := fun h => h cs rfl
    have htells := htells cs rfl
    rw [decodeText_encode, ok_bind, hsame, hsame, hsame, or_iff_right hread]
    exact ⟨exists_ofText_iff htells _, ofText_malformed_iff htells _,
      ofText_unwritable_iff htells _⟩
  · obtain ⟨e, he⟩ := decodeText_of_not_encode (not_exists.mp htext)
    have hnone : ∀ P : String → Prop,
        ¬ ∃ cs, bytes = Text.Utf8.encode cs ∧ P (textOf cs) := by
      rintro P ⟨cs, hcs, -⟩
      exact htext ⟨cs, hcs⟩
    rw [he, iff_false_right (hnone _), iff_false_right (hnone _),
      iff_true_right (Or.inl (not_exists.mp htext))]
    refine ⟨?_, ?_, .undecodable e, rfl, by simp [Fault.family]⟩
    · rintro ⟨s, hs⟩
      simp [bind, Except.bind] at hs
    · rintro ⟨f, hf, hfamily⟩
      obtain rfl := Except.error.inj hf
      simp [Fault.family] at hfamily

end File

/-- A project with a settings file that holds some bytes. -/
def project (bytes : List UInt8) : Disk :=
  ⟨[(["app"], .directory), (["app", Settings.fileName], .file bytes)], [], []⟩

theorem settings_of_file_of_project :
    (∃ s, (project (Text.Utf8.encode "[]".toList)).settings Yaml.load (Path.ofText "/app") =
      .ok s) ∧
    (∃ f, (project (Text.Utf8.encode "app".toList)).settings Yaml.load (Path.ofText "/app") =
      .error f ∧ f.family = .settings) ∧
    ∃ f, (project [0xFF]).settings Yaml.load (Path.ofText "/app") = .error f ∧
      f.family ≠ .settings := by
  have hfile : ∀ bytes, (project bytes).settingsFile (Path.ofText "/app") =
      .ok (Path.ofText "/app/.genstubs.yml") := fun bytes => by rfl
  have hthere : ∀ bytes, (project bytes).stat (Path.ofText "/app/.genstubs.yml") =
      .ok (.file bytes) := fun bytes => by rfl
  have htells : ∀ {cs v}, Yaml.load (textOf cs) = .ok v →
      ∀ cs', Text.Utf8.encode cs = Text.Utf8.encode cs' → Tells Yaml.load (textOf cs') := by
    intro cs v hload cs' hcs f hf
    rw [← Text.Utf8.encode_injective hcs, hload] at hf
    simp at hf
  refine ⟨?_, ?_, ?_⟩
  · have hempty : (Yaml.load (textOf "[]".toList)).toOption.any fun v => !v.isTruthy := by
      decide +kernel
    obtain ⟨v, hload, hv⟩ := exists_eq_ok_of_any hempty
    have haccepted : Accepted Yaml.load (textOf "[]".toList) :=
      Or.inr ⟨v, hload, Or.inl (by simpa using hv)⟩
    exact (settings_of_file (hfile _) (hthere _) _ (htells hload)).1.mpr ⟨_, rfl, haccepted⟩
  · have hblank : ¬ Blank (textOf "app".toList) := fun h =>
      absurd (h 'a' (by decide)) (by decide)
    have hword : (Yaml.load (textOf "app".toList)).toOption.any fun v =>
        v.isTruthy && v.text?.isSome := by decide +kernel
    obtain ⟨v, hload, hv⟩ := exists_eq_ok_of_any hword
    rw [Bool.and_eq_true] at hv
    have hmap : ∀ entries, v ≠ .map entries := by
      rintro entries rfl
      simp [Value.text?] at hv
    exact (settings_of_file (hfile _) (hthere _) _ (htells hload)).2.1.mpr
      ⟨_, rfl, hblank, Or.inr ⟨v, hload, hv.1, hmap⟩⟩
  · have hbytes : ∀ cs, [0xFF] ≠ Text.Utf8.encode cs := by
      intro cs hcs
      have hdecode := Text.Utf8.decodeAll_ok_iff.mpr hcs
      simp [Text.Utf8.decodeAll, Text.Utf8.decode, Text.Utf8.decodeFrom, Text.Utf8.Decoded.stop]
        at hdecode
    exact (settings_of_file (hfile _) (hthere _) Yaml.load
      fun cs hcs => (hbytes cs hcs).elim).2.2.mpr (Or.inl hbytes)

end Disk

end TypeStubs
