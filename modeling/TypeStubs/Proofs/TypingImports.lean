import TypeStubs.Proofs.Outline

/-!
# The typing names of a stub

The names to import are collected in one walk through the classes, and the types are written in
another. Both leave out the same accessors, so that a stub imports exactly the names that its types
use.
-/

namespace TypeStubs

open Text ClassNode

/-! ## Types -/

/-- Does a name come up in a type as it is written? -/
def Annotation.Uses (a : Annotation) (name : String) : Prop := name.toList <:+: a.render.toList

theorem Annotation.toList_render (a : Annotation) :
    a.render.toList = if a.nilable then "Optional[".toList ++ (a.base.toList ++ "]".toList)
      else a.base.toList := by
  unfold render
  split <;> simp only [String.toList_append, List.append_assoc]

theorem Annotation.uses_any_iff (t : TypeTag) (nilable : Bool) :
    (⟨t.accessorBase, nilable⟩ : Annotation).Uses "Any" ↔ t.accessorBase = "Any" := by
  unfold Uses
  rw [toList_render]
  constructor
  · intro h
    by_contra hbase
    have hfree : ∀ u : TypeTag, u.accessorBase ≠ "Any" → 'A' ∉ u.accessorBase.toList := by
      intro u
      cases u <;> decide
    have hmem : 'A' ∈ "Any".toList := by decide
    have hrender := h.subset hmem
    split at hrender
    · rcases List.mem_append.mp hrender with hrender | hrender
      · exact absurd hrender (by decide)
      · rcases List.mem_append.mp hrender with hrender | hrender
        · exact hfree t hbase hrender
        · exact absurd hrender (by decide)
    · exact hfree t hbase hrender
  · intro hbase
    dsimp only
    rw [hbase]
    split
    · exact ⟨"Optional[".toList, "]".toList, List.append_assoc _ _ _⟩
    · exact List.infix_rfl

theorem Annotation.uses_optional_iff (t : TypeTag) (nilable : Bool) :
    (⟨t.accessorBase, nilable⟩ : Annotation).Uses "Optional" ↔ nilable := by
  cases nilable with
  | true =>
      refine iff_of_true ⟨[], '[' :: (t.accessorBase.toList ++ "]".toList), ?_⟩ rfl
      rw [toList_render]
      rfl
  | false =>
      refine iff_of_false (fun h => ?_) Bool.false_ne_true
      have hfree : ∀ u : TypeTag, 'O' ∉ u.accessorBase.toList := by
        intro u
        cases u <;> decide
      exact hfree t (h.subset (by decide))

theorem Annotation.mem_typingNames_iff {a : Annotation} (ha : a.OfMember) {name : String}
    (hname : name ∈ ["Any", "Optional"]) : name ∈ a.typingNames ↔ a.Uses name := by
  obtain ⟨spec, rfl⟩ := ha
  rcases List.mem_pair.mp hname with rfl | rfl
  · rw [ArgumentSpec.accessorType, uses_any_iff]
    simp [typingNames]
  · rw [ArgumentSpec.accessorType, uses_optional_iff]
    simp [typingNames]

namespace ModuleNode

theorem mem_typingNames {m : ModuleNode} (hm : m.Typed) {name : String} :
    name ∈ m.typingNames ↔ name ∈ ["Any", "Optional"] ∧ ∃ a, m.Emits a ∧ a.type.Uses name := by
  rw [typingNames, List.mem_filter, List.contains_iff_mem, List.mem_flatMap]
  refine and_congr_right fun hname => exists_congr fun a => ?_
  rw [emits_iff, ← mem_writtenAmong_iff_exists]
  refine and_congr_right fun ha => Annotation.mem_typingNames_iff ?_ hname
  rw [mem_writtenAmong_iff_exists, ← emits_iff] at ha
  obtain ⟨k, hk, ha, -⟩ := ha
  exact hm k hk a ha

theorem pairwise_typingNames (m : ModuleNode) : m.typingNames.Pairwise (· < ·) := by
  have hall : ["Any", "Optional"].Pairwise (· < ·) := by decide
  exact hall.sublist List.filter_sublist

/-! ## Imports in a text -/

/-- The lines that import typing names. -/
def importsAmong (ls : List String) : List String := ls.filter (startsWith "from typing import ")

/-- The lines of a text in front of the first class. -/
def preamble (text : String) : List String :=
  (splitAt '\n' text).takeWhile fun l => !startsWith "class " l

theorem startsWith_importText (names : List String) :
    startsWith "from typing import " (StubLine.importText names) :=
  startsWith_append "from typing import " (String.intercalate ", " names)

theorem importsAmong_importLines (names : List String) :
    importsAmong (importLines names) =
      if names.isEmpty then [] else [StubLine.importText names] := by
  have hblank : startsWith "from typing import " "" = false := by decide
  unfold importLines importsAmong
  split
  · rfl
  · change List.filter _ ["", StubLine.importText names] = _
    rw [List.filter_cons_of_neg (by simp [hblank]),
      List.filter_cons_of_pos (startsWith_importText names), List.filter_nil]

/-- A class that is opened stands in the text as it begins, even if its name breaks the line. -/
theorem exists_splitAt_opening (name : String) :
    ∃ l ls, splitAt '\n' (opening 0 name) = l :: ls ∧ startsWith "class " l := by
  have hopening : (opening 0 name).toList = "class ".toList ++ (name ++ ":").toList := by
    rw [opening, String.append_assoc, String.append_assoc, String.toList_append,
      String.toList_append]
    rfl
  obtain ⟨q, qs, -, hpieces⟩ :=
    exists_pieces_append (by decide : '\n' ∉ "class ".toList) (name ++ ":").toList
  refine ⟨String.ofList ("class ".toList ++ q), qs.map String.ofList, ?_, ?_⟩
  · rw [splitAt, hopening, hpieces]
    rfl
  · rw [String.ofList_append, String.ofList_toList]
    exact startsWith_append "class " (String.ofList q)

/-- In front of the first class there are blank lines only after the import. -/
theorem importsAmong_takeWhile_blocks (m : ModuleNode) :
    importsAmong ((m.blocks.flatMap (splitAt '\n') ++ [""]).takeWhile
      fun l => !startsWith "class " l) = [] := by
  cases hs : sorted m.classes with
  | nil =>
      rw [blocks, hs]
      decide
  | cons n ns =>
      obtain ⟨l, ls, hsplit, hclass⟩ := exists_splitAt_opening n.name
      have hblank : splitAt '\n' "" = [""] := by decide
      have hfirst : startsWith "class " "" = false := by decide
      have hnone : startsWith "from typing import " "" = false := by decide
      rw [blocks, hs, List.flatMap_cons, ClassNode.lines_eq]
      simp [hblank, hsplit, hfirst, hclass, importsAmong, hnone]

/-- The lines in front of the first class are the heading, the import and blank ones, whatever the
classes are called. -/
theorem importsAmong_preamble (m : ModuleNode) :
    importsAmong (preamble m.text) =
      if m.typingNames.isEmpty then [] else [StubLine.importText m.typingNames] := by
  have hwhole : (header :: importLines m.typingNames).flatMap (splitAt '\n') =
      header :: importLines m.typingNames := by
    have hfree : ∀ l ∈ header :: importLines m.typingNames, '\n' ∉ l.toList :=
      List.forall_mem_cons.mpr ⟨by decide, notMem_of_mem_importLines m⟩
    rw [List.flatMap_congr fun l hl => splitAt_of_notMem (hfree l hl), List.flatMap_singleton']
  have hfront : ∀ l ∈ header :: importLines m.typingNames, !startsWith "class " l := by
    refine List.forall_mem_cons.mpr ⟨by decide, forall_importLines m (by decide)⟩
  have hheader : startsWith "from typing import " header = false := by decide
  rw [preamble, splitAt_text_eq_flatMap, lines_eq,
    ← List.cons_append, List.flatMap_append, hwhole, List.append_assoc,
    List.takeWhile_append_of_pos hfront, importsAmong, List.filter_append]
  change _ ++ importsAmong _ = _
  rw [importsAmong_takeWhile_blocks, List.append_nil, List.filter_cons_of_neg (by simp [hheader])]
  exact importsAmong_importLines m.typingNames

/-! ## Getters in a text -/

open StubLine

theorem text_getter (depth : Nat) (a : Accessor) :
    [(property depth).text, (getter depth a).text] = a.lines depth := a.map_text_outline depth

/-- An accessor that is written has its getter on a line of its own. -/
theorem Emits.exists_getter {m : ModuleNode} (hm : m.Typed) {a : Accessor} (h : m.Emits a) :
    ∃ depth, (getter depth a).text ∈ splitAt '\n' m.text := by
  obtain ⟨ls, hls⟩ := m.exists_outline
  obtain ⟨depth, hmem⟩ := (hls.getter a).mpr h
  obtain ⟨k, hk, ha, hwritable⟩ := h
  have hline : (getter depth a).text ∈ a.lines depth := by
    rw [← text_getter]
    exact List.mem_cons_of_mem _ List.mem_cons_self
  have hwhole := splitAt_of_notMem (Accessor.notMem_of_mem_lines hwritable (hm k hk a ha) hline)
  have hlines : (getter depth a).text ∈ m.lines := hls.text ▸ List.mem_map_of_mem hmem
  refine ⟨depth, ?_⟩
  rw [splitAt_text_eq_flatMap]
  refine List.mem_append_left _ (List.mem_flatMap.mpr ⟨_, hlines, ?_⟩)
  rw [hwhole]
  exact List.mem_singleton_self _

theorem eq_getter_of_text {l : StubLine} {depth : Nat} {a : Accessor}
    (h : l.text = (getter depth a).text) : ∃ d b, l = getter d b ∧ a.lines 0 = b.lines 0 := by
  have hstem := stem_eq_of_text h
  have hinitial : l.initial = some 'd' := by
    rw [← head?_stem, hstem, head?_stem]
    rfl
  cases l with
  | getter d b =>
      have hzero : ∀ c : Accessor, (getter 0 c).text = (getter d c).stem := fun c =>
        String.empty_append
      refine ⟨d, b, rfl, ?_⟩
      have hsame : (getter d a).stem = (getter d b).stem := hstem.symm
      rw [← text_getter, ← text_getter, hzero, hzero, hsame]
  | _ => simp [initial] at hinitial

/-- Where the names of classes keep to one line, a getter in the text is that of an accessor. -/
theorem emits_of_getter {m : ModuleNode} (hm : m.Typed)
    (hline : ∀ k, m.Holds k → '\n' ∉ k.name.toList) {a : Accessor} (hwritable : a.isWritable)
    (htype : a.type.OfMember) {depth : Nat} (h : (getter depth a).text ∈ splitAt '\n' m.text) :
    m.Emits a := by
  obtain ⟨ls, hls⟩ := m.exists_outline
  rw [splitAt_text (legible_of_typed hm hline), ← hls.text, List.mem_append] at h
  rcases h with h | h
  · obtain ⟨l, hl, heq⟩ := List.mem_map.mp h
    obtain ⟨d, b, rfl, hsame⟩ := eq_getter_of_text heq
    obtain ⟨hb, hbt⟩ := (hls.wellFormed hm).getter d b hl
    obtain rfl := Accessor.lines_injective hwritable hb htype hbt hsame
    exact (hls.getter a).mp ⟨d, hl⟩
  · have hblank : blank.text = (getter depth a).text := (List.mem_singleton.mp h).symm
    obtain ⟨d, b, heq, -⟩ := eq_getter_of_text hblank
    exact nomatch heq

theorem isImport_of_startsWith {l : StubLine} (h : startsWith "from typing import " l.text) :
    l.isImport := by
  obtain ⟨rest, hrest⟩ := List.isPrefixOf_iff_prefix.mp h
  have hstem : l.stem.toList = "from typing import ".toList ++ rest := by
    rw [← unindented_text, unindented, ← hrest]
    rfl
  have hinitial : l.initial = some 'f' := by
    rw [← head?_stem, hstem]
    rfl
  cases l with
  | imports names => rfl
  | _ => simp [initial] at hinitial

/-- No line of a class is an import. -/
theorem importsAmong_blocks (m : ModuleNode) : importsAmong m.blocks = [] := by
  obtain ⟨ls, hls⟩ := exists_blocks (sorted m.classes)
  have htext : ls.map StubLine.text = m.blocks := hls.text
  rw [← htext]
  refine List.filter_eq_nil_iff.mpr fun line hline himport => ?_
  obtain ⟨l, hl, rfl⟩ := List.mem_map.mp hline
  exact Bool.false_ne_true ((hls.plain l hl).2.symm.trans (isImport_of_startsWith himport))

/-- Where the names of classes keep to one line, no import comes after the first class. -/
theorem importsAmong_text {m : ModuleNode} (hm : m.Legible) :
    importsAmong (splitAt '\n' m.text) = importsAmong (preamble m.text) := by
  have hheader : importsAmong [header] = [] := by decide
  have hblank : importsAmong [""] = [] := by decide
  have hsplit : splitAt '\n' m.text =
      [header] ++ (importLines m.typingNames ++ m.blocks) ++ [""] := by
    rw [splitAt_text hm, lines_eq]
    rfl
  have hparts : ∀ as bs : List String,
      importsAmong (as ++ bs) = importsAmong as ++ importsAmong bs := fun as bs =>
    List.filter_append as bs
  rw [hsplit, hparts, hparts, hparts, hheader, hblank, importsAmong_blocks, List.nil_append,
    List.append_nil, List.append_nil, importsAmong_importLines, importsAmong_preamble]

/-- The import in front of the first class, if there is one, lists in order and once each the names
that types of written accessors use, and it is there if and only if some type uses one. The getters
of these accessors stand in the text; where the names of classes keep to one line, no other getters
and no other imports do. -/
theorem imports_exact {m : ModuleNode} (hm : m.Typed) (log : Array Record) :
    ∃ names : List String, names.Pairwise (· < ·) ∧
      (∀ name, name ∈ names ↔
        name ∈ ["Any", "Optional"] ∧ ∃ a, m.Emits a ∧ a.type.Uses name) ∧
      importsAmong (preamble (m.render.run log).1) =
        (if names.isEmpty then [] else ["from typing import " ++ String.intercalate ", " names]) ∧
      (∀ a, m.Emits a → ∃ depth, (getter depth a).text ∈ splitAt '\n' (m.render.run log).1) ∧
      ((∀ k, m.Holds k → '\n' ∉ k.name.toList) →
        importsAmong (splitAt '\n' (m.render.run log).1) =
          importsAmong (preamble (m.render.run log).1) ∧
        ∀ depth a, a.isWritable → a.type.OfMember →
          (getter depth a).text ∈ splitAt '\n' (m.render.run log).1 → m.Emits a) := by
  rw [render_text]
  exact ⟨m.typingNames, m.pairwise_typingNames, fun _ => mem_typingNames hm,
    importsAmong_preamble m, fun a ha => ha.exists_getter hm, fun hline =>
      ⟨importsAmong_text (legible_of_typed hm hline), fun depth a hwritable htype =>
        emits_of_getter hm hline hwritable htype⟩⟩

/-- A shop with a type that uses a typing name deep inside, and another one that is left out. -/
def deepShop : ModuleNode :=
  ⟨"shop", [⟨"Cart", [⟨"class", ⟨"Any", false⟩⟩], [⟨"Line", [⟨"size", ⟨"float", true⟩⟩], []⟩]⟩]⟩

open Annotation in
theorem imports_exact_of_deepShop : deepShop.Typed ∧
    ∃ names : List String, "Optional" ∈ names ∧ "Any" ∉ names ∧
      importsAmong (preamble (deepShop.render.run #[]).1) =
        ["from typing import " ++ String.intercalate ", " names] := by
  have hlegible : deepShop.Legible := by
    have hsize : (⟨"float", true⟩ : Annotation).OfMember := ⟨⟨"size", .numeric, false, false⟩, rfl⟩
    have hclass : (⟨"Any", false⟩ : Annotation).OfMember := ⟨⟨"class", .other, true, false⟩, rfl⟩
    refine List.forall_mem_singleton.mpr
      (.node (by decide) (List.forall_mem_singleton.mpr hclass) ?_)
    exact List.forall_mem_singleton.mpr
      (.node (by decide) (List.forall_mem_singleton.mpr hsize) (by simp))
  have htyped := typed_of_legible hlegible
  have hemits : ∀ a, deepShop.Emits a ↔ a = ⟨"size", ⟨"float", true⟩⟩ := by
    intro a
    have hwritten : writtenAmong deepShop.classes = [⟨"size", ⟨"float", true⟩⟩] := by decide
    rw [emits_iff, ← mem_writtenAmong_iff_exists, hwritten, List.mem_singleton]
  obtain ⟨names, -, hnames, himports, -⟩ := imports_exact htyped #[]
  have hoptional : "Optional" ∈ names := (hnames "Optional").mpr
    ⟨by simp, _, (hemits _).mpr rfl, (uses_optional_iff .numeric true).mpr rfl⟩
  refine ⟨htyped, names, hoptional, fun hany => ?_, ?_⟩
  · obtain ⟨-, a, ha, huses⟩ := (hnames "Any").mp hany
    rw [(hemits a).mp ha] at huses
    exact absurd ((uses_any_iff .numeric true).mp huses) (by decide)
  · rw [himports, if_neg (by simpa using List.ne_nil_of_mem hoptional)]

end ModuleNode

end TypeStubs
