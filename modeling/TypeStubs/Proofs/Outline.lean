import TypeStubs.Proofs.Readback

/-!
# The outline of a stub

Every line of a stub has one of seven forms, and which may follow which is fixed. Accessors whose
names cannot be written are left out, but the names of classes are written as they are: a module
reads as a stub if and only if all of them can follow `class`.
-/

namespace TypeStubs

open Text

/-! ## Lines -/

/-- A line of a stub. -/
inductive StubLine where
  | heading
  | blank
  | imports (names : List String)
  | opening (depth : Nat) (name : String)
  | property (depth : Nat)
  | getter (depth : Nat) (a : Accessor)
  | dots (depth : Nat)

namespace StubLine

def importText (names : List String) : String :=
  "from typing import " ++ String.intercalate ", " names

/-- What follows the indentation. -/
def stem : StubLine → String
  | heading => header
  | blank => ""
  | imports names => importText names
  | opening _ name => "class " ++ name ++ ":"
  | property _ => "@property"
  | getter _ a => "def " ++ a.name ++ "(self) -> " ++ a.type.render ++ ": ..."
  | dots _ => "..."

/-- How many classes a line of a class stands in. -/
def depth? : StubLine → Option Nat
  | heading | blank | imports _ => none
  | opening depth _ | property depth | getter depth _ | dots depth => some depth

/-- The line as it is written: four spaces for each class it stands in. -/
def text (l : StubLine) : String := indentation (l.depth?.getD 0) ++ l.stem

def isImport : StubLine → Bool
  | imports _ => true
  | _ => false

/-- May the given line come next, or none? A property goes on with its getter and the opening of a
class with a line one level deeper; nothing else leads deeper. -/
def Follows (l : StubLine) (next : Option StubLine) : Prop :=
  match l with
  | property depth => ∃ a, next = some (getter depth a)
  | opening depth _ => next.bind depth? = some (depth + 1)
  | getter depth _ | dots depth => ∀ d ∈ next.bind depth?, d ≤ depth
  | heading | blank | imports _ => ∀ d ∈ next.bind depth?, d = 0

def InOrder : List StubLine → Prop
  | [] => True
  | l :: rest => l.Follows rest.head? ∧ InOrder rest

/-- The lines after the heading, with one import at most, in order; all getters can be written. -/
structure WellFormed (ls : List StubLine) : Prop where
  heading : ∃ rest, ls = heading :: rest ∧ StubLine.heading ∉ rest
  imports : ls.countP isImport ≤ 1
  inOrder : InOrder ls
  getter : ∀ depth a, getter depth a ∈ ls → a.isWritable ∧ a.type.OfMember

/-! ## Reading a line -/

/-- A text without the spaces in front. -/
def unindented (s : String) : List Char := s.toList.dropWhile (· == ' ')

theorem unindented_indentation {s : String} (h : s.toList.head? ≠ some ' ') (depth : Nat) :
    unindented (indentation depth ++ s) = s.toList := by
  rw [unindented, String.toList_append, indentation, String.toList_ofList,
    List.dropWhile_append_of_pos fun c hc => by simp [List.eq_of_mem_replicate hc]]
  cases hs : s.toList with
  | nil => rfl
  | cons c cs =>
      rw [hs] at h
      have hc : (c == ' ') = false := beq_false_of_ne fun heq => h (by rw [heq, List.head?_cons])
      rw [List.dropWhile_cons, hc]
      rfl

/-- The first character after the indentation. -/
def initial : StubLine → Option Char
  | heading => some '#'
  | blank => none
  | imports _ => some 'f'
  | opening _ _ => some 'c'
  | property _ => some '@'
  | getter _ _ => some 'd'
  | dots _ => some '.'

theorem head?_importText (names : List String) :
    (importText names).toList.head? = some 'f' := by
  change ("from typing import " ++ String.intercalate ", " names).toList.head? = some 'f'
  rw [String.toList_append]
  rfl

theorem head?_stem (l : StubLine) : l.stem.toList.head? = l.initial := by
  cases l with
  | heading => exact (by decide : header.toList.head? = some '#')
  | blank => exact (by decide : "".toList.head? = none)
  | imports names => exact head?_importText names
  | opening depth name =>
      rw [stem, String.toList_append, String.toList_append]
      rfl
  | property depth => exact (by decide : "@property".toList.head? = some '@')
  | getter depth a =>
      simp only [stem, String.toList_append]
      rfl
  | dots depth => exact (by decide : "...".toList.head? = some '.')

theorem unindented_text (l : StubLine) : unindented l.text = l.stem.toList := by
  apply unindented_indentation
  rw [head?_stem]
  cases l <;> simp [initial]

theorem stem_eq_of_text {l k : StubLine} (h : l.text = k.text) : l.stem = k.stem := by
  apply String.toList_injective
  rw [← unindented_text, ← unindented_text, h]

/-- The opening of a class is read in one way only. -/
theorem eq_opening_of_text {l : StubLine} {depth : Nat} {name : String}
    (h : l.text = (opening depth name).text) : ∃ d, l = opening d name := by
  have hstem := stem_eq_of_text h
  have hinitial : l.initial = some 'c' := by
    rw [← head?_stem, hstem, head?_stem]
    rfl
  cases l with
  | opening d other =>
      have hlist := congrArg String.toList hstem
      simp only [stem, String.toList_append, List.append_cancel_left_eq,
        List.append_cancel_right_eq] at hlist
      exact ⟨d, by rw [String.toList_injective hlist]⟩
  | _ => simp [initial] at hinitial

/-! ## Rows of lines -/

/-- Lines that may stand in a class body of the given depth. -/
structure Row (depth : Nat) (ls : List StubLine) : Prop where
  head : ∀ l ∈ ls.head?, l.depth? = some depth
  deep : ∀ l ∈ ls, ∃ d, l.depth? = some d ∧ depth ≤ d
  inOrder : InOrder ls

theorem InOrder.append {xs ys : List StubLine} {depth : Nat} (hx : InOrder xs) (hy : InOrder ys)
    (hdeep : ∀ l ∈ xs, ∃ d, l.depth? = some d ∧ depth ≤ d)
    (hnext : ∀ d ∈ ys.head?.bind depth?, d ≤ depth) : InOrder (xs ++ ys) := by
  induction xs with
  | nil => exact hy
  | cons l rest ih =>
      refine ⟨?_, ih hx.2 fun k hk => hdeep k (List.mem_cons_of_mem l hk)⟩
      cases rest with
      | cons k rest => exact hx.1
      | nil =>
          -- The last line of a row asks for nothing to follow it.
          have hlast : l.Follows none := hx.1
          obtain ⟨d, hd, hle⟩ := hdeep l List.mem_cons_self
          cases l with
          | heading | blank | imports names => simp [depth?] at hd
          | property e => simp [Follows] at hlast
          | opening e name => simp [Follows] at hlast
          | getter e a | dots e =>
              obtain rfl : e = d := Option.some.inj hd
              exact fun d hd => (hnext d hd).trans hle

namespace Row

variable {depth : Nat} {xs ys : List StubLine}

theorem nil : Row depth [] := ⟨by simp, by simp, trivial⟩

theorem append (hx : Row depth xs) (hy : Row depth ys) : Row depth (xs ++ ys) where
  head := by
    cases xs with
    | nil => exact hy.head
    | cons l rest => exact hx.head
  deep := fun l hl => (List.mem_append.mp hl).elim (hx.deep l) (hy.deep l)
  inOrder := by
    refine hx.inOrder.append hy.inOrder hx.deep fun d hd => ?_
    obtain ⟨l, hl, hd⟩ := Option.bind_eq_some_iff.mp hd
    exact (Option.some.inj ((hy.head l hl).symm.trans hd)).ge

theorem dots (depth : Nat) : Row depth [dots depth] :=
  ⟨by simp [depth?], by simp [depth?], by simp [InOrder, Follows]⟩

theorem accessor (depth : Nat) (a : Accessor) : Row depth [property depth, getter depth a] :=
  ⟨by simp [depth?], by simp [depth?], by simp [InOrder, Follows]⟩

theorem flatMap {α : Type} {f : α → List StubLine} {items : List α}
    (h : ∀ x ∈ items, Row depth (f x)) : Row depth (items.flatMap f) := by
  induction items with
  | nil => exact nil
  | cons x items ih =>
      exact (h x List.mem_cons_self).append (ih fun y hy => h y (List.mem_cons_of_mem x hy))

/-- A class is opened in front of its body. -/
theorem opening (hx : Row (depth + 1) xs) (hne : xs ≠ []) (name : String) :
    Row depth (opening depth name :: xs) where
  head := by simp [depth?]
  deep := by
    intro l hl
    rcases List.mem_cons.mp hl with rfl | hl
    · exact ⟨depth, rfl, Nat.le_refl depth⟩
    · obtain ⟨d, hd, hle⟩ := hx.deep l hl
      exact ⟨d, hd, Nat.le_of_succ_le hle⟩
  inOrder := by
    refine ⟨?_, hx.inOrder⟩
    cases xs with
    | nil => exact (hne rfl).elim
    | cons l rest => exact hx.head l rfl

end Row

end StubLine

/-! ## Classes -/

open StubLine

theorem text_opening (depth : Nat) (name : String) :
    (opening depth name).text = ClassNode.opening depth name := by
  simp only [ClassNode.opening, String.append_assoc]
  rfl

/-- An accessor as it is written. -/
def Accessor.outline (depth : Nat) (a : Accessor) : List StubLine :=
  [property depth, getter depth a]

theorem Accessor.map_text_outline (depth : Nat) (a : Accessor) :
    (a.outline depth).map text = a.lines depth := by
  have hgetter : (getter depth a).text =
      indentation depth ++ ("def " ++ a.name ++ "(self) -> " ++ a.type.render ++ ": ...") := rfl
  rw [outline, List.map_cons, List.map_singleton, hgetter, Accessor.lines]
  simp only [String.append_assoc]
  rfl

namespace ClassNode

/-- The class itself or one that is nested in it, at any depth. -/
inductive Within : ClassNode → ClassNode → Prop
  | self (n : ClassNode) : Within n n
  | child {k c n : ClassNode} (hc : c ∈ n.children) (h : Within k c) : Within k n

theorem within_iff {k n : ClassNode} : k.Within n ↔ k = n ∨ ∃ c ∈ n.children, k.Within c := by
  constructor
  · intro h
    cases h with
    | self => exact Or.inl rfl
    | child hc h => exact Or.inr ⟨_, hc, h⟩
  · rintro (rfl | ⟨c, hc, h⟩)
    · exact .self k
    · exact .child hc h

theorem induction {P : ClassNode → Prop} (h : ∀ n, (∀ c ∈ n.children, P c) → P n) (n : ClassNode) :
    P n :=
  h n fun c _ => induction h c
termination_by sizeOf n
decreasing_by
  rename_i hc
  have hlt := List.sizeOf_lt_of_mem hc
  cases n
  simp only [mk.sizeOf_spec]
  simp only at hlt
  omega

theorem Legible.of_within {k n : ClassNode} (h : n.Legible) (hk : k.Within n) : k.Legible := by
  induction hk with
  | self => exact h
  | child hc _ ih => exact ih (h.children _ hc)

theorem mem_written {n : ClassNode} {a : Accessor} :
    a ∈ n.written ↔ a ∈ n.accessors.filter (·.isWritable) ∨ ∃ c ∈ n.children, a ∈ c.written := by
  obtain ⟨name, accessors, children⟩ := n
  rw [written, List.mem_append, mem_writtenAmong_iff_exists]

theorem mem_written_iff_within {n : ClassNode} {a : Accessor} :
    a ∈ n.written ↔ ∃ k : ClassNode, k.Within n ∧ a ∈ k.accessors ∧ a.isWritable := by
  induction n using ClassNode.induction with
  | h n ih =>
      rw [mem_written, List.mem_filter]
      constructor
      · rintro (ha | ⟨c, hc, ha⟩)
        · exact ⟨n, .self n, ha⟩
        · obtain ⟨k, hk, ha⟩ := (ih c hc).mp ha
          exact ⟨k, .child hc hk, ha⟩
      · rintro ⟨k, hk, ha⟩
        rcases within_iff.mp hk with rfl | ⟨c, hc, hk⟩
        · exact Or.inl ha
        · exact Or.inr ⟨c, hc, (ih c hc).mpr ⟨k, hk, ha⟩⟩

/-- Lines that several classes in a row are written as. -/
structure Outline (nodes : List ClassNode) (depth : Nat) (ls : List StubLine) : Prop where
  row : Row depth ls
  text : ls.map StubLine.text = nodes.flatMap (lines depth)
  opening : ∀ name, (∃ d, .opening d name ∈ ls) ↔
    ∃ n ∈ nodes, ∃ k : ClassNode, k.Within n ∧ k.name = name
  getter : ∀ a, (∃ d, .getter d a ∈ ls) ↔ ∃ n ∈ nodes, a ∈ n.written

theorem Outline.nil (depth : Nat) : Outline [] depth [] :=
  ⟨.nil, rfl, by simp, by simp⟩

theorem Outline.append {ns ms : List ClassNode} {depth : Nat} {ls ks : List StubLine}
    (h : Outline ns depth ls) (h' : Outline ms depth ks) : Outline (ns ++ ms) depth (ls ++ ks) where
  row := h.row.append h'.row
  text := by rw [List.map_append, List.flatMap_append, h.text, h'.text]
  opening name := by
    simp only [List.mem_append, exists_or, or_and_right, h.opening name, h'.opening name]
  getter a := by
    simp only [List.mem_append, exists_or, or_and_right, h.getter a, h'.getter a]

theorem exists_outline_of_forall {nodes : List ClassNode} {depth : Nat}
    (h : ∀ n ∈ nodes, ∃ ls, Outline [n] depth ls) : ∃ ls, Outline nodes depth ls := by
  induction nodes with
  | nil => exact ⟨[], .nil depth⟩
  | cons n nodes ih =>
      obtain ⟨ls, hls⟩ := h n List.mem_cons_self
      obtain ⟨ks, hks⟩ := ih fun m hm => h m (List.mem_cons_of_mem n hm)
      exact ⟨ls ++ ks, hls.append hks⟩

/-- The lines of a class body: never none, for dots stand where there would be. -/
theorem exists_body {n : ClassNode} {depth : Nat} {below : List StubLine}
    (h : Outline (sorted n.children) (depth + 1) below) :
    ∃ ls, Row (depth + 1) ls ∧ ls ≠ [] ∧ ls.map text = n.body depth ∧
      (∀ d name, .opening d name ∈ ls ↔ .opening d name ∈ below) ∧
      ∀ d a, .getter d a ∈ ls ↔
        (d = depth + 1 ∧ a ∈ n.accessors.filter (·.isWritable)) ∨ .getter d a ∈ below := by
  have hown : Row (depth + 1)
      ((n.accessors.filter (·.isWritable)).flatMap (Accessor.outline (depth + 1))) :=
    Row.flatMap fun a _ => Row.accessor (depth + 1) a
  have hcontents : ((n.accessors.filter (·.isWritable)).flatMap (Accessor.outline (depth + 1)) ++
      below).map text = n.contents depth := by
    rw [List.map_append, List.map_flatMap, h.text, contents]
    simp only [Accessor.map_text_outline]
  rw [body, ← hcontents, List.isEmpty_map]
  generalize hall : (n.accessors.filter (·.isWritable)).flatMap (Accessor.outline (depth + 1)) ++
    below = all
  have hopening : ∀ d name, .opening d name ∈ all ↔ .opening d name ∈ below := by
    intro d name
    simp [← hall, Accessor.outline]
  have hgetter : ∀ d a, .getter d a ∈ all ↔
      (d = depth + 1 ∧ a ∈ n.accessors.filter (·.isWritable)) ∨ .getter d a ∈ below := by
    intro d a
    rw [← hall, List.mem_append, List.mem_flatMap]
    apply or_congr_left
    constructor
    · rintro ⟨x, hx, hmem⟩
      obtain ⟨rfl, rfl⟩ : d = depth + 1 ∧ a = x := by simpa [Accessor.outline] using hmem
      exact ⟨rfl, hx⟩
    · rintro ⟨rfl, ha⟩
      exact ⟨a, ha, by simp [Accessor.outline]⟩
  cases all with
  | nil =>
      refine ⟨[dots (depth + 1)], Row.dots (depth + 1), List.cons_ne_nil _ _, rfl, ?_, ?_⟩
      · intro d name
        rw [← hopening]
        simp
      · intro d a
        rw [← hgetter]
        simp
  | cons l ls =>
      exact ⟨l :: ls, hall ▸ hown.append h.row, List.cons_ne_nil _ _, rfl, hopening, hgetter⟩

theorem exists_outline_of_below {n : ClassNode} {depth : Nat} {below : List StubLine}
    (h : Outline (sorted n.children) (depth + 1) below) : ∃ ls, Outline [n] depth ls := by
  obtain ⟨ls, hrow, hne, htext, hopening, hgetter⟩ := exists_body h
  refine ⟨.opening depth n.name :: ls, hrow.opening hne n.name, ?_, ?_, ?_⟩
  · rw [List.map_cons, text_opening, htext, List.flatMap_singleton, lines_eq]
  · intro name
    have hbelow := h.opening name
    simp only [(sorted_perm n.children).mem_iff, ← hopening] at hbelow
    constructor
    · rintro ⟨d, hd⟩
      rcases List.mem_cons.mp hd with heq | hd
      · obtain ⟨-, rfl⟩ := StubLine.opening.inj heq
        exact ⟨n, List.mem_singleton_self n, n, .self n, rfl⟩
      · obtain ⟨c, hc, k, hk, hname⟩ := hbelow.mp ⟨d, hd⟩
        exact ⟨n, List.mem_singleton_self n, k, .child hc hk, hname⟩
    · rintro ⟨m, hm, k, hk, hname⟩
      obtain rfl := List.mem_singleton.mp hm
      rcases within_iff.mp hk with rfl | ⟨c, hc, hk⟩
      · exact ⟨depth, hname ▸ List.mem_cons_self⟩
      · obtain ⟨d, hd⟩ := hbelow.mpr ⟨c, hc, k, hk, hname⟩
        exact ⟨d, List.mem_cons_of_mem _ hd⟩
  · intro a
    have hbelow := h.getter a
    simp only [(sorted_perm n.children).mem_iff] at hbelow
    have hone : (∃ m ∈ [n], a ∈ m.written) ↔ a ∈ n.written := by simp
    rw [hone, mem_written, ← hbelow]
    simp [hgetter, exists_or]

/-- Every class is written as lines of a row. -/
theorem exists_outline_singleton (n : ClassNode) (depth : Nat) : ∃ ls, Outline [n] depth ls := by
  induction n using ClassNode.induction generalizing depth with
  | h n ih =>
      have hbelow : ∃ below, Outline (sorted n.children) (depth + 1) below :=
        exists_outline_of_forall fun c hc =>
          ih c ((sorted_perm n.children).mem_iff.mp hc) (depth + 1)
      obtain ⟨below, hbelow⟩ := hbelow
      exact exists_outline_of_below hbelow

end ClassNode

/-! ## Modules -/

open ClassNode

/-- A text of well-formed lines in which the name of every class can be written. -/
def IsStub (text : String) : Prop :=
  ∃ ls : List StubLine, splitAt '\n' text = ls.map StubLine.text ++ [""] ∧
    StubLine.WellFormed ls ∧ ∀ depth name, .opening depth name ∈ ls → isUsableName name

namespace ModuleNode

/-- The classes of a module, nested ones included. -/
def Holds (m : ModuleNode) (k : ClassNode) : Prop := ∃ n ∈ m.classes, k.Within n

/-- All accessors have the types of members. -/
def Typed (m : ModuleNode) : Prop := ∀ k, m.Holds k → ∀ a ∈ k.accessors, a.type.OfMember

/-- The accessors that are written. -/
def Emits (m : ModuleNode) (a : Accessor) : Prop :=
  ∃ k, m.Holds k ∧ a ∈ k.accessors ∧ a.isWritable

theorem emits_iff {m : ModuleNode} {a : Accessor} : m.Emits a ↔ ∃ n ∈ m.classes, a ∈ n.written := by
  simp only [Emits, Holds, mem_written_iff_within]
  constructor
  · rintro ⟨k, ⟨n, hn, hk⟩, ha⟩
    exact ⟨n, hn, k, hk, ha⟩
  · rintro ⟨n, hn, k, hk, ha⟩
    exact ⟨k, ⟨n, hn, hk⟩, ha⟩

/-- Lines that the blocks of several classes are written as. -/
structure Blocks (nodes : List ClassNode) (ls : List StubLine) : Prop where
  text : ls.map StubLine.text = nodes.flatMap fun n => ["", ""] ++ n.lines 0
  head : ls.head?.bind depth? = none
  plain : ∀ l ∈ ls, l ≠ .heading ∧ l.isImport = false
  inOrder : InOrder ls
  opening : ∀ name, (∃ d, .opening d name ∈ ls) ↔
    ∃ n ∈ nodes, ∃ k : ClassNode, k.Within n ∧ k.name = name
  getter : ∀ a, (∃ d, .getter d a ∈ ls) ↔ ∃ n ∈ nodes, a ∈ n.written

theorem Blocks.cons {n : ClassNode} {nodes : List ClassNode} {ls ks : List StubLine}
    (h : ClassNode.Outline [n] 0 ls) (hrest : Blocks nodes ks) :
    Blocks (n :: nodes) (blank :: blank :: (ls ++ ks)) where
  text := by
    rw [List.map_cons, List.map_cons, List.map_append, h.text, hrest.text, List.flatMap_singleton]
    rfl
  head := rfl
  plain := by
    intro l hl
    rcases List.mem_cons.mp hl with rfl | hl
    · simp [isImport]
    rcases List.mem_cons.mp hl with rfl | hl
    · simp [isImport]
    rcases List.mem_append.mp hl with hl | hl
    · obtain ⟨d, hd, -⟩ := h.row.deep l hl
      cases l with
      | heading | blank | imports names => simp [depth?] at hd
      | _ => simp [isImport]
    · exact hrest.plain l hl
  inOrder := by
    refine ⟨by simp [Follows, depth?], ?_, h.row.inOrder.append hrest.inOrder h.row.deep ?_⟩
    · intro d hd
      obtain ⟨l, hl, hd⟩ := Option.bind_eq_some_iff.mp hd
      cases ls with
      | nil => exact (ClassNode.lines_ne_nil 0 n (by simpa using h.text.symm)).elim
      | cons k ls =>
          obtain rfl := Option.some.inj hl
          exact Option.some.inj (hd.symm.trans (h.row.head k rfl))
    · simp [hrest.head]
  opening name := by
    have hfirst := h.opening name
    have hothers := hrest.opening name
    simp only [List.mem_singleton, exists_eq_left] at hfirst
    simp only [List.mem_cons, reduceCtorEq, false_or, List.mem_append, exists_or, hfirst, hothers,
      or_and_right, exists_eq_left]
  getter a := by
    have hfirst := h.getter a
    have hothers := hrest.getter a
    simp only [List.mem_singleton, exists_eq_left] at hfirst
    simp only [List.mem_cons, reduceCtorEq, false_or, List.mem_append, exists_or, hfirst, hothers,
      or_and_right, exists_eq_left]

theorem exists_blocks (nodes : List ClassNode) : ∃ ls, Blocks nodes ls := by
  induction nodes with
  | nil => exact ⟨[], rfl, rfl, by simp, trivial, by simp, by simp⟩
  | cons n nodes ih =>
      obtain ⟨ls, hls⟩ := exists_outline_singleton n 0
      obtain ⟨ks, hks⟩ := ih
      exact ⟨_, hks.cons hls⟩

/-- Lines that a module is written as. -/
structure Outline (m : ModuleNode) (ls : List StubLine) : Prop where
  text : ls.map StubLine.text = m.lines
  heading : ∃ rest, ls = .heading :: rest ∧ .heading ∉ rest
  imports : ls.countP isImport ≤ 1
  inOrder : InOrder ls
  opening : ∀ name, (∃ d, .opening d name ∈ ls) ↔ ∃ k, m.Holds k ∧ k.name = name
  getter : ∀ a, (∃ d, .getter d a ∈ ls) ↔ m.Emits a

/-- The lines that are written for the names to import. -/
def importOutline (names : List String) : List StubLine :=
  if names.isEmpty then [] else [blank, imports names]

theorem importOutline_cases (names : List String) :
    importOutline names = [] ∨ importOutline names = [blank, imports names] := by
  unfold importOutline
  split
  · exact Or.inl rfl
  · exact Or.inr rfl

theorem map_text_importOutline (names : List String) :
    (importOutline names).map StubLine.text = importLines names := by
  have himport : (imports names).text = importText names := String.empty_append
  unfold importOutline importLines
  split
  · rfl
  · rw [List.map_cons, List.map_singleton, himport]
    rfl

/-- The lines of every module can be read. -/
theorem exists_outline (m : ModuleNode) : ∃ ls, m.Outline ls := by
  obtain ⟨ls, hls⟩ := exists_blocks (sorted m.classes)
  have hopening := hls.opening
  have hgetter := hls.getter
  simp only [(sorted_perm m.classes).mem_iff] at hopening hgetter
  have hheading : StubLine.heading.text = header := String.empty_append
  have hplain : ls.countP isImport = 0 :=
    List.countP_eq_zero.mpr fun l hl => by simp [(hls.plain l hl).2]
  have hholds : ∀ name, (∃ k, m.Holds k ∧ k.name = name) ↔
      ∃ n ∈ m.classes, ∃ k : ClassNode, k.Within n ∧ k.name = name := by
    intro name
    simp only [Holds]
    tauto
  refine ⟨.heading :: (importOutline m.typingNames ++ ls), ?_, ⟨_, rfl, ?_⟩, ?_, ?_, ?_, ?_⟩
  · rw [List.map_cons, List.map_append, map_text_importOutline, hls.text, lines_eq, hheading]
    rfl
  · intro hmem
    have hmem : .heading ∈ ls := by
      rcases importOutline_cases m.typingNames with hnames | hnames <;> simpa [hnames] using hmem
    exact (hls.plain _ hmem).1 rfl
  · rcases importOutline_cases m.typingNames with hnames | hnames <;>
      simp [hnames, List.countP_cons, isImport, hplain]
  · rcases importOutline_cases m.typingNames with hnames | hnames <;>
      simp [hnames, InOrder, Follows, depth?, hls.head, hls.inOrder]
  · intro name
    rw [hholds, ← hopening]
    rcases importOutline_cases m.typingNames with hnames | hnames <;> simp [hnames]
  · intro a
    rw [emits_iff, ← hgetter]
    rcases importOutline_cases m.typingNames with hnames | hnames <;> simp [hnames]

/-! ## Texts -/

theorem legible_of_typed {m : ModuleNode} (hm : m.Typed)
    (hline : ∀ k, m.Holds k → '\n' ∉ k.name.toList) : m.Legible := by
  have hclass : ∀ n : ClassNode, (∀ k : ClassNode, k.Within n → m.Holds k) → n.Legible := by
    intro n
    induction n using ClassNode.induction with
    | h n ih =>
        intro hbelow
        have hn := hbelow n (.self n)
        obtain ⟨name, accessors, children⟩ := n
        exact .node (hline _ hn) (hm _ hn) fun c hc => ih c hc fun k hk => hbelow k (.child hc hk)
  exact fun n hn => hclass n fun k hk => ⟨n, hn, hk⟩

theorem typed_of_legible {m : ModuleNode} (hm : m.Legible) : m.Typed := by
  rintro k ⟨n, hn, hk⟩
  cases (hm n hn).of_within hk with
  | node _ types _ => exact types

theorem splitAt_text_eq_flatMap (m : ModuleNode) :
    splitAt '\n' m.text = m.lines.flatMap (splitAt '\n') ++ [""] := by
  rw [text, splitAt_lines]
  rw [lines_eq]
  exact List.cons_ne_nil _ _

theorem splitAt_text {m : ModuleNode} (hm : m.Legible) :
    splitAt '\n' m.text = m.lines ++ [""] := by
  rw [splitAt_text_eq_flatMap,
    List.flatMap_congr fun l hl => splitAt_of_notMem (notMem_of_mem_lines hm hl),
    List.flatMap_singleton']

theorem Outline.wellFormed {m : ModuleNode} {ls : List StubLine} (h : m.Outline ls) (hm : m.Typed) :
    StubLine.WellFormed ls where
  heading := h.heading
  imports := h.imports
  inOrder := h.inOrder
  getter := by
    intro depth a ha
    obtain ⟨k, hk, hmem, hwritable⟩ := (h.getter a).mp ⟨depth, ha⟩
    exact ⟨hwritable, hm k hk a hmem⟩

/-- The text of a module whose class names can be written is a stub. Where class names keep to one
line, the text is that of well-formed lines in any case, but it is a stub only if every class name
can be written. -/
theorem text_isStub {m : ModuleNode} (hm : m.Typed) (log : Array Record) :
    ((∀ k, m.Holds k → isUsableName k.name) → IsStub (m.render.run log).1) ∧
    ((∀ k, m.Holds k → '\n' ∉ k.name.toList) →
      (∃ ls : List StubLine, splitAt '\n' (m.render.run log).1 = ls.map StubLine.text ++ [""] ∧
        StubLine.WellFormed ls ∧
        ∀ name, (∃ depth, .opening depth name ∈ ls) ↔ ∃ k, m.Holds k ∧ k.name = name) ∧
      (IsStub (m.render.run log).1 → ∀ k, m.Holds k → isUsableName k.name)) := by
  rw [render_text]
  obtain ⟨ls, hls⟩ := m.exists_outline
  have hread : (∀ k, m.Holds k → '\n' ∉ k.name.toList) →
      splitAt '\n' m.text = ls.map StubLine.text ++ [""] := by
    intro hline
    rw [splitAt_text (legible_of_typed hm hline), hls.text]
  refine ⟨fun hnames => ?_, fun hline => ⟨⟨ls, hread hline, hls.wellFormed hm, hls.opening⟩, ?_⟩⟩
  · refine ⟨ls, hread fun k hk => ?_, hls.wellFormed hm, fun depth name hmem => ?_⟩
    · exact notMem_of_isUsableName (by rfl) (by rfl) (hnames k hk)
    · obtain ⟨k, hk, rfl⟩ := (hls.opening name).mp ⟨depth, hmem⟩
      exact hnames k hk
  · -- However the text is read, the opening of a class is read as such.
    rintro ⟨ks, hks, -, hnames⟩ k hk
    obtain ⟨depth, hmem⟩ := (hls.opening k.name).mpr ⟨k, hk, rfl⟩
    have hsame : ls.map StubLine.text = ks.map StubLine.text :=
      List.append_cancel_right ((hread hline).symm.trans hks)
    have htext := List.mem_map_of_mem (f := StubLine.text) hmem
    rw [hsame] at htext
    obtain ⟨l, hl, heq⟩ := List.mem_map.mp htext
    obtain ⟨d, rfl⟩ := eq_opening_of_text heq
    exact hnames d k.name hl

/-- A class whose name cannot follow `class`. -/
def hyphened : ModuleNode := ⟨"app", [⟨"my-report", [⟨"size", ⟨"str", false⟩⟩], []⟩]⟩

theorem text_isStub_of_hyphened :
    StubTree.basketFirst.Typed ∧ IsStub (StubTree.basketFirst.render.run #[]).1 ∧
    hyphened.Typed ∧ ¬ IsStub (hyphened.render.run #[]).1 := by
  have hbasket : StubTree.basketFirst.Typed := typed_of_legible StubTree.legible_basketFirst
  have hclass : hyphened.Holds ⟨"my-report", [⟨"size", ⟨"str", false⟩⟩], []⟩ :=
    ⟨_, List.mem_singleton_self _, .self _⟩
  have honly : ∀ k, hyphened.Holds k → k = ⟨"my-report", [⟨"size", ⟨"str", false⟩⟩], []⟩ := by
    rintro k ⟨n, hn, hk⟩
    obtain rfl := List.mem_singleton.mp hn
    rcases within_iff.mp hk with rfl | ⟨c, hc, -⟩
    · rfl
    · simp at hc
  have htyped : hyphened.Typed := by
    intro k hk
    rw [honly k hk]
    exact List.forall_mem_singleton.mpr ⟨⟨"size", .string, true, false⟩, rfl⟩
  refine ⟨hbasket, (text_isStub hbasket #[]).1 ?_, htyped, fun hstub => ?_⟩
  · rintro k ⟨n, hn, hk⟩
    simp only [StubTree.basketFirst, List.mem_cons, List.not_mem_nil, or_false] at hn
    rcases hn with rfl | rfl
    · rcases within_iff.mp hk with rfl | ⟨c, hc, hk⟩
      · decide
      · simp at hc
    · rcases within_iff.mp hk with rfl | ⟨c, hc, hk⟩
      · decide
      · obtain rfl := List.mem_singleton.mp hc
        rcases within_iff.mp hk with rfl | ⟨c, hc, -⟩
        · decide
        · simp at hc
  · have hline : ∀ k, hyphened.Holds k → '\n' ∉ k.name.toList := by
      intro k hk
      rw [honly k hk]
      decide
    have husable := ((text_isStub htyped #[]).2 hline).2 hstub _ hclass
    exact absurd husable (by decide)

end ModuleNode

end TypeStubs
