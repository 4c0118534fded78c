import Mathlib.Data.List.Sublists
import TypeStubs.Proofs.Rendering

/-!
# What is shown can be read back

Every line of a class is indented by four spaces for each class around it, so a class goes on until
a line is indented no more than its first one. The text of a module therefore determines which
classes there are and which accessors they show, and the order of creation leaves no trace in it.
-/

namespace TypeStubs

/-! ## Types -/

/-- The type of some member. -/
def Annotation.OfMember (a : Annotation) : Prop := ∃ spec : ArgumentSpec, spec.accessorType = a

theorem TypeTag.accessorBase_injective : Function.Injective TypeTag.accessorBase := by
  intro t u h
  cases t <;> cases u <;> first | rfl | simp [accessorBase] at h

theorem TypeTag.head?_accessorBase (t : TypeTag) : t.accessorBase.toList.head? ≠ some 'O' := by
  cases t <;> decide

theorem Annotation.render_injective {a b : Annotation} (ha : a.OfMember) (hb : b.OfMember)
    (h : a.render = b.render) : a = b := by
  obtain ⟨x, rfl⟩ := ha
  obtain ⟨y, rfl⟩ := hb
  have hwrap : ∀ base : String,
      ("Optional[" ++ base ++ "]").toList = "Optional[".toList ++ (base.toList ++ "]".toList) :=
    fun base => by simp only [String.toList_append, List.append_assoc]
  have hmark : ∀ (base : String) (t : TypeTag), "Optional[" ++ base ++ "]" ≠ t.accessorBase := by
    intro base t heq
    apply t.head?_accessorBase
    rw [← heq, hwrap]
    rfl
  unfold render ArgumentSpec.accessorType at *
  dsimp only at *
  split at h <;> split at h
  · rename_i hx hy
    have hbase := congrArg String.toList h
    rw [hwrap, hwrap, List.append_cancel_left_eq, List.append_cancel_right_eq] at hbase
    rw [TypeTag.accessorBase_injective (String.toList_injective hbase), hx, hy]
  · exact (hmark _ _ h).elim
  · exact (hmark _ _ h.symm).elim
  · rename_i hx hy
    rw [TypeTag.accessorBase_injective h, Bool.eq_false_iff.mpr hx, Bool.eq_false_iff.mpr hy]

theorem Annotation.notMem_render {a : Annotation} (h : a.OfMember) : '\n' ∉ a.render.toList := by
  obtain ⟨spec, rfl⟩ := h
  have hbase : ∀ t : TypeTag, '\n' ∉ t.accessorBase.toList := by
    intro t
    cases t <;> decide
  unfold Annotation.render
  split
  · simp only [String.toList_append, List.mem_append, not_or]
    exact ⟨⟨by decide, hbase spec.type⟩, by decide⟩
  · exact hbase spec.type

/-! ## Indentation -/

/-- The first character after the indentation of a depth. -/
def mark (depth : Nat) (line : String) : Option Char := (line.toList.drop (4 * depth)).head?

def Indented (depth : Nat) (line : String) : Prop := ∃ rest, line = indentation depth ++ rest

theorem indentation_succ (depth : Nat) : indentation (depth + 1) = indentation depth ++ "    " := by
  apply String.toList_injective
  rw [String.toList_append, indentation, indentation, String.toList_ofList, String.toList_ofList,
    Nat.mul_add, List.replicate_add]
  rfl

theorem Indented.of_succ {depth : Nat} {line : String} (h : Indented (depth + 1) line) :
    Indented depth line := by
  obtain ⟨rest, rfl⟩ := h
  exact ⟨"    " ++ rest, by rw [indentation_succ, String.append_assoc]⟩

theorem mark_indentation (depth : Nat) (rest : String) :
    mark depth (indentation depth ++ rest) = rest.toList.head? := by
  rw [mark, String.toList_append, indentation, String.toList_ofList,
    List.drop_left' List.length_replicate]

theorem Indented.mark {depth : Nat} {line : String} (h : Indented (depth + 1) line) :
    mark depth line = some ' ' := by
  obtain ⟨rest, rfl⟩ := h
  rw [indentation_succ, String.append_assoc, mark_indentation, String.toList_append]
  rfl

theorem indentation_inj {depth : Nat} {s t : String}
    (h : indentation depth ++ s = indentation depth ++ t) : s = t := by
  have hlist := congrArg String.toList h
  rw [String.toList_append, String.toList_append, List.append_cancel_left_eq] at hlist
  exact String.toList_injective hlist

theorem notMem_indentation (depth : Nat) : '\n' ∉ (indentation depth).toList := by
  rw [indentation, String.toList_ofList]
  intro h
  exact absurd (List.eq_of_mem_replicate h) (by decide)

/-- Two lists are told apart from what follows them where a property ends. -/
theorem append_inj_of_head {α : Type} {p : α → Prop} {xs ys r s : List α} (hxs : ∀ x ∈ xs, p x)
    (hys : ∀ y ∈ ys, p y) (hr : ∀ x ∈ r.head?, ¬ p x) (hs : ∀ x ∈ s.head?, ¬ p x)
    (h : xs ++ r = ys ++ s) : xs = ys ∧ r = s := by
  induction xs generalizing ys with
  | nil =>
      cases ys with
      | nil => exact ⟨rfl, h⟩
      | cons y ys =>
          obtain rfl : r = y :: (ys ++ s) := h
          exact (hr y rfl (hys y List.mem_cons_self)).elim
  | cons x xs ih =>
      cases ys with
      | nil =>
          obtain rfl : x :: (xs ++ r) = s := h
          exact (hs x rfl (hxs x List.mem_cons_self)).elim
      | cons y ys =>
          obtain ⟨rfl, hrest⟩ := List.cons.inj h
          obtain ⟨rfl, rfl⟩ := ih (fun z hz => hxs z (List.mem_cons_of_mem x hz))
            (fun z hz => hys z (List.mem_cons_of_mem x hz)) hrest
          exact ⟨rfl, rfl⟩

/-! ## Accessors -/

theorem notMem_of_isUsableName {c : Char} (hstart : Text.isIdentifierStart c = false)
    (hpart : Text.isIdentifierPart c = false) {s : String} (h : Text.isUsableName s) :
    c ∉ s.toList := by
  rw [Text.isUsableName, Bool.and_eq_true, Text.isIdentifier] at h
  cases hlist : s.toList with
  | nil => exact List.not_mem_nil
  | cons d ds =>
      simp only [hlist, Bool.and_eq_true, List.all_eq_true] at h
      intro hc
      rcases List.mem_cons.mp hc with rfl | hc
      · rw [hstart] at h
        exact Bool.noConfusion h.1.1
      · exact Bool.noConfusion (hpart.symm.trans (h.1.2 c hc))

namespace Accessor

theorem notMem_name {a : Accessor} (h : a.isWritable) : '\n' ∉ a.name.toList :=
  notMem_of_isUsableName (by rfl) (by rfl) h

theorem indented_of_mem_lines {depth : Nat} {a : Accessor} {l : String} (h : l ∈ a.lines depth) :
    Indented depth l := by
  rw [lines, List.mem_cons, List.mem_singleton] at h
  rcases h with rfl | rfl
  · exact ⟨_, rfl⟩
  · exact ⟨"def " ++ (a.name ++ ("(self) -> " ++ (a.type.render ++ ": ..."))),
      by simp only [String.append_assoc]⟩

theorem notMem_of_mem_lines {depth : Nat} {a : Accessor} (hw : a.isWritable)
    (ht : a.type.OfMember) {l : String} (h : l ∈ a.lines depth) : '\n' ∉ l.toList := by
  rw [lines, List.mem_cons, List.mem_singleton] at h
  rcases h with rfl | rfl
  · rw [String.toList_append, List.mem_append, not_or]
    exact ⟨notMem_indentation depth, by decide⟩
  · simp only [String.toList_append, List.mem_append, not_or]
    exact ⟨⟨⟨⟨⟨notMem_indentation depth, by decide⟩, notMem_name hw⟩, by decide⟩,
      Annotation.notMem_render ht⟩, by decide⟩

/-- The line of an accessor determines it. -/
theorem lines_injective {depth : Nat} {a b : Accessor} (ha : a.isWritable) (hb : b.isWritable)
    (hat : a.type.OfMember) (hbt : b.type.OfMember) (h : a.lines depth = b.lines depth) :
    a = b := by
  rw [lines, lines] at h
  have hline := (List.cons.inj (List.cons.inj h).2).1
  simp only [String.append_assoc] at hline
  have hlist := congrArg String.toList (indentation_inj hline)
  simp only [String.toList_append, List.append_cancel_left_eq] at hlist
  -- A name that can be written holds no parenthesis.
  have hfree : ∀ {c : Accessor}, c.isWritable → ∀ x ∈ c.name.toList, x ≠ '(' := by
    rintro c hc x hx rfl
    exact notMem_of_isUsableName (by rfl) (by rfl) hc hx
  have hparenthesis : ∀ (rest : List Char), ∀ x ∈ ("(self) -> ".toList ++ rest).head?, ¬ x ≠ '(' :=
    fun rest x hx => not_not.mpr (Option.some.inj hx).symm
  obtain ⟨hname, hrest⟩ := append_inj_of_head (hfree ha) (hfree hb) (hparenthesis _)
    (hparenthesis _) hlist
  rw [List.append_cancel_left_eq, List.append_cancel_right_eq] at hrest
  have htype := Annotation.render_injective hat hbt (String.toList_injective hrest)
  have hname := String.toList_injective hname
  cases a
  cases b
  cases hname
  cases htype
  rfl

/-- Several accessors are read off one after the other, up to a line that starts no accessor. -/
theorem flatMap_lines_inj {depth : Nat} {as bs : List Accessor}
    (has : ∀ a ∈ as, a.isWritable ∧ a.type.OfMember)
    (hbs : ∀ b ∈ bs, b.isWritable ∧ b.type.OfMember) {r s : List String}
    (hr : ∀ l ∈ r.head?, mark depth l ≠ some '@') (hs : ∀ l ∈ s.head?, mark depth l ≠ some '@')
    (h : as.flatMap (lines depth) ++ r = bs.flatMap (lines depth) ++ s) : as = bs ∧ r = s := by
  have hmark : mark depth (indentation depth ++ "@property") = some '@' := by
    rw [mark_indentation]
    rfl
  induction as generalizing bs with
  | nil =>
      cases bs with
      | nil => exact ⟨rfl, h⟩
      | cons b bs =>
          rw [List.flatMap_nil, List.nil_append, List.flatMap_cons] at h
          subst h
          exact (hr _ rfl hmark).elim
  | cons a as ih =>
      cases bs with
      | nil =>
          rw [List.flatMap_nil, List.nil_append, List.flatMap_cons] at h
          subst h
          exact (hs _ rfl hmark).elim
      | cons b bs =>
          rw [List.flatMap_cons, List.flatMap_cons, List.append_assoc, List.append_assoc] at h
          obtain ⟨hab, hrest⟩ := List.append_inj h rfl
          obtain ⟨ha, hat⟩ := has a List.mem_cons_self
          obtain ⟨hb, hbt⟩ := hbs b List.mem_cons_self
          obtain rfl := lines_injective ha hb hat hbt hab
          obtain ⟨rfl, rfl⟩ := ih (fun c hc => has c (List.mem_cons_of_mem a hc))
            (fun c hc => hbs c (List.mem_cons_of_mem a hc)) hrest
          exact ⟨rfl, rfl⟩

end Accessor

/-! ## Siblings in the order of their names -/

theorem insertByName_map {α β : Type} (f : α → β) (item : String × α)
    (items : List (String × α)) :
    insertByName (Prod.map id f item) (items.map (Prod.map id f)) =
      (insertByName item items).map (Prod.map id f) := by
  induction items with
  | nil => rfl
  | cons other rest ih =>
      rw [List.map_cons, insertByName, insertByName, ih]
      change (if item.1 ≤ other.1 then _ else _) = _
      split <;> rfl

theorem sortByName_map {α β : Type} (f : α → β) (items : List (String × α)) :
    sortByName (items.map (Prod.map id f)) = (sortByName items).map (Prod.map id f) := by
  induction items with
  | nil => rfl
  | cons item items ih =>
      change insertByName _ (sortByName _) = (insertByName item (sortByName items)).map _
      rw [ih, insertByName_map]

namespace ClassNode

def sorted (nodes : List ClassNode) : List ClassNode :=
  (sortByName (nodes.map fun n => (n.name, n))).map Prod.snd

theorem sorted_perm (nodes : List ClassNode) : (sorted nodes).Perm nodes := by
  have h := (sortByName_perm (nodes.map fun n => (n.name, n))).map Prod.snd
  rwa [List.map_map, Function.comp_def, List.map_id''] at h
  exact fun _ => rfl

theorem flatMap_sortedLines (depth : Nat) (nodes : List ClassNode) (f : List String → List String) :
    (sortedLines depth nodes).flatMap (fun c => f c.2) =
      (sorted nodes).flatMap fun n => f (n.lines depth) := by
  have hmap : nodes.map (fun n => (n.name, n.lines depth)) =
      (nodes.map fun n => (n.name, n)).map (Prod.map id (lines depth)) := by
    rw [List.map_map]
    rfl
  rw [sortedLines_eq, hmap, sortByName_map, sorted, List.flatMap_map, List.flatMap_map]
  rfl

/-! ## The lines of a class -/

def opening (depth : Nat) (name : String) : String := indentation depth ++ "class " ++ name ++ ":"

def contents (depth : Nat) (n : ClassNode) : List String :=
  (n.accessors.filter (·.isWritable)).flatMap (Accessor.lines (depth + 1)) ++
    (sorted n.children).flatMap (lines (depth + 1))

def body (depth : Nat) (n : ClassNode) : List String :=
  if (n.contents depth).isEmpty then [indentation (depth + 1) ++ "..."] else n.contents depth

theorem lines_eq (depth : Nat) (n : ClassNode) :
    n.lines depth = opening depth n.name :: n.body depth := by
  obtain ⟨name, accessors, children⟩ := n
  have hsorted : (sortedLines (depth + 1) children).flatMap Prod.snd =
      (sorted children).flatMap (lines (depth + 1)) :=
    flatMap_sortedLines (depth + 1) children id
  rw [lines, body, contents, hsorted]
  rfl

theorem opening_injective {depth : Nat} {name other : String}
    (h : opening depth name = opening depth other) : name = other := by
  simp only [opening, String.append_assoc] at h
  have hlist := congrArg String.toList (indentation_inj h)
  simp only [String.toList_append, List.append_cancel_left_eq, List.append_cancel_right_eq]
    at hlist
  exact String.toList_injective hlist

theorem mark_opening (depth : Nat) (name : String) :
    mark depth (opening depth name) = some 'c' := by
  rw [opening, String.append_assoc, String.append_assoc, mark_indentation, String.toList_append]
  rfl

theorem mark_head_flatMap_lines (depth : Nat) (nodes : List ClassNode) :
    ∀ l ∈ (nodes.flatMap (lines depth)).head?, mark depth l = some 'c' := by
  cases nodes with
  | nil => simp
  | cons n nodes =>
      rw [List.flatMap_cons, lines_eq]
      rintro l ⟨⟩
      exact mark_opening depth n.name

theorem indented_of_mem_lines {n : ClassNode} (hn : n.Distinct) {depth : Nat} {l : String}
    (h : l ∈ n.lines depth) : Indented depth l ∧ (l ∈ n.body depth → Indented (depth + 1) l) := by
  induction hn generalizing depth l with
  | @node name accessors children names below ih =>
      have hbody : ∀ k ∈ body depth ⟨name, accessors, children⟩, Indented (depth + 1) k := by
        intro k hk
        rw [body] at hk
        split at hk
        · rw [List.mem_singleton.mp hk]
          exact ⟨_, rfl⟩
        · rcases List.mem_append.mp hk with hk | hk
          · obtain ⟨a, -, hk⟩ := List.mem_flatMap.mp hk
            exact Accessor.indented_of_mem_lines hk
          · obtain ⟨c, hc, hk⟩ := List.mem_flatMap.mp hk
            exact (ih c ((sorted_perm children).mem_iff.mp hc) hk).1
      refine ⟨?_, hbody l⟩
      rw [lines_eq] at h
      rcases List.mem_cons.mp h with rfl | h
      · exact ⟨"class " ++ (name ++ ":"), by simp only [opening, String.append_assoc]⟩
      · exact (hbody l h).of_succ

theorem mark_of_mem_body {n : ClassNode} (hn : n.Distinct) {depth : Nat} {l : String}
    (h : l ∈ n.body depth) : mark depth l = some ' ' := by
  have hmem : l ∈ n.lines depth := by
    rw [lines_eq]
    exact List.mem_cons_of_mem _ h
  exact ((indented_of_mem_lines hn hmem).2 h).mark

/-! ## Reading a class -/

/-- A class whose name, like the names of the classes in it, stands on one line, and whose
accessors have the types of members. -/
inductive Legible : ClassNode → Prop
  | node {name : String} {accessors : List Accessor} {children : List ClassNode}
      (line : '\n' ∉ name.toList) (types : ∀ a ∈ accessors, a.type.OfMember)
      (below : ∀ n ∈ children, Legible n) : Legible ⟨name, accessors, children⟩

theorem Legible.line {n : ClassNode} (h : n.Legible) : '\n' ∉ n.name.toList := by
  cases h with
  | node line _ _ => exact line

theorem Legible.written {n : ClassNode} (h : n.Legible) :
    ∀ a ∈ n.accessors.filter (·.isWritable), a.isWritable ∧ a.type.OfMember := by
  cases h with
  | node _ types _ =>
      intro a ha
      obtain ⟨ha, hw⟩ := List.mem_filter.mp ha
      exact ⟨hw, types a ha⟩

theorem Legible.children {n : ClassNode} (h : n.Legible) : ∀ c ∈ n.children, c.Legible := by
  cases h with
  | node _ _ below => exact below

theorem Legible.notMem {n : ClassNode} (h : n.Legible) {depth : Nat} {l : String}
    (hl : l ∈ n.lines depth) : '\n' ∉ l.toList := by
  induction h generalizing depth l with
  | @node name accessors children line types below ih =>
      have hwritten := (Legible.node line types below).written
      rw [lines_eq] at hl
      rcases List.mem_cons.mp hl with rfl | hl
      · simp only [opening, String.toList_append, List.mem_append, not_or]
        exact ⟨⟨⟨notMem_indentation depth, by decide⟩, line⟩, by decide⟩
      · rw [body] at hl
        split at hl
        · rw [List.mem_singleton.mp hl, String.toList_append, List.mem_append, not_or]
          exact ⟨notMem_indentation (depth + 1), by decide⟩
        · rcases List.mem_append.mp hl with hl | hl
          · obtain ⟨a, ha, hl⟩ := List.mem_flatMap.mp hl
            exact Accessor.notMem_of_mem_lines (hwritten a ha).1 (hwritten a ha).2 hl
          · obtain ⟨c, hc, hl⟩ := List.mem_flatMap.mp hl
            exact ih c ((sorted_perm children).mem_iff.mp hc) hl

/-- Two classes of one name that show the same. -/
def Alike (n m : ClassNode) : Prop := n.name = m.name ∧ ∀ path, n.shownAt path = m.shownAt path

theorem mark_head_contents (depth : Nat) (n : ClassNode) :
    ∀ l ∈ (n.contents depth).head?, mark (depth + 1) l ≠ some '.' := by
  rw [contents]
  cases n.accessors.filter (·.isWritable) with
  | nil =>
      intro l hl hdot
      have hclass := mark_head_flatMap_lines (depth + 1) (sorted n.children) l hl
      rw [hclass] at hdot
      simp at hdot
  | cons a as =>
      rintro l ⟨⟩
      rw [mark_indentation]
      decide

theorem contents_eq_of_body {n m : ClassNode} {depth : Nat} (h : n.body depth = m.body depth) :
    n.contents depth = m.contents depth := by
  have hdots : ∀ k : ClassNode, k.contents depth ≠ [indentation (depth + 1) ++ "..."] := by
    intro k hk
    apply mark_head_contents depth k (indentation (depth + 1) ++ "...")
    · rw [hk]
      rfl
    · rw [mark_indentation]
      rfl
  rw [body, body] at h
  split at h <;> split at h
  · rename_i hn hm
    rw [List.isEmpty_iff.mp hn, List.isEmpty_iff.mp hm]
  · exact (hdots m h.symm).elim
  · exact (hdots n h).elim
  · exact h

/-- The lines of a class split at the end of its accessors. -/
theorem contents_inj {n m : ClassNode} (hn : n.Legible) (hm : m.Legible) {depth : Nat}
    (h : n.contents depth = m.contents depth) :
    n.accessors.filter (·.isWritable) = m.accessors.filter (·.isWritable) ∧
      (sorted n.children).flatMap (lines (depth + 1)) =
        (sorted m.children).flatMap (lines (depth + 1)) := by
  have hclass : ∀ nodes : List ClassNode,
      ∀ l ∈ (nodes.flatMap (lines (depth + 1))).head?, mark (depth + 1) l ≠ some '@' := by
    intro nodes l hl hat
    rw [mark_head_flatMap_lines (depth + 1) nodes l hl] at hat
    simp at hat
  exact Accessor.flatMap_lines_inj hn.written hm.written (hclass _) (hclass _) h

/-- If each class can be told apart from what follows it, so can several in a row. -/
theorem forall₂_of_flatMap_lines {depth : Nat} {ns ms : List ClassNode}
    (hinj : ∀ n ∈ ns, ∀ m ∈ ms, ∀ r s : List String,
      (∀ l ∈ r.head?, mark depth l ≠ some ' ') → (∀ l ∈ s.head?, mark depth l ≠ some ' ') →
        n.lines depth ++ r = m.lines depth ++ s → n.Alike m ∧ r = s)
    (h : ns.flatMap (lines depth) = ms.flatMap (lines depth)) : List.Forall₂ Alike ns ms := by
  have hshallow : ∀ nodes : List ClassNode,
      ∀ l ∈ (nodes.flatMap (lines depth)).head?, mark depth l ≠ some ' ' := by
    intro nodes l hl hspace
    rw [mark_head_flatMap_lines depth nodes l hl] at hspace
    simp at hspace
  induction ns generalizing ms with
  | nil =>
      cases ms with
      | nil => exact .nil
      | cons m ms =>
          rw [List.flatMap_nil, List.flatMap_cons, lines_eq] at h
          exact (List.cons_ne_nil _ _ h.symm).elim
  | cons n ns ih =>
      cases ms with
      | nil =>
          rw [List.flatMap_nil, List.flatMap_cons, lines_eq] at h
          exact (List.cons_ne_nil _ _ h).elim
      | cons m ms =>
          rw [List.flatMap_cons, List.flatMap_cons] at h
          obtain ⟨hnm, hrest⟩ := hinj n List.mem_cons_self m List.mem_cons_self _ _ (hshallow ns)
            (hshallow ms) h
          refine .cons hnm (ih ?_ hrest)
          intro c hc d hd
          exact hinj c (List.mem_cons_of_mem n hc) d (List.mem_cons_of_mem m hd)

theorem exists_alike_of_mem {ns ms : List ClassNode} (h : List.Forall₂ Alike ns ms) :
    (∀ n ∈ ns, ∃ m ∈ ms, n.Alike m) ∧ ∀ m ∈ ms, ∃ n ∈ ns, n.Alike m := by
  induction h with
  | nil => simp
  | cons hnm _ ih =>
      simp only [List.forall_mem_cons, List.exists_mem_cons_iff]
      exact ⟨⟨Or.inl hnm, fun n hn => Or.inr (ih.1 n hn)⟩,
        ⟨Or.inl hnm, fun m hm => Or.inr (ih.2 m hm)⟩⟩

theorem shownAmong_of_forall₂ {ns ms : List ClassNode} (hns : (ns.map ClassNode.name).Nodup)
    (hms : (ms.map ClassNode.name).Nodup) (h : List.Forall₂ Alike (sorted ns) (sorted ms))
    (path : List String) : shownAmong ns path = shownAmong ms path := by
  obtain ⟨hleft, hright⟩ := exists_alike_of_mem h
  simp only [(sorted_perm ns).mem_iff, (sorted_perm ms).mem_iff] at hleft hright
  cases path with
  | nil => rfl
  | cons name path =>
      cases hn : among? name ns with
      | some n =>
          obtain ⟨hmem, rfl⟩ := mem_of_among? hn
          obtain ⟨m, hm, hname, hsame⟩ := hleft n hmem
          rw [shownAmong_of_mem hns hmem, hname, shownAmong_of_mem hms hm, hsame]
      | none =>
          cases hm : among? name ms with
          | none => rw [shownAmong_cons, shownAmong_cons, hn, hm]
          | some m =>
              obtain ⟨hmem, rfl⟩ := mem_of_among? hm
              obtain ⟨n, hn', hname, -⟩ := hright m hmem
              rw [← hname, among?_of_mem hns hn'] at hn
              simp at hn

/-- The lines of a class determine it and where it ends. -/
theorem lines_append_inj {n m : ClassNode} (hn : n.Distinct) (hm : m.Distinct) (hln : n.Legible)
    (hlm : m.Legible) {depth : Nat} {r s : List String}
    (hr : ∀ l ∈ r.head?, mark depth l ≠ some ' ') (hs : ∀ l ∈ s.head?, mark depth l ≠ some ' ')
    (h : n.lines depth ++ r = m.lines depth ++ s) : n.Alike m ∧ r = s := by
  induction hn generalizing m depth r s with
  | @node name accessors children names below ih =>
      have hn : Distinct ⟨name, accessors, children⟩ := .node names below
      rw [lines_eq, lines_eq] at h
      obtain ⟨hopening, hrest⟩ := List.cons.inj h
      obtain ⟨hbody, hrs⟩ := append_inj_of_head (p := fun l => mark depth l = some ' ')
        (fun l => mark_of_mem_body hn) (fun l => mark_of_mem_body hm) hr hs hrest
      obtain ⟨haccessors, hchildren⟩ := contents_inj hln hlm (contents_eq_of_body hbody)
      have hall : List.Forall₂ Alike (sorted children) (sorted m.children) := by
        refine forall₂_of_flatMap_lines ?_ hchildren
        intro c hc d hd r s hr hs hcd
        replace hc := (sorted_perm children).mem_iff.mp hc
        replace hd := (sorted_perm m.children).mem_iff.mp hd
        exact ih c hc (hm.children.2 d hd) (hln.children c hc) (hlm.children d hd) hr hs hcd
      refine ⟨⟨opening_injective hopening, fun path => ?_⟩, hrs⟩
      cases path with
      | nil => rw [shownAt_nil, shownAt_nil, haccessors]
      | cons child path =>
          rw [shownAt_cons, shownAt_cons]
          exact shownAmong_of_forall₂ names hm.children.1 hall (child :: path)

end ClassNode

/-! ## Modules -/

namespace ModuleNode

open ClassNode

/-- A module all of whose classes can be read back. -/
def Legible (m : ModuleNode) : Prop := ∀ n ∈ m.classes, n.Legible

def blocks (m : ModuleNode) : List String :=
  (sorted m.classes).flatMap fun n => ["", ""] ++ n.lines 0

def importLines (names : List String) : List String :=
  if names.isEmpty then [] else ["", "from typing import " ++ String.intercalate ", " names]

theorem lines_eq (m : ModuleNode) :
    m.lines = header :: (importLines m.typingNames ++ m.blocks) := by
  have hblocks : (sortedLines 0 m.classes).flatMap (fun c => ["", ""] ++ c.2) = m.blocks :=
    flatMap_sortedLines 0 m.classes fun ls => ["", ""] ++ ls
  rw [lines, hblocks, List.append_assoc]
  rfl

/-- What holds of every list of typing names that may come about holds of the one that does. -/
theorem forall_importLines {p : String → Prop} (m : ModuleNode)
    (h : ∀ names ∈ ["Any", "Optional"].sublists, ∀ l ∈ importLines names, p l) :
    ∀ l ∈ importLines m.typingNames, p l :=
  h _ (List.mem_sublists.mpr List.filter_sublist)

theorem notMem_of_mem_importLines (m : ModuleNode) :
    ∀ l ∈ importLines m.typingNames, '\n' ∉ l.toList := forall_importLines m (by decide)

theorem notMem_of_mem_lines {m : ModuleNode} (hm : m.Legible) {l : String} (h : l ∈ m.lines) :
    '\n' ∉ l.toList := by
  rw [lines_eq] at h
  rcases List.mem_cons.mp h with rfl | h
  · decide
  · rcases List.mem_append.mp h with h | h
    · exact notMem_of_mem_importLines m l h
    · obtain ⟨n, hn, h⟩ := List.mem_flatMap.mp h
      rcases List.mem_append.mp h with h | h
      · have hblank : l = "" := by simpa using h
        rw [hblank]
        decide
      · exact (hm n ((sorted_perm m.classes).mem_iff.mp hn)).notMem h

theorem lines_of_text {m k : ModuleNode} (hm : m.Legible) (hk : k.Legible)
    (h : m.text = k.text) : m.lines = k.lines := by
  have hlist := congrArg String.toList h
  rw [text, text, String.toList_append, String.toList_append, List.append_cancel_right_eq] at hlist
  refine Text.intercalate_injective (by rfl) ?_ ?_ (fun _ => notMem_of_mem_lines hm)
    (fun _ => notMem_of_mem_lines hk) (String.toList_injective hlist)
  · rw [lines_eq]
    exact List.cons_ne_nil _ _
  · rw [lines_eq]
    exact List.cons_ne_nil _ _

/-- A block starts with two blank lines, an import with one. -/
theorem blocks_of_lines {m k : ModuleNode} (h : m.lines = k.lines) : m.blocks = k.blocks := by
  have hblank : ∀ (j : ModuleNode) (l l' : String) (ls : List String),
      j.blocks = l :: l' :: ls → l' = "" := by
    intro j l l' ls hj
    rw [blocks] at hj
    cases hs : sorted j.classes with
    | nil =>
        rw [hs] at hj
        exact (List.cons_ne_nil _ _ hj.symm).elim
    | cons n ns =>
        rw [hs] at hj
        exact (List.cons.inj (List.cons.inj hj).2).1.symm
  have himport : ∀ names : List String,
      "from typing import " ++ String.intercalate ", " names ≠ "" := by
    intro names heq
    have hlist := congrArg String.toList heq
    rw [String.toList_append] at hlist
    exact List.cons_ne_nil _ _ hlist
  rw [lines_eq, lines_eq] at h
  have hrest := (List.cons.inj h).2
  rw [importLines, importLines] at hrest
  split at hrest <;> split at hrest
  · exact hrest
  · exact (himport _ (hblank m _ _ _ hrest)).elim
  · exact (himport _ (hblank k _ _ _ hrest.symm)).elim
  · exact (List.cons.inj (List.cons.inj hrest).2).2

/-- Without its blank lines a block is a class. -/
theorem filter_blocks {m : ModuleNode} (hm : ∀ n ∈ m.classes, n.Distinct) :
    m.blocks.filter (· ≠ "") = (sorted m.classes).flatMap (ClassNode.lines 0) := by
  rw [blocks, List.filter_flatMap]
  apply List.flatMap_congr
  intro n hn
  have hclass := hm n ((sorted_perm m.classes).mem_iff.mp hn)
  have hmark : ∀ l ∈ n.lines 0, mark 0 l ≠ none := by
    intro l hl
    rw [ClassNode.lines_eq] at hl
    rcases List.mem_cons.mp hl with rfl | hl
    · rw [mark_opening]
      exact Option.some_ne_none 'c'
    · rw [mark_of_mem_body hclass hl]
      exact Option.some_ne_none ' '
  have hkept : (n.lines 0).filter (· ≠ "") = n.lines 0 := by
    apply List.filter_eq_self.mpr
    intro l hl
    apply decide_eq_true
    rintro rfl
    exact hmark "" hl rfl
  rw [List.filter_append, hkept]
  rfl

end ModuleNode

namespace StubTree

open ClassNode

/-- A tree put together by creating classes and setting accessors. -/
inductive Built : StubTree → Prop
  | empty : Built empty
  | createPath {t t' : StubTree} {module path : String} (built : Built t)
      (created : t.createPath module path = .ok t') : Built t'
  | setAccessor {t t' : StubTree} {module path name : String} {type : Annotation}
      (built : Built t) (set : t.edit module path (·.setAccessor name type) = .ok t') : Built t'

theorem edit_ok {t t' : StubTree} {module path : String} {f : ClassNode → ClassNode}
    (h : t.edit module path f = .ok t') : t' = t.change (.ofPath module path) f := by
  rw [edit] at h
  split at h
  · simp at h
  · exact (Except.ok.inj h).symm

theorem Built.distinct {t : StubTree} (h : t.Built) : t.Distinct := by
  induction h with
  | empty => exact distinct_empty
  | createPath built created ih =>
      rw [edit_ok created, ← onAccessors_id]
      exact ih.change _ id
  | @setAccessor t t' module path name type built set ih =>
      rw [edit_ok set]
      exact ih.change _ (putAccessor ⟨name, type⟩)

/-- Two modules are rendered alike if and only if they have the same classes and show the same
accessors in each of them: the order in which classes came up and the accessors that cannot be
written leave no trace, and nothing else is lost. -/
theorem render_eq_iff {t u : StubTree} (ht : t.Built) (hu : u.Built) {m k : ModuleNode}
    (hm : m ∈ t.modules) (hk : k ∈ u.modules) (hml : m.Legible) (hkl : k.Legible)
    (log log' : Array Record) :
    (m.render.run log).1 = (k.render.run log').1 ↔
      ∀ path, shownAmong m.classes path = shownAmong k.classes path := by
  have hmd := ht.distinct.below m hm
  have hkd := hu.distinct.below k hk
  have hmn := ht.distinct.classes m hm
  have hkn := hu.distinct.classes k hk
  rw [ModuleNode.render_text, ModuleNode.render_text]
  constructor
  · intro htext
    have hblocks := ModuleNode.blocks_of_lines (ModuleNode.lines_of_text hml hkl htext)
    have hflat := congrArg (List.filter (· ≠ "")) hblocks
    rw [ModuleNode.filter_blocks hmd, ModuleNode.filter_blocks hkd] at hflat
    apply shownAmong_of_forall₂ hmn hkn
    refine forall₂_of_flatMap_lines ?_ hflat
    intro n hn c hc r s hr hs h
    replace hn := (sorted_perm m.classes).mem_iff.mp hn
    replace hc := (sorted_perm k.classes).mem_iff.mp hc
    exact lines_append_inj (hmd n hn) (hkd c hc) (hml n hn) (hkl c hc) hr hs h
  · exact ModuleNode.text_congr hmn hkn hmd hkd

/-- A shop whose cart came up first; the cart has an accessor that cannot be written. -/
def cartFirst : ModuleNode :=
  ⟨"shop", [⟨"Cart", [⟨"class", ⟨"str", true⟩⟩], [⟨"Line", [], []⟩]⟩,
    ⟨"Basket", [⟨"owner", ⟨"str", false⟩⟩], []⟩]⟩

def basketFirst : ModuleNode :=
  ⟨"shop", [⟨"Basket", [⟨"owner", ⟨"str", false⟩⟩], []⟩, ⟨"Cart", [], [⟨"Line", [], []⟩]⟩]⟩

theorem built_cartFirst : Built ⟨[cartFirst]⟩ := by
  have hcart : Built ⟨[⟨"shop", [⟨"Cart", [], [⟨"Line", [], []⟩]⟩]⟩]⟩ :=
    .createPath .empty (by rfl : createPath _ "shop" "Cart.Line" = _)
  have hclass : Built ⟨[⟨"shop", [⟨"Cart", [⟨"class", ⟨"str", true⟩⟩], [⟨"Line", [], []⟩]⟩]⟩]⟩ :=
    hcart.setAccessor (by rfl : edit _ "shop" "Cart" (·.setAccessor "class" ⟨"str", true⟩) = _)
  exact hclass.setAccessor
    (by rfl : edit _ "shop" "Basket" (·.setAccessor "owner" ⟨"str", false⟩) = _)

theorem built_basketFirst : Built ⟨[basketFirst]⟩ := by
  have hbasket : Built ⟨[⟨"shop", [⟨"Basket", [⟨"owner", ⟨"str", false⟩⟩], []⟩]⟩]⟩ :=
    Built.empty.setAccessor
      (by rfl : edit _ "shop" "Basket" (·.setAccessor "owner" ⟨"str", false⟩) = _)
  exact hbasket.createPath (by rfl : createPath _ "shop" "Cart.Line" = _)

theorem legible_line : (⟨"Line", [], []⟩ : ClassNode).Legible :=
  .node (by decide) (by simp) (by simp)

theorem legible_basket : (⟨"Basket", [⟨"owner", ⟨"str", false⟩⟩], []⟩ : ClassNode).Legible := by
  refine .node (by decide) ?_ (by simp)
  exact List.forall_mem_singleton.mpr ⟨⟨"owner", .string, true, false⟩, rfl⟩

theorem legible_cartFirst : cartFirst.Legible := by
  refine List.forall_mem_cons.mpr ⟨?_, List.forall_mem_singleton.mpr legible_basket⟩
  refine .node (by decide) ?_ (List.forall_mem_singleton.mpr legible_line)
  exact List.forall_mem_singleton.mpr ⟨⟨"class", .string, false, false⟩, rfl⟩

theorem legible_basketFirst : basketFirst.Legible := by
  refine List.forall_mem_cons.mpr ⟨legible_basket, List.forall_mem_singleton.mpr ?_⟩
  exact .node (by decide) (by simp) (List.forall_mem_singleton.mpr legible_line)

theorem render_eq_iff_of_reordered :
    Built ⟨[cartFirst]⟩ ∧ Built ⟨[basketFirst]⟩ ∧ cartFirst.Legible ∧ basketFirst.Legible ∧
      (cartFirst.render.run #[]).1 = (basketFirst.render.run #[]).1 ∧
      ∀ path, shownAmong cartFirst.classes path = shownAmong basketFirst.classes path := by
  have htext : (cartFirst.render.run #[]).1 = (basketFirst.render.run #[]).1 := by rfl
  refine ⟨built_cartFirst, built_basketFirst, legible_cartFirst, legible_basketFirst, htext, ?_⟩
  exact (render_eq_iff built_cartFirst built_basketFirst (List.mem_singleton_self _)
    (List.mem_singleton_self _) legible_cartFirst legible_basketFirst #[] #[]).mp htext

end StubTree

end TypeStubs
