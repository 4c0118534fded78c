import Mathlib.Data.List.Nodup
import TypeStubs.Proofs.Sites
import TypeStubs.Proofs.Work
import TypeStubs.Render

/-!
# Rendering sees what a tree holds and nothing else

Two trees that hold the same accessors at the same places are rendered alike, in whatever order
their modules and classes were created. Accessors that cannot be written do not count.
-/

namespace TypeStubs

/-! ## The order of names -/

section Order

variable {α : Type}

theorem insertByName_perm (item : String × α) (items : List (String × α)) :
    (insertByName item items).Perm (item :: items) := by
  induction items with
  | nil => exact List.Perm.refl _
  | cons other rest ih =>
      rw [insertByName]
      split
      · exact List.Perm.refl _
      · exact (ih.cons other).trans (List.Perm.swap item other rest)

theorem pairwise_insertByName (item : String × α) {items : List (String × α)}
    (h : items.Pairwise fun a b => a.1 ≤ b.1) :
    (insertByName item items).Pairwise fun a b => a.1 ≤ b.1 := by
  induction items with
  | nil => simp [insertByName]
  | cons other rest ih =>
      obtain ⟨hother, hrest⟩ := List.pairwise_cons.mp h
      rw [insertByName]
      split
      · rename_i hle
        refine List.pairwise_cons.mpr ⟨?_, h⟩
        intro b hb
        rcases List.mem_cons.mp hb with rfl | hb
        · exact hle
        · exact String.le_trans hle (hother b hb)
      · rename_i hle
        refine List.pairwise_cons.mpr ⟨?_, ih hrest⟩
        intro b hb
        rcases List.mem_cons.mp ((insertByName_perm item rest).mem_iff.mp hb) with rfl | hb
        · exact (String.le_total other.1 b.1).resolve_right hle
        · exact hother b hb

def sortByName (items : List (String × α)) : List (String × α) := items.foldr insertByName []

theorem sortByName_perm (items : List (String × α)) : (sortByName items).Perm items := by
  induction items with
  | nil => exact List.Perm.refl _
  | cons item items ih => exact (insertByName_perm item (sortByName items)).trans (ih.cons item)

theorem pairwise_sortByName (items : List (String × α)) :
    (sortByName items).Pairwise fun a b => a.1 ≤ b.1 := by
  induction items with
  | nil => exact List.Pairwise.nil
  | cons item items ih => exact pairwise_insertByName item ih

theorem eq_of_perm_of_pairwise_name {as bs : List (String × α)} (hperm : as.Perm bs)
    (hnames : (as.map Prod.fst).Nodup) (has : as.Pairwise fun a b => a.1 ≤ b.1)
    (hbs : bs.Pairwise fun a b => a.1 ≤ b.1) : as = bs := by
  refine List.Perm.eq_of_pairwise ?_ has hbs hperm
  intro a b ha hb hab hba
  exact List.inj_on_of_nodup_map hnames ha (hperm.mem_iff.mpr hb) (String.le_antisymm hab hba)

theorem sortByName_eq_of_perm {as bs : List (String × α)} (hperm : as.Perm bs)
    (hnames : (as.map Prod.fst).Nodup) : sortByName as = sortByName bs := by
  have hsorted : (sortByName as).Perm as := sortByName_perm as
  apply eq_of_perm_of_pairwise_name (hsorted.trans (hperm.trans (sortByName_perm bs).symm))
  · exact (hsorted.map Prod.fst).nodup_iff.mpr hnames
  · exact pairwise_sortByName as
  · exact pairwise_sortByName bs

theorem perm_of_mem_iff {as bs : List (String × α)} (has : (as.map Prod.fst).Nodup)
    (hbs : (bs.map Prod.fst).Nodup) (h : ∀ a, a ∈ as ↔ a ∈ bs) : as.Perm bs :=
  (List.perm_ext_iff_of_nodup has.of_map hbs.of_map).mpr h

end Order

namespace ClassNode

/-! ## Classes that show the same -/

/-- The accessors at a path that are written. -/
def shownAt (n : ClassNode) (path : List String) : Option (List Accessor) :=
  (n.accessorsAt path).map fun as => as.filter (·.isWritable)

def shownAmong (nodes : List ClassNode) (path : List String) : Option (List Accessor) :=
  (accessorsAmong nodes path).map fun as => as.filter (·.isWritable)

@[simp] theorem shownAt_nil (n : ClassNode) :
    n.shownAt [] = some (n.accessors.filter (·.isWritable)) := rfl

theorem shownAt_cons (n : ClassNode) (name : String) (path : List String) :
    n.shownAt (name :: path) = shownAmong n.children (name :: path) := by
  rw [shownAt, accessorsAt_cons, shownAmong]

theorem shownAmong_cons (nodes : List ClassNode) (name : String) (path : List String) :
    shownAmong nodes (name :: path) = (among? name nodes).bind fun n => n.shownAt path := by
  rw [shownAmong, accessorsAmong]
  cases among? name nodes <;> rfl

theorem shownAmong_of_mem {nodes : List ClassNode} (hnodup : (nodes.map ClassNode.name).Nodup)
    {n : ClassNode} (hn : n ∈ nodes) (path : List String) :
    shownAmong nodes (n.name :: path) = n.shownAt path := by
  rw [shownAmong_cons, among?_of_mem hnodup hn, Option.bind_some]

/-- Siblings that show the same have the same names, and those of one name show the same. -/
theorem exists_mem_alike {nodes others : List ClassNode}
    (hnodup : (nodes.map ClassNode.name).Nodup)
    (hsame : ∀ path, shownAmong nodes path = shownAmong others path)
    {n : ClassNode} (hn : n ∈ nodes) :
    ∃ m ∈ others, m.name = n.name ∧ ∀ path, n.shownAt path = m.shownAt path := by
  have hpath : ∀ path, n.shownAt path = shownAmong others (n.name :: path) := by
    intro path
    rw [← hsame, shownAmong_of_mem hnodup hn]
  cases hfound : among? n.name others with
  | none =>
      have hnone := hpath []
      rw [shownAmong_cons, hfound] at hnone
      simp at hnone
  | some m =>
      obtain ⟨hm, hname⟩ := mem_of_among? hfound
      refine ⟨m, hm, hname, fun path => ?_⟩
      rw [hpath, shownAmong_cons, hfound, Option.bind_some]

theorem shownAmong_children {n m : ClassNode} (h : ∀ path, n.shownAt path = m.shownAt path)
    (path : List String) : shownAmong n.children path = shownAmong m.children path := by
  cases path with
  | nil => rfl
  | cons name path => rw [← shownAt_cons, ← shownAt_cons, h]

/-! ## Lines -/

theorem sortedLines_eq (depth : Nat) (nodes : List ClassNode) :
    sortedLines depth nodes = sortByName (nodes.map fun n => (n.name, n.lines depth)) := by
  induction nodes with
  | nil => rfl
  | cons n rest ih =>
      rw [sortedLines, ih]
      rfl

theorem sortedLines_congr {depth : Nat} {nodes others : List ClassNode}
    (hnodes : (nodes.map ClassNode.name).Nodup) (hothers : (others.map ClassNode.name).Nodup)
    (hsame : ∀ path, shownAmong nodes path = shownAmong others path)
    (hlines : ∀ n ∈ nodes, ∀ m ∈ others, m.name = n.name →
      (∀ path, n.shownAt path = m.shownAt path) → n.lines depth = m.lines depth) :
    sortedLines depth nodes = sortedLines depth others := by
  rw [sortedLines_eq, sortedLines_eq]
  have hkeys : ∀ cs : List ClassNode, (cs.map fun n => (n.name, n.lines depth)).map Prod.fst =
      cs.map ClassNode.name := fun cs => by rw [List.map_map]; rfl
  refine sortByName_eq_of_perm (perm_of_mem_iff ?_ ?_ ?_) ?_
  · rwa [hkeys]
  · rwa [hkeys]
  · intro item
    simp only [List.mem_map]
    constructor
    · rintro ⟨n, hn, rfl⟩
      obtain ⟨m, hm, hname, hat⟩ := exists_mem_alike hnodes hsame hn
      exact ⟨m, hm, by rw [hname, hlines n hn m hm hname hat]⟩
    · rintro ⟨m, hm, rfl⟩
      obtain ⟨n, hn, hname, hat⟩ := exists_mem_alike hothers (fun path => (hsame path).symm) hm
      exact ⟨n, hn, by
        rw [hname, hlines n hn m hm hname.symm fun path => (hat path).symm]⟩
  · rwa [hkeys]

theorem lines_congr {n m : ClassNode} (hn : n.Distinct) (hm : m.Distinct)
    (hname : m.name = n.name) (hsame : ∀ path, n.shownAt path = m.shownAt path)
    (depth : Nat) : n.lines depth = m.lines depth := by
  induction hn generalizing m depth with
  | @node name accessors children names below ih =>
      obtain ⟨name', accessors', children'⟩ := m
      obtain rfl : name' = name := hname
      have haccessors : accessors.filter (·.isWritable) = accessors'.filter (·.isWritable) :=
        Option.some.inj (hsame [])
      have hchildren : sortedLines (depth + 1) children = sortedLines (depth + 1) children' := by
        apply sortedLines_congr names hm.children.1 (shownAmong_children hsame)
        intro c hc d hd hcd hat
        exact ih c hc (hm.children.2 d hd) hcd hat (depth + 1)
      rw [lines, lines, haccessors, hchildren]

/-! ## Lines of one class among all lines -/

theorem infix_flatMap {α β : Type} (f : α → List β) {x : α} {xs : List α} (h : x ∈ xs) :
    f x <:+: xs.flatMap f := by
  rw [List.flatMap_def]
  exact List.infix_of_mem_flatten (List.mem_map_of_mem h)

theorem mem_sortedLines {n : ClassNode} {nodes : List ClassNode} (h : n ∈ nodes) (depth : Nat) :
    (n.name, n.lines depth) ∈ sortedLines depth nodes := by
  rw [sortedLines_eq, (sortByName_perm _).mem_iff]
  exact List.mem_map_of_mem (f := fun n : ClassNode => (n.name, n.lines depth)) h

theorem lines_ne_nil (depth : Nat) (n : ClassNode) : n.lines depth ≠ [] := by
  cases n
  simp [lines]

theorem lines_infix_of_mem_children {c n : ClassNode} (h : c ∈ n.children) (depth : Nat) :
    c.lines (depth + 1) <:+: n.lines depth := by
  obtain ⟨name, accessors, children⟩ := n
  have hchild : c.lines (depth + 1) <:+: (sortedLines (depth + 1) children).flatMap Prod.snd :=
    infix_flatMap Prod.snd (mem_sortedLines h (depth + 1))
  have hbody := hchild.trans (List.suffix_append
    ((accessors.filter (·.isWritable)).flatMap (Accessor.lines (depth + 1))) _).isInfix
  rw [lines]
  split
  · -- A class with another one in it has a body.
    rename_i hempty
    rw [List.isEmpty_iff] at hempty
    rw [hempty] at hbody
    exact (lines_ne_nil (depth + 1) c (List.infix_nil.mp hbody)).elim
  · exact hbody.trans (List.suffix_cons _ _).isInfix

theorem lines_infix_of_at? {path : List String} {n m : ClassNode} (h : at? path n = some m)
    (depth : Nat) : m.lines (depth + path.length) <:+: n.lines depth := by
  induction path generalizing n depth with
  | nil =>
      obtain rfl : n = m := Option.some.inj h
      exact List.infix_rfl
  | cons name path ih =>
      obtain ⟨child, hchild, hat⟩ := Option.bind_eq_some_iff.mp h
      have hbelow := ih hat (depth + 1)
      rw [Nat.add_assoc, Nat.add_comm 1] at hbelow
      exact hbelow.trans (lines_infix_of_mem_children (mem_of_among? hchild).1 depth)

/-! ## Written accessors -/

theorem mem_writtenAmong_iff_exists {a : Accessor} {nodes : List ClassNode} :
    a ∈ writtenAmong nodes ↔ ∃ n ∈ nodes, a ∈ n.written := by
  induction nodes with
  | nil => simp [writtenAmong]
  | cons n rest ih => simp [writtenAmong, ih]

/-- What is written of a class is what is shown at its paths. -/
theorem mem_written_iff {n : ClassNode} (hn : n.Distinct) {a : Accessor} :
    a ∈ n.written ↔ ∃ path as, n.shownAt path = some as ∧ a ∈ as := by
  induction hn with
  | @node name accessors children names below ih =>
      rw [written, List.mem_append, mem_writtenAmong_iff_exists]
      constructor
      · rintro (ha | ⟨c, hc, hac⟩)
        · exact ⟨[], _, rfl, ha⟩
        · obtain ⟨path, as, hat, ha⟩ := (ih c hc).mp hac
          refine ⟨c.name :: path, as, ?_, ha⟩
          rw [shownAt_cons, shownAmong_of_mem names hc, hat]
      · rintro ⟨path, as, hat, ha⟩
        cases path with
        | nil =>
            obtain rfl : accessors.filter (·.isWritable) = as := Option.some.inj hat
            exact Or.inl ha
        | cons child path =>
            rw [shownAt_cons, shownAmong_cons] at hat
            obtain ⟨c, hfound, hat⟩ := Option.bind_eq_some_iff.mp hat
            obtain ⟨hc, -⟩ := mem_of_among? hfound
            exact Or.inr ⟨c, hc, (ih c hc).mpr ⟨path, as, hat, ha⟩⟩

theorem mem_writtenAmong_iff {nodes : List ClassNode}
    (hnodup : (nodes.map ClassNode.name).Nodup) (hnodes : ∀ n ∈ nodes, n.Distinct)
    {a : Accessor} :
    a ∈ writtenAmong nodes ↔ ∃ path as, shownAmong nodes path = some as ∧ a ∈ as := by
  rw [mem_writtenAmong_iff_exists]
  constructor
  · rintro ⟨n, hn, ha⟩
    obtain ⟨path, as, hat, ha⟩ := (mem_written_iff (hnodes n hn)).mp ha
    exact ⟨n.name :: path, as, (shownAmong_of_mem hnodup hn path).trans hat, ha⟩
  · rintro ⟨path, as, hat, ha⟩
    cases path with
    | nil =>
        obtain rfl : [] = as := Option.some.inj hat
        simp at ha
    | cons name path =>
        rw [shownAmong_cons] at hat
        obtain ⟨n, hfound, hat⟩ := Option.bind_eq_some_iff.mp hat
        obtain ⟨hn, -⟩ := mem_of_among? hfound
        exact ⟨n, hn, (mem_written_iff (hnodes n hn)).mpr ⟨path, as, hat, ha⟩⟩

end ClassNode

open ClassNode

/-! ## Modules -/

theorem ModuleNode.text_congr {m k : ModuleNode}
    (hm : (m.classes.map ClassNode.name).Nodup) (hk : (k.classes.map ClassNode.name).Nodup)
    (hbelow : ∀ n ∈ m.classes, n.Distinct) (hkbelow : ∀ n ∈ k.classes, n.Distinct)
    (hsame : ∀ path, shownAmong m.classes path = shownAmong k.classes path) :
    m.text = k.text := by
  have hlines : sortedLines 0 m.classes = sortedLines 0 k.classes := by
    apply sortedLines_congr hm hk hsame
    intro n hn c hc hname hat
    exact lines_congr (hbelow n hn) (hkbelow c hc) hname hat 0
  have hwritten : ∀ a, a ∈ writtenAmong m.classes ↔ a ∈ writtenAmong k.classes := by
    intro a
    rw [mem_writtenAmong_iff hm hbelow, mem_writtenAmong_iff hk hkbelow]
    simp only [hsame]
  have hnames : m.typingNames = k.typingNames := by
    unfold ModuleNode.typingNames
    apply List.filter_congr
    intro name _
    rw [Bool.eq_iff_iff, List.contains_iff_mem, List.contains_iff_mem, List.mem_flatMap,
      List.mem_flatMap]
    simp only [hwritten]
  unfold ModuleNode.text ModuleNode.lines
  rw [hlines, hnames]

theorem ModuleNode.lines_infix_of_mem {m : ModuleNode} {n : ClassNode} (h : n ∈ m.classes) :
    n.lines 0 <:+: m.lines := by
  have hn := infix_flatMap (fun c : String × List String => ["", ""] ++ c.2) (mem_sortedLines h 0)
  unfold ModuleNode.lines
  exact ((List.suffix_append ["", ""] _).isInfix.trans hn).trans (List.suffix_append _ _).isInfix

theorem ModuleNode.render_text (m : ModuleNode) (log : Array Record) :
    (m.render.run log).1 = m.text := rfl

namespace StubTree

/-! ## Trees -/

theorem lines_infix_of_at? {t : StubTree} {s : Site} {n : ClassNode} (h : t.at? s = some n) :
    ∃ m ∈ t.modules, m.name = s.module ∧ n.lines s.nested.length <:+: m.lines := by
  obtain ⟨m, hm, hclasses⟩ := Option.bind_eq_some_iff.mp h
  obtain ⟨head, hhead, hnested⟩ := Option.bind_eq_some_iff.mp hclasses
  obtain ⟨hmem, hname⟩ := mem_of_module? hm
  refine ⟨m, hmem, hname, ?_⟩
  have hbelow := ClassNode.lines_infix_of_at? hnested 0
  rw [Nat.zero_add] at hbelow
  exact hbelow.trans (ModuleNode.lines_infix_of_mem (mem_of_among? hhead).1)

def sortedTexts (t : StubTree) : List (String × String) :=
  t.sortedModules.map fun m => (m.name, m.text)

def placeText (isPackage : String → Bool) (files : Files) (m : String × String) :
    Except Fault Files :=
  (stubPath m.1 (isPackage m.1)).map fun path => Files.put path m.2 files

def placeTexts (isPackage : String → Bool) (texts : List (String × String)) : Except Fault Files :=
  texts.foldlM (placeText isPackage) []

theorem render_gives (t : StubTree) : t.render.Gives (placeTexts t.isPackage t.sortedTexts) := by
  unfold render placeTexts sortedTexts
  rw [List.foldlM_map]
  refine Attempt.Gives.foldlM (fun files m => ?_) _ _
  refine (Attempt.gives_ofExcept _).bind fun path => ?_
  exact (Attempt.gives_lift m.render_text).bind fun text => Attempt.gives_pure _

theorem isPackage_iff_exists {t : StubTree} {name : String} :
    t.isPackage name ↔
      ∃ other ∈ t.modules.map ModuleNode.name, Text.startsWith (name ++ ".") other := by
  simp [isPackage]

theorem isPackage_congr {t u : StubTree}
    (hsame : ∀ module path, t.accessorsAt module path = u.accessorsAt module path) :
    t.isPackage = u.isPackage := by
  have hnames : ∀ name, name ∈ t.modules.map ModuleNode.name ↔
      name ∈ u.modules.map ModuleNode.name := by
    intro name
    rw [mem_map_name_iff, mem_map_name_iff, hsame]
  funext name
  rw [Bool.eq_iff_iff, isPackage_iff_exists, isPackage_iff_exists]
  simp only [hnames]

theorem exists_mem_same_text {t u : StubTree} (ht : t.Distinct) (hu : u.Distinct)
    {m : ModuleNode} (hm : m ∈ t.modules)
    (hsame : ∀ path, t.accessorsAt m.name path = u.accessorsAt m.name path) :
    ∃ k ∈ u.modules, k.name = m.name ∧ k.text = m.text := by
  have hmem : m.name ∈ u.modules.map ModuleNode.name := by
    rw [mem_map_name_iff, ← hsame, ← mem_map_name_iff]
    exact List.mem_map_of_mem hm
  obtain ⟨k, hk, hname⟩ := List.mem_map.mp hmem
  refine ⟨k, hk, hname, ?_⟩
  apply ModuleNode.text_congr (hu.classes k hk) (ht.classes m hm) (hu.below k hk) (ht.below m hm)
  intro path
  rw [shownAmong, shownAmong, ← accessorsAt_of_mem hu hk, hname, ← hsame,
    accessorsAt_of_mem ht hm]

theorem sortedModules_perm (t : StubTree) : t.sortedModules.Perm t.modules :=
  List.mergeSort_perm _ _

theorem pairwise_sortedTexts (t : StubTree) :
    t.sortedTexts.Pairwise fun a b => a.1 ≤ b.1 := by
  unfold sortedTexts
  rw [List.pairwise_map]
  exact pairwise_mergeSort_key ModuleNode.name t.modules

theorem map_fst_sortedTexts_perm (t : StubTree) :
    (t.sortedTexts.map Prod.fst).Perm (t.modules.map ModuleNode.name) := by
  unfold sortedTexts
  rw [List.map_map]
  exact t.sortedModules_perm.map _

theorem mem_sortedTexts {t : StubTree} {item : String × String} :
    item ∈ t.sortedTexts ↔ ∃ m ∈ t.modules, (m.name, m.text) = item := by
  unfold sortedTexts
  rw [List.mem_map]
  simp only [t.sortedModules_perm.mem_iff]

theorem sortedTexts_congr {t u : StubTree} (ht : t.Distinct) (hu : u.Distinct)
    (hsame : ∀ module path, t.accessorsAt module path = u.accessorsAt module path) :
    t.sortedTexts = u.sortedTexts := by
  have hnodup : ∀ v : StubTree, v.Distinct → (v.sortedTexts.map Prod.fst).Nodup :=
    fun v hv => v.map_fst_sortedTexts_perm.nodup_iff.mpr hv.modules
  have hmem : ∀ v w : StubTree, v.Distinct → w.Distinct →
      (∀ module path, v.accessorsAt module path = w.accessorsAt module path) →
      ∀ item ∈ v.sortedTexts, item ∈ w.sortedTexts := by
    intro v w hv hw hvw item hitem
    obtain ⟨m, hm, rfl⟩ := mem_sortedTexts.mp hitem
    obtain ⟨k, hk, hname, htext⟩ := exists_mem_same_text hv hw hm (hvw m.name)
    exact mem_sortedTexts.mpr ⟨k, hk, by rw [hname, htext]⟩
  apply eq_of_perm_of_pairwise_name _ (hnodup t ht) t.pairwise_sortedTexts u.pairwise_sortedTexts
  refine perm_of_mem_iff (hnodup t ht) (hnodup u hu) fun item => ⟨hmem t u ht hu hsame item, ?_⟩
  exact hmem u t hu ht (fun module path => (hsame module path).symm) item

/-- Trees that hold the same are rendered alike, or neither can be rendered. -/
theorem render_congr {t u : StubTree} (ht : t.Distinct) (hu : u.Distinct)
    (hsame : ∀ module path, t.accessorsAt module path = u.accessorsAt module path) :
    placeTexts t.isPackage t.sortedTexts = placeTexts u.isPackage u.sortedTexts := by
  rw [isPackage_congr hsame, sortedTexts_congr ht hu hsame]

end StubTree

end TypeStubs
