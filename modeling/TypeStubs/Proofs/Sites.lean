import Mathlib.Data.List.Nodup
import TypeStubs.Proofs.Accessors
import TypeStubs.Proofs.Segments

/-!
# What a tree holds at a site

A tree is seen as a map from modules and paths to lists of accessors. A change at a site opens the
module and all classes on the way and rewrites the accessors at the site alone. Names among
siblings stay pairwise different.
-/

namespace TypeStubs

/-- What becomes of the accessors at `path` when those at `target` are rewritten by `h`: all places
on the way to the target are there afterwards. -/
def edited (h : List Accessor → List Accessor) (target path : List String)
    (old : Option (List Accessor)) : Option (List Accessor) :=
  if path <+: target then some (if path = target then h (old.getD []) else old.getD []) else old

theorem edited_cons (h : List Accessor → List Accessor) (name : String) (target path : List String)
    (old : Option (List Accessor)) :
    edited h (name :: target) (name :: path) old = edited h target path old := by
  simp [edited, List.cons_prefix_cons]

theorem edited_cons_ne (h : List Accessor → List Accessor) {name other : String}
    (hne : other ≠ name) (target path : List String) (old : Option (List Accessor)) :
    edited h (name :: target) (other :: path) old = old := by
  simp [edited, List.cons_prefix_cons, hne]

theorem isSome_edited (h : List Accessor → List Accessor) (target path : List String)
    (old : Option (List Accessor)) :
    (edited h target path old).isSome ↔ path <+: target ∨ old.isSome := by
  unfold edited
  split <;> simp [*]

theorem getD_edited (h : List Accessor → List Accessor) (target path : List String)
    (old : Option (List Accessor)) :
    (edited h target path old).getD [] =
      if path = target then h (old.getD []) else old.getD [] := by
  unfold edited
  by_cases hpath : path = target
  · subst hpath
    simp
  · by_cases hprefix : path <+: target <;> simp [hpath, hprefix]

namespace ClassNode

def onAccessors (h : List Accessor → List Accessor) (n : ClassNode) : ClassNode :=
  { n with accessors := h n.accessors }

def accessorsAt (n : ClassNode) (path : List String) : Option (List Accessor) :=
  (n.at? path).map ClassNode.accessors

/-- The accessors at a path that starts from several classes. The empty path leads to no class and
holds nothing. -/
def accessorsAmong (nodes : List ClassNode) : List String → Option (List Accessor)
  | [] => some []
  | name :: path => (among? name nodes).bind fun n => n.accessorsAt path

/-- Names among siblings are pairwise different, at every depth. -/
inductive Distinct : ClassNode → Prop
  | node {name : String} {accessors : List Accessor} {children : List ClassNode}
      (names : (children.map ClassNode.name).Nodup)
      (below : ∀ n ∈ children, Distinct n) : Distinct ⟨name, accessors, children⟩

@[simp] theorem onAccessors_id : onAccessors id = id := by
  funext n
  cases n
  rfl

@[simp] theorem name_onAccessors (h : List Accessor → List Accessor) (n : ClassNode) :
    (n.onAccessors h).name = n.name := rfl

@[simp] theorem accessorsAt_nil (n : ClassNode) : n.accessorsAt [] = some n.accessors := rfl

theorem accessorsAt_cons (n : ClassNode) (name : String) (path : List String) :
    n.accessorsAt (name :: path) = accessorsAmong n.children (name :: path) := by
  simp only [accessorsAt, accessorsAmong, at?]
  cases among? name n.children <;> rfl

theorem accessorsAt_bare (name : String) (path : List String) :
    (bare name).accessorsAt path = if path = [] then some [] else none := by
  cases path <;> rfl

theorem mem_of_among? {nodes : List ClassNode} {name : String} {n : ClassNode}
    (h : among? name nodes = some n) : n ∈ nodes ∧ n.name = name :=
  ⟨List.mem_of_find?_eq_some h,
    beq_iff_eq.mp (List.find?_some (p := fun k : ClassNode => k.name == name) h)⟩

theorem among?_of_mem {nodes : List ClassNode} (hnodup : (nodes.map ClassNode.name).Nodup)
    {n : ClassNode} (hn : n ∈ nodes) : among? n.name nodes = some n := by
  unfold among?
  induction nodes with
  | nil => simp at hn
  | cons m rest ih =>
      rw [List.map_cons, List.nodup_cons] at hnodup
      rcases List.mem_cons.mp hn with rfl | hn
      · simp
      · have hne : (m.name == n.name) = false :=
          beq_false_of_ne fun heq => hnodup.1 (heq ▸ List.mem_map_of_mem hn)
        rw [List.find?_cons, hne]
        exact ih hnodup.2 hn

theorem areEmpty_iff {nodes : List ClassNode} : areEmpty nodes ↔ ∀ n ∈ nodes, n.isEmpty := by
  induction nodes with
  | nil => simp [areEmpty]
  | cons n rest ih => simp [areEmpty, ih]

theorem accessors_of_isEmpty {n : ClassNode} (h : n.isEmpty) {path : List String}
    {as : List Accessor} (hat : n.accessorsAt path = some as) : as = [] := by
  induction path generalizing n with
  | nil =>
      obtain ⟨name, accessors, children⟩ := n
      obtain rfl : accessors = as := Option.some.inj hat
      rw [isEmpty, Bool.and_eq_true] at h
      exact List.isEmpty_iff.mp h.1
  | cons name path ih =>
      obtain ⟨_, accessors, children⟩ := n
      rw [isEmpty, Bool.and_eq_true] at h
      rw [accessorsAt_cons] at hat
      obtain ⟨child, hchild, hat⟩ := Option.bind_eq_some_iff.mp hat
      exact ih (areEmpty_iff.mp h.2 child (mem_of_among? hchild).1) hat

theorem at?_append (path more : List String) (n : ClassNode) :
    at? (path ++ more) n = (at? path n).bind (at? more) := by
  induction path generalizing n with
  | nil => rfl
  | cons name path ih =>
      rw [List.cons_append, at?, at?]
      cases among? name n.children with
      | none => rfl
      | some child => exact ih child

theorem name_of_at? {path : List String} {n m : ClassNode} (h : at? path n = some m) :
    (n.name :: path).getLast? = some m.name := by
  induction path generalizing n with
  | nil =>
      obtain rfl : n = m := Option.some.inj h
      rfl
  | cons name path ih =>
      obtain ⟨child, hchild, hat⟩ := Option.bind_eq_some_iff.mp h
      rw [List.getLast?_cons_cons, ← (mem_of_among? hchild).2]
      exact ih hat

/-! ## Changes below a class -/

theorem among?_editAmong {f : ClassNode → ClassNode} (hf : ∀ n, (f n).name = n.name)
    (name other : String) (nodes : List ClassNode) :
    among? other (editAmong f name nodes) =
      if other = name then some (f ((among? name nodes).getD (bare name)))
      else among? other nodes := by
  unfold among?
  induction nodes with
  | nil =>
      by_cases h : other = name
      · simp [editAmong, hf, bare, h]
      · simp [editAmong, hf, bare, h, Ne.symm h]
  | cons n rest ih =>
      by_cases hn : n.name = name
      · by_cases ho : other = name
        · simp [editAmong, hf, hn, ho]
        · simp [editAmong, hf, hn, ho, Ne.symm ho]
      · rw [editAmong, if_neg hn, List.find?_cons, List.find?_cons, ih]
        by_cases ho : other = name
        · have hne : (n.name == name) = false := beq_false_of_ne hn
          simp [ho, hne]
        · simp [ho, List.find?_cons]

theorem name_editAt {f : ClassNode → ClassNode} (hf : ∀ n, (f n).name = n.name)
    (path : List String) (n : ClassNode) : (editAt f path n).name = n.name := by
  cases path with
  | nil => exact hf n
  | cons _ _ => rfl

/-- A change at a path rewrites the accessors there and opens the way to it. -/
theorem accessorsAt_editAt (h : List Accessor → List Accessor) (target path : List String)
    (n : ClassNode) :
    (editAt (onAccessors h) target n).accessorsAt path =
      edited h target path (n.accessorsAt path) := by
  induction target generalizing n path with
  | nil =>
      cases path with
      | nil => rfl
      | cons name path => rfl
  | cons name target ih =>
      cases path with
      | nil => rfl
      | cons other path =>
          rw [accessorsAt_cons, accessorsAt_cons, editAt]
          simp only [accessorsAmong]
          rw [among?_editAmong (name_editAt (name_onAccessors h) target)]
          by_cases ho : other = name
          · subst ho
            rw [if_pos rfl, Option.bind_some, ih, edited_cons]
            cases hfound : among? other n.children with
            | some child => rfl
            | none =>
                -- The class is new: nothing is at or below it but the opened way.
                rw [Option.getD_none, accessorsAt_bare]
                by_cases hnil : path = []
                · subst hnil
                  simp [edited]
                · simp [hnil]
          · rw [if_neg ho, edited_cons_ne h ho]

theorem accessorsAmong_editAmong (h : List Accessor → List Accessor) (head : String)
    (nested path : List String) (nodes : List ClassNode) :
    accessorsAmong (editAmong (editAt (onAccessors h) nested) head nodes) path =
      edited h (head :: nested) path (accessorsAmong nodes path) := by
  -- Several classes are the children of one, and the change is one step further down.
  have hroot := accessorsAt_editAt h (head :: nested) path ⟨head, [], nodes⟩
  cases path with
  | nil => simp [accessorsAmong, edited]
  | cons other path => rwa [accessorsAt_cons, accessorsAt_cons] at hroot

theorem editAmong_editAmong {f g : ClassNode → ClassNode} (hf : ∀ n, (f n).name = n.name)
    (name : String) (nodes : List ClassNode) :
    editAmong g name (editAmong f name nodes) = editAmong (g ∘ f) name nodes := by
  induction nodes with
  | nil => simp [editAmong, hf, bare]
  | cons n rest ih =>
      by_cases hn : n.name = name
      · simp [editAmong, hf, hn]
      · simp [editAmong, hn, ih]

theorem editAt_editAt {f g : ClassNode → ClassNode} (hf : ∀ n, (f n).name = n.name)
    (path : List String) (n : ClassNode) :
    editAt g path (editAt f path n) = editAt (g ∘ f) path n := by
  induction path generalizing n with
  | nil => rfl
  | cons name path ih =>
      have hcomp : editAt g path ∘ editAt f path = editAt (g ∘ f) path := funext ih
      simp only [editAt]
      rw [editAmong_editAmong (name_editAt hf path), hcomp]

/-! ## Changes that change nothing -/

theorem onAccessors_eq_self {h : List Accessor → List Accessor} {n : ClassNode}
    (hn : h n.accessors = n.accessors) : n.onAccessors h = n := by
  rw [onAccessors, hn]
  cases n
  rfl

theorem editAmong_eq_self {f : ClassNode → ClassNode} {name : String} {nodes : List ClassNode}
    {n : ClassNode} (h : among? name nodes = some n) (hf : f n = n) :
    editAmong f name nodes = nodes := by
  unfold among? at h
  induction nodes with
  | nil => simp at h
  | cons m rest ih =>
      by_cases hm : m.name = name
      · obtain rfl : m = n := by simpa [hm] using h
        rw [editAmong, if_pos hm, hf]
      · have hrest : rest.find? (fun k => k.name == name) = some n := by simpa [hm] using h
        rw [editAmong, if_neg hm, ih hrest]

theorem editAt_eq_self {f : ClassNode → ClassNode} {path : List String} {n m : ClassNode}
    (h : at? path n = some m) (hf : f m = m) : editAt f path n = n := by
  induction path generalizing n with
  | nil =>
      obtain rfl : n = m := Option.some.inj h
      exact hf
  | cons name path ih =>
      obtain ⟨child, hchild, hat⟩ := Option.bind_eq_some_iff.mp h
      rw [editAt, editAmong_eq_self hchild (ih hat)]
      cases n
      rfl

/-! ## Distinct names -/

theorem Distinct.children {n : ClassNode} (h : n.Distinct) :
    (n.children.map ClassNode.name).Nodup ∧ ∀ m ∈ n.children, m.Distinct := by
  cases h with
  | node names below => exact ⟨names, below⟩

theorem distinct_bare (name : String) : (bare name).Distinct := by
  constructor <;> simp

theorem Distinct.onAccessors {n : ClassNode} (hn : n.Distinct)
    (h : List Accessor → List Accessor) : (n.onAccessors h).Distinct :=
  .node hn.children.1 hn.children.2

theorem mem_map_name_editAmong {f : ClassNode → ClassNode} (hf : ∀ n, (f n).name = n.name)
    {name other : String} {nodes : List ClassNode} :
    other ∈ (editAmong f name nodes).map ClassNode.name ↔
      other = name ∨ other ∈ nodes.map ClassNode.name := by
  induction nodes with
  | nil => simp [editAmong, hf, bare]
  | cons n rest ih =>
      by_cases hn : n.name = name
      · simp [editAmong, hf, hn]
      · rw [editAmong, if_neg hn, List.map_cons, List.mem_cons, ih, List.map_cons, List.mem_cons]
        tauto

theorem nodup_editAmong {f : ClassNode → ClassNode} (hf : ∀ n, (f n).name = n.name)
    (name : String) {nodes : List ClassNode} (h : (nodes.map ClassNode.name).Nodup) :
    ((editAmong f name nodes).map ClassNode.name).Nodup := by
  induction nodes with
  | nil => simp [editAmong]
  | cons n rest ih =>
      rw [List.map_cons, List.nodup_cons] at h
      by_cases hn : n.name = name
      · rw [editAmong, if_pos hn, List.map_cons, List.nodup_cons, hf]
        exact h
      · rw [editAmong, if_neg hn, List.map_cons, List.nodup_cons, mem_map_name_editAmong hf]
        refine ⟨?_, ih h.2⟩
        rintro (heq | hmem)
        · exact hn heq
        · exact h.1 hmem

theorem forall_mem_editAmong {P : ClassNode → Prop} {f : ClassNode → ClassNode}
    (hf : ∀ n, P n → P (f n)) {name : String} (hbare : P (bare name)) {nodes : List ClassNode}
    (h : ∀ n ∈ nodes, P n) : ∀ n ∈ editAmong f name nodes, P n := by
  induction nodes with
  | nil => simpa [editAmong] using hf _ hbare
  | cons n rest ih =>
      have hhead : P n := h n List.mem_cons_self
      have hrest : ∀ m ∈ rest, P m := fun m hm => h m (List.mem_cons_of_mem n hm)
      intro m hm
      by_cases hn : n.name = name
      · rw [editAmong, if_pos hn] at hm
        rcases List.mem_cons.mp hm with rfl | hm
        · exact hf n hhead
        · exact hrest m hm
      · rw [editAmong, if_neg hn] at hm
        rcases List.mem_cons.mp hm with rfl | hm
        · exact hhead
        · exact ih hrest m hm

theorem Distinct.editAt {f : ClassNode → ClassNode} (hname : ∀ n, (f n).name = n.name)
    (hf : ∀ n : ClassNode, n.Distinct → (f n).Distinct) (path : List String) {n : ClassNode}
    (h : n.Distinct) : (ClassNode.editAt f path n).Distinct := by
  induction path generalizing n with
  | nil => exact hf n h
  | cons name path ih =>
      refine .node (nodup_editAmong (name_editAt hname path) name h.children.1) ?_
      exact forall_mem_editAmong (P := Distinct) (fun _ => ih) (distinct_bare name) h.children.2

end ClassNode

namespace StubTree

open ClassNode

def accessorsAt (t : StubTree) (module : String) (path : List String) : Option (List Accessor) :=
  (t.module? module).bind fun m => accessorsAmong m.classes path

/-- Names of modules and names among siblings are pairwise different. -/
structure Distinct (t : StubTree) : Prop where
  modules : (t.modules.map ModuleNode.name).Nodup
  classes : ∀ m ∈ t.modules, (m.classes.map ClassNode.name).Nodup
  below : ∀ m ∈ t.modules, ∀ n ∈ m.classes, n.Distinct

theorem accessorsAt_eq_map_at? (t : StubTree) (s : Site) :
    t.accessorsAt s.module s.path = (t.at? s).map ClassNode.accessors := by
  simp only [accessorsAt, at?, Site.path, accessorsAmong]
  cases t.module? s.module with
  | none => rfl
  | some m =>
      simp only [Option.bind_some]
      cases among? s.head m.classes <;> rfl

theorem accessorsAt_eq_map_get? (t : StubTree) (module path : String) :
    t.accessorsAt module (Text.segments path) = (t.get? module path).map ClassNode.accessors := by
  rw [get?, ← accessorsAt_eq_map_at?, Site.path_ofPath, Site.module_ofPath]

theorem mem_map_name_iff (t : StubTree) (name : String) :
    name ∈ t.modules.map ModuleNode.name ↔ (t.accessorsAt name []).isSome := by
  unfold accessorsAt module?
  rw [List.mem_map]
  constructor
  · rintro ⟨m, hm, rfl⟩
    cases hfound : t.modules.find? fun k => k.name == m.name with
    | none => simpa using List.find?_eq_none.mp hfound m hm
    | some k => rfl
  · intro h
    cases hfound : t.modules.find? fun k => k.name == name with
    | none => simp [hfound] at h
    | some k =>
        exact ⟨k, List.mem_of_find?_eq_some hfound,
          beq_iff_eq.mp (List.find?_some (p := fun k : ModuleNode => k.name == name) hfound)⟩

theorem module?_of_mem {t : StubTree} (ht : t.Distinct) {m : ModuleNode} (hm : m ∈ t.modules) :
    t.module? m.name = some m := by
  cases hfound : t.module? m.name with
  | none => simpa using List.find?_eq_none.mp hfound m hm
  | some k =>
      have hname : k.name = m.name :=
        beq_iff_eq.mp (List.find?_some (p := fun k : ModuleNode => k.name == m.name) hfound)
      rw [List.inj_on_of_nodup_map ht.modules (List.mem_of_find?_eq_some hfound) hm hname]

theorem mem_of_module? {t : StubTree} {name : String} {m : ModuleNode}
    (h : t.module? name = some m) : m ∈ t.modules ∧ m.name = name :=
  ⟨List.mem_of_find?_eq_some h,
    beq_iff_eq.mp (List.find?_some (p := fun k : ModuleNode => k.name == name) h)⟩

theorem accessorsAt_of_mem {t : StubTree} (ht : t.Distinct) {m : ModuleNode} (hm : m ∈ t.modules)
    (path : List String) : t.accessorsAt m.name path = accessorsAmong m.classes path := by
  rw [accessorsAt, module?_of_mem ht hm, Option.bind_some]

theorem name_of_at? {t : StubTree} {s : Site} {n : ClassNode} (h : t.at? s = some n) :
    s.path.getLast? = some n.name := by
  obtain ⟨m, -, hclasses⟩ := Option.bind_eq_some_iff.mp h
  obtain ⟨head, hhead, hnested⟩ := Option.bind_eq_some_iff.mp hclasses
  rw [Site.path, ← (mem_of_among? hhead).2]
  exact ClassNode.name_of_at? hnested

theorem accessorsAt_append {t : StubTree} {s : Site} {n : ClassNode} (h : t.at? s = some n)
    (more : List String) : t.accessorsAt s.module (s.path ++ more) = n.accessorsAt more := by
  obtain ⟨m, hm, hclasses⟩ := Option.bind_eq_some_iff.mp h
  obtain ⟨head, hhead, hnested⟩ := Option.bind_eq_some_iff.mp hclasses
  rw [accessorsAt, hm, Option.bind_some, Site.path, List.cons_append, accessorsAmong, hhead,
    Option.bind_some, ClassNode.accessorsAt, at?_append, hnested]
  rfl

/-! ## One change -/

theorem find?_editModule (change : List ClassNode → List ClassNode) (name other : String)
    (modules : List ModuleNode) :
    (editModule change name modules).find? (fun m => m.name == other) =
      if other = name then
        some ⟨name,
          change (((modules.find? fun m => m.name == name).map ModuleNode.classes).getD [])⟩
      else modules.find? fun m => m.name == other := by
  induction modules with
  | nil =>
      by_cases h : other = name
      · simp [editModule, h]
      · simp [editModule, h, Ne.symm h]
  | cons m rest ih =>
      by_cases hm : m.name = name
      · by_cases ho : other = name
        · simp [editModule, hm, ho]
        · simp [editModule, hm, ho, Ne.symm ho]
      · rw [editModule, if_neg hm, List.find?_cons, ih]
        by_cases ho : other = name
        · have hne : (m.name == name) = false := beq_false_of_ne hm
          simp [ho, hne]
        · simp [ho, List.find?_cons]

/-- A change at a site rewrites the accessors there and opens the way to it. -/
theorem accessorsAt_change (t : StubTree) (s : Site) (h : List Accessor → List Accessor)
    (module : String) (path : List String) :
    (t.change s (onAccessors h)).accessorsAt module path =
      if module = s.module then edited h s.path path (t.accessorsAt module path)
      else t.accessorsAt module path := by
  unfold accessorsAt module? change
  rw [find?_editModule]
  by_cases hm : module = s.module
  · subst hm
    rw [if_pos rfl, if_pos rfl, Option.bind_some, accessorsAmong_editAmong]
    cases t.modules.find? fun m => m.name == s.module with
    | some m => rfl
    | none =>
        -- The module is new: an empty list of classes holds nothing but itself.
        cases path with
        | nil => simp [edited, accessorsAmong, Site.path]
        | cons name path => rfl
  · rw [if_neg hm, if_neg hm]

theorem editModule_editModule (f g : List ClassNode → List ClassNode) (name : String)
    (modules : List ModuleNode) :
    editModule g name (editModule f name modules) = editModule (g ∘ f) name modules := by
  induction modules with
  | nil => simp [editModule]
  | cons m rest ih =>
      by_cases hm : m.name = name
      · simp [editModule, hm]
      · simp [editModule, hm, ih]

theorem change_change (t : StubTree) (s : Site) {f g : ClassNode → ClassNode}
    (hf : ∀ n, (f n).name = n.name) : (t.change s f).change s g = t.change s (g ∘ f) := by
  have hnested : editAt g s.nested ∘ editAt f s.nested = editAt (g ∘ f) s.nested :=
    funext (editAt_editAt hf s.nested)
  have hhead : editAmong (editAt g s.nested) s.head ∘ editAmong (editAt f s.nested) s.head =
      editAmong (editAt (g ∘ f) s.nested) s.head := by
    funext nodes
    rw [Function.comp_apply, editAmong_editAmong (name_editAt hf s.nested), hnested]
  simp only [change, editModule_editModule, hhead]

theorem change_openModule (t : StubTree) (s : Site) (f : ClassNode → ClassNode) :
    (t.openModule s.module).change s f = t.change s f := by
  simp only [change, openModule, editModule_editModule, Function.comp_id]

theorem map_name_editModule (change : List ClassNode → List ClassNode) (name : String)
    (modules : List ModuleNode) :
    (editModule change name modules).map ModuleNode.name =
      if name ∈ modules.map ModuleNode.name then modules.map ModuleNode.name
      else modules.map ModuleNode.name ++ [name] := by
  induction modules with
  | nil => simp [editModule]
  | cons m rest ih =>
      by_cases hm : m.name = name
      · simp [editModule, hm]
      · rw [editModule, if_neg hm, List.map_cons, ih, List.map_cons]
        simp only [List.mem_cons, Ne.symm hm, false_or]
        split <;> rfl

theorem forall_mem_editModule {P : List ClassNode → Prop}
    {change : List ClassNode → List ClassNode} (hchange : ∀ cs, P cs → P (change cs))
    (hnil : P []) {name : String} {modules : List ModuleNode}
    (h : ∀ m ∈ modules, P m.classes) : ∀ m ∈ editModule change name modules, P m.classes := by
  induction modules with
  | nil => simpa [editModule] using hchange [] hnil
  | cons m rest ih =>
      have hrest : ∀ k ∈ rest, P k.classes := fun k hk => h k (List.mem_cons_of_mem m hk)
      intro k hk
      by_cases hm : m.name = name
      · rw [editModule, if_pos hm] at hk
        rcases List.mem_cons.mp hk with rfl | hk
        · exact hchange _ (h m List.mem_cons_self)
        · exact hrest k hk
      · rw [editModule, if_neg hm] at hk
        rcases List.mem_cons.mp hk with rfl | hk
        · exact h k List.mem_cons_self
        · exact ih hrest k hk

theorem distinct_empty : empty.Distinct := by
  constructor <;> simp [empty]

theorem Distinct.change {t : StubTree} (ht : t.Distinct) (s : Site)
    (h : List Accessor → List Accessor) : (t.change s (onAccessors h)).Distinct := by
  have hname : ∀ n, (editAt (onAccessors h) s.nested n).name = n.name :=
    name_editAt (name_onAccessors h) s.nested
  have hkeeps : ∀ n : ClassNode, n.Distinct → (editAt (onAccessors h) s.nested n).Distinct :=
    fun n hn => hn.editAt (name_onAccessors h) (fun _ hm => hm.onAccessors h) s.nested
  constructor
  · have hnames := map_name_editModule
      (editAmong (editAt (onAccessors h) s.nested) s.head) s.module t.modules
    rw [StubTree.change, hnames]
    split
    · exact ht.modules
    · rename_i hmem
      exact ht.modules.append (List.nodup_singleton _) (List.disjoint_singleton.mpr hmem)
  · exact forall_mem_editModule (P := fun cs => (cs.map ClassNode.name).Nodup)
      (fun _ hcs => nodup_editAmong hname s.head hcs) List.nodup_nil ht.classes
  · exact forall_mem_editModule (P := fun cs => ∀ n ∈ cs, n.Distinct)
      (fun _ hcs => forall_mem_editAmong hkeeps (distinct_bare s.head) hcs) (by simp) ht.below

theorem editModule_eq_self {change : List ClassNode → List ClassNode} {name : String}
    {modules : List ModuleNode} {m : ModuleNode}
    (h : modules.find? (fun k => k.name == name) = some m) (hm : change m.classes = m.classes) :
    editModule change name modules = modules := by
  induction modules with
  | nil => simp at h
  | cons k rest ih =>
      by_cases hk : k.name = name
      · obtain rfl : k = m := by simpa [hk] using h
        rw [editModule, if_pos hk, hm]
      · have hrest : rest.find? (fun k => k.name == name) = some m := by simpa [hk] using h
        rw [editModule, if_neg hk, ih hrest]

theorem change_eq_self {t : StubTree} {s : Site} {f : ClassNode → ClassNode} {n : ClassNode}
    (h : t.at? s = some n) (hf : f n = n) : t.change s f = t := by
  obtain ⟨m, hm, hclasses⟩ := Option.bind_eq_some_iff.mp h
  obtain ⟨head, hhead, hnested⟩ := Option.bind_eq_some_iff.mp hclasses
  rw [change, editModule_eq_self hm (editAmong_eq_self hhead (editAt_eq_self hnested hf))]

/-! ## Several changes -/

def putAt (edits : List (Site × List Accessor)) (t : StubTree) : StubTree :=
  edits.foldl (fun t e => t.change e.1 (onAccessors (putAll e.2))) t

@[simp] theorem putAt_nil (t : StubTree) : putAt [] t = t := rfl

@[simp] theorem putAt_cons (e : Site × List Accessor) (edits : List (Site × List Accessor))
    (t : StubTree) :
    putAt (e :: edits) t = putAt edits (t.change e.1 (onAccessors (putAll e.2))) := rfl

theorem putAt_append (edits more : List (Site × List Accessor)) (t : StubTree) :
    putAt (edits ++ more) t = putAt more (putAt edits t) :=
  List.foldl_append

theorem Distinct.putAt (edits : List (Site × List Accessor)) {t : StubTree} (ht : t.Distinct) :
    (StubTree.putAt edits t).Distinct := by
  induction edits generalizing t with
  | nil => exact ht
  | cons e edits ih => exact ih (ht.change e.1 (putAll e.2))

theorem isSome_accessorsAt_putAt (edits : List (Site × List Accessor)) (t : StubTree)
    (module : String) (path : List String) :
    ((putAt edits t).accessorsAt module path).isSome ↔
      (t.accessorsAt module path).isSome ∨
        ∃ e ∈ edits, module = e.1.module ∧ path <+: e.1.path := by
  induction edits generalizing t with
  | nil => simp
  | cons e edits ih =>
      rw [putAt_cons, ih, accessorsAt_change]
      by_cases hm : module = e.1.module
      · rw [if_pos hm, isSome_edited]
        simp only [List.exists_mem_cons_iff, hm, true_and]
        tauto
      · rw [if_neg hm]
        simp [hm]

theorem accessorsAt_putAt_of_ne {edits : List (Site × List Accessor)} {module : String}
    (h : ∀ e ∈ edits, module ≠ e.1.module) (t : StubTree) (path : List String) :
    (putAt edits t).accessorsAt module path = t.accessorsAt module path := by
  induction edits generalizing t with
  | nil => rfl
  | cons e edits ih =>
      rw [putAt_cons, ih (fun e' he' => h e' (List.mem_cons_of_mem e he')), accessorsAt_change,
        if_neg (h e List.mem_cons_self)]

/-- The lists of accessors that were set at a place, in order. -/
def setAt (edits : List (Site × List Accessor)) (module : String) (path : List String) :
    List (List Accessor) :=
  (edits.filter fun e => module = e.1.module ∧ path = e.1.path).map Prod.snd

theorem getD_accessorsAt_putAt (edits : List (Site × List Accessor)) (t : StubTree)
    (module : String) (path : List String) :
    ((putAt edits t).accessorsAt module path).getD [] =
      (setAt edits module path).foldl (fun done as => putAll as done)
        ((t.accessorsAt module path).getD []) := by
  induction edits generalizing t with
  | nil => rfl
  | cons e edits ih =>
      rw [putAt_cons, ih, accessorsAt_change]
      unfold setAt
      by_cases hm : module = e.1.module
      · rw [if_pos hm, getD_edited]
        by_cases hpath : path = e.1.path <;> simp [hm, hpath]
      · rw [if_neg hm]
        simp [hm]

@[simp] theorem accessorsAt_empty (module : String) (path : List String) :
    empty.accessorsAt module path = none := rfl

/-- Whatever is set at a site is always the same. -/
def Consistent (edits : List (Site × List Accessor)) : Prop :=
  ∀ e ∈ edits, ∀ e' ∈ edits, e.1 = e'.1 → e.2 = e'.2

/-- A site at which the same accessors are set every time holds these. -/
theorem getD_accessorsAt_of_mem {edits : List (Site × List Accessor)}
    {e : Site × List Accessor} (he : e ∈ edits) (hsame : ∀ e' ∈ edits, e'.1 = e.1 → e'.2 = e.2) :
    ((putAt edits empty).accessorsAt e.1.module e.1.path).getD [] = putAll e.2 [] := by
  have hmem : e.2 ∈ setAt edits e.1.module e.1.path :=
    List.mem_map_of_mem (List.mem_filter.mpr ⟨he, by simp⟩)
  rw [getD_accessorsAt_putAt, accessorsAt_empty, Option.getD_none]
  apply foldl_putAll_replicate e.2 (by simp)
  · intro as has
    obtain ⟨e', he', rfl⟩ := List.mem_map.mp has
    obtain ⟨he', hsite⟩ := List.mem_filter.mp he'
    obtain ⟨hmodule, hpath⟩ := of_decide_eq_true hsite
    exact hsame e' he' (Site.eq_of_path hmodule.symm hpath.symm)
  · exact List.ne_nil_of_mem hmem

/-- A name that is set at a site once is there to stay. -/
theorem mem_map_name_of_mem {edits : List (Site × List Accessor)} {e : Site × List Accessor}
    (he : e ∈ edits) {name : String} (hname : name ∈ e.2.map Accessor.name) :
    name ∈ (((putAt edits empty).accessorsAt e.1.module e.1.path).getD []).map Accessor.name := by
  have hmem : e.2 ∈ setAt edits e.1.module e.1.path :=
    List.mem_map_of_mem (List.mem_filter.mpr ⟨he, by simp⟩)
  rw [getD_accessorsAt_putAt, foldl_putAll, mem_map_name_putAll]
  obtain ⟨a, ha, rfl⟩ := List.mem_map.mp hname
  exact Or.inl (List.mem_map_of_mem (List.mem_flatten.mpr ⟨e.2, hmem, ha⟩))

theorem getD_accessorsAt_putAt_of_ne {edits : List (Site × List Accessor)} {module : String}
    {path : List String} (h : ∀ e ∈ edits, module = e.1.module → path ≠ e.1.path) (t : StubTree) :
    ((putAt edits t).accessorsAt module path).getD [] =
      (t.accessorsAt module path).getD [] := by
  have hnil : setAt edits module path = [] := by
    apply List.map_eq_nil_iff.mpr
    apply List.filter_eq_nil_iff.mpr
    intro e he hsite
    obtain ⟨hmodule, hpath⟩ := of_decide_eq_true hsite
    exact h e he hmodule hpath
  rw [getD_accessorsAt_putAt, hnil]
  rfl

theorem getD_accessorsAt_of_forall_ne {edits : List (Site × List Accessor)} {module : String}
    {path : List String} (h : ∀ e ∈ edits, module = e.1.module → path ≠ e.1.path) :
    ((putAt edits empty).accessorsAt module path).getD [] = [] :=
  getD_accessorsAt_putAt_of_ne h empty

/-- The tree depends on the set of changes alone. -/
theorem accessorsAt_putAt_congr {edits others : List (Site × List Accessor)}
    (hsame : Consistent edits) (hmem : ∀ e, e ∈ edits ↔ e ∈ others) (module : String)
    (path : List String) :
    (putAt edits empty).accessorsAt module path = (putAt others empty).accessorsAt module path := by
  have hothers : Consistent others := fun e he e' he' =>
    hsame e ((hmem e).mpr he) e' ((hmem e').mpr he')
  have hsome : ((putAt edits empty).accessorsAt module path).isSome =
      ((putAt others empty).accessorsAt module path).isSome := by
    rw [Bool.eq_iff_iff, isSome_accessorsAt_putAt, isSome_accessorsAt_putAt]
    simp only [hmem]
  have hgetD : ((putAt edits empty).accessorsAt module path).getD [] =
      ((putAt others empty).accessorsAt module path).getD [] := by
    by_cases hset : ∃ e ∈ edits, module = e.1.module ∧ path = e.1.path
    · obtain ⟨e, he, rfl, rfl⟩ := hset
      rw [getD_accessorsAt_of_mem he fun e' he' => hsame e' he' e he,
        getD_accessorsAt_of_mem ((hmem e).mp he) fun e' he' => hothers e' he' e ((hmem e).mp he)]
    · have hne : ∀ e ∈ edits, module = e.1.module → path ≠ e.1.path :=
        fun e he hmodule hpath => hset ⟨e, he, hmodule, hpath⟩
      rw [getD_accessorsAt_of_forall_ne hne,
        getD_accessorsAt_of_forall_ne fun e he => hne e ((hmem e).mpr he)]
  cases hl : (putAt edits empty).accessorsAt module path <;>
    cases hr : (putAt others empty).accessorsAt module path <;> simp_all

theorem change_putAt_of_mem {edits : List (Site × List Accessor)} (hsame : Consistent edits)
    {e : Site × List Accessor} (he : e ∈ edits) :
    (putAt edits empty).change e.1 (onAccessors (putAll e.2)) = putAt edits empty := by
  have hsome : ((putAt edits empty).accessorsAt e.1.module e.1.path).isSome :=
    (isSome_accessorsAt_putAt edits empty e.1.module e.1.path).mpr
      (Or.inr ⟨e, he, rfl, List.prefix_rfl⟩)
  have hheld := getD_accessorsAt_of_mem he fun e' he' => hsame e' he' e he
  rw [accessorsAt_eq_map_at?] at hsome hheld
  obtain ⟨n, hn⟩ := Option.isSome_iff_exists.mp (by simpa using hsome)
  rw [hn, Option.map_some, Option.getD_some] at hheld
  apply change_eq_self hn
  apply onAccessors_eq_self
  rw [hheld, putAll_putAll e.2 (by simp)]

theorem exists_mem_of_at? {edits : List (Site × List Accessor)} {s : Site} {n : ClassNode}
    (h : (putAt edits empty).at? s = some n) :
    ∃ e ∈ edits, s.module = e.1.module ∧ s.path <+: e.1.path := by
  have hsome : ((putAt edits empty).accessorsAt s.module s.path).isSome := by
    rw [accessorsAt_eq_map_at?, h]
    rfl
  rcases (isSome_accessorsAt_putAt edits empty s.module s.path).mp hsome with hnone | hedit
  · simp at hnone
  · exact hedit

/-- If something is set at every site, every class in the tree has an accessor or one below it. -/
theorem not_isEmpty_of_at? {edits : List (Site × List Accessor)} (hsame : Consistent edits)
    (hne : ∀ e ∈ edits, e.2 ≠ []) {s : Site} {n : ClassNode}
    (h : (putAt edits empty).at? s = some n) : ¬ n.isEmpty := by
  intro hempty
  obtain ⟨e, he, hmodule, more, hpath⟩ := exists_mem_of_at? h
  have hset := getD_accessorsAt_of_mem he fun e' he' => hsame e' he' e he
  rw [← hmodule, ← hpath, accessorsAt_append h more] at hset
  cases hat : n.accessorsAt more with
  | none =>
      rw [hat] at hset
      exact putAll_ne_nil (hne e he) [] hset.symm
  | some as =>
      rw [hat, accessors_of_isEmpty hempty hat] at hset
      exact putAll_ne_nil (hne e he) [] hset.symm

theorem exists_class_of_mem_modules {edits : List (Site × List Accessor)} {m : ModuleNode}
    (h : m ∈ (putAt edits empty).modules) :
    ∃ s n, (putAt edits empty).at? s = some n ∧ n ∈ m.classes := by
  have hfound := module?_of_mem (distinct_empty.putAt edits) h
  have hmodule : ((putAt edits empty).accessorsAt m.name []).isSome :=
    (mem_map_name_iff _ _).mp (List.mem_map_of_mem h)
  obtain hnone | ⟨e, he, hname, -⟩ := (isSome_accessorsAt_putAt edits empty m.name []).mp hmodule
  · simp at hnone
  · have hhead : ((putAt edits empty).accessorsAt e.1.module [e.1.head]).isSome :=
      (isSome_accessorsAt_putAt edits empty _ _).mpr
        (Or.inr ⟨e, he, rfl, List.prefix_append [e.1.head] e.1.nested⟩)
    have hat := accessorsAt_eq_map_at? (putAt edits empty) ⟨e.1.module, e.1.head, []⟩
    rw [Site.path] at hat
    rw [hat, Option.isSome_map] at hhead
    obtain ⟨n, hn⟩ := Option.isSome_iff_exists.mp hhead
    refine ⟨_, n, hn, ?_⟩
    obtain ⟨m', hm', hclasses⟩ := Option.bind_eq_some_iff.mp hn
    obtain ⟨head, hamong, hself⟩ := Option.bind_eq_some_iff.mp hclasses
    obtain rfl : m = m' := Option.some.inj (hfound.symm.trans (hname ▸ hm'))
    obtain rfl : head = n := Option.some.inj hself
    exact (mem_of_among? hamong).1

end StubTree

end TypeStubs
