import Mathlib.Data.Finset.Card
import TypeStubs.Proofs.Sites

/-!
# What a tree remembers of its calls

Classes are created by path, and accessors are created on the classes that came back. What the
tree holds afterwards can be read off the calls: where classes are, which accessors each one has,
in which order and of which types.
-/

namespace TypeStubs

/-- A call on a tree, or on a class that an earlier call gave back. -/
inductive TreeCall where
  | createPath (module path : String)
  | createAccessor (node : Site) (name : String) (type : Annotation)
  deriving DecidableEq

namespace TreeCall

/-- What a call makes of a tree. A call that fails leaves it as it is. -/
def perform (t : StubTree) : TreeCall → StubTree
  | createPath module path =>
    match t.createPath module path with
    | .ok t' => t'
    | .error _ => t
  | createAccessor node name type => t.change node fun n => n.setAccessor name type

def run (calls : List TreeCall) : StubTree := calls.foldl perform .empty

/-! ## Reading the calls -/

/-- The module and the path of the class that a call gives back. -/
def created? : TreeCall → Option (String × String)
  | createPath module path => if path.isEmpty then none else some (module, path)
  | createAccessor _ _ _ => none

def created (calls : List TreeCall) : List (String × String) := calls.filterMap created?

/-- Accessors are created on classes that came back before, `nodes` among them. -/
def Legal : List Site → List TreeCall → Prop
  | _, [] => True
  | nodes, createPath module path :: calls =>
    Legal (if path.isEmpty then nodes else Site.ofPath module path :: nodes) calls
  | nodes, createAccessor node _ _ :: calls => node ∈ nodes ∧ Legal nodes calls

instance decidableLegal :
    (nodes : List Site) → (calls : List TreeCall) → Decidable (Legal nodes calls)
  | _, [] => inferInstanceAs (Decidable True)
  | nodes, createPath module path :: calls =>
    decidableLegal (if path.isEmpty then nodes else Site.ofPath module path :: nodes) calls
  | nodes, createAccessor node _ _ :: calls =>
    have := decidableLegal nodes calls
    inferInstanceAs (Decidable (node ∈ nodes ∧ Legal nodes calls))

def givenAt? (module path : String) : TreeCall → Option Accessor
  | createPath _ _ => none
  | createAccessor node name type =>
    if node = Site.ofPath module path then some ⟨name, type⟩ else none

/-- The accessors that were created at exactly one class, in order. -/
def givenAt (calls : List TreeCall) (module path : String) : List Accessor :=
  calls.filterMap (givenAt? module path)

/-! ## Calls as changes -/

/-- A call as changes of the accessors at sites. -/
def edits : TreeCall → List (Site × List Accessor)
  | createPath module path => if path.isEmpty then [] else [(Site.ofPath module path, [])]
  | createAccessor node name type => [(node, [⟨name, type⟩])]

theorem perform_eq (t : StubTree) (call : TreeCall) :
    perform t call = StubTree.putAt call.edits t := by
  cases call with
  | createAccessor node name type => rfl
  | createPath module path =>
      rw [perform, StubTree.createPath, StubTree.edit, edits]
      cases hempty : path.isEmpty with
      | true => rfl
      | false =>
          have hid : ClassNode.onAccessors (ClassNode.putAll []) = id := ClassNode.onAccessors_id
          simp [hid]

theorem run_eq (calls : List TreeCall) :
    run calls = StubTree.putAt (calls.flatMap edits) .empty := by
  induction calls using List.reverseRecOn with
  | nil => rfl
  | append_singleton calls call ih =>
      rw [run, List.foldl_append, ← run, ih, List.foldl_cons, List.foldl_nil, perform_eq,
        List.flatMap_append, StubTree.putAt_append, List.flatMap_singleton]

theorem Legal.created_of_mem {nodes : List Site} {calls : List TreeCall} (h : Legal nodes calls)
    {node : Site} {name : String} {type : Annotation}
    (hcall : createAccessor node name type ∈ calls) :
    node ∈ nodes ∨ ∃ c ∈ created calls, node = Site.ofPath c.1 c.2 := by
  induction calls generalizing nodes with
  | nil => exact (List.not_mem_nil hcall).elim
  | cons call calls ih =>
      cases call with
      | createAccessor node' name' type' =>
          rcases List.mem_cons.mp hcall with heq | hcall
          · cases heq
            exact Or.inl h.1
          · exact ih h.2 hcall
      | createPath module path =>
          have hlater := ih h ((List.mem_cons.mp hcall).resolve_left (by simp))
          cases hempty : path.isEmpty with
          | true => simpa [created, created?, hempty] using hlater
          | false =>
              rw [hempty, if_neg (by simp), List.mem_cons] at hlater
              have hcreated : created (createPath module path :: calls) =
                  (module, path) :: created calls := by
                simp [created, created?, hempty]
              rw [hcreated, List.exists_mem_cons_iff]
              tauto

/-- Where legal calls make changes, a class was created. -/
theorem Legal.exists_mem_edits_iff {calls : List TreeCall} (h : Legal [] calls) (module : String)
    (path : List String) :
    (∃ e ∈ calls.flatMap edits, module = e.1.module ∧ path <+: e.1.path) ↔
      ∃ whole, (module, whole) ∈ created calls ∧ path <+: Text.segments whole := by
  have hcreates : ∀ c : String × String, c ∈ created calls ↔
      createPath c.1 c.2 ∈ calls ∧ c.2.isEmpty = false := by
    intro c
    rw [created, List.mem_filterMap]
    constructor
    · rintro ⟨call, hcall, hcreated⟩
      cases call with
      | createAccessor node name type => simp [created?] at hcreated
      | createPath m p =>
          cases hempty : p.isEmpty with
          | true => simp [created?, hempty] at hcreated
          | false =>
              obtain rfl : (m, p) = c := by simpa [created?, hempty] using hcreated
              exact ⟨hcall, hempty⟩
    · rintro ⟨hcall, hempty⟩
      exact ⟨_, hcall, by simp [created?, hempty]⟩
  constructor
  · rintro ⟨e, he, rfl, hpath⟩
    obtain ⟨call, hcall, hedit⟩ := List.mem_flatMap.mp he
    have hsite : ∃ c ∈ created calls, e.1 = Site.ofPath c.1 c.2 := by
      cases call with
      | createAccessor node name type =>
          obtain rfl := List.mem_singleton.mp hedit
          exact (h.created_of_mem hcall).resolve_left List.not_mem_nil
      | createPath m p =>
          cases hempty : p.isEmpty with
          | true => simp [edits, hempty] at hedit
          | false =>
              obtain rfl : e = (Site.ofPath m p, []) := by simpa [edits, hempty] using hedit
              exact ⟨(m, p), (hcreates _).mpr ⟨hcall, hempty⟩, rfl⟩
    obtain ⟨c, hc, hsite⟩ := hsite
    rw [hsite, Site.path_ofPath] at hpath
    rw [hsite, Site.module_ofPath]
    exact ⟨c.2, hc, hpath⟩
  · rintro ⟨whole, hc, hpath⟩
    obtain ⟨hcall, hempty⟩ := (hcreates _).mp hc
    refine ⟨(Site.ofPath module whole, []), List.mem_flatMap.mpr ⟨_, hcall, ?_⟩, ?_, ?_⟩
    · simp [edits, hempty]
    · simp
    · rwa [Site.path_ofPath]

theorem setAt_append (es more : List (Site × List Accessor)) (module : String)
    (path : List String) :
    StubTree.setAt (es ++ more) module path =
      StubTree.setAt es module path ++ StubTree.setAt more module path := by
  simp [StubTree.setAt]

/-- What one call sets at the site of a path is the accessor it creates there. -/
theorem flatten_setAt_edits (call : TreeCall) (module path : String) :
    (StubTree.setAt call.edits module (Text.segments path)).flatten =
      (call.givenAt? module path).toList := by
  cases call with
  | createPath m p =>
      by_cases hempty : p.isEmpty
      · simp [edits, givenAt?, hempty, StubTree.setAt]
      · by_cases hat : module = m ∧ Text.segments path = (Site.ofPath m p).path
        · simp [edits, givenAt?, hempty, StubTree.setAt, hat]
        · simp [edits, givenAt?, hempty, StubTree.setAt, hat]
  | createAccessor node name type =>
      have hsite : module = node.module ∧ Text.segments path = node.path ↔
          node = Site.ofPath module path := by
        constructor
        · rintro ⟨hmodule, hpath⟩
          apply Site.eq_of_path
          · rw [Site.module_ofPath, hmodule]
          · rw [Site.path_ofPath, hpath]
        · rintro rfl
          rw [Site.module_ofPath, Site.path_ofPath]
          exact ⟨rfl, rfl⟩
      rw [StubTree.setAt, edits, givenAt?, List.filter_cons, decide_eq_decide.mpr hsite]
      by_cases hnode : node = Site.ofPath module path
      · rw [if_pos hnode, if_pos (decide_eq_true hnode)]
        rfl
      · rw [if_neg hnode, if_neg (by simpa using hnode)]
        rfl

theorem flatten_setAt (calls : List TreeCall) (module path : String) :
    (StubTree.setAt (calls.flatMap edits) module (Text.segments path)).flatten =
      givenAt calls module path := by
  induction calls with
  | nil => rfl
  | cons call calls ih =>
      rw [List.flatMap_cons, setAt_append, List.flatten_append, ih, flatten_setAt_edits, givenAt,
        givenAt]
      cases hgiven : call.givenAt? module path <;> simp [hgiven]

/-! ## The tree after legal calls -/

variable {calls : List TreeCall}

theorem accessors_of_get? {module path : String} {n : ClassNode}
    (h : (run calls).get? module path = some n) :
    n.accessors = ClassNode.putAll (givenAt calls module path) [] := by
  have hat := StubTree.accessorsAt_eq_map_get? (run calls) module path
  have hheld := StubTree.getD_accessorsAt_putAt (calls.flatMap edits) .empty module
    (Text.segments path)
  rw [← run_eq, hat, h, ClassNode.foldl_putAll, flatten_setAt] at hheld
  exact hheld

theorem Legal.isSome_get?_iff (h : Legal [] calls) {module path : String} :
    ((run calls).get? module path).isSome ↔
      ∃ whole, (module, whole) ∈ created calls ∧ Text.segments path <+: Text.segments whole := by
  have hat := StubTree.accessorsAt_eq_map_get? (run calls) module path
  rw [← Option.isSome_map (f := ClassNode.accessors), ← hat, run_eq,
    StubTree.isSome_accessorsAt_putAt, StubTree.accessorsAt_empty, h.exists_mem_edits_iff]
  simp

theorem Legal.size_run (h : Legal [] calls) :
    (run calls).size = ((created calls).map Prod.fst).toFinset.card := by
  have hdistinct : (run calls).Distinct := run_eq calls ▸ StubTree.distinct_empty.putAt _
  have hmem : ∀ module, module ∈ (run calls).modules.map ModuleNode.name ↔
      module ∈ (created calls).map Prod.fst := by
    intro module
    rw [StubTree.mem_map_name_iff, run_eq, StubTree.isSome_accessorsAt_putAt,
      StubTree.accessorsAt_empty, h.exists_mem_edits_iff]
    simp
  rw [StubTree.size, ← List.length_map (f := ModuleNode.name),
    ← List.toFinset_card_of_nodup hdistinct.modules]
  congr 1
  ext module
  rw [List.mem_toFinset, List.mem_toFinset, hmem]

theorem createPath_run (calls : List TreeCall) (module path : String) :
    (run calls).createPath module path =
      if path = "" then .error .emptyClassPath
      else .ok (run (calls ++ [createPath module path])) := by
  have hlast : run (calls ++ [createPath module path]) =
      perform (run calls) (createPath module path) := by
    rw [run, List.foldl_append]
    rfl
  by_cases hempty : path = ""
  · subst hempty
    rfl
  · rw [if_neg hempty, hlast, perform, StubTree.createPath, StubTree.edit,
      if_neg (by simpa using hempty)]

/-- A tree is a map from modules and paths to classes that keeps the order of its history. -/
theorem Legal.tree_eq_history (h : Legal [] calls) :
    (∀ module path, ((run calls).get? module path).isSome ↔
      ∃ whole, (module, whole) ∈ created calls ∧ Text.segments path <+: Text.segments whole) ∧
    (∀ module path n, (run calls).get? module path = some n →
      n.name = (Text.segments path).getLast (Text.segments_ne_nil path) ∧
      (n.accessors.map Accessor.name).Nodup ∧
      n.accessors.map Accessor.name =
        ((givenAt calls module path).map Accessor.name).eraseDups ∧
      ∀ a ∈ n.accessors, ClassNode.lastNamed? a.name (givenAt calls module path) = some a) ∧
    (run calls).size = ((created calls).map Prod.fst).toFinset.card ∧
    (∀ module path, (run calls).createPath module path =
      if path = "" then .error .emptyClassPath
      else .ok (run (calls ++ [createPath module path]))) ∧
    Fault.emptyClassPath.family = .value ∧
    ∀ module, run (calls ++ [createPath module ""]) = run calls := by
  refine ⟨fun module path => h.isSome_get?_iff, ?_, h.size_run, createPath_run calls, rfl, ?_⟩
  · intro module path n hn
    have haccessors := accessors_of_get? hn
    refine ⟨?_, ?_, ?_, ?_⟩
    · have hname := StubTree.name_of_at? hn
      rw [Site.path_ofPath, List.getLast?_eq_some_getLast (Text.segments_ne_nil path)] at hname
      exact (Option.some.inj hname).symm
    · rw [haccessors]
      exact ClassNode.nodup_putAll _ (by simp)
    · rw [haccessors, ClassNode.map_name_putAll_nil]
    · intro a ha
      rw [haccessors] at ha
      exact ClassNode.lastNamed?_of_mem_putAll ha
  · intro module
    rw [run, List.foldl_append]
    rfl

/-- Two modules; a class is created with one around it, gets two accessors and one of them anew. -/
def nestedCalls : List TreeCall :=
  [createPath "app" "Outer.Inner",
   createAccessor (Site.ofPath "app" "Outer.Inner") "size" ⟨"Any", false⟩,
   createPath "lib" ".Part", createPath "app" "", createPath "app" "Outer",
   createAccessor (Site.ofPath "app" "Outer") "owner" ⟨"str", false⟩,
   createAccessor (Site.ofPath "app" "Outer.Inner") "label" ⟨"str", false⟩,
   createAccessor (Site.ofPath "app" "Outer.Inner") "size" ⟨"int", true⟩]

theorem nestedCalls_tree :
    Legal [] nestedCalls ∧ ((run nestedCalls).get? "lib" "").isSome ∧
      (∀ n, (run nestedCalls).get? "app" "Outer.Inner" = some n →
        n.accessors.map Accessor.name = ["size", "label"]) ∧
      (run nestedCalls).size = 2 := by
  have hlegal : Legal [] nestedCalls := by decide
  obtain ⟨hget, hheld, hsize, -⟩ := Legal.tree_eq_history hlegal
  refine ⟨hlegal, (hget "lib" "").mpr ⟨".Part", by decide, by decide⟩, fun n hn => ?_, ?_⟩
  · rw [(hheld "app" "Outer.Inner" n hn).2.2.1]
    decide
  · rw [hsize]
    decide

end TreeCall

end TypeStubs
