import TypeStubs.Proofs.Walk

/-!
# The order in which classes are met

The walk over all classes needs no bound: it comes to an end by itself, whatever the links between
classes are. It meets each class that the root of all classes leads to once, and none before one of
its bases.
-/

namespace TypeStubs.Scaffold.Universe

variable {u : Universe}

/-- The walk by itself, whatever the bound on its steps: the classes that it meets from a stack on,
when those in `seen` were met before. -/
inductive Walks (u : Universe) : List Nat → List Nat → List Nat → Prop
  | done {seen : List Nat} : Walks u seen [] []
  | skip {seen stack out : List Nat} {c : Nat} (hseen : c ∈ seen) (h : Walks u seen stack out) :
      Walks u seen (c :: stack) out
  | meet {seen stack out : List Nat} {c : Nat} (hseen : c ∉ seen)
      (h : Walks u (c :: seen) ((u.subclasses c).reverse ++ stack) out) :
      Walks u seen (c :: stack) (c :: out)

/-- Each step takes a class off the stack, and what comes onto it instead uses up links that were
pending. -/
theorem exists_walks_visit {fuel : Nat} {seen stack : List Nat}
    (hfuel : stack.length + u.pending seen < fuel) :
    ∃ out, u.Walks seen stack out ∧ u.visit fuel seen stack = seen.reverse ++ out := by
  induction fuel generalizing seen stack with
  | zero => exact absurd hfuel (Nat.not_lt_zero _)
  | succ fuel ih =>
      cases stack with
      | nil => exact ⟨[], .done, by simp [visit]⟩
      | cons c stack =>
          rw [List.length_cons] at hfuel
          unfold visit
          by_cases hseen : c ∈ seen
          · have hfuel' : stack.length + u.pending seen < fuel := by omega
            obtain ⟨out, hwalk, hvisit⟩ := ih hfuel'
            rw [if_pos (by simpa using hseen), hvisit]
            exact ⟨out, .skip hseen hwalk, rfl⟩
          · have hless := pending_cons (u := u) hseen
            have hfuel' : ((u.subclasses c).reverse ++ stack).length + u.pending (c :: seen) <
                fuel := by
              rw [List.length_append, List.length_reverse]
              omega
            obtain ⟨out, hwalk, hvisit⟩ := ih hfuel'
            rw [if_neg (by simpa using hseen), hvisit]
            exact ⟨c :: out, .meet hseen hwalk, by simp⟩

theorem walks_allClasses (u : Universe) : u.Walks [] [objectId] u.allClasses := by
  have hfuel : [objectId].length + u.pending [] < u.links + 2 := by
    rw [pending_nil, List.length_singleton]
    omega
  obtain ⟨out, hwalk, hvisit⟩ := exists_walks_visit hfuel
  rw [allClasses, hvisit]
  exact hwalk

namespace Walks

variable {seen stack out : List Nat}

theorem unique {out' : List Nat} (h : u.Walks seen stack out) (h' : u.Walks seen stack out') :
    out = out' := by
  induction h generalizing out' with
  | done =>
      cases h'
      rfl
  | skip hseen h ih =>
      cases h' with
      | skip _ h' => exact ih h'
      | meet hnew => exact (hnew hseen).elim
  | meet hnew h ih =>
      cases h' with
      | skip hseen => exact (hnew hseen).elim
      | meet _ h' => rw [ih h']

/-- A class comes onto the stack only after one of its bases was met, unless it lies there from the
start. -/
theorem mem_stack_or_base (h : u.Walks seen stack out) {before after : List Nat} {c : Nat}
    (hsplit : out = before ++ c :: after) : c ∈ stack ∨ ∃ b ∈ (u.get c).bases, b ∈ before := by
  induction h generalizing before with
  | done => simp at hsplit
  | skip hseen h ih => exact (ih hsplit).imp_left (List.mem_cons_of_mem _)
  | @meet seen stack out d hseen h ih =>
      cases before with
      | nil =>
          obtain ⟨rfl, -⟩ := List.cons.inj hsplit
          exact Or.inl List.mem_cons_self
      | cons d' before =>
          obtain ⟨rfl, hrest⟩ := List.cons.inj hsplit
          rcases ih hrest with hstack | ⟨b, hb, hmem⟩
          · rcases List.mem_append.mp hstack with hc | hc
            · have hbase : d ∈ (u.get c).bases := (mem_subclasses.mp (List.mem_reverse.mp hc)).2
              exact Or.inr ⟨d, hbase, List.mem_cons_self⟩
            · exact Or.inl (List.mem_cons_of_mem d hc)
          · exact Or.inr ⟨b, hb, List.mem_cons_of_mem d hmem⟩

end Walks

/-- The walk from the root of all classes ends. It meets just the classes that the root leads to,
each once, and each but the root after a base of it. -/
theorem allClasses_complete (u : Universe) :
    (∀ out, u.Walks [] [objectId] out ↔ out = u.allClasses) ∧
    u.allClasses.Nodup ∧
    (∀ c, c ∈ u.allClasses ↔ u.LeadsTo objectId c) ∧
    ∀ before c after, u.allClasses = before ++ c :: after → c ≠ objectId →
      ∃ b ∈ (u.get c).bases, b ∈ before := by
  refine ⟨fun out => ?_, u.nodup_allClasses, fun c => mem_allClasses_iff, ?_⟩
  · constructor
    · exact fun h => h.unique u.walks_allClasses
    · rintro rfl
      exact u.walks_allClasses
  · intro before c after hsplit hc
    refine (u.walks_allClasses.mem_stack_or_base hsplit).resolve_left fun hstack => ?_
    exact hc (List.mem_singleton.mp hstack)

/-- Two classes below the root, two below both of these, and one that belongs to no other. -/
def crossed : Universe where
  classes := #[⟨.text "builtins", "object", "object", [], [], []⟩,
    ⟨.text "app", "Left", "Left", [0], [], []⟩, ⟨.text "app", "Right", "Right", [0], [], []⟩,
    ⟨.text "app", "Both", "Both", [1, 2], [], []⟩, ⟨.text "app", "Again", "Again", [2, 1], [], []⟩,
    ⟨.text "app", "Apart", "Apart", [], [], []⟩]
  modules := []

theorem allClasses_crossed : crossed.allClasses = [0, 2, 4, 3, 1] := by decide +kernel

/-- The two classes at the bottom are met as soon as one of their bases was. -/
theorem allClasses_complete_of_crossed :
    crossed.Walks [] [objectId] [0, 2, 4, 3, 1] ∧ crossed.LeadsTo objectId 3 ∧
      ¬crossed.LeadsTo objectId 5 ∧ ∃ b ∈ (crossed.get 3).bases, b ∈ [0, 2, 4] := by
  obtain ⟨hwalks, -, hleads, hbase⟩ := allClasses_complete crossed
  rw [allClasses_crossed] at hwalks hleads hbase
  refine ⟨(hwalks _).mpr rfl, (hleads 3).mp (by decide), fun h => ?_,
    hbase [0, 2, 4] 3 [1] rfl (by decide)⟩
  exact absurd ((hleads 5).mpr h) (by decide)

end TypeStubs.Scaffold.Universe
