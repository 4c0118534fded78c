import Mathlib.Algebra.GroupWithZero.Nat
import Mathlib.Data.List.Nodup
import TypeStubs.Proofs.Universes

/-!
# The walk over all classes

The walk takes classes off a stack and puts their subclasses on it. Each link from a class to a base
is used at most once, so that the walk ends by itself with every class that the root leads to.
-/

namespace TypeStubs.Scaffold.Universe

variable {u : Universe}

/-- The classes that a class leads down to. -/
inductive LeadsTo (u : Universe) (c : Nat) : Nat → Prop
  | refl : LeadsTo u c c
  | step {d e : Nat} (h : LeadsTo u c d) (he : e ∈ u.subclasses d) : LeadsTo u c e

/-- The links to bases that were not visited yet. -/
def pending (u : Universe) (seen : List Nat) : Nat :=
  (u.classes.toList.map fun k => (k.bases.filter fun b => b ∉ seen).length).sum

theorem LeadsTo.head {c d e : Nat} (hd : d ∈ u.subclasses c) (h : u.LeadsTo d e) :
    u.LeadsTo c e := by
  induction h with
  | refl => exact .step .refl hd
  | step h he ih => exact .step ih he

theorem mem_subclasses {c d : Nat} :
    d ∈ u.subclasses c ↔ d < u.classes.size ∧ c ∈ (u.get d).bases := by
  rw [subclasses, List.mem_filter, List.mem_range, List.contains_iff_mem]

theorem map_get_range (u : Universe) :
    (List.range u.classes.size).map u.get = u.classes.toList := by
  apply List.ext_getElem
  · simp
  · intro i hi hi'
    have hsize : i < u.classes.size := by simpa using hi'
    simp [get, hsize]

theorem length_subclasses (u : Universe) (c : Nat) :
    (u.subclasses c).length = u.classes.toList.countP fun k => k.bases.contains c := by
  rw [subclasses, ← List.countP_eq_length_filter, ← map_get_range, List.countP_map]
  rfl

/-- Visiting a class uses up the links to it. -/
theorem pending_cons {c : Nat} {seen : List Nat} (h : c ∉ seen) :
    u.pending (c :: seen) + (u.subclasses c).length ≤ u.pending seen := by
  rw [length_subclasses]
  unfold pending
  induction u.classes.toList with
  | nil => simp
  | cons k ks ih =>
      have hone : (k.bases.filter fun b => b ∉ c :: seen).length +
          (if k.bases.contains c then 1 else 0) ≤ (k.bases.filter fun b => b ∉ seen).length := by
        have hagain : (k.bases.filter fun b => b ∉ c :: seen) =
            (k.bases.filter fun b => b ∉ seen).filter fun b => b ≠ c := by
          rw [List.filter_filter]
          exact List.filter_congr fun b _ => by simp
        rw [hagain]
        by_cases hc : k.bases.contains c
        · have hmem : c ∈ k.bases.filter fun b => b ∉ seen := by simpa [h] using hc
          rw [if_pos hc]
          exact List.length_filter_lt_length_iff_exists.mpr ⟨c, hmem, by simp⟩
        · rw [if_neg hc]
          exact List.length_filter_le _ _
      simp only [List.map_cons, List.sum_cons, List.countP_cons]
      omega

theorem pending_nil (u : Universe) : u.pending [] = u.links := by
  unfold pending links
  rw [← Array.foldl_toList]
  have hfrom : ∀ (ks : List LiveClass) (n : Nat),
      ks.foldl (fun n k => n + k.bases.length) n =
        n + (ks.map fun k => (k.bases.filter fun b => b ∉ []).length).sum := by
    intro ks n
    induction ks generalizing n with
    | nil => simp
    | cons k ks ih =>
        rw [List.foldl_cons, ih, List.map_cons, List.sum_cons]
        simp
        omega
  rw [hfrom, Nat.zero_add]

/-- What a visit comes to: everything it has seen or is to see, once, and with each class that it
adds all subclasses. -/
structure Visited (u : Universe) (seen stack out : List Nat) : Prop where
  nodup : out.Nodup
  kept : ∀ c ∈ seen, c ∈ out
  taken : ∀ c ∈ stack, c ∈ out
  closed : ∀ c ∈ out, c ∈ seen ∨ ∀ d ∈ u.subclasses c, d ∈ out
  reached : ∀ c ∈ out, c ∈ seen ∨ ∃ b ∈ stack, u.LeadsTo b c

theorem visited_visit {fuel : Nat} {seen stack : List Nat} (hnodup : seen.Nodup)
    (hfuel : stack.length + u.pending seen < fuel) :
    u.Visited seen stack (u.visit fuel seen stack) := by
  -- A step takes a class off the stack, or spends its part of what is pending on its subclasses.
  induction fuel generalizing seen stack with
  | zero => exact absurd hfuel (Nat.not_lt_zero _)
  | succ fuel ih =>
      cases stack with
      | nil =>
          unfold visit
          constructor
          · exact List.nodup_reverse.mpr hnodup
          · exact fun c hc => List.mem_reverse.mpr hc
          · simp
          · exact fun c hc => Or.inl (List.mem_reverse.mp hc)
          · exact fun c hc => Or.inl (List.mem_reverse.mp hc)
      | cons c stack =>
          rw [List.length_cons] at hfuel
          unfold visit
          by_cases hseen : c ∈ seen
          · rw [if_pos (by simpa using hseen)]
            have hrest : u.Visited seen stack (u.visit fuel seen stack) := ih hnodup (by omega)
            constructor
            · exact hrest.nodup
            · exact hrest.kept
            · intro d hd
              rcases List.mem_cons.mp hd with rfl | hd
              · exact hrest.kept d hseen
              · exact hrest.taken d hd
            · exact hrest.closed
            · intro d hd
              exact (hrest.reached d hd).imp_right fun ⟨b, hb, hbd⟩ =>
                ⟨b, List.mem_cons_of_mem c hb, hbd⟩
          · rw [if_neg (by simpa using hseen)]
            have hless := pending_cons (u := u) hseen
            have hfuel' : ((u.subclasses c).reverse ++ stack).length + u.pending (c :: seen) <
                fuel := by
              rw [List.length_append, List.length_reverse]
              omega
            have hrest := ih (List.nodup_cons.mpr ⟨hseen, hnodup⟩) hfuel'
            have hsubclasses : ∀ d ∈ u.subclasses c,
                d ∈ u.visit fuel (c :: seen) ((u.subclasses c).reverse ++ stack) :=
              fun d hd => hrest.taken d (List.mem_append_left _ (List.mem_reverse.mpr hd))
            constructor
            · exact hrest.nodup
            · exact fun d hd => hrest.kept d (List.mem_cons_of_mem c hd)
            · intro d hd
              rcases List.mem_cons.mp hd with rfl | hd
              · exact hrest.kept d List.mem_cons_self
              · exact hrest.taken d (List.mem_append_right _ hd)
            · intro d hd
              rcases hrest.closed d hd with hd | hd
              · rcases List.mem_cons.mp hd with rfl | hd
                · exact Or.inr hsubclasses
                · exact Or.inl hd
              · exact Or.inr hd
            · intro d hd
              rcases hrest.reached d hd with hd | ⟨b, hb, hbd⟩
              · rcases List.mem_cons.mp hd with rfl | hd
                · exact Or.inr ⟨d, List.mem_cons_self, .refl⟩
                · exact Or.inl hd
              · rcases List.mem_append.mp hb with hb | hb
                · exact Or.inr ⟨c, List.mem_cons_self, hbd.head (List.mem_reverse.mp hb)⟩
                · exact Or.inr ⟨b, List.mem_cons_of_mem c hb, hbd⟩

theorem visited_allClasses (u : Universe) : u.Visited [] [objectId] u.allClasses := by
  apply visited_visit List.nodup_nil
  rw [pending_nil, List.length_singleton]
  omega

theorem nodup_allClasses (u : Universe) : u.allClasses.Nodup := u.visited_allClasses.nodup

/-- The walk meets exactly the classes that the root of all classes leads to. -/
theorem mem_allClasses_iff {c : Nat} : c ∈ u.allClasses ↔ u.LeadsTo objectId c := by
  have hvisited := u.visited_allClasses
  constructor
  · intro hc
    rcases hvisited.reached c hc with hc | ⟨b, hb, hbc⟩
    · exact (List.not_mem_nil hc).elim
    · rwa [List.mem_singleton.mp hb] at hbc
  · intro h
    induction h with
    | refl => exact hvisited.taken _ (List.mem_singleton.mpr rfl)
    | step h he ih =>
        rcases hvisited.closed _ ih with hd | hd
        · exact (List.not_mem_nil hd).elim
        · exact hd _ he

/-- In a sound universe that is every class. -/
theorem Sound.mem_allClasses_iff (hu : u.Sound) {c : Nat} :
    c ∈ u.allClasses ↔ c < u.classes.size := by
  rw [Universe.mem_allClasses_iff]
  constructor
  · intro h
    cases h with
    | refl => exact Nat.lt_of_le_of_lt (Nat.zero_le _) hu.generatorId_lt
    | step h he => exact (mem_subclasses.mp he).1
  · intro hc
    induction c using Nat.strongRecOn with
    | ind c ih =>
        by_cases hobject : c = objectId
        · rw [hobject]
          exact .refl
        · obtain ⟨b, hb⟩ := List.exists_mem_of_ne_nil _ (hu.based hc hobject)
          have hlt : b < c := hu.lt (hu.mem hb)
          exact .step (ih b hlt (Nat.lt_trans hlt hc)) (mem_subclasses.mpr ⟨hc, hb⟩)

end TypeStubs.Scaffold.Universe
