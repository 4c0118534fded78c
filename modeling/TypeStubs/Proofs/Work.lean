import Mathlib.Data.List.Forall2
import Mathlib.Data.List.Pairwise
import TypeStubs.TreeWork

/-!
# What attempts give and what work does

Neither outcomes nor trees depend on the log. Attempts are described by their outcome alone, and
work on a tree by its outcome and the tree it leaves.
-/

namespace TypeStubs

/-! ## Outcomes for the items of a list -/

section Items

variable {α β : Type} {f : α → Except Fault β}

theorem bind_eq_ok_iff {x : Except Fault α} {y : β} :
    x >>= f = .ok y ↔ ∃ a, x = .ok a ∧ f a = .ok y := by
  cases x with
  | error e => simp [bind, Except.bind]
  | ok a => simp [bind, Except.bind]

theorem bind_eq_error_iff {x : Except Fault α} {e : Fault} :
    x >>= f = .error e ↔ x = .error e ∨ ∃ a, x = .ok a ∧ f a = .error e := by
  cases x with
  | error e' => simp [bind, Except.bind]
  | ok a => simp [bind, Except.bind]

theorem map_eq_ok_iff {x : Except Fault α} {g : α → β} {y : β} :
    x.map g = .ok y ↔ ∃ a, x = .ok a ∧ g a = y := by
  cases x with
  | error e => simp [Except.map]
  | ok a => simp [Except.map]

theorem ok_bind (a : α) (f : α → Except Fault β) : Except.ok a >>= f = f a := rfl

theorem throw_ne_ok {e : Fault} {y : β} : (throw e : Except Fault β) ≠ .ok y := by
  simp [throw, throwThe, MonadExceptOf.throw]

theorem exists_eq_ok_of_any {ε : Type} {x : Except ε α} {p : α → Bool} (h : x.toOption.any p) :
    ∃ a, x = .ok a ∧ p a := by
  cases x with
  | ok a => exact ⟨a, rfl, h⟩
  | error e => simp [Except.toOption] at h

theorem mapM_eq_ok_iff {xs : List α} {ys : List β} :
    xs.mapM f = .ok ys ↔ List.Forall₂ (fun x y => f x = .ok y) xs ys := by
  induction xs generalizing ys with
  | nil =>
      rw [List.mapM_nil, List.forall₂_nil_left_iff]
      exact ⟨fun h => (Except.ok.inj h).symm, fun h => congrArg Except.ok h.symm⟩
  | cons x xs ih =>
      rw [List.mapM_cons, List.forall₂_cons_left_iff]
      constructor
      · intro h
        cases hx : f x with
        | error e => simp [hx, bind, Except.bind] at h
        | ok y =>
            cases hxs : xs.mapM f with
            | error e => simp [hx, hxs, bind, Except.bind] at h
            | ok rest =>
                rw [hx, hxs] at h
                exact ⟨y, rest, rfl, ih.mp hxs, (Except.ok.inj h).symm⟩
      · rintro ⟨y, rest, hx, hxs, rfl⟩
        rw [hx, ih.mpr hxs]
        rfl

/-- The fault is that of the first item with one. -/
theorem mapM_eq_error_iff {xs : List α} {e : Fault} :
    xs.mapM f = .error e ↔ ∃ before x after, xs = before ++ x :: after ∧
      (∀ y ∈ before, ∃ b, f y = .ok b) ∧ f x = .error e := by
  induction xs with
  | nil => simp [pure, Except.pure]
  | cons x xs ih =>
      rw [List.mapM_cons, bind_eq_error_iff]
      constructor
      · rintro (hx | ⟨y, hy, hrest⟩)
        · exact ⟨[], x, xs, rfl, by simp, hx⟩
        · rw [bind_eq_error_iff] at hrest
          obtain hxs | ⟨ys, -, hpure⟩ := hrest
          · obtain ⟨before, x', after, rfl, hbefore, hx'⟩ := ih.mp hxs
            exact ⟨x :: before, x', after, rfl, List.forall_mem_cons.mpr ⟨⟨y, hy⟩, hbefore⟩, hx'⟩
          · simp [pure, Except.pure] at hpure
      · rintro ⟨before, x', after, hsplit, hbefore, hx'⟩
        cases before with
        | nil =>
            obtain ⟨rfl, -⟩ := List.cons.inj hsplit
            exact Or.inl hx'
        | cons y before =>
            obtain ⟨rfl, rfl⟩ := List.cons.inj hsplit
            obtain ⟨⟨b, hb⟩, hbefore⟩ := List.forall_mem_cons.mp hbefore
            refine Or.inr ⟨b, hb, bind_eq_error_iff.mpr (Or.inl ?_)⟩
            exact ih.mpr ⟨before, x', after, rfl, hbefore, hx'⟩

theorem mapM_error {xs : List α} {e : Fault} (h : xs.mapM f = .error e) :
    ∃ x ∈ xs, f x = .error e := by
  obtain ⟨before, x, after, rfl, -, hx⟩ := mapM_eq_error_iff.mp h
  exact ⟨x, by simp, hx⟩

theorem exists_ok_of_mapM {xs : List α} {ys : List β} (h : xs.mapM f = .ok ys) {x : α}
    (hx : x ∈ xs) : ∃ y ∈ ys, f x = .ok y := by
  have hall := mapM_eq_ok_iff.mp h
  clear h
  induction hall with
  | nil => simp at hx
  | @cons x' y xs ys hy hall ih =>
      rcases List.mem_cons.mp hx with rfl | hx
      · exact ⟨y, List.mem_cons_self, hy⟩
      · obtain ⟨y', hy', hxy⟩ := ih hx
        exact ⟨y', List.mem_cons_of_mem y hy', hxy⟩

theorem foldlM_error {σ : Type} {f : σ → α → Except Fault σ} {xs : List α} {s : σ} {e : Fault}
    (h : xs.foldlM f s = .error e) : ∃ s', ∃ x ∈ xs, f s' x = .error e := by
  induction xs generalizing s with
  | nil => simp [pure, Except.pure] at h
  | cons x xs ih =>
      rw [List.foldlM_cons] at h
      cases hx : f s x with
      | error e' =>
          rw [hx] at h
          obtain rfl := Except.error.inj h
          exact ⟨s, x, List.mem_cons_self, hx⟩
      | ok s' =>
          rw [hx] at h
          obtain ⟨s'', x', hx', he⟩ := ih h
          exact ⟨s'', x', List.mem_cons_of_mem x hx', he⟩

end Items

theorem pairwise_mergeSort_key {α : Type} (key : α → String) (xs : List α) :
    (xs.mergeSort fun a b => key a ≤ key b).Pairwise fun a b => key a ≤ key b := by
  have hsorted : (xs.mergeSort fun a b => key a ≤ key b).Pairwise
      fun a b => decide (key a ≤ key b) = true := by
    apply List.pairwise_mergeSort
    · intro a b c hab hbc
      simp only [decide_eq_true_eq] at hab hbc ⊢
      exact String.le_trans hab hbc
    · intro a b
      simpa using String.le_total (key a) (key b)
  exact hsorted.imp fun h => of_decide_eq_true h

/-- The sort is stable: items of one key keep their order. -/
theorem filter_mergeSort_key {α : Type} (key : α → String) (xs : List α) (p : α → Bool)
    (h : ∀ a ∈ xs, ∀ b ∈ xs, p a → p b → key a = key b) :
    (xs.mergeSort fun a b => key a ≤ key b).filter p = xs.filter p := by
  have hpairwise : (xs.filter p).Pairwise fun a b => decide (key a ≤ key b) = true := by
    rw [List.pairwise_filter]
    refine List.pairwise_of_forall_mem_list fun a ha b hb hpa hpb => ?_
    exact decide_eq_true (h a ha b hb hpa hpb ▸ String.le_refl _)
  have hsub : (xs.filter p).Sublist (xs.mergeSort fun a b => key a ≤ key b) := by
    apply List.sublist_mergeSort _ _ hpairwise List.filter_sublist
    · intro a b c hab hbc
      simp only [decide_eq_true_eq] at hab hbc ⊢
      exact String.le_trans hab hbc
    · intro a b
      simpa using String.le_total (key a) (key b)
  have hfiltered := hsub.filter p
  rw [List.filter_filter] at hfiltered
  simp only [Bool.and_self] at hfiltered
  exact (hfiltered.eq_of_length ((List.mergeSort_perm xs _).filter p).length_eq.symm).symm

theorem lookup_eq_some_iff {κ α : Type} [BEq κ] [LawfulBEq κ] {items : List (κ × α)}
    (h : (items.map Prod.fst).Nodup) {p : κ × α} :
    items.lookup p.1 = some p.2 ↔ p ∈ items := by
  induction items with
  | nil => simp
  | cons item items ih =>
      rw [List.map_cons, List.nodup_cons] at h
      rw [List.lookup_cons, List.mem_cons]
      by_cases hname : p.1 = item.1
      · have hfresh : p ∉ items := fun hmem => h.1 (hname ▸ List.mem_map_of_mem hmem)
        simp [hname, hfresh, Prod.ext_iff, eq_comm]
      · have hne : p ≠ item := fun heq => hname (congrArg Prod.fst heq)
        simp only [beq_false_of_ne hname, ih h.2, hne, false_or]

namespace Attempt

variable {α β σ : Type}

/-- The attempt has this outcome, whatever was logged before. -/
def Gives (a : Attempt α) (outcome : Except Fault α) : Prop := ∀ log, (a.perform log).1 = outcome

theorem perform_bind (a : Attempt α) (f : α → Attempt β) (log : Array Record) :
    (a >>= f).perform log =
      match a.perform log with
      | (.ok x, log) => (f x).perform log
      | (.error e, log) => (.error e, log) := by
  unfold perform
  rw [ExceptT.run_bind, StateT.run_bind]
  rcases a.run.run log with ⟨e | x, s⟩ <;> rfl

theorem gives_pure (x : α) : Gives (pure x) (.ok x) := fun _ => rfl

theorem gives_ofExcept (r : Except Fault α) : Gives (ofExcept r) r := fun _ => rfl

theorem gives_note (level : Level) (logger message : String) :
    Gives (note level logger message) (.ok ()) := fun _ => rfl

theorem gives_lift {work : Logged α} {x : α} (h : ∀ log, (work.run log).1 = x) :
    Gives (liftM work : Attempt α) (.ok x) := fun log => congrArg Except.ok (h log)

theorem Gives.bind {a : Attempt α} {o : Except Fault α} (ha : a.Gives o) {f : α → Attempt β}
    {g : α → Except Fault β} (hf : ∀ x, (f x).Gives (g x)) : (a >>= f).Gives (o >>= g) := by
  intro log
  have h := ha log
  rw [perform_bind]
  rcases hp : a.perform log with ⟨x | x, s⟩
  · rw [hp] at h
    rw [← h]
    rfl
  · rw [hp] at h
    rw [← h]
    exact hf x s

theorem Gives.foldlM {f : σ → α → Attempt σ} {g : σ → α → Except Fault σ}
    (h : ∀ s x, (f s x).Gives (g s x)) (xs : List α) (s : σ) :
    (xs.foldlM f s).Gives (xs.foldlM g s) := by
  induction xs generalizing s with
  | nil => exact gives_pure s
  | cons x xs ih =>
      rw [List.foldlM_cons, List.foldlM_cons]
      exact (h s x).bind ih

theorem Gives.congr {a : Attempt α} {o o' : Except Fault α} (h : a.Gives o) (heq : o = o') :
    a.Gives o' := heq ▸ h

theorem Gives.unique {a : Attempt α} {o o' : Except Fault α} (h : a.Gives o) (h' : a.Gives o') :
    o = o' := (h #[]).symm.trans (h' #[])

theorem Gives.caught {a : Attempt α} {o : Except Fault α} (h : a.Gives o) :
    a.caught.Gives (.ok o) := fun log => congrArg Except.ok (h log)

theorem Gives.perform {a : Attempt α} {o : Except Fault α} (h : a.Gives o) (log : Array Record) :
    ∃ log', a.perform log = (o, log') := ⟨_, Prod.ext (h log) rfl⟩

end Attempt

namespace TreeWork

variable {α β : Type}

/-- The work on a tree has this outcome and leaves this tree, whatever was logged before. -/
def Does (work : TreeWork α) (f : StubTree → Except Fault α × StubTree) : Prop :=
  ∀ w, (work.perform w).1 = (f w.tree).1 ∧ (work.perform w).2.tree = (f w.tree).2

theorem perform_bind (work : TreeWork α) (next : α → TreeWork β) (w : Workbench) :
    (work >>= next).perform w =
      match work.perform w with
      | (.ok x, w) => (next x).perform w
      | (.error e, w) => (.error e, w) := by
  unfold perform
  rw [ExceptT.run_bind, StateT.run_bind]
  rcases work.run.run w with ⟨e | x, s⟩ <;> rfl

theorem does_pure (x : α) : Does (pure x) fun t => (.ok x, t) := fun _ => ⟨rfl, rfl⟩

theorem does_throw (e : Fault) : Does (throw e : TreeWork α) fun t => (.error e, t) :=
  fun _ => ⟨rfl, rfl⟩

theorem does_ofExcept (r : Except Fault α) : Does (ofExcept r) fun t => (r, t) :=
  fun _ => ⟨rfl, rfl⟩

theorem does_reads (x : Reading α) : Does (reads x) fun t => (x.outcome, t) :=
  fun _ => ⟨rfl, rfl⟩

theorem does_note (level : Level) (logger message : String) :
    Does (note level logger message) fun t => (.ok (), t) := fun _ => ⟨rfl, rfl⟩

theorem does_changes (f : StubTree → StubTree) : Does (changes f) fun t => (.ok (), f t) :=
  fun _ => ⟨rfl, rfl⟩

theorem does_setAccessor (s : Site) (name : String) (type : Annotation) :
    Does (setAccessor s name type) fun t =>
      (.ok (), t.change s fun n => n.setAccessor name type) := fun _ => ⟨rfl, rfl⟩

theorem Does.bind {work : TreeWork α} {f : StubTree → Except Fault α × StubTree}
    (hwork : work.Does f) {next : α → TreeWork β} {g : α → StubTree → Except Fault β × StubTree}
    (hnext : ∀ x, (next x).Does (g x)) :
    (work >>= next).Does fun t =>
      match f t with
      | (.ok x, t) => g x t
      | (.error e, t) => (.error e, t) := by
  intro w
  obtain ⟨houtcome, htree⟩ := hwork w
  rw [perform_bind]
  have hf : f w.tree = ((work.perform w).1, (work.perform w).2.tree) :=
    Prod.ext houtcome.symm htree.symm
  simp only [hf]
  rcases work.perform w with ⟨e | x, s⟩
  · exact ⟨rfl, rfl⟩
  · exact hnext x s

theorem Does.congr {work : TreeWork α} {f g : StubTree → Except Fault α × StubTree}
    (h : work.Does f) (hfg : ∀ t, f t = g t) : work.Does g := by
  intro w
  rw [← hfg]
  exact h w

theorem Does.forM {step : α → TreeWork Unit} {f : α → StubTree → StubTree}
    (h : ∀ x, (step x).Does fun t => (.ok (), f x t)) (xs : List α) :
    (xs.forM step).Does fun t => (.ok (), xs.foldl (fun t x => f x t) t) := by
  induction xs with
  | nil => exact does_pure ()
  | cons x xs ih => exact (h x).bind fun _ => ih

theorem Does.on {work : TreeWork α} {f : StubTree → Except Fault α × StubTree} (h : work.Does f)
    (t : StubTree) : (work.on t).Gives (.ok (f t)) := by
  intro log
  obtain ⟨houtcome, htree⟩ := h ⟨t, log⟩
  exact congrArg Except.ok (Prod.ext houtcome htree)

end TreeWork

end TypeStubs
