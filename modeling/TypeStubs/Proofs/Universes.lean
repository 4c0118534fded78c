import Mathlib.Data.List.Nodup
import TypeStubs.Proofs.Ancestry
import TypeStubs.Proofs.Work
import TypeStubs.Scaffold.BuiltIn

/-!
# Universes of declared classes

A universe grows by the creation of classes. A new class comes after its bases, has all that is
above them above it, and leaves the classes that were there as they are.
-/

namespace TypeStubs.Scaffold

namespace LiveClass

variable {α : Type}

theorem lookup_bind (name other : String) (a : α) (body : List (String × α)) :
    (bind name a body).lookup other = if other = name then some a else body.lookup other := by
  induction body with
  | nil =>
      by_cases h : other = name
      · simp [bind, h]
      · simp [bind, List.lookup_cons, beq_false_of_ne h, h]
  | cons p rest ih =>
      obtain ⟨n, b⟩ := p
      by_cases hn : n = name
      · by_cases ho : other = name
        · simp [bind, hn, ho]
        · simp [bind, hn, ho, List.lookup_cons, beq_false_of_ne ho]
      · by_cases ho : other = n
        · simp [bind, hn, ho]
        · simp [bind, hn, List.lookup_cons, beq_false_of_ne ho, ih]

theorem map_fst_bind (name : String) (a : α) (body : List (String × α)) :
    (bind name a body).map Prod.fst =
      if name ∈ body.map Prod.fst then body.map Prod.fst else body.map Prod.fst ++ [name] := by
  induction body with
  | nil => simp [bind]
  | cons p rest ih =>
      obtain ⟨n, b⟩ := p
      by_cases hn : n = name
      · simp [bind, hn]
      · simp only [bind, hn, if_false, List.map_cons, ih, List.mem_cons, Ne.symm hn, false_or]
        split <;> rfl

theorem mem_bind {name : String} {a : α} {body : List (String × α)} {p : String × α}
    (h : p ∈ bind name a body) : p = (name, a) ∨ p ∈ body := by
  induction body with
  | nil => exact Or.inl (List.mem_singleton.mp h)
  | cons q rest ih =>
      obtain ⟨n, b⟩ := q
      rw [bind] at h
      split at h
      · rename_i hn
        rcases List.mem_cons.mp h with rfl | h
        · exact Or.inl (by rw [hn])
        · exact Or.inr (List.mem_cons_of_mem _ h)
      · rcases List.mem_cons.mp h with rfl | h
        · exact Or.inr List.mem_cons_self
        · exact (ih h).imp_right (List.mem_cons_of_mem _)

theorem mem_of_lookup {name : String} {a : α} {body : List (String × α)}
    (h : body.lookup name = some a) : (name, a) ∈ body := by
  obtain ⟨before, after, rfl, -⟩ := List.lookup_eq_some_iff.mp h
  exact List.mem_append_right before List.mem_cons_self

theorem nodup_bind (name : String) (a : α) {body : List (String × α)}
    (h : (body.map Prod.fst).Nodup) : ((bind name a body).map Prod.fst).Nodup := by
  rw [map_fst_bind]
  split
  · exact h
  · rename_i hmem
    exact h.append (List.nodup_singleton _) (List.disjoint_singleton.mpr hmem)

end LiveClass

theorem mem_foldl_bind {p : String × Attribute} (attributes : List (String × Attribute)) :
    ∀ done : List (String × Attribute),
      p ∈ attributes.foldl (fun b q => LiveClass.bind q.1 q.2 b) done →
        p ∈ done ∨ p ∈ attributes := by
  induction attributes with
  | nil => exact fun done h => Or.inl h
  | cons q attributes ih =>
      intro done h
      rcases ih _ h with h | h
      · rcases LiveClass.mem_bind h with rfl | h
        · exact Or.inr List.mem_cons_self
        · exact Or.inl h
      · exact Or.inr (List.mem_cons_of_mem q h)

theorem nodup_foldl_bind {α : Type} (ps : List (String × α)) :
    ∀ done : List (String × α), (done.map Prod.fst).Nodup →
      ((ps.foldl (fun b q => LiveClass.bind q.1 q.2 b) done).map Prod.fst).Nodup := by
  induction ps with
  | nil => exact fun done h => h
  | cons q ps ih => exact fun done h => ih _ (LiveClass.nodup_bind _ _ h)

theorem exists_mem_of_mem_boundBody {body : List (String × Attribute)} {p : String × Attribute}
    (h : p ∈ boundBody body) :
    ∃ q ∈ body, q.1 = p.1 ∧ p.2 = match q.2 with
      | .value v => .value (attach q.1 v)
      | a => a := by
  obtain ⟨q, hq, rfl⟩ := List.mem_map.mp ((mem_foldl_bind _ [] h).resolve_left List.not_mem_nil)
  exact ⟨q, hq, rfl, rfl⟩

theorem nodup_boundBody (body : List (String × Attribute)) :
    ((boundBody body).map Prod.fst).Nodup := nodup_foldl_bind _ [] List.nodup_nil

namespace Universe

variable {u u' : Universe} {c : Nat}

/-! ## Changes of one class -/

@[simp] theorem size_bind (u : Universe) (c : Nat) (name : String) (a : Attribute) :
    (u.bind c name a).classes.size = u.classes.size := by
  simp [bind, change]

theorem get_of_size_le (h : u.classes.size ≤ c) : u.get c = .blank := by
  simp [get, Array.getElem?_eq_none h]

theorem get_bind (u : Universe) (c : Nat) (name : String) (a : Attribute) (d : Nat) :
    (u.bind c name a).get d =
      if d = c ∧ c < u.classes.size then
        { u.get d with body := LiveClass.bind name a (u.get d).body }
      else u.get d := by
  by_cases hc : c < u.classes.size
  · by_cases hd : d = c
    · subst hd
      simp [bind, change, get, hc, Array.getElem_modify]
    · simp [bind, change, get, hd, Ne.symm hd, Array.getElem?_modify]
  · have hsame : u.classes.modify c (fun k => { k with body := LiveClass.bind name a k.body }) =
        u.classes := by
      apply Array.ext_getElem?
      intro i
      rw [Array.getElem?_modify]
      split
      · rename_i hi
        subst hi
        simp [Array.getElem?_eq_none (Nat.le_of_not_lt hc)]
      · rfl
    simp [bind, change, get, hc, hsame]

theorem lookup_get_bind (u : Universe) (c : Nat) (name : String) (a : Attribute) (d : Nat)
    (other : String) :
    ((u.bind c name a).get d).body.lookup other =
      if (d = c ∧ c < u.classes.size) ∧ other = name then some a
      else (u.get d).body.lookup other := by
  rw [get_bind]
  by_cases hd : d = c ∧ c < u.classes.size
  · rw [if_pos hd, LiveClass.lookup_bind]
    simp [hd]
  · rw [if_neg hd, if_neg fun h => hd h.1]

/-- Two universes with the same classes, each with the same path, bases and ancestors. -/
structure SameShape (u v : Universe) : Prop where
  size : v.classes.size = u.classes.size
  path : ∀ c, (v.get c).path = (u.get c).path
  bases : ∀ c, (v.get c).bases = (u.get c).bases
  ancestry : ∀ c, (v.get c).ancestry = (u.get c).ancestry

theorem sameShape_bind (u : Universe) (c : Nat) (name : String) (a : Attribute) :
    u.SameShape (u.bind c name a) where
  size := size_bind u c name a
  path := by
    intro d
    rw [get_bind]
    split <;> rfl
  bases := by
    intro d
    rw [get_bind]
    split <;> rfl
  ancestry := by
    intro d
    rw [get_bind]
    split <;> rfl

theorem SameShape.refl (u : Universe) : u.SameShape u :=
  ⟨rfl, fun _ => rfl, fun _ => rfl, fun _ => rfl⟩

theorem SameShape.trans {v w : Universe} (h : u.SameShape v) (h' : v.SameShape w) :
    u.SameShape w where
  size := h'.size.trans h.size
  path := fun c => (h'.path c).trans (h.path c)
  bases := fun c => (h'.bases c).trans (h.bases c)
  ancestry := fun c => (h'.ancestry c).trans (h.ancestry c)

theorem SameShape.symm {v : Universe} (h : u.SameShape v) : v.SameShape u where
  size := h.size.symm
  path := fun c => (h.path c).symm
  bases := fun c => (h.bases c).symm
  ancestry := fun c => (h.ancestry c).symm

theorem SameShape.row {v : Universe} (h : u.SameShape v) (c : Nat) : v.row c = u.row c := by
  rw [Universe.row, Universe.row, h.ancestry]

theorem isGenerator_iff : u.isGenerator c ↔ generatorId ∈ u.row c := by
  rw [isGenerator, List.contains_iff_mem]

/-! ## Creation -/

/-- The universe with one more class, whose declarations are not yet collected. -/
def push (u : Universe) (k : LiveClass) : Universe := { u with classes := u.classes.push k }

@[simp] theorem size_push (u : Universe) (k : LiveClass) :
    (u.push k).classes.size = u.classes.size + 1 := by
  simp [push]

@[simp] theorem get_push_self (u : Universe) (k : LiveClass) :
    (u.push k).get u.classes.size = k := by
  simp [push, get]

theorem get_push_of_ne (u : Universe) (k : LiveClass) (h : c ≠ u.classes.size) :
    (u.push k).get c = u.get c := by
  simp [push, get, Array.getElem?_push, h]

/-- What holds of the new class, and of each other class as it was, holds of all classes. -/
theorem forall_get_push {k : LiveClass} {P : Nat → LiveClass → Prop}
    (hnew : P u.classes.size k) (hold : ∀ c, P c (u.get c)) (c : Nat) :
    P c ((u.push k).get c) := by
  by_cases hc : c = u.classes.size
  · rw [hc, get_push_self]
    exact hnew
  · rw [get_push_of_ne u k hc]
    exact hold c

/-- The bases of a class: without any it has the root of all classes. -/
def basesOf (bases : List Nat) : List Nat := if bases.isEmpty then [objectId] else bases

theorem create_eq (u : Universe) (module : Value) (path : String) (bases : List Nat)
    (body : List (String × Attribute)) :
    u.create module path bases body =
      match formFault? (lastPart path) (boundBody body) with
      | some f => .error f
      | none =>
        match ancestry? (basesOf bases) u.row with
        | none => .error .wrongType
        | some ancestry =>
          let v := u.push ⟨module, path, lastPart path, basesOf bases, ancestry, boundBody body⟩
          v.tell ancestry >>= fun collects =>
            if collects then (v.collectInto u.classes.size).map fun w => (w, u.classes.size)
            else .ok (v, u.classes.size) := by
  unfold create
  dsimp only
  cases formFault? (lastPart path) (boundBody body) with
  | some f => rfl
  | none =>
      unfold basesOf
      cases ancestry? (if bases.isEmpty then [objectId] else bases) u.row with
      | none => rfl
      | some ancestry => rfl

/-- A class was created below its bases. It has collected its declarations if its ancestors had it
do so. -/
theorem create_eq_ok {module : Value} {path : String} {bases : List Nat}
    {body : List (String × Attribute)} (h : u.create module path bases body = .ok (u', c)) :
    c = u.classes.size ∧ ∃ ancestry, ancestry? (basesOf bases) u.row = some ancestry ∧
      let v := u.push ⟨module, path, lastPart path, basesOf bases, ancestry, boundBody body⟩
      ∃ collects, v.tell ancestry = .ok collects ∧
        if collects then v.collectInto c = .ok u' else u' = v := by
  rw [create_eq] at h
  split at h
  · simp at h
  · cases hancestry : ancestry? (basesOf bases) u.row with
    | none => simp [hancestry] at h
    | some ancestry =>
        simp only [hancestry] at h
        obtain ⟨collects, htold, h⟩ := bind_eq_ok_iff.mp h
        cases collects with
        | true =>
            obtain ⟨w, hw, hpair⟩ := map_eq_ok_iff.mp h
            obtain ⟨rfl, rfl⟩ := Prod.mk.inj hpair
            exact ⟨rfl, ancestry, rfl, true, htold, hw⟩
        | false =>
            obtain ⟨rfl, rfl⟩ := Prod.mk.inj (Except.ok.inj h)
            exact ⟨rfl, ancestry, rfl, false, htold, rfl⟩

theorem collectInto_eq_ok (h : u.collectInto c = .ok u') :
    ∃ items entries arguments options, u.inheritedItems c = .ok items ∧
      u.inheritedOptions c = .ok entries ∧
      collect (u.get c).body items entries = .ok (arguments, options) ∧
      u' = (u.bind c argumentsName (.value (.tuple arguments))).bind c optionsName
        (.value (.map options)) := by
  unfold collectInto at h
  obtain ⟨items, hitems, h⟩ := bind_eq_ok_iff.mp h
  obtain ⟨entries, hentries, h⟩ := bind_eq_ok_iff.mp h
  obtain ⟨⟨arguments, options⟩, hcollect, h⟩ := bind_eq_ok_iff.mp h
  exact ⟨items, entries, arguments, options, hitems, hentries, hcollect, (Except.ok.inj h).symm⟩

theorem sameShape_collectInto (h : u.collectInto c = .ok u') : u.SameShape u' := by
  obtain ⟨items, entries, arguments, options, -, -, -, rfl⟩ := collectInto_eq_ok h
  exact (sameShape_bind _ _ _ _).trans (sameShape_bind _ _ _ _)

/-- Collecting changes the one class alone. -/
theorem get_collectInto_of_ne (h : u.collectInto c = .ok u') {d : Nat} (hd : d ≠ c) :
    u'.get d = u.get d := by
  obtain ⟨items, entries, arguments, options, -, -, -, rfl⟩ := collectInto_eq_ok h
  rw [get_bind, if_neg fun h => hd h.1, get_bind, if_neg fun h => hd h.1]

/-- A created class comes last and leaves the others alone. -/
theorem get_create_of_ne {module : Value} {path : String} {bases : List Nat}
    {body : List (String × Attribute)} (h : u.create module path bases body = .ok (u', c)) {d : Nat}
    (hd : d ≠ u.classes.size) : u'.get d = u.get d := by
  obtain ⟨rfl, ancestry, -, collects, -, hcases⟩ := create_eq_ok h
  split at hcases
  · rw [get_collectInto_of_ne hcases hd, get_push_of_ne _ _ hd]
  · rw [hcases, get_push_of_ne _ _ hd]

theorem sameShape_create {module : Value} {path : String} {bases : List Nat}
    {body : List (String × Attribute)} (h : u.create module path bases body = .ok (u', c)) :
    ∃ k, (u.push k).SameShape u' ∧ k.path = path ∧ k.bases = basesOf bases ∧
      ancestry? (basesOf bases) u.row = some k.ancestry := by
  obtain ⟨rfl, ancestry, hancestry, collects, -, hcases⟩ := create_eq_ok h
  refine ⟨⟨module, path, lastPart path, basesOf bases, ancestry, boundBody body⟩, ?_, rfl, rfl,
    hancestry⟩
  split at hcases
  · exact sameShape_collectInto hcases
  · rw [hcases]
    exact .refl _

theorem path_create {module : Value} {path : String} {bases : List Nat}
    {body : List (String × Attribute)} (h : u.create module path bases body = .ok (u', c)) :
    (u'.get c).path = path := by
  obtain ⟨k, hshape, hpath, -, -⟩ := sameShape_create h
  obtain ⟨rfl, -⟩ := create_eq_ok h
  rw [hshape.path, get_push_self, hpath]

/-! ## The shape of a universe -/

/-- Classes come after their ancestors, and what is above an ancestor is above the class. All but
the root of all classes have a base. -/
structure Sound (u : Universe) : Prop where
  lt : ∀ {c d}, d ∈ (u.get c).ancestry → d < c
  mem : ∀ {c b}, b ∈ (u.get c).bases → b ∈ (u.get c).ancestry
  trans : ∀ {c d e}, d ∈ (u.get c).ancestry → e ∈ (u.get d).ancestry → e ∈ (u.get c).ancestry
  nodup : ∀ c, (u.get c).ancestry.Nodup
  single : ∀ {c b}, (u.get c).bases = [b] → (u.get c).ancestry = u.row b
  based : ∀ {c}, c < u.classes.size → c ≠ objectId → (u.get c).bases ≠ []
  generator : (u.get generatorId).bases = [objectId]

namespace Sound

theorem congr {v : Universe} (h : u.Sound) (hsame : u.SameShape v) : v.Sound := by
  obtain ⟨hsize, -, hbases, hancestry⟩ := hsame
  constructor
  · intro c d hd
    exact h.lt (hancestry c ▸ hd)
  · intro c b hb
    rw [hancestry]
    exact h.mem (hbases c ▸ hb)
  · intro c d e hd he
    rw [hancestry] at hd he ⊢
    exact h.trans hd he
  · intro c
    rw [hancestry]
    exact h.nodup c
  · intro c b hb
    rw [hancestry, row, hancestry]
    exact h.single (hbases c ▸ hb)
  · intro c hc hne
    rw [hbases]
    exact h.based (hsize ▸ hc) hne
  · rw [hbases]
    exact h.generator

theorem lt_size (_h : u.Sound) {d : Nat} (hd : d ∈ (u.get c).ancestry) : c < u.classes.size := by
  by_contra hc
  rw [get_of_size_le (Nat.le_of_not_lt hc)] at hd
  simp [LiveClass.blank] at hd

theorem ancestry_objectId (h : u.Sound) : (u.get objectId).ancestry = [] :=
  List.eq_nil_iff_forall_not_mem.mpr fun _ hd => absurd (h.lt hd) (Nat.not_lt_zero _)

theorem row_generatorId (h : u.Sound) : u.row generatorId = [generatorId, objectId] := by
  rw [row, h.single h.generator, row, h.ancestry_objectId]

theorem generatorId_lt (h : u.Sound) : generatorId < u.classes.size := by
  have hmem : objectId ∈ (u.get generatorId).ancestry := h.mem (by simp [h.generator])
  exact h.lt_size hmem

theorem notMem_ancestry (h : u.Sound) (c : Nat) : c ∉ (u.get c).ancestry :=
  fun hc => absurd (h.lt hc) (Nat.lt_irrefl c)

theorem mem_row_trans (h : u.Sound) {d e : Nat} (hd : d ∈ u.row c) (he : e ∈ u.row d) :
    e ∈ u.row c := by
  rcases List.mem_cons.mp hd with rfl | hd
  · exact he
  · rcases List.mem_cons.mp he with rfl | he
    · exact List.mem_cons_of_mem c hd
    · exact List.mem_cons_of_mem c (h.trans hd he)

theorem lt_size_of_mem_row (h : u.Sound) (hc : c < u.classes.size) {d : Nat} (hd : d ∈ u.row c) :
    d < u.classes.size := by
  rcases List.mem_cons.mp hd with rfl | hd
  · exact hc
  · exact Nat.lt_trans (h.lt hd) hc

/-- A class can be put below any one class. -/
theorem ancestry?_single (h : u.Sound) (b : Nat) : ancestry? [b] u.row = some (u.row b) :=
  ancestry?_of_nodup rfl (List.nodup_cons.mpr ⟨h.notMem_ancestry b, h.nodup b⟩)

theorem push (h : u.Sound) {k : LiveClass} (hbases : ∀ b ∈ k.bases, b < u.classes.size)
    (hne : k.bases ≠ []) (hancestry : ancestry? k.bases u.row = some k.ancestry) :
    (u.push k).Sound := by
  have hmem := fun d => mem_ancestry?_iff hancestry (d := d)
  have hbelow : ∀ {d}, d ∈ k.ancestry → d < u.classes.size := by
    intro d hd
    rcases (hmem d).mp hd with hd | ⟨b, hb, hd⟩
    · exact hbases d hd
    · rcases List.mem_cons.mp hd with rfl | hd
      · exact hbases d hb
      · exact Nat.lt_trans (h.lt hd) (hbases b hb)
  have hold : ∀ {d}, d < u.classes.size → (u.push k).get d = u.get d :=
    fun hd => get_push_of_ne u k (Nat.ne_of_lt hd)
  have habove : ∀ {c d}, d ∈ (u.get c).ancestry → (u.push k).get d = u.get d :=
    fun hd => hold (Nat.lt_trans (h.lt hd) (h.lt_size hd))
  constructor
  case lt =>
    exact fun {c d} => forall_get_push (P := fun c k => d ∈ k.ancestry → d < c)
      hbelow (fun _ => h.lt) c
  case mem =>
    exact fun {c b} => forall_get_push (P := fun _ k => b ∈ k.bases → b ∈ k.ancestry)
      (fun hb => (hmem b).mpr (Or.inl hb)) (fun _ => h.mem) c
  case trans =>
    intro c d e
    refine forall_get_push (P := fun _ k' => d ∈ k'.ancestry →
      e ∈ ((u.push k).get d).ancestry → e ∈ k'.ancestry) ?_ ?_ c
    · intro hd he
      rw [hold (hbelow hd)] at he
      rcases (hmem d).mp hd with hb | ⟨b, hb, hd⟩
      · exact (hmem e).mpr (Or.inr ⟨d, hb, List.mem_cons_of_mem d he⟩)
      · exact (hmem e).mpr
          (Or.inr ⟨b, hb, h.mem_row_trans hd (List.mem_cons_of_mem d he)⟩)
    · intro c hd he
      exact h.trans hd (habove hd ▸ he)
  case nodup =>
    exact forall_get_push (P := fun _ k => k.ancestry.Nodup)
      (merged_of_ancestry?_eq hancestry).nodup h.nodup
  case single =>
    intro c b
    refine forall_get_push (P := fun _ k' =>
      k'.bases = [b] → k'.ancestry = (u.push k).row b) ?_ ?_ c
    · intro hb
      rw [hb] at hancestry
      rw [row, hold (hbases b (by simp [hb]))]
      exact ancestry?_singleton hancestry List.mem_cons_self
    · intro c hb
      rw [row, habove (h.mem (by simp [hb] : b ∈ (u.get c).bases))]
      exact h.single hb
  case based =>
    intro c hc hobject
    by_cases hnew : c = u.classes.size
    · rw [hnew, get_push_self]
      exact hne
    · rw [get_push_of_ne u k hnew]
      rw [size_push] at hc
      exact h.based (by omega) hobject
  case generator =>
    rw [hold h.generatorId_lt]
    exact h.generator

theorem create (h : u.Sound) {module : Value} {path : String} {bases : List Nat}
    {body : List (String × Attribute)} (hbases : ∀ b ∈ bases, b < u.classes.size)
    (hcreate : u.create module path bases body = .ok (u', c)) : u'.Sound := by
  obtain ⟨k, hshape, -, hk, hancestry⟩ := sameShape_create hcreate
  rw [← hk] at hancestry
  refine (h.push ?_ ?_ hancestry).congr hshape
  · intro b hb
    rw [hk, basesOf] at hb
    split at hb
    · rw [List.mem_singleton.mp hb]
      exact Nat.lt_of_le_of_lt (Nat.zero_le _) h.generatorId_lt
    · exact hbases b hb
  · rw [hk, basesOf]
    split
    · simp
    · rename_i hempty
      simpa using hempty

end Sound

/-! ## Growth -/

/-- What a class statement may bind. The two attributes into which declarations are collected are
left alone, and no name is empty. -/
def Plain (body : List (String × Attribute)) : Prop :=
  ∀ p ∈ body, p.1 ≠ argumentsName ∧ p.1 ≠ optionsName ∧ p.1 ≠ ""

instance (body : List (String × Attribute)) : Decidable (Plain body) :=
  inferInstanceAs (Decidable (∀ p ∈ body, p.1 ≠ argumentsName ∧ p.1 ≠ optionsName ∧ p.1 ≠ ""))

/-- The universes that come about when classes are declared: a class is created, it is made known
in its outer class, or modules change. -/
inductive Grown : Universe → Prop
  | builtIn : Grown builtIn
  | create {u u' : Universe} {module : Value} {path : String} {bases : List Nat}
      {body : List (String × Attribute)} {c : Nat} (h : Grown u)
      (hbases : ∀ b ∈ bases, b < u.classes.size) (hbody : u'.isGenerator c → Plain body)
      (hcreate : u.create module path bases body = .ok (u', c)) : Grown u'
  | nest {u : Universe} {c d : Nat} {name : String} (h : Grown u)
      (hname : name ≠ argumentsName ∧ name ≠ optionsName) : Grown (u.bind c name (.nested d))
  | known {u : Universe} (h : Grown u) (modules : List (String × List (String × Nat))) :
      Grown { u with modules }

theorem size_builtIn : builtIn.classes.size = 4 := by decide +kernel

/-- What holds of the four classes that are there at first, and of no class, holds throughout. -/
theorem forall_get_builtIn {P : Nat → LiveClass → Prop} (hfour : ∀ c < 4, P c (builtIn.get c))
    (hblank : ∀ c, P c .blank) (c : Nat) : P c (builtIn.get c) := by
  rcases Nat.lt_or_ge c 4 with hc | hc
  · exact hfour c hc
  · rw [get_of_size_le (size_builtIn ▸ hc)]
    exact hblank c

theorem sound_builtIn : builtIn.Sound := by
  have hlt : ∀ c < 4, ∀ d ∈ (builtIn.get c).ancestry, d < c := by decide +kernel
  have hmem : ∀ c < 4, ∀ b ∈ (builtIn.get c).bases, b ∈ (builtIn.get c).ancestry := by
    decide +kernel
  have htrans : ∀ c < 4, ∀ d ∈ (builtIn.get c).ancestry, ∀ e ∈ (builtIn.get d).ancestry,
      e ∈ (builtIn.get c).ancestry := by decide +kernel
  have hnodup : ∀ c < 4, (builtIn.get c).ancestry.Nodup := by decide +kernel
  have hsingle : ∀ c < 4, ∀ b ∈ (builtIn.get c).bases,
      (builtIn.get c).ancestry = builtIn.row b := by decide +kernel
  have hbased : ∀ c < 4, c ≠ objectId → (builtIn.get c).bases ≠ [] := by decide +kernel
  constructor
  case lt =>
    exact fun {c d} hd => forall_get_builtIn (P := fun c k => ∀ d ∈ k.ancestry, d < c) hlt
      (by simp [LiveClass.blank]) c d hd
  case mem =>
    exact fun {c b} hb => forall_get_builtIn (P := fun _ k => ∀ b ∈ k.bases, b ∈ k.ancestry) hmem
      (by simp [LiveClass.blank]) c b hb
  case trans =>
    exact fun {c d e} hd he => forall_get_builtIn
      (P := fun _ k => ∀ d ∈ k.ancestry, ∀ e ∈ (builtIn.get d).ancestry, e ∈ k.ancestry) htrans
      (by simp [LiveClass.blank]) c d hd e he
  case nodup =>
    exact forall_get_builtIn (P := fun _ k => k.ancestry.Nodup) hnodup (by simp [LiveClass.blank])
  case single =>
    exact fun {c b} hb => forall_get_builtIn
      (P := fun _ k => ∀ b ∈ k.bases, k.ancestry = builtIn.row b) hsingle
      (by simp [LiveClass.blank]) c b (by simp [hb])
  case based =>
    exact fun {c} hc => hbased c (size_builtIn ▸ hc)
  case generator => decide +kernel

theorem Grown.sound (h : Grown u) : u.Sound := by
  induction h with
  | builtIn => exact sound_builtIn
  | create h hbases hbody hcreate ih => exact ih.create hbases hcreate
  | nest h hname ih => exact ih.congr (sameShape_bind _ _ _ _)
  | known h modules ih => exact ih.congr ⟨rfl, fun _ => rfl, fun _ => rfl, fun _ => rfl⟩

/-- A class becomes known at the top of its module, or in its outer class. -/
theorem register_cases (u : Universe) (module : String) (c : Nat) :
    ∃ modules, u.register module c = { u with modules } ∨
      ∃ d, ∃ name ∈ Text.segments (u.get c).path,
        u.register module c = { u with modules }.bind d name (.nested c) := by
  unfold Universe.register
  dsimp only
  split
  · exact ⟨_, Or.inl rfl⟩
  · rename_i name hlast _
    split
    · exact ⟨_, Or.inr ⟨_, name, List.mem_of_getLast? hlast, rfl⟩⟩
    · exact ⟨_, Or.inl rfl⟩
  · exact ⟨_, Or.inl rfl⟩

theorem Grown.register (h : Grown u) (module : String) (c : Nat)
    (hname : ∀ name ∈ Text.segments (u.get c).path,
      name ≠ argumentsName ∧ name ≠ optionsName) : Grown (u.register module c) := by
  obtain ⟨modules, hknown | ⟨d, name, hmem, hnested⟩⟩ := u.register_cases module c
  · rw [hknown]
    exact h.known modules
  · rw [hnested]
    exact (h.known modules).nest (hname name hmem)

/-- A class statement: the class is created and becomes known. -/
def declare (u : Universe) (form : ClassForm) : Universe :=
  match u.create (.text form.module) form.path form.bases form.body with
  | .ok (v, c) => v.register form.module c
  | .error _ => u

theorem Grown.declare (h : Grown u) {form : ClassForm}
    (hbases : ∀ b ∈ form.bases, b < u.classes.size) (hbody : Plain form.body)
    (hname : ∀ name ∈ Text.segments form.path, name ≠ argumentsName ∧ name ≠ optionsName) :
    Grown (u.declare form) := by
  unfold Universe.declare
  cases hcreate : u.create (.text form.module) form.path form.bases form.body with
  | error f => exact h
  | ok created =>
      obtain ⟨v, c⟩ := created
      have hgrown : Grown v := h.create hbases (fun _ => hbody) hcreate
      refine hgrown.register form.module c ?_
      rw [path_create hcreate]
      exact hname

/-! ## Lines of single inheritance -/

/-- The classes that come down from the root of all generators by one base each. -/
inductive Lineage (u : Universe) : Nat → Prop
  | root : Lineage u generatorId
  | child {c b : Nat} (hbase : (u.get c).bases = [b]) (h : Lineage u b) : Lineage u c

theorem Lineage.congr {v : Universe} (h : u.Lineage c) (hsame : ∀ {d}, u.Lineage d →
    (v.get d).bases = (u.get d).bases) : v.Lineage c := by
  induction h with
  | root => exact .root
  | @child c b hbase h ih => exact .child ((hsame (.child hbase h)).trans hbase) ih

theorem Lineage.exists_base (h : u.Lineage c) (hne : c ≠ generatorId) :
    ∃ b, (u.get c).bases = [b] ∧ u.Lineage b := by
  cases h with
  | root => exact (hne rfl).elim
  | @child _ b hbase h => exact ⟨b, hbase, h⟩

theorem Lineage.lt_size (hu : u.Sound) (h : u.Lineage c) : c < u.classes.size := by
  cases h with
  | root => exact hu.generatorId_lt
  | @child _ b hbase h =>
      have hmem : b ∈ (u.get c).ancestry := hu.mem (by simp [hbase])
      exact hu.lt_size hmem

/-- Above a class of a line there are classes of the line and the root of all classes. -/
theorem Lineage.of_mem_row (hu : u.Sound) (h : u.Lineage c) {d : Nat} (hd : d ∈ u.row c) :
    d = objectId ∨ u.Lineage d := by
  induction h with
  | root =>
      rw [hu.row_generatorId] at hd
      rcases List.mem_cons.mp hd with rfl | hd
      · exact Or.inr .root
      · exact Or.inl (List.mem_singleton.mp hd)
  | @child c b hbase h ih =>
      rcases List.mem_cons.mp hd with rfl | hd
      · exact Or.inr (.child hbase h)
      · rw [hu.single hbase] at hd
        exact ih hd

theorem Lineage.isGenerator (hu : u.Sound) (h : u.Lineage c) : u.isGenerator c := by
  rw [isGenerator_iff]
  induction h with
  | root => exact List.mem_cons_self
  | @child c b hbase h ih =>
      rw [row, hu.single hbase]
      exact List.mem_cons_of_mem c ih

theorem not_isGenerator_objectId (hu : u.Sound) : ¬ u.isGenerator objectId := by
  rw [isGenerator_iff, row, hu.ancestry_objectId]
  simp [generatorId, objectId]

/-- Where every generator but the root has one base, all generators are on lines. -/
theorem lineage_of_isGenerator (hu : u.Sound)
    (hsingle : ∀ c, u.isGenerator c → c ≠ generatorId → ∃ b, (u.get c).bases = [b]) (c : Nat)
    (h : u.isGenerator c) : u.Lineage c := by
  induction c using Nat.strongRecOn with
  | ind c ih =>
      by_cases hc : c = generatorId
      · rw [hc]
        exact .root
      · obtain ⟨b, hbase⟩ := hsingle c h hc
        have hb : b ∈ (u.get c).ancestry := hu.mem (by simp [hbase])
        refine .child hbase (ih b (hu.lt hb) ?_)
        rw [isGenerator_iff] at h ⊢
        rcases List.mem_cons.mp h with heq | hmem
        · exact (hc heq.symm).elim
        · rwa [hu.single hbase] at hmem

end Universe

end TypeStubs.Scaffold
