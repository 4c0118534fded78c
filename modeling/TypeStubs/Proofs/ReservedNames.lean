import TypeStubs.Proofs.Binding

/-!
# Names that the language keeps for itself

The language looks for functions of its own under names of one form. Where no class above a class
binds such a name to something else, class statements go through, new generators collect their
members, and calls construct instances as the root of all generators has it.
-/

namespace TypeStubs.Scaffold

/-- A name that the language keeps for itself: it begins and ends with two underscores. -/
def isReserved (name : String) : Bool :=
  let cs := name.toList
  4 < cs.length && cs.take 2 == ['_', '_'] && cs.drop (cs.length - 2) == ['_', '_']

namespace Universe

variable {u u' : Universe} {c : Nat}

/-! ## Class statements -/

/-- A body without reserved names is fit for a class statement. -/
theorem formFault?_eq_none {body : List (String × Attribute)}
    (hbody : ∀ p ∈ body, ¬ isReserved p.1) {name : String} (hname : Char.ofNat 0 ∉ name.toList) :
    formFault? name (boundBody body) = none := by
  have hnone : ∀ reserved, isReserved reserved → (boundBody body).lookup reserved = none := by
    intro reserved hreserved
    exact lookup_boundBody_eq_none fun p hp heq => hbody p hp (heq ▸ hreserved)
  have hslots : slotsFault? (boundBody body) = none := by
    rw [slotsFault?, hnone "__slots__" (by decide)]
    rfl
  have hpath : pathFault? (boundBody body) = none := by
    rw [pathFault?, hnone "__qualname__" (by decide), hnone "__classcell__" (by decide)]
    rfl
  rw [formFault?, hslots, if_neg (by simpa using hname), hpath]

/-- Nothing is wrong with the name of a class that was created. -/
theorem notMem_of_create {module : Value} {path : String} {bases : List Nat}
    {body : List (String × Attribute)} (h : u.create module path bases body = .ok (u', c)) :
    Char.ofNat 0 ∉ (lastPart path).toList := by
  rw [create_eq] at h
  split at h
  · simp at h
  · rename_i hform
    intro hmem
    unfold formFault? at hform
    split at hform
    · simp at hform
    · rw [if_pos (by simpa using hmem)] at hform
      simp at hform

/-! ## Classes above -/

/-- The root of all generators and the classes above a class bind no names that the language keeps
for itself, save for the two functions of the root. -/
structure Unreserved (u : Universe) (c : Nat) : Prop where
  names : ∀ k ∈ u.row c, ∀ p ∈ (u.get k).body, isReserved p.1 →
    k = generatorId ∧ (p.1 = hookName ∨ p.1 = constructorName)
  hook : (u.get generatorId).body.lookup hookName = some (.computed .collecting)
  init : (u.get generatorId).body.lookup constructorName = some (.computed .constructing)

namespace Unreserved

theorem of_mem_row (hu : u.Sound) (h : u.Unreserved c) {d : Nat} (hd : d ∈ u.row c) :
    u.Unreserved d :=
  ⟨fun k hk => h.names k (hu.mem_row_trans hd hk), h.hook, h.init⟩

theorem nest {d : Nat} {name : String} {e : Nat} (h : (u.bind d name (.nested e)).Unreserved c) :
    u.Unreserved c := by
  have hshape := sameShape_bind u d name (.nested e)
  have hcomputed : ∀ {other k}, ((u.bind d name (.nested e)).get generatorId).body.lookup other =
      some (.computed k) → (u.get generatorId).body.lookup other = some (.computed k) := by
    intro other k hk
    rw [lookup_get_bind] at hk
    split at hk
    · simp at hk
    · exact hk
  refine ⟨fun k hk p hp => ?_, hcomputed h.hook, hcomputed h.init⟩
  have hmem : p.1 ∈ ((u.bind d name (.nested e)).get k).body.map Prod.fst := by
    have hp := List.mem_map_of_mem (f := Prod.fst) hp
    rw [get_bind]
    split
    · exact (names_prefix_bind name _ _).subset hp
    · exact hp
  obtain ⟨q, hq, hname⟩ := List.mem_map.mp hmem
  exact hname ▸ h.names k ((hshape.row c).symm ▸ hk) q hq

theorem bind (h : u.Unreserved c) {d : Nat} {name : String} {a : Attribute}
    (hname : ¬ isReserved name) : (u.bind d name a).Unreserved c := by
  have hlookup : ∀ {other}, isReserved other →
      ((u.bind d name a).get generatorId).body.lookup other =
        (u.get generatorId).body.lookup other := by
    intro other hother
    rw [lookup_get_bind, if_neg]
    rintro ⟨-, rfl⟩
    exact hname hother
  refine ⟨fun k hk p hp hreserved => ?_, (hlookup (by decide)).trans h.hook,
    (hlookup (by decide)).trans h.init⟩
  rw [(sameShape_bind u d name a).row] at hk
  rw [get_bind] at hp
  split at hp
  · rcases LiveClass.mem_bind hp with rfl | hp
    · exact (hname hreserved).elim
    · exact h.names k hk p hp hreserved
  · exact h.names k hk p hp hreserved

theorem collectInto (h : u.Unreserved c) {d : Nat} (hcollect : u.collectInto d = .ok u') :
    u'.Unreserved c := by
  obtain ⟨items, entries, arguments, options, -, -, -, rfl⟩ := collectInto_eq_ok hcollect
  exact (h.bind (by decide)).bind (by decide)

/-- A class that binds no reserved name may come below one. -/
theorem below {b : Nat} (h : u.Unreserved b) (hu : u.Sound) (hbase : (u.get c).bases = [b])
    (hbody : ∀ p ∈ (u.get c).body, ¬ isReserved p.1) : u.Unreserved c := by
  refine ⟨fun k hk p hp hreserved => ?_, h.hook, h.init⟩
  rcases List.mem_cons.mp hk with rfl | hk
  · exact (hbody p hp hreserved).elim
  · rw [hu.single hbase] at hk
    exact h.names k hk p hp hreserved

/-- No class above binds a reserved name but the root of all generators its two. -/
theorem lookup_eq_none (h : u.Unreserved c) {k : Nat} (hk : k ∈ u.row c) {name : String}
    (hname : isReserved name) (hne : k = generatorId → name ≠ hookName ∧ name ≠ constructorName) :
    (u.get k).body.lookup name = none := by
  rw [Option.eq_none_iff_forall_ne_some]
  intro a ha
  obtain ⟨heq, hown⟩ := h.names k hk _ (LiveClass.mem_of_lookup ha) hname
  exact hown.elim (hne heq).1 (hne heq).2

theorem attribute?_eq_none (h : u.Unreserved c) {name : String} (hname : isReserved name)
    (hne : name ≠ hookName ∧ name ≠ constructorName) : u.attribute? c name = none := by
  rw [attribute?, List.findSome?_eq_none_iff]
  intro k hk
  rw [h.lookup_eq_none hk hname fun _ => hne]
  rfl

/-- A generator constructs its instances as the root of all generators has it. -/
theorem constructs (h : u.Unreserved c) (hc : u.isGenerator c) : u.Constructs c where
  maker := h.attribute?_eq_none (by decide) (by decide)
  init := by
    obtain ⟨⟨k, a⟩, hk⟩ := Option.isSome_iff_exists.mp
      (isSome_attribute? (isGenerator_iff.mp hc) (Option.isSome_iff_exists.mpr ⟨_, h.init⟩))
    obtain ⟨hfirst, hbound⟩ := attribute?_eq_some_iff.mp hk
    have hreserved : isReserved constructorName := by decide
    obtain ⟨rfl, -⟩ := h.names k (List.mem_of_find?_eq_some hfirst) _
      (LiveClass.mem_of_lookup hbound) hreserved
    exact ⟨generatorId, by rw [hk, Option.some.inj (hbound.symm.trans h.init)]⟩
  reader := h.attribute?_eq_none (by decide) (by decide)
  setter := h.attribute?_eq_none (by decide) (by decide)

end Unreserved

theorem Extends.unreserved_iff (h : u.Extends u') (hu : u.Sound) {d : Nat}
    (hd : d < u.classes.size) : u'.Unreserved d ↔ u.Unreserved d := by
  have hroot := h generatorId hu.generatorId_lt
  have hsame : ∀ k ∈ u.row d, u'.get k = u.get k := fun k hk => h k (hu.lt_size_of_mem_row hd hk)
  constructor
  · intro hkept
    refine ⟨fun k hk => ?_, hroot ▸ hkept.hook, hroot ▸ hkept.init⟩
    rw [← hsame k hk]
    exact hkept.names k (h.row hd ▸ hk)
  · intro hkept
    refine ⟨fun k hk => ?_, hroot.symm ▸ hkept.hook, hroot.symm ▸ hkept.init⟩
    rw [h.row hd] at hk
    rw [hsame k hk]
    exact hkept.names k hk

/-! ## News of new classes -/

/-- Where the root of all generators alone hears of new classes, they collect if they are below
it. -/
theorem tell_eq (hhook : (u.get generatorId).body.lookup hookName = some (.computed .collecting))
    {row : List Nat}
    (hrow : ∀ k ∈ row, k ≠ generatorId → (u.get k).body.lookup hookName = none) :
    u.tell row = .ok (decide (generatorId ∈ row)) := by
  induction row with
  | nil => rfl
  | cons k row ih =>
      rw [List.forall_mem_cons] at hrow
      by_cases hk : k = generatorId
      · simp [tell, hk, hhook, ih hrow.2, Except.map]
      · simp [tell, hrow.1 hk, ih hrow.2, Ne.symm hk]

/-- A new generator collects its members, for no class above it stands in the way. -/
theorem collectInto_of_create (hu : u.Sound) {module : Value} {path : String} {bases : List Nat}
    {body : List (String × Attribute)} (hbases : ∀ b ∈ bases, b < u.classes.size)
    (hcreate : u.create module path bases body = .ok (u', c)) (hc : u'.isGenerator c)
    (hkept : u'.Unreserved c) :
    ∃ k, k.body = boundBody body ∧ (u.push k).collectInto u.classes.size = .ok u' := by
  have hu' : u'.Sound := hu.create hbases hcreate
  obtain ⟨k, hshape, -, -, hk⟩ := sameShape_create hcreate
  obtain ⟨rfl, ancestry, hancestry, collects, htold, hcases⟩ := create_eq_ok hcreate
  have habove : (u'.get u.classes.size).ancestry = ancestry := by
    rw [hshape.ancestry, get_push_self]
    exact Option.some.inj (hk.symm.trans hancestry)
  have hsame : ∀ {d}, d ≠ u.classes.size → ∀ k', (u.push k').get d = u'.get d := fun hd k' => by
    rw [get_push_of_ne u k' hd, get_create_of_ne hcreate hd]
  have hroot : generatorId ≠ u.classes.size := Nat.ne_of_lt hu.generatorId_lt
  rw [tell_eq (by rw [hsame hroot]; exact hkept.hook)] at htold
  · have hmem : generatorId ∈ ancestry := by
      rw [← habove]
      exact (List.mem_cons.mp (isGenerator_iff.mp hc)).resolve_left hroot
    rw [decide_eq_true hmem] at htold
    obtain rfl := Except.ok.inj htold
    exact ⟨_, rfl, hcases⟩
  · intro d hd hne
    rw [← habove] at hd
    rw [hsame (Nat.ne_of_lt (hu'.lt hd))]
    exact hkept.lookup_eq_none (List.mem_cons_of_mem _ hd) (by decide) fun heq => (hne heq).elim

end Universe

end TypeStubs.Scaffold
