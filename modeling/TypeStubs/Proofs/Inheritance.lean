import Mathlib.Data.List.Find
import TypeStubs.Proofs.ReservedNames
import TypeStubs.Proofs.Restoring

/-!
# Generators with several bases

A generator takes over what the first generator among its bases has collected and puts its own
members on top. Members of its other bases are found on the class all the same, but they are
collected only if that one line of bases brings them.
-/

namespace TypeStubs.Scaffold

/-! ## First ancestors -/

/-- The first one in a row is the first one in each shorter row that has it. -/
theorem find?_of_sublist {α : Type} {p : α → Bool} {short row : List α} (h : short.Sublist row)
    (hrow : row.Nodup) {x : α} (hx : row.find? p = some x) (hmem : x ∈ short) :
    short.find? p = some x := by
  induction h with
  | slnil => simp at hmem
  | @cons short row a h ih =>
      obtain ⟨ha, hrow⟩ := List.nodup_cons.mp hrow
      rw [List.find?_cons] at hx
      split at hx
      · obtain rfl := Option.some.inj hx
        exact (ha (h.subset hmem)).elim
      · exact ih hrow hx hmem
  | @cons_cons short row a h ih =>
      obtain ⟨-, hrow⟩ := List.nodup_cons.mp hrow
      rw [List.find?_cons] at hx ⊢
      split at hx
      · exact hx
      · rename_i hpa
        refine ih hrow hx ((List.mem_cons.mp hmem).resolve_left ?_)
        rintro rfl
        simp [List.find?_some hx] at hpa

namespace LiveClass

variable {α : Type}

theorem mem_bind_iff {name : String} {a : α} {body : List (String × α)}
    (h : (body.map Prod.fst).Nodup) {p : String × α} :
    p ∈ bind name a body ↔ p = (name, a) ∨ p.1 ≠ name ∧ p ∈ body := by
  induction body with
  | nil => simp [bind]
  | cons q rest ih =>
      obtain ⟨n, b⟩ := q
      rw [List.map_cons, List.nodup_cons] at h
      have hrest : ∀ q ∈ rest, q.1 ≠ n := fun q hq heq => h.1 (List.mem_map.mpr ⟨q, hq, heq⟩)
      rw [bind]
      by_cases hn : n = name
      · subst hn
        rw [if_pos rfl, List.mem_cons, List.mem_cons]
        constructor
        · rintro (rfl | hp)
          · exact Or.inl rfl
          · exact Or.inr ⟨hrest p hp, Or.inr hp⟩
        · rintro (rfl | ⟨hne, rfl | hp⟩)
          · exact Or.inl rfl
          · exact (hne rfl).elim
          · exact Or.inr hp
      · rw [if_neg hn, List.mem_cons, List.mem_cons, ih h.2]
        constructor
        · rintro (rfl | rfl | ⟨hne, hp⟩)
          · exact Or.inr ⟨hn, Or.inl rfl⟩
          · exact Or.inl rfl
          · exact Or.inr ⟨hne, Or.inr hp⟩
        · rintro (rfl | ⟨hne, rfl | hp⟩)
          · exact Or.inr (Or.inl rfl)
          · exact Or.inl rfl
          · exact Or.inr (Or.inr ⟨hne, hp⟩)

end LiveClass

theorem mem_gather_iff {kind : MemberKind} {inherited own : List (String × Declaration)}
    (hinherited : (inherited.map Prod.fst).Nodup) (hown : (own.map Prod.fst).Nodup)
    {p : String × Declaration} :
    p ∈ gather kind inherited own ↔
      p ∈ own ∧ p.2.kind = kind ∨
        p ∈ inherited ∧ ∀ q ∈ own, q.2.kind = kind → q.1 ≠ p.1 := by
  induction own generalizing inherited with
  | nil => simp [gather]
  | cons q own ih =>
      rw [List.map_cons, List.nodup_cons] at hown
      have hq : ∀ p ∈ own, p.1 ≠ q.1 := fun p hp heq => hown.1 (List.mem_map.mpr ⟨p, hp, heq⟩)
      rw [gather_cons]
      by_cases hkind : q.2.kind = kind
      · rw [if_pos hkind, ih (LiveClass.nodup_bind _ _ hinherited) hown.2,
          LiveClass.mem_bind_iff hinherited]
        simp only [List.mem_cons, forall_eq_or_imp, hkind, forall_const]
        constructor
        · rintro (⟨hp, hpk⟩ | ⟨rfl | ⟨hne, hp⟩, hrest⟩)
          · exact Or.inl ⟨Or.inr hp, hpk⟩
          · exact Or.inl ⟨Or.inl rfl, hkind⟩
          · exact Or.inr ⟨hp, Ne.symm hne, hrest⟩
        · rintro (⟨rfl | hp, hpk⟩ | ⟨hp, hne, hrest⟩)
          · exact Or.inr ⟨Or.inl rfl, fun r hr _ => hq r hr⟩
          · exact Or.inl ⟨hp, hpk⟩
          · exact Or.inr ⟨Or.inr ⟨Ne.symm hne, hp⟩, hrest⟩
      · rw [if_neg hkind, ih hinherited hown.2]
        simp only [List.mem_cons, forall_eq_or_imp, hkind, false_implies, true_and]
        constructor
        · rintro (⟨hp, hpk⟩ | hp)
          · exact Or.inl ⟨Or.inr hp, hpk⟩
          · exact Or.inr hp
        · rintro (⟨rfl | hp, hpk⟩ | hp)
          · exact (hkind hpk).elim
          · exact Or.inl ⟨hp, hpk⟩
          · exact Or.inr hp

namespace Universe

variable {u u' : Universe} {c : Nat}

/-! ## Rows of bases -/

/-- The ancestry of a class is made up of the rows of its bases; the bases, and the row of each of
them, keep their order in it. -/
structure Linear (u : Universe) : Prop where
  bases : ∀ c, (u.get c).bases.Sublist (u.get c).ancestry
  rows : ∀ {c b}, b ∈ (u.get c).bases → (u.row b).Sublist (u.get c).ancestry
  above : ∀ {c d}, d ∈ (u.get c).ancestry → ∃ b ∈ (u.get c).bases, d ∈ u.row b

theorem Linear.congr {v : Universe} (h : u.Linear) (hsame : u.SameShape v) : v.Linear where
  bases := fun c => by rw [hsame.bases, hsame.ancestry]; exact h.bases c
  rows := fun {c b} hb => by
    rw [hsame.ancestry, hsame.row]
    exact h.rows (hsame.bases c ▸ hb)
  above := fun {c d} hd => by
    rw [hsame.bases]
    obtain ⟨b, hb, hrow⟩ := h.above (hsame.ancestry c ▸ hd)
    exact ⟨b, hb, hsame.row b ▸ hrow⟩

theorem Linear.push (h : u.Linear) (hu : u.Sound) {k : LiveClass}
    (hbases : ∀ b ∈ k.bases, b < u.classes.size)
    (hancestry : ancestry? k.bases u.row = some k.ancestry) : (u.push k).Linear := by
  have hmerged := merged_of_ancestry?_eq hancestry
  have hrow : ∀ {b}, b < u.classes.size → (u.push k).row b = u.row b := by
    intro b hb
    rw [row, row, get_push_of_ne u k (Nat.ne_of_lt hb)]
  have habove : ∀ {c b}, b ∈ (u.get c).bases → (u.push k).row b = u.row b :=
    fun hb => hrow (Nat.lt_trans (hu.lt (hu.mem hb)) (hu.lt_size (hu.mem hb)))
  constructor
  case bases =>
    exact forall_get_push (P := fun _ k => k.bases.Sublist k.ancestry)
      (hmerged.sublist _ (by simp)) h.bases
  case rows =>
    intro c b
    refine forall_get_push (P := fun _ k' => b ∈ k'.bases →
      ((u.push k).row b).Sublist k'.ancestry) ?_ ?_ c
    · intro hb
      rw [hrow (hbases b hb)]
      exact hmerged.sublist _ (List.mem_append_left _ (List.mem_map_of_mem hb))
    · intro c hb
      rw [habove hb]
      exact h.rows hb
  case above =>
    intro c d
    refine forall_get_push (P := fun _ k' => d ∈ k'.ancestry →
      ∃ b ∈ k'.bases, d ∈ (u.push k).row b) ?_ ?_ c
    · intro hd
      rcases (mem_ancestry?_iff hancestry).mp hd with hd | ⟨b, hb, hd⟩
      · exact ⟨d, hd, List.mem_cons_self⟩
      · exact ⟨b, hb, (hrow (hbases b hb)).symm ▸ hd⟩
    · intro c hd
      obtain ⟨b, hb, hd⟩ := h.above hd
      exact ⟨b, hb, (habove hb).symm ▸ hd⟩

theorem linear_builtIn : builtIn.Linear := by
  have hbases : ∀ c < 4, (builtIn.get c).bases.Sublist (builtIn.get c).ancestry := by decide +kernel
  have hrows : ∀ c < 4, ∀ b ∈ (builtIn.get c).bases,
      (builtIn.row b).Sublist (builtIn.get c).ancestry := by decide +kernel
  have habove : ∀ c < 4, ∀ d ∈ (builtIn.get c).ancestry,
      ∃ b ∈ (builtIn.get c).bases, d ∈ builtIn.row b := by decide +kernel
  constructor
  case bases =>
    exact forall_get_builtIn (P := fun _ k => k.bases.Sublist k.ancestry) hbases
      (by simp [LiveClass.blank])
  case rows =>
    exact fun {c b} hb => forall_get_builtIn
      (P := fun _ k => ∀ b ∈ k.bases, (builtIn.row b).Sublist k.ancestry) hrows
      (by simp [LiveClass.blank]) c b hb
  case above =>
    exact fun {c d} hd => forall_get_builtIn
      (P := fun _ k => ∀ d ∈ k.ancestry, ∃ b ∈ k.bases, d ∈ builtIn.row b) habove
      (by simp [LiveClass.blank]) c d hd

theorem Grown.linear (h : Grown u) : u.Linear := by
  induction h with
  | builtIn => exact linear_builtIn
  | @create u u' module path bases body c h hbases hbody hcreate ih =>
      obtain ⟨k, hshape, -, hk, hancestry⟩ := sameShape_create hcreate
      refine (ih.push h.sound ?_ (hk ▸ hancestry)).congr hshape
      intro b hb
      rw [hk, basesOf] at hb
      split at hb
      · rw [List.mem_singleton.mp hb]
        exact Nat.lt_of_le_of_lt (Nat.zero_le _) h.sound.generatorId_lt
      · exact hbases b hb
  | nest h hname ih => exact ih.congr (sameShape_bind _ _ _ _)
  | known h modules ih => exact ih.congr ⟨rfl, fun _ => rfl, fun _ => rfl, fun _ => rfl⟩

/-- The base whose collected members a class takes over. -/
def donor? (u : Universe) (c : Nat) : Option Nat := (u.get c).bases.find? u.isGenerator

theorem isGenerator_of_mem_row (hu : u.Sound) {d : Nat} (hd : d ∈ u.row c)
    (h : u.isGenerator d) : u.isGenerator c :=
  isGenerator_iff.mpr (hu.mem_row_trans hd (isGenerator_iff.mp h))

/-- The first generator among all ancestors is a base. -/
theorem find?_ancestry_eq_donor? (hu : u.Sound) (hl : u.Linear) (c : Nat) :
    (u.get c).ancestry.find? u.isGenerator = u.donor? c := by
  cases hfirst : (u.get c).ancestry.find? u.isGenerator with
  | none => exact ((hl.bases c).find?_eq_none hfirst).symm
  | some g =>
      have hg : u.isGenerator g := List.find?_some hfirst
      obtain ⟨b, hb, hrow⟩ := hl.above (List.mem_of_find?_eq_some hfirst)
      -- The base over which the ancestor comes in is a generator too and stands in front of it.
      have hgenerator : u.isGenerator b := isGenerator_of_mem_row hu hrow hg
      have hinrow := find?_of_sublist (hl.rows hb) (hu.nodup c) hfirst hrow
      rw [row, List.find?_cons, hgenerator] at hinrow
      obtain rfl : b = g := Option.some.inj hinrow
      exact (find?_of_sublist (hl.bases c) (hu.nodup c) hfirst hb).symm

theorem donor?_mem {b : Nat} (h : u.donor? c = some b) : b ∈ (u.get c).bases :=
  List.mem_of_find?_eq_some h

theorem exists_donor (hu : u.Sound) (hl : u.Linear) (hc : u.isGenerator c) (hne : c ≠ generatorId) :
    ∃ b, u.donor? c = some b := by
  rw [← Option.isSome_iff_exists, ← find?_ancestry_eq_donor? hu hl, List.find?_isSome]
  refine ⟨generatorId, ?_, isGenerator_iff.mpr List.mem_cons_self⟩
  exact (List.mem_cons.mp (isGenerator_iff.mp hc)).resolve_left (Ne.symm hne)

theorem donor?_generatorId (hu : u.Sound) : u.donor? generatorId = none := by
  rw [donor?, hu.generator, List.find?_eq_none]
  intro b hb
  rw [List.mem_singleton.mp hb]
  exact not_isGenerator_objectId hu

/-- The classes whose members a class collects: the class itself, the first generator among its
bases, and so on. -/
inductive Line (u : Universe) : Nat → Nat → Prop
  | self (c : Nat) : Line u c c
  | up {c b k : Nat} (hdonor : u.donor? c = some b) (h : Line u b k) : Line u c k

theorem Line.mem_row (hu : u.Sound) {k : Nat} (h : u.Line c k) : k ∈ u.row c := by
  induction h with
  | self c => exact List.mem_cons_self
  | @up c b k hdonor h ih =>
      exact hu.mem_row_trans (List.mem_cons_of_mem c (hu.mem (donor?_mem hdonor))) ih

/-! ## Names on rows -/

/-- What is found first above a class is found first above each base that it is above of. -/
theorem attribute?_of_mem_row (hu : u.Sound) (hl : u.Linear) {b k : Nat}
    (hb : b ∈ (u.get c).bases) (hk : k ∈ u.row b) {name : String} {a : Attribute}
    (h : u.attribute? c name = some (k, a)) : u.attribute? b name = some (k, a) := by
  obtain ⟨hfirst, hbound⟩ := attribute?_eq_some_iff.mp h
  refine attribute?_eq_some_iff.mpr ⟨?_, hbound⟩
  have hrow : (u.row b).Sublist (u.row c) := (hl.rows hb).cons c
  have hnodup : (u.row c).Nodup := List.nodup_cons.mpr ⟨hu.notMem_ancestry c, hu.nodup c⟩
  exact find?_of_sublist hrow hnodup hfirst hk

/-- A name that is bound by generators alone means what it means on the donor. -/
theorem attribute?_of_donor (hu : u.Sound) (hl : u.Linear) {b : Nat}
    (hdonor : u.donor? c = some b) {name : String} (hself : (u.get c).body.lookup name = none)
    (hplain : ∀ k ∈ (u.get c).ancestry, ¬ u.isGenerator k → (u.get k).body.lookup name = none)
    {a : Attribute} (ha : (u.get b).body.lookup name = some a) :
    u.attribute? c name = some (b, a) := by
  refine attribute?_eq_some_iff.mpr ⟨?_, ha⟩
  rw [← find?_ancestry_eq_donor? hu hl, List.find?_eq_some_iff_append] at hdonor
  obtain ⟨-, before, after, hancestry, hbefore⟩ := hdonor
  have hnone : before.find? (fun d => ((u.get d).body.lookup name).isSome) = none := by
    rw [List.find?_eq_none]
    intro k hk
    rw [hplain k (hancestry ▸ List.mem_append_left _ hk) (by simpa using hbefore k hk)]
    simp
  rw [row, List.find?_cons, hself, hancestry, List.find?_append, hnone, List.find?_cons, ha]
  rfl

/-! ## What a class declares itself -/

/-- The members that a class has declared in its own body. A nested class may have come to stand in
the place of one since. -/
structure Owns (u : Universe) (c : Nat) (own : List (String × Declaration)) : Prop where
  nodup : (own.map Prod.fst).Nodup
  bound : ∀ {name d}, (u.get c).body.lookup name = some (.value (.member d)) → (name, d) ∈ own
  kept : ∀ p ∈ own, (u.get c).body.lookup p.1 = some (.value (.member p.2)) ∨
    ∃ e, (u.get c).body.lookup p.1 = some (.nested e)

theorem Owns.congr {v : Universe} {own : List (String × Declaration)} (h : u.Owns c own)
    (hsame : v.get c = u.get c) : v.Owns c own :=
  ⟨h.nodup, fun hd => h.bound (hsame ▸ hd), fun p hp => hsame ▸ h.kept p hp⟩

theorem Owns.nest {own : List (String × Declaration)} (h : u.Owns c own) (d : Nat) (name : String)
    (e : Nat) : (u.bind d name (.nested e)).Owns c own where
  nodup := h.nodup
  bound := by
    intro other k hk
    rw [lookup_get_bind] at hk
    split at hk
    · simp at hk
    · exact h.bound hk
  kept := by
    intro p hp
    rw [lookup_get_bind]
    split
    · exact Or.inr ⟨e, rfl⟩
    · exact h.kept p hp

theorem lookup_eq_some_iff_mem {α : Type} {body : List (String × α)}
    (h : (body.map Prod.fst).Nodup) {name : String} {a : α} :
    body.lookup name = some a ↔ (name, a) ∈ body := by
  induction body with
  | nil => simp
  | cons p rest ih =>
      obtain ⟨n, b⟩ := p
      rw [List.map_cons, List.nodup_cons] at h
      by_cases hn : name = n
      · subst hn
        have hrest : (name, a) ∉ rest := fun hmem => h.1 (List.mem_map.mpr ⟨_, hmem, rfl⟩)
        simp [hrest, eq_comm]
      · simp [List.lookup_cons, beq_false_of_ne hn, hn, ih h.2]

theorem mem_declarations_iff {body : List (String × Attribute)} (h : (body.map Prod.fst).Nodup)
    {p : String × Declaration} :
    p ∈ declarations body ↔ body.lookup p.1 = some (.value (.member p.2)) := by
  rw [lookup_eq_some_iff_mem h]
  constructor
  · intro hp
    obtain ⟨⟨name, a⟩, hmem, ha⟩ := List.mem_filterMap.mp hp
    dsimp only at ha
    split at ha
    · obtain rfl := Option.some.inj ha
      exact hmem
    · simp at ha
  · exact fun hp => mem_declarations hp rfl

theorem nodup_declarations {body : List (String × Attribute)} (h : (body.map Prod.fst).Nodup) :
    ((declarations body).map Prod.fst).Nodup := by
  have hsub : ((declarations body).map Prod.fst).Sublist (body.map Prod.fst) := by
    unfold declarations
    clear h
    induction body with
    | nil => exact List.Sublist.refl []
    | cons p body ih =>
        obtain ⟨name, a⟩ := p
        rw [List.filterMap_cons]
        dsimp only
        split
        · exact ih.cons name
        · rename_i q hq
          have hname : name = q.1 := by
            split at hq
            · exact congrArg Prod.fst (Option.some.inj hq)
            · simp at hq
          rw [List.map_cons, List.map_cons, hname]
          exact ih.cons_cons q.1
  exact h.sublist hsub

/-- A class that has collected its members owns what its body was made with. -/
theorem owns_of_collectInto {body : List (String × Attribute)} (hbody : Plain body)
    (hbound : (u.get c).body = boundBody body) (h : u.collectInto c = .ok u')
    {as os : List (String × Declaration)} (hstores : u'.Stores c as os) :
    u'.Owns c (declarations (boundBody body)) := by
  have hlookup : ∀ name, name ≠ argumentsName → name ≠ optionsName →
      (u'.get c).body.lookup name = (boundBody body).lookup name := by
    intro name harguments hoptions
    obtain ⟨items, entries, arguments, options, -, -, -, rfl⟩ := collectInto_eq_ok h
    rw [lookup_get_bind, if_neg fun hname => hoptions hname.2, lookup_get_bind,
      if_neg fun hname => harguments hname.2, hbound]
  have hnodup := nodup_boundBody body
  constructor
  · exact nodup_declarations hnodup
  · intro name d hd
    by_cases harguments : name = argumentsName
    · simp [harguments, hstores.arguments] at hd
    · by_cases hoptions : name = optionsName
      · simp [hoptions, hstores.options] at hd
      · rw [hlookup name harguments hoptions] at hd
        exact (mem_declarations_iff hnodup).mpr hd
  · intro p hp
    obtain ⟨-, q, hq, hname⟩ := named_of_mem_declarations hp
    obtain ⟨harguments, hoptions, -⟩ := hname ▸ hbody q hq
    rw [hlookup p.1 harguments hoptions]
    exact Or.inl ((mem_declarations_iff hnodup).mp hp)

/-! ## Layers of members -/

/-- What a generator has collected: the root of all generators its own members, each other one its
own on top of those of its donor. -/
inductive Gathered (u : Universe) :
    Nat → List (String × Declaration) → List (String × Declaration) → Prop
  | root {own : List (String × Declaration)} (howns : u.Owns generatorId own)
      (hstores : u.Stores generatorId (gather .argument [] own) (gather .option [] own)) :
      Gathered u generatorId (gather .argument [] own) (gather .option [] own)
  | child {c b : Nat} {as os own : List (String × Declaration)} (hdonor : u.donor? c = some b)
      (hbase : Gathered u b as os) (howns : u.Owns c own)
      (hstores : u.Stores c (gather .argument as own) (gather .option os own)) :
      Gathered u c (gather .argument as own) (gather .option os own)

namespace Gathered

variable {as os : List (String × Declaration)}

theorem stores (h : u.Gathered c as os) : u.Stores c as os := by
  cases h with
  | root howns hstores => exact hstores
  | child hdonor hbase howns hstores => exact hstores

theorem lt_size (h : u.Gathered c as os) : c < u.classes.size := by
  by_contra hc
  have harguments := h.stores.arguments
  rw [get_of_size_le (Nat.le_of_not_lt hc)] at harguments
  simp [LiveClass.blank] at harguments

theorem congr {v : Universe} (h : u.Gathered c as os)
    (hdonor : ∀ d < u.classes.size, v.donor? d = u.donor? d)
    (howns : ∀ d < u.classes.size, ∀ own, u.Owns d own → v.Owns d own)
    (hstores : ∀ d < u.classes.size, ∀ as os, u.Stores d as os → v.Stores d as os) :
    v.Gathered c as os := by
  induction h with
  | root ho hs =>
      have hlt := (Gathered.root ho hs).lt_size
      exact .root (howns _ hlt _ ho) (hstores _ hlt _ _ hs)
  | child hd hb ho hs ih =>
      have hlt := (Gathered.child hd hb ho hs).lt_size
      exact .child ((hdonor _ hlt).trans hd) ih (howns _ hlt _ ho) (hstores _ hlt _ _ hs)

end Gathered

/-- No ancestor outside the generators binds the attributes into which members are collected. -/
def PlainMixins (u : Universe) (c : Nat) : Prop :=
  ∀ k ∈ u.row c, ¬ u.isGenerator k →
    (u.get k).body.lookup argumentsName = none ∧ (u.get k).body.lookup optionsName = none

theorem PlainMixins.of_mem_row (hu : u.Sound) (h : u.PlainMixins c) {d : Nat} (hd : d ∈ u.row c) :
    u.PlainMixins d :=
  fun k hk => h k (hu.mem_row_trans hd hk)

theorem PlainMixins.nest {d : Nat} {name : String} {e : Nat}
    (hname : name ≠ argumentsName ∧ name ≠ optionsName)
    (h : (u.bind d name (.nested e)).PlainMixins c) : u.PlainMixins c := by
  intro k hk hgenerator
  have hshape := sameShape_bind u d name (.nested e)
  have hplain := h k ((hshape.row c).symm ▸ hk) (by rwa [isGenerator, hshape.row])
  rwa [lookup_get_bind, lookup_get_bind, if_neg fun heq => hname.1 heq.2.symm,
    if_neg fun heq => hname.2 heq.2.symm] at hplain

theorem isGenerator_lt_size (hu : u.Sound) (hc : u.isGenerator c) : c < u.classes.size := by
  rcases List.mem_cons.mp (isGenerator_iff.mp hc) with rfl | hmem
  · exact hu.generatorId_lt
  · exact hu.lt_size hmem

theorem owns_declarations (h : ((u.get c).body.map Prod.fst).Nodup) :
    u.Owns c (declarations (u.get c).body) where
  nodup := nodup_declarations h
  bound := fun hd => (mem_declarations_iff h).mpr hd
  kept := fun _ hp => Or.inl ((mem_declarations_iff h).mp hp)

theorem gathered_builtIn (hc : builtIn.isGenerator c) : ∃ as os, builtIn.Gathered c as os := by
  have hlt : c < 4 := isGenerator_lt_size sound_builtIn hc
  have hne : c ≠ objectId := by
    rintro rfl
    exact not_isGenerator_objectId sound_builtIn hc
  have hroot : builtIn.Gathered generatorId _ _ := .root (owns_declarations (by decide +kernel))
    ⟨rfl, rfl, ⟨by decide, by decide, by decide⟩, ⟨by decide, by decide, by decide⟩⟩
  have hnamed : builtIn.Gathered namedId _ _ :=
    .child (b := generatorId) (by decide +kernel) hroot (owns_declarations (by decide +kernel))
      ⟨rfl, rfl, ⟨by decide, by decide, by decide⟩, ⟨by decide, by decide, by decide⟩⟩
  have hmodel : builtIn.Gathered modelId _ _ :=
    .child (b := namedId) (by decide +kernel) hnamed (owns_declarations (by decide +kernel))
      ⟨rfl, rfl, ⟨by decide, by decide, by decide⟩, ⟨by decide, by decide, by decide⟩⟩
  obtain rfl | rfl | rfl : c = generatorId ∨ c = namedId ∨ c = modelId := by
    unfold objectId at hne
    unfold generatorId namedId modelId
    omega
  · exact ⟨_, _, hroot⟩
  · exact ⟨_, _, hnamed⟩
  · exact ⟨_, _, hmodel⟩

theorem donor?_congr {v : Universe} (h : u.SameShape v) (c : Nat) : v.donor? c = u.donor? c := by
  have hgenerator : v.isGenerator = u.isGenerator := by
    funext d
    rw [isGenerator, isGenerator, h.row]
  rw [donor?, donor?, h.bases, hgenerator]

theorem Extends.donor? (h : u.Extends u') (hu : u.Sound) {d : Nat} (hd : d < u.classes.size) :
    u'.donor? d = u.donor? d := by
  rw [Universe.donor?, Universe.donor?, h d hd]
  apply List.find?_congr
  intro b hb
  exact h.isGenerator (Nat.lt_trans (hu.lt (hu.mem hb)) hd)

theorem Extends.plainMixins (h : u.Extends u') (hu : u.Sound) {d : Nat}
    (hd : d < u.classes.size) (hplain : u'.PlainMixins d) : u.PlainMixins d := by
  intro k hk hgenerator
  have hlt : k < u.classes.size := hu.lt_size_of_mem_row hd hk
  rw [← h k hlt]
  exact hplain k (h.row hd ▸ hk) (h.isGenerator hlt ▸ hgenerator)

theorem Extends.gathered (h : u.Extends u') (hu : u.Sound) {as os : List (String × Declaration)}
    (hc : u.Gathered c as os) : u'.Gathered c as os := by
  apply hc.congr
  · exact fun d hd => h.donor? hu hd
  · exact fun d hd own ho => ho.congr (h d hd)
  · exact fun d hd as os hstores => hstores.congr (by rw [h d hd]) (by rw [h d hd])

theorem plainMixins_of_collectInto (h : u.collectInto c = .ok u') (hc : u.isGenerator c)
    (hplain : u'.PlainMixins c) : u.PlainMixins c := by
  have hshape := sameShape_collectInto h
  intro k hk hgenerator
  have hne : k ≠ c := fun heq => hgenerator (heq ▸ hc)
  rw [← get_collectInto_of_ne h hne]
  exact hplain k ((hshape.row c).symm ▸ hk) (by rwa [isGenerator, hshape.row])

/-- A class that leaves the two attributes alone puts its own members on top of those of its
donor. -/
theorem stores_of_donor (hu : u.Sound) (hl : u.Linear) {b : Nat} (hdonor : u.donor? c = some b)
    {as os : List (String × Declaration)} (hb : u.Stores b as os) (hplain : u.PlainMixins c)
    {body : List (String × Attribute)} (hbody : Plain body)
    (hbound : (u.get c).body = boundBody body) (hc : c < u.classes.size)
    (h : u.collectInto c = .ok u') :
    u'.Stores c (gather .argument as (declarations (boundBody body)))
      (gather .option os (declarations (boundBody body))) := by
  have hself : ∀ name, (∀ p ∈ body, p.1 ≠ name) → (u.get c).body.lookup name = none := by
    intro name hname
    rw [hbound]
    exact lookup_boundBody_eq_none hname
  have harguments := attribute?_of_donor hu hl hdonor (hself _ fun p hp => (hbody p hp).1)
    (fun k hk hgenerator => (hplain k (List.mem_cons_of_mem c hk) hgenerator).1) hb.arguments
  have hoptions := attribute?_of_donor hu hl hdonor (hself _ fun p hp => (hbody p hp).2.1)
    (fun k hk hgenerator => (hplain k (List.mem_cons_of_mem c hk) hgenerator).2) hb.options
  exact stores_of_inherited hb.membersArguments hb.membersOptions
    (inheritedItems_of_attribute? harguments) (inheritedOptions_of_attribute? hoptions) hbody
    hbound hc h

/-- A new generator collects on top of its donor. -/
theorem gathered_create (h : Grown u) {module : Value} {path : String} {bases : List Nat}
    {body : List (String × Attribute)} (hbases : ∀ b ∈ bases, b < u.classes.size)
    (hbody : Plain body) (hcreate : u.create module path bases body = .ok (u', c))
    (hc : u'.isGenerator c) (hplain : u'.PlainMixins c) (hkept : u'.Unreserved c)
    (hgathered : ∀ b, u'.donor? c = some b → ∃ as os, u.Gathered b as os) :
    ∃ as os, u'.Gathered c as os := by
  have hgrown : Grown u' := h.create hbases (fun _ => hbody) hcreate
  have hsame : u.Extends u' := extends_create hcreate
  obtain ⟨k, hk, hcollect⟩ := collectInto_of_create h.sound hbases hcreate hc hkept
  obtain ⟨rfl, -⟩ := create_eq_ok hcreate
  have hne : u.classes.size ≠ generatorId := Nat.ne_of_gt h.sound.generatorId_lt
  obtain ⟨b, hb⟩ := exists_donor hgrown.sound hgrown.linear hc hne
  obtain ⟨as, os, hbase⟩ := hgathered b hb
  have hshape := (sameShape_collectInto hcollect).symm
  have hgenerator : (u.push k).isGenerator u.classes.size := by
    rwa [isGenerator, hshape.row]
  have hbound : ((u.push k).get u.classes.size).body = boundBody body := by rw [get_push_self, hk]
  have hpushed : (u.push k).Stores b as os := by
    apply hbase.stores.congr <;> rw [get_push_of_ne u k (Nat.ne_of_lt hbase.lt_size)]
  have hfound := stores_of_donor (hgrown.sound.congr hshape) (hgrown.linear.congr hshape)
    ((donor?_congr hshape _).trans hb) hpushed
    (plainMixins_of_collectInto hcollect hgenerator hplain) hbody hbound (by simp) hcollect
  exact ⟨_, _, .child hb (hsame.gathered h.sound hbase)
    (owns_of_collectInto hbody hbound hcollect hfound) hfound⟩

theorem Grown.exists_gathered (h : Grown u) (hc : u.isGenerator c) (hplain : u.PlainMixins c)
    (hkept : u.Unreserved c) : ∃ as os, u.Gathered c as os := by
  induction h generalizing c with
  | builtIn => exact gathered_builtIn hc
  | @create u u' module path bases body c' h hbases hbody hcreate ih =>
      have hgrown : Grown u' := h.create hbases hbody hcreate
      have hsame : u.Extends u' := extends_create hcreate
      have hold : ∀ d < u.classes.size, u'.isGenerator d → u'.PlainMixins d → u'.Unreserved d →
          ∃ as os, u.Gathered d as os := fun d hd hg hp hk =>
        ih (hsame.isGenerator hd ▸ hg) (hsame.plainMixins h.sound hd hp)
          ((hsame.unreserved_iff h.sound hd).mp hk)
      by_cases hlt : c < u.classes.size
      · obtain ⟨as, os, hgathered⟩ := hold c hlt hc hplain hkept
        exact ⟨as, os, hsame.gathered h.sound hgathered⟩
      · have hsize : u'.classes.size = u.classes.size + 1 := by
          obtain ⟨k, hshape, -⟩ := sameShape_create hcreate
          rw [hshape.size, size_push]
        have hcsize := isGenerator_lt_size hgrown.sound hc
        obtain rfl : c' = c := by
          rw [(create_eq_ok hcreate).1]
          omega
        refine gathered_create h hbases (hbody hc) hcreate hc hplain hkept fun b hb => ?_
        have hbase : b ∈ (u'.get c').ancestry := hgrown.sound.mem (donor?_mem hb)
        have hbelow := hgrown.sound.lt hbase
        have habove : b ∈ u'.row c' := List.mem_cons_of_mem _ hbase
        refine hold b ?_ (List.find?_some hb) (hplain.of_mem_row hgrown.sound habove)
          (hkept.of_mem_row hgrown.sound habove)
        omega
  | @nest u d e name h hname ih =>
      have hshape := sameShape_bind u d name (.nested e)
      obtain ⟨as, os, hgathered⟩ := ih (by rwa [isGenerator, hshape.row] at hc)
        (hplain.nest hname) hkept.nest
      refine ⟨as, os, hgathered.congr (fun d _ => donor?_congr hshape d)
        (fun d' _ own ho => ho.nest d name e) fun d' _ as os hstores => ?_⟩
      apply hstores.congr
      · rw [lookup_get_bind, if_neg fun heq => hname.1 heq.2.symm]
      · rw [lookup_get_bind, if_neg fun heq => hname.2 heq.2.symm]
  | @known u h modules ih =>
      obtain ⟨as, os, hgathered⟩ := ih hc hplain ⟨hkept.names, hkept.hook, hkept.init⟩
      exact ⟨as, os, hgathered.congr (fun d _ => rfl) (fun d _ own ho => ho.congr rfl)
        fun d _ as os hstores => hstores.congr rfl rfl⟩

/-! ## What is shown and what is collected -/

/-- The collected members of one kind. -/
def ofKind (kind : MemberKind) (as os : List (String × Declaration)) :
    List (String × Declaration) :=
  match kind with
  | .argument => as
  | .option => os

theorem ofKind_gather (kind : MemberKind) (as os own : List (String × Declaration)) :
    ofKind kind (gather .argument as own) (gather .option os own) =
      gather kind (ofKind kind as os) own := by
  cases kind <;> rfl

namespace Gathered

variable {as os : List (String × Declaration)}

theorem nodup (h : u.Gathered c as os) (kind : MemberKind) :
    ((ofKind kind as os).map Prod.fst).Nodup := by
  cases kind with
  | argument => exact h.stores.membersArguments.nodup
  | option => exact h.stores.membersOptions.nodup

/-- A member that is found first in a class of the line is collected as it is found. -/
theorem mem_of_line (h : u.Gathered c as os) (hu : u.Sound) (hl : u.Linear) {name : String}
    {k : Nat} {d : Declaration} (hshown : u.attribute? c name = some (k, .value (.member d)))
    (hline : u.Line c k) : (name, d) ∈ ofKind d.kind as os := by
  have hbound := (attribute?_eq_some_iff.mp hshown).2
  induction h with
  | @root own howns hstores =>
      cases hline with
      | self =>
          rw [ofKind_gather, mem_gather_iff (by cases d.kind <;> simp [ofKind]) howns.nodup]
          exact Or.inl ⟨howns.bound hbound, rfl⟩
      | up hdonor hline => simp [donor?_generatorId hu] at hdonor
  | @child c b as os own hdonor hbase howns hstores ih =>
      rw [ofKind_gather, mem_gather_iff (hbase.nodup _) howns.nodup]
      cases hline with
      | self => exact Or.inl ⟨howns.bound hbound, rfl⟩
      | @up _ b' _ hdonor' hline =>
          obtain rfl : b = b' := Option.some.inj (hdonor.symm.trans hdonor')
          have hk := hline.mem_row hu
          have hfound := attribute?_of_mem_row hu hl (donor?_mem hdonor) hk hshown
          refine Or.inr ⟨ih hfound hline, fun q hq _ hname => ?_⟩
          -- The class binds no such name itself, for the first class that does is further up.
          have hne : c ≠ k := by
            rintro rfl
            have hlt := hu.lt (hu.mem (donor?_mem hdonor))
            rcases List.mem_cons.mp hk with rfl | hk
            · exact Nat.lt_irrefl _ hlt
            · exact Nat.lt_asymm hlt (hu.lt hk)
          have hfirst := (attribute?_eq_some_iff.mp hshown).1
          have hself : (u.get c).body.lookup name = none := by
            rw [row, List.find?_cons] at hfirst
            split at hfirst
            · exact (hne (Option.some.inj hfirst)).elim
            · rename_i hnone
              simpa using hnone
          rcases howns.kept q hq with hkept | ⟨e, hkept⟩
          · rw [hname] at hkept
            simp [hself] at hkept
          · rw [hname] at hkept
            simp [hself] at hkept

/-- What is collected was declared by a class of the line. -/
theorem exists_line_of_mem (h : u.Gathered c as os) {kind : MemberKind}
    {p : String × Declaration} (hp : p ∈ ofKind kind as os) :
    ∃ k, u.Line c k ∧ ((u.get k).body.lookup p.1 = some (.value (.member p.2)) ∨
      ∃ e, (u.get k).body.lookup p.1 = some (.nested e)) := by
  induction h with
  | @root own howns hstores =>
      rw [ofKind_gather, mem_gather_iff (by cases kind <;> simp [ofKind]) howns.nodup] at hp
      rcases hp with ⟨hp, -⟩ | ⟨hp, -⟩
      · exact ⟨generatorId, .self _, howns.kept p hp⟩
      · cases kind <;> simp [ofKind] at hp
  | @child c b as os own hdonor hbase howns hstores ih =>
      rw [ofKind_gather, mem_gather_iff (hbase.nodup _) howns.nodup] at hp
      rcases hp with ⟨hp, -⟩ | ⟨hp, -⟩
      · exact ⟨c, .self c, howns.kept p hp⟩
      · obtain ⟨k, hline, hk⟩ := ih hp
        exact ⟨k, .up hdonor hline, hk⟩

end Gathered

end Universe

open Universe

variable {u : Universe} {c : Nat}

def draftTitle : String × Attribute := bound .option "title" .string (some (.text "draft"))

/-- A class over a mixin and two generators, each of which declares a member. -/
def mixed : Universe :=
  (((builtIn.declare ⟨"app", "Noted", [objectId], [bound .argument "note" .string none]⟩).declare
    ⟨"app", "Sized", [generatorId], [bound .argument "size" .numeric none]⟩).declare
    ⟨"app", "Titled", [generatorId], [draftTitle]⟩).declare ⟨"app", "Both", [4, 5, 6], []⟩

theorem grown_mixed : mixed.Grown :=
  .declare (.declare (.declare (.declare .builtIn (by decide +kernel) (by decide)
    (by decide +kernel)) (by decide +kernel) (by decide) (by decide +kernel))
    (by decide +kernel) (by decide) (by decide +kernel)) (by decide +kernel) (by decide)
    (by decide +kernel)

theorem plainMixins_mixed : mixed.PlainMixins 7 := by
  have hplain : ∀ k ∈ mixed.row 7, ¬ mixed.isGenerator k →
      ((mixed.get k).body.lookup argumentsName).isNone ∧
        ((mixed.get k).body.lookup optionsName).isNone := by decide +kernel
  intro k hk hgenerator
  obtain ⟨harguments, hoptions⟩ := hplain k hk hgenerator
  exact ⟨Option.isNone_iff_eq_none.mp harguments, Option.isNone_iff_eq_none.mp hoptions⟩

theorem unreserved_mixed : mixed.Unreserved 7 := ⟨by decide +kernel, rfl, rfl⟩

end TypeStubs.Scaffold
