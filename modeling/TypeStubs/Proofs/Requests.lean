import Mathlib.Data.List.Basic
import Mathlib.Logic.Function.Basic
import TypeStubs.Proofs.Registering
import TypeStubs.Service.Answer

/-!
# Registries of requests

The registry of a request holds each of its entries, in their order, as it reads and with the base
it names. It is there if every entry can be read and every base is among them.
-/

namespace TypeStubs

theorem getElem?_concat {α : Type} (xs : List α) (x : α) (i : Nat) :
    (xs ++ [x])[i]? = if i = xs.length then some x else xs[i]? := by
  grind

namespace StaticRegistry

variable {r r' : StaticRegistry}

theorem exists_insert {k : SyntheticClass} (h : ∀ l, k.name = some l → ∃ s, l = .text s) :
    ∃ r', r.insert k = .ok (r', r.store.size) := by
  obtain ⟨r', hadd⟩ : ∃ r',
      StaticRegistry.add { r with store := r.store.push k } r.store.size = .ok r' := by
    apply exists_add
    rw [get_of_push (r := r) rfl, if_pos rfl]
    exact text_of_qualifiedName h
  refine ⟨r', ?_⟩
  change (StaticRegistry.add { r with store := r.store.push k } r.store.size).map _ = _
  rw [hadd]
  rfl

/-- The registry in which each class has the base that is given for its position. -/
def linked (r : StaticRegistry) (base : ClassId → Option ClassId) : StaticRegistry :=
  { r with store := r.store.mapIdx fun i k => { k with base := base i } }

theorem get_linked {base : ClassId → Option ClassId} {i : ClassId}
    (h : r.store.size ≤ i → base i = none) :
    (r.linked base).get i = { r.get i with base := base i } := by
  unfold linked get
  rw [Array.getElem?_mapIdx]
  by_cases hi : i < r.store.size
  · rw [Array.getElem?_eq_getElem hi]
    rfl
  · rw [Array.getElem?_eq_none (Nat.le_of_not_lt hi), h (Nat.le_of_not_lt hi)]
    rfl

theorem linked_none (h : ∀ i, (r.get i).base = none) : r.linked (fun _ => none) = r := by
  have hstore : (r.store.mapIdx fun _ k => { k with base := none }) = r.store := by
    refine Array.ext (Array.size_mapIdx ..) fun i hi hi' => ?_
    have hbase : (r.store[i]).base = none := by simpa [get, hi'] using h i
    rw [Array.getElem_mapIdx]
    exact congrArg (fun base => { r.store[i] with base }) hbase.symm
  rw [linked, hstore]

theorem setBase_linked (base : ClassId → Option ClassId) (i : ClassId) (x : Option ClassId) :
    (r.linked base).setBase i x = r.linked (Function.update base i x) := by
  have hstore : ((r.store.mapIdx fun i k => { k with base := base i }).modify i
      fun k => { k with base := x }) =
      r.store.mapIdx fun j k => { k with base := Function.update base i x j } := by
    refine Array.ext (by simp) fun j hj hj' => ?_
    rw [Array.getElem_modify, Array.getElem_mapIdx, Array.getElem_mapIdx]
    by_cases hij : i = j
    · subst hij
      simp
    · rw [if_neg hij]
      simp [Function.update_of_ne (Ne.symm hij)]
  exact congrArg (fun store => { r with store }) hstore

end StaticRegistry

namespace Service

open StaticRegistry

namespace ClassEntry

variable {c : ClassEntry}

/-- The class of an entry, its base left open. -/
def read (c : ClassEntry) : Except Fault SyntheticClass := c.toValue.asEntries >>= readEntry

/-- The name of an entry after that of its module, if there is one. -/
def qualifiedName? (c : ClassEntry) : Option String :=
  c.name.map fun name => if c.module.isEmpty then name else c.module ++ "." ++ name

/-- The base that is named; an empty name is none. -/
def baseName? (c : ClassEntry) : Option String := c.base.filter fun name => !name.isEmpty

theorem read_ok {k : SyntheticClass} (h : c.read = .ok k) :
    k.module = c.module ∧ k.name = c.name.map Label.text ∧ k.base = none := by
  obtain ⟨entries, hentries, h⟩ := bind_eq_ok_iff.mp h
  obtain rfl := Except.ok.inj hentries
  unfold readEntry at h
  dsimp only at h
  obtain ⟨items, -, h⟩ := bind_eq_ok_iff.mp h
  obtain ⟨arguments, -, h⟩ := bind_eq_ok_iff.mp h
  obtain ⟨declared, -, h⟩ := bind_eq_ok_iff.mp h
  obtain ⟨options, -, h⟩ := bind_eq_ok_iff.mp h
  obtain rfl := Except.ok.inj h
  refine ⟨?_, ?_, rfl⟩
  · change ((Value.text c.module).orElse (.text "")).plain = c.module
    cases hempty : c.module.isEmpty with
    | false => simp [Value.orElse, Value.isTruthy, hempty, Value.plain]
    | true => simp [Value.orElse, Value.isTruthy, String.isEmpty_iff.mp hempty, Value.plain]
  · change (optionalText c.name).present?.map Label.ofValue = c.name.map Label.text
    cases c.name <;> rfl

theorem exists_text_of_read {k : SyntheticClass} (h : c.read = .ok k) :
    ∀ l, k.name = some l → ∃ s, l = .text s := by
  intro l hl
  rw [(read_ok h).2.1] at hl
  obtain ⟨s, -, rfl⟩ := Option.map_eq_some_iff.mp hl
  exact ⟨s, rfl⟩

theorem base_cases (c : ClassEntry) :
    (c.baseName? = none ∧ (optionalText c.base).isTruthy = false) ∨
      ∃ name, c.baseName? = some name ∧ optionalText c.base = .text name ∧
        name.isEmpty = false := by
  unfold baseName?
  cases c.base with
  | none => exact Or.inl ⟨rfl, rfl⟩
  | some name =>
      cases hempty : name.isEmpty with
      | true =>
          refine Or.inl ⟨by simp [Option.filter, hempty], ?_⟩
          change (!name.isEmpty) = false
          rw [hempty, Bool.not_true]
      | false => exact Or.inr ⟨name, by simp [Option.filter, hempty], rfl, hempty⟩

/-- Linking the base of an entry takes the class that its name stands for. -/
theorem link_base_iff {r r' : StaticRegistry} {i : ClassId} :
    r.link i (optionalText c.base) = .ok r' ↔
      (∀ name, c.baseName? = some name → (r.lookup name).isSome) ∧
        r' = c.baseName?.elim r fun name => r.setBase i (r.lookup name) := by
  unfold StaticRegistry.link
  rcases c.base_cases with ⟨hnone, hfalse⟩ | ⟨name, hsome, hbase, hempty⟩
  · rw [hnone, hfalse]
    exact ⟨fun h => ⟨nofun, (Except.ok.inj h).symm⟩, fun h => congrArg Except.ok h.2.symm⟩
  · have htrue : (Value.text name).isTruthy = true := by rw [Value.isTruthy, hempty, Bool.not_false]
    have hplain : (Value.text name).plain = name := rfl
    rw [hsome, hbase, htrue, hplain]
    cases hlookup : r.lookup name with
    | none => simp [hlookup]
    | some j => simp [hlookup, eq_comm (a := r')]

end ClassEntry

/-- A registry holds some entries in their order: each class is as its entry reads but for the base,
and the names are those of the entries. -/
structure Holds (r : StaticRegistry) (cs : List ClassEntry) : Prop where
  size : r.store.size = cs.length
  registered : r.registered = List.range cs.length
  reads : ∀ i c, cs[i]? = some c →
    ∃ k, c.read = .ok k ∧ r.get i = { k with base := (r.get i).base }
  named : ∀ name i, r.lookup name = some i → r.nameOf? i = some name
  known : ∀ name i, r.nameOf? i = some name → (r.lookup name).isSome

namespace Holds

variable {r r' : StaticRegistry} {cs : List ClassEntry} {c : ClassEntry}

theorem get_of_getElem?_eq_none (h : Holds r cs) {i : ClassId} (hi : cs[i]? = none) :
    r.get i = .blank := by
  apply get_of_size_le
  rw [h.size]
  exact List.getElem?_eq_none_iff.mp hi

theorem texts (h : Holds r cs) : r.TextNames := by
  intro i l hl
  cases hc : cs[i]? with
  | none => simp [h.get_of_getElem?_eq_none hc, SyntheticClass.blank] at hl
  | some c =>
      obtain ⟨k, hread, hget⟩ := h.reads i c hc
      rw [hget] at hl
      exact ClassEntry.exists_text_of_read hread l hl

theorem nodup (h : Holds r cs) : r.registered.Nodup := h.registered ▸ List.nodup_range

theorem nameOf?_eq (h : Holds r cs) (i : ClassId) :
    r.nameOf? i = cs[i]?.bind ClassEntry.qualifiedName? := by
  cases hc : cs[i]? with
  | none =>
      rw [nameOf?, h.get_of_getElem?_eq_none hc]
      rfl
  | some c =>
      obtain ⟨k, hread, hget⟩ := h.reads i c hc
      obtain ⟨hmodule, hname, -⟩ := ClassEntry.read_ok hread
      rw [nameOf?, hget, SyntheticClass.qualifiedName, hmodule, hname, Option.bind_some,
        ClassEntry.qualifiedName?]
      cases c.name with
      | none => rfl
      | some name =>
          simp only [Option.map_some, Option.bind_some]
          split <;> rfl

theorem lt_size (h : Holds r cs) {i : ClassId} {name : String} (hname : r.nameOf? i = some name) :
    i < r.store.size := by
  rw [h.nameOf?_eq] at hname
  obtain ⟨c, hc, -⟩ := Option.bind_eq_some_iff.mp hname
  exact h.size ▸ (List.getElem?_eq_some_iff.mp hc).1

theorem insert (h : Holds r cs) {k : SyntheticClass} {i : ClassId} (hread : c.read = .ok k)
    (hinsert : r.insert k = .ok (r', i)) : Holds r' (cs ++ [c]) ∧ i = cs.length := by
  obtain ⟨rfl, hstore, hregistered, hlookup⟩ := insert_ok hinsert
  have hget := get_of_push hstore
  have hold : ∀ j ≠ r.store.size, r'.nameOf? j = r.nameOf? j := by
    intro j hj
    rw [nameOf?, nameOf?, hget, if_neg hj]
  refine ⟨⟨?_, ?_, ?_, ?_, ?_⟩, h.size⟩
  · rw [hstore, Array.size_push, h.size, List.length_append, List.length_singleton]
  · rw [hregistered, h.registered, h.size, List.length_append, List.length_singleton,
      List.range_succ]
  · intro j d hd
    rw [getElem?_concat, ← h.size] at hd
    rw [hget]
    by_cases hnew : j = r.store.size
    · rw [if_pos hnew] at hd ⊢
      obtain rfl := Option.some.inj hd
      exact ⟨k, hread, rfl⟩
    · rw [if_neg hnew] at hd ⊢
      exact h.reads j d hd
  · intro name j hj
    rw [hlookup] at hj
    split at hj
    · obtain rfl := Option.some.inj hj
      assumption
    · have hname := h.named name j hj
      rw [hold j (Nat.ne_of_lt (h.lt_size hname)), hname]
  · intro name j hj
    rw [hlookup]
    split
    · rfl
    · next hother =>
        have hne : j ≠ r.store.size := fun heq => hother (heq ▸ hj)
        exact h.known name j (hold j hne ▸ hj)

theorem isSome_lookup_iff (h : Holds r cs) {name : String} :
    (r.lookup name).isSome ↔ ∃ c ∈ cs, c.qualifiedName? = some name := by
  constructor
  · intro hsome
    obtain ⟨i, hi⟩ := Option.isSome_iff_exists.mp hsome
    have hname := h.named name i hi
    rw [h.nameOf?_eq] at hname
    obtain ⟨c, hc, hname⟩ := Option.bind_eq_some_iff.mp hname
    exact ⟨c, List.mem_of_getElem? hc, hname⟩
  · rintro ⟨c, hc, hname⟩
    obtain ⟨i, hi⟩ := List.mem_iff_getElem?.mp hc
    apply h.known name i
    rw [h.nameOf?_eq, hi, Option.bind_some, hname]

theorem linked (h : Holds r cs) {base : ClassId → Option ClassId}
    (hbase : ∀ i, cs[i]? = none → base i = none) : Holds (r.linked base) cs := by
  have hget : ∀ i, (r.linked base).get i = { r.get i with base := base i } := by
    intro i
    apply get_linked
    rw [h.size]
    exact fun hi => hbase i (List.getElem?_eq_none hi)
  have hname : ∀ i, (r.linked base).nameOf? i = r.nameOf? i := by
    intro i
    apply nameOf?_congr <;> rw [hget]
  refine ⟨(Array.size_mapIdx ..).trans h.size, h.registered, ?_, ?_, ?_⟩
  · intro i c hc
    obtain ⟨k, hread, hk⟩ := h.reads i c hc
    refine ⟨k, hread, ?_⟩
    rw [hget, hk]
  · intro name i hi
    rw [hname]
    exact h.named name i hi
  · intro name i hi
    rw [hname] at hi
    exact h.known name i hi

end Holds

/-! ## Reading -/

section Reading

variable {r r' : StaticRegistry} {cs : List ClassEntry}

/-- The base of each entry, by its position. -/
def links (cs : List ClassEntry) : List (ClassId × Value) :=
  cs.zipIdx.map fun p => (p.2, ClassEntry.optionalText p.1.base)

theorem links_concat (cs : List ClassEntry) (c : ClassEntry) :
    links (cs ++ [c]) = links cs ++ [(cs.length, ClassEntry.optionalText c.base)] := by
  rw [links, List.zipIdx_append, List.map_append, Nat.zero_add]
  rfl

theorem readEntries_concat (cs : List ClassEntry) (c : ClassEntry) :
    readEntries ((cs ++ [c]).map ClassEntry.toValue) = do
      let (r, pending) ← readEntries (cs.map ClassEntry.toValue)
      let k ← c.read
      let (r, i) ← r.insert k
      return (r, pending ++ [(i, ClassEntry.optionalText c.base)]) := by
  unfold readEntries
  rw [List.map_append, List.foldlM_append, List.map_singleton]
  simp only [List.foldlM_cons, List.foldlM_nil, bind_pure]
  rfl

/-- Reading leaves the bases open and remembers them. -/
theorem holds_of_readEntries {pending : List (ClassId × Value)}
    (h : readEntries (cs.map ClassEntry.toValue) = .ok (r, pending)) :
    Holds r cs ∧ (∀ i, (r.get i).base = none) ∧ pending = links cs := by
  -- On the entries from the end, for the last one is registered last.
  induction cs using List.reverseRecOn generalizing r pending with
  | nil =>
      obtain ⟨rfl, rfl⟩ := Prod.mk.inj (Except.ok.inj h)
      refine ⟨⟨rfl, rfl, ?_, ?_, ?_⟩, fun i => rfl, rfl⟩
      · simp
      · exact fun _ _ => nofun
      · exact fun _ _ => nofun
  | append_singleton cs c ih =>
      rw [readEntries_concat] at h
      obtain ⟨⟨old, links⟩, hold, h⟩ := bind_eq_ok_iff.mp h
      obtain ⟨k, hread, h⟩ := bind_eq_ok_iff.mp h
      obtain ⟨⟨new, i⟩, hinsert, h⟩ := bind_eq_ok_iff.mp h
      obtain ⟨rfl, rfl⟩ := Prod.mk.inj (Except.ok.inj h)
      obtain ⟨hholds, hbase, rfl⟩ := ih hold
      obtain ⟨hholds', rfl⟩ := hholds.insert hread hinsert
      refine ⟨hholds', fun j => ?_, (links_concat cs c).symm⟩
      rw [get_of_push (insert_ok hinsert).2.1]
      split
      · exact (ClassEntry.read_ok hread).2.2
      · exact hbase j

theorem exists_readEntries_iff :
    (∃ read, readEntries (cs.map ClassEntry.toValue) = .ok read) ↔
      ∀ c ∈ cs, ∃ k, c.read = .ok k := by
  induction cs using List.reverseRecOn with
  | nil => exact ⟨fun _ => by simp, fun _ => ⟨_, rfl⟩⟩
  | append_singleton cs c ih =>
      rw [readEntries_concat]
      constructor
      · rintro ⟨read, h⟩
        obtain ⟨⟨old, links⟩, hold, h⟩ := bind_eq_ok_iff.mp h
        obtain ⟨k, hread, -⟩ := bind_eq_ok_iff.mp h
        intro d hd
        rcases List.mem_append.mp hd with hd | hd
        · exact ih.mp ⟨_, hold⟩ d hd
        · exact ⟨k, List.mem_singleton.mp hd ▸ hread⟩
      · intro h
        obtain ⟨⟨old, links⟩, hold⟩ := ih.mpr fun d hd => h d (List.mem_append_left _ hd)
        obtain ⟨k, hread⟩ := h c (by simp)
        obtain ⟨new, hinsert⟩ := exists_insert (r := old) (ClassEntry.exists_text_of_read hread)
        exact ⟨_, bind_eq_ok_iff.mpr ⟨_, hold, bind_eq_ok_iff.mpr ⟨k, hread,
          bind_eq_ok_iff.mpr ⟨_, hinsert, rfl⟩⟩⟩⟩

/-! ## Linking -/

/-- The base of each class, as far as its name stands for a class. -/
def bases (r : StaticRegistry) (cs : List ClassEntry) (i : ClassId) : Option ClassId :=
  (cs[i]?.bind ClassEntry.baseName?).bind r.lookup

theorem bases_concat (r : StaticRegistry) (cs : List ClassEntry) (c : ClassEntry) :
    bases r (cs ++ [c]) = Function.update (bases r cs) cs.length (c.baseName?.bind r.lookup) := by
  funext i
  rw [bases, getElem?_concat]
  by_cases hi : i = cs.length
  · rw [if_pos hi, hi, Function.update_self]
    rfl
  · rw [if_neg hi, Function.update_of_ne hi]
    rfl

theorem foldlM_link_iff (hbase : ∀ i, (r.get i).base = none) :
    (links cs).foldlM (fun r (i, base) => r.link i base) r = .ok r' ↔
      (∀ c ∈ cs, ∀ name, c.baseName? = some name → (r.lookup name).isSome) ∧
        r' = r.linked (bases r cs) := by
  induction cs using List.reverseRecOn generalizing r' with
  | nil =>
      have hnone : r.linked (bases r []) = r := linked_none hbase
      rw [hnone]
      exact ⟨fun h => ⟨nofun, (Except.ok.inj h).symm⟩, fun h => congrArg Except.ok h.2.symm⟩
  | append_singleton cs c ih =>
      have hstep : (r.linked (bases r (cs ++ [c]))) = c.baseName?.elim (r.linked (bases r cs))
          fun name => (r.linked (bases r cs)).setBase cs.length (r.lookup name) := by
        rw [bases_concat]
        cases c.baseName? with
        | none =>
            have hlast : bases r cs cs.length = none := by simp [bases]
            rw [Option.bind_none, ← hlast, Function.update_eq_self]
            rfl
        | some name => exact (setBase_linked _ _ _).symm
      -- Links change no names: the last one is looked up as if it were the first.
      rw [links_concat, List.foldlM_append, bind_eq_ok_iff, hstep]
      simp only [List.foldlM_cons, List.foldlM_nil, bind_pure, ih, ClassEntry.link_base_iff]
      constructor
      · rintro ⟨s, ⟨hnamed, rfl⟩, hlast, rfl⟩
        refine ⟨fun d hd => ?_, rfl⟩
        rcases List.mem_append.mp hd with hd | hd
        · exact hnamed d hd
        · exact List.mem_singleton.mp hd ▸ hlast
      · rintro ⟨hnamed, rfl⟩
        exact ⟨_, ⟨fun d hd => hnamed d (List.mem_append_left [c] hd), rfl⟩,
          hnamed c (by simp), rfl⟩

end Reading

/-! ## Payloads -/

/-- A registry lists some entries: it holds them, with the bases that they name. -/
structure Lists (r : StaticRegistry) (cs : List ClassEntry) : Prop extends Holds r cs where
  base : ∀ i, (r.get i).base = bases r cs i
  based : ∀ c ∈ cs, ∀ name, c.baseName? = some name → (r.lookup name).isSome

section Payload

variable {q : StubRequest} {r : StaticRegistry}

theorem ofPayload_payload (q : StubRequest) :
    ofPayload q.payload = readEntries (q.classes.map ClassEntry.toValue) >>= fun (r, pending) =>
      pending.foldlM (fun r (i, base) => r.link i base) r := by
  have hitems : (Value.list (q.classes.map ClassEntry.toValue)).orElse (.list []) =
      .list (q.classes.map ClassEntry.toValue) := by
    cases q.classes <;> rfl
  have hentry : ((Value.lookup? (.text "classes")
      [(.text "classes", .list (q.classes.map ClassEntry.toValue))]).getD .null) =
      .list (q.classes.map ClassEntry.toValue) := rfl
  unfold ofPayload StubRequest.payload
  simp only [hentry, hitems]

theorem ofPayload_eq_ok_iff :
    ofPayload q.payload = .ok r ↔ ∃ s pending,
      readEntries (q.classes.map ClassEntry.toValue) = .ok (s, pending) ∧
        (∀ c ∈ q.classes, ∀ name, c.baseName? = some name → (s.lookup name).isSome) ∧
          r = s.linked (bases s q.classes) := by
  rw [ofPayload_payload, bind_eq_ok_iff]
  constructor
  · rintro ⟨⟨s, pending⟩, hread, hlinks⟩
    obtain ⟨-, hbase, rfl⟩ := holds_of_readEntries hread
    exact ⟨s, _, hread, (foldlM_link_iff hbase).mp hlinks⟩
  · rintro ⟨s, pending, hread, hlinks⟩
    obtain ⟨-, hbase, rfl⟩ := holds_of_readEntries hread
    exact ⟨_, hread, (foldlM_link_iff hbase).mpr hlinks⟩

theorem lists_of_payload (h : ofPayload q.payload = .ok r) : Lists r q.classes := by
  obtain ⟨s, pending, hread, hbased, rfl⟩ := ofPayload_eq_ok_iff.mp h
  have hholds := (holds_of_readEntries hread).1
  have hnone : ∀ i, q.classes[i]? = none → bases s q.classes i = none := by
    intro i hi
    rw [bases, hi]
    rfl
  refine ⟨hholds.linked hnone, fun i => ?_, hbased⟩
  rw [get_linked]
  · rfl
  · intro hi
    rw [hholds.size] at hi
    exact hnone i (List.getElem?_eq_none hi)

/-- The base of a class has the name that its entry gives for it. -/
theorem Lists.nameOf?_base {cs : List ClassEntry} (h : Lists r cs) (i : ClassId) :
    (r.get i).base.bind r.nameOf? = cs[i]?.bind ClassEntry.baseName? := by
  rw [h.base, bases]
  cases hname : cs[i]?.bind ClassEntry.baseName? with
  | none => rfl
  | some name =>
      obtain ⟨c, hc, hbase⟩ := Option.bind_eq_some_iff.mp hname
      obtain ⟨j, hj⟩ := Option.isSome_iff_exists.mp
        (h.based c (List.mem_of_getElem? hc) name hbase)
      rw [Option.bind_some, hj]
      exact h.named name j hj

/-- There is a registry if every entry can be read and every base that is named is the name of an
entry, wherever it stands. -/
theorem exists_ofPayload_iff :
    (∃ r, ofPayload q.payload = .ok r) ↔ (∀ c ∈ q.classes, ∃ k, c.read = .ok k) ∧
      ∀ c ∈ q.classes, ∀ name, c.baseName? = some name →
        ∃ d ∈ q.classes, d.qualifiedName? = some name := by
  constructor
  · rintro ⟨r, hr⟩
    obtain ⟨s, pending, hread, hnamed, -⟩ := ofPayload_eq_ok_iff.mp hr
    have hholds := (holds_of_readEntries hread).1
    refine ⟨exists_readEntries_iff.mp ⟨_, hread⟩, fun c hc name hname => ?_⟩
    exact hholds.isSome_lookup_iff.mp (hnamed c hc name hname)
  · rintro ⟨hreads, hnamed⟩
    obtain ⟨⟨s, pending⟩, hread⟩ := exists_readEntries_iff.mpr hreads
    have hholds := (holds_of_readEntries hread).1
    refine ⟨_, ofPayload_eq_ok_iff.mpr ⟨s, pending, hread, fun c hc name hname => ?_, rfl⟩⟩
    exact hholds.isSome_lookup_iff.mpr (hnamed c hc name hname)

end Payload

end Service

end TypeStubs
