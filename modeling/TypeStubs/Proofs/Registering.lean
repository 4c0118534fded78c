import TypeStubs.Proofs.Selection
import TypeStubs.Proofs.Work

/-!
# Registering classes in order

A registry made anew from some of its classes has them in this order, and each name stands for the
last class of this name.
-/

namespace TypeStubs

namespace StaticRegistry

theorem sameKey_of_text? {w : Value} {s : String} (h : w.text? = some s) (v : Value) :
    v.sameKey w = (v.text? == some s) := by
  cases w <;> cases v <;> simp_all [Value.sameKey, Value.number?, Value.text?]

theorem sameKey_text_right (v : Value) (s : String) :
    v.sameKey (.text s) = (v.text? == some s) := sameKey_of_text? rfl v

/-- Equal keys are the same text, or neither is a text. -/
theorem text?_eq_of_sameKey {v w : Value} (h : v.sameKey w) : v.text? = w.text? := by
  cases v <;> cases w <;> simp_all [Value.sameKey, Value.number?, Value.text?]

theorem named?_setName (v : Value) (other : String) (i : ClassId) (names : List (Value × ClassId)) :
    named? (.text other) (setName v i names) =
      if v.text? = some other then some i else named? (.text other) names := by
  unfold named?
  induction names with
  | nil => by_cases h : v.text? = some other <;> simp [setName, sameKey_text_right, h]
  | cons p names ih =>
      obtain ⟨n, j⟩ := p
      simp only [sameKey_text_right] at ih ⊢
      rw [setName]
      by_cases hn : n.sameKey v
      · have htext := text?_eq_of_sameKey hn
        by_cases h : v.text? = some other <;> simp [hn, htext, h]
      · by_cases ho : n.text? = some other
        · have hne : v.text? ≠ some other := fun h => hn (by simp [sameKey_of_text? h, ho])
          simp [hn, ho, hne]
        · simp [hn, ho, ih]

variable {r r' : StaticRegistry}

theorem nameOf?_congr_store (h : r'.store = r.store) (i : ClassId) :
    r'.nameOf? i = r.nameOf? i := by
  rw [nameOf?, nameOf?, get_congr_store h]

theorem add_ok {i : ClassId} (h : r.add i = .ok r') :
    r'.store = r.store ∧ r'.registered = r.registered ++ [i] := by
  unfold add at h
  dsimp only at h
  split at h
  · exact Except.ok.inj h ▸ ⟨rfl, rfl⟩
  · split at h
    · exact Except.ok.inj h ▸ ⟨rfl, rfl⟩
    · simp at h

theorem exists_add {i : ClassId}
    (htext : ∀ l, (r.get i).qualifiedName = some l → ∃ s, l = .text s) :
    ∃ r', r.add i = .ok r' := by
  unfold add
  cases hname : (r.get i).qualifiedName with
  | none => exact ⟨_, rfl⟩
  | some l =>
      obtain ⟨s, rfl⟩ := htext l hname
      exact ⟨_, rfl⟩

theorem lookup_add {i : ClassId} (h : r.add i = .ok r') (name : String) :
    r'.lookup name = if r.nameOf? i = some name then some i else r.lookup name := by
  unfold add at h
  dsimp only at h
  unfold nameOf?
  cases hname : (r.get i).qualifiedName with
  | none =>
      rw [hname] at h
      obtain rfl := Except.ok.inj h
      rfl
  | some l =>
      rw [hname] at h
      dsimp only at h
      split at h
      · obtain rfl := Except.ok.inj h
        exact named?_setName l.value name i r.byName
      · simp at h

theorem get_of_size_le {i : ClassId} (h : r.store.size ≤ i) : r.get i = .blank := by
  rw [get, Array.getElem?_eq_none h, Option.getD_none]

theorem get_of_push {k : SyntheticClass} (h : r'.store = r.store.push k) (i : ClassId) :
    r'.get i = if i = r.store.size then k else r.get i := by
  rw [get, h, Array.getElem?_push]
  split <;> rfl

theorem insert_ok {k : SyntheticClass} {i : ClassId} (h : r.insert k = .ok (r', i)) :
    i = r.store.size ∧ r'.store = r.store.push k ∧
      r'.registered = r.registered ++ [r.store.size] ∧
      ∀ s, r'.lookup s =
        if r'.nameOf? r.store.size = some s then some r.store.size else r.lookup s := by
  unfold insert at h
  obtain ⟨added, hadd, heq⟩ := map_eq_ok_iff.mp h
  obtain ⟨rfl, rfl⟩ := Prod.mk.inj heq
  obtain ⟨hstore, hregistered⟩ := add_ok hadd
  refine ⟨rfl, hstore, hregistered, fun s => ?_⟩
  rw [nameOf?_congr_store hstore]
  exact lookup_add hadd s

theorem foldlM_add {order : List ClassId} (h : order.foldlM add r = .ok r') :
    r'.store = r.store ∧ r'.registered = r.registered ++ order := by
  induction order generalizing r with
  | nil =>
      obtain rfl := Except.ok.inj h
      exact ⟨rfl, (List.append_nil _).symm⟩
  | cons i order ih =>
      rw [List.foldlM_cons] at h
      obtain ⟨r₁, hadd, hrest⟩ := bind_eq_ok_iff.mp h
      obtain ⟨hstore, hregistered⟩ := add_ok hadd
      obtain ⟨hstore', hregistered'⟩ := ih hrest
      refine ⟨hstore'.trans hstore, ?_⟩
      rw [hregistered', hregistered, List.append_assoc]
      rfl

/-- A name stands for the last class that was registered under it. -/
theorem lookup_foldlM_add {order : List ClassId} (h : order.foldlM add r = .ok r')
    (name : String) :
    r'.lookup name =
      ((order.filter fun i => r.nameOf? i = some name).getLast?).or (r.lookup name) := by
  induction order generalizing r with
  | nil =>
      obtain rfl := Except.ok.inj h
      rfl
  | cons i order ih =>
      rw [List.foldlM_cons] at h
      obtain ⟨r₁, hadd, hrest⟩ := bind_eq_ok_iff.mp h
      have hstore := (add_ok hadd).1
      rw [ih hrest, lookup_add hadd]
      simp only [nameOf?_congr_store hstore]
      by_cases hname : r.nameOf? i = some name
      · rw [if_pos hname, List.filter_cons_of_pos (by simpa using hname), List.getLast?_cons]
        cases (order.filter fun i => r.nameOf? i = some name).getLast? <;> rfl
      · rw [if_neg hname, List.filter_cons_of_neg (by simpa using hname)]

theorem exists_rebuild {order : List ClassId}
    (htext : ∀ i ∈ order, ∀ l, (r.get i).qualifiedName = some l → ∃ s, l = .text s) :
    ∃ r', r.rebuild order = .ok r' := by
  have hfold : ∀ (order : List ClassId) (q : StaticRegistry), q.store = r.store →
      (∀ i ∈ order, ∀ l, (r.get i).qualifiedName = some l → ∃ s, l = .text s) →
      ∃ r', order.foldlM add q = .ok r' := by
    intro order
    induction order with
    | nil => exact fun q _ _ => ⟨q, rfl⟩
    | cons i order ih =>
        intro q hstore htext
        obtain ⟨q', hadd⟩ : ∃ q', q.add i = .ok q' := by
          apply exists_add
          rw [get_congr_store hstore]
          exact htext i List.mem_cons_self
        obtain ⟨r', hrest⟩ := ih q' ((add_ok hadd).1.trans hstore) fun j hj =>
          htext j (List.mem_cons_of_mem i hj)
        exact ⟨r', by rw [List.foldlM_cons, hadd]; exact hrest⟩
  exact hfold order _ rfl htext

theorem store_rebuild {order : List ClassId} (h : r.rebuild order = .ok r') : r'.store = r.store :=
  have hfold : order.foldlM add { r with registered := [], byName := [] } = .ok r' := h
  (foldlM_add hfold).1

theorem registered_rebuild {order : List ClassId} (h : r.rebuild order = .ok r') :
    r'.registered = order :=
  have hfold : order.foldlM add { r with registered := [], byName := [] } = .ok r' := h
  (foldlM_add hfold).2

theorem lookup_rebuild {order : List ClassId} (h : r.rebuild order = .ok r') (name : String) :
    r'.lookup name = (order.filter fun i => r'.nameOf? i = some name).getLast? := by
  have hfold : order.foldlM add { r with registered := [], byName := [] } = .ok r' := h
  have hstore := store_rebuild h
  have hlookup := lookup_foldlM_add hfold name
  simp only [nameOf?_congr_store hstore] at hlookup ⊢
  rw [hlookup]
  exact Option.or_none

end StaticRegistry

end TypeStubs
