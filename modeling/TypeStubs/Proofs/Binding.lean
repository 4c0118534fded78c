import TypeStubs.Proofs.Collecting
import TypeStubs.Proofs.Registering
import TypeStubs.Scaffold.Instance

/-!
# What calls bind

A call of a generator offers to each collected member what is supplied for it. The member is bound
to that or else to its default, and one for which there is neither must not be required. Arguments
and options are bound one after another in the same way.
-/

namespace TypeStubs

namespace Value

theorem lookup?_putEntry (name other : String) (v : Value) (entries : List (Value × Value)) :
    lookup? (.text other) (putEntry (.text name) v entries) =
      if other = name then some v else lookup? (.text other) entries := by
  induction entries with
  | nil =>
      by_cases h : other = name
      · simp [putEntry, lookup?, StaticRegistry.sameKey_text_right, text?, h]
      · simp [putEntry, lookup?, StaticRegistry.sameKey_text_right, text?, h, Ne.symm h]
  | cons p entries ih =>
      obtain ⟨k, w⟩ := p
      rw [putEntry, StaticRegistry.sameKey_text_right]
      by_cases hk : k.text? = some name
      · by_cases h : other = name
        · simp [lookup?, StaticRegistry.sameKey_text_right, hk, h]
        · simp [lookup?, StaticRegistry.sameKey_text_right, hk, h, Ne.symm h]
      · by_cases ho : k.text? = some other
        · have hne : other ≠ name := fun heq => hk (heq ▸ ho)
          simp [lookup?, StaticRegistry.sameKey_text_right, ho, hne]
        · simp [lookup?, StaticRegistry.sameKey_text_right, hk, ho, ih]

theorem lookup?_text_cons (name other : String) (v : Value) (entries : List (Value × Value)) :
    lookup? (.text other) ((.text name, v) :: entries) =
      if name = other then some v else lookup? (.text other) entries := by
  simp [lookup?, StaticRegistry.sameKey_text_right, text?]

/-- Under a new key an entry comes last. -/
theorem putEntry_of_lookup?_eq_none {key : Value} {entries : List (Value × Value)}
    (h : lookup? key entries = none) (v : Value) :
    putEntry key v entries = entries ++ [(key, v)] := by
  induction entries with
  | nil => rfl
  | cons p entries ih =>
      obtain ⟨k, w⟩ := p
      rw [lookup?] at h
      split at h
      · simp at h
      · rename_i hk
        rw [putEntry, if_neg hk, ih h, List.cons_append]

theorem exists_mem_of_lookup? {key v : Value} {entries : List (Value × Value)}
    (h : lookup? key entries = some v) : ∃ k, (k, v) ∈ entries := by
  induction entries with
  | nil => simp [lookup?] at h
  | cons p entries ih =>
      obtain ⟨k, w⟩ := p
      rw [lookup?] at h
      split at h
      · obtain rfl := Option.some.inj h
        exact ⟨k, List.mem_cons_self⟩
      · obtain ⟨k', hk'⟩ := ih h
        exact ⟨k', List.mem_cons_of_mem _ hk'⟩

theorem text_sameKey (s : String) (v : Value) : (text s).sameKey v = (v.text? == some s) := by
  cases v <;> simp [sameKey, number?, text?, BEq.comm]

end Value

namespace Scaffold

/-! ## Binding members -/

/-- A member with what is supplied for it. -/
abbrev Offer := (String × Declaration) × Option Value

/-- What a member is bound to: the value supplied, or else its default. -/
def Offer.value? (o : Offer) : Option Value := o.2.or o.1.2.default

/-- A default is copied when a member is bound to it, so it must be of a kind that can be copied. -/
def Offer.isFit (o : Offer) : Bool := o.2.isSome || o.1.2.default.all Value.isCopyable

/-- Arguments take the given values in order. -/
def argumentOffers : List (String × Declaration) → List Value → List Offer
  | [], _ => []
  | p :: as, given => (p, given.head?) :: argumentOffers as (given.drop 1)

/-- Options take what is supplied under their names. -/
def optionOffers (os : List (String × Declaration)) (supplied : List (Value × Value)) :
    List Offer :=
  os.map fun p => (p, Value.lookup? (.text p.1) supplied)

/-- Some members are bound on top of other values, and those that are required are bound. -/
structure Binds (offers : List Offer) (values values' : List (Value × Value)) : Prop where
  mem : ∀ o ∈ offers, Value.lookup? (.text o.1.1) values' =
    o.value?.or (Value.lookup? (.text o.1.1) values)
  notMem : ∀ name ∉ offers.map fun o => o.1.1,
    Value.lookup? (.text name) values' = Value.lookup? (.text name) values
  required : ∀ o ∈ offers, o.1.2.required → o.value?.isSome

/-- What members are bound to, under their names. -/
def entries (offers : List Offer) : List (Value × Value) :=
  offers.filterMap fun o => o.value?.map fun v => (.text o.1.1, v)

/-- Binds one member after another. A member that is required must have a value. -/
def bindOffers (missing : String → Fault) :
    List Offer → List (Value × Value) → Except Fault (List (Value × Value))
  | [], values => .ok values
  | o :: offers, values =>
    match o.value? with
    | some v =>
      if o.isFit then bindOffers missing offers (Value.putEntry (.text o.1.1) v values)
      else .error .wrongType
    | none =>
      if o.1.2.required then .error (missing o.1.1) else bindOffers missing offers values

section Offers

variable {missing : String → Fault} {o : Offer} {offers : List Offer}
  {values values' : List (Value × Value)}

theorem bindOffers_cons_of_some {v : Value} (h : o.value? = some v) :
    bindOffers missing (o :: offers) values =
      if o.isFit then bindOffers missing offers (Value.putEntry (.text o.1.1) v values)
      else .error .wrongType := by
  rw [bindOffers, h]

theorem bindOffers_cons_of_none (h : o.value? = none) :
    bindOffers missing (o :: offers) values =
      if o.1.2.required then .error (missing o.1.1) else bindOffers missing offers values := by
  rw [bindOffers, h]

theorem entries_cons_of_some {v : Value} (h : o.value? = some v) :
    entries (o :: offers) = (.text o.1.1, v) :: entries offers := by
  simp [entries, h]

theorem entries_cons_of_none (h : o.value? = none) : entries (o :: offers) = entries offers := by
  simp [entries, h]

theorem isFit_of_value?_eq_none (h : o.value? = none) : o.isFit := by
  obtain ⟨hoffered, hdefault⟩ := Option.or_eq_none_iff.mp h
  simp [Offer.isFit, hdefault]

theorem bindOffers_cons (o : Offer) (offers : List Offer) (values : List (Value × Value)) :
    bindOffers missing (o :: offers) values =
      bindOffers missing [o] values >>= bindOffers missing offers := by
  cases hv : o.value? with
  | some v =>
      rw [bindOffers_cons_of_some hv, bindOffers_cons_of_some hv]
      split <;> rfl
  | none =>
      rw [bindOffers_cons_of_none hv, bindOffers_cons_of_none hv]
      split <;> rfl

/-- Members are bound if their defaults can be copied and there is a value for each that is
required. -/
theorem exists_bindOffers_iff (missing : String → Fault) (values : List (Value × Value)) :
    (∃ values', bindOffers missing offers values = .ok values') ↔
      ∀ o ∈ offers, o.isFit ∧ (o.1.2.required → o.value?.isSome) := by
  induction offers generalizing values with
  | nil => simp [bindOffers]
  | cons o offers ih =>
      rw [List.forall_mem_cons]
      cases hv : o.value? with
      | some v =>
          rw [bindOffers_cons_of_some hv]
          cases hfit : o.isFit <;> simp [ih]
      | none =>
          rw [bindOffers_cons_of_none hv]
          cases hrequired : o.1.2.required <;> simp [ih, isFit_of_value?_eq_none hv]

theorem fault_of_bindOffers (hfit : ∀ o ∈ offers, o.isFit) {f : Fault}
    (h : bindOffers missing offers values = .error f) : ∃ name, f = missing name := by
  induction offers generalizing values with
  | nil => simp [bindOffers] at h
  | cons o offers ih =>
      rw [List.forall_mem_cons] at hfit
      cases hv : o.value? with
      | some v =>
          rw [bindOffers_cons_of_some hv, if_pos hfit.1] at h
          exact ih hfit.2 h
      | none =>
          rw [bindOffers_cons_of_none hv] at h
          split at h
          · exact ⟨o.1.1, (Except.error.inj h).symm⟩
          · exact ih hfit.2 h

/-- Members whose names are new are bound behind the others, in their order. -/
theorem eq_append_of_bindOffers (hnodup : (offers.map fun o => o.1.1).Nodup)
    (hnew : ∀ o ∈ offers, Value.lookup? (.text o.1.1) values = none)
    (h : bindOffers missing offers values = .ok values') : values' = values ++ entries offers := by
  induction offers generalizing values with
  | nil => simpa [bindOffers, entries] using h.symm
  | cons o offers ih =>
      rw [List.map_cons, List.nodup_cons] at hnodup
      rw [List.forall_mem_cons] at hnew
      cases hv : o.value? with
      | some v =>
          have hlater : ∀ o' ∈ offers, Value.lookup? (.text o'.1.1)
              (Value.putEntry (.text o.1.1) v values) = none := by
            intro o' ho'
            have hne : o'.1.1 ≠ o.1.1 := fun heq =>
              hnodup.1 (List.mem_map.mpr ⟨o', ho', heq⟩)
            rw [Value.lookup?_putEntry, if_neg hne, hnew.2 o' ho']
          rw [bindOffers_cons_of_some hv] at h
          split at h
          · rw [ih hnodup.2 hlater h, Value.putEntry_of_lookup?_eq_none hnew.1,
              entries_cons_of_some hv, List.append_assoc, List.singleton_append]
          · simp at h
      | none =>
          rw [bindOffers_cons_of_none hv] at h
          split at h
          · simp at h
          · rw [ih hnodup.2 hnew.2 h, entries_cons_of_none hv]

theorem mem_entries {e : Value × Value} (he : e ∈ entries offers) :
    ∃ o ∈ offers, e.1 = .text o.1.1 := by
  obtain ⟨o, ho, hentry⟩ := List.mem_filterMap.mp he
  obtain ⟨v, -, rfl⟩ := Option.map_eq_some_iff.mp hentry
  exact ⟨o, ho, rfl⟩

theorem nodup_entries (h : (offers.map fun o => o.1.1).Nodup) :
    ((entries offers).map Prod.fst).Nodup := by
  induction offers with
  | nil => exact List.nodup_nil
  | cons o offers ih =>
      rw [List.map_cons, List.nodup_cons] at h
      cases hv : o.value? with
      | none =>
          rw [entries_cons_of_none hv]
          exact ih h.2
      | some v =>
          rw [entries_cons_of_some hv, List.map_cons, List.nodup_cons]
          refine ⟨fun hmem => ?_, ih h.2⟩
          obtain ⟨e, he, hkey⟩ := List.mem_map.mp hmem
          obtain ⟨o', ho', hname⟩ := mem_entries he
          have heq : o'.1.1 = o.1.1 := Value.text.inj (hname.symm.trans hkey)
          exact h.1 (List.mem_map.mpr ⟨o', ho', heq⟩)

theorem lookup?_entries_of_notMem {name : String} (h : name ∉ offers.map fun o => o.1.1) :
    Value.lookup? (.text name) (entries offers) = none := by
  induction offers with
  | nil => rfl
  | cons o offers ih =>
      rw [List.map_cons, List.mem_cons, not_or] at h
      cases hv : o.value? with
      | some v =>
          rw [entries_cons_of_some hv, Value.lookup?_text_cons, if_neg (Ne.symm h.1), ih h.2]
      | none => rw [entries_cons_of_none hv, ih h.2]

theorem lookup?_entries (hnodup : (offers.map fun o => o.1.1).Nodup) (ho : o ∈ offers) :
    Value.lookup? (.text o.1.1) (entries offers) = o.value? := by
  induction offers with
  | nil => exact (List.not_mem_nil ho).elim
  | cons o' offers ih =>
      rw [List.map_cons, List.nodup_cons] at hnodup
      rcases List.mem_cons.mp ho with rfl | ho
      · cases hv : o.value? with
        | some v => rw [entries_cons_of_some hv, Value.lookup?_text_cons, if_pos rfl]
        | none => rw [entries_cons_of_none hv, lookup?_entries_of_notMem hnodup.1]
      · have hne : o'.1.1 ≠ o.1.1 := fun heq =>
          hnodup.1 (heq ▸ List.mem_map.mpr ⟨o, ho, rfl⟩)
        cases hv : o'.value? with
        | some v =>
            rw [entries_cons_of_some hv, Value.lookup?_text_cons, if_neg hne, ih hnodup.2 ho]
        | none => rw [entries_cons_of_none hv, ih hnodup.2 ho]

end Offers

/-! ## The two loops -/

theorem bindMember_eq {p : String × Declaration} {key : Except Fault Value}
    (hkey : key = .ok (.text p.1)) (given : Option Value) (missing : String → Fault)
    (values : List (Value × Value)) :
    bindMember key (.member p.2) given missing values = bindOffers missing [(p, given)] values := by
  have hput : ∀ v, bindValue (.text p.1) v values = .ok (Value.putEntry (.text p.1) v values) :=
    fun _ => rfl
  subst hkey
  cases given with
  | some v => exact hput v
  | none =>
      have hhas : need (.member p.2) "has_default" = .ok (.bool p.2.hasDefault) := rfl
      have hneeded : need (.member p.2) "required" = .ok (.bool p.2.required) := rfl
      simp only [bindMember, hhas, hneeded, bind, Except.bind, Value.isTruthy]
      cases hdefault : p.2.default with
      | some v =>
          have hvalue : Offer.value? (p, none) = some v := by simp [Offer.value?, hdefault]
          have hfit : Offer.isFit (p, none) = v.isCopyable := by simp [Offer.isFit, hdefault]
          rw [bindOffers_cons_of_some hvalue, hfit]
          cases hcopy : v.isCopyable <;>
            simp [Declared.hasDefault, hdefault, resolveDefault, hcopy, hput, bindOffers]
      | none =>
          have hvalue : Offer.value? (p, none) = none := by simp [Offer.value?, hdefault]
          rw [bindOffers_cons_of_none hvalue]
          cases hrequired : p.2.required <;>
            simp [Declared.hasDefault, hdefault, throw, throwThe, MonadExceptOf.throw, pure,
              Except.pure, bindOffers, Value.plain]

theorem bindArguments_eq {as : List (String × Declaration)}
    (has : ∀ p ∈ as, p.2.name = some p.1) (given : List Value) (values : List (Value × Value)) :
    bindArguments (argumentItems as) given values =
      bindOffers .missingArgument (argumentOffers as given) values := by
  induction as generalizing given values with
  | nil => rfl
  | cons p as ih =>
      have hkey : need (.member p.2) "name" = .ok (.text p.1) := by
        simp [need, Value.attribute?, Value.memberAttribute?, has p List.mem_cons_self,
          Value.ofName]
      have hrest := ih (fun q hq => has q (List.mem_cons_of_mem p hq)) (given.drop 1)
      rw [argumentItems, List.map_cons, bindArguments, bindMember_eq hkey, argumentOffers,
        bindOffers_cons (p, given.head?) (argumentOffers as (given.drop 1))]
      exact congrArg (bindOffers .missingArgument [(p, given.head?)] values >>= ·) (funext hrest)

theorem bindOptions_eq (os : List (String × Declaration)) (supplied values : List (Value × Value)) :
    bindOptions supplied (optionEntries os) values =
      bindOffers .missingOption (optionOffers os supplied) values := by
  unfold bindOptions
  induction os generalizing values with
  | nil => rfl
  | cons p os ih =>
      have hoffers : optionOffers (p :: os) supplied =
          (p, Value.lookup? (.text p.1) supplied) :: optionOffers os supplied := rfl
      rw [optionEntries, List.map_cons, List.foldlM_cons, hoffers, bindOffers_cons]
      dsimp only
      rw [bindMember_eq (p := p) rfl]
      exact congrArg (bindOffers .missingOption [(p, _)] values >>= ·) (funext ih)

theorem map_name_argumentOffers (as : List (String × Declaration)) (given : List Value) :
    (argumentOffers as given).map Prod.fst = as := by
  induction as generalizing given with
  | nil => rfl
  | cons p as ih => rw [argumentOffers, List.map_cons, ih]

theorem map_name_optionOffers (os : List (String × Declaration)) (supplied : List (Value × Value)) :
    (optionOffers os supplied).map Prod.fst = os := by
  rw [optionOffers, List.map_map]
  exact List.map_id _

/-! ## A whole call -/

/-- The positional values of a call. -/
def givenItems (args : Option Value) : Except Fault (List Value) :=
  match args with
  | none => .ok []
  | some v => v.asItems

/-- What a call offers to the arguments and options of a class. -/
def offers (as os : List (String × Declaration)) (given : List Value)
    (supplied : List (Value × Value)) : List Offer :=
  argumentOffers as given ++ optionOffers os supplied

theorem map_fst_offers (as os : List (String × Declaration)) (given : List Value)
    (supplied : List (Value × Value)) : (offers as os given supplied).map Prod.fst = as ++ os := by
  rw [offers, List.map_append, map_name_argumentOffers, map_name_optionOffers]

theorem map_name_offers (as os : List (String × Declaration)) (given : List Value)
    (supplied : List (Value × Value)) :
    ((offers as os given supplied).map fun o => o.1.1) = (as ++ os).map Prod.fst := by
  rw [← map_fst_offers as os given supplied, List.map_map]
  rfl

theorem getElem?_argumentOffers (as : List (String × Declaration)) (given : List Value) (i : Nat) :
    (argumentOffers as given)[i]? = as[i]?.map fun p => (p, given[i]?) := by
  induction as generalizing given i with
  | nil => rfl
  | cons p as ih =>
      cases i with
      | zero => simp [argumentOffers, List.head?_eq_getElem?]
      | succ i => simp [argumentOffers, ih]

theorem mem_offers_of_getElem? {as os : List (String × Declaration)} {given : List Value}
    {supplied : List (Value × Value)} {i : Nat} {p : String × Declaration} (hp : as[i]? = some p) :
    (p, given[i]?) ∈ offers as os given supplied := by
  apply List.mem_append_left
  apply List.mem_of_getElem? (i := i)
  rw [getElem?_argumentOffers, hp]
  rfl

theorem mem_offers_of_mem {as os : List (String × Declaration)} {given : List Value}
    {supplied : List (Value × Value)} {q : String × Declaration} (hq : q ∈ os) :
    (q, Value.lookup? (.text q.1) supplied) ∈ offers as os given supplied :=
  List.mem_append_right _ (List.mem_map.mpr ⟨q, hq, rfl⟩)

theorem mem_given_of_mem_argumentOffers {as : List (String × Declaration)} {given : List Value}
    {o : Offer} (ho : o ∈ argumentOffers as given) {v : Value} (hv : o.2 = some v) : v ∈ given := by
  induction as generalizing given with
  | nil => exact (List.not_mem_nil ho).elim
  | cons p as ih =>
      rcases List.mem_cons.mp ho with rfl | ho
      · exact List.mem_of_head? hv
      · exact List.mem_of_mem_drop (ih ho)

/-- A call that supplies no null offers none. -/
theorem ne_null_of_mem_offers {as os : List (String × Declaration)} {given : List Value}
    {supplied : List (Value × Value)} (hgiven : ∀ v ∈ given, v ≠ .null)
    (hsupplied : ∀ p ∈ supplied, p.2 ≠ .null) {o : Offer} (ho : o ∈ offers as os given supplied)
    {v : Value} (hv : o.2 = some v) : v ≠ .null := by
  rcases List.mem_append.mp ho with ho | ho
  · exact hgiven v (mem_given_of_mem_argumentOffers ho hv)
  · obtain ⟨p, -, rfl⟩ := List.mem_map.mp ho
    obtain ⟨k, hk⟩ := Value.exists_mem_of_lookup? hv
    exact hsupplied (k, v) hk

namespace Instance

variable {u : Universe} {i : Instance} {k : Nat} {name : String} {v : Value}

theorem read_eq_readPlain (h : u.attribute? i.cls name = some (k, .value v)) :
    i.read u name = i.readPlain u name := by
  simp only [read, h]

theorem read_eq_readBound (h : u.attribute? i.cls name = some (k, .value v))
    (hname : name ≠ valuesSlot) : i.read u name = i.readBound k name v := by
  rw [read_eq_readPlain h]
  unfold readPlain
  split
  · exact (hname rfl).elim
  · simp only [h]

end Instance

/-- A class on which calls find these arguments and options. -/
structure Universe.Takes (u : Universe) (c : Nat) (as os : List (String × Declaration)) : Prop where
  arguments : ∃ k, u.attribute? c argumentsName = some (k, .value (.tuple (argumentItems as)))
  options : ∃ k, u.attribute? c optionsName = some (k, .value (.map (optionEntries os)))
  named : ∀ p ∈ as, p.2.name = some p.1

theorem Universe.Collects.takes {u : Universe} {c : Nat} {as os : List (String × Declaration)}
    (h : u.Collects c as os) : u.Takes c as os :=
  ⟨h.arguments, h.options, h.membersArguments.named⟩

/-- A class with the constructor of the root of all generators and with nothing else under the names
by which the language makes, reads and sets an instance. -/
structure Universe.Constructs (u : Universe) (c : Nat) : Prop where
  maker : u.attribute? c makerName = none
  init : ∃ k, u.attribute? c constructorName = some (k, .computed .constructing)
  reader : u.attribute? c readerName = none
  setter : u.attribute? c setterName = none

section Call

variable {u : Universe} {c : Nat} {as os : List (String × Declaration)}
  {args options : Option Value} {given : List Value} {supplied : List (Value × Value)}

theorem instantiate_of_constructs (h : u.Constructs c) (args options : Option Value) :
    instantiate u c args options =
      (initialValues u c args options).map fun values => ⟨c, some values⟩ := by
  obtain ⟨k, hk⟩ := h.init
  rw [instantiate, h.maker, hk, h.setter]
  rfl

theorem initialValues_eq (u : Universe) (c : Nat) (args options : Option Value) :
    initialValues u c args options = (do
      let given ← givenItems args
      match u.attribute? c readerName with
      | some (_, a) => .error (readingFault a)
      | none =>
        let arguments ← (← (Instance.mk c none).get u argumentsName).asItems
        if arguments.length < given.length then
          .error (.tooManyArguments (u.get c).shortName arguments.length given.length)
        else do
          let values ← bindArguments arguments given []
          let supplied ← suppliedOptions options
          let declared ← (Instance.mk c none).get u optionsName
          let known ← declared.asItems
          if !known.all Value.isHashable then .error .wrongType
          else
            match unknownFault? supplied known with
            | some f => .error f
            | none => bindOptions supplied (← declared.asEntries) values) := by
  unfold initialValues
  cases args <;> cases u.attribute? c readerName <;> rfl

theorem attribute?_readerName_of_initialValues {values : List (Value × Value)}
    (h : initialValues u c args options = .ok values) : u.attribute? c readerName = none := by
  rw [initialValues_eq] at h
  obtain ⟨given, -, h⟩ := bind_eq_ok_iff.mp h
  split at h
  · simp at h
  · assumption

/-- Only a class that constructs its instances makes one. -/
theorem constructs_of_instantiate (hinit : (u.attribute? c constructorName).isSome) {i : Instance}
    (h : instantiate u c args options = .ok i) : u.Constructs c := by
  obtain ⟨⟨k, a⟩, hk⟩ := Option.isSome_iff_exists.mp hinit
  rw [instantiate, hk] at h
  split at h
  · simp at h
  · rename_i hmaker
    split at h
    · rename_i k' hcomputed
      obtain ⟨values, hvalues, h⟩ := bind_eq_ok_iff.mp h
      split at h
      · simp at h
      · rename_i hsetter
        exact ⟨by simpa using hmaker, ⟨k', hk.trans hcomputed⟩,
          attribute?_readerName_of_initialValues hvalues, hsetter⟩
    · simp at h
    · rename_i hnone
      simp at hnone

/-- What a call binds, once the values that it gives and supplies are known. -/
theorem initialValues_of_takes (hreader : u.attribute? c readerName = none) (h : u.Takes c as os)
    (hgiven : givenItems args = .ok given) (hsupplied : suppliedOptions options = .ok supplied) :
    initialValues u c args options =
      if as.length < given.length then
        .error (.tooManyArguments (u.get c).shortName as.length given.length)
      else (do
        let values ← bindOffers .missingArgument (argumentOffers as given) []
        match unknownFault? supplied ((optionEntries os).map Prod.fst) with
        | some f => .error f
        | none => bindOffers .missingOption (optionOffers os supplied) values) := by
  obtain ⟨⟨_, hattribute⟩, ⟨_, hattribute'⟩, hnamed⟩ := h
  have harguments : (Instance.mk c none).get u argumentsName = .ok (.tuple (argumentItems as)) := by
    rw [Instance.get, Instance.read_eq_readBound hattribute (by decide)]
    rfl
  have hoptions : (Instance.mk c none).get u optionsName = .ok (.map (optionEntries os)) := by
    rw [Instance.get, Instance.read_eq_readBound hattribute' (by decide)]
    rfl
  have hitems : (Value.tuple (argumentItems as)).asItems = .ok (argumentItems as) := rfl
  have hkeys : (Value.map (optionEntries os)).asItems = .ok ((optionEntries os).map Prod.fst) := rfl
  have hentries : (Value.map (optionEntries os)).asEntries = .ok (optionEntries os) := rfl
  have hlength : (argumentItems as).length = as.length := List.length_map _
  have hhashable : ((optionEntries os).map Prod.fst).all Value.isHashable = true := by
    simp [optionEntries, Value.isHashable]
  rw [initialValues_eq, hgiven, ok_bind, hreader, harguments, ok_bind, hitems, ok_bind, hlength,
    hsupplied, hoptions, bindArguments_eq hnamed]
  simp only [ok_bind, hkeys, hentries, hhashable, bindOptions_eq]
  rfl

/-- Options are unknown unless each has the name of one that is declared. -/
theorem unknownFault?_eq_none_iff :
    unknownFault? supplied ((optionEntries os).map Prod.fst) = none ↔
      ∀ p ∈ supplied, ∃ q ∈ os, p.1.text? = some q.1 := by
  have hany : ∀ k : Value, ((optionEntries os).map Prod.fst).any (·.sameKey k) ↔
      ∃ q ∈ os, k.text? = some q.1 := by
    intro k
    simp only [optionEntries, List.map_map, List.any_map, List.any_eq_true, Function.comp_apply,
      Value.text_sameKey, beq_iff_eq]
  have hempty : ((supplied.map Prod.fst).filter fun k =>
      !((optionEntries os).map Prod.fst).any (·.sameKey k)) = [] ↔
      ∀ p ∈ supplied, ∃ q ∈ os, p.1.text? = some q.1 := by
    rw [List.filter_eq_nil_iff, List.forall_mem_map]
    simp only [Bool.not_eq_true', Bool.not_eq_false, hany]
  rw [← hempty]
  unfold unknownFault?
  dsimp only
  split
  · rename_i h
    simpa using h
  · rename_i h
    constructor
    · intro hnone
      split at hnone <;> simp at hnone
    · exact fun hnil => absurd (List.isEmpty_iff.mpr hnil) h

theorem initialValues_eq_ok (h : u.Takes c as os) {values : List (Value × Value)}
    (hvalues : initialValues u c args options = .ok values) (hgiven : givenItems args = .ok given)
    (hsupplied : suppliedOptions options = .ok supplied) :
    given.length ≤ as.length ∧ (∀ p ∈ supplied, ∃ q ∈ os, p.1.text? = some q.1) ∧
      ∃ between, bindOffers .missingArgument (argumentOffers as given) [] = .ok between ∧
        bindOffers .missingOption (optionOffers os supplied) between = .ok values := by
  have hreader := attribute?_readerName_of_initialValues hvalues
  rw [initialValues_of_takes hreader h hgiven hsupplied] at hvalues
  split at hvalues
  · simp at hvalues
  · rename_i hlength
    obtain ⟨between, hbetween, hvalues⟩ := bind_eq_ok_iff.mp hvalues
    split at hvalues
    · simp at hvalues
    · rename_i hnone
      exact ⟨Nat.not_lt.mp hlength, unknownFault?_eq_none_iff.mp hnone, between, hbetween, hvalues⟩

/-- A call of a generator makes an instance if it gives no more values than there are arguments,
all its options are declared, the defaults that are needed can be copied, and there is a value for
each required member. -/
theorem exists_instance_iff_of_takes (hc : u.Constructs c) (h : u.Takes c as os)
    (hgiven : givenItems args = .ok given) (hsupplied : suppliedOptions options = .ok supplied) :
    (∃ i, instantiate u c args options = .ok i) ↔
      given.length ≤ as.length ∧ (∀ p ∈ supplied, ∃ q ∈ os, p.1.text? = some q.1) ∧
        ∀ o ∈ offers as os given supplied, o.isFit ∧ (o.1.2.required → o.value?.isSome) := by
  have hvalues : (∃ i, instantiate u c args options = .ok i) ↔
      ∃ values, initialValues u c args options = .ok values := by
    rw [instantiate_of_constructs hc]
    cases initialValues u c args options <;> simp [Except.map]
  rw [hvalues, offers, List.forall_mem_append]
  constructor
  · rintro ⟨values, hvalues⟩
    obtain ⟨hlength, hknown, between, harguments, hoptions⟩ :=
      initialValues_eq_ok h hvalues hgiven hsupplied
    exact ⟨hlength, hknown, (exists_bindOffers_iff _ []).mp ⟨between, harguments⟩,
      (exists_bindOffers_iff _ between).mp ⟨values, hoptions⟩⟩
  · rintro ⟨hlength, hknown, hrequired, hrequired'⟩
    obtain ⟨between, harguments⟩ :=
      (exists_bindOffers_iff .missingArgument []).mpr hrequired
    obtain ⟨values, hoptions⟩ :=
      (exists_bindOffers_iff .missingOption between).mpr hrequired'
    refine ⟨values, ?_⟩
    rw [initialValues_of_takes hc.reader h hgiven hsupplied, if_neg (Nat.not_lt.mpr hlength),
      harguments, ok_bind, unknownFault?_eq_none_iff.mpr hknown]
    exact hoptions

/-- A call of a generator with options that are collected, and not too many values, makes an
instance if the defaults that are needed can be copied and there is a value for each required
member. -/
theorem exists_instance_iff (hc : u.Constructs c) (h : u.Collects c as os)
    (hgiven : givenItems args = .ok given) (hsupplied : suppliedOptions options = .ok supplied)
    (hlength : given.length ≤ as.length) (hknown : ∀ p ∈ supplied, ∃ q ∈ os, p.1 = .text q.1) :
    (∃ i, instantiate u c args options = .ok i) ↔
      ∀ o ∈ offers as os given supplied, o.isFit ∧ (o.1.2.required → o.value?.isSome) := by
  have hnames : ∀ p ∈ supplied, ∃ q ∈ os, p.1.text? = some q.1 := by
    intro p hp
    obtain ⟨q, hq, hkey⟩ := hknown p hp
    exact ⟨q, hq, by rw [hkey, Value.text?]⟩
  rw [exists_instance_iff_of_takes hc h.takes hgiven hsupplied]
  exact ⟨fun hfit => hfit.2.2, fun hrequired => ⟨hlength, hnames, hrequired⟩⟩

/-- An instance holds what the call binds, the arguments before the options. -/
theorem instantiate_eq_ok (hc : u.Constructs c) (h : u.Takes c as os)
    (hnodup : ((as ++ os).map Prod.fst).Nodup) (hgiven : givenItems args = .ok given)
    (hsupplied : suppliedOptions options = .ok supplied) {i : Instance}
    (hi : instantiate u c args options = .ok i) :
    i = ⟨c, some (entries (offers as os given supplied))⟩ := by
  rw [← map_name_offers as os given supplied, offers, List.map_append, List.nodup_append] at hnodup
  obtain ⟨hargumentNames, hoptionNames, hdisjoint⟩ := hnodup
  rw [instantiate_of_constructs hc] at hi
  obtain ⟨values, hvalues, rfl⟩ := map_eq_ok_iff.mp hi
  obtain ⟨-, -, between, harguments, hoptions⟩ := initialValues_eq_ok h hvalues hgiven hsupplied
  have hbetween := eq_append_of_bindOffers hargumentNames (fun _ _ => rfl) harguments
  rw [List.nil_append] at hbetween
  have hnew : ∀ o ∈ optionOffers os supplied, Value.lookup? (.text o.1.1) between = none := by
    intro o ho
    rw [hbetween]
    exact lookup?_entries_of_notMem fun hmem =>
      hdisjoint _ hmem _ (List.mem_map.mpr ⟨o, ho, rfl⟩) rfl
  rw [eq_append_of_bindOffers hoptionNames hnew hoptions, hbetween, offers]
  simp only [entries, List.filterMap_append]

/-- An instance holds what the call binds for the members of its class. -/
theorem binds_of_instantiate (hinit : (u.attribute? c constructorName).isSome)
    (h : u.Collects c as os) (hapart : ∀ p ∈ as, ∀ q ∈ os, p.1 ≠ q.1)
    (hgiven : givenItems args = .ok given) (hsupplied : suppliedOptions options = .ok supplied)
    {i : Instance} (hi : instantiate u c args options = .ok i) :
    ∃ values, i = ⟨c, some values⟩ ∧ Binds (offers as os given supplied) [] values := by
  have hnodup : ((as ++ os).map Prod.fst).Nodup := by
    rw [List.map_append, List.nodup_append]
    refine ⟨h.membersArguments.nodup, h.membersOptions.nodup, ?_⟩
    simpa [List.forall_mem_map] using hapart
  have hnames : ((offers as os given supplied).map fun o => o.1.1).Nodup := by
    rwa [map_name_offers]
  have hc := constructs_of_instantiate hinit hi
  obtain rfl := instantiate_eq_ok hc h.takes hnodup hgiven hsupplied hi
  refine ⟨_, rfl, ?_, ?_, ?_⟩
  · intro o ho
    rw [lookup?_entries hnames ho]
    exact (Option.or_none).symm
  · intro name hname
    exact lookup?_entries_of_notMem hname
  · intro o ho
    exact (((exists_instance_iff_of_takes hc h.takes hgiven hsupplied).mp ⟨_, hi⟩).2.2 o ho).2

end Call

end Scaffold

end TypeStubs
