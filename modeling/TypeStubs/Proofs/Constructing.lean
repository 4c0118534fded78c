import TypeStubs.Proofs.Binding
import TypeStubs.Proofs.Redeclaring
import TypeStubs.Proofs.Restoring

/-!
# Constructing generators

A call of a generator is refused for one of four reasons, all of which show in the members that the
class has collected. Otherwise the instance holds one value for each member that is supplied or has
a default. Those are the members that are supplied and those whose accessors are not optional.
-/

namespace TypeStubs.Scaffold

open Universe

/-! ## Reasons to refuse a call -/

section Reasons

variable {as os : List (String × Declaration)} {given : List Value}
  {supplied : List (Value × Value)}

/-- A call is refused if it gives too many values or names an option that is not declared, and if
there is neither a value nor a default for a required member. -/
inductive Unfit (as os : List (String × Declaration)) (given : List Value)
    (supplied : List (Value × Value)) : Prop
  | tooMany (h : as.length < given.length)
  | noArgument {i : Nat} {p : String × Declaration} (hi : given.length ≤ i) (hp : as[i]? = some p)
      (hrequired : p.2.required) (hdefault : p.2.default = none)
  | unknown {e : Value × Value} (he : e ∈ supplied) (h : ∀ q ∈ os, e.1.text? ≠ some q.1)
  | noOption {q : String × Declaration} (hq : q ∈ os)
      (h : Value.lookup? (.text q.1) supplied = none) (hrequired : q.2.required)
      (hdefault : q.2.default = none)

theorem not_unfit_iff : ¬ Unfit as os given supplied ↔
    given.length ≤ as.length ∧ (∀ e ∈ supplied, ∃ q ∈ os, e.1.text? = some q.1) ∧
      ∀ o ∈ offers as os given supplied, o.1.2.required → o.value?.isSome := by
  constructor
  · intro hfit
    refine ⟨Nat.not_lt.mp fun h => hfit (.tooMany h), ?_, ?_⟩
    · intro e he
      by_contra hnone
      exact hfit (.unknown he fun q hq hname => hnone ⟨q, hq, hname⟩)
    · intro o ho hrequired
      rw [Option.isSome_iff_ne_none]
      intro hvalue
      obtain ⟨hoffered, hdefault⟩ := Option.or_eq_none_iff.mp hvalue
      rcases List.mem_append.mp ho with ho | ho
      · obtain ⟨i, hi⟩ := List.mem_iff_getElem?.mp ho
        rw [getElem?_argumentOffers] at hi
        obtain ⟨p, hp, rfl⟩ := Option.map_eq_some_iff.mp hi
        exact hfit (.noArgument (List.getElem?_eq_none_iff.mp hoffered) hp hrequired hdefault)
      · obtain ⟨q, hq, rfl⟩ := List.mem_map.mp ho
        exact hfit (.noOption hq hoffered hrequired hdefault)
  · rintro ⟨hlength, hknown, hvalues⟩ hunfit
    cases hunfit with
    | tooMany h => exact Nat.not_lt.mpr hlength h
    | @noArgument i p hi hp hrequired hdefault =>
        have hvalue := hvalues _ (mem_offers_of_getElem? hp) hrequired
        simp [Offer.value?, List.getElem?_eq_none hi, hdefault] at hvalue
    | unknown he h =>
        obtain ⟨q, hq, hname⟩ := hknown _ he
        exact h q hq hname
    | noOption hq h hrequired hdefault =>
        have hvalue := hvalues _ (mem_offers_of_mem hq) hrequired
        simp [Offer.value?, h, hdefault] at hvalue

end Reasons

/-! ## What an instance holds -/

/-- The values of an instance that was made by a call: for each argument the one given in its
place, for each option the one supplied under its name, else the default, and no others. -/
structure Holds (as os : List (String × Declaration)) (given : List Value)
    (supplied values : List (Value × Value)) : Prop where
  argument : ∀ (i : Nat) (p : String × Declaration), as[i]? = some p →
    Value.lookup? (.text p.1) values = given[i]?.or p.2.default
  option : ∀ q ∈ os,
    Value.lookup? (.text q.1) values = (Value.lookup? (.text q.1) supplied).or q.2.default
  only : ∀ e ∈ values, ∃ p ∈ as ++ os, e.1 = .text p.1
  nodup : (values.map Prod.fst).Nodup
  boundArgument : ∀ (i : Nat) (p : String × Declaration), as[i]? = some p →
    ((Value.lookup? (.text p.1) values).isSome ↔
      i < given.length ∨ (specOf p).accessorType.nilable = false)
  boundOption : ∀ q ∈ os,
    ((Value.lookup? (.text q.1) values).isSome ↔
      (Value.lookup? (.text q.1) supplied).isSome ∨ (specOf q).accessorType.nilable = false)

theorem nilable_eq_false_iff (p : String × Declaration) :
    (specOf p).accessorType.nilable = false ↔ p.2.required ∨ p.2.default.isSome := by
  cases hrequired : p.2.required <;>
    simp [ArgumentSpec.accessorType, specOf, Declared.hasDefault, hrequired]

/-- A member for which there is a value if it is required has one if one was offered or its accessor
is not optional. -/
theorem isSome_value?_iff {o : Offer} (h : o.1.2.required → o.value?.isSome) :
    o.value?.isSome ↔ o.2.isSome ∨ (specOf o.1).accessorType.nilable = false := by
  rw [nilable_eq_false_iff, Offer.value?, Option.isSome_or, Bool.or_eq_true]
  constructor
  · exact Or.imp_right Or.inr
  · rintro (hoffered | hrequired | hdefault)
    · exact Or.inl hoffered
    · simpa [Offer.value?] using h hrequired
    · exact Or.inr hdefault

section Call

variable {u : Universe} {c : Nat} {as os : List (String × Declaration)}
  {args options : Option Value} {given : List Value} {supplied : List (Value × Value)}

theorem holds_entries (hnodup : ((as ++ os).map Prod.fst).Nodup)
    (hvalues : ∀ o ∈ offers as os given supplied, o.1.2.required → o.value?.isSome) :
    Holds as os given supplied (entries (offers as os given supplied)) := by
  have hnames : ((offers as os given supplied).map fun o => o.1.1).Nodup := by
    rwa [map_name_offers]
  refine ⟨?_, ?_, ?_, nodup_entries hnames, ?_, ?_⟩
  · intro i p hp
    exact lookup?_entries hnames (mem_offers_of_getElem? hp)
  · intro q hq
    exact lookup?_entries hnames (mem_offers_of_mem hq)
  · intro e he
    obtain ⟨o, ho, hname⟩ := mem_entries he
    refine ⟨o.1, ?_, hname⟩
    rw [← map_fst_offers as os given supplied]
    exact List.mem_map_of_mem ho
  · intro i p hp
    have hoffered : (p, given[i]?) ∈ offers as os given supplied := mem_offers_of_getElem? hp
    rw [lookup?_entries hnames hoffered, isSome_value?_iff (hvalues _ hoffered)]
    simp
  · intro q hq
    have hoffered : (q, Value.lookup? (.text q.1) supplied) ∈ offers as os given supplied :=
      mem_offers_of_mem hq
    rw [lookup?_entries hnames hoffered, isSome_value?_iff (hvalues _ hoffered)]

/-! ## Faults of refused calls -/

theorem isSome_mapM_text? {keys : List Value} (h : ∀ k ∈ keys, k.text?.isSome) :
    (keys.mapM Value.text?).isSome := by
  induction keys with
  | nil => rfl
  | cons k keys ih =>
      rw [List.forall_mem_cons] at h
      obtain ⟨name, hname⟩ := Option.isSome_iff_exists.mp h.1
      obtain ⟨names, hnames⟩ := Option.isSome_iff_exists.mp (ih h.2)
      simp [List.mapM_cons, hname, hnames]

/-- Unknown options with texts as keys can be named. -/
theorem family_of_unknownFault? {known : List Value} (hkeys : ∀ e ∈ supplied, e.1.text?.isSome)
    {f : Fault} (h : unknownFault? supplied known = some f) : f.family = .generatorArgument := by
  unfold unknownFault? at h
  dsimp only at h
  split at h
  · simp at h
  · have hnames : (((supplied.map Prod.fst).filter fun k => !known.any (·.sameKey k)).mapM
        Value.text?).isSome := by
      apply isSome_mapM_text?
      intro k hk
      obtain ⟨e, he, rfl⟩ := List.mem_map.mp (List.mem_of_mem_filter hk)
      exact hkeys e he
    split at h
    · obtain rfl := Option.some.inj h
      rfl
    · rename_i hnone
      simp [hnone] at hnames

/-- Defaults that can be copied stand in the way of no call. -/
theorem isFit_of_mem_offers (hcopied : ∀ p ∈ as ++ os, p.2.default.all Value.isCopyable) {o : Offer}
    (ho : o ∈ offers as os given supplied) : o.isFit := by
  have hmem : o.1 ∈ as ++ os := by
    rw [← map_fst_offers as os given supplied]
    exact List.mem_map_of_mem ho
  rw [Offer.isFit, hcopied o.1 hmem, Bool.or_true]

theorem family_of_instantiate (hc : u.Constructs c) (h : u.Takes c as os)
    (hcopied : ∀ p ∈ as ++ os, p.2.default.all Value.isCopyable)
    (hgiven : givenItems args = .ok given) (hsupplied : suppliedOptions options = .ok supplied)
    (hkeys : ∀ e ∈ supplied, e.1.text?.isSome) {f : Fault}
    (hf : instantiate u c args options = .error f) : f.family = .generatorArgument := by
  have hvalues : initialValues u c args options = .error f := by
    rw [instantiate_of_constructs hc] at hf
    cases hvalues : initialValues u c args options with
    | ok values => simp [hvalues, Except.map] at hf
    | error g => simpa [hvalues, Except.map] using hf
  have hfit : ∀ o ∈ offers as os given supplied, o.isFit :=
    fun o ho => isFit_of_mem_offers hcopied ho
  rw [offers, List.forall_mem_append] at hfit
  rw [initialValues_of_takes hc.reader h hgiven hsupplied] at hvalues
  split at hvalues
  · obtain rfl := Except.error.inj hvalues
    rfl
  · cases harguments : bindOffers .missingArgument (argumentOffers as given) [] with
    | error g =>
        rw [harguments] at hvalues
        obtain rfl := Except.error.inj hvalues
        obtain ⟨name, rfl⟩ := fault_of_bindOffers hfit.1 harguments
        rfl
    | ok between =>
        rw [harguments, ok_bind] at hvalues
        split at hvalues
        · rename_i hunknown
          obtain rfl := Except.error.inj hvalues
          exact family_of_unknownFault? hkeys hunknown
        · obtain ⟨name, rfl⟩ := fault_of_bindOffers hfit.2 hvalues
          rfl

/-- A call makes an instance unless it is unfit. -/
theorem exists_instance_iff_not_unfit (hc : u.Constructs c) (h : u.Takes c as os)
    (hcopied : ∀ p ∈ as ++ os, p.2.default.all Value.isCopyable)
    (hgiven : givenItems args = .ok given) (hsupplied : suppliedOptions options = .ok supplied) :
    (∃ i, instantiate u c args options = .ok i) ↔ ¬ Unfit as os given supplied := by
  rw [exists_instance_iff_of_takes hc h hgiven hsupplied, not_unfit_iff]
  refine and_congr_right fun _ => and_congr_right fun _ => forall₂_congr fun o ho => ?_
  rw [isFit_of_mem_offers hcopied ho, and_iff_right rfl]

theorem instantiate_of_fit (hc : u.Constructs c) (h : u.Takes c as os)
    (hcopied : ∀ p ∈ as ++ os, p.2.default.all Value.isCopyable)
    (hnodup : ((as ++ os).map Prod.fst).Nodup) (hgiven : givenItems args = .ok given)
    (hsupplied : suppliedOptions options = .ok supplied) (hfit : ¬ Unfit as os given supplied) :
    ∃ values, instantiate u c args options = .ok ⟨c, some values⟩ ∧
      Holds as os given supplied values := by
  obtain ⟨i, hi⟩ := (exists_instance_iff_not_unfit hc h hcopied hgiven hsupplied).mpr hfit
  have hvalues := instantiate_eq_ok hc h hnodup hgiven hsupplied hi
  exact ⟨_, hvalues ▸ hi, holds_entries hnodup (not_unfit_iff.mp hfit).2.2⟩

theorem unfit_iff_refused (hc : u.Constructs c) (h : u.Takes c as os)
    (hcopied : ∀ p ∈ as ++ os, p.2.default.all Value.isCopyable)
    (hgiven : givenItems args = .ok given) (hsupplied : suppliedOptions options = .ok supplied)
    (hkeys : ∀ e ∈ supplied, e.1.text?.isSome) :
    Unfit as os given supplied ↔
      ∃ f, instantiate u c args options = .error f ∧ f.family = .generatorArgument := by
  rw [← not_iff_not, ← exists_instance_iff_not_unfit hc h hcopied hgiven hsupplied]
  constructor
  · rintro ⟨i, hi⟩ ⟨f, hf, -⟩
    rw [hi] at hf
    simp at hf
  · intro hnone
    cases hi : instantiate u c args options with
    | ok i => exact ⟨i, rfl⟩
    | error f =>
        exact (hnone ⟨f, hi,
          family_of_instantiate hc h hcopied hgiven hsupplied hkeys hi⟩).elim

end Call

theorem valuesOf_eq {u : Universe} {c k : Nat}
    (h : u.attribute? c "values" = some (k, .computed .values)) (values : List (Value × Value)) :
    Instance.valuesOf u ⟨c, some values⟩ = .ok (.map values) := by
  rw [Instance.valuesOf, Instance.get, Instance.read, h]
  rfl

/-! ## Calls of the last class of a line -/

/-- No name is declared as members of both kinds. -/
def Apart (ds : List (String × Declaration)) : Prop :=
  ∀ p ∈ ds, ∀ q ∈ ds, p.1 = q.1 → p.2.kind = q.2.kind

theorem LastInPlace.mem {kind : MemberKind} {ds ms : List (String × Declaration)}
    (h : LastInPlace kind ds ms) {p : String × Declaration} (hp : p ∈ ms) :
    p ∈ ds ∧ p.2.kind = kind := by
  have hmem := List.mem_of_mem_filter (List.mem_of_getLast? (h.last p hp))
  simpa [declaredAs] using hmem

theorem Apart.nodup {ds as os : List (String × Declaration)} (h : Apart ds)
    (has : LastInPlace .argument ds as) (hos : LastInPlace .option ds os) :
    ((as ++ os).map Prod.fst).Nodup := by
  rw [List.map_append, List.nodup_append]
  refine ⟨has.nodup, hos.nodup, ?_⟩
  intro name hname name' hname' heq
  obtain ⟨p, hp, rfl⟩ := List.mem_map.mp hname
  obtain ⟨q, hq, rfl⟩ := List.mem_map.mp hname'
  obtain ⟨hpds, hargument⟩ := has.mem hp
  obtain ⟨hqds, hoption⟩ := hos.mem hq
  have hkind := h p hpds q hqds heq
  rw [hargument, hoption] at hkind
  exact MemberKind.noConfusion hkind

namespace Universe.Gathers

variable {u : Universe} {c : Nat} {ds : List (String × Declaration)}

theorem takes (h : u.Gathers c ds) : u.Takes c (gather .argument [] ds) (gather .option [] ds) :=
  ⟨⟨c, attribute?_of_lookup h.arguments⟩, ⟨c, attribute?_of_lookup h.options⟩,
    (lastInPlace_gather .argument h.named).named⟩

theorem collects (h : u.Gathers c ds) (hne : ∀ p ∈ ds, p.1 ≠ "") :
    u.Collects c (gather .argument [] ds) (gather .option [] ds) := by
  have hmembers : ∀ kind, Members (gather kind [] ds) := by
    intro kind
    have hlast := lastInPlace_gather kind h.named
    exact ⟨hlast.named, fun p hp => hne p (hlast.mem hp).1, hlast.nodup⟩
  exact ⟨⟨c, attribute?_of_lookup h.arguments⟩, ⟨c, attribute?_of_lookup h.options⟩,
    hmembers .argument, hmembers .option⟩

end Universe.Gathers

variable {u : Universe} {c : Nat} {bodies : List (List (String × Attribute))}
  {args options : Option Value} {given : List Value} {supplied : List (Value × Value)}

/-- A class whose one argument covers the property that shows the values. -/
def coveringForm : ClassForm :=
  ⟨"app", "Covering", [generatorId], [bound .argument "values" .string none]⟩

def covering : Universe := builtIn.declare coveringForm

def coveringBodies : List (List (String × Attribute)) :=
  (builtInForms.take 1).map ClassForm.body ++ [coveringForm.body]

def coveringInstance : Instance :=
  ⟨4, some [(.text "values", .text "plans"), (.text "pretend", .bool false),
    (.text "quiet", .bool false)]⟩

theorem descends_root : Descends builtIn generatorId ((builtInForms.take 1).map ClassForm.body) :=
  .builtIn (n := 0) (by decide)

theorem descends_covering : Descends covering 4 coveringBodies :=
  descends_root.declare rfl (by decide) (by decide) (by decide +kernel) (by decide +kernel)

/-- An argument that is not bound to a name. -/
def loose : Value := .member (declare .argument (.text "string") .null none)

/-- A class that binds its arguments by hand. -/
def manual : Universe :=
  builtIn.declare ⟨"app", "Manual", [generatorId], [(argumentsName, .value (.list [loose, loose]))]⟩

def manualInstance : Instance :=
  ⟨4, some [(.null, .text "b"), (.text "pretend", .bool false), (.text "quiet", .bool false)]⟩

def shadowingOption : String × Attribute := bound .option constructorName .string none

/-- A class with an option in the place of the constructor. -/
def shadowed : Universe := builtIn.declare ⟨"app", "Shadowed", [generatorId], [shadowingOption]⟩

theorem collects_shadowed :
    shadowed.Collects 4 [] (declared (rootOptions ++ [shadowingOption])) :=
  ⟨⟨4, rfl⟩, ⟨4, rfl⟩, members_nil, ⟨by decide, by decide, by decide⟩⟩

/-- An option whose default asks to be copied by what cannot be called. -/
def uncopiedOption : String × Attribute :=
  bound .option "file" .string (some (.object "file" [("__deepcopy__", .int 1)]))

def uncopied : Universe := builtIn.declare ⟨"app", "Uncopied", [generatorId], [uncopiedOption]⟩

theorem collects_uncopied :
    uncopied.Collects 4 [] (declared (rootOptions ++ [uncopiedOption])) :=
  ⟨⟨4, rfl⟩, ⟨4, rfl⟩, members_nil, ⟨by decide, by decide, by decide⟩⟩

def refinedForm : ClassForm :=
  ⟨"app", "Refined", [4], [bound .argument "note" .string (some (.text "draft")),
    switch "quiet" true]⟩

/-- Two classes, the second of which gives defaults to members of the first and of the root. -/
def refined : Universe := (builtIn.declare sizedForm).declare refinedForm

def refinedBodies : List (List (String × Attribute)) :=
  (builtInForms.take 1).map ClassForm.body ++ [sizedForm.body] ++ [refinedForm.body]

theorem descends_refined : Descends refined 5 refinedBodies := by
  have hsized : Descends (builtIn.declare sizedForm) 4 _ :=
    descends_root.declare rfl (by decide) (by decide) (by decide +kernel) (by decide +kernel)
  exact hsized.declare rfl (by decide) (by decide) (by decide +kernel) (by decide +kernel)

end TypeStubs.Scaffold
