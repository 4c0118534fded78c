import TypeStubs.Proofs.Universes

/-!
# What generators collect

Along a line of generators the collected members keep their names and places. A class puts its own
members in the place of inherited ones of the same name and the rest behind them.
-/

namespace TypeStubs.Scaffold

/-- Declarations that know their names, each name coming up once. -/
structure Members (ds : List (String × Declaration)) : Prop where
  named : ∀ p ∈ ds, p.2.name = some p.1
  ne_empty : ∀ p ∈ ds, p.1 ≠ ""
  nodup : (ds.map Prod.fst).Nodup

theorem members_nil : Members [] := ⟨by simp, by simp, List.nodup_nil⟩

/-- Members as collected arguments. -/
def argumentItems (ds : List (String × Declaration)) : List Value := ds.map fun p => .member p.2

/-- Members as collected options. -/
def optionEntries (ds : List (String × Declaration)) : List (Value × Value) :=
  ds.map fun p => (.text p.1, .member p.2)

/-- The members of one kind among some declarations, put on top of inherited ones. -/
def gather (kind : MemberKind) (inherited own : List (String × Declaration)) :
    List (String × Declaration) :=
  (own.filter fun p => p.2.kind = kind).foldl (fun ds p => LiveClass.bind p.1 p.2 ds) inherited

/-! ## Putting members -/

theorem sameKey_text (a b : String) : Value.sameKey (.text a) (.text b) = (a == b) := by
  simp [Value.sameKey, Value.number?, Value.text?]

theorem putArgument_argumentItems (name : String) (d : Declaration)
    {ds : List (String × Declaration)} (h : ∀ p ∈ ds, p.2.name = some p.1) :
    putArgument name d (argumentItems ds) = .ok (argumentItems (LiveClass.bind name d ds)) := by
  induction ds with
  | nil => rfl
  | cons p ds ih =>
      obtain ⟨n, e⟩ := p
      have hn : e.name = some n := h (n, e) List.mem_cons_self
      have hread : (Value.member e).attribute? "name" = some (.text n) := by
        simp [Value.attribute?, Value.memberAttribute?, hn, Value.ofName]
      have hrest := ih fun p hp => h p (List.mem_cons_of_mem _ hp)
      unfold argumentItems at hrest ⊢
      rw [List.map_cons, putArgument]
      simp only [hread, sameKey_text, beq_iff_eq, LiveClass.bind]
      by_cases hname : n = name
      · simp [hname]
      · simp [hname, hrest, Except.map]

theorem putEntry_optionEntries (name : String) (d : Declaration)
    (ds : List (String × Declaration)) :
    Value.putEntry (.text name) (.member d) (optionEntries ds) =
      optionEntries (LiveClass.bind name d ds) := by
  induction ds with
  | nil => rfl
  | cons p ds ih =>
      obtain ⟨n, e⟩ := p
      unfold optionEntries at ih ⊢
      rw [List.map_cons, Value.putEntry, sameKey_text, LiveClass.bind]
      by_cases hname : n = name
      · simp [hname]
      · simp [hname, ih]

theorem Members.bind {ds : List (String × Declaration)} (h : Members ds) {name : String}
    {d : Declaration} (hd : d.name = some name) (hne : name ≠ "") :
    Members (LiveClass.bind name d ds) where
  named := by
    intro p hp
    rcases LiveClass.mem_bind hp with rfl | hp
    · exact hd
    · exact h.named p hp
  ne_empty := by
    intro p hp
    rcases LiveClass.mem_bind hp with rfl | hp
    · exact hne
    · exact h.ne_empty p hp
  nodup := LiveClass.nodup_bind name d h.nodup

theorem names_prefix_bind {α : Type} (name : String) (a : α) (ds : List (String × α)) :
    ds.map Prod.fst <+: (LiveClass.bind name a ds).map Prod.fst := by
  rw [LiveClass.map_fst_bind]
  split
  · exact List.prefix_refl _
  · exact List.prefix_append _ _

section Gather

variable {kind : MemberKind} {inherited own : List (String × Declaration)}

theorem gather_cons (p : String × Declaration) :
    gather kind inherited (p :: own) =
      gather kind (if p.2.kind = kind then LiveClass.bind p.1 p.2 inherited else inherited)
        own := by
  unfold gather
  by_cases hkind : p.2.kind = kind
  · rw [if_pos hkind, List.filter_cons_of_pos (by simpa using hkind), List.foldl_cons]
  · rw [if_neg hkind, List.filter_cons_of_neg (by simpa using hkind)]

theorem members_gather (h : Members inherited)
    (hown : ∀ p ∈ own, p.2.name = some p.1 ∧ p.1 ≠ "") : Members (gather kind inherited own) := by
  induction own generalizing inherited with
  | nil => exact h
  | cons p own ih =>
      obtain ⟨hname, hne⟩ := hown p List.mem_cons_self
      rw [gather_cons]
      refine ih ?_ fun q hq => hown q (List.mem_cons_of_mem p hq)
      split
      · exact h.bind hname hne
      · exact h

/-- What was inherited keeps its names and their places. -/
theorem names_prefix_gather :
    inherited.map Prod.fst <+: (gather kind inherited own).map Prod.fst := by
  induction own generalizing inherited with
  | nil => exact List.prefix_refl _
  | cons p own ih =>
      rw [gather_cons]
      split
      · exact (names_prefix_bind p.1 p.2 inherited).trans ih
      · exact ih

end Gather

theorem collect_eq (body : List (String × Attribute)) {as os : List (String × Declaration)}
    (has : ∀ p ∈ as, p.2.name = some p.1)
    (hbody : ∀ p ∈ declarations body, p.2.name = some p.1) :
    collect body (argumentItems as) (optionEntries os) =
      .ok (argumentItems (gather .argument as (declarations body)),
        optionEntries (gather .option os (declarations body))) := by
  unfold collect
  generalize declarations body = own at hbody ⊢
  induction own generalizing as os with
  | nil => rfl
  | cons p own ih =>
      obtain ⟨name, d⟩ := p
      have hname : d.name = some name := hbody (name, d) List.mem_cons_self
      have hrest : ∀ p ∈ own, p.2.name = some p.1 :=
        fun p hp => hbody p (List.mem_cons_of_mem _ hp)
      rw [List.foldlM_cons, gather_cons, gather_cons]
      cases hkind : d.kind with
      | argument =>
          simp only [hkind, putArgument_argumentItems name d has]
          refine ih (fun p hp => ?_) hrest
          rcases LiveClass.mem_bind hp with rfl | hp
          · exact hname
          · exact has p hp
      | option =>
          simp only [hkind, putEntry_optionEntries]
          exact ih has hrest

theorem mem_declarations {body : List (String × Attribute)} {p : String × Attribute} (hp : p ∈ body)
    {d : Declaration} (hd : p.2 = .value (.member d)) : (p.1, d) ∈ declarations body := by
  refine List.mem_filterMap.mpr ⟨p, hp, ?_⟩
  simp [hd]

/-- The declarations of a body have been given the names they are bound to. -/
theorem named_of_mem_declarations {body : List (String × Attribute)} {p : String × Declaration}
    (h : p ∈ declarations (boundBody body)) : p.2.name = some p.1 ∧ ∃ q ∈ body, q.1 = p.1 := by
  obtain ⟨⟨name, a⟩, hmem, ha⟩ := List.mem_filterMap.mp h
  obtain ⟨⟨name', a'⟩, hq, rfl, hbound⟩ := exists_mem_of_mem_boundBody hmem
  dsimp only at ha hbound
  cases a' with
  | nested d => simp [hbound] at ha
  | computed k => simp [hbound] at ha
  | value v =>
      cases v with
      | member e =>
          rw [hbound] at ha
          obtain rfl := Option.some.inj ha
          exact ⟨rfl, (name', .value (.member e)), hq, rfl⟩
      | _ => simp [hbound, attach] at ha

/-- A declaration under the name it knows. -/
def memberOf? : Value → Option (String × Declaration)
  | .member d => d.name.map (·, d)
  | _ => none

theorem Members.filterMap_argumentItems {ds : List (String × Declaration)} (h : Members ds) :
    (argumentItems ds).filterMap memberOf? = ds := by
  rw [argumentItems, List.filterMap_map]
  refine (List.filterMap_congr fun p hp => ?_).trans List.filterMap_some
  simp [memberOf?, h.named p hp]

theorem Members.filterMap_optionEntries {ds : List (String × Declaration)} (h : Members ds) :
    (optionEntries ds).filterMap (fun p => memberOf? p.2) = ds := by
  rw [optionEntries, List.filterMap_map]
  refine (List.filterMap_congr fun p hp => ?_).trans List.filterMap_some
  simp [memberOf?, h.named p hp]

namespace Universe

variable {u u' : Universe} {c : Nat}

/-- What a class binds itself comes before anything above it. -/
theorem attribute?_of_lookup {name : String} {a : Attribute}
    (h : (u.get c).body.lookup name = some a) : u.attribute? c name = some (c, a) := by
  rw [attribute?, row, List.findSome?_cons, h]
  rfl

theorem isSome_attribute? {k : Nat} {name : String} (hk : k ∈ u.row c)
    (h : ((u.get k).body.lookup name).isSome) : (u.attribute? c name).isSome := by
  obtain ⟨a, ha⟩ := Option.isSome_iff_exists.mp h
  rw [attribute?, List.findSome?_isSome_iff]
  exact ⟨k, hk, by simp [ha]⟩

theorem attribute?_eq_some_iff {k : Nat} {name : String} {a : Attribute} :
    u.attribute? c name = some (k, a) ↔
      (u.row c).find? (fun d => ((u.get d).body.lookup name).isSome) = some k ∧
        (u.get k).body.lookup name = some a := by
  unfold attribute?
  induction u.row c with
  | nil => simp
  | cons d row ih =>
      rw [List.findSome?_cons, List.find?_cons]
      cases hd : (u.get d).body.lookup name with
      | none => simpa using ih
      | some b =>
          simp only [Option.map_some, Option.isSome_some, Option.some.injEq, Prod.mk.injEq]
          constructor
          · rintro ⟨rfl, rfl⟩
            exact ⟨rfl, hd⟩
          · rintro ⟨rfl, hk⟩
            exact ⟨rfl, Option.some.inj (hd.symm.trans hk)⟩

/-- A name means the same where the same ancestors bind it to the same. -/
theorem attribute?_congr {v : Universe} {name : String} (hrow : v.row c = u.row c)
    (h : ∀ d ∈ u.row c, (v.get d).body.lookup name = (u.get d).body.lookup name) :
    v.attribute? c name = u.attribute? c name := by
  rw [attribute?, attribute?, hrow]
  generalize u.row c = row at h
  induction row with
  | nil => rfl
  | cons d row ih =>
      rw [List.findSome?_cons, List.findSome?_cons, h d List.mem_cons_self,
        ih fun e he => h e (List.mem_cons_of_mem _ he)]

/-- The members that a generator has collected. It has those of an ancestor if it did not collect
any itself. -/
structure Collects (u : Universe) (c : Nat) (as os : List (String × Declaration)) : Prop where
  arguments : ∃ k, u.attribute? c argumentsName = some (k, .value (.tuple (argumentItems as)))
  options : ∃ k, u.attribute? c optionsName = some (k, .value (.map (optionEntries os)))
  membersArguments : Members as
  membersOptions : Members os

namespace Collects

variable {as os as' os' : List (String × Declaration)}

theorem congr {v : Universe} (h : u.Collects c as os)
    (harguments : v.attribute? c argumentsName = u.attribute? c argumentsName)
    (hoptions : v.attribute? c optionsName = u.attribute? c optionsName) : v.Collects c as os where
  arguments := harguments.symm ▸ h.arguments
  options := hoptions.symm ▸ h.options
  membersArguments := h.membersArguments
  membersOptions := h.membersOptions

theorem unique (h : u.Collects c as os) (h' : u.Collects c as' os') : as = as' ∧ os = os' := by
  obtain ⟨k, hk⟩ := h.arguments
  obtain ⟨k', hk'⟩ := h'.arguments
  obtain ⟨l, hl⟩ := h.options
  obtain ⟨l', hl'⟩ := h'.options
  have harguments : argumentItems as = argumentItems as' := by
    simpa using congrArg (Option.map Prod.snd) (hk.symm.trans hk')
  have hoptions : optionEntries os = optionEntries os' := by
    simpa using congrArg (Option.map Prod.snd) (hl.symm.trans hl')
  rw [← h.membersArguments.filterMap_argumentItems, harguments,
    h'.membersArguments.filterMap_argumentItems, ← h.membersOptions.filterMap_optionEntries,
    hoptions, h'.membersOptions.filterMap_optionEntries]
  exact ⟨rfl, rfl⟩

end Collects

/-- The members that a generator has collected in its own body. -/
structure Stores (u : Universe) (c : Nat) (as os : List (String × Declaration)) : Prop where
  arguments : (u.get c).body.lookup argumentsName = some (.value (.tuple (argumentItems as)))
  options : (u.get c).body.lookup optionsName = some (.value (.map (optionEntries os)))
  membersArguments : Members as
  membersOptions : Members os

namespace Stores

variable {as os : List (String × Declaration)}

theorem congr {v : Universe} (h : u.Stores c as os)
    (harguments : (v.get c).body.lookup argumentsName = (u.get c).body.lookup argumentsName)
    (hoptions : (v.get c).body.lookup optionsName = (u.get c).body.lookup optionsName) :
    v.Stores c as os :=
  ⟨harguments.trans h.arguments, hoptions.trans h.options, h.membersArguments, h.membersOptions⟩

theorem collects (h : u.Stores c as os) : u.Collects c as os :=
  ⟨⟨c, attribute?_of_lookup h.arguments⟩, ⟨c, attribute?_of_lookup h.options⟩, h.membersArguments,
    h.membersOptions⟩

end Stores

/-! ## One class -/

theorem lookup_boundBody_eq_none {body : List (String × Attribute)} {name : String}
    (h : ∀ p ∈ body, p.1 ≠ name) : (boundBody body).lookup name = none := by
  rw [List.lookup_eq_none_iff]
  intro p hp
  obtain ⟨q, hq, hname, -⟩ := exists_mem_of_mem_boundBody hp
  rw [bne_iff_ne, ← hname]
  exact Ne.symm (h q hq)

/-- A name that a class with one base does not bind means what it means on the base. -/
theorem attribute?_of_base (hu : u.Sound) {b : Nat} (hbase : (u.get c).bases = [b]) {name : String}
    (h : (u.get c).body.lookup name = none) : u.attribute? c name = u.attribute? b name := by
  rw [attribute?, row, hu.single hbase, List.findSome?_cons, h]
  rfl

/-- A class puts its own members on top of the inherited ones. -/
theorem collectInto_of_inherited {as os : List (String × Declaration)}
    (has : ∀ p ∈ as, p.2.name = some p.1) (harguments : u.inheritedItems c = .ok (argumentItems as))
    (hoptions : u.inheritedOptions c = .ok (optionEntries os)) {body : List (String × Attribute)}
    (hbound : (u.get c).body = boundBody body) :
    u.collectInto c = .ok ((u.bind c argumentsName (.value (.tuple
      (argumentItems (gather .argument as (declarations (boundBody body))))))).bind c optionsName
      (.value (.map (optionEntries (gather .option os (declarations (boundBody body))))))) := by
  have hdeclared : ∀ p ∈ declarations (boundBody body), p.2.name = some p.1 :=
    fun p hp => (named_of_mem_declarations hp).1
  rw [collectInto, harguments, hoptions, hbound, ok_bind, ok_bind, collect_eq _ has hdeclared]
  rfl

theorem stores_of_inherited {as os : List (String × Declaration)} (has : Members as)
    (hos : Members os) (harguments : u.inheritedItems c = .ok (argumentItems as))
    (hoptions : u.inheritedOptions c = .ok (optionEntries os))
    {body : List (String × Attribute)} (hbody : Plain body)
    (hbound : (u.get c).body = boundBody body) (hc : c < u.classes.size)
    (h : u.collectInto c = .ok u') :
    u'.Stores c (gather .argument as (declarations (boundBody body)))
      (gather .option os (declarations (boundBody body))) := by
  have hdeclared : ∀ p ∈ declarations (boundBody body), p.2.name = some p.1 ∧ p.1 ≠ "" := by
    intro p hp
    obtain ⟨hname, q, hq, hqp⟩ := named_of_mem_declarations hp
    exact ⟨hname, hqp ▸ (hbody q hq).2.2⟩
  rw [collectInto_of_inherited has.named harguments hoptions hbound] at h
  obtain rfl := Except.ok.inj h
  have hnames : argumentsName ≠ optionsName := by decide
  constructor
  · simp [lookup_get_bind, hc, hnames]
  · simp [lookup_get_bind, hc]
  · exact members_gather has hdeclared
  · exact members_gather hos hdeclared

theorem inheritedItems_of_attribute? {d : Nat} {as : List (String × Declaration)}
    (h : u.attribute? c argumentsName = some (d, .value (.tuple (argumentItems as)))) :
    u.inheritedItems c = .ok (argumentItems as) := by
  rw [inheritedItems, h]
  rfl

theorem inheritedOptions_of_attribute? {d : Nat} {os : List (String × Declaration)}
    (h : u.attribute? c optionsName = some (d, .value (.map (optionEntries os)))) :
    u.inheritedOptions c = .ok (optionEntries os) := by
  rw [inheritedOptions, h]
  rfl

/-- What a body does not bind means on a class with one base what it means there. -/
theorem attribute?_of_notBound (hu : u.Sound) {b : Nat} (hbase : (u.get c).bases = [b])
    {body : List (String × Attribute)} (hbound : (u.get c).body = boundBody body) {name : String}
    (hbody : ∀ p ∈ body, p.1 ≠ name) : u.attribute? c name = u.attribute? b name :=
  attribute?_of_base hu hbase (hbound ▸ lookup_boundBody_eq_none hbody)

/-- A class that does not collect shows what its one base has collected. -/
theorem collects_of_base (hu : u.Sound) {b : Nat} (hbase : (u.get c).bases = [b])
    {as os : List (String × Declaration)} (hb : u.Collects b as os)
    {body : List (String × Attribute)} (hbody : Plain body)
    (hbound : (u.get c).body = boundBody body) : u.Collects c as os where
  arguments := attribute?_of_notBound hu hbase hbound (fun p hp => (hbody p hp).1) ▸ hb.arguments
  options := attribute?_of_notBound hu hbase hbound (fun p hp => (hbody p hp).2.1) ▸ hb.options
  membersArguments := hb.membersArguments
  membersOptions := hb.membersOptions

theorem stores_of_collectInto (hu : u.Sound) {b : Nat} (hbase : (u.get c).bases = [b])
    {as os : List (String × Declaration)} (hb : u.Collects b as os)
    {body : List (String × Attribute)} (hbody : Plain body)
    (hbound : (u.get c).body = boundBody body) (hc : c < u.classes.size)
    (h : u.collectInto c = .ok u') :
    u'.Stores c (gather .argument as (declarations (boundBody body)))
      (gather .option os (declarations (boundBody body))) := by
  have hinherited := collects_of_base hu hbase hb hbody hbound
  obtain ⟨k, hk⟩ := hinherited.arguments
  obtain ⟨l, hl⟩ := hinherited.options
  exact stores_of_inherited hb.membersArguments hb.membersOptions (inheritedItems_of_attribute? hk)
    (inheritedOptions_of_attribute? hl) hbody hbound hc h

/-! ## Whole universes -/

/-- The classes that were there before the last one was created are as they were. -/
def Extends (u u' : Universe) : Prop := ∀ d < u.classes.size, u'.get d = u.get d

theorem extends_push (u : Universe) (k : LiveClass) : u.Extends (u.push k) :=
  fun _ hd => get_push_of_ne u k (Nat.ne_of_lt hd)

theorem extends_create {module : Value} {path : String} {bases : List Nat}
    {body : List (String × Attribute)} (h : u.create module path bases body = .ok (u', c)) :
    u.Extends u' :=
  fun _ hd => get_create_of_ne h (Nat.ne_of_lt hd)

namespace Extends

variable {d : Nat}

theorem row (h : u.Extends u') (hd : d < u.classes.size) : u'.row d = u.row d := by
  rw [Universe.row, Universe.row, h d hd]

theorem isGenerator (h : u.Extends u') (hd : d < u.classes.size) :
    u'.isGenerator d = u.isGenerator d := by
  rw [Universe.isGenerator, Universe.isGenerator, h.row hd]

theorem attribute? (h : u.Extends u') (hu : u.Sound) (hd : d < u.classes.size) (name : String) :
    u'.attribute? d name = u.attribute? d name :=
  attribute?_congr (h.row hd) fun e he => by rw [h e (hu.lt_size_of_mem_row hd he)]

theorem collects_iff (h : u.Extends u') (hu : u.Sound) (hd : d < u.classes.size)
    {as os : List (String × Declaration)} : u'.Collects d as os ↔ u.Collects d as os :=
  ⟨fun hc => hc.congr (h.attribute? hu hd _).symm (h.attribute? hu hd _).symm,
    fun hc => hc.congr (h.attribute? hu hd _) (h.attribute? hu hd _)⟩

end Extends

/-- Every generator on a line has collected its members, with those of its base in front. -/
def Layered (u : Universe) : Prop :=
  ∀ c, u.Lineage c → ∃ as os, u.Collects c as os ∧
    ∀ b as' os', (u.get c).bases = [b] → u.Collects b as' os' →
      as'.map Prod.fst <+: as.map Prod.fst ∧ os'.map Prod.fst <+: os.map Prod.fst

theorem Layered.congr {v : Universe} (h : u.Layered) (hshape : u.SameShape v)
    (hlookup : ∀ c name, name = argumentsName ∨ name = optionsName →
      (v.get c).body.lookup name = (u.get c).body.lookup name) : v.Layered := by
  have hsame : ∀ c name, name = argumentsName ∨ name = optionsName →
      v.attribute? c name = u.attribute? c name := fun c name hname =>
    attribute?_congr (hshape.row c) fun d _ => hlookup d name hname
  have hcollects : ∀ {c as os}, u.Collects c as os → v.Collects c as os :=
    fun {c as os} hc => hc.congr (hsame c _ (Or.inl rfl)) (hsame c _ (Or.inr rfl))
  have hback : ∀ {c as os}, v.Collects c as os → u.Collects c as os :=
    fun {c as os} hc => hc.congr (hsame c _ (Or.inl rfl)).symm (hsame c _ (Or.inr rfl)).symm
  intro c hc
  obtain ⟨as, os, hcollected, hbase⟩ := h c (hc.congr fun _ => (hshape.bases _).symm)
  refine ⟨as, os, hcollects hcollected, fun b as' os' hb hb' => ?_⟩
  exact hbase b as' os' ((hshape.bases c).symm.trans hb) (hback hb')

theorem layer_of_base {b : Nat} {as os as' os' : List (String × Declaration)}
    (h : u.Collects c as os) (hbase : (u.get c).bases = [b]) (hb : u.Collects b as' os')
    (has : as'.map Prod.fst <+: as.map Prod.fst) (hos : os'.map Prod.fst <+: os.map Prod.fst) :
    ∃ as os, u.Collects c as os ∧
      ∀ b as' os', (u.get c).bases = [b] → u.Collects b as' os' →
        as'.map Prod.fst <+: as.map Prod.fst ∧ os'.map Prod.fst <+: os.map Prod.fst := by
  refine ⟨as, os, h, fun d ds es hd hds => ?_⟩
  obtain rfl : b = d := by simpa using hbase.symm.trans hd
  obtain ⟨rfl, rfl⟩ := hb.unique hds
  exact ⟨has, hos⟩

/-- The members that some bindings declare. -/
def declared (bindings : List (String × Attribute)) : List (String × Declaration) :=
  declarations (boundBody bindings)

def rootOptions : List (String × Attribute) := [switch "pretend" false, switch "quiet" false]

def namedArguments : List (String × Attribute) := [bound .argument "name" .string none]

def namedOptions : List (String × Attribute) :=
  rootOptions ++ [switch "skip_namespace" false, switch "force" false]

def modelArguments : List (String × Attribute) :=
  namedArguments ++ [bound .argument "attributes" .array (some (.list []))]

def modelOptions : List (String × Attribute) :=
  namedOptions ++ [switch "timestamps" true, bound .option "parent" .string none]

theorem collects_generator : builtIn.Collects generatorId [] (declared rootOptions) :=
  ⟨⟨_, rfl⟩, ⟨_, rfl⟩, ⟨by decide, by decide, by decide⟩, ⟨by decide, by decide, by decide⟩⟩

theorem collects_named : builtIn.Collects namedId (declared namedArguments)
    (declared namedOptions) :=
  ⟨⟨_, rfl⟩, ⟨_, rfl⟩, ⟨by decide, by decide, by decide⟩, ⟨by decide, by decide, by decide⟩⟩

theorem collects_model : builtIn.Collects modelId (declared modelArguments)
    (declared modelOptions) :=
  ⟨⟨_, rfl⟩, ⟨_, rfl⟩, ⟨by decide, by decide, by decide⟩, ⟨by decide, by decide, by decide⟩⟩

theorem layered_builtIn : builtIn.Layered := by
  intro c hc
  have hlt : c < 4 := hc.lt_size sound_builtIn
  have hne : c ≠ objectId := by
    rintro rfl
    exact not_isGenerator_objectId sound_builtIn (hc.isGenerator sound_builtIn)
  obtain rfl | rfl | rfl : c = generatorId ∨ c = namedId ∨ c = modelId := by
    unfold objectId at hne
    unfold generatorId namedId modelId
    omega
  · refine ⟨[], declared rootOptions, collects_generator, fun b as' os' hb hb' => ?_⟩
    obtain rfl : objectId = b := by simpa using sound_builtIn.generator.symm.trans hb
    obtain ⟨k, hk⟩ := hb'.arguments
    have hnone : builtIn.attribute? objectId argumentsName = none := rfl
    exact absurd (hnone.symm.trans hk) (by simp)
  · exact layer_of_base collects_named (b := generatorId) rfl collects_generator (by decide)
      (by decide)
  · exact layer_of_base collects_model (b := namedId) rfl collects_named (by decide) (by decide)

/-- The classes of a line that were there before the last one was created. -/
theorem Lineage.of_push (hu : u'.Sound) (hsame : ∀ d, d ≠ u.classes.size → u'.get d = u.get d)
    (h : u'.Lineage c) (hc : c < u.classes.size) : u.Lineage c := by
  induction h with
  | root => exact .root
  | @child c b hbase h ih =>
      have hb : b < c := hu.lt (hu.mem (by simp [hbase]))
      rw [hsame c (Nat.ne_of_lt hc)] at hbase
      exact .child hbase (ih (Nat.lt_trans hb hc))

/-- A new class below a line collects at least what its base has. -/
theorem collects_of_create (hu : u.Sound) (hu' : u'.Sound) {module : Value} {path : String}
    {bases : List Nat} {body : List (String × Attribute)} (hbody : Plain body)
    (hcreate : u.create module path bases body = .ok (u', c)) {b : Nat}
    (hbase : (u'.get c).bases = [b]) (hlt : b < u.classes.size)
    {as os : List (String × Declaration)} (hcollected : u.Collects b as os) :
    ∃ as' os', u'.Collects c as' os' ∧ as.map Prod.fst <+: as'.map Prod.fst ∧
      os.map Prod.fst <+: os'.map Prod.fst := by
  have hb : u'.Collects b as os := ((extends_create hcreate).collects_iff hu hlt).mpr hcollected
  obtain ⟨rfl, ancestry, -, collects, -, hcases⟩ := create_eq_ok hcreate
  generalize hk : LiveClass.mk module path (lastPart path) (basesOf bases) ancestry
    (boundBody body) = k at hcases
  cases collects with
  | true =>
      have hshape := sameShape_collectInto hcases
      have hstores := stores_of_collectInto (hu'.congr hshape.symm)
        ((hshape.bases _).symm.trans hbase)
        (((extends_push u k).collects_iff hu hlt).mpr hcollected) hbody
        (by rw [get_push_self, ← hk]) (by simp) hcases
      exact ⟨_, _, hstores.collects, names_prefix_gather, names_prefix_gather⟩
  | false =>
      -- The members of the base are all that the class shows.
      obtain rfl : u' = u.push k := hcases
      exact ⟨as, os, collects_of_base hu' hbase hb hbody (by rw [get_push_self, ← hk]),
        List.prefix_refl _, List.prefix_refl _⟩

theorem Layered.create (h : u.Layered) (hu : u.Sound) {module : Value} {path : String}
    {bases : List Nat} {body : List (String × Attribute)}
    (hbases : ∀ b ∈ bases, b < u.classes.size) (hbody : u'.isGenerator c → Plain body)
    (hcreate : u.create module path bases body = .ok (u', c)) : u'.Layered := by
  have hu' : u'.Sound := hu.create hbases hcreate
  have hextends : u.Extends u' := extends_create hcreate
  have hsame : ∀ d, d ≠ u.classes.size → u'.get d = u.get d :=
    fun d hd => get_create_of_ne hcreate hd
  intro d hd
  by_cases hnew : d = u.classes.size
  · obtain rfl : d = c := hnew.trans (create_eq_ok hcreate).1.symm
    have hne : d ≠ generatorId := hnew ▸ Nat.ne_of_gt hu.generatorId_lt
    obtain ⟨b, hbase, hb⟩ := hd.exists_base hne
    have hlt : b < u.classes.size := hnew ▸ hu'.lt (hu'.mem (by simp [hbase]))
    obtain ⟨as, os, hcollected, -⟩ := h b (hb.of_push hu' hsame hlt)
    obtain ⟨as', os', hd', has, hos⟩ := collects_of_create hu hu' (hbody (hd.isGenerator hu'))
      hcreate hbase hlt hcollected
    exact layer_of_base hd' hbase ((hextends.collects_iff hu hlt).mpr hcollected) has hos
  · have hold : d < u.classes.size := by
      obtain ⟨k, hshape, -⟩ := sameShape_create hcreate
      have hsize := hd.lt_size hu'
      rw [hshape.size, size_push] at hsize
      omega
    obtain ⟨as, os, hcollected, hbase⟩ := h d (hd.of_push hu' hsame hold)
    refine ⟨as, os, (hextends.collects_iff hu hold).mpr hcollected, fun b as' os' hb hb' => ?_⟩
    have hlt : b < d := hu'.lt (hu'.mem (by simp [hb]))
    rw [hsame d hnew] at hb
    exact hbase b as' os' hb ((hextends.collects_iff hu (Nat.lt_trans hlt hold)).mp hb')

theorem Grown.layered (h : Grown u) : u.Layered := by
  induction h with
  | builtIn => exact layered_builtIn
  | create h hbases hbody hcreate ih => exact ih.create h.sound hbases hbody hcreate
  | @nest u c d name h hname ih =>
      refine ih.congr (sameShape_bind _ _ _ _) fun e other hother => ?_
      rw [lookup_get_bind, if_neg]
      rintro ⟨-, rfl⟩
      exact hother.elim hname.1 hname.2
  | known h modules ih =>
      exact ih.congr ⟨rfl, fun _ => rfl, fun _ => rfl, fun _ => rfl⟩ fun _ _ _ => rfl

theorem Grown.exists_collects (h : Grown u) (hc : u.Lineage c) : ∃ as os, u.Collects c as os := by
  obtain ⟨as, os, hcollected, -⟩ := h.layered c hc
  exact ⟨as, os, hcollected⟩

/-- Along a whole line the members keep their names and places. -/
theorem Grown.names_prefix (h : Grown u) (hc : u.Lineage c) {b : Nat} (hb : b ∈ u.row c)
    (hbline : u.Lineage b) {as os as' os' : List (String × Declaration)}
    (hcollected : u.Collects c as os) (hbase : u.Collects b as' os') :
    as'.map Prod.fst <+: as.map Prod.fst ∧ os'.map Prod.fst <+: os.map Prod.fst := by
  have hself : ∀ {d as os}, u.Collects d as os → b = d →
      as'.map Prod.fst <+: as.map Prod.fst ∧ os'.map Prod.fst <+: os.map Prod.fst := by
    rintro d as os hd rfl
    obtain ⟨rfl, rfl⟩ := hd.unique hbase
    exact ⟨List.prefix_refl _, List.prefix_refl _⟩
  induction hc generalizing as os with
  | root =>
      rw [h.sound.row_generatorId] at hb
      rcases List.mem_cons.mp hb with heq | heq
      · exact hself hcollected heq
      · refine absurd (hbline.isGenerator h.sound) ?_
        rw [List.mem_singleton.mp heq]
        exact not_isGenerator_objectId h.sound
  | @child c d hd hline ih =>
      rcases List.mem_cons.mp hb with heq | hmem
      · exact hself hcollected heq
      · rw [h.sound.single hd] at hmem
        obtain ⟨ds, es, hds⟩ := h.exists_collects hline
        obtain ⟨has, hos⟩ := ih hmem hds
        obtain ⟨as₀, os₀, hc₀, hlayer⟩ := h.layered c (.child hd hline)
        obtain ⟨rfl, rfl⟩ := hc₀.unique hcollected
        obtain ⟨has', hos'⟩ := hlayer d ds es hd hds
        exact ⟨has.trans has', hos.trans hos'⟩

/-- The root of all classes collects nothing. -/
theorem Grown.lookup_objectId (h : Grown u) {name : String}
    (hname : name = argumentsName ∨ name = optionsName) :
    (u.get objectId).body.lookup name = none := by
  induction h with
  | builtIn =>
      rcases hname with rfl | rfl
      · rfl
      · rfl
  | @create u u' module path bases body c h hbases hbody hcreate ih =>
      have hne : objectId ≠ u.classes.size := by
        have hlt := h.sound.generatorId_lt
        unfold generatorId at hlt
        unfold objectId
        omega
      rw [get_create_of_ne hcreate hne]
      exact ih
  | @nest u c d other h hother ih =>
      rw [lookup_get_bind, if_neg]
      · exact ih
      · rintro ⟨-, rfl⟩
        exact hname.elim hother.1 hother.2
  | known h modules ih => exact ih

end Universe

end TypeStubs.Scaffold
