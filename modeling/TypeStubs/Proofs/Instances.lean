import TypeStubs.Proofs.Binding
import TypeStubs.Proofs.Restoring

/-!
# What instances hold

A call of a generator binds each collected member to what is supplied for it, or else to its
default. Hence an attribute whose accessor is not optional is null only if its default is null and
nothing was supplied.
-/

namespace TypeStubs

namespace Scaffold

/-! ## Names of declarations -/

namespace Universe

variable {u u' : Universe}

/-- The declarations in class bodies know the names they are bound to. -/
def Attached (u : Universe) : Prop :=
  ∀ c, ∀ p ∈ (u.get c).body, ∀ d, p.2 = .value (.member d) → d.name = some p.1

theorem Attached.bind (h : u.Attached) {c : Nat} {name : String} {a : Attribute}
    (ha : ∀ d, a ≠ .value (.member d)) : (u.bind c name a).Attached := by
  intro e p hp d hd
  rw [get_bind] at hp
  split at hp
  · rcases LiveClass.mem_bind hp with rfl | hp
    · exact (ha d hd).elim
    · exact h e p hp d hd
  · exact h e p hp d hd

theorem Attached.push (h : u.Attached) {k : LiveClass}
    (hk : ∀ p ∈ k.body, ∀ d, p.2 = .value (.member d) → d.name = some p.1) :
    (u.push k).Attached :=
  forall_get_push (P := fun _ k => ∀ p ∈ k.body, ∀ d, p.2 = .value (.member d) → d.name = some p.1)
    hk h

theorem Attached.create (h : u.Attached) {module : Value} {path : String} {bases : List Nat}
    {body : List (String × Attribute)} {c : Nat}
    (hcreate : u.create module path bases body = .ok (u', c)) : u'.Attached := by
  obtain ⟨rfl, ancestry, -, collects, -, hcases⟩ := create_eq_ok hcreate
  have hpushed := h.push
    (k := ⟨module, path, lastPart path, basesOf bases, ancestry, boundBody body⟩)
    fun p hp d hd => (named_of_mem_declarations (mem_declarations hp hd)).1
  split at hcases
  · obtain ⟨items, entries, arguments, options, -, -, -, rfl⟩ := collectInto_eq_ok hcases
    exact (hpushed.bind fun d => by simp).bind fun d => by simp
  · rw [hcases]
    exact hpushed

theorem attached_builtIn : builtIn.Attached := by
  have hnamed : ∀ c < 4, ∀ p ∈ declarations (builtIn.get c).body, p.2.name = some p.1 := by
    decide +kernel
  refine forall_get_builtIn
    (P := fun _ k => ∀ p ∈ k.body, ∀ d, p.2 = .value (.member d) → d.name = some p.1) ?_
    (by simp [LiveClass.blank])
  intro c hc p hp d hd
  exact hnamed c hc (p.1, d) (mem_declarations hp hd)

theorem Grown.attached (h : Grown u) : u.Attached := by
  induction h with
  | builtIn => exact attached_builtIn
  | create h hbases hbody hcreate ih => exact ih.create hcreate
  | nest h hname ih => exact ih.bind fun d => by simp
  | known h modules ih => exact ih

theorem Attached.name (h : u.Attached) {c k : Nat} {name : String} {d : Declaration}
    (hd : u.attribute? c name = some (k, .value (.member d))) : d.name = some name := by
  obtain ⟨e, -, hfound⟩ := List.exists_of_findSome?_eq_some hd
  obtain ⟨a, ha, hpair⟩ := Option.map_eq_some_iff.mp hfound
  obtain ⟨rfl, rfl⟩ := Prod.mk.inj hpair
  exact h e _ (LiveClass.mem_of_lookup ha) d rfl

/-! ## Constructors -/

theorem Grown.isSome_lookup_constructorName (h : Grown u) :
    ((u.get generatorId).body.lookup constructorName).isSome := by
  induction h with
  | builtIn => rfl
  | create h hbases hbody hcreate ih =>
      rwa [get_create_of_ne hcreate (Nat.ne_of_lt h.sound.generatorId_lt)]
  | nest h hname ih =>
      rw [lookup_get_bind]
      split
      · rfl
      · exact ih
  | known h modules ih => exact ih

/-- Whatever a generator has under the name of the constructor, there is something. -/
theorem Grown.isSome_constructor (h : Grown u) {c : Nat} (hc : u.isGenerator c) :
    (u.attribute? c constructorName).isSome :=
  isSome_attribute? (isGenerator_iff.mp hc) h.isSome_lookup_constructorName

end Universe

/-! ## Reading members -/

namespace Instance

variable {u : Universe} {k : Nat} {name : String} {v : Value}

theorem get_valuesSlot {c : Nat} {values : List (Value × Value)}
    (h : u.attribute? c valuesSlot = some (k, .value v)) :
    (Instance.mk c (some values)).get u valuesSlot = .ok (.map values) := by
  rw [get, read_eq_readPlain h]
  rfl

/-- A declaration reads what is bound under its name. -/
theorem get_of_member {c : Nat} {values : List (Value × Value)} {d : Declaration}
    (h : u.attribute? c name = some (k, .value (.member d))) (hd : d.name = some name)
    (hname : name ≠ valuesSlot) :
    (Instance.mk c (some values)).get u name =
      .ok ((Value.lookup? (.text name) values).getD .null) := by
  rw [get, read_eq_readBound h hname, readBound, hd]
  rfl

end Instance

/-- A declaration in a class body reads as null only if null is bound under its name. -/
theorem Instance.get_of_bound {u : Universe} (hu : u.Grown) {c k : Nat} {name : String}
    {values : List (Value × Value)} {d : Declaration}
    (h : u.attribute? c name = some (k, .value (.member d))) {v : Value}
    (hv : Value.lookup? (.text name) values = some v) :
    ∃ v', (Instance.mk c (some values)).get u name = .ok v' ∧ (v' = .null → v = .null) := by
  by_cases hname : name = valuesSlot
  · -- The attribute in which values are kept is not covered by a declaration of its name.
    subst hname
    exact ⟨_, get_valuesSlot h, by simp⟩
  · refine ⟨v, ?_, id⟩
    rw [get_of_member h (hu.attached.name h) hname, hv]
    rfl

end Scaffold

/-! ## Accessors of a class -/

open Scaffold ClassNode StubTree

section Process

variable {u : Universe} {g : GeneratorCompiler} {c : Nat} {as os : List (String × Declaration)}

/-- The accessors that a class brings are those of members that it has collected. -/
theorem exists_member_of_verdict (h : u.Collects c as os) {s : Site} {added : Contribution}
    (hverdict : g.verdict (Live.reflection u .standard) c = .stub s added) {a : Accessor}
    (ha : a ∈ added.accessors) : ∃ p ∈ as ++ os, a = ⟨p.1, (specOf p).accessorType⟩ := by
  obtain ⟨base, added', -, hadded, -, hplacing⟩ :=
    GeneratorCompiler.verdict_eq_placing hverdict (by simp) (by simp)
  obtain ⟨rfl, -⟩ := Reflection.placing_eq_stub hplacing.symm
  obtain ⟨harguments, hoptions⟩ := GeneratorCompiler.sublist_of_contribution
    (Live.arguments_of_collects h) (Live.options_of_collects h) hadded
  rcases List.mem_append.mp ha with ha | ha
  · obtain ⟨x, hx, rfl⟩ := List.mem_map.mp ha
    obtain ⟨p, hp, rfl⟩ := List.mem_map.mp (harguments.subset hx)
    exact ⟨p, List.mem_append_left os hp, rfl⟩
  · obtain ⟨x, hx, rfl⟩ := List.mem_map.mp ha
    obtain ⟨p, hp, rfl⟩ := List.mem_map.mp (hoptions.subset hx)
    exact ⟨p, List.mem_append_right as hp, rfl⟩

/-- What is at a class after it is processed was there before or stands for one of its members. -/
theorem exists_member_of_process (h : u.Collects c as os) {w w' : Workbench}
    (hprocess : (g.process (Live.reflection u .standard) c).perform w = (.ok (), w'))
    {s : Site} {n : ClassNode} (hn : w'.tree.at? s = some n) {a : Accessor} (ha : a ∈ n.accessors)
    (hnew : a ∉ (w.tree.accessorsAt s.module s.path).getD []) :
    ∃ p ∈ as ++ os, a = ⟨p.1, (specOf p).accessorType⟩ := by
  obtain ⟨houtcome, htree⟩ := g.process_does (Live.reflection u .standard) c w
  rw [hprocess] at houtcome htree
  have hthere : a ∈ (w'.tree.accessorsAt s.module s.path).getD [] := by
    rw [accessorsAt_eq_map_at?, hn]
    exact ha
  cases hverdict : g.verdict (Live.reflection u .standard) c with
  | nothing =>
      rw [hverdict] at htree
      have hsame : w'.tree = w.tree := htree
      exact (hnew (hsame ▸ hthere)).elim
  | fault f => simp [hverdict, Verdict.outcome] at houtcome
  | stuck module f => simp [hverdict, Verdict.outcome] at houtcome
  | stub s' added =>
      rw [hverdict] at htree
      have hputs : w'.tree = putAt [(s', added.accessors)] w.tree := htree
      rw [hputs, getD_accessorsAt_putAt, foldl_putAll] at hthere
      obtain hset | hold := mem_of_mem_putAll hthere
      · obtain ⟨given, hgiven, ha⟩ := List.mem_flatten.mp hset
        obtain ⟨e, he, rfl⟩ := List.mem_map.mp hgiven
        obtain rfl := List.mem_singleton.mp (List.mem_filter.mp he).1
        exact exists_member_of_verdict h hverdict ha
      · exact (hnew hold).elim

/-- An accessor type that is not written as optional belongs to a member that is never unbound. -/
theorem bound_of_render_ne {p : String × Declaration}
    (h : ∀ t, (specOf p).accessorType.render ≠ "Optional[" ++ t ++ "]") :
    p.2.required ∨ p.2.default.isSome := by
  by_contra hunbound
  apply h (specOf p).accessorType.base
  have hnilable : (specOf p).accessorType.nilable = true := by
    simpa [ArgumentSpec.accessorType, specOf, Declared.hasDefault] using hunbound
  unfold Annotation.render
  rw [if_pos hnilable]

end Process

section Reading

variable {u : Universe} {g : GeneratorCompiler} {c : Nat} {as os : List (String × Declaration)}
  {args options : Option Value} {given : List Value} {supplied : List (Value × Value)}

end Reading

/-- What a note says of itself. -/
def noteArguments : List (String × Attribute) := [bound .argument "topic" .string none]

def noteOptions : List (String × Attribute) := [bound .option "title" .string (some .null)]

/-- A generator of notes. A note needs a topic, and its title is null unless it is given. -/
def noted : Universe :=
  builtIn.declare ⟨"app", "Note", [Universe.generatorId], noteArguments ++ noteOptions⟩

theorem grown_noted : noted.Grown :=
  .declare .builtIn (by decide +kernel) (by decide) (by decide +kernel)

theorem lineage_noted : noted.Lineage 4 :=
  .child (b := Universe.generatorId) (by decide +kernel) .root

theorem collects_noted : noted.Collects 4 (Universe.declared noteArguments)
    (Universe.declared (Universe.rootOptions ++ noteOptions)) :=
  ⟨⟨_, rfl⟩, ⟨_, rfl⟩, ⟨by decide, by decide, by decide⟩, ⟨by decide, by decide, by decide⟩⟩

def plansNote : Instance :=
  ⟨4, some [(.text "topic", .text "plans"), (.text "pretend", .bool false),
    (.text "quiet", .bool false), (.text "title", .null)]⟩

theorem instantiate_noted :
    instantiate noted 4 (some (.list [.text "plans"])) none = .ok plansNote := rfl

/-- The type of an accessor that gives a text. -/
def textual : Annotation := ⟨"str", false⟩

/-- The class of notes after it was processed. -/
def noteNode : ClassNode := ⟨"Note", [⟨"topic", textual⟩, ⟨"title", textual⟩], []⟩

theorem perform_noted : ∃ w, (scaffoldCompiler.process (Live.reflection noted .standard) 4).perform
    ⟨.empty, #[]⟩ = (.ok (), w) ∧ w.tree.at? ⟨"app", "Note", []⟩ = some noteNode :=
  ⟨_, rfl, rfl⟩

theorem render_textual_ne (t : String) : textual.render ≠ "Optional[" ++ t ++ "]" := by
  intro h
  have hchars := congrArg String.toList h
  simp [textual, Annotation.render] at hchars

end TypeStubs
