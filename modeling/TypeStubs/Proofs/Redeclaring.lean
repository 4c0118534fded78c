import TypeStubs.Proofs.Accessors
import TypeStubs.Proofs.Inheritance

/-!
# Members declared again

Along a line of generators members are declared, and declared again, in one body after another. What
the last class has collected depends on the declarations alone, read from the root on: a name stands
where it first came up as a member of the kind and is what it was last declared as.
-/

namespace TypeStubs.Scaffold

open ClassNode (eraseDups_concat)

/-! ## Members put one after another -/

def declaredAs (kind : MemberKind) (ds : List (String × Declaration)) :
    List (String × Declaration) :=
  ds.filter fun p => p.2.kind = kind

/-- `ms` holds one member for each name that is declared as one of the kind in `ds`. The names come
in the order in which each was first declared so, and each member is the last one of its name. -/
structure LastInPlace (kind : MemberKind) (ds ms : List (String × Declaration)) : Prop where
  nodup : (ms.map Prod.fst).Nodup
  names : ms.map Prod.fst = ((declaredAs kind ds).map Prod.fst).eraseDups
  last : ∀ p ∈ ms, ((declaredAs kind ds).filter fun q => q.1 = p.1).getLast? = some p
  named : ∀ p ∈ ms, p.2.name = some p.1

theorem LastInPlace.unique {kind : MemberKind} {ds ms ms' : List (String × Declaration)}
    (h : LastInPlace kind ds ms) (h' : LastInPlace kind ds ms') : ms = ms' := by
  have hlength : ms.length = ms'.length := by
    simpa using congrArg List.length (h.names.trans h'.names.symm)
  apply List.ext_getElem hlength
  intro i hi hi'
  have hname : (ms[i]).1 = (ms'[i]).1 := by
    have hboth := h.names.trans h'.names.symm
    simpa [hi, hi'] using congrArg (·[i]?) hboth
  have hlast := h.last _ (List.getElem_mem hi)
  rw [hname, h'.last _ (List.getElem_mem hi')] at hlast
  exact (Option.some.inj hlast).symm

theorem gather_append (kind : MemberKind) (inherited own more : List (String × Declaration)) :
    gather kind inherited (own ++ more) = gather kind (gather kind inherited own) more := by
  simp [gather]

section Fold

variable {α : Type} (ps : List (String × α))

theorem map_fst_foldl_bind :
    (ps.foldl (fun done p => LiveClass.bind p.1 p.2 done) []).map Prod.fst =
      (ps.map Prod.fst).eraseDups := by
  induction ps using List.reverseRecOn with
  | nil => rfl
  | append_singleton ps p ih =>
      rw [List.foldl_append, List.foldl_cons, List.foldl_nil, LiveClass.map_fst_bind, ih,
        List.map_append, List.map_singleton, eraseDups_concat]
      simp only [List.mem_eraseDups]

theorem lookup_foldl_bind (name : String) :
    (ps.foldl (fun done p => LiveClass.bind p.1 p.2 done) []).lookup name =
      ((ps.filter fun p => p.1 = name).getLast?).map Prod.snd := by
  induction ps using List.reverseRecOn with
  | nil => rfl
  | append_singleton ps p ih =>
      rw [List.foldl_append, List.foldl_cons, List.foldl_nil, LiveClass.lookup_bind,
        List.filter_append, List.getLast?_append]
      by_cases hname : p.1 = name
      · simp [hname]
      · simp [hname, Ne.symm hname, ih]

end Fold

/-- Each member is put in the place of the one of its name, or behind the others. So the names come
in the order of their first declarations, each with the last one. -/
theorem lastInPlace_gather (kind : MemberKind) {ds : List (String × Declaration)}
    (h : ∀ p ∈ ds, p.2.name = some p.1) : LastInPlace kind ds (gather kind [] ds) := by
  have hnodup : ((gather kind [] ds).map Prod.fst).Nodup := nodup_foldl_bind _ [] List.nodup_nil
  have hlast : ∀ p ∈ gather kind [] ds,
      ((declaredAs kind ds).filter fun q => q.1 = p.1).getLast? = some p := by
    intro p hp
    have hfound := (Universe.lookup_eq_some_iff_mem hnodup).mpr hp
    rw [gather, lookup_foldl_bind] at hfound
    obtain ⟨q, hq, hmember⟩ := Option.map_eq_some_iff.mp hfound
    have hname : q.1 = p.1 := by
      simpa using (List.mem_filter.mp (List.mem_of_getLast? hq)).2
    exact hq.trans (congrArg some (Prod.ext hname hmember))
  refine ⟨hnodup, map_fst_foldl_bind _, hlast, fun p hp => ?_⟩
  have hmem := List.mem_of_getLast? (hlast p hp)
  exact h p (List.mem_of_mem_filter (List.mem_of_mem_filter hmem))

namespace Universe

variable {u u' : Universe} {c : Nat} {ds : List (String × Declaration)}

/-! ## Lines of class statements -/

/-- A name that a class body is free to bind: neither one of the attributes into which members are
collected nor one that the language keeps for itself. -/
def FreeName (name : String) : Prop :=
  name ≠ argumentsName ∧ name ≠ optionsName ∧ ¬ isReserved name

instance (name : String) : Decidable (FreeName name) :=
  inferInstanceAs (Decidable (name ≠ argumentsName ∧ name ≠ optionsName ∧ ¬ isReserved name))

/-- What a body on a line may bind. -/
def Free (body : List (String × Attribute)) : Prop := ∀ p ∈ body, FreeName p.1

instance (body : List (String × Attribute)) : Decidable (Free body) :=
  inferInstanceAs (Decidable (∀ p ∈ body, FreeName p.1))

/-- The class has been made by one class statement after another, each with the class before as its
one base; `bodies` are the bodies of these statements, that of the root of all generators first.
Other classes may have come about meanwhile. -/
inductive Descends : Universe → Nat → List (List (String × Attribute)) → Prop
  | builtIn {n : Nat} (h : n < 3) :
      Descends builtIn (generatorId + n) ((builtInForms.take (n + 1)).map ClassForm.body)
  | child {u u' : Universe} {b c : Nat} {bodies : List (List (String × Attribute))}
      {module : Value} {path : String} {body : List (String × Attribute)}
      (h : Descends u b bodies) (hbody : Free body)
      (hcreate : u.create module path [b] body = .ok (u', c)) : Descends u' c (bodies ++ [body])
  | other {u u' : Universe} {c d : Nat} {bodies : List (List (String × Attribute))}
      {module : Value} {path : String} {bases : List Nat} {body : List (String × Attribute)}
      (h : Descends u c bodies) (hbases : ∀ b ∈ bases, b < u.classes.size)
      (hcreate : u.create module path bases body = .ok (u', d)) : Descends u' c bodies
  | nest {u : Universe} {c d e : Nat} {bodies : List (List (String × Attribute))} {name : String}
      (h : Descends u c bodies) (hname : FreeName name) :
      Descends (u.bind d name (.nested e)) c bodies
  | known {u : Universe} {c : Nat} {bodies : List (List (String × Attribute))}
      (h : Descends u c bodies) (modules : List (String × List (String × Nat))) :
      Descends { u with modules } c bodies

/-- A class of a line that has collected the members `ds`, put one after another from nothing. -/
structure Gathers (u : Universe) (c : Nat) (ds : List (String × Declaration)) : Prop where
  sound : u.Sound
  line : u.Lineage c
  kept : u.Unreserved c
  arguments : (u.get c).body.lookup argumentsName =
    some (.value (.tuple (argumentItems (gather .argument [] ds))))
  options : (u.get c).body.lookup optionsName =
    some (.value (.map (optionEntries (gather .option [] ds))))
  named : ∀ p ∈ ds, p.2.name = some p.1

namespace Gathers

theorem lt_size (h : u.Gathers c ds) : c < u.classes.size := h.line.lt_size h.sound

theorem congr {v : Universe} (h : u.Gathers c ds) (hv : v.Sound) (hkept : v.Unreserved c)
    (hbases : ∀ d < u.classes.size, (v.get d).bases = (u.get d).bases)
    (hlookup : ∀ name, name = argumentsName ∨ name = optionsName →
      (v.get c).body.lookup name = (u.get c).body.lookup name) : v.Gathers c ds where
  sound := hv
  line := h.line.congr fun hd => hbases _ (hd.lt_size h.sound)
  kept := hkept
  arguments := (hlookup _ (Or.inl rfl)).trans h.arguments
  options := (hlookup _ (Or.inr rfl)).trans h.options
  named := h.named

theorem of_extends {v : Universe} (h : u.Gathers c ds) (hv : v.Sound) (hextends : u.Extends v) :
    v.Gathers c ds :=
  h.congr hv (hextends.unreserved_iff h.sound h.lt_size |>.mpr h.kept)
    (fun d hd => by rw [hextends d hd]) fun _ _ => by rw [hextends c h.lt_size]

/-- A new class above which there is a class of a line collects that one's members and its own. -/
theorem exists_collectInto {b : Nat} (h : u.Gathers b ds) {k : LiveClass} (hbases : k.bases = [b])
    (hancestry : k.ancestry = u.row b) {body : List (String × Attribute)} (hbody : Free body)
    (hbound : k.body = boundBody body) :
    ∃ v, (u.push k).collectInto u.classes.size = .ok v ∧
      v.Gathers u.classes.size (ds ++ declared body) := by
  have hsound : (u.push k).Sound := by
    apply h.sound.push
    · simp [hbases, h.lt_size]
    · simp [hbases]
    · rw [hbases, hancestry]
      exact h.sound.ancestry?_single b
  have hbase : (u.push k).Gathers b ds := h.of_extends hsound (extends_push u k)
  have hnew : ((u.push k).get u.classes.size).bases = [b] := by rw [get_push_self, hbases]
  have hown : ((u.push k).get u.classes.size).body = boundBody body := by
    rw [get_push_self, hbound]
  have hmeans : ∀ name, (∀ p ∈ body, p.1 ≠ name) →
      (u.push k).attribute? u.classes.size name = (u.push k).attribute? b name :=
    fun name hname => attribute?_of_notBound hsound hnew hown hname
  have harguments := inheritedItems_of_attribute?
    ((hmeans _ fun p hp => (hbody p hp).1).trans (attribute?_of_lookup hbase.arguments))
  have hoptions := inheritedOptions_of_attribute?
    ((hmeans _ fun p hp => (hbody p hp).2.1).trans (attribute?_of_lookup hbase.options))
  have hcollect := collectInto_of_inherited (lastInPlace_gather .argument h.named).named harguments
    hoptions hown
  -- To put members on top of those collected before is to put all of them one after another.
  rw [← gather_append, ← gather_append] at hcollect
  have hshape := sameShape_collectInto hcollect
  have hnames : argumentsName ≠ optionsName := by decide
  refine ⟨_, hcollect, hsound.congr hshape, ?_, ?_, ?_, ?_, ?_⟩
  · exact (Lineage.child hnew hbase.line).congr fun _ => hshape.bases _
  · refine (hbase.kept.below hsound hnew fun p hp => ?_).collectInto hcollect
    obtain ⟨q, hq, hname, -⟩ := exists_mem_of_mem_boundBody (hown ▸ hp)
    exact hname ▸ (hbody q hq).2.2
  · simp [lookup_get_bind, hnames, declared]
  · simp [lookup_get_bind, declared]
  · intro p hp
    rcases List.mem_append.mp hp with hp | hp
    · exact h.named p hp
    · exact (named_of_mem_declarations hp).1

theorem exists_create {b : Nat} (h : u.Gathers b ds) {body : List (String × Attribute)}
    (hbody : Free body) (module : Value) {path : String}
    (hpath : Char.ofNat 0 ∉ (lastPart path).toList) :
    ∃ v, u.create module path [b] body = .ok (v, u.classes.size) ∧
      v.Gathers u.classes.size (ds ++ declared body) := by
  obtain ⟨v, hcollect, hv⟩ := h.exists_collectInto
    (k := ⟨module, path, lastPart path, [b], u.row b, boundBody body⟩) rfl rfl hbody rfl
  refine ⟨v, ?_, hv⟩
  have hgenerator : generatorId ∈ u.row b := isGenerator_iff.mp (h.line.isGenerator h.sound)
  have habove : ancestry? (basesOf [b]) u.row = some (u.row b) := h.sound.ancestry?_single b
  have hsame := extends_push u
    ⟨module, path, lastPart path, basesOf [b], u.row b, boundBody body⟩
  have hkept := (hsame.unreserved_iff h.sound h.lt_size).mpr h.kept
  have hrow := hsame.row h.lt_size
  have htold := tell_eq hkept.hook fun k hk hne =>
    hkept.lookup_eq_none hk (by decide) fun heq => (hne heq).elim
  rw [hrow, decide_eq_true hgenerator] at htold
  rw [create_eq, formFault?_eq_none (fun p hp => (hbody p hp).2.2) hpath, habove]
  dsimp only
  rw [htold, ok_bind, if_pos rfl, show basesOf [b] = [b] from rfl, hcollect]
  rfl

end Gathers

theorem gathers_builtIn {n : Nat} (h : n < 3) : builtIn.Gathers (generatorId + n)
    (((builtInForms.take (n + 1)).map ClassForm.body).flatMap declared) := by
  obtain rfl | rfl | rfl : n = 0 ∨ n = 1 ∨ n = 2 := by omega
  · exact ⟨sound_builtIn, .root, ⟨by decide +kernel, rfl, rfl⟩, rfl, rfl, by decide⟩
  · exact ⟨sound_builtIn, .child (b := generatorId) rfl .root, ⟨by decide +kernel, rfl, rfl⟩, rfl,
      rfl, by decide⟩
  · exact ⟨sound_builtIn, .child (b := namedId) rfl (.child (b := generatorId) rfl .root),
      ⟨by decide +kernel, rfl, rfl⟩, rfl, rfl, by decide⟩

namespace Descends

variable {bodies : List (List (String × Attribute))}

/-- Each class of a line has collected the members of the bodies so far. -/
theorem gathers (h : Descends u c bodies) : u.Gathers c (bodies.flatMap declared) := by
  induction h with
  | builtIn h => exact gathers_builtIn h
  | @child u u' b c bodies module path body h hbody hcreate ih =>
      -- A class was created, so nothing is wrong with its name.
      have hpath : Char.ofNat 0 ∉ (lastPart path).toList := notMem_of_create hcreate
      obtain ⟨v, hv, hgathers⟩ := ih.exists_create hbody module hpath
      obtain ⟨rfl, rfl⟩ := Prod.mk.inj (Except.ok.inj (hv.symm.trans hcreate))
      simpa using hgathers
  | other h hbases hcreate ih =>
      exact ih.of_extends (ih.sound.create hbases hcreate) (extends_create hcreate)
  | @nest u c d e bodies name h hname ih =>
      have hshape := sameShape_bind u d name (.nested e)
      refine ih.congr (ih.sound.congr hshape) (ih.kept.bind hname.2.2) (fun d _ => hshape.bases d)
        fun other hother => ?_
      rw [lookup_get_bind, if_neg]
      rintro ⟨-, rfl⟩
      exact hother.elim hname.1 hname.2.1
  | known h modules ih =>
      exact ih.congr (ih.sound.congr ⟨rfl, fun _ => rfl, fun _ => rfl, fun _ => rfl⟩)
        ⟨ih.kept.names, ih.kept.hook, ih.kept.init⟩ (fun _ _ => rfl) fun _ _ => rfl

theorem register (h : Descends u c bodies) (module : String) (d : Nat)
    (hname : ∀ name ∈ Text.segments (u.get d).path, FreeName name) :
    Descends (u.register module d) c bodies := by
  obtain ⟨modules, hknown | ⟨e, name, hmem, hnested⟩⟩ := u.register_cases module d
  · rw [hknown]
    exact h.known modules
  · rw [hnested]
    exact (h.known modules).nest (hname name hmem)

theorem declare {b : Nat} (h : Descends u b bodies) {form : ClassForm} (hbase : form.bases = [b])
    (hbody : Free form.body) (hpath : Char.ofNat 0 ∉ (lastPart form.path).toList)
    (hname : ∀ name ∈ Text.segments form.path, FreeName name) (hc : u.classes.size = c) :
    Descends (u.declare form) c (bodies ++ [form.body]) := by
  subst hc
  obtain ⟨v, hv, -⟩ := h.gathers.exists_create hbody (.text form.module) hpath
  rw [← hbase] at hv
  rw [Universe.declare, hv]
  refine (h.child hbody (hbase ▸ hv)).register form.module _ ?_
  rw [path_create hv]
  exact hname

/-- The root of all generators declares two options, and these come first in every class below. -/
theorem exists_rootOptions (h : Descends u c bodies) :
    ∃ rest, bodies.flatMap declared = declared rootOptions ++ rest := by
  induction h with
  | @builtIn n h =>
      obtain rfl | rfl | rfl : n = 0 ∨ n = 1 ∨ n = 2 := by omega
      · exact ⟨_, rfl⟩
      · exact ⟨_, rfl⟩
      · exact ⟨_, rfl⟩
  | @child u u' b c bodies module path body h hbody hcreate ih =>
      obtain ⟨rest, hrest⟩ := ih
      exact ⟨rest ++ declared body, by simp [hrest]⟩
  | other h hbases hcreate ih => exact ih
  | nest h hname ih => exact ih
  | known h modules ih => exact ih

end Descends

end Universe

open Universe

variable {u : Universe} {c : Nat} {bodies : List (List (String × Attribute))}

def upperForm : ClassForm := ⟨"app", "Upper", [generatorId], []⟩

def lowerForm : ClassForm := ⟨"app", "Lower", [4], [bound .argument "size" .numeric none]⟩

/-- A class of a line in which a nested class stands in the place of the function that is told of
new classes, and a class below it. -/
def unheard : Universe :=
  ((builtIn.declare upperForm).declare ⟨"app", "Upper.__init_subclass__", [], []⟩).declare lowerForm

def unheardBodies : List (List (String × Attribute)) :=
  (builtInForms.take 1).map ClassForm.body ++ [upperForm.body] ++ [lowerForm.body]

def sizedForm : ClassForm :=
  ⟨"app", "Sized", [generatorId], [bound .argument "size" .numeric none,
    bound .argument "note" .string none, bound .option "title" .string none]⟩

def shadowingForm : ClassForm :=
  ⟨"app", "Shadowing", [4], [bound .option "size" .boolean none, ("note", .value .null),
    ("title", .value .null)]⟩

def renewedForm : ClassForm :=
  ⟨"app", "Renewed", [5], [bound .argument "title" .array none, bound .argument "size" .string none,
    switch "quiet" true]⟩

/-- Three classes, each below the one before. Names change from arguments to options and back, and
plain values come to stand for some. -/
def switching : Universe :=
  ((builtIn.declare sizedForm).declare shadowingForm).declare renewedForm

theorem descends_switching : Descends switching 6 ((builtInForms.take 1).map ClassForm.body ++
    [sizedForm.body] ++ [shadowingForm.body] ++ [renewedForm.body]) := by
  have hroot : Descends builtIn generatorId ((builtInForms.take 1).map ClassForm.body) :=
    .builtIn (n := 0) (by decide)
  have hsized : Descends (builtIn.declare sizedForm) 4 _ :=
    hroot.declare rfl (by decide) (by decide) (by decide +kernel) (by decide +kernel)
  have hshadowing : Descends ((builtIn.declare sizedForm).declare shadowingForm) 5 _ :=
    hsized.declare rfl (by decide) (by decide) (by decide +kernel) (by decide +kernel)
  exact hshadowing.declare rfl (by decide) (by decide) (by decide +kernel) (by decide +kernel)

end TypeStubs.Scaffold
