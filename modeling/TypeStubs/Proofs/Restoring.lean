import Mathlib.Data.List.Forall2
import TypeStubs.Proofs.Candidates
import TypeStubs.Proofs.Collecting
import TypeStubs.Registry.Live

/-!
# What a contribution restores

The members that a generator adds to its nearest built-in ancestor, laid over those of the ancestor,
are all members of the generator in their order.
-/

namespace TypeStubs

open Scaffold

/-- Some items laid over others: one that has the key of another takes its place, the rest comes
last. -/
def overlay {α : Type} (key : α → String) (base added : List α) : List α :=
  base.map (fun a => (added.find? fun x => key x == key a).getD a) ++
    added.filter fun x => !(base.map key).contains (key x)

section Overlay

variable {α : Type} [BEq α] [LawfulBEq α] {key : α → String} {base full : List α}

theorem find?_new (hbase : (base.map key).Nodup) (hfull : (full.map key).Nodup) {a x : α}
    (ha : a ∈ base) (hx : x ∈ full) (hkey : key a = key x) :
    ((full.filter fun x => !base.contains x).find? fun y => key y == key a).getD a = x := by
  have hsame : ∀ y ∈ full, key y = key a → y = x := fun y hy heq =>
    List.inj_on_of_nodup_map hfull hy hx (heq.trans hkey)
  cases hfound : (full.filter fun x => !base.contains x).find? fun y => key y == key a with
  | some y =>
      have hy := List.mem_filter.mp (List.mem_of_find?_eq_some hfound)
      exact hsame y hy.1 (by simpa using List.find?_some hfound)
  | none =>
      have hold : x ∈ base := by
        by_contra hnew
        have hmem : x ∈ full.filter fun x => !base.contains x := by simp [hx, hnew]
        have hne := List.find?_eq_none.mp hfound x hmem
        simp [hkey] at hne
      exact List.inj_on_of_nodup_map hbase ha hold hkey

/-- What is new in a list, laid over an older state of it, gives the list. The older state has the
keys of the list up to some point, in the same order. -/
theorem overlay_new (hfull : (full.map key).Nodup) (hleading : base.map key <+: full.map key) :
    overlay key base (full.filter fun x => !base.contains x) = full := by
  have hbase : (base.map key).Nodup := hfull.sublist hleading.sublist
  obtain ⟨front, back, rfl, hfront, -⟩ := List.map_eq_append_iff.mp hleading.choose_spec.symm
  have hdisjoint : ∀ x ∈ back, key x ∉ base.map key := by
    intro x hx hmem
    rw [List.map_append, hfront, List.nodup_append'] at hfull
    exact hfull.2.2 hmem (List.mem_map_of_mem hx)
  have hreplaced : base.map (fun a =>
      (((front ++ back).filter fun x => !base.contains x).find? fun x => key x == key a).getD a) =
      front := by
    have hlength : base.length = front.length := by simpa using (congrArg List.length hfront).symm
    apply List.ext_getElem
    · simpa using hlength
    · intro i hi hi'
      have hib : i < base.length := by simpa using hi
      have hkey : key base[i] = key front[i] := by
        have h := List.getElem_of_eq hfront (i := i) (by simpa using hi')
        simpa using h.symm
      rw [List.getElem_map]
      exact find?_new hbase hfull (List.getElem_mem hib)
        (List.mem_append_left back (List.getElem_mem hi')) hkey
  have hrest : ((front ++ back).filter fun x => !base.contains x).filter
      (fun x => !(base.map key).contains (key x)) = back := by
    rw [List.filter_filter, List.filter_append, List.filter_eq_nil_iff.mpr, List.nil_append,
      List.filter_eq_self.mpr]
    · intro x hx
      have hkey := hdisjoint x hx
      have hnew : x ∉ base := fun hmem => hkey (List.mem_map_of_mem hmem)
      simpa [hnew] using hkey
    · intro x hx
      have hkey : key x ∈ base.map key := hfront ▸ List.mem_map_of_mem hx
      simp [hkey]
  rw [overlay, hreplaced, hrest]

end Overlay

/-! ## Reading collected members -/

/-- The normalised form of a member. -/
def specOf (p : String × Declaration) : ArgumentSpec where
  name := p.1
  type := TypeTag.ofValue p.2.type
  required := p.2.required
  hasDefault := p.2.hasDefault

/-- The normalised form of an option under its key. -/
def optionSpecOf (p : String × Declaration) : String × ArgumentSpec := (p.1, specOf p)

theorem map_name_specOf (ds : List (String × Declaration)) :
    (ds.map specOf).map ArgumentSpec.name = ds.map Prod.fst := by
  rw [List.map_map]
  rfl

theorem map_fst_optionSpecOf (ds : List (String × Declaration)) :
    (ds.map optionSpecOf).map Prod.fst = ds.map Prod.fst := by
  rw [List.map_map]
  rfl

theorem ofDeclaration_member {p : String × Declaration} (hname : p.2.name = some p.1)
    (hne : p.1 ≠ "") : ArgumentSpec.ofDeclaration (.member p.2) .null = .ok (specOf p) := by
  have hread : (Value.member p.2).read "name" = .text p.1 := by
    simp [Value.read, Value.attribute?, Value.memberAttribute?, hname, Value.ofName]
  have htrue : (Value.text p.1).isTruthy := by simpa [Value.isTruthy] using hne
  have hplain : (Value.text p.1).plain = p.1 := rfl
  rw [ArgumentSpec.ofDeclaration]
  simp only [Value.isNull, if_true, hread, htrue, hplain]
  rfl

theorem mapM_argumentItems {as : List (String × Declaration)} (h : Members as) :
    (argumentItems as).mapM (fun item => ArgumentSpec.ofDeclaration item .null) =
      .ok (as.map specOf) := by
  rw [mapM_eq_ok_iff, argumentItems, List.forall₂_map_left_iff, List.forall₂_map_right_iff,
    List.forall₂_same]
  exact fun p hp => ofDeclaration_member (h.named p hp) (h.ne_empty p hp)

theorem ofDeclaration_named (p : String × Declaration) (hne : p.1 ≠ "") :
    ArgumentSpec.ofDeclaration (.member p.2) (.text p.1) = .ok (specOf p) := by
  have htrue : (Value.text p.1).isTruthy := by simpa [Value.isTruthy] using hne
  have hplain : (Value.text p.1).plain = p.1 := rfl
  rw [ArgumentSpec.ofDeclaration]
  simp only [Value.isNull, Bool.false_eq_true, if_false, htrue, hplain]
  rfl

theorem putOption_of_notMem {name : String} {done : List (String × ArgumentSpec)}
    (h : name ∉ done.map Prod.fst) (spec : ArgumentSpec) :
    putOption name spec done = done ++ [(name, spec)] := by
  induction done with
  | nil => rfl
  | cons o done ih =>
      obtain ⟨n, s⟩ := o
      rw [List.map_cons, List.mem_cons, not_or] at h
      rw [putOption, if_neg (Ne.symm h.1), ih h.2]
      rfl

theorem readOptions_optionEntries {os : List (String × Declaration)} (h : Members os) :
    readOptions (optionEntries os) = .ok (os.map optionSpecOf) := by
  have hfrom : ∀ {os : List (String × Declaration)} {done : List (String × ArgumentSpec)},
      (∀ p ∈ os, p.1 ≠ "") → (done.map Prod.fst ++ os.map Prod.fst).Nodup →
      (optionEntries os).foldlM (fun options entry => do
        let spec ← ArgumentSpec.ofDeclaration entry.2 (.text entry.1.plain)
        return putOption entry.1.plain spec options) done =
        Except.ok (done ++ os.map optionSpecOf) := by
    intro os done hne hnodup
    induction os generalizing done with
    | nil => simp [optionEntries, pure, Except.pure]
    | cons p os ih =>
        have hplain : (Value.text p.1).plain = p.1 := rfl
        have hspec := ofDeclaration_named p (hne p List.mem_cons_self)
        have hfresh : p.1 ∉ done.map Prod.fst := by
          rw [List.map_cons, List.nodup_append'] at hnodup
          exact fun hmem => hnodup.2.2 hmem List.mem_cons_self
        rw [optionEntries, List.map_cons, List.foldlM_cons]
        simp only [hplain, hspec, bind, Except.bind, pure, Except.pure,
          putOption_of_notMem hfresh]
        refine (ih (fun q hq => hne q (List.mem_cons_of_mem p hq)) ?_).trans ?_
        · simpa [List.append_assoc] using hnodup
        · simp [optionSpecOf]
  exact hfrom h.ne_empty h.nodup

namespace Live

variable {u : Universe} {c : Nat} {as os : List (String × Declaration)}

theorem arguments_of_collects (h : u.Collects c as os) :
    ((reflection u .standard).arguments c).outcome = .ok (as.map specOf) := by
  have hread : (reflection u .standard).arguments c = Reading.ofExcept
      ((argumentItems as).mapM fun item => ArgumentSpec.ofDeclaration item .null) := by
    obtain ⟨k, hk⟩ := h.arguments
    have hattribute : u.attribute? c AttributeNames.standard.arguments =
        some (k, .value (.tuple (argumentItems as))) := hk
    change arguments u .standard c = _
    rw [arguments, hattribute]
    rfl
  rw [hread, mapM_argumentItems h.membersArguments]
  rfl

theorem options_of_collects (h : u.Collects c as os) :
    ((reflection u .standard).options c).outcome = .ok (os.map optionSpecOf) := by
  obtain ⟨k, hk⟩ := h.options
  have hattribute : u.attribute? c AttributeNames.standard.options =
      some (k, .value (.map (optionEntries os))) := hk
  change (options u .standard c).outcome = _
  rw [options, hattribute]
  change (Reading.ofExcept (readOptions (optionEntries os))).outcome = _
  rw [readOptions_optionEntries h.membersOptions]
  rfl

end Live

/-! ## What is contributed -/

namespace GeneratorCompiler

variable {C : Type} {r : Reflection C}

/-- A contribution is what is new in the members of a class. -/
theorem contribution_of_ok {c b : C} {arguments baseArguments : List ArgumentSpec}
    {options baseOptions : List (String × ArgumentSpec)}
    (harguments : (r.arguments c).outcome = .ok arguments)
    (hoptions : (r.options c).outcome = .ok options)
    (hbaseArguments : (r.arguments b).outcome = .ok baseArguments)
    (hbaseOptions : (r.options b).outcome = .ok baseOptions)
    (hnodup : (baseOptions.map Prod.fst).Nodup) :
    (contribution r c b).outcome = .ok
      ⟨arguments.filter fun a => !baseArguments.contains a,
        options.filter fun o => !baseOptions.contains o⟩ := by
  have hlookup : ∀ o : String × ArgumentSpec,
      (baseOptions.lookup o.1 != some o.2) = !baseOptions.contains o := by
    intro o
    rw [Bool.eq_iff_iff, bne_iff_ne, Ne, lookup_eq_some_iff hnodup]
    simp
  simp only [contribution, harguments, hoptions, hbaseArguments, hbaseOptions, hlookup, bind]
  rfl

/-- Whatever the base has, a contribution holds members of the class alone. -/
theorem sublist_of_contribution {c b : C} {arguments : List ArgumentSpec}
    {options : List (String × ArgumentSpec)}
    (harguments : (r.arguments c).outcome = .ok arguments)
    (hoptions : (r.options c).outcome = .ok options) {added : Contribution}
    (h : (contribution r c b).outcome = .ok added) :
    added.arguments.Sublist arguments ∧ added.options.Sublist options := by
  simp only [contribution, Reading.outcome_bind, harguments, hoptions, ok_bind] at h
  obtain ⟨baseArguments, -, h⟩ := bind_eq_ok_iff.mp h
  obtain ⟨baseOptions, -, h⟩ := bind_eq_ok_iff.mp h
  obtain rfl := Except.ok.inj h
  exact ⟨List.filter_sublist, List.filter_sublist⟩

end GeneratorCompiler

open GeneratorCompiler

/-- A contribution leads from the members of a base to those of a class: laid over the former it
gives the latter, and no part of it is there already. -/
structure Contribution.Restores (added : Contribution) (baseArguments arguments : List ArgumentSpec)
    (baseOptions options : List (String × ArgumentSpec)) : Prop where
  arguments : overlay ArgumentSpec.name baseArguments added.arguments = arguments
  options : overlay Prod.fst baseOptions added.options = options
  newArguments : ∀ a ∈ added.arguments, ∀ x ∈ baseArguments, x.name = a.name → x ≠ a
  newOptions : ∀ o ∈ added.options, ∀ x ∈ baseOptions, x.1 = o.1 → x.2 ≠ o.2

/-- Of a generator on a line nothing is lost between its base and its contribution. -/
theorem contribution_restores {u : Universe} (hu : u.Grown) {g : GeneratorCompiler} {c b : Nat}
    (hc : u.Lineage c) (hbase : g.baseClass (Live.reflection u .standard) c = .ok b)
    (hb : u.isGenerator b) :
    ∃ arguments options baseArguments baseOptions added,
      ((Live.reflection u .standard).arguments c).outcome = .ok arguments ∧
      ((Live.reflection u .standard).options c).outcome = .ok options ∧
      ((Live.reflection u .standard).arguments b).outcome = .ok baseArguments ∧
      ((Live.reflection u .standard).options b).outcome = .ok baseOptions ∧
      (contribution (Live.reflection u .standard) c b).outcome = .ok added ∧
      added.Restores baseArguments arguments baseOptions options := by
  obtain ⟨above, habove, hmem⟩ := exists_ancestors_of_baseClass hbase
  obtain rfl : (u.get c).ancestry = above := Except.ok.inj habove
  have hrow : b ∈ u.row c := List.mem_cons_of_mem c hmem
  have hbline : u.Lineage b := by
    rcases hc.of_mem_row hu.sound hrow with rfl | hbline
    · exact absurd hb (Universe.not_isGenerator_objectId hu.sound)
    · exact hbline
  obtain ⟨as, os, hcollected⟩ := hu.exists_collects hc
  obtain ⟨as', os', hcollected'⟩ := hu.exists_collects hbline
  obtain ⟨hasPrefix, hosPrefix⟩ := hu.names_prefix hc hrow hbline hcollected hcollected'
  have harguments := Live.arguments_of_collects hcollected
  have hoptions := Live.options_of_collects hcollected
  have hbaseArguments := Live.arguments_of_collects hcollected'
  have hbaseOptions := Live.options_of_collects hcollected'
  have hadded := contribution_of_ok harguments hoptions hbaseArguments hbaseOptions
    (map_fst_optionSpecOf os' ▸ hcollected'.membersOptions.nodup)
  refine ⟨_, _, _, _, _, harguments, hoptions, hbaseArguments, hbaseOptions, hadded, ?_⟩
  constructor
  · apply overlay_new
    · rw [map_name_specOf]
      exact hcollected.membersArguments.nodup
    · rwa [map_name_specOf, map_name_specOf]
  · apply overlay_new
    · rw [map_fst_optionSpecOf]
      exact hcollected.membersOptions.nodup
    · rwa [map_fst_optionSpecOf, map_fst_optionSpecOf]
  · rintro a ha x hx - rfl
    simp [hx] at ha
  · rintro o ho x hx hname hspec
    obtain rfl : x = o := Prod.ext hname hspec
    simp [hx] at ho

def scaffoldCompiler : GeneratorCompiler where
  root := GeneratorCompiler.scaffoldRoot
  namespaces := [⟨Namespace.scaffold, Text.startsWith "genstubs.scaffold."⟩]

/-- A generator that takes a number for its name, and one below it that takes a text again. -/
def renamed : Universe :=
  (builtIn.declare ⟨"app", "Numbered", [namedId], [bound .argument "name" .numeric none]⟩).declare
    ⟨"app", "Worded", [4], [bound .option "colour" .string none,
      bound .argument "name" .string none, bound .option "force" .string none]⟩

theorem grown_renamed : renamed.Grown := by
  refine .declare (.declare .builtIn ?_ ?_ ?_) ?_ ?_ ?_
  · decide +kernel
  · decide
  · decide +kernel
  · decide +kernel
  · decide
  · decide +kernel

/-- The change of the name is undone by the second class, so that it contributes options alone. -/
example : (contribution (Live.reflection renamed .standard) 5 namedId).outcome.toOption.map
    (fun added => (added.arguments.map (·.name), added.options.map Prod.fst)) =
      some ([], ["force", "colour"]) := by decide +kernel

theorem contribution_restores_of_renamed :
    ∃ arguments options baseArguments baseOptions added,
      scaffoldCompiler.baseClass (Live.reflection renamed .standard) 5 = .ok namedId ∧
      ((Live.reflection renamed .standard).arguments 5).outcome = .ok arguments ∧
      ((Live.reflection renamed .standard).options 5).outcome = .ok options ∧
      ((Live.reflection renamed .standard).arguments namedId).outcome = .ok baseArguments ∧
      ((Live.reflection renamed .standard).options namedId).outcome = .ok baseOptions ∧
      (contribution (Live.reflection renamed .standard) 5 namedId).outcome = .ok added ∧
      added.Restores baseArguments arguments baseOptions options := by
  have hline : renamed.Lineage 5 :=
    .child (b := 4) (by decide +kernel) (.child (b := namedId) (by decide +kernel)
      (.child (b := Universe.generatorId) (by decide +kernel) .root))
  have hbase : scaffoldCompiler.baseClass (Live.reflection renamed .standard) 5 = .ok namedId := rfl
  obtain ⟨arguments, options, baseArguments, baseOptions, added, h⟩ :=
    contribution_restores grown_renamed hline hbase (by decide +kernel)
  exact ⟨arguments, options, baseArguments, baseOptions, added, hbase, h⟩

end TypeStubs
