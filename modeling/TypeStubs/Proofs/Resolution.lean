import TypeStubs.Proofs.Candidates
import TypeStubs.Proofs.OrderFree
import TypeStubs.Proofs.Registering

/-!
# Bases of selected classes

In a registry that is put together by registering classes, what is found under a name has that
name. A root that counts as built in is therefore met above every selected class, so that each of
them has a base at or below the root, and no failure is ever reported.
-/

namespace TypeStubs

/-! ## Classes with a base -/

section Reports

variable {C : Type} {r : Reflection C} {c : C}

/-- Placing a named class reports nothing, though it may end the run. -/
theorem Reflection.noted?_placing (hname : (r.name c).isSome) (added : Contribution) :
    (r.placing c added).noted? = none := by
  obtain ⟨path, hpath⟩ : ∃ path, r.classPath c = some path := by
    rw [← Option.isSome_iff_exists, Reflection.classPath, Option.isSome_map]
    exact hname
  by_cases htrue : path.value.isTruthy
  · cases htext : path.text? with
    | none =>
        simp [Reflection.placing, hpath, htrue, htext, Verdict.noted?, Verdict.outcome,
          isCompilation_splitFault]
    | some s => simp [Reflection.placing, hpath, htrue, htext, Verdict.noted?, Verdict.outcome]
  · simp only [Reflection.placing, hpath, htrue]
    rfl

theorem Compiler.failures_of_foldlM {gs : List GeneratorCompiler}
    (h : ∀ g ∈ gs, ∀ cs, g.selected r = .ok cs → g.notes r cs = []) {b built : Build}
    (hfold : gs.foldlM (fun b g => g.selected r >>= fun cs => g.settled r cs b) b = .ok built) :
    built.failures = b.failures := by
  induction gs generalizing b with
  | nil => exact Except.ok.inj hfold ▸ rfl
  | cons g gs ih =>
      rw [List.foldlM_cons] at hfold
      obtain ⟨b₁, hfirst, hrest⟩ := bind_eq_ok_iff.mp hfold
      obtain ⟨cs, hselected, hsettled⟩ := bind_eq_ok_iff.mp hfirst
      rw [ih (fun g hg => h g (List.mem_cons_of_mem _ hg)) hrest]
      unfold GeneratorCompiler.settled at hsettled
      split at hsettled
      · exact nomatch hsettled
      · obtain rfl := Except.ok.inj hsettled
        simp [h g List.mem_cons_self cs hselected]

end Reports

namespace StaticRegistry

variable {r r' : StaticRegistry} {g : GeneratorCompiler}

/-! ## Names -/

/-- The registries that come about. A class that is made has a text for a name, or none; what is
read from data may have any value, and is registered at once. Classes are registered in any order
and any number of times, and they are given other bases. -/
inductive Assembled : StaticRegistry → Prop
  | empty : Assembled empty
  | make {r : StaticRegistry} {k : SyntheticClass} (h : Assembled r)
      (hname : ∀ l, k.name = some l → l.text?.isSome) :
      Assembled { r with store := r.store.push k }
  | insert {r r' : StaticRegistry} {k : SyntheticClass} {i : ClassId} (h : Assembled r)
      (hinsert : r.insert k = .ok (r', i)) : Assembled r'
  | add {r r' : StaticRegistry} {i : ClassId} (h : Assembled r) (hadd : r.add i = .ok r') :
      Assembled r'
  | setBase {r : StaticRegistry} (h : Assembled r) (i : ClassId) (base : Option ClassId) :
      Assembled (r.setBase i base)

theorem get_setBase (i : ClassId) (base : Option ClassId) (j : ClassId) :
    (r.setBase i base).get j = { r.get j with base := ((r.setBase i base).get j).base } := by
  unfold get setBase
  rw [Array.getElem?_modify]
  split
  · cases r.store[j]? <;> rfl
  · rfl

theorem nameOf?_of_push {k : SyntheticClass} (hstore : r'.store = r.store.push k) {i : ClassId}
    {name : String} (h : r.nameOf? i = some name) : r'.nameOf? i = some name := by
  have hne : i ≠ r.store.size := by
    rintro rfl
    simp [nameOf?, get_of_size_le (Nat.le_refl _), SyntheticClass.qualifiedName,
      SyntheticClass.blank] at h
  rw [nameOf?, get_of_push hstore, if_neg hne]
  exact h

/-- A class that is found under a name has that name. -/
theorem Assembled.nameOf?_of_lookup (h : r.Assembled) {name : String} {i : ClassId}
    (hfound : r.lookup name = some i) : r.nameOf? i = some name := by
  induction h generalizing i with
  | empty => exact nomatch hfound
  | make h hname ih => exact nameOf?_of_push rfl (ih hfound)
  | @insert r r' k j h hinsert ih =>
      obtain ⟨-, hstore, -, hlookup⟩ := insert_ok hinsert
      rw [hlookup] at hfound
      split at hfound
      · obtain rfl := Option.some.inj hfound
        assumption
      · exact nameOf?_of_push hstore (ih hfound)
  | @add r r' j h hadd ih =>
      rw [nameOf?_congr_store (add_ok hadd).1]
      rw [lookup_add hadd] at hfound
      split at hfound
      · obtain rfl := Option.some.inj hfound
        assumption
      · exact ih hfound
  | setBase h j base ih =>
      rw [nameOf?, get_setBase]
      exact ih hfound

theorem text?_qualifiedName {k : SyntheticClass} (hname : ∀ l, k.name = some l → l.text?.isSome)
    {l : Label} (hl : k.qualifiedName = some l) : l.text?.isSome := by
  obtain ⟨name, hk, rfl⟩ := Option.map_eq_some_iff.mp hl
  split
  · exact hname name hk
  · rfl

/-- Only a class that is registered can have anything but a text for a name. -/
theorem Assembled.text?_of_notMem (h : r.Assembled) {i : ClassId} (hi : i ∉ r.registered)
    {l : Label} (hl : (r.get i).qualifiedName = some l) : l.text?.isSome := by
  induction h with
  | empty => exact nomatch hl
  | @make r k h hname ih =>
      rw [get_of_push rfl] at hl
      split at hl
      · exact text?_qualifiedName hname hl
      · exact ih hi hl
  | @insert r r' k j h hinsert ih =>
      obtain ⟨-, hstore, hregistered, -⟩ := insert_ok hinsert
      rw [hregistered, List.mem_append, List.mem_singleton, not_or] at hi
      rw [get_of_push hstore, if_neg hi.2] at hl
      exact ih hi.1 hl
  | add h hadd ih =>
      obtain ⟨hstore, hregistered⟩ := add_ok hadd
      rw [hregistered, List.mem_append, not_or] at hi
      exact ih hi.1 (get_congr_store hstore i ▸ hl)
  | setBase h j base ih =>
      rw [get_setBase] at hl
      exact ih hi hl

theorem Assembled.link (h : r.Assembled) {i : ClassId} {base : Value}
    (hlink : r.link i base = .ok r') : r'.Assembled := by
  unfold StaticRegistry.link at hlink
  split at hlink
  · exact Except.ok.inj hlink ▸ h
  · split at hlink
    · exact Except.ok.inj hlink ▸ h.setBase i _
    · simp at hlink

theorem Assembled.foldlM {α β : Type} {f : β → α → Except Fault β} (registry : β → StaticRegistry)
    (hstep : ∀ b a b', f b a = .ok b' → (registry b).Assembled → (registry b').Assembled)
    {items : List α} {b b' : β} (hfold : items.foldlM f b = .ok b') (h : (registry b).Assembled) :
    (registry b').Assembled := by
  induction items generalizing b with
  | nil => exact Except.ok.inj hfold ▸ h
  | cons a items ih =>
      rw [List.foldlM_cons] at hfold
      obtain ⟨b₁, hfirst, hrest⟩ := bind_eq_ok_iff.mp hfold
      exact ih hrest (hstep b a b₁ hfirst h)

theorem assembled_of_readEntries {items : List Value} {pending : List (ClassId × Value)}
    (h : readEntries items = .ok (r, pending)) : r.Assembled := by
  refine Assembled.foldlM Prod.fst ?_ h .empty
  rintro ⟨q, before⟩ item b' hstep hq
  cases item with
  | map entries =>
      obtain ⟨k, -, hstep⟩ := bind_eq_ok_iff.mp hstep
      obtain ⟨⟨q', i⟩, hinsert, hstep⟩ := bind_eq_ok_iff.mp hstep
      obtain rfl := Except.ok.inj hstep
      exact hq.insert hinsert
  | _ => exact nomatch hstep

/-- A registry that is read from a payload comes about in this way. -/
theorem assembled_of_ofPayload {payload : Value} (h : ofPayload payload = .ok r) :
    r.Assembled := by
  unfold ofPayload at h
  split at h
  · split at h
    · obtain ⟨⟨q, pending⟩, hread, hlinks⟩ := bind_eq_ok_iff.mp h
      exact Assembled.foldlM id (fun q p q' hlink hq => hq.link hlink) hlinks
        (assembled_of_readEntries hread)
    · exact nomatch h
  · exact nomatch h

/-! ## Bases -/

/-- The base of a class is built in, stands at or below the root, and is the nearest such class
above it. -/
structure Resolves (r : StaticRegistry) (g : GeneratorCompiler) (c b : ClassId) : Prop where
  base : g.baseClass r.reflection c = .ok b
  builtin : r.isBuiltin g b
  rooted : ∃ root, r.lookup g.root = some root ∧ (b = root ∨ r.isSubtype b root = .ok true)
  nearest : ∃ between above, r.ancestors c = .ok (between ++ b :: above) ∧
    ∀ a ∈ between, ¬ r.isBuiltin g a

theorem text?_of_candidate? {root c : ClassId} {x : Option (String × ClassId)}
    (h : g.candidate? r.reflection root c = .ok x) {l : Label}
    (hl : (r.get c).qualifiedName = some l) : l.text?.isSome := by
  unfold GeneratorCompiler.candidate? at h
  rw [reflection_name, hl] at h
  obtain ⟨found, hfound, -⟩ := bind_eq_ok_iff.mp h
  unfold GeneratorCompiler.isBuiltinLabel at hfound
  cases htext : l.text? with
  | some s => rfl
  | none => simp [htext] at hfound

/-- The root ends the search for a base at the latest. -/
theorem resolves_of_chain {c root : ClassId} {above : List ClassId}
    (hchain : r.Chain (r.get c).base above)
    (htexts : ∀ a ∈ above, ∀ l, (r.get a).qualifiedName = some l → l.text?.isSome)
    (hroot : r.lookup g.root = some root) (hbuiltin : r.isBuiltin g root) (hmem : root ∈ above) :
    ∃ b, r.Resolves g c b := by
  obtain ⟨b, hfind⟩ : ∃ b, above.find? (r.isBuiltin g) = some b :=
    Option.isSome_iff_exists.mp (List.find?_isSome.mpr ⟨root, hmem, hbuiltin⟩)
  obtain ⟨hb, between, rest, rfl, hbetween⟩ := List.find?_eq_some_iff_append.mp hfind
  have hbetween : ∀ a ∈ between, ¬ r.isBuiltin g a := fun a ha => by simpa using hbetween a ha
  have hancestors := ancestors_eq_ok_iff.mpr hchain
  refine ⟨b, ?_, hb, ⟨root, hroot, ?_⟩, between, rest, hancestors, hbetween⟩
  · have hbase : r.reflection.ancestors c = .ok (between ++ b :: rest) := hancestors
    rw [GeneratorCompiler.baseClass, hbase, ok_bind, firstBuiltin?_of_texts htexts, ok_bind, hfind]
    rfl
  · rcases List.mem_append.mp hmem with hmem | hmem
    · exact (hbetween root hmem hbuiltin).elim
    · rcases List.mem_cons.mp hmem with rfl | hmem
      · exact Or.inl rfl
      · exact Or.inr (by rw [isSubtype_of_chain hchain.above, List.contains_iff_mem.mpr hmem])

theorem exists_chain_of_isSubtype {i j : ClassId} {below : Bool} (h : r.isSubtype i j = .ok below) :
    ∃ above, r.Chain (r.get i).base above := by
  obtain ⟨above, habove, -⟩ := map_eq_ok_iff.mp h
  exact ⟨above, ancestors_eq_ok_iff.mp habove⟩

theorem resolves_of_selected (hr : r.Assembled) (hroot : g.isBuiltin g.root)
    {cs : List ClassId} (hselected : g.selected r.reflection = .ok cs) {c : ClassId} (hc : c ∈ cs) :
    ∃ b, r.Resolves g c b := by
  obtain ⟨-, rfl⟩ | ⟨root, found, hlookup, hall, rfl⟩ :=
    GeneratorCompiler.cases_of_selected hselected
  · simp at hc
  · have hbelow := GeneratorCompiler.isSubtype_of_picks
      (GeneratorCompiler.mem_inNameOrder_filter.mp hc).2
    obtain ⟨above, habove⟩ := exists_chain_of_isSubtype hbelow
    rw [reflection_isSubtype, isSubtype_of_chain habove] at hbelow
    have hname := hr.nameOf?_of_lookup hlookup
    refine resolves_of_chain habove ?_ hlookup ?_ ?_
    · -- Selection looked at the names of all registered classes.
      intro a ha l hl
      by_cases hregistered : a ∈ r.registered
      · obtain ⟨x, -, hx⟩ := exists_ok_of_mapM hall hregistered
        exact text?_of_candidate? hx hl
      · exact hr.text?_of_notMem hregistered hl
    · rw [isBuiltin, hname]
      exact hroot
    · simpa using Except.ok.inj hbelow

/-! ## Failures -/

theorem noted?_of_resolves {c b : ClassId} (h : r.Resolves g c b)
    (hname : (r.reflection.name c).isSome) : (g.verdict r.reflection c).noted? = none := by
  rw [GeneratorCompiler.verdict_of_ok h.base (outcome_contribution c b)]
  split
  · rfl
  · exact Reflection.noted?_placing hname _

theorem notes_of_selected (hr : r.Assembled) (hroot : g.isBuiltin g.root)
    {cs : List ClassId} (hselected : g.selected r.reflection = .ok cs) :
    g.notes r.reflection cs = [] := by
  refine List.filterMap_eq_nil_iff.mpr fun c hc => ?_
  obtain ⟨b, hb⟩ := resolves_of_selected hr hroot hselected hc
  rw [noted?_of_resolves hb (GeneratorCompiler.isSome_name_of_selected hselected hc)]
  rfl

/-- In a registry that came about by registering classes, every class that a compiler selects has a
base at or below the root, as long as the root itself is built in, and no build reports a
failure. -/
theorem base_of_selected (hr : r.Assembled) {gs : List GeneratorCompiler}
    (hroot : ∀ g ∈ gs, g.isBuiltin g.root) :
    (∀ g ∈ gs, ∀ cs, g.selected r.reflection = .ok cs → ∀ c ∈ cs, ∃ b, r.Resolves g c b) ∧
    ∀ log built, ((BoundCompiler.build (Compiler.bound r.reflection
      (gs.map Compiler.generators))).perform log).1 = .ok built → built.failures = [] := by
  refine ⟨fun g hg cs hselected c hc =>
    resolves_of_selected hr (hroot g hg) hselected hc, fun log built hbuild => ?_⟩
  have hgives := Compiler.build_gives (fun _ => ClassId) (fun _ => r.reflection) id gs
  rw [Compiler.bound, List.map_map] at hbuild
  have hfold := (hgives log).symm.trans hbuild
  exact Compiler.failures_of_foldlM (fun g hg cs hselected =>
    notes_of_selected hr (hroot g hg) hselected) hfold

/-- A root that was defined twice, and a class with an anonymous one between it and the root. -/
def redefinedRoot : StaticRegistry where
  store := #[
    ⟨"lib", some (.text "Root"), none, [], []⟩,
    ⟨"lib", some (.text "Root"), some 0, [], []⟩,
    ⟨"app", none, some 1, [], []⟩,
    ⟨"app", some (.text "Tool"), some 2, [⟨"size", .numeric, true, false⟩], []⟩]
  registered := [0, 1, 2, 3]
  byName := [(.text "lib.Root", 1), (.text "app.Tool", 3)]

open GeneratorCompiler in
theorem base_of_selected_of_redefinedRoot :
    redefinedRoot.Assembled ∧
    libraryCompiler.selected redefinedRoot.reflection = .ok [3] ∧
    ∃ b, redefinedRoot.Resolves libraryCompiler 3 b := by
  have hassembled : redefinedRoot.Assembled := by
    have hinserts : redefinedRoot.store.toList.foldlM (fun q k => (q.insert k).map Prod.fst) empty =
        .ok redefinedRoot := rfl
    refine Assembled.foldlM id (fun q k q' hinsert hq => ?_) hinserts .empty
    obtain ⟨x, hx, rfl⟩ := map_eq_ok_iff.mp hinsert
    exact hq.insert hx
  have hselected : libraryCompiler.selected redefinedRoot.reflection = .ok [3] := by
    have hall : redefinedRoot.reflection.allClasses.mapM
        (libraryCompiler.candidate? redefinedRoot.reflection 1) =
          .ok [none, none, none, some ("app.Tool", 3)] := rfl
    rw [selected_of_mapM rfl hall, inNameOrder, ← filterMap_of_mapM hall]
    simp
  have hbuiltin : ∀ g ∈ [libraryCompiler], g.isBuiltin g.root := by decide
  exact ⟨hassembled, hselected, (base_of_selected hassembled hbuiltin).1
    libraryCompiler List.mem_cons_self [3] hselected 3 List.mem_cons_self⟩

end StaticRegistry

end TypeStubs
