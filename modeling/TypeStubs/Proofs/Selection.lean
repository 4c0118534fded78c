import TypeStubs.Proofs.BaseChain
import TypeStubs.Proofs.Segments
import TypeStubs.Proofs.Verdict

/-!
# Candidates among synthetic classes

Where names are texts, the candidates and the verdicts on them can be read off the chains of bases.
-/

namespace TypeStubs

namespace Text

theorem afterStart?_append (start s : String) : afterStart? start (start ++ s) = some s := by
  unfold afterStart?
  have hprefix : start.toList.isPrefixOf (start ++ s).toList := by simp
  rw [if_pos hprefix, String.toList_append, List.drop_left' String.length_toList]
  simp

end Text

namespace StaticRegistry

variable {r : StaticRegistry} {g : GeneratorCompiler}

@[simp] theorem reflection_name (i : ClassId) :
    r.reflection.name i = (r.get i).qualifiedName := rfl

@[simp] theorem reflection_moduleOf (i : ClassId) :
    r.reflection.moduleOf i = (r.get i).module := rfl

@[simp] theorem reflection_isSubtype (i j : ClassId) :
    r.reflection.isSubtype i j = r.isSubtype i j := rfl

@[simp] theorem reflection_lookup (name : String) :
    r.reflection.lookup name = r.lookup name := rfl

@[simp] theorem reflection_allClasses : r.reflection.allClasses = r.registered := rfl

def TextNames (r : StaticRegistry) : Prop :=
  ∀ i l, (r.get i).name = some l → ∃ s, l = .text s

/-- The qualified name of a class, if it has one that is a text. -/
def nameOf? (r : StaticRegistry) (i : ClassId) : Option String :=
  (r.get i).qualifiedName.bind Label.text?

theorem nameOf?_congr {r' : StaticRegistry} {i j : ClassId}
    (hmodule : (r.get i).module = (r'.get j).module) (hname : (r.get i).name = (r'.get j).name) :
    r.nameOf? i = r'.nameOf? j := by
  rw [nameOf?, nameOf?, SyntheticClass.qualifiedName, SyntheticClass.qualifiedName, hmodule, hname]

/-- Is the class a named one of a built-in namespace? -/
def isBuiltin (r : StaticRegistry) (g : GeneratorCompiler) (i : ClassId) : Bool :=
  (r.nameOf? i).any g.isBuiltin

/-- Is the class a named one outside the built-in namespaces? -/
def isOwn (r : StaticRegistry) (g : GeneratorCompiler) (i : ClassId) : Bool :=
  (r.nameOf? i).any fun name => !g.isBuiltin name

/-- The candidates of a compiler: named classes strictly below the root that are not built in. -/
structure Candidate (r : StaticRegistry) (g : GeneratorCompiler) (c : ClassId) : Prop where
  registered : c ∈ r.registered
  own : r.isOwn g c
  below : ∃ root above, r.lookup g.root = some root ∧ r.Chain (r.get c).base above ∧ root ∈ above

/-- The first built-in class above a class. -/
def Nearest (r : StaticRegistry) (g : GeneratorCompiler) (c b : ClassId) : Prop :=
  ∃ above, r.Chain (r.get c).base above ∧ above.find? (r.isBuiltin g) = some b

/-- The members that a class has and its base has not. -/
def added (r : StaticRegistry) (c b : ClassId) : Contribution where
  arguments := (r.get c).arguments.filter fun a => !(r.get b).arguments.contains a
  options := (r.get c).options.filter fun o => (r.get b).options.lookup o.1 != some o.2

theorem Nearest.unique {c b b' : ClassId} (h : r.Nearest g c b) (h' : r.Nearest g c b') :
    b = b' := by
  obtain ⟨above, hchain, hfind⟩ := h
  obtain ⟨above', hchain', hfind'⟩ := h'
  obtain rfl := hchain.unique hchain'
  exact Option.some.inj (hfind.symm.trans hfind')

/-! ## Names -/

theorem textNames_of_store
    (h : ∀ c ∈ r.store, ∀ l, c.name = some l → ∃ s, l = .text s) : r.TextNames := by
  intro i l hl
  unfold get at hl
  cases hfound : r.store[i]? with
  | none => simp [hfound, SyntheticClass.blank] at hl
  | some c =>
      rw [hfound] at hl
      exact h c (Array.mem_of_getElem? hfound) l hl

theorem TextNames.qualifiedName (h : r.TextNames) (i : ClassId) :
    (r.get i).qualifiedName = (r.nameOf? i).map Label.text := by
  unfold nameOf? SyntheticClass.qualifiedName
  cases hname : (r.get i).name with
  | none => rfl
  | some l =>
      obtain ⟨s, rfl⟩ := h i l hname
      by_cases hmodule : (r.get i).module.isEmpty
      · simp only [Option.map_some, hmodule, if_true]
        rfl
      · simp only [Option.map_some, hmodule]
        rfl

theorem text_of_qualifiedName {k : SyntheticClass}
    (h : ∀ l, k.name = some l → ∃ s, l = .text s) :
    ∀ l, k.qualifiedName = some l → ∃ s, l = .text s := by
  intro l hl
  obtain ⟨name, hname, rfl⟩ := Option.map_eq_some_iff.mp hl
  obtain ⟨s, rfl⟩ := h name hname
  split
  · exact ⟨s, rfl⟩
  · exact ⟨_, rfl⟩

theorem TextNames.text_of_qualifiedName {i : ClassId} (h : r.TextNames) :
    ∀ l, (r.get i).qualifiedName = some l → ∃ s, l = .text s :=
  StaticRegistry.text_of_qualifiedName (h i)

theorem TextNames.classPath (h : r.TextNames) (i : ClassId) :
    r.reflection.classPath i = (r.get i).name := by
  rw [Reflection.classPath, reflection_name, reflection_moduleOf, SyntheticClass.qualifiedName]
  cases hname : (r.get i).name with
  | none => rfl
  | some l =>
      obtain ⟨s, rfl⟩ := h i l hname
      by_cases hmodule : (r.get i).module.isEmpty
      · simp only [Option.map_some, hmodule, if_true]
      · have hstart := Text.afterStart?_append ((r.get i).module ++ ".") s
        have hplain : (Label.text s).plain = s := rfl
        simp only [Option.map_some, hmodule, hplain]
        simp [hstart]

theorem TextNames.textPath (h : r.TextNames) (i : ClassId) :
    r.reflection.textPath i = (r.get i).name.bind Label.text? := by
  rw [Reflection.textPath, h.classPath]

theorem isBuiltinLabel_text (g : GeneratorCompiler) (s : String) :
    g.isBuiltinLabel (.text s) = .ok (g.isBuiltin s) := rfl

/-! ## Selection -/

theorem candidate?_of_chain (htexts : r.TextNames) {root c : ClassId} {above : List ClassId}
    (h : r.isOwn g c → r.Chain (r.get c).base above) :
    g.candidate? r.reflection root c =
      .ok (if r.isOwn g c ∧ root ∈ above then some ((r.nameOf? c).getD "", c) else none) := by
  have hname := htexts.qualifiedName c
  unfold GeneratorCompiler.candidate?
  unfold isOwn at h ⊢
  rw [reflection_name, hname]
  cases hc : r.nameOf? c with
  | none => simp [pure, Except.pure]
  | some s =>
      by_cases hbuiltin : g.isBuiltin s
      · simp [isBuiltinLabel_text, hbuiltin, pure, Except.pure, bind, Except.bind]
      · have hsub : r.reflection.isSubtype c root = .ok (above.contains root) :=
          isSubtype_of_chain (h (by simp [hc, hbuiltin]))
        simp only [Option.map_some, isBuiltinLabel_text, hbuiltin, hsub, bind, Except.bind]
        by_cases hroot : root ∈ above
        · simp [hroot, hbuiltin, Label.text?, Label.value, Value.text?, pure, Except.pure]
        · simp [hroot, pure, Except.pure]

theorem candidate?_of_not_chain (htexts : r.TextNames) (root : ClassId) {c : ClassId}
    (hown : r.isOwn g c) (h : ¬ ∃ above, r.Chain (r.get c).base above) :
    ∃ i, g.candidate? r.reflection root c = .error (.inheritanceCycle (r.get i).shown) := by
  have hname := htexts.qualifiedName c
  obtain ⟨s, hs, hbuiltin⟩ := (Option.any_eq_true _ _).mp hown
  cases hanc : r.ancestors c with
  | ok above => exact (h ⟨above, ancestors_eq_ok_iff.mp hanc⟩).elim
  | error f =>
      obtain ⟨i, rfl⟩ := ancestors_error hanc
      refine ⟨i, ?_⟩
      have hsub : r.reflection.isSubtype c root = .error (.inheritanceCycle (r.get i).shown) := by
        rw [reflection_isSubtype, isSubtype, hanc]
        rfl
      unfold GeneratorCompiler.candidate?
      rw [reflection_name, hname, hs]
      have hopen : g.isBuiltin s = false := by simpa using hbuiltin
      simp only [Option.map_some, isBuiltinLabel_text, hopen, hsub, bind, Except.bind]
      rfl

/-- Some classes in the order of their names. -/
def sortedByName (r : StaticRegistry) (cs : List ClassId) : List ClassId :=
  ((cs.map fun c => ((r.nameOf? c).getD "", c)).mergeSort fun a b => a.1 ≤ b.1).map Prod.snd

theorem sortedByName_perm (cs : List ClassId) : (r.sortedByName cs).Perm cs := by
  have hnamed : (cs.map fun c => ((r.nameOf? c).getD "", c)).map Prod.snd = cs := by
    rw [List.map_map]
    exact List.map_id _
  unfold sortedByName
  conv_rhs => rw [← hnamed]
  exact (List.mergeSort_perm _ _).map Prod.snd

theorem pairwise_sortedByName (cs : List ClassId) :
    (r.sortedByName cs).Pairwise fun c d => (r.nameOf? c).getD "" ≤ (r.nameOf? d).getD "" := by
  have hsorted := pairwise_mergeSort_key Prod.fst (cs.map fun c => ((r.nameOf? c).getD "", c))
  have hfst : ∀ p ∈ (cs.map fun c => ((r.nameOf? c).getD "", c)).mergeSort
      (fun a b => a.1 ≤ b.1), p.1 = (r.nameOf? p.2).getD "" := by
    intro p hp
    obtain ⟨c, -, rfl⟩ := List.mem_map.mp ((List.mergeSort_perm _ _).mem_iff.mp hp)
    rfl
  unfold sortedByName
  rw [List.pairwise_map]
  refine hsorted.imp_of_mem fun {a b} ha hb hab => ?_
  rw [← hfst a ha, ← hfst b hb]
  exact hab

theorem filterMap_found (p : ClassId → Prop) [DecidablePred p] (cs : List ClassId) :
    (cs.map fun c => if p c then some ((r.nameOf? c).getD "", c) else none).filterMap id =
      (cs.filter fun c => p c).map fun c => ((r.nameOf? c).getD "", c) := by
  induction cs with
  | nil => rfl
  | cons c cs ih =>
      rw [List.map_cons, List.filter_cons]
      by_cases hc : p c
      · rw [if_pos hc, if_pos (decide_eq_true hc), List.map_cons, ← ih]
        rfl
      · rw [if_neg hc, if_neg (by simpa using hc), ← ih]
        rfl

/-- With the root and all chains at hand, selection is a filter followed by a sort. -/
theorem selected_eq (htexts : r.TextNames) {root : ClassId} (hroot : r.lookup g.root = some root)
    {above : ClassId → List ClassId}
    (habove : ∀ c ∈ r.registered, r.isOwn g c → r.Chain (r.get c).base (above c)) :
    g.selected r.reflection =
      .ok (r.sortedByName (r.registered.filter fun c => r.isOwn g c ∧ root ∈ above c)) := by
  have hall : r.registered.mapM (g.candidate? r.reflection root) =
      .ok (r.registered.map fun c =>
        if r.isOwn g c ∧ root ∈ above c then some ((r.nameOf? c).getD "", c) else none) := by
    rw [mapM_eq_ok_iff, List.forall₂_map_right_iff, List.forall₂_same]
    exact fun c hc => candidate?_of_chain htexts (habove c hc)
  unfold GeneratorCompiler.selected sortedByName
  simp only [reflection_lookup, hroot, reflection_allClasses, hall]
  rw [← filterMap_found]
  rfl

theorem exists_above
    (h : ∀ c ∈ r.registered, r.isOwn g c → ∃ above, r.Chain (r.get c).base above) :
    ∃ above : ClassId → List ClassId,
      ∀ c ∈ r.registered, r.isOwn g c → r.Chain (r.get c).base (above c) := by
  have hexists : ∀ c, ∃ above, c ∈ r.registered → r.isOwn g c →
      r.Chain (r.get c).base above := by
    intro c
    by_cases hc : c ∈ r.registered ∧ r.isOwn g c
    · obtain ⟨above, habove⟩ := h c hc.1 hc.2
      exact ⟨above, fun _ _ => habove⟩
    · exact ⟨[], fun hreg hown => (hc ⟨hreg, hown⟩).elim⟩
  choose above habove using hexists
  exact ⟨above, habove⟩

theorem candidate_iff_of_above {root : ClassId} (hroot : r.lookup g.root = some root)
    {above : ClassId → List ClassId}
    (habove : ∀ c ∈ r.registered, r.isOwn g c → r.Chain (r.get c).base (above c)) {c : ClassId} :
    r.Candidate g c ↔ c ∈ r.registered ∧ r.isOwn g c ∧ root ∈ above c := by
  constructor
  · rintro ⟨hreg, hown, root', above', hlookup, habove', hbelow⟩
    obtain rfl := Option.some.inj (hroot.symm.trans hlookup)
    exact ⟨hreg, hown, (habove c hreg hown).unique habove' ▸ hbelow⟩
  · rintro ⟨hreg, hown, hbelow⟩
    exact ⟨hreg, hown, root, above c, hroot, habove c hreg hown, hbelow⟩

open Classical in
/-- The candidates are the classes that qualify, in the order of their names. -/
theorem selected_perm (htexts : r.TextNames)
    (hchains : (r.lookup g.root).isSome → ∀ c ∈ r.registered, r.isOwn g c →
      ∃ above, r.Chain (r.get c).base above) :
    ∃ cs, g.selected r.reflection = .ok cs ∧
      cs.Perm (r.registered.filter fun c => r.Candidate g c) ∧
      cs.Pairwise fun c d => (r.nameOf? c).getD "" ≤ (r.nameOf? d).getD "" := by
  cases hroot : r.lookup g.root with
  | none =>
      have hnone : r.registered.filter (fun c => r.Candidate g c) = [] := by
        refine List.filter_eq_nil_iff.mpr fun c _ hc => ?_
        obtain ⟨root, above, hlookup, -⟩ := (of_decide_eq_true hc).below
        simp [hroot] at hlookup
      refine ⟨[], ?_, by rw [hnone], List.Pairwise.nil⟩
      simp only [GeneratorCompiler.selected, reflection_lookup, hroot]
  | some root =>
      obtain ⟨above, habove⟩ := exists_above (hchains (by rw [hroot, Option.isSome_some]))
      refine ⟨_, selected_eq htexts hroot habove, ?_, pairwise_sortedByName _⟩
      refine (r.sortedByName_perm _).trans (List.Perm.of_eq (List.filter_congr fun c hc => ?_))
      rw [decide_eq_decide, candidate_iff_of_above hroot habove]
      exact (and_iff_right hc).symm

open Classical in
theorem mem_iff_candidate {cs : List ClassId}
    (hperm : cs.Perm (r.registered.filter fun c => r.Candidate g c)) (c : ClassId) :
    c ∈ cs ↔ r.Candidate g c := by
  rw [hperm.mem_iff, List.mem_filter, decide_eq_true_eq]
  exact and_iff_right_of_imp Candidate.registered

theorem selected_of_chains (htexts : r.TextNames)
    (hchains : (r.lookup g.root).isSome → ∀ c ∈ r.registered, r.isOwn g c →
      ∃ above, r.Chain (r.get c).base above) :
    ∃ cs, g.selected r.reflection = .ok cs ∧ (∀ c, c ∈ cs ↔ r.Candidate g c) ∧
      (r.registered.Nodup → cs.Nodup) ∧
      cs.Pairwise fun c d => (r.nameOf? c).getD "" ≤ (r.nameOf? d).getD "" := by
  obtain ⟨cs, hselected, hperm, hsorted⟩ := selected_perm htexts hchains
  exact ⟨cs, hselected, mem_iff_candidate hperm,
    fun hnodup => hperm.nodup_iff.mpr (hnodup.filter _), hsorted⟩

theorem Candidate.exists_nameOf? {c : ClassId} (hc : r.Candidate g c) :
    ∃ name, r.nameOf? c = some name := by
  obtain ⟨name, hname, -⟩ := (Option.any_eq_true _ _).mp hc.own
  exact ⟨name, hname⟩

/-- Where names tell candidates apart, sorted lists of candidates are told by what is in them. -/
theorem eq_of_perm_of_sorted
    (hdistinct : ∀ c d, r.Candidate g c → r.Candidate g d → r.nameOf? c = r.nameOf? d → c = d)
    {cs ds : List ClassId} (hperm : cs.Perm ds) (hds : ∀ d ∈ ds, r.Candidate g d)
    (hcs : cs.Pairwise fun c d => (r.nameOf? c).getD "" ≤ (r.nameOf? d).getD "")
    (hsorted : ds.Pairwise fun c d => (r.nameOf? c).getD "" ≤ (r.nameOf? d).getD "") :
    cs = ds := by
  refine List.Perm.eq_of_pairwise (fun c d hc hd hle hge => ?_) hcs hsorted hperm
  have hc := hds c (hperm.mem_iff.mp hc)
  have hd := hds d hd
  obtain ⟨a, ha⟩ := hc.exists_nameOf?
  obtain ⟨b, hb⟩ := hd.exists_nameOf?
  rw [ha, hb, Option.getD_some, Option.getD_some] at hle hge
  apply hdistinct c d hc hd
  rw [ha, hb, String.le_antisymm hle hge]

theorem candidate?_error (htexts : r.TextNames) {root c : ClassId} {f : Fault}
    (h : g.candidate? r.reflection root c = .error f) :
    ∃ i, f = .inheritanceCycle (r.get i).shown := by
  by_cases hchain : r.isOwn g c → ∃ above, r.Chain (r.get c).base above
  · have hok : ∃ above, r.isOwn g c → r.Chain (r.get c).base above := by
      by_cases hown : r.isOwn g c
      · obtain ⟨above, habove⟩ := hchain hown
        exact ⟨above, fun _ => habove⟩
      · exact ⟨[], fun h => (hown h).elim⟩
    obtain ⟨above, habove⟩ := hok
    rw [candidate?_of_chain htexts habove] at h
    simp at h
  · obtain ⟨hown, hnone⟩ := Classical.not_imp.mp hchain
    obtain ⟨i, hi⟩ := candidate?_of_not_chain htexts root hown hnone
    exact ⟨i, Except.error.inj (h.symm.trans hi)⟩

/-- If the bases above a class that is looked at run into a cycle, there is no selection at all. -/
theorem selected_of_not_chain (htexts : r.TextNames) {root : ClassId}
    (hroot : r.lookup g.root = some root) {c : ClassId} (hc : c ∈ r.registered)
    (hown : r.isOwn g c) (h : ¬ ∃ above, r.Chain (r.get c).base above) :
    ∃ i, g.selected r.reflection = .error (.inheritanceCycle (r.get i).shown) := by
  cases hall : r.registered.mapM (g.candidate? r.reflection root) with
  | ok found =>
      obtain ⟨i, hi⟩ := candidate?_of_not_chain htexts root hown h
      obtain ⟨y, -, hy⟩ := exists_ok_of_mapM hall hc
      simp [hi] at hy
  | error f =>
      obtain ⟨d, -, hd⟩ := mapM_error hall
      obtain ⟨i, rfl⟩ := candidate?_error htexts hd
      refine ⟨i, ?_⟩
      unfold GeneratorCompiler.selected
      simp only [reflection_lookup, hroot, reflection_allClasses, hall]
      rfl

/-! ## Verdicts -/

/-- Where the names that are met are texts, the first built-in class is found by going through the
classes one by one. -/
theorem firstBuiltin?_of_texts {above : List ClassId}
    (h : ∀ a ∈ above, ∀ l, (r.get a).qualifiedName = some l → l.text?.isSome) :
    g.firstBuiltin? r.reflection above = .ok (above.find? (r.isBuiltin g)) := by
  induction above with
  | nil => rfl
  | cons a above ih =>
      have hrest := ih fun b hb => h b (List.mem_cons_of_mem a hb)
      rw [GeneratorCompiler.firstBuiltin?, reflection_name, hrest, List.find?_cons, isBuiltin,
        nameOf?]
      cases hname : (r.get a).qualifiedName with
      | none => rfl
      | some l =>
          obtain ⟨s, hs⟩ := Option.isSome_iff_exists.mp (h a List.mem_cons_self l hname)
          simp only [GeneratorCompiler.isBuiltinLabel, hs, Option.bind_some, Option.any_some]
          cases g.isBuiltin s <;> rfl

theorem firstBuiltin?_eq (htexts : r.TextNames) (above : List ClassId) :
    g.firstBuiltin? r.reflection above = .ok (above.find? (r.isBuiltin g)) := by
  apply firstBuiltin?_of_texts
  intro a _ l hl
  obtain ⟨s, rfl⟩ := htexts.text_of_qualifiedName l hl
  rfl

def strayFault (r : StaticRegistry) (g : GeneratorCompiler) (c : ClassId) : Fault :=
  .noBuiltinAncestor (r.reflection.described c)
    (String.intercalate ", " (g.namespaces.map (·.source))) g.root

theorem baseClass_of_chain (htexts : r.TextNames) {c : ClassId} {above : List ClassId}
    (h : r.Chain (r.get c).base above) :
    g.baseClass r.reflection c =
      match above.find? (r.isBuiltin g) with
      | some b => .ok b
      | none => .error (r.strayFault g c) := by
  have hancestors : r.reflection.ancestors c = .ok above := ancestors_eq_ok_iff.mpr h
  have hfirst := firstBuiltin?_eq (g := g) htexts above
  unfold GeneratorCompiler.baseClass
  rw [hancestors]
  simp only [bind, Except.bind, hfirst]
  cases above.find? (r.isBuiltin g) <;> rfl

theorem baseClass_of_nearest (htexts : r.TextNames) {c b : ClassId} (h : r.Nearest g c b) :
    g.baseClass r.reflection c = .ok b := by
  obtain ⟨above, hchain, hfind⟩ := h
  rw [baseClass_of_chain htexts hchain, hfind]

theorem outcome_contribution (c b : ClassId) :
    (GeneratorCompiler.contribution r.reflection c b).outcome = .ok (r.added c b) := rfl

theorem verdict_of_nearest (htexts : r.TextNames) {c b : ClassId} (h : r.Nearest g c b)
    {name : String} (hname : (r.get c).name = some (.text name)) :
    g.verdict r.reflection c =
      if (r.added c b).isEmpty then .nothing
      else if name.isEmpty then .fault .emptyClassPath
      else .stub (Site.ofPath (r.get c).module name) (r.added c b) := by
  rw [GeneratorCompiler.verdict_of_ok (baseClass_of_nearest htexts h) (outcome_contribution c b)]
  have hpath : r.reflection.classPath c = some (.text name) := by rw [htexts.classPath, hname]
  unfold Reflection.placing
  rw [hpath]
  cases hempty : name.isEmpty <;>
    simp [Label.value, Value.isTruthy, Label.text?, Value.text?, hempty]

theorem verdict_of_stray (htexts : r.TextNames) {c : ClassId} {above : List ClassId}
    (hchain : r.Chain (r.get c).base above) (h : ¬ ∃ b, r.Nearest g c b) :
    g.verdict r.reflection c = .fault (r.strayFault g c) := by
  have hfind : above.find? (r.isBuiltin g) = none := by
    cases hfound : above.find? (r.isBuiltin g) with
    | none => rfl
    | some b => exact (h ⟨b, above, hchain, hfound⟩).elim
  have hbase := baseClass_of_chain (g := g) htexts hchain
  rw [hfind] at hbase
  simp only [GeneratorCompiler.verdict, hbase]

/-! ## Contributions -/

/-- A candidate that adds something to its nearest built-in ancestor. -/
structure Contributes (r : StaticRegistry) (g : GeneratorCompiler) (c b : ClassId)
    (name : String) : Prop where
  candidate : r.Candidate g c
  nearest : r.Nearest g c b
  adds : ¬ (r.added c b).isEmpty
  name : (r.get c).name = some (.text name)

/-- Names are texts, no bases above a class that is looked at run into a cycle, and no class that
contributes has an empty name. -/
structure Workable (r : StaticRegistry) (g : GeneratorCompiler) : Prop where
  texts : r.TextNames
  chains : (r.lookup g.root).isSome → ∀ c ∈ r.registered, r.isOwn g c →
    ∃ above, r.Chain (r.get c).base above
  named : ∀ c b name, r.Contributes g c b name → name ≠ ""

theorem TextNames.exists_name (h : r.TextNames) {c : ClassId} (hc : r.isOwn g c) :
    ∃ name, (r.get c).name = some (.text name) := by
  cases hname : (r.get c).name with
  | none => simp [isOwn, nameOf?, SyntheticClass.qualifiedName, hname] at hc
  | some l =>
      obtain ⟨s, rfl⟩ := h c l hname
      exact ⟨s, rfl⟩

/-- The verdict on a candidate: it has nothing to add, contributes, or has no built-in ancestor. -/
theorem Candidate.verdict_cases (htexts : r.TextNames) {c : ClassId} (hc : r.Candidate g c) :
    ((∃ b, r.Nearest g c b ∧ (r.added c b).isEmpty) ∧ g.verdict r.reflection c = .nothing) ∨
    (∃ b name, r.Contributes g c b name ∧
      g.verdict r.reflection c = if name.isEmpty then .fault .emptyClassPath
        else .stub (Site.ofPath (r.get c).module name) (r.added c b)) ∨
    ((¬ ∃ b, r.Nearest g c b) ∧ g.verdict r.reflection c = .fault (r.strayFault g c)) := by
  by_cases hb : ∃ b, r.Nearest g c b
  · obtain ⟨b, hb⟩ := hb
    obtain ⟨name, hname⟩ := htexts.exists_name hc.own
    have hv := verdict_of_nearest htexts hb hname
    by_cases hempty : (r.added c b).isEmpty
    · exact Or.inl ⟨⟨b, hb, hempty⟩, by rw [hv, if_pos hempty]⟩
    · exact Or.inr (Or.inl ⟨b, name, ⟨hc, hb, hempty, hname⟩, by rw [hv, if_neg hempty]⟩)
  · obtain ⟨root, above, -, habove, -⟩ := hc.below
    exact Or.inr (Or.inr ⟨hb, verdict_of_stray htexts habove hb⟩)

theorem Contributes.verdict (htexts : r.TextNames) {c b : ClassId} {name : String}
    (h : r.Contributes g c b name) (hne : name ≠ "") :
    g.verdict r.reflection c = .stub (Site.ofPath (r.get c).module name) (r.added c b) := by
  have hempty : name.isEmpty = false := String.isEmpty_eq_false_iff.mpr hne
  rw [verdict_of_nearest htexts h.nearest h.name, if_neg h.adds, hempty]
  rfl

namespace Workable

theorem fatal?_eq_none (h : r.Workable g) {c : ClassId} (hc : r.Candidate g c) :
    (g.verdict r.reflection c).fatal? = none := by
  rcases hc.verdict_cases h.texts with ⟨-, hv⟩ | ⟨b, name, hcontributes, -⟩ | ⟨-, hv⟩
  · rw [hv]
    rfl
  · rw [hcontributes.verdict h.texts (h.named c b name hcontributes)]
    rfl
  · rw [hv]
    rfl

theorem mem_edits_iff (h : r.Workable g) {cs : List ClassId}
    (hcs : ∀ c, c ∈ cs ↔ r.Candidate g c) {e : Site × List Accessor} :
    e ∈ g.edits r.reflection cs ↔ ∃ c b name, r.Contributes g c b name ∧
      e = (Site.ofPath (r.get c).module name, (r.added c b).accessors) := by
  rw [GeneratorCompiler.mem_edits]
  constructor
  · rintro ⟨c, hc, added, hv, haccessors⟩
    rcases ((hcs c).mp hc).verdict_cases h.texts with ⟨-, hv'⟩ | ⟨b, name, hb, -⟩ | ⟨-, hv'⟩
    · simp [hv'] at hv
    · rw [hb.verdict h.texts (h.named c b name hb)] at hv
      obtain ⟨hs, rfl⟩ := Verdict.stub.inj hv
      exact ⟨c, b, name, hb, Prod.ext hs.symm haccessors⟩
    · simp [hv'] at hv
  · rintro ⟨c, b, name, hb, rfl⟩
    exact ⟨c, (hcs c).mpr hb.candidate, _, hb.verdict h.texts (h.named c b name hb), rfl⟩

open Classical in
theorem noted?_eq (h : r.Workable g) {c : ClassId} (hc : r.Candidate g c) :
    (g.verdict r.reflection c).noted? =
      if ∃ b, r.Nearest g c b then none else some (r.strayFault g c) := by
  rcases hc.verdict_cases h.texts with ⟨⟨b, hb, -⟩, hv⟩ | ⟨b, name, hb, -⟩ | ⟨hstray, hv⟩
  · rw [hv, if_pos ⟨b, hb⟩]
    rfl
  · rw [hb.verdict h.texts (h.named c b name hb), if_pos ⟨b, hb.nearest⟩]
    rfl
  · rw [hv, if_neg hstray]
    rfl

open Classical in
theorem notes_eq (h : r.Workable g) {cs : List ClassId} (hcs : ∀ c ∈ cs, r.Candidate g c) :
    g.notes r.reflection cs = (cs.filter fun c => ¬ ∃ b, r.Nearest g c b).map fun c =>
      Compiler.failure r.reflection (.generators g) c (r.strayFault g c) := by
  induction cs with
  | nil => rfl
  | cons c cs ih =>
      have hrest := ih fun d hd => hcs d (List.mem_cons_of_mem c hd)
      unfold GeneratorCompiler.notes at hrest ⊢
      rw [List.filterMap_cons, h.noted?_eq (hcs c List.mem_cons_self), hrest]
      by_cases hb : ∃ b, r.Nearest g c b
      · rw [if_pos hb, List.filter_cons_of_neg (by simpa using hb)]
        rfl
      · rw [if_neg hb, List.filter_cons_of_pos (by simpa using hb)]
        rfl

end Workable

end StaticRegistry

end TypeStubs
