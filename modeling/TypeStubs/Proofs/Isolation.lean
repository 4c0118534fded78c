import TypeStubs.Proofs.Exactness
import TypeStubs.Registry.Live

/-!
# Failures leave no trace

A class that cannot be processed leaves the tree as it is, and is named in exactly one failure. A
build is what it would be without the classes that failed.
-/

namespace TypeStubs

open ClassNode StubTree Scaffold

/-- A registry of either kind. -/
inductive Registry where
  | static (r : StaticRegistry)
  | live (u : Universe) (names : AttributeNames)

def Registry.reflection : Registry → Reflection Nat
  | static r => r.reflection
  | live u names => Live.reflection u names

variable {C : Type}

/-- What goes wrong in reading classes is never put down to one class by the reading itself. -/
structure Reflection.Plain (r : Reflection C) : Prop where
  ancestors : ∀ {c f}, r.ancestors c = .error f → f.owner? = none
  arguments : ∀ {c f}, (r.arguments c).outcome = .error f → f.owner? = none
  options : ∀ {c f}, (r.options c).outcome = .error f → f.owner? = none

/-! ## Faults in reading -/

theorem ArgumentSpec.ofDeclaration_error {v name : Value} {f : Fault}
    (h : ArgumentSpec.ofDeclaration v name = .error f) : f = .unnamedDeclaration := by
  unfold ofDeclaration at h
  generalize (if name.isNull then v.read "name" else name) = given at h
  by_cases hgiven : given.isTruthy
  · simp [hgiven] at h
  · simp only [hgiven] at h
    exact (Except.error.inj h).symm

theorem readOptions_error {entries : List (Value × Value)} {f : Fault}
    (h : readOptions entries = .error f) : f = .unnamedDeclaration := by
  obtain ⟨options, entry, -, hentry⟩ := foldlM_error h
  cases hspec : ArgumentSpec.ofDeclaration entry.2 (.text entry.1.plain) with
  | ok spec => simp [hspec, bind, Except.bind, pure, Except.pure] at hentry
  | error f' =>
      simp only [hspec, bind, Except.bind] at hentry
      obtain rfl := Except.error.inj hentry
      exact ArgumentSpec.ofDeclaration_error hspec

theorem StaticRegistry.plain (r : StaticRegistry) : r.reflection.Plain where
  ancestors := by
    intro c f h
    obtain ⟨i, rfl⟩ := ancestors_error h
    rfl
  arguments := fun h => by simp [reflection] at h
  options := fun h => by simp [reflection] at h

theorem Live.plain (u : Universe) (names : AttributeNames) : (reflection u names).Plain where
  ancestors := fun h => by simp [reflection] at h
  arguments := by
    intro c f h
    change (arguments u names c).outcome = _ at h
    unfold arguments at h
    split at h
    · obtain ⟨item, -, hitem⟩ := mapM_error h
      rw [ArgumentSpec.ofDeclaration_error hitem]
      rfl
    · simp [bind] at h
  options := by
    intro c f h
    change (options u names c).outcome = _ at h
    unfold options at h
    split at h
    · rw [readOptions_error h]
      rfl
    · simp at h

theorem Registry.plain (k : Registry) : k.reflection.Plain := by
  cases k with
  | static r => exact r.plain
  | live u names => exact Live.plain u names

/-! ## One class -/

namespace GeneratorCompiler

variable {g : GeneratorCompiler} {r : Reflection C} {c : C}

/-- A fault leaves the tree as it was, unless the path of the class is no text: then its module has
been opened. -/
theorem tree_of_fault {w : Workbench} {f : Fault} (h : ((g.process r c).perform w).1 = .error f) :
    ((g.process r c).perform w).2.tree = w.tree ∨
      (∃ path, r.classPath c = some path ∧ path.text? = none ∧ f = path.value.splitFault) ∧
        ((g.process r c).perform w).2.tree = w.tree.openModule (r.moduleOf c) := by
  obtain ⟨houtcome, htree⟩ := g.process_does r c w
  rw [houtcome] at h
  rw [htree]
  cases hv : g.verdict r c with
  | nothing => simp [hv, Verdict.outcome] at h
  | stub s added => simp [hv, Verdict.outcome] at h
  | fault f' => exact Or.inl rfl
  | stuck module f' =>
      rw [hv] at h
      obtain rfl : f' = f := Except.error.inj h
      obtain ⟨base, added, -, -, -, hplacing⟩ := verdict_eq_placing hv (by simp) (by simp)
      obtain ⟨rfl, path, hpath, htext, hfault⟩ := Reflection.placing_eq_stuck hplacing.symm
      exact Or.inr ⟨⟨path, hpath, htext, hfault⟩, rfl⟩

theorem isBuiltinLabel_error {l : Label} {f : Fault} (h : g.isBuiltinLabel l = .error f) :
    f = .wrongType := by
  unfold isBuiltinLabel at h
  split at h
  · simp at h
  · exact (Except.error.inj h).symm

theorem firstBuiltin?_error {cs : List C} {f : Fault} (h : g.firstBuiltin? r cs = .error f) :
    f = .wrongType := by
  induction cs with
  | nil => simp [firstBuiltin?] at h
  | cons c cs ih =>
      rw [firstBuiltin?] at h
      cases hname : r.name c with
      | none =>
          rw [hname] at h
          exact ih h
      | some l =>
          cases hl : g.isBuiltinLabel l with
          | error e =>
              simp only [hname, hl] at h
              exact Except.error.inj h ▸ isBuiltinLabel_error hl
          | ok found =>
              simp only [hname, hl] at h
              cases found with
              | true => simp at h
              | false => exact ih h

/-- A fault names the class that is processed, or no class at all. -/
def Names (r : Reflection C) (c : C) (f : Fault) : Prop :=
  f.owner? = none ∨ f.owner? = some (r.described c)

theorem names_of_baseClass (hplain : r.Plain) {f : Fault} (h : g.baseClass r c = .error f) :
    Names r c f := by
  unfold baseClass at h
  cases hancestors : r.ancestors c with
  | error e =>
      rw [hancestors] at h
      exact Or.inl (Except.error.inj h ▸ hplain.ancestors hancestors)
  | ok above =>
      cases hfirst : g.firstBuiltin? r above with
      | error e =>
          simp only [hancestors, hfirst, bind, Except.bind] at h
          obtain rfl := Except.error.inj h
          rw [firstBuiltin?_error hfirst]
          exact Or.inl rfl
      | ok found =>
          simp only [hancestors, hfirst, bind, Except.bind] at h
          cases found with
          | some b => simp [pure, Except.pure] at h
          | none =>
              obtain rfl := Except.error.inj h
              exact Or.inr rfl

theorem owner?_of_contribution (hplain : r.Plain) {b : C} {f : Fault}
    (h : (contribution r c b).outcome = .error f) : f.owner? = none := by
  unfold contribution at h
  simp only [bind] at h
  split at h
  · rename_i e he
    exact Except.error.inj h ▸ hplain.arguments he
  · split at h
    · rename_i e he
      exact Except.error.inj h ▸ hplain.arguments he
    · split at h
      · rename_i e he
        exact Except.error.inj h ▸ hplain.options he
      · split at h
        · rename_i e he
          exact Except.error.inj h ▸ hplain.options he
        · simp at h

theorem names_unreadable {f : Fault} (h : f.owner? = none) : Names r c (unreadable r c f) := by
  unfold unreadable
  split
  · exact Or.inr rfl
  · exact Or.inl h

theorem owner?_splitFault (v : Value) : v.splitFault.owner? = none := by
  unfold Value.splitFault Value.methodFault
  split
  · rfl
  · split <;> rfl

theorem owner?_of_placing {added : Contribution} {f : Fault}
    (h : (r.placing c added).outcome = .error f) : f.owner? = none := by
  unfold Reflection.placing at h
  split at h
  · exact Except.error.inj h ▸ rfl
  · split at h
    · exact Except.error.inj h ▸ rfl
    · split at h
      · exact Except.error.inj h ▸ owner?_splitFault _
      · simp [Verdict.outcome] at h

theorem names_of_outcome (hplain : r.Plain) {f : Fault}
    (h : (g.verdict r c).outcome = .error f) : Names r c f := by
  cases hbase : g.baseClass r c with
  | error e =>
      simp only [verdict, hbase] at h
      exact names_of_baseClass hplain (Except.error.inj h ▸ hbase)
  | ok b =>
      cases hadded : (contribution r c b).outcome with
      | error e =>
          simp only [verdict, hbase, hadded] at h
          exact Except.error.inj h ▸ names_unreadable (owner?_of_contribution hplain hadded)
      | ok added =>
          rw [verdict_of_ok hbase hadded] at h
          split at h
          · simp [Verdict.outcome] at h
          · exact Or.inl (owner?_of_placing h)

theorem failure_eq (hplain : r.Plain) {f : Fault} (h : (g.verdict r c).outcome = .error f) :
    Compiler.failure r (.generators g) c f = ⟨name, r.described c, f.message⟩ := by
  have hclass : Compiler.failedClass r c f = r.described c := by
    unfold Compiler.failedClass
    rcases names_of_outcome hplain h with hnone | hsome
    · rw [hnone]
    · rw [hsome]
      exact ite_self _
  rw [Compiler.failure, hclass]
  rfl

end GeneratorCompiler

theorem Live.text?_classPath {u : Universe} {names : AttributeNames} {c : Nat} {path : Label}
    (h : (reflection u names).classPath c = some path) : path.text? ≠ none := by
  unfold Reflection.classPath at h
  obtain ⟨l, hl, rfl⟩ := Option.map_eq_some_iff.mp h
  have htext : ∃ s, l = .text s := by
    change qualifiedName (u.get c) = some l at hl
    unfold qualifiedName at hl
    split at hl
    · simp at hl
    · split at hl
      · simp at hl
      · exact ⟨_, (Option.some.inj hl).symm⟩
  obtain ⟨s, rfl⟩ := htext
  dsimp only
  split <;> simp [Label.text?, Label.value, Value.text?]

/-! ## A whole build -/

/-- A compiler and the registry it runs over. -/
structure Job where
  registry : Registry
  compiler : GeneratorCompiler

namespace Job

def bound (j : Job) : BoundCompiler := ⟨Nat, j.registry.reflection, .generators j.compiler⟩

def candidates (j : Job) : Except Fault (List Nat) := j.compiler.selected j.registry.reflection

def process (j : Job) (c : Nat) : TreeWork Unit := j.compiler.process j.registry.reflection c

def verdict (j : Job) (c : Nat) : Verdict := j.compiler.verdict j.registry.reflection c

/-- The fault with which processing a class ends, if it does. -/
def fault? (j : Job) (c : Nat) : Option Fault :=
  match ((j.process c).perform ⟨.empty, #[]⟩).1 with
  | .ok () => none
  | .error f => some f

def treeAfter (j : Job) (c : Nat) (t : StubTree) : StubTree :=
  ((j.process c).perform ⟨t, #[]⟩).2.tree

/-- The report on a class that cannot be processed: it has the qualified name of the class, or shows
the class if that name is empty. -/
def report? (j : Job) (c : Nat) : Option Failure :=
  (j.fault? c).map fun f =>
    ⟨GeneratorCompiler.name, j.registry.reflection.described c, f.message⟩

theorem process_does (j : Job) (c : Nat) :
    (j.process c).Does fun t => ((j.verdict c).outcome, (j.verdict c).leaves t) :=
  j.compiler.process_does j.registry.reflection c

theorem treeAfter_eq (j : Job) (c : Nat) (t : StubTree) :
    j.treeAfter c t = (j.verdict c).leaves t := (j.process_does c ⟨t, #[]⟩).2

theorem fault?_eq_noted? {j : Job} {c : Nat} (h : (j.verdict c).fatal? = none) :
    j.fault? c = (j.verdict c).noted? := by
  unfold fault?
  rw [(j.process_does c _).1]
  unfold Verdict.fatal? at h
  unfold Verdict.noted?
  cases houtcome : (j.verdict c).outcome with
  | ok u => rfl
  | error f =>
      rw [houtcome] at h
      by_cases hf : f.family.isCompilation
      · simp [hf]
      · simp [hf] at h

theorem leaves_of_noted {j : Job} {c : Nat} (h : (j.verdict c).fatal? = none) {f : Fault}
    (hf : (j.verdict c).noted? = some f) (t : StubTree) : (j.verdict c).leaves t = t := by
  cases hv : j.verdict c with
  | nothing => rfl
  | fault f => rfl
  | stub s added => simp [hv, Verdict.noted?, Verdict.outcome] at hf
  | stuck module f =>
      have hfatal := GeneratorCompiler.fatal?_of_stuck hv
      rw [show j.compiler.verdict j.registry.reflection c = j.verdict c from rfl, h] at hfatal
      simp at hfatal

theorem report?_eq {j : Job} {c : Nat} (h : (j.verdict c).fatal? = none) :
    j.report? c = (j.verdict c).noted?.map
      (Compiler.failure j.registry.reflection (.generators j.compiler) c) := by
  unfold report?
  rw [fault?_eq_noted? h]
  cases hf : (j.verdict c).noted? with
  | none => rfl
  | some f =>
      have houtcome : (j.verdict c).outcome = .error f := by
        unfold Verdict.noted? at hf
        split at hf
        · simp at hf
        · rename_i f' hf'
          split at hf
          · rw [hf', Option.some.inj hf]
          · simp at hf
      rw [Option.map_some, Option.map_some,
        GeneratorCompiler.failure_eq j.registry.plain houtcome]

end Job

/-- Each job with each of its classes, in the order in which they are processed. -/
def tasks (jobs : List Job) (lists : List (List Nat)) : List (Job × Nat) :=
  (jobs.zip lists).flatMap fun p => p.2.map fun c => (p.1, c)

theorem exists_lists_of_build {jobs : List Job} {b built : Build}
    (h : jobs.foldlM (fun b j => j.candidates >>= fun cs =>
      j.compiler.settled j.registry.reflection cs b) b = .ok built) :
    ∃ lists, List.Forall₂ (fun j cs => j.candidates = .ok cs) jobs lists ∧
      (∀ p ∈ tasks jobs lists, (p.1.verdict p.2).fatal? = none) ∧
      built.tree = (tasks jobs lists).foldl (fun t p => (p.1.verdict p.2).leaves t) b.tree ∧
      built.failures = b.failures ++ (tasks jobs lists).filterMap fun p => p.1.report? p.2 := by
  induction jobs generalizing b with
  | nil =>
      obtain rfl := Except.ok.inj h
      exact ⟨[], .nil, by simp [tasks], rfl, by simp [tasks]⟩
  | cons j jobs ih =>
      rw [List.foldlM_cons] at h
      cases hcs : j.candidates with
      | error f => simp [hcs, bind, Except.bind] at h
      | ok cs =>
          cases hfirst : j.compiler.firstFatal? j.registry.reflection cs with
          | some f =>
              simp [hcs, GeneratorCompiler.settled, hfirst, bind, Except.bind] at h
          | none =>
              simp only [hcs, GeneratorCompiler.settled, hfirst, bind, Except.bind] at h
              obtain ⟨lists, hlists, hfatal, htree, hfailures⟩ := ih h
              have hhead := GeneratorCompiler.fatal?_eq_none_of_firstFatal? _ _ hfirst
              have htasks : tasks (j :: jobs) (cs :: lists) =
                  cs.map (fun c => (j, c)) ++ tasks jobs lists := rfl
              refine ⟨cs :: lists, .cons hcs hlists, ?_, ?_, ?_⟩
              · intro p hp
                rw [htasks] at hp
                rcases List.mem_append.mp hp with hp | hp
                · obtain ⟨c, hc, rfl⟩ := List.mem_map.mp hp
                  exact hhead c hc
                · exact hfatal p hp
              · rw [htree, htasks, List.foldl_append, List.foldl_map]
                rfl
              · rw [hfailures, htasks, List.filterMap_append, List.filterMap_map,
                  List.append_assoc]
                congr 2
                apply List.filterMap_congr
                intro c hc
                exact (Job.report?_eq (hhead c hc)).symm

/-- Whether and how processing a class fails does not depend on the tree. A failure leaves the tree
as it was; only where the path of a synthetic class is no text, its module has been opened. Hence
the tree of a build is that of the classes that did not fail, processed in order, and the failures
are the reports on those that did, one for each and in order. -/
theorem build_isolated :
    (∀ (j : Job) c w w', ((j.process c).perform w).1 = ((j.process c).perform w').1) ∧
    (∀ (j : Job) c w f, ((j.process c).perform w).1 = .error f →
      ((j.process c).perform w).2.tree = w.tree ∨
        (∃ r, j.registry = .static r ∧
          ∃ path, r.reflection.classPath c = some path ∧ path.text? = none) ∧
        ((j.process c).perform w).2.tree =
          w.tree.openModule (j.registry.reflection.moduleOf c)) ∧
    ∀ (jobs : List Job) built log log',
      (BoundCompiler.build (jobs.map Job.bound)).perform log = (.ok built, log') →
      ∃ lists, List.Forall₂ (fun j cs => j.candidates = .ok cs) jobs lists ∧
        built.tree = ((tasks jobs lists).filter fun p => (p.1.fault? p.2).isNone).foldl
          (fun t p => p.1.treeAfter p.2 t) .empty ∧
        built.failures = (tasks jobs lists).filterMap fun p => p.1.report? p.2 := by
  refine ⟨?_, ?_, ?_⟩
  · intro j c w w'
    rw [(j.process_does c w).1, (j.process_does c w').1]
  · intro j c w f h
    rcases GeneratorCompiler.tree_of_fault h with hsame | ⟨⟨path, hpath, htext, -⟩, hopened⟩
    · exact Or.inl hsame
    · refine Or.inr ⟨?_, hopened⟩
      cases hregistry : j.registry with
      | static r =>
          rw [hregistry] at hpath
          exact ⟨r, rfl, path, hpath, htext⟩
      | live u names =>
          rw [hregistry] at hpath
          exact (Live.text?_classPath hpath htext).elim
  · intro jobs built log log' h
    have hgives := Compiler.build_gives (fun _ : Job => Nat) (fun j => j.registry.reflection)
      (fun j => j.compiler) jobs
    have hfold := (hgives log).symm.trans (congrArg Prod.fst h)
    obtain ⟨lists, hlists, hfatal, htree, hfailures⟩ := exists_lists_of_build hfold
    refine ⟨lists, hlists, ?_, hfailures⟩
    rw [htree, List.foldl_filter]
    apply List.foldl_ext
    intro t p hp
    rw [Job.treeAfter_eq]
    cases hnoted : (p.1.verdict p.2).noted? with
    | none => rw [Job.fault?_eq_noted? (hfatal p hp), hnoted]; rfl
    | some f =>
        rw [Job.fault?_eq_noted? (hfatal p hp), hnoted, Job.leaves_of_noted (hfatal p hp) hnoted]
        rfl

theorem exists_build_of_orderly (jobs : List Job)
    (h : ∀ j ∈ jobs, ∃ r, j.registry = .static r ∧ r.Orderly) :
    ∃ built, (BoundCompiler.build (jobs.map Job.bound)).Gives (.ok built) := by
  suffices hfold : ∀ b, ∃ built, jobs.foldlM (fun b j => j.candidates >>= fun cs =>
      j.compiler.settled j.registry.reflection cs b) b = .ok built by
    obtain ⟨built, hbuilt⟩ := hfold .empty
    exact ⟨built, (Compiler.build_gives (fun _ : Job => Nat) (fun j => j.registry.reflection)
      (fun j => j.compiler) jobs).congr hbuilt⟩
  induction jobs with
  | nil => exact fun b => ⟨b, rfl⟩
  | cons j jobs ih =>
      intro b
      obtain ⟨r, hr, horderly⟩ := h j List.mem_cons_self
      obtain ⟨cs, hselected, -, hsettled⟩ := (horderly.workable j.compiler).exists_settled
      rw [List.foldlM_cons, Job.candidates, hr, Registry.reflection, hselected]
      simp only [bind, Except.bind, hsettled]
      exact ih (fun j hj => h j (List.mem_cons_of_mem _ hj)) _

/-- A compiler that takes none of the classes for built in. -/
def strangerCompiler : GeneratorCompiler := ⟨"lib.Root", [⟨"^zzz", Text.startsWith "zzz"⟩]⟩

open GeneratorCompiler in
theorem build_isolated_of_nested : ∃ built log' lists,
    let jobs : List Job := [⟨.static nestedClasses, libraryCompiler⟩,
      ⟨.static nestedClasses, strangerCompiler⟩]
    (BoundCompiler.build (jobs.map Job.bound)).perform #[] = (.ok built, log') ∧
      List.Forall₂ (fun j cs => j.candidates = .ok cs) jobs lists ∧
      built.tree = ((tasks jobs lists).filter fun p => (p.1.fault? p.2).isNone).foldl
        (fun t p => p.1.treeAfter p.2 t) .empty ∧
      built.failures = (tasks jobs lists).filterMap fun p => p.1.report? p.2 := by
  obtain ⟨built, hbuilt⟩ := exists_build_of_orderly
    [⟨.static nestedClasses, libraryCompiler⟩, ⟨.static nestedClasses, strangerCompiler⟩] (by
      intro j hj
      simp only [List.mem_cons, List.not_mem_nil, or_false] at hj
      rcases hj with rfl | rfl <;> exact ⟨_, rfl, StaticRegistry.orderly_nestedClasses⟩)
  obtain ⟨log', hlog⟩ := hbuilt.perform #[]
  obtain ⟨lists, hlists, htree, hfailures⟩ := build_isolated.2.2 _ built #[] log' hlog
  exact ⟨built, log', lists, hlog, hlists, htree, hfailures⟩

/-- A class without a module whose name is a number. -/
def numberedClasses : StaticRegistry where
  store := #[⟨"lib", some (.text "Root"), none, [], []⟩,
    ⟨"", some (.other (.int 5)), some 0, [⟨"size", .numeric, true, false⟩], []⟩]
  registered := [0, 1]
  byName := [(.text "lib.Root", 0), (.int 5, 1)]

/-- A class whose module and name are empty. -/
def blankClasses : StaticRegistry where
  store := #[⟨"lib", some (.text "Root"), none, [], []⟩, ⟨"", some (.text ""), some 0, [], []⟩]
  registered := [0, 1]
  byName := [(.text "lib.Root", 0), (.text "", 1)]

open GeneratorCompiler in
/-- A failure may leave a module behind, and it may be reported under another name than the
qualified one. -/
theorem fault_leaves_trace :
    (¬ ∀ (j : Job) c w f, ((j.process c).perform w).1 = .error f →
      ((j.process c).perform w).2.tree = w.tree) ∧
    (blankClasses.get 1).qualifiedName = some (.text "") ∧
    ((BoundCompiler.build ([⟨.static blankClasses, strangerCompiler⟩].map Job.bound)).perform
      #[]).1.toOption.map (fun built => built.failures.map Failure.className) =
        some ["SyntheticClass(<anonymous>)"] := by
  refine ⟨fun h => ?_, rfl, by decide +kernel⟩
  have hsame := h ⟨.static numberedClasses, libraryCompiler⟩ 1 ⟨.empty, #[]⟩ .noAttribute rfl
  have hsize := congrArg StubTree.size hsame
  revert hsize
  decide

end TypeStubs
