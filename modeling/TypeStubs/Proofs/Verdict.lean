import TypeStubs.Compiler.Basic
import TypeStubs.Proofs.Sites
import TypeStubs.Proofs.Work

/-!
# What becomes of a class

The verdict on a class is found by reading alone: it says what the compiler will do to any tree,
and with which outcome. A run over many classes is told by their verdicts.
-/

namespace TypeStubs

open ClassNode StubTree

/-! ## Readings -/

namespace Reading

variable {α β : Type}

@[simp] theorem outcome_pure (x : α) : (pure x : Reading α).outcome = .ok x := rfl

@[simp] theorem outcome_note (level : Level) (logger message : String) :
    (Reading.note level logger message).outcome = .ok () := rfl

@[simp] theorem outcome_bind (x : Reading α) (f : α → Reading β) :
    (x >>= f).outcome = x.outcome >>= fun a => (f a).outcome := by
  obtain ⟨outcome, log⟩ := x
  cases outcome <;> rfl

end Reading

/-- What the compiler will do for a class. -/
inductive Verdict where
  /-- The class adds nothing and needs no stub. -/
  | nothing
  /-- The class gets accessors at a site. -/
  | stub (s : Site) (added : Contribution)
  /-- The fault comes up before the tree is touched. -/
  | fault (f : Fault)
  /-- The path of the class is no text, which shows when its module is open already. -/
  | stuck (module : String) (f : Fault)

def Contribution.accessors (c : Contribution) : List Accessor :=
  c.arguments.map (fun a => ⟨a.name, a.accessorType⟩) ++
    c.options.map fun o => ⟨o.1, o.2.accessorType⟩

theorem Contribution.accessors_ne_nil {c : Contribution} (h : ¬ c.isEmpty) : c.accessors ≠ [] := by
  intro hnil
  obtain ⟨harguments, hoptions⟩ := List.append_eq_nil_iff.mp hnil
  rw [List.map_eq_nil_iff] at harguments hoptions
  exact h (by simp [isEmpty, harguments, hoptions])

namespace Verdict

def outcome : Verdict → Except Fault Unit
  | nothing | stub _ _ => .ok ()
  | fault f | stuck _ f => .error f

def leaves : Verdict → StubTree → StubTree
  | nothing, t | fault _, t => t
  | stub s added, t => t.change s (onAccessors (putAll added.accessors))
  | stuck module _, t => t.openModule module

def fatal? (v : Verdict) : Option Fault :=
  match v.outcome with
  | .ok () => none
  | .error f => if f.family.isCompilation then none else some f

/-- The fault that is noted while a run goes on. -/
def noted? (v : Verdict) : Option Fault :=
  match v.outcome with
  | .ok () => none
  | .error f => if f.family.isCompilation then some f else none

/-- The accessors that are set, and where. -/
def edit? : Verdict → Option (Site × List Accessor)
  | stub s added => some (s, added.accessors)
  | _ => none

end Verdict

variable {C : Type}

/-- The verdict on a class that adds something. -/
def Reflection.placing (r : Reflection C) (c : C) (added : Contribution) : Verdict :=
  match r.classPath c with
  | none => .fault .anonymousStub
  | some path =>
    if !path.value.isTruthy then .fault .emptyClassPath
    else
      match path.text? with
      | none => .stuck (r.moduleOf c) path.value.splitFault
      | some s => .stub (Site.ofPath (r.moduleOf c) s) added

def GeneratorCompiler.verdict (g : GeneratorCompiler) (r : Reflection C) (c : C) : Verdict :=
  match g.baseClass r c with
  | .error f => .fault f
  | .ok base =>
    match (contribution r c base).outcome with
    | .error f => .fault (unreadable r c f)
    | .ok added => if added.isEmpty then .nothing else r.placing c added

def Reflection.textPath (r : Reflection C) (c : C) : Option String :=
  (r.classPath c).bind Label.text?

/-! ## Reading a verdict -/

section Verdicts

variable {g : GeneratorCompiler} {r : Reflection C} {c : C}

theorem Reflection.placing_eq_stub {added added' : Contribution} {s : Site}
    (h : r.placing c added = .stub s added') :
    added' = added ∧ ∃ path, r.textPath c = some path ∧ s = Site.ofPath (r.moduleOf c) path := by
  unfold placing at h
  unfold textPath
  cases hpath : r.classPath c with
  | none => simp [hpath] at h
  | some l =>
      by_cases htrue : l.value.isTruthy
      · cases htext : l.text? with
        | none => simp [hpath, htrue, htext] at h
        | some path =>
            simp only [hpath, htrue, htext] at h
            obtain ⟨rfl, rfl⟩ := Verdict.stub.inj h
            exact ⟨rfl, path, htext, rfl⟩
      · simp [hpath, htrue] at h

theorem Reflection.placing_eq_stuck {added : Contribution} {module : String} {f : Fault}
    (h : r.placing c added = .stuck module f) :
    module = r.moduleOf c ∧
      ∃ path, r.classPath c = some path ∧ path.text? = none ∧ f = path.value.splitFault := by
  unfold placing at h
  cases hpath : r.classPath c with
  | none => simp [hpath] at h
  | some l =>
      by_cases htrue : l.value.isTruthy
      · cases htext : l.text? with
        | none =>
            simp only [hpath, htrue, htext] at h
            obtain ⟨rfl, rfl⟩ := Verdict.stuck.inj h
            exact ⟨rfl, l, rfl, htext, rfl⟩
        | some path => simp [hpath, htrue, htext] at h
      · simp [hpath, htrue] at h

theorem GeneratorCompiler.verdict_of_ok {base : C} {added : Contribution}
    (hbase : g.baseClass r c = .ok base) (hadded : (contribution r c base).outcome = .ok added) :
    g.verdict r c = if added.isEmpty then .nothing else r.placing c added := by
  simp only [verdict, hbase, hadded]

/-- A class that is placed, or fails to be, has a base and adds something to it. -/
theorem GeneratorCompiler.verdict_eq_placing {v : Verdict} (h : g.verdict r c = v)
    (hnothing : v ≠ .nothing) (hfault : ∀ f, v ≠ .fault f) :
    ∃ base added, g.baseClass r c = .ok base ∧ (contribution r c base).outcome = .ok added ∧
      ¬ added.isEmpty ∧ v = r.placing c added := by
  cases hbase : g.baseClass r c with
  | error f =>
      simp only [verdict, hbase] at h
      exact (hfault f h.symm).elim
  | ok base =>
      cases hadded : (contribution r c base).outcome with
      | error f =>
          simp only [verdict, hbase, hadded] at h
          exact (hfault _ h.symm).elim
      | ok added =>
          rw [verdict_of_ok hbase hadded] at h
          by_cases hempty : added.isEmpty
          · rw [if_pos hempty] at h
            exact (hnothing h.symm).elim
          · rw [if_neg hempty] at h
            exact ⟨base, added, rfl, hadded, hempty, h.symm⟩

theorem GeneratorCompiler.verdict_eq_stub {s : Site} {added : Contribution}
    (h : g.verdict r c = .stub s added) :
    ¬ added.isEmpty ∧ ∃ path, r.textPath c = some path ∧ s = Site.ofPath (r.moduleOf c) path := by
  obtain ⟨base, added', -, -, hempty, hplacing⟩ := verdict_eq_placing h (by simp) (by simp)
  obtain ⟨rfl, hpath⟩ := Reflection.placing_eq_stub hplacing.symm
  exact ⟨hempty, hpath⟩

theorem isCompilation_splitFault (v : Value) : v.splitFault.family.isCompilation = false := by
  unfold Value.splitFault Value.methodFault
  split
  · rfl
  · split <;> rfl

/-- A path that is no text ends the whole run. -/
theorem GeneratorCompiler.fatal?_of_stuck {module : String} {f : Fault}
    (h : g.verdict r c = .stuck module f) : (g.verdict r c).fatal? = some f := by
  obtain ⟨base, added, -, -, -, hplacing⟩ := verdict_eq_placing h (by simp) (by simp)
  obtain ⟨-, path, -, -, rfl⟩ := Reflection.placing_eq_stuck hplacing.symm
  rw [h]
  simp [Verdict.fatal?, Verdict.outcome, isCompilation_splitFault]

end Verdicts

/-! ## One class -/

namespace GeneratorCompiler

theorem foldl_setAccessor {α : Type} (accessor : α → Accessor) (s : Site) (xs : List α)
    (h : List Accessor → List Accessor) (t : StubTree) :
    xs.foldl (fun t x => t.change s fun n => n.setAccessor (accessor x).name (accessor x).type)
        (t.change s (onAccessors h)) =
      t.change s (onAccessors (putAll (xs.map accessor) ∘ h)) := by
  induction xs generalizing h with
  | nil => rfl
  | cons x xs ih =>
      have hset : (fun n : ClassNode => n.setAccessor (accessor x).name (accessor x).type) =
          onAccessors (putAccessor (accessor x)) := rfl
      rw [List.foldl_cons, hset, change_change t s (name_onAccessors h)]
      exact ih (putAccessor (accessor x) ∘ h)

theorem does_emitOption (r : Reflection C) (c : C) (s : Site) (arguments : List ArgumentSpec)
    (o : String × ArgumentSpec) :
    (emitOption r c s arguments o).Does fun t =>
      (.ok (), t.change s fun n => n.setAccessor o.1 o.2.accessorType) := by
  unfold emitOption
  by_cases hclash : arguments.any (·.name == o.1)
  · simp only [hclash, if_true]
    exact (TreeWork.does_note _ _ _).bind fun _ => TreeWork.does_setAccessor _ _ _
  · simp only [hclash]
    exact TreeWork.does_setAccessor _ _ _

/-- At a site that is open, the accessors of a contribution are set in their order. -/
theorem does_emit (r : Reflection C) (c : C) (s : Site) (added : Contribution) :
    (emit r c s added).Does fun t =>
      (.ok (), added.options.foldl
        (fun t o => t.change s fun n => n.setAccessor o.1 o.2.accessorType)
        (added.arguments.foldl (fun t a => t.change s fun n => n.setAccessor a.name a.accessorType)
          t)) :=
  (TreeWork.Does.forM (fun a : ArgumentSpec => TreeWork.does_setAccessor s a.name a.accessorType)
    added.arguments).bind fun _ =>
      TreeWork.Does.forM (does_emitOption r c s added.arguments) added.options

theorem does_placing (r : Reflection C) (c : C) (added : Contribution) :
    (TreeWork.openClass r c >>= fun s => emit r c s added).Does fun t =>
      ((r.placing c added).outcome, (r.placing c added).leaves t) := by
  unfold TreeWork.openClass Reflection.placing
  cases r.classPath c with
  | none => exact (TreeWork.does_throw _).bind fun s => does_emit r c s added
  | some path =>
      by_cases htrue : path.value.isTruthy
      · simp only [htrue, Bool.not_true, Bool.false_eq_true, if_false]
        have hopen := TreeWork.does_changes (·.openModule (r.moduleOf c))
        cases path.text? with
        | none =>
            exact (hopen.bind fun _ => TreeWork.does_throw _).bind fun s => does_emit r c s added
        | some text =>
            have hsite := hopen.bind fun _ =>
              (TreeWork.does_changes (·.change (Site.ofPath (r.moduleOf c) text) id)).bind
                fun _ => TreeWork.does_pure (Site.ofPath (r.moduleOf c) text)
            refine (hsite.bind fun s => does_emit r c s added).congr fun t => ?_
            have hmodule := change_openModule t (Site.ofPath (r.moduleOf c) text) id
            rw [Site.module_ofPath] at hmodule
            simp only [Verdict.outcome, Verdict.leaves, Contribution.accessors, hmodule]
            rw [← onAccessors_id,
              foldl_setAccessor (fun a : ArgumentSpec => ⟨a.name, a.accessorType⟩),
              foldl_setAccessor (fun o : String × ArgumentSpec => ⟨o.1, o.2.accessorType⟩)]
            congr 3
            funext done
            simp [putAll_append]
      · simp only [htrue, Bool.not_false, if_true]
        exact (TreeWork.does_throw _).bind fun s => does_emit r c s added

theorem does_unlessEmpty (r : Reflection C) (c : C) (added : Contribution) :
    (if added.isEmpty then pure () else
      TreeWork.openClass r c >>= fun s => emit r c s added : TreeWork Unit).Does fun t =>
      ((if added.isEmpty then Verdict.nothing else r.placing c added).outcome,
        (if added.isEmpty then Verdict.nothing else r.placing c added).leaves t) := by
  split
  · exact TreeWork.does_pure ()
  · exact does_placing r c added

theorem process_does (g : GeneratorCompiler) (r : Reflection C) (c : C) :
    (g.process r c).Does fun t => ((g.verdict r c).outcome, (g.verdict r c).leaves t) := by
  have hread : ∀ base : C, _ := fun base =>
    (TreeWork.does_reads ((contribution r c base).mapFault (unreadable r c))).bind
      (does_unlessEmpty r c)
  refine ((TreeWork.does_ofExcept (g.baseClass r c)).bind hread).congr fun t => ?_
  unfold verdict Reading.mapFault
  cases g.baseClass r c with
  | error f => rfl
  | ok base =>
      dsimp only
      cases (contribution r c base).outcome <;> rfl

end GeneratorCompiler

/-! ## Many classes -/

namespace GeneratorCompiler

variable (g : GeneratorCompiler) (r : Reflection C)

def firstFatal? (cs : List C) : Option Fault := cs.findSome? fun c => (g.verdict r c).fatal?

def notes (cs : List C) : List Failure :=
  cs.filterMap fun c => (g.verdict r c).noted?.map (Compiler.failure r (.generators g) c)

def leaves (cs : List C) (t : StubTree) : StubTree :=
  cs.foldl (fun t c => (g.verdict r c).leaves t) t

/-- What a run over some classes comes to. -/
def settled (cs : List C) (b : Build) : Except Fault Build :=
  match g.firstFatal? r cs with
  | some f => .error f
  | none => .ok ⟨g.leaves r cs b.tree, b.failures ++ g.notes r cs⟩

theorem settled_nil (b : Build) : g.settled r [] b = .ok b := by
  simp [settled, firstFatal?, leaves, notes]

theorem settled_cons_of_fatal {c : C} {f : Fault} (h : (g.verdict r c).fatal? = some f)
    (cs : List C) (b : Build) : g.settled r (c :: cs) b = .error f := by
  have hfirst : g.firstFatal? r (c :: cs) = some f := by simp [firstFatal?, h]
  rw [settled, hfirst]

theorem settled_cons {c : C} (h : (g.verdict r c).fatal? = none) (cs : List C) (b : Build) :
    g.settled r (c :: cs) b =
      g.settled r cs ⟨(g.verdict r c).leaves b.tree, b.failures ++
        ((g.verdict r c).noted?.map (Compiler.failure r (.generators g) c)).toList⟩ := by
  have hfirst : g.firstFatal? r (c :: cs) = g.firstFatal? r cs := by simp [firstFatal?, h]
  have hleaves : g.leaves r (c :: cs) b.tree = g.leaves r cs ((g.verdict r c).leaves b.tree) := rfl
  unfold settled
  rw [hfirst, hleaves, notes, List.filterMap_cons]
  cases (g.verdict r c).noted? <;> simp [notes]

theorem fatal?_eq_none_of_firstFatal? {cs : List C} (h : g.firstFatal? r cs = none) :
    ∀ c ∈ cs, (g.verdict r c).fatal? = none := List.findSome?_eq_none_iff.mp h

def edits (cs : List C) : List (Site × List Accessor) :=
  cs.filterMap fun c => (g.verdict r c).edit?

theorem edits_append (cs ds : List C) : g.edits r (cs ++ ds) = g.edits r cs ++ g.edits r ds :=
  List.filterMap_append

theorem notes_append (cs ds : List C) : g.notes r (cs ++ ds) = g.notes r cs ++ g.notes r ds :=
  List.filterMap_append

variable {g r}

theorem mem_edits {cs : List C} {e : Site × List Accessor} :
    e ∈ g.edits r cs ↔ ∃ c ∈ cs, ∃ added, g.verdict r c = .stub e.1 added ∧
      e.2 = added.accessors := by
  unfold edits
  rw [List.mem_filterMap]
  constructor
  · rintro ⟨c, hc, hedit⟩
    cases hv : g.verdict r c with
    | stub s added =>
        rw [hv] at hedit
        obtain rfl := Option.some.inj hedit
        exact ⟨c, hc, added, hv, rfl⟩
    | nothing => simp [hv, Verdict.edit?] at hedit
    | fault f => simp [hv, Verdict.edit?] at hedit
    | stuck module f => simp [hv, Verdict.edit?] at hedit
  · rintro ⟨c, hc, added, hv, haccessors⟩
    exact ⟨c, hc, by rw [hv, Verdict.edit?, ← haccessors]⟩

theorem leaves_of_not_fatal {c : C} (h : (g.verdict r c).fatal? = none) (t : StubTree) :
    (g.verdict r c).leaves t = putAt (g.verdict r c).edit?.toList t := by
  cases hv : g.verdict r c with
  | stuck module f =>
      rw [fatal?_of_stuck hv] at h
      simp at h
  | nothing => rfl
  | stub s added => rfl
  | fault f => rfl

/-- A run that does not end early makes its changes one after another. -/
theorem leaves_eq_putAt {cs : List C} (h : ∀ c ∈ cs, (g.verdict r c).fatal? = none)
    (t : StubTree) : g.leaves r cs t = putAt (g.edits r cs) t := by
  induction cs generalizing t with
  | nil => rfl
  | cons c cs ih =>
      have hrest := ih (fun d hd => h d (List.mem_cons_of_mem c hd)) ((g.verdict r c).leaves t)
      have hhead := leaves_of_not_fatal (h c List.mem_cons_self) t
      have hcons : g.leaves r (c :: cs) t = g.leaves r cs ((g.verdict r c).leaves t) := rfl
      rw [hcons, hrest, hhead]
      unfold edits
      rw [List.filterMap_cons]
      cases (g.verdict r c).edit? <;> rfl

end GeneratorCompiler

namespace Compiler

variable (g : GeneratorCompiler) (r : Reflection C)

/-- One step of a run: a fault that is noted is added to the failures, one that is fatal ends the
run. -/
theorem step_gives (b : Build) (c : C) :
    (step r (.generators g) b c).Gives
      (match (g.verdict r c).fatal? with
      | some f => .error f
      | none => .ok (⟨(g.verdict r c).leaves b.tree, b.failures ++
          ((g.verdict r c).noted?.map (failure r (.generators g) c)).toList⟩,
          (g.verdict r c).noted?.isNone)) := by
  have hon := (GeneratorCompiler.process_does g r c).on b.tree
  intro log
  obtain ⟨log', hlog⟩ := hon.perform log
  unfold step process
  rw [Attempt.perform_bind, hlog]
  unfold Verdict.fatal? Verdict.noted?
  cases (g.verdict r c).outcome with
  | ok u => simp; rfl
  | error f =>
      by_cases hf : f.family.isCompilation
      · simp [hf]; rfl
      · simp [hf]; rfl

theorem steps_gives (b : Build) (cs : List C) :
    (steps r (.generators g) b cs).Gives
      ((g.settled r cs b).map fun b =>
        (b, cs.countP fun c => (g.verdict r c).noted?.isNone)) := by
  suffices hcount : ∀ n : Nat,
      (cs.foldlM (fun s c => do
        let x ← step r (.generators g) s.1 c
        return (x.1, if x.2 then s.2 + 1 else s.2)) (b, n) : Attempt (Build × Nat)).Gives
        ((g.settled r cs b).map fun b =>
          (b, n + cs.countP fun c => (g.verdict r c).noted?.isNone)) by
    have hzero := hcount 0
    simp only [Nat.zero_add] at hzero
    exact hzero
  induction cs generalizing b with
  | nil =>
      intro n
      rw [g.settled_nil]
      exact Attempt.gives_pure (b, n)
  | cons c cs ih =>
      intro n
      rw [List.foldlM_cons]
      have hstep := step_gives g r b c
      cases hfatal : (g.verdict r c).fatal? with
      | some f =>
          rw [hfatal] at hstep
          rw [g.settled_cons_of_fatal r hfatal]
          exact (hstep.bind fun x => Attempt.gives_pure _).bind fun x => ih x.1 x.2
      | none =>
          rw [hfatal] at hstep
          rw [g.settled_cons r hfatal, List.countP_cons]
          have hnext := (hstep.bind fun x => Attempt.gives_pure
            (x.1, if x.2 then n + 1 else n)).bind fun x => ih x.1 x.2
          refine hnext.congr ?_
          simp only [Except.bind, bind]
          cases (g.verdict r c).noted? <;> simp [Nat.add_assoc, Nat.add_comm 1]

theorem run_gives (b : Build) :
    (run r (.generators g) b).Gives (g.selected r >>= fun cs => g.settled r cs b) := by
  have hcandidates : (candidates r (.generators g)).Gives (g.selected r) := by
    unfold candidates GeneratorCompiler.candidates
    by_cases hroot : (r.lookup g.root).isNone
    · simp only [hroot, if_true]
      exact (Attempt.gives_note _ _ _).bind fun _ => Attempt.gives_ofExcept _
    · simp only [hroot]
      exact Attempt.gives_ofExcept _
  refine hcandidates.bind fun cs => ?_
  have hrun := (steps_gives g r b cs).bind fun x =>
    (Attempt.gives_note .debug runLogger ("Compiler " ++ (generators g : Compiler C).title ++
      " processed " ++ toString x.2 ++ " candidate(s)")).bind fun _ => Attempt.gives_pure x.1
  refine Attempt.Gives.congr hrun ?_
  cases g.settled r cs b <;> rfl

theorem build_gives {ι : Type} (D : ι → Type) (r : (k : ι) → Reflection (D k))
    (g : ι → GeneratorCompiler) (ks : List ι) :
    (BoundCompiler.build (ks.map fun k => ⟨D k, r k, .generators (g k)⟩)).Gives
      (ks.foldlM (fun b k => (g k).selected (r k) >>= fun cs => (g k).settled (r k) cs b)
        Build.empty) := by
  unfold BoundCompiler.build
  rw [List.foldlM_map]
  exact Attempt.Gives.foldlM (fun b k => run_gives (g k) (r k) b) ks Build.empty

theorem build_one_gives :
    (BoundCompiler.build (bound r [.generators g])).Gives
      (g.selected r >>= fun cs => g.settled r cs .empty) := by
  have hbuild := build_gives (fun _ : Unit => C) (fun _ => r) (fun _ => g) [()]
  rw [List.foldlM_cons] at hbuild
  refine hbuild.congr ?_
  cases g.selected r with
  | error f => rfl
  | ok cs =>
      change g.settled r cs .empty >>= pure = g.settled r cs .empty
      exact bind_pure _

end Compiler

end TypeStubs
