import TypeStubs.Proofs.Isolation
import TypeStubs.Proofs.Refusal
import TypeStubs.Service.Endpoint

/-!
# What requests are answered

A request that has the shape of one is answered with stubs or refused with a reason, whatever its
classes are. Only its patterns can keep it from an answer: what goes wrong in compiling one is put
down to the request if it is a fault of a value or of the run, and escapes otherwise. The validation
of requests and the compiler of patterns are any that there are.
-/

namespace TypeStubs

/-! ## Patterns that cannot be compiled -/

/-- Of some patterns, the first that cannot be compiled has this fault. -/
def FirstRefused (compile : PatternCompiler) (patterns : List String) (f : Fault) : Prop :=
  ∃ before p after, patterns = before ++ p :: after ∧
    (∀ s ∈ before, ∃ holds, compile s = .ok holds) ∧ compile p = .error f

variable {compile : PatternCompiler}

namespace Namespace

variable {s : String}

theorem exists_ofPattern_iff :
    (∃ n, ofPattern compile s = .ok n) ↔ ∃ holds, compile s = .ok holds := by
  unfold ofPattern
  cases compile s <;> simp [Except.map]

theorem ofPattern_error_iff {f : Fault} :
    ofPattern compile s = .error f ↔ compile s = .error f := by
  unfold ofPattern
  cases compile s <;> simp [Except.map]

theorem mapM_ofPattern_error_iff {patterns : List String} {f : Fault} :
    patterns.mapM (ofPattern compile) = .error f ↔ FirstRefused compile patterns f := by
  rw [mapM_eq_error_iff]
  simp only [exists_ofPattern_iff, ofPattern_error_iff]
  rfl

end Namespace

theorem GeneratorCompiler.ofSettings_error_iff {root : Option String} {patterns : List String}
    {f : Fault} :
    ofSettings compile root patterns = .error f ↔ FirstRefused compile (sources patterns) f := by
  rw [← Namespace.mapM_ofPattern_error_iff]
  unfold ofSettings
  simp [bind_eq_error_iff, pure, Except.pure]

namespace Service

open StaticRegistry

variable {q : StubRequest} {r : StaticRegistry} {g : GeneratorCompiler}

/-! ## Payloads that make no registry -/

theorem orElse_nil_asItems (vs : List Value) :
    ((Value.list vs).orElse (.list [])).asItems = .ok vs := by
  cases vs <;> rfl

theorem orElse_nil_asEntries (entries : List (Value × Value)) :
    ((Value.map entries).orElse (.map [])).asEntries = .ok entries := by
  cases entries <;> rfl

namespace ClassEntry

variable {c : ClassEntry}

/-- The shape of an entry has been checked: only a declaration can be at fault. -/
theorem read_error {f : Fault} (h : c.read = .error f) : f = .unnamedDeclaration := by
  change (((Value.list (c.arguments.map Value.map)).orElse (.list [])).asItems >>= fun items =>
    items.mapM (fun item => ArgumentSpec.ofDeclaration item .null) >>= fun arguments =>
      ((Value.map (c.options.map fun o => (.text o.1, .map o.2))).orElse (.map [])).asEntries >>=
        fun entries => readOptions entries >>= fun options => _) = _ at h
  rw [orElse_nil_asItems, orElse_nil_asEntries, ok_bind, bind_eq_error_iff] at h
  obtain hitem | ⟨arguments, -, h⟩ := h
  · obtain ⟨item, -, hitem⟩ := mapM_error hitem
    exact ArgumentSpec.ofDeclaration_error hitem
  rw [ok_bind, bind_eq_error_iff] at h
  obtain hoptions | ⟨options, -, h⟩ := h
  · exact readOptions_error hoptions
  · simp [pure, Except.pure] at h

end ClassEntry

theorem readEntries_error {cs : List ClassEntry} {f : Fault}
    (h : readEntries (cs.map ClassEntry.toValue) = .error f) : f = .unnamedDeclaration := by
  induction cs using List.reverseRecOn with
  | nil => simp [readEntries, pure, Except.pure] at h
  | append_singleton cs c ih =>
      rw [readEntries_concat, bind_eq_error_iff] at h
      obtain hearlier | ⟨⟨old, pending⟩, -, h⟩ := h
      · exact ih hearlier
      rw [bind_eq_error_iff] at h
      obtain hread | ⟨k, hread, h⟩ := h
      · exact ClassEntry.read_error hread
      · obtain ⟨new, hinsert⟩ := exists_insert (r := old) (ClassEntry.exists_text_of_read hread)
        simp [hinsert, bind, Except.bind, pure, Except.pure] at h

theorem link_error {i : ClassId} {base : Value} {f : Fault} (h : r.link i base = .error f) :
    ∃ base owner, f = .unknownBase base owner := by
  unfold link at h
  split at h
  · simp at h
  · split at h
    · simp at h
    · exact ⟨_, _, (Except.error.inj h).symm⟩

/-- There are two ways in which classes can be described badly. -/
theorem ofPayload_error {f : Fault} (h : ofPayload q.payload = .error f) :
    f = .unnamedDeclaration ∨ ∃ base owner, f = .unknownBase base owner := by
  rw [ofPayload_payload, bind_eq_error_iff] at h
  obtain hread | ⟨⟨s, pending⟩, -, hlinks⟩ := h
  · exact Or.inl (readEntries_error hread)
  · obtain ⟨s', link, -, hlink⟩ := foldlM_error hlinks
    exact Or.inr (link_error hlink)

/-! ## What becomes of a request -/

/-- The stubs for a request can be written. -/
def Served (compile : PatternCompiler) (q : StubRequest) : Prop :=
  ∃ r g, ofPayload q.payload = .ok r ∧
    GeneratorCompiler.ofSettings compile q.rootClass q.builtinNamespaces = .ok g ∧ r.Serviceable g

/-- The classes of a request are fine, but the first of its patterns that cannot be compiled has a
fault that is not put down to the request. -/
structure Escaping (compile : PatternCompiler) (q : StubRequest) (f : Fault) : Prop where
  registry : ∃ r, ofPayload q.payload = .ok r
  first : FirstRefused compile (GeneratorCompiler.sources q.builtinNamespaces) f
  unanswered : ¬ isAnswered f

theorem isAnswered_of_value {f : Fault} (h : f.family = .value) : isAnswered f := by
  simp [isAnswered, h, Fault.Family.isValue]

theorem exists_generate_gives (compile : PatternCompiler) (q : StubRequest) :
    ∃ o, (generate compile q).Gives o :=
  ⟨_, generate_gives_response compile q⟩

theorem exists_generated_iff :
    (∃ out, (generate compile q).Gives (.ok out)) ↔ Served compile q := by
  constructor
  · rintro ⟨out, hgives⟩
    have hout := (generate_gives_response compile q).unique hgives
    obtain ⟨r, hr, hout⟩ := bind_eq_ok_iff.mp hout
    obtain ⟨g, hg, -⟩ := bind_eq_ok_iff.mp hout
    refine ⟨r, g, hr, hg, ?_⟩
    by_contra h
    obtain ⟨f, hf, -⟩ := refused_of_not_serviceable hr hg h
    exact absurd (hgives.unique hf) (by simp)
  · rintro ⟨r, g, hr, hg, h⟩
    obtain ⟨cs, hcs, -, -, hgives⟩ := generate_gives_of_workable hr hg h.toWorkable
    obtain ⟨files, hfiles⟩ := (exists_files_iff h.toWorkable hcs).mpr h
    rw [hfiles] at hgives
    exact ⟨_, hgives⟩

theorem Escaping.gives {f : Fault} (h : Escaping compile q f) :
    (generate compile q).Gives (.error f) := by
  obtain ⟨r, hr⟩ := h.registry
  refine (generate_gives_response compile q).congr ?_
  rw [hr, ok_bind, GeneratorCompiler.ofSettings_error_iff.mpr h.first]
  rfl

/-- Of all faults that keep a request from its stubs, only those of a pattern can escape. -/
theorem isAnswered_or_escaping {f : Fault} (h : (generate compile q).Gives (.error f)) :
    isAnswered f ∨ Escaping compile q f := by
  -- The stages are passed one after another, and each has faults of its own.
  have herror := (generate_gives_response compile q).unique h
  obtain hpayload | ⟨r, hr, herror⟩ := bind_eq_error_iff.mp herror
  · rcases ofPayload_error hpayload with rfl | ⟨base, owner, rfl⟩ <;>
      exact Or.inl (isAnswered_of_value rfl)
  obtain hsettings | ⟨g, hg, herror⟩ := bind_eq_error_iff.mp herror
  · by_cases hanswered : isAnswered f
    · exact Or.inl hanswered
    · exact Or.inr ⟨⟨r, hr⟩, GeneratorCompiler.ofSettings_error_iff.mp hsettings, hanswered⟩
  · have hserviceable : ¬ r.Serviceable g := by
      intro hserviceable
      obtain ⟨out, hout⟩ := exists_generated_iff.mpr ⟨r, g, hr, hg, hserviceable⟩
      exact absurd (hout.unique h) (by simp)
    obtain ⟨f', hf', hvalue⟩ := refused_of_not_serviceable hr hg hserviceable
    obtain rfl := Except.error.inj (hf'.unique h)
    exact Or.inl (isAnswered_of_value hvalue)

/-! ## Answers -/

/-- What a request for stubs is answered, by what generating them gives. -/
def answerOf : Except Fault (Files × List Failure) → Except Fault Answer
  | .ok (files, failures) => .ok (.generated files failures)
  | .error f => if isAnswered f then .ok (.refused f.message) else .error f

theorem answerRequest_gives {o : Except Fault (Files × List Failure)}
    (h : (generate compile q).Gives o) : (answerRequest compile q).Gives (answerOf o) := by
  unfold answerRequest
  refine (h.caught.bind (g := answerOf) fun o => ?_)
  rcases o with f | ⟨files, failures⟩
  · unfold answerOf
    dsimp only
    split
    · exact Attempt.gives_pure _
    · exact fun _ => rfl
  · exact Attempt.gives_pure _

section Accepted

variable {validate : Option String → Checked StubRequest} {body : Option String}
  (h : validate body = .ok q)
include h

theorem answer_gives {o : Except Fault (Files × List Failure)} (ho : (generate compile q).Gives o) :
    (answerBody validate compile body).Gives (answerOf o) := by
  rw [answerBody, h]
  exact answerRequest_gives ho

/-- What escapes is a fault of the first pattern that cannot be compiled. -/
theorem answer_fault_iff {f : Fault} :
    (answerBody validate compile body).Gives (.error f) ↔ Escaping compile q f := by
  constructor
  · intro hf
    obtain ⟨o, ho⟩ := exists_generate_gives compile q
    have hanswer := (answer_gives h ho).unique hf
    rcases o with f' | ⟨files, failures⟩
    · by_cases hanswered : isAnswered f'
      · simp [answerOf, hanswered] at hanswer
      · rw [answerOf, if_neg hanswered] at hanswer
        obtain rfl := Except.error.inj hanswer
        exact (isAnswered_or_escaping ho).resolve_left hanswered
    · simp [answerOf] at hanswer
  · intro hescaping
    exact (answer_gives h hescaping.gives).congr (if_neg hescaping.unanswered)

/-- The answer to a request is that its stubs are there, or that it is a bad one. -/
theorem status_of_answer {a : Answer} (ha : (answerBody validate compile body).Gives (.ok a)) :
    (a.status = 200 ∧ Served compile q) ∨ (a.status = 400 ∧ ¬ Served compile q) := by
  obtain ⟨o, ho⟩ := exists_generate_gives compile q
  have hanswer := (answer_gives h ho).unique ha
  rcases o with f | ⟨files, failures⟩
  · by_cases hanswered : isAnswered f
    · rw [answerOf, if_pos hanswered] at hanswer
      obtain rfl := Except.ok.inj hanswer
      refine Or.inr ⟨rfl, fun hserved => ?_⟩
      obtain ⟨out, hout⟩ := exists_generated_iff.mpr hserved
      exact absurd (hout.unique ho) (by simp)
    · simp [answerOf, hanswered] at hanswer
  · obtain rfl := Except.ok.inj hanswer
    exact Or.inl ⟨rfl, exists_generated_iff.mp ⟨_, ho⟩⟩

/-- A request that is accepted is answered with its stubs or as a bad request, unless one of its
patterns keeps it from an answer, and it gets its stubs just if they can be written. -/
theorem answer_of_accepted (compile : PatternCompiler) :
    ((∃ a, (answerBody validate compile body).Gives (.ok a) ∧
        (a.status = 200 ∨ a.status = 400)) ↔ ∀ f, ¬ Escaping compile q f) ∧
      ((∃ a, (answerBody validate compile body).Gives (.ok a) ∧ a.status = 200) ↔
        Served compile q) ∧
      ∀ f, (answerBody validate compile body).Gives (.error f) ↔ Escaping compile q f := by
  refine ⟨⟨?_, fun hnone => ?_⟩, ⟨?_, fun hserved => ?_⟩, fun f => answer_fault_iff h⟩
  · rintro ⟨a, ha, -⟩ f hf
    exact absurd (ha.unique ((answer_fault_iff h).mpr hf)) (by simp)
  · obtain ⟨o, ho⟩ := exists_generate_gives compile q
    have hgives := answer_gives h ho
    cases hanswer : answerOf o with
    | error f =>
        rw [hanswer] at hgives
        exact (hnone f ((answer_fault_iff h).mp hgives)).elim
    | ok a =>
        rw [hanswer] at hgives
        exact ⟨a, hgives, (status_of_answer h hgives).imp And.left And.left⟩
  · rintro ⟨a, ha, hstatus⟩
    obtain ⟨-, hserved⟩ | ⟨hrefused, -⟩ := status_of_answer h ha
    · exact hserved
    · omega
  · obtain ⟨⟨files, failures⟩, hout⟩ := exists_generated_iff.mpr hserved
    exact ⟨_, answer_gives h hout, rfl⟩

end Accepted

/-- The text of a request for one class, with a base and a pattern to be chosen. -/
def requestText (base pattern : String) : String :=
  "\x7b\x22classes\x22: [\x7b\x22module\x22: \x22app\x22, \x22base\x22: \x22" ++ base ++
    "\x22\x7d], \x22builtin_namespaces\x22: [\x22" ++ pattern ++ "\x22]\x7d"

theorem answer_of_accepted_of_texts :
    (∃ a, (answerBody readBody plainPatterns (some (requestText "" "^lib"))).Gives (.ok a) ∧
      a.status = 200) ∧
    (∃ a, (answerBody readBody plainPatterns (some (requestText "lib.Root" "^lib"))).Gives (.ok a) ∧
      a.status = 400) ∧
    (answerBody readBody plainPatterns (some (requestText "" "("))).Gives
      (.error .invalidPattern) := by
  refine ⟨?_, ?_, ?_⟩
  · have hrequest : (readBody (some (requestText "" "^lib"))).toOption.any fun q =>
        ((ofPayload q.payload).toOption.any fun r =>
          ∀ c ∈ r.registered, (r.get c).name.bind Label.text? ≠ some "" ∧ (r.ancestors c).isOk ∧
            (stubPath (r.get c).module false).isOk) ∧
          (GeneratorCompiler.ofSettings plainPatterns q.rootClass
            q.builtinNamespaces).toOption.any fun _ => true := by decide +kernel
    obtain ⟨q, hq, hsettings⟩ := exists_eq_ok_of_any hrequest
    obtain ⟨hpayload, hsettings⟩ := of_decide_eq_true hsettings
    obtain ⟨r, hr, hclasses⟩ := exists_eq_ok_of_any hpayload
    obtain ⟨g, hg, -⟩ := exists_eq_ok_of_any hsettings
    have hserviceable : r.Serviceable g :=
      serviceable_of_forall (lists_of_payload hr).texts (of_decide_eq_true hclasses)
    exact (answer_of_accepted hq plainPatterns).2.1.mpr ⟨r, g, hr, hg, hserviceable⟩
  · have hrequest : (readBody (some (requestText "lib.Root" "^lib"))).toOption.any fun q =>
        (ofPayload q.payload).toOption.isNone := by decide +kernel
    obtain ⟨q, hq, hpayload⟩ := exists_eq_ok_of_any hrequest
    have hnone : ∀ r, ofPayload q.payload ≠ .ok r := by
      intro r hr
      simp [hr, Except.toOption] at hpayload
    obtain ⟨hanswered, hserved, -⟩ := answer_of_accepted hq plainPatterns
    obtain ⟨a, ha, hstatus⟩ := hanswered.mpr fun f hf =>
      (hnone hf.registry.choose) hf.registry.choose_spec
    refine ⟨a, ha, hstatus.resolve_left fun hok => ?_⟩
    obtain ⟨r, g, hr, -⟩ := hserved.mp ⟨a, ha, hok⟩
    exact hnone r hr
  · have hrequest : (readBody (some (requestText "" "("))).toOption.any fun q =>
        ((ofPayload q.payload).toOption.any fun _ => true) ∧ q.builtinNamespaces = ["("] := by
      decide +kernel
    obtain ⟨q, hq, haccepted⟩ := exists_eq_ok_of_any hrequest
    obtain ⟨hpayload, hpatterns⟩ := of_decide_eq_true haccepted
    obtain ⟨r, hr, -⟩ := exists_eq_ok_of_any hpayload
    have hfirst : FirstRefused plainPatterns (GeneratorCompiler.sources q.builtinNamespaces)
        .invalidPattern := by
      rw [hpatterns]
      exact ⟨[], "(", [], rfl, by simp, rfl⟩
    have hunanswered : ¬ isAnswered .invalidPattern := by decide
    exact ((answer_of_accepted hq plainPatterns).2.2 _).mpr ⟨⟨r, hr⟩, hfirst, hunanswered⟩

end Service

end TypeStubs
