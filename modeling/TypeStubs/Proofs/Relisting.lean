import TypeStubs.Proofs.Refusal
import TypeStubs.Proofs.Renumbering

/-!
# Entries in any order

Requests that list the same entries are answered alike, whatever the order of the entries, as long
as names tell classes apart.
-/

namespace TypeStubs

theorem eq_of_nodup_filterMap {α β : Type} {f : α → Option β} {xs : List α}
    (h : (xs.filterMap f).Nodup) {i j : Nat} {y : β} (hi : xs[i]?.bind f = some y)
    (hj : xs[j]?.bind f = some y) : i = j := by
  induction xs generalizing i j with
  | nil => simp at hi
  | cons x xs ih =>
      have hrest : (xs.filterMap f).Nodup :=
        h.sublist ((List.sublist_cons_self x xs).filterMap f)
      have hfresh : ∀ {k : Nat}, f x = some y → xs[k]?.bind f ≠ some y := by
        intro k hx hk
        obtain ⟨z, hz, hy⟩ := Option.bind_eq_some_iff.mp hk
        rw [List.filterMap_cons_some hx, List.nodup_cons] at h
        exact h.1 (List.mem_filterMap.mpr ⟨z, List.mem_of_getElem? hz, hy⟩)
      cases i with
      | zero =>
          cases j with
          | zero => rfl
          | succ j => exact (hfresh hi hj).elim
      | succ i =>
          cases j with
          | zero => exact (hfresh hj hi).elim
          | succ j => rw [ih hrest hi hj]

namespace Service

open StaticRegistry

variable {q : StubRequest} {r r' : StaticRegistry} {g : GeneratorCompiler}
  {cs cs' : List ClassEntry} {σ : Equiv.Perm ClassId}

/-! ## Registries of permuted entries -/

theorem Holds.eq_of_nameOf? (h : Holds r cs)
    (hnames : (cs.filterMap ClassEntry.qualifiedName?).Nodup) {i j : ClassId} {name : String}
    (hi : r.nameOf? i = some name) (hj : r.nameOf? j = some name) : i = j := by
  rw [h.nameOf?_eq] at hi hj
  exact eq_of_nodup_filterMap hnames hi hj

theorem Holds.lookup_eq_some_iff (h : Holds r cs)
    (hnames : (cs.filterMap ClassEntry.qualifiedName?).Nodup) {name : String} {i : ClassId} :
    r.lookup name = some i ↔ r.nameOf? i = some name := by
  refine ⟨h.named name i, fun hi => ?_⟩
  obtain ⟨j, hj⟩ := Option.isSome_iff_exists.mp (h.known name i hi)
  rw [hj, h.eq_of_nameOf? hnames hi (h.named name j hj)]

/-- Names are looked up to corresponding classes, so that the same bases are linked. -/
theorem Lists.relists (h : Lists r cs) (h' : Lists r' cs')
    (hnames : (cs.filterMap ClassEntry.qualifiedName?).Nodup)
    (hnames' : (cs'.filterMap ClassEntry.qualifiedName?).Nodup)
    (hσ : ∀ i, cs'[σ i]? = cs[i]?) : r.Relists σ r' := by
  have hname : ∀ i, r'.nameOf? (σ i) = r.nameOf? i := by
    intro i
    rw [h'.nameOf?_eq, h.nameOf?_eq, hσ]
  have hlookup : ∀ name, r'.lookup name = (r.lookup name).map σ := by
    intro name
    ext j
    obtain ⟨i, rfl⟩ := σ.surjective j
    rw [h'.lookup_eq_some_iff hnames', hname, ← h.lookup_eq_some_iff hnames]
    simp [Option.map_eq_some_iff]
  have hbase : ∀ i, (r'.get (σ i)).base = (r.get i).base.map σ := by
    intro i
    rw [h'.base, h.base, bases, bases, hσ]
    cases cs[i]?.bind ClassEntry.baseName? with
    | none => rfl
    | some name => exact hlookup name
  refine ⟨⟨fun i => ?_⟩, hlookup, fun i => ?_⟩
  · cases hc : cs[i]? with
    | none =>
        rw [h'.get_of_getElem?_eq_none ((hσ i).trans hc), h.get_of_getElem?_eq_none hc]
        rfl
    | some c =>
        obtain ⟨k, hread, hget⟩ := h.reads i c hc
        obtain ⟨k', hread', hget'⟩ := h'.reads (σ i) c ((hσ i).trans hc)
        obtain rfl := Except.ok.inj (hread.symm.trans hread')
        rw [hget', hbase, hget]
  · have hlength : ∀ {l : List ClassEntry} {j : Nat}, j < l.length ↔ l[j]?.isSome :=
      fun {l j} => by simp
    rw [h'.registered, h.registered, List.mem_range, List.mem_range, hlength, hlength, hσ]

/-! ## Answers -/

theorem response_of_relists (h : r.Relists σ r') (hlists : Lists r cs) (hlists' : Lists r' cs')
    (hnames : (cs.filterMap ClassEntry.qualifiedName?).Nodup) {answer : Files × List Failure}
    (hanswer : response r g = .ok answer) : response r' g = .ok answer := by
  by_cases hchains : (r.lookup g.root).isSome → ∀ c ∈ r.registered, r.isOwn g c →
      ∃ above, r.Chain (r.get c).base above
  · have hdistinct : ∀ c d, r.Candidate g c → r.Candidate g d → r.nameOf? c = r.nameOf? d →
        c = d := by
      intro c d hc _ heq
      obtain ⟨name, hname⟩ := hc.exists_nameOf?
      exact hlists.eq_of_nameOf? hnames hname (heq ▸ hname)
    obtain ⟨ds, hselected, hselected', hds⟩ :=
      h.selected hlists.texts hlists'.texts hlists.nodup hlists'.nodup hdistinct hchains
    have hsettled : g.settled r'.reflection (ds.map σ) .empty = g.settled r.reflection ds .empty :=
      h.mirrors.settled (fun c hc => (hds c hc).shown) .empty
    rw [← hanswer, response, response, hselected, hselected', ok_bind, ok_bind, hsettled]
  · -- With a cycle above a class that is looked at there is no answer, in whatever order.
    push Not at hchains
    obtain ⟨hroot, c, hc, hown, hnone⟩ := hchains
    obtain ⟨root, hroot⟩ := Option.isSome_iff_exists.mp hroot
    obtain ⟨i, hselected⟩ :=
      selected_of_not_chain hlists.texts hroot hc hown (by simpa using hnone)
    rw [response, hselected] at hanswer
    simp [bind, Except.bind] at hanswer

/-- Two requests for the same entries: both are answered, with the same files and failures, or none
is, and if they have registries then with the same classes and the same bases. -/
structure AnsweredAlike (compile : PatternCompiler) (q q' : StubRequest) : Prop where
  answers : ∃ outcome outcome', (generate compile q).Gives outcome ∧
    (generate compile q').Gives outcome' ∧ ∀ answer, outcome = .ok answer ↔ outcome' = .ok answer
  registries : (∃ r, ofPayload q.payload = .ok r) ↔ ∃ r', ofPayload q'.payload = .ok r'
  classes : ∀ r r', ofPayload q.payload = .ok r → ofPayload q'.payload = .ok r' →
    ∃ σ : Equiv.Perm ClassId, (∀ i, q'.classes[σ i]? = q.classes[i]?) ∧ r.Relists σ r' ∧
      ∀ i, (r.get i).base.bind r.nameOf? = q.classes[i]?.bind ClassEntry.baseName?

theorem exists_ofPayload_of_perm {q q' : StubRequest} (hperm : q.classes.Perm q'.classes)
    (h : ∃ r, ofPayload q.payload = .ok r) : ∃ r', ofPayload q'.payload = .ok r' := by
  rw [exists_ofPayload_iff] at h ⊢
  simpa only [hperm.mem_iff] using h

theorem relists_of_perm {q q' : StubRequest} (hperm : q.classes.Perm q'.classes)
    (hnames : (q.classes.filterMap ClassEntry.qualifiedName?).Nodup)
    (hr : ofPayload q.payload = .ok r) (hr' : ofPayload q'.payload = .ok r') :
    ∃ σ : Equiv.Perm ClassId, (∀ i, q'.classes[σ i]? = q.classes[i]?) ∧ r.Relists σ r' := by
  obtain ⟨σ, hσ⟩ := exists_perm_getElem? hperm
  have hnames' := (hperm.filterMap ClassEntry.qualifiedName?).nodup_iff.mp hnames
  exact ⟨σ, hσ, (lists_of_payload hr).relists (lists_of_payload hr') hnames hnames' hσ⟩

/-- An answer to a request is one to each request that permutes its entries. -/
theorem answer_of_perm {q q' : StubRequest} (hperm : q.classes.Perm q'.classes)
    (hnames : (q.classes.filterMap ClassEntry.qualifiedName?).Nodup)
    {settings : Except Fault GeneratorCompiler} {answer : Files × List Failure}
    (h : (ofPayload q.payload >>= fun r => settings >>= response r) = .ok answer) :
    (ofPayload q'.payload >>= fun r => settings >>= response r) = .ok answer := by
  obtain ⟨r, hr, h⟩ := bind_eq_ok_iff.mp h
  obtain ⟨g, hg, hanswer⟩ := bind_eq_ok_iff.mp h
  obtain ⟨r', hr'⟩ := exists_ofPayload_of_perm hperm ⟨r, hr⟩
  obtain ⟨σ, -, hσ⟩ := relists_of_perm hperm hnames hr hr'
  have hanswer' := response_of_relists hσ (lists_of_payload hr) (lists_of_payload hr') hnames
    hanswer
  exact bind_eq_ok_iff.mpr ⟨r', hr', bind_eq_ok_iff.mpr ⟨g, hg, hanswer'⟩⟩

/-- Entries may come in any order if their names tell them apart. -/
theorem generate_perm (compile : PatternCompiler) {q : StubRequest} {cs : List ClassEntry}
    (hperm : q.classes.Perm cs) (hnames : (q.classes.filterMap ClassEntry.qualifiedName?).Nodup) :
    AnsweredAlike compile q { q with classes := cs } := by
  have hnames' : (cs.filterMap ClassEntry.qualifiedName?).Nodup :=
    (hperm.filterMap ClassEntry.qualifiedName?).nodup_iff.mp hnames
  constructor
  · refine ⟨_, _, generate_gives_response compile q, generate_gives_response compile _,
      fun answer => ?_⟩
    exact ⟨answer_of_perm hperm hnames, answer_of_perm hperm.symm hnames'⟩
  · exact ⟨exists_ofPayload_of_perm hperm, exists_ofPayload_of_perm hperm.symm⟩
  · intro r r' hr hr'
    obtain ⟨σ, hσ, hrelists⟩ := relists_of_perm hperm hnames hr hr'
    exact ⟨σ, hσ, hrelists, (lists_of_payload hr).nameOf?_base⟩

/-- A class before its base, which comes before the root, with a class without a name in between. -/
def scatteredRequest : StubRequest where
  classes := [
    ⟨"app", some "Leaf", some "app.Middle", [], [("depth", [(.text "type", .text "numeric")])]⟩,
    ⟨"app", none, some "lib.Root", [[(.text "name", .text "size")]], []⟩,
    ⟨"app", some "Middle", some "lib.Root", [], []⟩,
    ⟨"lib", some "Root", none, [], []⟩]
  rootClass := some "lib.Root"
  builtinNamespaces := ["^lib[.]"]

theorem generate_perm_of_reversed :
    scatteredRequest.classes.Perm scatteredRequest.classes.reverse ∧
    (scatteredRequest.classes.filterMap ClassEntry.qualifiedName?).Nodup ∧
    (∃ r, ofPayload scatteredRequest.payload = .ok r) ∧
    AnsweredAlike plainPatterns scatteredRequest
      { scatteredRequest with classes := scatteredRequest.classes.reverse } := by
  have hperm := (List.reverse_perm scatteredRequest.classes).symm
  have hnames : (scatteredRequest.classes.filterMap ClassEntry.qualifiedName?).Nodup := by decide
  have hpayload : (ofPayload scatteredRequest.payload).toOption.any fun _ => true := by
    decide +kernel
  obtain ⟨r, hr, -⟩ := exists_eq_ok_of_any hpayload
  exact ⟨hperm, hnames, ⟨r, hr⟩, generate_perm plainPatterns hperm hnames⟩

end Service

end TypeStubs
