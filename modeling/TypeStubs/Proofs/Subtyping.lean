import Mathlib.Logic.Relation
import TypeStubs.Proofs.BaseChain

/-!
# Subtypes

Following bases from a class either comes to a class without one or goes on for ever. In the first
case the classes passed are its ancestors, each once, and the class is a subtype of exactly these.
In the second the walk is broken off as soon as a class comes up again.
-/

namespace TypeStubs.StaticRegistry

variable {r : StaticRegistry}

/-! ## The walk without a bound -/

/-- The walk along bases by itself, whatever the bound on its steps: it ends above a class without a
base, or at a class that was there before. -/
inductive Climbs (r : StaticRegistry) (start : ClassId) :
    List ClassId → Option ClassId → Except Fault (List ClassId) → Prop
  | top {passed : List ClassId} : Climbs r start passed none (.ok passed.reverse)
  | again {passed : List ClassId} {i : ClassId} (h : i = start ∨ i ∈ passed) :
      Climbs r start passed (some i) (.error (.inheritanceCycle (r.get i).shown))
  | up {passed : List ClassId} {i : ClassId} {out : Except Fault (List ClassId)}
      (hnew : ¬(i = start ∨ i ∈ passed)) (h : Climbs r start (i :: passed) (r.get i).base out) :
      Climbs r start passed (some i) out

/-- All classes that were passed have a base while the walk goes on. So they are in the store, each
once, and the bound is not met. -/
theorem climbs_climb {start : ClassId} {passed : List ClassId} {base : Option ClassId} {fuel : Nat}
    (hnodup : (start :: passed).Nodup)
    (hstore : base ≠ none → ∀ j ∈ start :: passed, j < r.store.size)
    (hfuel : r.store.size ≤ fuel + passed.length) :
    r.Climbs start passed base (r.climb start fuel passed base) := by
  induction fuel generalizing passed base with
  | zero =>
      cases base with
      | none => exact .top
      | some i =>
          have hsubset : start :: passed ⊆ List.range r.store.size :=
            fun j hj => List.mem_range.mpr (hstore (by simp) j hj)
          have hle := (List.subperm_of_subset hnodup hsubset).length_le
          rw [List.length_range, List.length_cons] at hle
          omega
  | succ fuel ih =>
      cases base with
      | none => exact .top
      | some i =>
          rw [climb]
          by_cases hagain : i = start ∨ i ∈ passed
          · rw [if_pos hagain]
            exact .again hagain
          · rw [if_neg hagain]
            obtain ⟨hne, hmem⟩ := not_or.mp hagain
            obtain ⟨hstart, hpassed⟩ := List.nodup_cons.mp hnodup
            have hnodup' : (start :: i :: passed).Nodup := by
              refine List.nodup_cons.mpr ⟨?_, List.nodup_cons.mpr ⟨hmem, hpassed⟩⟩
              simp [Ne.symm hne, hstart]
            have hstore' : (r.get i).base ≠ none →
                ∀ j ∈ start :: i :: passed, j < r.store.size := by
              intro hbase j hj
              obtain ⟨k, hk⟩ := Option.ne_none_iff_exists'.mp hbase
              rcases List.mem_cons.mp hj with rfl | hj
              · exact hstore (by simp) j List.mem_cons_self
              · rcases List.mem_cons.mp hj with rfl | hj
                · exact Chain.lt_size_of_base hk
                · exact hstore (by simp) j (List.mem_cons_of_mem start hj)
            refine .up hagain (ih hnodup' hstore' ?_)
            rw [List.length_cons]
            omega

theorem climbs_ancestors (r : StaticRegistry) (i : ClassId) :
    r.Climbs i [] (r.get i).base (r.ancestors i) := by
  refine climbs_climb (List.nodup_singleton i) ?_ (by simp)
  intro hbase j hj
  obtain ⟨k, hk⟩ := Option.ne_none_iff_exists'.mp hbase
  obtain rfl := List.mem_singleton.mp hj
  exact Chain.lt_size_of_base hk

theorem Climbs.unique {start : ClassId} {passed : List ClassId} {base : Option ClassId}
    {out out' : Except Fault (List ClassId)} (h : r.Climbs start passed base out)
    (h' : r.Climbs start passed base out') : out = out' := by
  induction h with
  | top =>
      cases h'
      rfl
  | again hagain =>
      cases h' with
      | again => rfl
      | up hnew => exact (hnew hagain).elim
  | up hnew h ih =>
      cases h' with
      | again hagain => exact (hnew hagain).elim
      | up _ h' => exact ih h'

/-! ## Following bases -/

/-- The class that one comes to in following bases a number of times, if there are as many. -/
def follow (r : StaticRegistry) : Nat → ClassId → Option ClassId
  | 0, i => some i
  | n + 1, i => (r.get i).base.bind (r.follow n)

/-- Following bases from the class comes to a class without one. -/
def Ends (r : StaticRegistry) (i : ClassId) : Prop :=
  ∃ n j, r.follow n i = some j ∧ (r.get j).base = none

theorem Chain.getElem?_eq_follow {base : Option ClassId} {l : List ClassId} (h : r.Chain base l)
    (n : Nat) : l[n]? = base.bind (r.follow n) := by
  induction h generalizing n with
  | done => simp
  | @next i above h ih =>
      cases n with
      | zero => rfl
      | succ n => exact ih n

theorem Chain.ends {i : ClassId} {l : List ClassId} (h : r.Chain (r.get i).base l) :
    r.Ends i := by
  generalize hbase : (r.get i).base = base at h
  induction h generalizing i with
  | done => exact ⟨0, i, rfl, hbase⟩
  | @next j above h ih =>
      obtain ⟨n, k, hk, htop⟩ := ih rfl
      exact ⟨n + 1, k, by simp [follow, hbase, hk], htop⟩

theorem Ends.exists_chain {i : ClassId} (h : r.Ends i) : ∃ l, r.Chain (r.get i).base l := by
  obtain ⟨n, j, hj, htop⟩ := h
  induction n generalizing i with
  | zero =>
      obtain rfl := Option.some.inj hj
      exact ⟨[], htop ▸ .done⟩
  | succ n ih =>
      obtain ⟨k, hk, hfollow⟩ := Option.bind_eq_some_iff.mp hj
      obtain ⟨l, hl⟩ := ih hfollow
      exact ⟨k :: l, hk ▸ .next hl⟩

theorem ends_iff_exists_chain {i : ClassId} : r.Ends i ↔ ∃ l, r.Chain (r.get i).base l :=
  ⟨Ends.exists_chain, fun ⟨_, h⟩ => h.ends⟩

theorem exists_ancestors_error_iff {i : ClassId} : (∃ f, r.ancestors i = .error f) ↔ ¬r.Ends i := by
  rw [ends_iff_exists_chain, exists_chain_iff]
  cases r.ancestors i <;> simp [Except.isOk, Except.toBool]

/-! ## Subtypes -/

/-- The one class is the base of the other. -/
def HasBase (r : StaticRegistry) (i j : ClassId) : Prop := (r.get i).base = some j

theorem Chain.mem_iff_transGen {i j : ClassId} {l : List ClassId} (h : r.Chain (r.get i).base l) :
    j ∈ l ↔ Relation.TransGen r.HasBase i j := by
  generalize hbase : (r.get i).base = base at h
  induction h generalizing i with
  | done =>
      refine ⟨fun hj => (List.not_mem_nil hj).elim, fun hj => ?_⟩
      obtain ⟨k, hk, -⟩ := Relation.TransGen.head'_iff.mp hj
      simp [HasBase, hbase] at hk
  | @next k above h ih =>
      have hstep : r.HasBase i k := hbase
      have habove : j ∈ above ↔ Relation.TransGen r.HasBase k j := ih rfl
      rw [List.mem_cons, habove]
      constructor
      · rintro (rfl | hj)
        · exact .single hstep
        · exact .head hstep hj
      · intro hj
        obtain ⟨k', hk', hj⟩ := Relation.TransGen.head'_iff.mp hj
        obtain rfl : k' = k := Option.some.inj (hk'.symm.trans hstep)
        exact Relation.reflTransGen_iff_eq_or_transGen.mp hj

theorem Ends.isSubtype_iff {i : ClassId} (h : r.Ends i) (j : ClassId) :
    ∃ b, r.isSubtype i j = .ok b ∧ (b ↔ Relation.TransGen r.HasBase i j) := by
  obtain ⟨l, hl⟩ := h.exists_chain
  refine ⟨_, isSubtype_of_chain hl, ?_⟩
  rw [List.contains_iff_mem, hl.mem_iff_transGen]

theorem Ends.isSubtype_self {i : ClassId} (h : r.Ends i) : r.isSubtype i i = .ok false := by
  obtain ⟨l, hl⟩ := h.exists_chain
  rw [isSubtype_of_chain hl]
  simp [hl.not_mem]

theorem Ends.of_isSubtype {i j : ClassId} (h : r.Ends i) (hij : r.isSubtype i j = .ok true) :
    r.Ends j := by
  obtain ⟨l, hl⟩ := h.exists_chain
  rw [isSubtype_of_chain hl, Except.ok.injEq, List.contains_iff_mem] at hij
  obtain ⟨front, back, rfl⟩ := List.append_of_mem hij
  exact ends_iff_exists_chain.mpr ⟨back, hl.above⟩

theorem Ends.isSubtype_trans {i j k : ClassId} (h : r.Ends i) (hij : r.isSubtype i j = .ok true)
    (hjk : r.isSubtype j k = .ok true) : r.isSubtype i k = .ok true := by
  obtain ⟨b, hb, hbase⟩ := h.isSubtype_iff j
  obtain ⟨b', hb', hbase'⟩ := (h.of_isSubtype hij).isSubtype_iff k
  obtain ⟨b'', hb'', hbase''⟩ := h.isSubtype_iff k
  obtain rfl := Except.ok.inj (hb.symm.trans hij)
  obtain rfl := Except.ok.inj (hb'.symm.trans hjk)
  rw [hb'', hbase''.mpr ((hbase.mp rfl).trans (hbase'.mp rfl))]

/-- The walk along bases always ends. It fails if there is no end to following bases, and otherwise
gives the classes one comes to, the nearest first. On classes where there is an end, being a subtype
is a strict order, and it is what bases of bases amount to. -/
theorem ancestors_or_cycle (r : StaticRegistry) :
    (∀ i out, r.Climbs i [] (r.get i).base out ↔ out = r.ancestors i) ∧
    (∀ i, (∃ f, r.ancestors i = .error f ∧ f.family = .value) ↔ ¬r.Ends i) ∧
    (∀ i, r.Ends i →
      ∃ l, r.ancestors i = .ok l ∧ l.Nodup ∧ i ∉ l ∧ ∀ n, l[n]? = r.follow (n + 1) i) ∧
    (∀ i, r.Ends i → r.isSubtype i i = .ok false) ∧
    (∀ i j k, r.Ends i → r.isSubtype i j = .ok true → r.isSubtype j k = .ok true →
      r.isSubtype i k = .ok true) ∧
    ∀ i j, r.Ends i →
      ∃ b, r.isSubtype i j = .ok b ∧ (b ↔ Relation.TransGen r.HasBase i j) := by
  refine ⟨fun i out => ?_, fun i => ?_, fun i hi => ?_, fun i hi => hi.isSubtype_self,
    fun i j k hi => hi.isSubtype_trans, fun i j hi => hi.isSubtype_iff j⟩
  · constructor
    · exact fun h => h.unique (r.climbs_ancestors i)
    · rintro rfl
      exact r.climbs_ancestors i
  · rw [← exists_ancestors_error_iff]
    constructor
    · exact fun ⟨f, hf, _⟩ => ⟨f, hf⟩
    · rintro ⟨f, hf⟩
      obtain ⟨j, rfl⟩ := ancestors_error hf
      exact ⟨_, hf, rfl⟩
  · obtain ⟨l, hl⟩ := hi.exists_chain
    exact ⟨l, ancestors_eq_ok_iff.mpr hl, hl.nodup, hl.not_mem, hl.getElem?_eq_follow⟩

/-- Three classes in a row, one that is its own base, and one below it. -/
def tangled : StaticRegistry where
  store := #[⟨"app", some (.text "Top"), none, [], []⟩, ⟨"app", some (.text "Mid"), some 0, [], []⟩,
    ⟨"app", some (.text "Low"), some 1, [], []⟩, ⟨"app", some (.text "Own"), some 3, [], []⟩,
    ⟨"app", some (.text "Late"), some 3, [], []⟩]
  registered := [0, 1, 2, 3, 4]
  byName := []

theorem ends_low : tangled.Ends 2 := ⟨2, 0, rfl, rfl⟩

/-- From the third class the walk gives the two above it; from the last it runs into the cycle. -/
theorem ancestors_or_cycle_of_tangled :
    tangled.Ends 2 ∧ (∃ l, tangled.ancestors 2 = .ok l ∧ l[0]? = some 1 ∧ l[1]? = some 0) ∧
      tangled.isSubtype 2 0 = .ok true ∧ Relation.TransGen tangled.HasBase 2 0 ∧
      ¬tangled.Ends 4 := by
  obtain ⟨-, hfails, hgives, -, htrans, hiff⟩ := ancestors_or_cycle tangled
  obtain ⟨l, hl, -, -, hfollow⟩ := hgives 2 ends_low
  have hsubtype : tangled.isSubtype 2 0 = .ok true := htrans 2 1 0 ends_low rfl rfl
  obtain ⟨b, hb, hbase⟩ := hiff 2 0 ends_low
  obtain rfl := Except.ok.inj (hb.symm.trans hsubtype)
  exact ⟨ends_low, ⟨l, hl, hfollow 0, hfollow 1⟩, hsubtype, hbase.mp rfl,
    (hfails 4).mp ⟨_, rfl, rfl⟩⟩

end TypeStubs.StaticRegistry
