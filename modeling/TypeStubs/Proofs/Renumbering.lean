import Mathlib.Data.List.Perm.Basic
import Mathlib.Logic.Equiv.Basic
import TypeStubs.Proofs.Selection
import TypeStubs.Proofs.Simulation

/-!
# Classes under other numbers

Which number a class has in the store is of no account: a registry with the same classes under
other numbers mirrors the first one, and where names tell candidates apart it has the same
candidates in the same order.
-/

namespace TypeStubs

/-- The permutation of all positions but the first. -/
def shifted (σ : Equiv.Perm ℕ) : Equiv.Perm ℕ where
  toFun
    | 0 => 0
    | i + 1 => σ i + 1
  invFun
    | 0 => 0
    | i + 1 => σ.symm i + 1
  left_inv := by rintro (_ | i) <;> simp
  right_inv := by rintro (_ | i) <;> simp

/-- To permute a list is to permute its positions. -/
theorem exists_perm_getElem? {α : Type} {xs ys : List α} (h : xs.Perm ys) :
    ∃ σ : Equiv.Perm ℕ, ∀ i, ys[σ i]? = xs[i]? := by
  induction h with
  | nil => exact ⟨Equiv.refl ℕ, fun i => rfl⟩
  | @cons x xs ys _ ih =>
      obtain ⟨σ, hσ⟩ := ih
      refine ⟨shifted σ, fun i => ?_⟩
      cases i with
      | zero => rfl
      | succ i => exact hσ i
  | swap x y xs =>
      refine ⟨Equiv.swap 0 1, fun i => ?_⟩
      match i with
      | 0 => rfl
      | 1 => rfl
      | i + 2 =>
          rw [Equiv.swap_apply_of_ne_of_ne (by omega) (by omega)]
          rfl
  | trans _ _ ih ih' =>
      obtain ⟨σ, hσ⟩ := ih
      obtain ⟨τ, hτ⟩ := ih'
      exact ⟨σ.trans τ, fun i => (hτ (σ i)).trans (hσ i)⟩

namespace StaticRegistry

variable {r r' : StaticRegistry} {σ : Equiv.Perm ClassId} {g : GeneratorCompiler}

/-- The second registry has the classes of the first one under other numbers. -/
structure Renumbers (r : StaticRegistry) (σ : Equiv.Perm ClassId) (r' : StaticRegistry) : Prop where
  get : ∀ i, r'.get (σ i) = { r.get i with base := (r.get i).base.map σ }

theorem Candidate.shown {c : ClassId} (hc : r.Candidate g c) :
    (∃ above, r.Chain (r.get c).base above) ∧ (r.reflection.name c).isSome := by
  obtain ⟨root, above, -, habove, -⟩ := hc.below
  refine ⟨⟨above, habove⟩, ?_⟩
  have hown := hc.own
  rw [reflection_name]
  cases hname : (r.get c).qualifiedName with
  | none => simp [StaticRegistry.isOwn, StaticRegistry.nameOf?, hname] at hown
  | some l => rfl

namespace Renumbers

theorem symm (h : r.Renumbers σ r') : r'.Renumbers σ.symm r where
  get := by
    intro i
    have hget := h.get (σ.symm i)
    rw [Equiv.apply_symm_apply] at hget
    rw [hget]
    simp [Option.map_map]

theorem nameOf? (h : r.Renumbers σ r') (i : ClassId) : r'.nameOf? (σ i) = r.nameOf? i := by
  rw [StaticRegistry.nameOf?, StaticRegistry.nameOf?, h.get]
  rfl

theorem isOwn (h : r.Renumbers σ r') (i : ClassId) : r'.isOwn g (σ i) = r.isOwn g i := by
  rw [StaticRegistry.isOwn, StaticRegistry.isOwn, h.nameOf?]

theorem described (h : r.Renumbers σ r') (i : ClassId) :
    r'.reflection.described (σ i) = r.reflection.described i := by
  have hshown : r'.reflection.shown (σ i) = r.reflection.shown i :=
    (congrArg SyntheticClass.shown (h.get i)).trans rfl
  rw [Reflection.described, Reflection.described, reflection_name, reflection_name, h.get, hshown]
  rfl

theorem chain (h : r.Renumbers σ r') {base : Option ClassId} {above : List ClassId}
    (habove : r.Chain base above) : r'.Chain (base.map σ) (above.map σ) := by
  induction habove with
  | done => exact .done
  | @next i above _ ih =>
      refine .next ?_
      rw [h.get]
      exact ih

theorem exists_chain_iff (h : r.Renumbers σ r') (i : ClassId) :
    (∃ above, r'.Chain (r'.get (σ i)).base above) ↔ ∃ above, r.Chain (r.get i).base above := by
  constructor
  · rintro ⟨above, habove⟩
    have hback := h.symm.chain habove
    rw [h.get, Option.map_map, Equiv.symm_comp_self, Option.map_id] at hback
    exact ⟨_, hback⟩
  · rintro ⟨above, habove⟩
    exact ⟨above.map σ, h.get i ▸ h.chain habove⟩

/-- Wherever bases come to an end, the classes answer alike. -/
theorem mirrors (h : r.Renumbers σ r') :
    r.reflection.Mirrors (fun c => ∃ above, r.Chain (r.get c).base above) σ r'.reflection := by
  have hchain : ∀ {c : ClassId} {above : List ClassId}, r.Chain (r.get c).base above →
      r'.Chain (r'.get (σ c)).base (above.map σ) := by
    intro c above habove
    rw [h.get]
    exact h.chain habove
  constructor
  · exact fun c _ => (congrArg SyntheticClass.qualifiedName (h.get c)).trans rfl
  · exact fun c _ => (congrArg SyntheticClass.module (h.get c)).trans rfl
  · exact fun c _ _ => h.described c
  · rintro c ⟨above, habove⟩
    refine ⟨above, ancestors_eq_ok_iff.mpr habove, fun d hd => ?_,
      ancestors_eq_ok_iff.mpr (hchain habove)⟩
    obtain ⟨front, back, rfl⟩ := List.append_of_mem hd
    exact ⟨back, habove.above⟩
  · rintro c d ⟨above, habove⟩ -
    refine (isSubtype_of_chain (hchain habove)).trans ?_
    rw [reflection_isSubtype, isSubtype_of_chain habove]
    congr 1
    rw [Bool.eq_iff_iff, List.contains_iff_mem, List.contains_iff_mem,
      List.mem_map_of_injective σ.injective]
  · exact fun c _ =>
      (congrArg (fun k : SyntheticClass => Except.ok k.arguments) (h.get c)).trans rfl
  · exact fun c _ =>
      (congrArg (fun k : SyntheticClass => Except.ok k.options) (h.get c)).trans rfl

end Renumbers

/-- The second registry has the classes of the first one under other numbers, registered in any
order, and knows them by the same names. -/
structure Relists (r : StaticRegistry) (σ : Equiv.Perm ClassId) (r' : StaticRegistry) : Prop
    extends r.Renumbers σ r' where
  lookup : ∀ name, r'.lookup name = (r.lookup name).map σ
  registered : ∀ i, σ i ∈ r'.registered ↔ i ∈ r.registered

namespace Relists

theorem symm (h : r.Relists σ r') : r'.Relists σ.symm r where
  toRenumbers := h.toRenumbers.symm
  lookup := by
    intro name
    rw [h.lookup, Option.map_map, Equiv.symm_comp_self, Option.map_id, id]
  registered := by
    intro i
    rw [← h.registered, Equiv.apply_symm_apply]

theorem candidate (h : r.Relists σ r') {c : ClassId} (hc : r.Candidate g c) :
    r'.Candidate g (σ c) := by
  obtain ⟨hregistered, hown, root, above, hroot, habove, hbelow⟩ := hc
  refine ⟨(h.registered c).mpr hregistered, (h.isOwn c).trans hown, σ root, above.map σ, ?_, ?_,
    List.mem_map_of_mem hbelow⟩
  · rw [h.lookup, hroot, Option.map_some]
  · rw [h.get]
    exact h.chain habove

theorem candidate_iff (h : r.Relists σ r') {c : ClassId} :
    r'.Candidate g (σ c) ↔ r.Candidate g c := by
  refine ⟨fun hc => ?_, h.candidate⟩
  have hback := h.symm.candidate hc
  rwa [Equiv.symm_apply_apply] at hback

theorem chains (h : r.Relists σ r')
    (hchains : (r.lookup g.root).isSome → ∀ c ∈ r.registered, r.isOwn g c →
      ∃ above, r.Chain (r.get c).base above) :
    (r'.lookup g.root).isSome → ∀ c ∈ r'.registered, r'.isOwn g c →
      ∃ above, r'.Chain (r'.get c).base above := by
  intro hroot c hc hown
  rw [h.lookup, Option.isSome_map] at hroot
  obtain ⟨c, rfl⟩ := σ.surjective c
  rw [h.registered] at hc
  rw [h.isOwn] at hown
  exact (h.exists_chain_iff c).mpr (hchains hroot c hc hown)

/-- Where names tell candidates apart, those of both registries correspond in their order. -/
theorem selected (h : r.Relists σ r') (htexts : r.TextNames) (htexts' : r'.TextNames)
    (hnodup : r.registered.Nodup) (hnodup' : r'.registered.Nodup)
    (hdistinct : ∀ c d, r.Candidate g c → r.Candidate g d → r.nameOf? c = r.nameOf? d → c = d)
    (hchains : (r.lookup g.root).isSome → ∀ c ∈ r.registered, r.isOwn g c →
      ∃ above, r.Chain (r.get c).base above) :
    ∃ cs, g.selected r.reflection = .ok cs ∧ g.selected r'.reflection = .ok (cs.map σ) ∧
      ∀ c ∈ cs, r.Candidate g c := by
  obtain ⟨cs, hselected, hcs, hcsnodup, hsorted⟩ := selected_of_chains htexts hchains
  obtain ⟨ds, hselected', hds, hdsnodup, hsorted'⟩ :=
    selected_of_chains htexts' (h.chains hchains)
  have hperm : ds.Perm (cs.map σ) := by
    refine (List.perm_ext_iff_of_nodup (hdsnodup hnodup')
      ((hcsnodup hnodup).map σ.injective)).mpr fun d => ?_
    obtain ⟨c, rfl⟩ := σ.surjective d
    rw [hds, h.candidate_iff, List.mem_map_of_injective σ.injective, hcs]
  have hmapped : (cs.map σ).Pairwise fun c d =>
      (r'.nameOf? c).getD "" ≤ (r'.nameOf? d).getD "" := by
    rw [List.pairwise_map]
    simpa only [h.nameOf?] using hsorted
  have hdistinct' : ∀ c d, r'.Candidate g c → r'.Candidate g d → r'.nameOf? c = r'.nameOf? d →
      c = d := by
    intro c d hc hd hname
    obtain ⟨c, rfl⟩ := σ.surjective c
    obtain ⟨d, rfl⟩ := σ.surjective d
    rw [h.nameOf?, h.nameOf?] at hname
    rw [hdistinct c d (h.candidate_iff.mp hc) (h.candidate_iff.mp hd) hname]
  have hcandidates : ∀ d ∈ cs.map σ, r'.Candidate g d :=
    fun d hd => (hds d).mp (hperm.mem_iff.mpr hd)
  obtain rfl := eq_of_perm_of_sorted hdistinct' hperm hcandidates hsorted' hmapped
  exact ⟨cs, hselected, hselected', fun c hc => (hcs c).mp hc⟩

end Relists

end StaticRegistry

end TypeStubs
