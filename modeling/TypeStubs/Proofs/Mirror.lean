import TypeStubs.Proofs.Portraits
import TypeStubs.Proofs.Simulation
import TypeStubs.Proofs.Walk

/-!
# Live classes and their portraits agree

What is generated from the portraits of the generators is what is generated from the live classes,
in whatever order the portraits are registered.
-/

namespace TypeStubs

open Scaffold

/-! ## Questions to a portrait -/

namespace StaticRegistry.Portrays

variable {u : Universe} {r : StaticRegistry} {image : Nat → ClassId}

/-- The portraits mirror the portrayed classes. -/
theorem mirrors (h : r.Portrays u image) (hu : u.Grown)
    (hlines : ∀ c, u.isGenerator c → u.Lineage c) :
    (Live.reflection u .standard).Mirrors u.Portrayed image r.reflection := by
  have hchain : ∀ c, u.Portrayed c →
      r.Chain (r.get (image c)).base ((u.get c).ancestry.map image) :=
    fun c hc => h.chain hu.sound hlines hc
  have habove : ∀ c, u.Portrayed c → ∀ d ∈ (u.get c).ancestry, u.Portrayed d :=
    fun c hc d hd => portrayed_of_mem_ancestry hu.sound hlines hc hd
  constructor
  · exact fun c hc => h.qualifiedName hc
  · exact fun c hc => h.moduleOf hc
  · intro c hc hnamed
    obtain ⟨l, hl⟩ := Option.isSome_iff_exists.mp hnamed
    have htrue : l.value.isTruthy := Live.isTruthy_of_qualifiedName hl
    have himage : r.reflection.name (image c) = some l := (h.qualifiedName hc).trans hl
    rw [Reflection.described, Reflection.described, himage, hl]
    simp only [htrue, if_true]
  · intro c hc
    exact ⟨_, rfl, habove c hc, StaticRegistry.ancestors_eq_ok_iff.mpr (hchain c hc)⟩
  · intro c d hc hd
    have hstatic : r.reflection.isSubtype (image c) (image d) =
        .ok (((u.get c).ancestry.map image).contains (image d)) :=
      StaticRegistry.isSubtype_of_chain (hchain c hc)
    have hcontains : ((u.get c).ancestry.map image).contains (image d) =
        (u.get c).ancestry.contains d := by
      rw [Bool.eq_iff_iff, List.contains_iff_mem, List.contains_iff_mem]
      constructor
      · intro hmem
        obtain ⟨e, he, heq⟩ := List.mem_map.mp hmem
        rwa [← h.injective e d (habove c hc e he) hd heq]
      · exact List.mem_map_of_mem
    have hlive : (Live.reflection u .standard).isSubtype c d =
        .ok (c != d && (u.get c).ancestry.contains d) := rfl
    rw [hstatic, hcontains, hlive]
    by_cases heq : c = d
    · have hself := hu.sound.notMem_ancestry d
      rw [heq]
      simp [hself]
    · simp [heq]
  · intro c hc
    rw [h.arguments_eq hu hlines hc]
    rfl
  · intro c hc
    rw [h.options_eq hu hlines hc]
    rfl

end StaticRegistry.Portrays

/-! ## The candidates -/

namespace Scaffold.Universe

variable {u : Universe} {c : Nat}

theorem isGenerator_of_mem_ancestry (hu : u.Sound) {d : Nat} (hd : d ∈ (u.get c).ancestry)
    (h : u.isGenerator d) : u.isGenerator c := by
  rw [isGenerator_iff] at h ⊢
  exact hu.mem_row_trans (List.mem_cons_of_mem c hd) h
end Scaffold.Universe

namespace Live

variable {u : Universe} {g : GeneratorCompiler}

theorem exists_candidate? (g : GeneratorCompiler) (root c : Nat) :
    ∃ x, g.candidate? (reflection u .standard) root c = .ok x := by
  unfold GeneratorCompiler.candidate?
  have hname : (reflection u .standard).name c = qualifiedName (u.get c) := rfl
  rw [hname]
  cases hl : qualifiedName (u.get c) with
  | none => exact ⟨none, rfl⟩
  | some l =>
      obtain rfl := qualifiedName_eq hl
      dsimp only [GeneratorCompiler.isBuiltinLabel, Label.text?, Label.value, Value.text?]
      cases g.isBuiltin ((u.get c).module.plain ++ "." ++ (u.get c).path) with
      | true => exact ⟨none, rfl⟩
      | false =>
          cases hbelow : c != root && (u.get c).ancestry.contains root with
          | true =>
              have hsubtype : (reflection u .standard).isSubtype c root = .ok true :=
                congrArg Except.ok hbelow
              exact ⟨some (_, c), by rw [hsubtype]; rfl⟩
          | false =>
              have hsubtype : (reflection u .standard).isSubtype c root = .ok false :=
                congrArg Except.ok hbelow
              exact ⟨none, by rw [hsubtype]; rfl⟩

/-- A candidate is below the root. -/
theorem mem_ancestry_of_picks {root c : Nat} (h : g.picks (reflection u .standard) root c) :
    root ∈ (u.get c).ancestry := by
  have hbelow : (c != root && (u.get c).ancestry.contains root) = true :=
    Except.ok.inj (GeneratorCompiler.isSubtype_of_picks h)
  rw [Bool.and_eq_true, List.contains_iff_mem] at hbelow
  exact hbelow.2

/-- Among classes that differ in their names, the names by which they are sorted differ too. -/
theorem qualifiedName_eq_of_sortName {c d : Nat} (hnamed : (qualifiedName (u.get c)).isSome)
    (h : GeneratorCompiler.sortName (reflection u .standard) c =
      GeneratorCompiler.sortName (reflection u .standard) d) :
    qualifiedName (u.get c) = qualifiedName (u.get d) := by
  obtain ⟨l, hl⟩ := Option.isSome_iff_exists.mp hnamed
  obtain rfl := qualifiedName_eq hl
  change ((qualifiedName (u.get c)).bind Label.text?).getD "" =
    ((qualifiedName (u.get d)).bind Label.text?).getD "" at h
  rw [hl] at h ⊢
  change (u.get c).module.plain ++ "." ++ (u.get c).path = _ at h
  cases hd : qualifiedName (u.get d) with
  | none =>
      rw [hd] at h
      exact absurd h (by simp)
  | some l =>
      obtain rfl := qualifiedName_eq hd
      rw [hd] at h
      rw [h]
      rfl

end Live

namespace StaticRegistry.Portrays

variable {u : Universe} {r : StaticRegistry} {image : Nat → ClassId} {g : GeneratorCompiler}

theorem perm_allClasses (h : r.Portrays u image) (hu : u.Sound) :
    r.registered.Perm ((u.allClasses.filter fun c => u.Portrayed c).map image) := by
  have hportrayed : ∀ c ∈ u.allClasses.filter fun c => u.Portrayed c, u.Portrayed c :=
    fun c hc => of_decide_eq_true (List.mem_filter.mp hc).2
  have hnodup : ((u.allClasses.filter fun c => u.Portrayed c).map image).Nodup :=
    (u.nodup_allClasses.filter _).map_on fun c hc d hd heq =>
      h.injective c d (hportrayed c hc) (hportrayed d hd) heq
  rw [List.perm_ext_iff_of_nodup h.nodup hnodup]
  intro i
  rw [h.registered, List.mem_map]
  constructor
  · rintro ⟨c, hc, rfl⟩
    have hmem : c ∈ u.allClasses := hu.mem_allClasses_iff.mpr (hc.lt_size hu)
    exact ⟨c, List.mem_filter.mpr ⟨hmem, decide_eq_true hc⟩, rfl⟩
  · rintro ⟨c, hc, rfl⟩
    exact ⟨c, hportrayed c hc, rfl⟩

theorem nameOf?_eq_some_iff (h : r.Portrays u image) {c : Nat} (hc : u.Portrayed c)
    {name : String} :
    r.nameOf? (image c) = some name ↔ Live.qualifiedName (u.get c) = some (.text name) := by
  rw [nameOf?, h.qualifiedName hc, Live.text?_qualifiedName]

/-- A name that belongs to one portrayed class alone stands for its portrait, and a name of no
portrayed class stands for nothing. -/
theorem lookup_eq (h : r.Portrays u image) {s : StaticRegistry} {order : List ClassId}
    (hrebuild : s.rebuild order = .ok r) (name : String) :
    (∀ c, u.Portrayed c → Live.qualifiedName (u.get c) = some (.text name) →
      (∀ d, u.Portrayed d → Live.qualifiedName (u.get d) = some (.text name) → d = c) →
        r.lookup name = some (image c)) ∧
    ((∀ c, u.Portrayed c → Live.qualifiedName (u.get c) ≠ some (.text name)) →
      r.lookup name = none) := by
  have horder : r.registered = order := registered_rebuild hrebuild
  have hlookup := lookup_rebuild hrebuild name
  rw [← horder] at hlookup
  constructor
  · intro c hc hname halone
    have hmem : image c ∈ r.registered.filter fun i => r.nameOf? i = some name :=
      List.mem_filter.mpr ⟨(h.registered _).mpr ⟨c, hc, rfl⟩,
        decide_eq_true ((h.nameOf?_eq_some_iff hc).mpr hname)⟩
    have hlast := List.getLast?_eq_some_getLast (List.ne_nil_of_mem hmem)
    obtain ⟨hregistered, hnamed⟩ := List.mem_filter.mp (List.mem_of_getLast? hlast)
    obtain ⟨d, hd, heq⟩ := (h.registered _).mp hregistered
    rw [← heq] at hnamed hlast
    have hdname := (h.nameOf?_eq_some_iff hd).mp (of_decide_eq_true hnamed)
    rw [hlookup, hlast, halone d hd hdname]
  · intro hnone
    rw [hlookup, List.filter_eq_nil_iff.mpr]
    · rfl
    · intro i hi hname
      obtain ⟨c, hc, rfl⟩ := (h.registered i).mp hi
      exact hnone c hc ((h.nameOf?_eq_some_iff hc).mp (of_decide_eq_true hname))

end StaticRegistry.Portrays

/-- The class of the root name is a generator of this name, or there is none on either side. -/
def GeneratorCompiler.RootIn (g : GeneratorCompiler) (u : Universe) : Prop :=
  (∃ root, u.lookup g.root = some root ∧ u.isGenerator root ∧
    Live.qualifiedName (u.get root) = some (.text g.root)) ∨
  (u.lookup g.root = none ∧
    ∀ c, u.Portrayed c → Live.qualifiedName (u.get c) ≠ some (.text g.root))

/-- The live classes and their portraits, registered in any order, give the same candidates, the
same failures and the same files. -/
theorem registries_agree {u : Universe} {s r : StaticRegistry} {order : List ClassId}
    {image : Nat → ClassId} {g : GeneratorCompiler} (hu : u.Grown)
    (hsingle : ∀ c, u.isGenerator c → c ≠ Universe.generatorId → ∃ b, (u.get c).bases = [b])
    (hrebuild : s.rebuild order = .ok r) (hportrays : r.Portrays u image)
    (hdistinct : ∀ c d, u.Portrayed c → u.Portrayed d → (Live.qualifiedName (u.get c)).isSome →
      Live.qualifiedName (u.get c) = Live.qualifiedName (u.get d) → c = d)
    (hroot : g.RootIn u) :
    let live := Live.reflection u .standard
    let compiled := BoundCompiler.build (Compiler.bound live [.generators g])
    let compiled' := BoundCompiler.build (Compiler.bound r.reflection [.generators g])
    ∃ cs cs' outcome files,
      g.selected live = .ok cs ∧ g.selected r.reflection = .ok cs' ∧
      cs'.map r.reflection.name = cs.map live.name ∧
      compiled.Gives outcome ∧ compiled'.Gives outcome ∧
      (compiled >>= fun built => built.tree.render).Gives files ∧
      (compiled' >>= fun built => built.tree.render).Gives files := by
  intro live compiled compiled'
  have hlines := Universe.lineage_of_isGenerator hu.sound hsingle
  have hmirrors : live.Mirrors u.Portrayed image r.reflection := hportrays.mirrors hu hlines
  obtain ⟨cs, hselected, hselected', hcs⟩ : ∃ cs, g.selected live = .ok cs ∧
      g.selected r.reflection = .ok (cs.map image) ∧
      ∀ c ∈ cs, u.Portrayed c ∧ (live.name c).isSome := by
    rcases hroot with ⟨root, hlookup, hgenerator, hname⟩ | ⟨hlookup, hnone⟩
    · have hshown : ∀ c, g.picks live root c → u.Portrayed c := fun c hc =>
        Or.inr (Universe.isGenerator_of_mem_ancestry hu.sound (Live.mem_ancestry_of_picks hc)
          hgenerator)
      have hlookup' : r.lookup g.root = some (image root) :=
        (hportrays.lookup_eq hrebuild g.root).1 root (Or.inr hgenerator) hname fun d hd hdname =>
          hdistinct d root hd (Or.inr hgenerator) (by rw [hdname]; rfl) (hdname.trans hname.symm)
      refine hmirrors.selected (Or.inr hgenerator) hlookup hlookup' ?_ hshown u.nodup_allClasses
        (hportrays.perm_allClasses hu.sound) ?_
      · exact fun c _ => Live.exists_candidate? g root c
      · intro c d hc hd hnamed heq
        exact hdistinct c d hc hd hnamed (Live.qualifiedName_eq_of_sortName hnamed heq)
    · have hlive : live.lookup g.root = none := hlookup
      have hstatic : r.reflection.lookup g.root = none :=
        (hportrays.lookup_eq hrebuild g.root).2 hnone
      refine ⟨[], ?_, ?_, fun c hc => (List.not_mem_nil hc).elim⟩
      · rw [GeneratorCompiler.selected, hlive]
      · rw [GeneratorCompiler.selected, hstatic]
        rfl
  have hnames : (cs.map image).map r.reflection.name = cs.map live.name := by
    rw [List.map_map]
    exact List.map_congr_left fun c hc => hmirrors.name c (hcs c hc).1
  have hbuilt : compiled.Gives (g.settled live cs .empty) :=
    (Compiler.build_one_gives g live).congr (by rw [hselected]; rfl)
  have hbuilt' : compiled'.Gives (g.settled live cs .empty) := by
    refine (Compiler.build_one_gives g r.reflection).congr ?_
    rw [hselected']
    exact hmirrors.settled hcs .empty
  have hwritten := hbuilt.bind fun built => StubTree.render_gives built.tree
  have hwritten' := hbuilt'.bind fun built => StubTree.render_gives built.tree
  exact ⟨cs, cs.map image, _, _, hselected, hselected', hnames, hbuilt, hbuilt', hwritten,
    hwritten'⟩

/-- A generator, one below it, and a local one below that. -/
def sketched : Universe :=
  ((builtIn.declare ⟨"app", "Zebra", [namedId], [bound .argument "size" .numeric none]⟩).declare
    ⟨"app", "Ant", [4],
      [bound .argument "size" .string none, bound .option "old" .boolean none]⟩).declare
    ⟨"app", "make.<locals>.Draft", [5], [bound .option "colour" .string none]⟩

theorem grown_sketched : sketched.Grown := by
  refine .declare (.declare (.declare .builtIn ?_ ?_ ?_) ?_ ?_ ?_) ?_ ?_ ?_
  · decide +kernel
  · decide
  · decide +kernel
  · decide +kernel
  · decide
  · decide +kernel
  · decide +kernel
  · decide
  · decide +kernel

theorem registries_agree_of_sketched :
    ∃ r, sketched.portraits.rebuild [3, 6, 0, 5, 1, 4, 2] = .ok r ∧ r.Portrays sketched id ∧
    ∃ cs cs' outcome files,
      scaffoldCompiler.selected (Live.reflection sketched .standard) = .ok cs ∧
      scaffoldCompiler.selected r.reflection = .ok cs' ∧
      cs'.map r.reflection.name = cs.map (Live.reflection sketched .standard).name ∧
      (BoundCompiler.build (Compiler.bound (Live.reflection sketched .standard)
        [.generators scaffoldCompiler])).Gives outcome ∧
      (BoundCompiler.build (Compiler.bound r.reflection
        [.generators scaffoldCompiler])).Gives outcome ∧
      (BoundCompiler.build (Compiler.bound (Live.reflection sketched .standard)
        [.generators scaffoldCompiler]) >>= fun built => built.tree.render).Gives files ∧
      (BoundCompiler.build (Compiler.bound r.reflection
        [.generators scaffoldCompiler]) >>= fun built => built.tree.render).Gives files := by
  have hsize : sketched.classes.size = 7 := by decide +kernel
  have hlt : ∀ c, sketched.Portrayed c → c < 7 := fun c hc =>
    hsize ▸ hc.lt_size grown_sketched.sound
  have hsingle : ∀ c, sketched.isGenerator c → c ≠ Universe.generatorId →
      ∃ b, (sketched.get c).bases = [b] := by
    have hlength : ∀ c < 7, sketched.isGenerator c → (sketched.get c).bases.length = 1 := by
      decide +kernel
    exact fun c hc _ => List.length_eq_one_iff.mp (hlength c (hlt c (Or.inr hc)) hc)
  have hmodule : ∀ c, sketched.Portrayed c →
      ∃ m, (sketched.get c).module = .text m ∧ m ≠ "" := by
    have hcases : ∀ c < 7, (sketched.get c).module.text?.any (· != "") ∧
        ((sketched.get c).module.attribute? "name").isNone := by
      decide +kernel
    intro c hc
    obtain ⟨htext, hnameless⟩ := hcases c (hlt c hc)
    cases hm : (sketched.get c).module with
    | text m =>
        rw [hm] at htext
        exact ⟨m, rfl, bne_iff_ne.mp htext⟩
    | tag t => simp [hm, Value.attribute?] at hnameless
    | _ => simp [hm, Value.text?] at htext
  have horder : [3, 6, 0, 5, 1, 4, 2].Perm
      ((List.range sketched.classes.size).filter fun c => sketched.Portrayed c) := by
    decide +kernel
  obtain ⟨r, hrebuild, hportrays⟩ := Universe.exists_portrays grown_sketched
    (Universe.lineage_of_isGenerator grown_sketched.sound hsingle) hmodule horder
  have hdistinct : ∀ c < 7, ∀ d < 7,
      ((Live.qualifiedName (sketched.get c)).bind Label.text?).isSome →
      (Live.qualifiedName (sketched.get c)).bind Label.text? =
        (Live.qualifiedName (sketched.get d)).bind Label.text? → c = d := by
    decide +kernel
  refine ⟨r, hrebuild, hportrays, registries_agree grown_sketched hsingle hrebuild hportrays ?_ ?_⟩
  · intro c d hc hd hnamed heq
    obtain ⟨l, hl⟩ := Option.isSome_iff_exists.mp hnamed
    obtain rfl := Live.qualifiedName_eq hl
    exact hdistinct c (hlt c hc) d (hlt d hd) (by rw [hl]; rfl) (by rw [heq])
  · exact Or.inl ⟨Universe.generatorId, by decide +kernel, by decide +kernel,
      Live.text?_qualifiedName.mp (by decide +kernel)⟩

end TypeStubs