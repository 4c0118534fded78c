import TypeStubs.Proofs.Rendering
import TypeStubs.Proofs.Verdict

/-!
# The order of classes is of no account

What is written depends on which classes are processed, but neither on their order nor on how often
each of them comes up.
-/

namespace TypeStubs

open ClassNode StubTree

variable {C : Type}

/-- Different classes are in different modules or have different paths. -/
def Reflection.Apart (r : Reflection C) (cs : List C) : Prop :=
  ∀ c ∈ cs, ∀ d ∈ cs, r.moduleOf c = r.moduleOf d →
    (r.textPath c).isSome → r.textPath c = r.textPath d → c = d

namespace GeneratorCompiler

variable {g : GeneratorCompiler} {r : Reflection C}

/-- No class can end a run: processing one fails for that class alone, if it does. -/
def Isolated (g : GeneratorCompiler) (r : Reflection C) (cs : List C) : Prop :=
  ∀ c ∈ cs, ∀ w f, ((g.process r c).perform w).1 = .error f → f.family.isCompilation

theorem edits_consistent {cs : List C} (h : r.Apart cs) : Consistent (g.edits r cs) := by
  intro e he e' he' hsite
  obtain ⟨c, hc, added, hv, haccessors⟩ := mem_edits.mp he
  obtain ⟨d, hd, added', hv', haccessors'⟩ := mem_edits.mp he'
  obtain ⟨-, path, hpath, hs⟩ := verdict_eq_stub hv
  obtain ⟨-, path', hpath', hs'⟩ := verdict_eq_stub hv'
  obtain ⟨hmodule, rfl⟩ := Site.ofPath_injective (hs.symm.trans (hsite.trans hs'))
  obtain rfl : c = d :=
    h c hc d hd hmodule (by rw [hpath, Option.isSome_some]) (hpath.trans hpath'.symm)
  obtain ⟨-, rfl⟩ := Verdict.stub.inj (hv.symm.trans hv')
  rw [haccessors, haccessors']

theorem edits_ne_nil {cs : List C} : ∀ e ∈ g.edits r cs, e.2 ≠ [] := by
  intro e he
  obtain ⟨c, -, added, hv, haccessors⟩ := mem_edits.mp he
  rw [haccessors]
  exact Contribution.accessors_ne_nil (verdict_eq_stub hv).1

theorem Isolated.fatal? {cs : List C} (h : g.Isolated r cs) :
    ∀ c ∈ cs, (g.verdict r c).fatal? = none := by
  intro c hc
  have hprocess := (g.process_does r c ⟨.empty, #[]⟩).1
  unfold Verdict.fatal?
  cases houtcome : (g.verdict r c).outcome with
  | ok u => rfl
  | error f => simp [h c hc _ f (hprocess.trans houtcome)]

theorem isolated_of_fatal? {cs : List C} (h : ∀ c ∈ cs, (g.verdict r c).fatal? = none) :
    g.Isolated r cs := by
  intro c hc w f hf
  have houtcome : (g.verdict r c).outcome = .error f := (g.process_does r c w).1.symm.trans hf
  have hfatal := h c hc
  rw [Verdict.fatal?, houtcome] at hfatal
  simpa using hfatal

theorem Isolated.settled {cs : List C} (h : g.Isolated r cs) (b : Build) :
    g.settled r cs b = .ok ⟨putAt (g.edits r cs) b.tree, b.failures ++ g.notes r cs⟩ := by
  have hfirst : g.firstFatal? r cs = none := List.findSome?_eq_none_iff.mpr h.fatal?
  rw [GeneratorCompiler.settled, hfirst, leaves_eq_putAt h.fatal?]

/-- A class that was processed in a run can be processed again without effect. -/
theorem process_again {cs : List C} (hapart : r.Apart cs) (hisolated : g.Isolated r cs) {c : C}
    (hc : c ∈ cs) (log : Array Record) :
    ((g.process r c).perform ⟨putAt (g.edits r cs) .empty, log⟩).2.tree =
      putAt (g.edits r cs) .empty := by
  rw [(g.process_does r c _).2]
  change (g.verdict r c).leaves _ = _
  rw [leaves_of_not_fatal (hisolated.fatal? c hc)]
  cases hedit : (g.verdict r c).edit? with
  | none => rfl
  | some e =>
      have he : e ∈ g.edits r cs := List.mem_filterMap.mpr ⟨c, hc, hedit⟩
      exact change_putAt_of_mem (edits_consistent hapart) he

/-! ## Two runs -/

/-- Two runs from nothing over the same classes, in any order and with any repetitions, give trees
that are written alike. Processing one of the classes once more leaves the tree as it is. -/
theorem runs_alike (g : GeneratorCompiler) (r : Reflection C) {cs ds : List C}
    (hsame : ∀ c, c ∈ cs ↔ c ∈ ds) (hapart : r.Apart cs) (hisolated : g.Isolated r cs) :
    ∃ b n b' n' files,
      (Compiler.steps r (.generators g) .empty cs).Gives (.ok (b, n)) ∧
      (Compiler.steps r (.generators g) .empty ds).Gives (.ok (b', n')) ∧
      b.tree.render.Gives files ∧ b'.tree.render.Gives files ∧
      ∀ c ∈ cs, ∀ log, ((g.process r c).perform ⟨b.tree, log⟩).2.tree = b.tree := by
  have hothers : g.Isolated r ds := fun c hc => hisolated c ((hsame c).mpr hc)
  have hruns := Compiler.steps_gives g r .empty cs
  have hruns' := Compiler.steps_gives g r .empty ds
  rw [hisolated.settled] at hruns
  rw [hothers.settled] at hruns'
  have hedits : ∀ e, e ∈ g.edits r cs ↔ e ∈ g.edits r ds := by
    intro e
    rw [mem_edits, mem_edits]
    simp only [hsame]
  have halike := render_congr (distinct_empty.putAt (g.edits r cs))
    (distinct_empty.putAt (g.edits r ds))
    (accessorsAt_putAt_congr (edits_consistent hapart) hedits)
  refine ⟨_, _, _, _, _, hruns, hruns', render_gives _, ?_, ?_⟩
  · exact (render_gives _).congr halike.symm
  · exact fun c hc log => process_again hapart hisolated hc log

/-- A compiler for the classes below `lib.Root`, of which all of `lib` is built in. -/
def libraryCompiler : GeneratorCompiler := ⟨"lib.Root", [⟨"^lib[.]", Text.startsWith "lib."⟩]⟩

/-- A class in which names come up twice, and one nested in it. -/
def nestedClasses : StaticRegistry where
  store := #[
    ⟨"lib", some (.text "Root"), none, [], [("quiet", ⟨"quiet", .boolean, false, true⟩)]⟩,
    ⟨"app", some (.text "Outer"), some 0,
      [⟨"size", .numeric, true, false⟩, ⟨"size", .string, true, false⟩],
      [("quiet", ⟨"quiet", .boolean, false, true⟩), ("size", ⟨"size", .other, false, false⟩)]⟩,
    ⟨"app", some (.text "Outer.Inner"), some 1, [⟨"size", .array, true, false⟩], []⟩]
  registered := [0, 1, 2]
  byName := [(.text "lib.Root", 0), (.text "app.Outer", 1), (.text "app.Outer.Inner", 2)]

theorem runs_alike_of_nested : ∃ b n b' n' files,
    (Compiler.steps nestedClasses.reflection (.generators libraryCompiler) .empty [1, 2]).Gives
      (.ok (b, n)) ∧
    (Compiler.steps nestedClasses.reflection (.generators libraryCompiler) .empty
      [2, 1, 2, 1]).Gives (.ok (b', n')) ∧
    b.tree.render.Gives files ∧ b'.tree.render.Gives files ∧
    ∀ c ∈ [1, 2], ∀ log,
      ((libraryCompiler.process nestedClasses.reflection c).perform ⟨b.tree, log⟩).2.tree =
        b.tree :=
  runs_alike libraryCompiler nestedClasses.reflection (by grind)
    (by unfold Reflection.Apart; decide) (isolated_of_fatal? (by
      have hnone : ∀ c ∈ [1, 2],
          (libraryCompiler.verdict nestedClasses.reflection c).fatal?.isNone := by decide
      exact fun c hc => Option.isNone_iff_eq_none.mp (hnone c hc)))

end GeneratorCompiler

end TypeStubs
