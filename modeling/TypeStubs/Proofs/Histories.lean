import TypeStubs.Proofs.OutputDirectory

/-!
# Histories of an output directory

Run after run, each file below the directory is an early one that no run has touched, or one that is
recognised as generated. So the last run decides what is there. It has to find the directory,
though: a path with two dots may lead through a directory that an earlier run took away.
-/

namespace TypeStubs

open StubDirectory

namespace Disk

variable {d d' : Disk} {dir p : Path} {l : Location} {names : List String}

/-- The way to a directory leads through directories above it and through others that are there and
outside of it. -/
def Steady (d : Disk) (dir : Path) : Prop :=
  (∀ s ∈ (d.absolute dir).parts, Char.ofNat 0 ∉ s.toList) ∧
  ∀ front, front <+: (d.absolute dir).parts →
    (Path.resolved ⟨.root, front⟩).parts <+: (d.resolve dir).parts ∨
      (d.at? (Path.resolved ⟨.root, front⟩).parts = some .directory ∧
        ¬ (d.resolve dir).parts <+: (Path.resolved ⟨.root, front⟩).parts)

/-- The way without two dots never leads off. -/
theorem steady_of_notMem (hdots : ".." ∉ (d.absolute dir).parts)
    (hnull : ∀ s ∈ (d.absolute dir).parts, Char.ofNat 0 ∉ s.toList) : d.Steady dir := by
  have hresolved : ∀ (a : Anchor) (front : List String), front <+: (d.absolute dir).parts →
      (Path.resolved ⟨a, front⟩).parts = front := by
    intro a front hfront
    have happend := Path.resolved_append a [] fun hmem => hdots (hfront.subset hmem)
    simpa [Path.resolved] using happend
  refine ⟨hnull, fun front hfront => Or.inl ?_⟩
  have hwhole : (d.resolve dir).parts = (d.absolute dir).parts :=
    hresolved _ _ List.prefix_rfl
  rwa [hresolved .root front hfront, hwhole]

theorem Keeps.steady (h : d.Keeps (fun l => ¬ IsBelow (d.resolve dir).parts l) d')
    (hsteady : d.Steady dir) : d'.Steady dir := by
  have habsolute : d'.absolute dir = d.absolute dir := by rw [absolute, absolute, h.start]
  unfold Steady
  rw [habsolute, h.resolve dir]
  refine ⟨hsteady.1, fun front hfront => (hsteady.2 front hfront).imp_right ?_⟩
  rintro ⟨hat, hoff⟩
  refine ⟨h.directory _ ?_ hat, hoff⟩
  rintro ⟨rest, -, heq⟩
  exact hoff ⟨rest, heq.symm⟩

/-- A walk that fails has come to something that is no directory. -/
theorem exists_front_of_walk_error {parts : List String} {f : Fault}
    (h : parts.foldlM d.enter [] = .error f) (hf : f ≠ .nameTooLong) :
    ∃ front, front <+: parts ∧ d.at? (Path.resolved ⟨.root, front⟩).parts ≠ some .directory := by
  induction parts using List.reverseRecOn with
  | nil => simp [pure, Except.pure] at h
  | append_singleton parts s ih =>
      rw [List.foldlM_append] at h
      cases hwalk : parts.foldlM d.enter [] with
      | error f' =>
          rw [hwalk] at h
          obtain rfl := Except.error.inj h
          obtain ⟨front, hfront, hat⟩ := ih hwalk
          exact ⟨front, hfront.trans (List.prefix_append _ _), hat⟩
      | ok l =>
          -- The walk fails at its last part, so what stands before that is no directory.
          refine ⟨parts, List.prefix_append _ _, ?_⟩
          rw [← walk_ok hwalk]
          intro hat
          have hstep : d.enter l s = .error f := by
            have hlast : [s].foldlM d.enter l = .error f := by rwa [hwalk] at h
            rw [List.foldlM_cons] at hlast
            cases henter : d.enter l s with
            | error f' =>
                rw [henter] at hlast
                exact hlast
            | ok m => simp [henter, bind, Except.bind, pure, Except.pure] at hlast
          rw [enter, hat] at hstep
          dsimp only at hstep
          split at hstep
          · exact hf (Except.error.inj hstep).symm
          · split at hstep <;> simp at hstep

/-- There is nothing below a directory that is not found. -/
theorem Steady.at?_eq_none (hsteady : d.Steady dir) (h : d.Sound)
    (hnot : d.isDirectory dir = .ok false) (hnames : names ≠ []) :
    d.at? ((d.resolve dir).parts ++ names) = none := by
  obtain ⟨hnull, hfronts⟩ := hsteady
  -- Either the way leads to something that is no directory, or it breaks off; a steady one can
  -- break off only above the directory.
  cases hlocate : d.locate dir with
  | ok l =>
      obtain rfl := (locate_ok hlocate).2
      refine h.at?_append_eq_none (fun hat => ?_) hnames
      rw [isDirectory_of_at? hlocate hat] at hnot
      simp at hnot
  | error f =>
      have hf : f ≠ .nameTooLong := by
        rintro rfl
        rw [isDirectory, peek, stat, hlocate] at hnot
        simp [bind, Except.bind, Except.map] at hnot
      have hwalk : (d.absolute dir).parts.foldlM d.enter [] = .error f := by
        unfold locate at hlocate
        dsimp only at hlocate
        split at hlocate
        · rename_i hany
          obtain ⟨s, hs, hcontains⟩ := List.any_eq_true.mp hany
          exact (hnull s hs (List.contains_iff_mem.mp hcontains)).elim
        · exact hlocate
      obtain ⟨front, hfront, hat⟩ := exists_front_of_walk_error hwalk hf
      rcases hfronts front hfront with ⟨rest, hrest⟩ | ⟨hthere, -⟩
      · rw [← hrest, List.append_assoc]
        exact h.at?_append_eq_none hat (by simp [hnames])
      · exact (hat hthere).elim

end Disk

/-! ## Runs -/

/-- The state of the disk after some runs: what a run has put below the root is recognised, and all
else is as it was, or was recognised and is gone. -/
structure Since (root : Location) (d₀ d : Disk) (written : Location → Prop) : Prop where
  keeps : d₀.Keeps (fun l => ¬ Disk.IsBelow root l) d
  taken : ∀ names, names ≠ [] → written names →
    d.fileAt? (root ++ names) = none ∨ recognises d root names
  other : ∀ names, names ≠ [] → ¬ written names →
    d.fileAt? (root ++ names) = d₀.fileAt? (root ++ names) ∨
      (d.fileAt? (root ++ names) = none ∧ recognises d₀ root names)

theorem recognises_congr {d d' : Disk} {root names : Location}
    (h : d'.fileAt? (root ++ names) = d.fileAt? (root ++ names)) :
    recognises d' root names = recognises d root names := by
  rw [recognises, recognises, h]

theorem recognises_of_fits {d : Disk} {root : Location} {f : Path × String} {bytes : List UInt8}
    (hf : Fits f) (htext : Disk.decodeText bytes = .ok f.2)
    (hfile : d.fileAt? (root ++ f.1.parts) = some bytes) : recognises d root f.1.parts := by
  rw [recognises, hfile, Option.any_some, hf.stub, isGenerated_of_decodeText htext hf.line]
  rfl

namespace Since

variable {w w' : Workspace} {dir : Path} {d₀ : Disk} {written : Location → Prop}

theorem refl {root : Location} (h : d₀.Sound) : Since root d₀ d₀ fun _ => False where
  keeps := .refl h
  taken _ _ h := h.elim
  other _ _ _ := Or.inl rfl

/-- One more run. -/
theorem write {files : Files} {done : Written}
    (h : Since (d₀.resolve dir).parts d₀ w.disk written) (hfiles : files.Generated)
    (hdevice : ∀ f ∈ files, d₀.at? ((d₀.resolve dir).parts ++ f.1.parts) ≠ some .device)
    (hrun : (StubDirectory.write dir files).perform w = (.ok done, w')) :
    Since (d₀.resolve dir).parts d₀ w'.disk
        (fun names => written names ∨ ⟨.relative, names⟩ ∈ files.map Prod.fst) ∧
      (Settles files (d₀.resolve dir).parts w.disk w'.disk ∨
        (files = [] ∧ w'.disk = w.disk ∧ w.disk.isDirectory dir = .ok false)) := by
  have hresolve := h.keeps.resolve dir
  have hdone := write_ok h.keeps.sound hfiles (fun f hf hat => hdevice f hf
    (h.keeps.device _ (hresolve ▸ hat))) hrun
  rw [hresolve] at hdone
  obtain ⟨hkeeps, hsettles⟩ := hdone
  have hplaced : ∀ names, ⟨.relative, names⟩ ∈ files.map Prod.fst →
      recognises w'.disk (d₀.resolve dir).parts names := by
    intro names hkey
    obtain ⟨f, hf, heq⟩ := List.mem_map.mp hkey
    have hparts : f.1.parts = names := by rw [heq]
    rcases hsettles with ⟨hplaced, -⟩ | ⟨rfl, -⟩
    · obtain ⟨bytes, htext, hfile⟩ := hplaced f hf
      exact hparts ▸ recognises_of_fits (hfiles.fits f hf) htext hfile
    · exact (List.not_mem_nil hf).elim
  have hothers : ∀ names, names ≠ [] → ⟨.relative, names⟩ ∉ files.map Prod.fst →
      w'.disk.fileAt? ((d₀.resolve dir).parts ++ names) =
          w.disk.fileAt? ((d₀.resolve dir).parts ++ names) ∨
        (w'.disk.fileAt? ((d₀.resolve dir).parts ++ names) = none ∧
          recognises w.disk (d₀.resolve dir).parts names) := by
    intro names hne hnew
    rcases hsettles with ⟨-, hothers⟩ | ⟨-, heq, -⟩
    · have hthis := hothers names hne hnew
      by_cases hrecognised : recognises w.disk (d₀.resolve dir).parts names
      · rw [if_pos hrecognised] at hthis
        exact Or.inr ⟨hthis, hrecognised⟩
      · rw [if_neg hrecognised] at hthis
        exact Or.inl hthis
    · exact Or.inl (by rw [heq])
  refine ⟨⟨h.keeps.trans hkeeps, fun names hne hwritten => ?_, fun names hne hunwritten => ?_⟩,
    hsettles⟩
  · by_cases hkey : ⟨.relative, names⟩ ∈ files.map Prod.fst
    · exact Or.inr (hplaced names hkey)
    · rcases hothers names hne hkey with hsame | ⟨hnone, -⟩
      · rw [recognises_congr hsame, hsame]
        exact h.taken names hne (hwritten.resolve_right hkey)
      · exact Or.inl hnone
  · rw [not_or] at hunwritten
    have hbefore := h.other names hne hunwritten.1
    rcases hothers names hne hunwritten.2 with hsame | ⟨hnone, hrecognised⟩
    · rwa [hsame]
    · refine Or.inr ⟨hnone, ?_⟩
      rcases hbefore with hearly | ⟨-, hrecognised'⟩
      · rwa [recognises_congr hearly] at hrecognised
      · exact hrecognised'

/-- Any number of runs. -/
theorem writes {maps : List Files} {results : List Written}
    (h : Since (d₀.resolve dir).parts d₀ w.disk written)
    (hmaps : ∀ files ∈ maps, files.Generated)
    (hdevice : ∀ files ∈ maps, ∀ f ∈ files,
      d₀.at? ((d₀.resolve dir).parts ++ f.1.parts) ≠ some .device)
    (hrun : (maps.mapM (StubDirectory.write dir)).perform w = (.ok results, w')) :
    Since (d₀.resolve dir).parts d₀ w'.disk fun names =>
      written names ∨ ∃ files ∈ maps, ⟨.relative, names⟩ ∈ files.map Prod.fst := by
  induction maps generalizing w written results with
  | nil =>
      obtain ⟨-, rfl⟩ := DiskWork.perform_pure_ok.mp hrun
      simpa using h
  | cons files maps ih =>
      rw [List.mapM_cons] at hrun
      obtain ⟨done, w₁, hfirst, hrun⟩ := DiskWork.perform_bind_ok.mp hrun
      obtain ⟨rest, w₂, hrest, hdone⟩ := DiskWork.perform_bind_ok.mp hrun
      obtain ⟨-, rfl⟩ := DiskWork.perform_pure_ok.mp hdone
      have hone := (h.write (hmaps files List.mem_cons_self)
        (hdevice files List.mem_cons_self) hfirst).1
      have hall := ih hone (fun g hg => hmaps g (List.mem_cons_of_mem files hg))
        (fun g hg => hdevice g (List.mem_cons_of_mem files hg)) hrest
      simpa only [List.mem_cons, exists_eq_or_imp, or_assoc] using hall

/-- Without what is recognised, nothing tells of the runs. -/
theorem cleaned {root names : Location} {d : Disk} (h : Since root d₀ d written) (hne : names ≠ [])
    [Decidable (written names)] :
    (if recognises d root names then none else d.fileAt? (root ++ names)) =
      if written names ∨ recognises d₀ root names then none else d₀.fileAt? (root ++ names) := by
  by_cases hwritten : written names
  · rw [if_pos (Or.inl hwritten)]
    rcases h.taken names hne hwritten with hnone | hrecognised
    · rw [hnone, ite_self]
    · rw [if_pos hrecognised]
  · simp only [hwritten, false_or]
    rcases h.other names hne hwritten with hsame | ⟨hnone, hrecognised⟩
    · rw [recognises_congr hsame, hsame]
    · rw [hnone, ite_self, if_pos hrecognised]

end Since

/-- After some runs the files below the directory are those of the last run, and such early ones as
no run had a file for and as were not recognised. The last run must have a file, or the way to the
directory must be steady. -/
theorem write_forgets {w w' : Workspace} {dir : Path} {maps : List Files} {last : Files}
    {results : List Written} (h : w.disk.Sound)
    (hmaps : ∀ files ∈ maps ++ [last], files.Generated)
    (hdevice : ∀ files ∈ maps ++ [last], ∀ f ∈ files,
      w.disk.at? ((w.disk.resolve dir).parts ++ f.1.parts) ≠ some .device)
    (hfind : last ≠ [] ∨ w.disk.Steady dir)
    (hrun : ((maps ++ [last]).mapM (write dir)).perform w = (.ok results, w')) :
    let root := (w.disk.resolve dir).parts
    (∀ f ∈ last, ∃ bytes, w'.disk.fileAt? (root ++ f.1.parts) = some bytes ∧
      Disk.decodeText bytes = .ok f.2) ∧
    ∀ names, names ≠ [] → ⟨.relative, names⟩ ∉ last.map Prod.fst →
      w'.disk.fileAt? (root ++ names) =
        if (∃ files ∈ maps, ⟨.relative, names⟩ ∈ files.map Prod.fst) ∨
          recognises w.disk root names then none else w.disk.fileAt? (root ++ names) := by
  intro root
  rw [List.mapM_append] at hrun
  obtain ⟨early, w₁, hearly, hrun⟩ := DiskWork.perform_bind_ok.mp hrun
  obtain ⟨late, w₂, hlate, hdone⟩ := DiskWork.perform_bind_ok.mp hrun
  obtain ⟨-, rfl⟩ := DiskWork.perform_pure_ok.mp hdone
  rw [List.mapM_cons] at hlate
  obtain ⟨done, w₃, hwrite, hrest⟩ := DiskWork.perform_bind_ok.mp hlate
  obtain ⟨-, rfl⟩ := DiskWork.perform_pure_ok.mp hrest
  have hlast : last ∈ maps ++ [last] := List.mem_append_right maps (List.mem_singleton.mpr rfl)
  have hbefore := (Since.refl h).writes (fun g hg => hmaps g (List.mem_append_left [last] hg))
    (fun g hg => hdevice g (List.mem_append_left [last] hg)) hearly
  have hsettles := (hbefore.write (hmaps last hlast) (hdevice last hlast) hwrite).2
  have hremaining : ∀ names, names ≠ [] → ⟨.relative, names⟩ ∉ last.map Prod.fst →
      w₃.disk.fileAt? (root ++ names) = if recognises w₁.disk root names then none
        else w₁.disk.fileAt? (root ++ names) := by
    intro names hne hnew
    rcases hsettles with ⟨-, hothers⟩ | ⟨hnil, heq, hnot⟩
    · exact hothers names hne hnew
    · have hsteady := hbefore.keeps.steady (hfind.resolve_left fun hsome => hsome hnil)
      have hnone := hsteady.at?_eq_none hbefore.keeps.sound hnot hne
      rw [hbefore.keeps.resolve dir] at hnone
      rw [heq, Disk.fileAt?, hnone, ite_self]
  refine ⟨fun f hf => ?_, fun names hne hnew => ?_⟩
  · rcases hsettles with ⟨hplaced, -⟩ | ⟨rfl, -⟩
    · obtain ⟨bytes, htext, hfile⟩ := hplaced f hf
      exact ⟨bytes, hfile, htext⟩
    · exact (List.not_mem_nil hf).elim
  · rw [hremaining names hne hnew, hbefore.cleaned hne]
    simp only [false_or]
    rfl

/-! ## Runs that need no sorting -/

/-- A run over files that are in order and find what is there in order. Merge sort does not reduce,
so runs on given files are evaluated in this form. -/
def writeInOrder (dir : Path) (files : Files) : DiskWork Written := do
  let done ← files.foldlM (placeNoting dir) ⟨[], [], []⟩
  let paths ← DiskWork.reads fun d => do
    if !(← d.isDirectory dir) then return []
    let l ← d.locate dir
    return (d.below l).filterMap (generatedPath? dir)
  if (files.Pairwise fun a b => a.1.le b.1) ∧ paths.Pairwise fun a b => a.le b then
    (paths.filter fun p => !(targets dir files).contains p).foldlM (discardNoting dir) done
  else throw .wrongType

theorem perform_write_of_inOrder {w w' : Workspace} {dir : Path} {files : Files} {done : Written}
    (h : (writeInOrder dir files).perform w = (.ok done, w')) :
    (write dir files).perform w = (.ok done, w') := by
  unfold writeInOrder at h
  obtain ⟨placed, w₁, hplace, h⟩ := DiskWork.perform_bind_ok.mp h
  obtain ⟨paths, w₂, hread, h⟩ := DiskWork.perform_bind_ok.mp h
  obtain ⟨hpaths, rfl⟩ := DiskWork.perform_reads_ok.mp hread
  split at h
  · rename_i hsorted
    have hgenerated : generatedFiles w₁.disk dir = .ok paths := by
      rw [generatedFiles_eq]
      obtain ⟨isThere, hthere, hpaths⟩ := bind_eq_ok_iff.mp hpaths
      rw [hthere]
      cases isThere with
      | false => exact hpaths
      | true =>
          obtain ⟨l, hlocate, hpaths⟩ := bind_eq_ok_iff.mp hpaths
          obtain rfl := Except.ok.inj hpaths
          rw [hlocate]
          exact congrArg Except.ok (List.mergeSort_of_pairwise hsorted.2)
    unfold write
    rw [Files.sorted, List.mergeSort_of_pairwise hsorted.1]
    refine DiskWork.perform_bind_ok.mpr ⟨placed, w₁, hplace, DiskWork.perform_bind_ok.mpr ⟨_, w₁,
      DiskWork.perform_reads_ok.mpr ⟨?_, rfl⟩, h⟩⟩
    rw [obsolete, hgenerated]
    rfl
  · exact absurd (Prod.mk.inj h).1 (by simp)

theorem perform_writes_of_inOrder {w w' : Workspace} {dir : Path} {maps : List Files}
    {results : List Written} (h : (maps.mapM (writeInOrder dir)).perform w = (.ok results, w')) :
    (maps.mapM (write dir)).perform w = (.ok results, w') := by
  induction maps generalizing w w' results with
  | nil => exact h
  | cons files maps ih =>
      rw [List.mapM_cons] at h ⊢
      obtain ⟨done, w₁, hfirst, h⟩ := DiskWork.perform_bind_ok.mp h
      obtain ⟨rest, w₂, hrest, hdone⟩ := DiskWork.perform_bind_ok.mp h
      exact DiskWork.perform_bind_ok.mpr ⟨done, w₁, perform_write_of_inOrder hfirst,
        DiskWork.perform_bind_ok.mpr ⟨rest, w₂, ih hrest, hdone⟩⟩

def plainStub : String := header ++ "\n"

/-- A directory with two files of other origin and a generated one in a directory of its own. -/
def mixed : Workspace where
  disk := {
    entries := [(["work"], .directory), (["work", "out"], .directory),
      (["work", "out", "hand.pyi"], .file []), (["work", "out", "kept.pyi"], .file [35, 10]),
      (["work", "out", "pkg"], .directory),
      (["work", "out", "pkg", "old.pyi"], .file (Text.Utf8.encode plainStub.toList))]
    workingDirectory := ["work"]
    home := [] }
  log := #[]

def outDirectory : Path := ⟨.relative, ["out"]⟩

def takenOver : Files := [(⟨.relative, ["hand.pyi"]⟩, plainStub)]

def renewed : Files := [(⟨.relative, ["pkg", "new.pyi"]⟩, plainStub)]

theorem write_forgets_of_mixed : ∃ results w',
    (([takenOver] ++ [renewed]).mapM (write outDirectory)).perform mixed = (.ok results, w') ∧
    w'.disk.fileAt? ["work", "out", "hand.pyi"] = none ∧
    w'.disk.fileAt? ["work", "out", "kept.pyi"] = some [35, 10] ∧
    w'.disk.fileAt? ["work", "out", "pkg", "old.pyi"] = none ∧
    ∃ bytes, w'.disk.fileAt? ["work", "out", "pkg", "new.pyi"] = some bytes ∧
      Disk.decodeText bytes = .ok plainStub := by
  have hok :
      ((([takenOver] ++ [renewed]).mapM (writeInOrder outDirectory)).perform mixed).1.isOk := by
    decide +kernel
  obtain ⟨results, w', hrun⟩ : ∃ results w',
      (([takenOver] ++ [renewed]).mapM (write outDirectory)).perform mixed = (.ok results, w') := by
    rcases hperform : (([takenOver] ++ [renewed]).mapM (writeInOrder outDirectory)).perform mixed
      with ⟨e | results, w'⟩
    · rw [hperform] at hok
      exact absurd hok (by simp [Except.isOk, Except.toBool])
    · exact ⟨results, w', perform_writes_of_inOrder hperform⟩
  have hfits : Fits (⟨.relative, ["hand.pyi"]⟩, plainStub) ∧
      Fits (⟨.relative, ["pkg", "new.pyi"]⟩, plainStub) :=
    ⟨⟨rfl, by decide, by decide +kernel, by decide +kernel, by decide +kernel⟩,
      ⟨rfl, by decide, by decide +kernel, by decide +kernel, by decide +kernel⟩⟩
  have hmaps : ∀ files ∈ [takenOver] ++ [renewed], files.Generated := by
    simp only [takenOver, renewed, List.cons_append, List.nil_append, List.forall_mem_cons]
    exact ⟨⟨by decide, by simpa using hfits.1⟩, ⟨by decide, by simpa using hfits.2⟩, by simp⟩
  obtain ⟨hlast, hothers⟩ := write_forgets ⟨by decide +kernel, by decide +kernel, by decide +kernel⟩
    hmaps (by decide +kernel) (Or.inl (by simp [renewed])) hrun
  have hroot : (mixed.disk.resolve outDirectory).parts = ["work", "out"] := by decide +kernel
  rw [hroot] at hlast hothers
  refine ⟨results, w', hrun, ?_, ?_, ?_, ?_⟩
  · exact (hothers ["hand.pyi"] (by decide) (by decide)).trans (if_pos (by decide +kernel))
  · exact (hothers ["kept.pyi"] (by decide) (by decide)).trans
      ((if_neg (by decide +kernel)).trans (by decide +kernel))
  · exact (hothers ["pkg", "old.pyi"] (by decide) (by decide)).trans (if_pos (by decide +kernel))
  · exact hlast _ (List.mem_singleton.mpr rfl)

end TypeStubs
