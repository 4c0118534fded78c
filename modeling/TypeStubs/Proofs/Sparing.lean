import TypeStubs.Proofs.Checking

/-!
# What a run leaves alone

A run puts its files in place before it takes anything away. What it takes away are generated files
that it has no file for, and the directories that this empties. So whether it comes to its end or
breaks off, files of other origin stay as they are.
-/

namespace TypeStubs.StubDirectory

variable {w : Workspace} {d d' : Disk} {dir : Path} {files : Files} {names : Location}

/-- The first half of a run: all files are put in place. -/
def placeAll (dir : Path) (files : Files) : DiskWork Written :=
  (Files.sorted files).foldlM (placeNoting dir) ⟨[], [], []⟩

/-- Is there a file to put at a location? -/
def IsTarget (root : Location) (files : Files) (l : Location) : Prop :=
  ∃ f ∈ files, l = root ++ f.1.parts

/-- Is a file among the generated ones that are found below a directory? -/
def Finds (d : Disk) (dir : Path) (names : Location) : Prop :=
  ∃ paths, generatedFiles d dir = .ok paths ∧ found dir names ∈ paths

/-- Is a location that of a generated file that is found, and for which there is no new file? -/
def IsObsolete (d : Disk) (dir : Path) (files : Files) (l : Location) : Prop :=
  ∃ names, l = (d.resolve dir).parts ++ names ∧ Finds d dir names ∧
    ¬ IsTarget (d.resolve dir).parts files l

/-- What is found are the files with the name and the first line of generated ones. -/
theorem finds_iff (h : d.Sound) : Finds d dir names ↔ d.isDirectory dir = .ok true ∧ names ≠ [] ∧
    recognises d (d.resolve dir).parts names := by
  constructor
  · rintro ⟨paths, hpaths, hmem⟩
    rcases generatedFiles_ok h hpaths with ⟨-, rfl⟩ | ⟨hthere, hpaths⟩
    · simp at hmem
    · obtain ⟨names', hne, hrecognised, heq⟩ := (hpaths _).mp hmem
      obtain rfl := found_injective heq
      exact ⟨hthere, hne, hrecognised⟩
  · rintro ⟨hthere, hne, hrecognised⟩
    obtain ⟨old, hold⟩ := exists_obsolete hthere []
    obtain ⟨paths, hpaths, -⟩ := obsolete_eq_ok hold
    refine ⟨paths, hpaths, ?_⟩
    rcases generatedFiles_ok h hpaths with ⟨hnot, -⟩ | ⟨-, hmem⟩
    · rw [hthere] at hnot
      simp at hnot
    · exact (hmem _).mpr ⟨names, hne, hrecognised, rfl⟩

theorem isTarget_append (dir : Path) {root : Location} (hfiles : ∀ f ∈ files, f.1.Beneath) :
    IsTarget root files (root ++ names) ↔ found dir names ∈ targets dir files := by
  rw [found_mem_targets hfiles, List.mem_map]
  constructor
  · rintro ⟨f, hf, heq⟩
    exact ⟨f, hf, by rw [(hfiles f hf).eq_of_parts, List.append_cancel_left heq]⟩
  · rintro ⟨f, hf, heq⟩
    exact ⟨f, hf, by rw [heq]⟩

theorem exists_found (h : d.Sound) (hfiles : ∀ f ∈ files, f.1.Beneath) {old : List Path}
    (hold : obsolete d dir files = .ok old) :
    ∀ path ∈ old, ∃ names, names ≠ [] ∧ ".." ∉ names ∧ path = found dir names := by
  rcases obsolete_ok h hfiles hold with ⟨-, rfl⟩ | ⟨hpaths, -⟩
  · simp
  · exact hpaths

theorem mem_obsolete_iff (hfiles : ∀ f ∈ files, f.1.Beneath) {old : List Path}
    (hold : obsolete d dir files = .ok old) :
    found dir names ∈ old ↔ IsObsolete d dir files ((d.resolve dir).parts ++ names) := by
  obtain ⟨paths, hpaths, rfl⟩ := obsolete_eq_ok hold
  rw [List.mem_filter]
  constructor
  · rintro ⟨hmem, hnew⟩
    refine ⟨names, rfl, ⟨paths, hpaths, hmem⟩, ?_⟩
    rw [isTarget_append dir hfiles]
    simpa using hnew
  · rintro ⟨names', heq, ⟨paths', hpaths', hmem⟩, hnew⟩
    obtain rfl := List.append_cancel_left heq
    obtain rfl := Except.ok.inj (hpaths.symm.trans hpaths')
    rw [isTarget_append dir hfiles] at hnew
    exact ⟨hmem, by simpa using hnew⟩

theorem perform_write_of_placeAll_error {e : Fault} {w₁ : Workspace}
    (h : (placeAll dir files).perform w = (.error e, w₁)) :
    (write dir files).perform w = (.error e, w₁) := by
  change (placeAll dir files >>= _).perform w = _
  rw [DiskWork.perform_bind, h]

theorem perform_write_of_placeAll_ok {done : Written} {w₁ : Workspace}
    (h : (placeAll dir files).perform w = (.ok done, w₁)) :
    (write dir files).perform w =
      match obsolete w₁.disk dir files with
      | .error e => (.error e, w₁)
      | .ok old => (old.foldlM (discardNoting dir) done).perform w₁ := by
  change (placeAll dir files >>= fun done => DiskWork.reads (obsolete · dir files) >>=
    fun old => old.foldlM (discardNoting dir) done).perform w = _
  rw [DiskWork.perform_bind, h]
  dsimp only
  rw [DiskWork.perform_bind, DiskWork.perform_reads]
  cases obsolete w₁.disk dir files <;> rfl

/-! ## The two halves of a run -/

theorem exists_mem_sorted {P : Path × String → Prop} :
    (∃ f ∈ Files.sorted files, P f) ↔ ∃ f ∈ files, P f := by
  simp only [Files.sorted, List.mem_mergeSort]

theorem placeAll_fills (dir : Path) (h : w.disk.Sound) (hfiles : ∀ f ∈ files, f.1.Beneath) :
    w.disk.Fills (IsTarget (w.disk.resolve dir).parts files)
      ((placeAll dir files).perform w).2.disk :=
  (places_lead dir _ h fun f hf => hfiles f (List.mem_mergeSort.mp hf)).mono
    fun _ => exists_mem_sorted.mp

theorem places_removed {done done' : Written} {w' : Workspace}
    (h : (files.foldlM (placeNoting dir) done).perform w = (.ok done', w')) :
    done'.removed = done.removed := by
  induction files generalizing done w with
  | nil =>
      obtain ⟨rfl, -⟩ := DiskWork.perform_pure_ok.mp h
      rfl
  | cons f files ih =>
      rw [List.foldlM_cons] at h
      obtain ⟨done₁, w₁, hstep, hrest⟩ := DiskWork.perform_bind_ok.mp h
      obtain ⟨-, -, -, rfl⟩ := placeNoting_ok hstep
      rw [ih hrest]
      split <;> rfl

theorem exists_found_eq_isObsolete (hfiles : ∀ f ∈ files, f.1.Beneath) {old : List Path}
    (hold : obsolete d dir files = .ok old) :
    (fun l => False ∨ ∃ names, found dir names ∈ old ∧ l = (d.resolve dir).parts ++ names) =
      IsObsolete d dir files := by
  funext l
  rw [false_or]
  refine propext ⟨?_, ?_⟩
  · rintro ⟨names, hmem, rfl⟩
    exact (mem_obsolete_iff hfiles hold).mp hmem
  · rintro ⟨names, rfl, hobsolete⟩
    exact ⟨names, (mem_obsolete_iff hfiles hold).mpr ⟨names, rfl, hobsolete⟩, rfl⟩

/-- After placing, nothing happens but that obsolete files are taken away, with the directories that
this empties. -/
theorem write_cleared (dir : Path) (h : w.disk.Sound) (hfiles : ∀ f ∈ files, f.1.Beneath) :
    let placed := (placeAll dir files).perform w
    let outcome := (write dir files).perform w
    let root := (w.disk.resolve dir).parts
    placed.2.disk.Sheds root (IsObsolete placed.2.disk dir files) outcome.2.disk ∧
      ∀ done, outcome.1 = .ok done →
        placed.2.disk.Cleared root (IsObsolete placed.2.disk dir files) outcome.2.disk ∧
          obsolete placed.2.disk dir files = .ok done.removed := by
  intro placed outcome root
  have hfills : w.disk.Fills (IsTarget root files) placed.2.disk := placeAll_fills dir h hfiles
  -- If placing breaks off, or the listing of what is generated, nothing is taken away. Else the
  -- files that are listed go one by one.
  rcases hplaced : placed with ⟨e | done, w₁⟩
  · have houtcome : outcome = (.error e, w₁) := perform_write_of_placeAll_error hplaced
    rw [hplaced] at hfills
    rw [houtcome]
    exact ⟨.refl hfills.sound, fun done hok => by simp at hok⟩
  · have hwrite := perform_write_of_placeAll_ok hplaced
    rw [hplaced] at hfills
    cases hold : obsolete w₁.disk dir files with
    | error e =>
        rw [hold] at hwrite
        have houtcome : outcome = (.error e, w₁) := hwrite
        rw [houtcome]
        exact ⟨.refl hfills.sound, fun done hok => by simp at hok⟩
    | ok old =>
        rw [hold] at hwrite
        have houtcome : outcome = (old.foldlM (discardNoting dir) done).perform w₁ := hwrite
        have hpaths := exists_found hfills.sound hfiles hold
        obtain ⟨hsheds, hcleared⟩ :=
          discards_cleared (w := w₁) done rfl hpaths (.refl hfills.sound)
        rw [exists_found_eq_isObsolete hfiles hold, hfills.resolve, ← houtcome] at hsheds hcleared
        refine ⟨hsheds, fun done' hok => ⟨hcleared done' hok, ?_⟩⟩
        have hrun : (old.foldlM (discardNoting dir) done).perform w₁ = (.ok done', outcome.2) := by
          rw [← houtcome, ← hok]
        have hremoved : done.removed = [] := places_removed hplaced
        rw [discards_noted hrun, hremoved]
        rfl

/-- A run that comes to its end has put all files in place before it cleared the directory. -/
theorem exists_placeAll {done : Written} {w' : Workspace} (h : w.disk.Sound)
    (hfiles : ∀ f ∈ files, f.1.Beneath) (hrun : (write dir files).perform w = (.ok done, w')) :
    ∃ placed w₁, (placeAll dir files).perform w = (.ok placed, w₁) ∧
      w.disk.Fills (IsTarget (w.disk.resolve dir).parts files) w₁.disk ∧
      w₁.disk.Cleared (w.disk.resolve dir).parts (IsObsolete w₁.disk dir files) w'.disk ∧
      obsolete w₁.disk dir files = .ok done.removed := by
  have hfills := placeAll_fills dir h hfiles
  obtain ⟨-, hdone⟩ := write_cleared dir h hfiles
  obtain ⟨hcleared, hold⟩ := hdone done (by rw [hrun])
  rw [hrun] at hcleared
  rcases hplaced : (placeAll dir files).perform w with ⟨e | placed, w₁⟩
  · rw [perform_write_of_placeAll_error hplaced] at hrun
    simp at hrun
  · rw [hplaced] at hfills hcleared hold
    exact ⟨placed, w₁, rfl, hfills, hcleared, hold⟩

/-- What is obsolete once all files are in place was there from the start. -/
theorem IsObsolete.before {d' : Disk} {l : Location} (h : IsObsolete d' dir files l)
    (hfills : d.Fills (IsTarget (d.resolve dir).parts files) d') :
    ∃ names, names ≠ [] ∧ l = (d.resolve dir).parts ++ names ∧
      recognises d (d.resolve dir).parts names := by
  obtain ⟨names, rfl, hfinds, hnew⟩ := h
  obtain ⟨-, hne, hrecognised⟩ := (finds_iff hfills.sound).mp hfinds
  rw [hfills.resolve] at hrecognised hnew ⊢
  exact ⟨names, hne, rfl, recognises_congr (hfills.fileAt? hnew) ▸ hrecognised⟩

/-- What a run leaves alone and what it takes away. Its outcome is told by the state in which all
files are in place, or in which placing them has broken off. -/
structure Spares (dir : Path) (files : Files) (d : Disk)
    (placed outcome : Except Fault Written × Workspace) : Prop where
  /-- Files that are no targets and are not found to be obsolete stay, whatever the outcome. -/
  file : ∀ l bytes, d.fileAt? l = some bytes → ¬ IsTarget (d.resolve dir).parts files l →
    ¬ IsObsolete placed.2.disk dir files l → outcome.2.disk.fileAt? l = some bytes
  /-- Obsolete files had the name and the first line of generated ones from the start. -/
  generated : ∀ l, IsObsolete placed.2.disk dir files l → ∃ names, names ≠ [] ∧
    l = (d.resolve dir).parts ++ names ∧ recognises d (d.resolve dir).parts names
  /-- Placing takes nothing away, and nothing else happens if it breaks off. -/
  fills : d.Fills (IsTarget (d.resolve dir).parts files) placed.2.disk
  fault : ∀ e, placed.1 = .error e → outcome = (.error e, placed.2)
  /-- What is listed as removed are the obsolete files. -/
  removed : ∀ done, outcome.1 = .ok done → ∀ path, path ∈ done.removed ↔
    ∃ names, path = found dir names ∧
      IsObsolete placed.2.disk dir files ((d.resolve dir).parts ++ names)
  /-- They are gone, with the directories that this empties. -/
  gone : ∀ done, outcome.1 = .ok done → ∀ l, placed.2.disk.at? l ≠ none →
    (outcome.2.disk.at? l = none ↔ IsObsolete placed.2.disk dir files l ∨
      placed.2.disk.Emptied (d.resolve dir).parts (IsObsolete placed.2.disk dir files) l)
  same : ∀ l, outcome.2.disk.at? l ≠ none → outcome.2.disk.at? l = placed.2.disk.at? l
  directory : d.at? (d.resolve dir).parts = some .directory →
    outcome.2.disk.at? (d.resolve dir).parts = some .directory
  /-- More steps of pruning would make no difference. -/
  pruned : ∀ done, outcome.1 = .ok done → ∀ path ∈ done.removed, ∀ w : Workspace,
    w.disk.resolve dir = d.resolve dir → ∀ fuel, path.parts.length ≤ fuel →
      (prune (d.resolve dir) fuel path.parent).perform w =
        (prune (d.resolve dir) path.parts.length path.parent).perform w

/-- A run takes away generated files that are found and have no new file, and the directories that
this empties. Nothing else that was there is gone, and nothing at all if a file cannot be placed. -/
theorem write_spares (h : w.disk.Sound) (hfiles : ∀ f ∈ files, f.1.Beneath) :
    Spares dir files w.disk ((placeAll dir files).perform w) ((write dir files).perform w) := by
  have hfills := placeAll_fills dir h hfiles
  obtain ⟨hsheds, hdone⟩ := write_cleared dir h hfiles
  exact
    { file := by
        intro l bytes hfile hnew hold
        rw [hsheds.fileAt? hold, hfills.fileAt? hnew, hfile]
      generated := fun l hl => hl.before hfills
      fills := hfills
      fault := fun e herror => perform_write_of_placeAll_error (Prod.ext herror rfl)
      removed := by
        intro done hok path
        obtain ⟨-, hold⟩ := hdone done hok
        rw [← hfills.resolve]
        constructor
        · intro hmem
          obtain ⟨names, -, -, rfl⟩ := exists_found hfills.sound hfiles hold path hmem
          exact ⟨names, rfl, (mem_obsolete_iff hfiles hold).mp hmem⟩
        · rintro ⟨names, rfl, hobsolete⟩
          exact (mem_obsolete_iff hfiles hold).mpr hobsolete
      gone := fun done hok l hl => (hdone done hok).1.at?_eq_none_iff hl
      same := fun l hl => hsheds.at?_of_ne hl
      directory := by
        intro hat
        rw [hsheds.at?_of_not_below (fun l hl => ?_) (Disk.not_isBelow_self _)]
        · exact hfills.directory hat
        · obtain ⟨names, hne, rfl, -⟩ := hl.before hfills
          exact ⟨names, hne, rfl⟩
      pruned := by
        intro done hok path hpath w₁ hroot fuel hfuel
        obtain ⟨names, hne, hnames, rfl⟩ :=
          exists_found hfills.sound hfiles (hdone done hok).2 path hpath
        -- Each step of pruning goes up by one part, so that the parts of the path bound the steps.
        have hlength : names.dropLast.length ≤ (found dir names).parts.length := by
          simp only [found, List.length_append, List.length_dropLast]
          omega
        rw [parent_found hne, perform_prune_of_le hroot (notMem_dropLast hnames) hlength,
          perform_prune_of_le hroot (notMem_dropLast hnames) (Nat.le_trans hlength hfuel)] }

theorem write_spares_of_mixed :
    mixed.disk.Sound ∧ (∀ f ∈ takenOver, f.1.Beneath) ∧
      let placed := (placeAll outDirectory takenOver).perform mixed
      let outcome := (write outDirectory takenOver).perform mixed
      outcome.2.disk.fileAt? ["work", "out", "kept.pyi"] = some [35, 10] ∧
        placed.2.disk.Emptied ["work", "out"] (IsObsolete placed.2.disk outDirectory takenOver)
          ["work", "out", "pkg"] ∧
        outcome.2.disk.at? ["work", "out"] = some .directory := by
  have hsound : mixed.disk.Sound := ⟨by decide +kernel, by decide +kernel, by decide +kernel⟩
  have hfiles : ∀ f ∈ takenOver, f.1.Beneath := by
    simp only [takenOver, List.forall_mem_cons]
    exact ⟨⟨rfl, by decide⟩, by simp⟩
  have hspares : Spares outDirectory takenOver mixed.disk _ _ := write_spares hsound hfiles
  have hroot : (mixed.disk.resolve outDirectory).parts = ["work", "out"] := by decide +kernel
  -- What is recognised has a header, so neither the other file nor the directory is.
  have hother : ∀ names, recognises mixed.disk ["work", "out"] names = false →
      ¬ IsObsolete ((placeAll outDirectory takenOver).perform mixed).2.disk outDirectory takenOver
        (["work", "out"] ++ names) := by
    intro names hnot hobsolete
    obtain ⟨names', -, heq, hrecognised⟩ := hspares.generated _ hobsolete
    rw [hroot] at heq hrecognised
    rw [← List.append_cancel_left heq, hnot] at hrecognised
    simp at hrecognised
  have hgone : ((writeInOrder outDirectory takenOver).perform mixed).1.isOk ∧
      ((writeInOrder outDirectory takenOver).perform mixed).2.disk.at? ["work", "out", "pkg"] =
        none := by
    decide +kernel
  rcases hperform : (writeInOrder outDirectory takenOver).perform mixed with ⟨e | done, w'⟩
  · rw [hperform] at hgone
    simp [Except.isOk, Except.toBool] at hgone
  · rw [hperform] at hgone
    have hwrite := perform_write_of_inOrder hperform
    have hemptied := hspares.gone done (by rw [hwrite]) ["work", "out", "pkg"]
      (by rw [hspares.fills.directory (by decide +kernel)]; simp)
    rw [hwrite, hroot] at hemptied
    refine ⟨hsound, hfiles, hspares.file _ _ (by decide +kernel) ?_ (hother ["kept.pyi"]
      (by decide +kernel)), (hemptied.mp hgone.2).resolve_left (hother ["pkg"] (by decide +kernel)),
      hroot ▸ hspares.directory (by decide +kernel)⟩
    rw [hroot]
    rintro ⟨f, hf, heq⟩
    rw [takenOver, List.mem_singleton] at hf
    rw [hf] at heq
    exact absurd heq (by decide)

end TypeStubs.StubDirectory
