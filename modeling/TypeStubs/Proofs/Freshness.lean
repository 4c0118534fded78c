import TypeStubs.Proofs.Sparing

/-!
# What a run has written is up to date

After a run every file looks as it was generated, and nothing generated is left besides. So checking
finds nothing to do, and another run does nothing. The directory has to be found again, though: a
path with two dots may lead through a directory that the run took away.
-/

namespace TypeStubs

namespace Disk

variable {root : Location} {gone : Location → Prop} {d d' : Disk} {dir p : Path} {l m : Location}

theorem exists?_iff : d.exists? p = .ok true ↔ ∃ l, d.locate p = .ok l ∧ d.at? l ≠ none := by
  unfold exists?
  cases hlocate : d.locate p with
  | ok l =>
      rw [peek_of_locate hlocate]
      simp [Except.map, Option.isSome_iff_ne_none]
  | error f =>
      by_cases hf : f = .nameTooLong
      · rw [peek_of_tooLong (hf ▸ hlocate)]
        simp [Except.map]
      · rw [peek_of_error hlocate hf]
        simp [Except.map]

theorem enter_congr {name : String} (hat : d.at? l = some .directory)
    (hat' : d'.at? l = some .directory) : d'.enter l name = d.enter l name := by
  rw [enter, enter, hat, hat']

/-- A walk that goes through directories that stay can be gone again. -/
theorem walk_of_fronts {parts : List String} (h : parts.foldlM d.enter [] = .ok l)
    (hkeep : ∀ front, front <+: parts →
      d.at? (Path.resolved ⟨.root, front⟩).parts = some .directory →
      d'.at? (Path.resolved ⟨.root, front⟩).parts = some .directory) :
    parts.foldlM d'.enter [] = .ok l := by
  induction parts using List.reverseRecOn generalizing l with
  | nil => exact h
  | append_singleton parts s ih =>
      rw [List.foldlM_append] at h ⊢
      obtain ⟨m, hwalk, hstep⟩ := bind_eq_ok_iff.mp h
      rw [ih hwalk fun front hfront => hkeep front (hfront.trans (List.prefix_append _ _))]
      have hlast : d.enter m s = .ok l := by simpa using hstep
      -- The last step looks only whether there is a directory where the walk has come to.
      have hat := (enter_ok hlast).1
      have hat' : d'.at? m = some .directory := by
        rw [walk_ok hwalk .root] at hat ⊢
        exact hkeep parts (List.prefix_append _ _) hat
      rw [← enter_congr hat hat'] at hlast
      change [s].foldlM d'.enter m = .ok l
      simpa using hlast

theorem locate_of_fronts (h : d.locate p = .ok l)
    (hstart : d'.workingDirectory = d.workingDirectory)
    (hkeep : ∀ front, front <+: (d.absolute p).parts →
      d.at? (Path.resolved ⟨.root, front⟩).parts = some .directory →
      d'.at? (Path.resolved ⟨.root, front⟩).parts = some .directory) : d'.locate p = .ok l := by
  have habsolute : d'.absolute p = d.absolute p := by rw [absolute, absolute, hstart]
  unfold locate at h ⊢
  rw [habsolute]
  dsimp only at h ⊢
  split at h
  · simp at h
  · rename_i hnull
    rw [if_neg hnull]
    exact walk_of_fronts h hkeep

/-- Where something below a directory stands, the directory is found. -/
theorem locate_dir {names : List String} (h : d.locate ⟨dir.anchor, dir.parts ++ names⟩ = .ok l)
    (hat : d.at? l ≠ none) :
    d.locate dir = .ok (d.resolve dir).parts ∧ d.at? (d.resolve dir).parts ≠ none := by
  have hdir := locate_front h
  refine ⟨hdir, ?_⟩
  by_cases hnil : names = []
  · rw [hnil, List.append_nil] at h
    rwa [Except.ok.inj (hdir.symm.trans h)]
  · rw [at?_of_locate h hnil]
    simp

/-- The way to a steady directory is never among what is below it. -/
theorem Steady.not_isBelow (h : d.Steady dir) {front : List String}
    (hfront : front <+: (d.absolute dir).parts) :
    ¬ IsBelow (d.resolve dir).parts (Path.resolved ⟨.root, front⟩).parts := by
  rintro ⟨names, hne, heq⟩
  rcases h.2 front hfront with hprefix | ⟨-, hoff⟩
  · have hlength := hprefix.length_le
    have hpos := List.length_pos_iff.mpr hne
    rw [heq, List.length_append] at hlength
    omega
  · exact hoff ⟨names, heq.symm⟩

theorem Steady.locate (h : d.Steady dir)
    (hkeeps : d.Keeps (fun l => ¬ IsBelow (d.resolve dir).parts l) d')
    (hlocate : d.locate dir = .ok l) : d'.locate dir = .ok l :=
  locate_of_fronts hlocate hkeeps.start fun _ hfront hat =>
    hkeeps.directory _ (h.not_isBelow hfront) hat

/-- Nothing becomes a device, and no device anything else. -/
theorem Fills.device {hit : Location → Prop} (h : d.Fills hit d') :
    d'.at? l = some .device ↔ d.at? l = some .device := by
  rcases h.at? l with hsame | ⟨hnone, hmade⟩ | ⟨-, hbefore, bytes, hwritten⟩
  · rw [hsame]
  · simp [hnone, hmade]
  · rcases hbefore with hnone | ⟨bytes', hfile⟩
    · simp [hnone, hwritten]
    · simp [hfile, hwritten]

theorem Fills.keeps {hit stays : Location → Prop} (h : d.Fills hit d') : d.Keeps stays d' where
  sound := h.sound
  start := h.start
  directory _ _ := h.directory
  device _ := h.device.mp

end Disk

namespace StubDirectory

variable {w w' : Workspace} {d d' : Disk} {dir : Path} {f : Path × String} {files : Files}

/-- The file is at its place, with its text unless there is a device. -/
structure Placed (d : Disk) (dir : Path) (f : Path × String) : Prop where
  located : d.locate (target dir f.1) = .ok ((d.resolve dir).parts ++ f.1.parts)
  there : ∃ e, d.at? ((d.resolve dir).parts ++ f.1.parts) = some e ∧ e ≠ .directory
  text : look d dir f = .ok (some f.2) ∨
    d.at? ((d.resolve dir).parts ++ f.1.parts) = some .device

namespace Placed

theorem at?_ne_directory (h : Placed d dir f) :
    d.at? ((d.resolve dir).parts ++ f.1.parts) ≠ some .directory := by
  obtain ⟨e, hat, he⟩ := h.there
  rwa [hat, Ne, Option.some.injEq]

/-- A file that is placed can be located again, and then looks the same. -/
theorem congr (h : Placed d dir f) (hstart : d'.workingDirectory = d.workingDirectory)
    (hlocate : d'.locate (target dir f.1) = .ok ((d.resolve dir).parts ++ f.1.parts))
    (hat : d'.at? ((d.resolve dir).parts ++ f.1.parts) =
      d.at? ((d.resolve dir).parts ++ f.1.parts)) : Placed d' dir f := by
  refine ⟨?_, ?_, ?_⟩ <;> rw [Disk.resolve_congr hstart]
  · exact hlocate
  · rw [hat]
    exact h.there
  · rw [hat, look_congr h.located hlocate hat]
    exact h.text

theorem fills {hit : Location → Prop} (h : Placed d dir f) (hfills : d.Fills hit d')
    (hhit : ¬ hit ((d.resolve dir).parts ++ f.1.parts)) : Placed d' dir f := by
  have hlocated := Disk.locate_mono (fun _ => hfills.directory) hfills.start h.located
  refine h.congr hfills.start hlocated ?_
  obtain ⟨e, hat, -⟩ := h.there
  rcases hfills.at? ((d.resolve dir).parts ++ f.1.parts) with hsame | ⟨hnone, -⟩ | ⟨hhit', -⟩
  · exact hsame
  · simp [hat] at hnone
  · exact (hhit hhit').elim

/-- Clearing leaves a file in its place that is not gone. It is found if the directory is. -/
theorem sheds {root : Location} {gone : Location → Prop} (h : Placed d dir f) (hf : f.1.Beneath)
    (hsheds : d.Sheds root gone d') (hgone : ¬ gone ((d.resolve dir).parts ++ f.1.parts))
    (hdir : d'.locate dir = .ok (d.resolve dir).parts) : Placed d' dir f := by
  obtain ⟨e, hat, -⟩ := h.there
  have hsame := hsheds.at?_of_not_gone hgone h.at?_ne_directory
  refine h.congr hsheds.start ?_ hsame
  have hlocated := h.located
  rw [hf.target] at hlocated ⊢
  exact Disk.locate_of_at? hsheds.sound hsheds.start.symm hdir hlocated hf.names
    (by rw [hsame, hat]; simp)

end Placed

/-! ## What is at a place -/

section Look

variable {l : Location} (hlocate : d.locate (target dir f.1) = .ok l)
include hlocate

theorem look_of_none (hat : d.at? l = none) : look d dir f = .ok none := by
  rw [look_eq, Disk.peek_of_locate hlocate, hat]
  rfl

theorem look_of_some {e : Entry} (hat : d.at? l = some e) :
    look d dir f = (d.readText (target dir f.1)).map some := by
  rw [look_eq, Disk.peek_of_locate hlocate, hat]
  rfl

theorem look_of_file {bytes : List UInt8} (hat : d.at? l = some (.file bytes)) :
    look d dir f = (Disk.decodeText bytes).map some := by
  rw [look_of_some hlocate hat]
  simp only [Disk.readText, Disk.readBytes, Disk.stat, hlocate, hat, bind, Except.bind, pure,
    Except.pure]

theorem look_of_device (hat : d.at? l = some .device) : look d dir f = .ok (some "") := by
  rw [look_of_some hlocate hat]
  simp only [Disk.readText, Disk.readBytes, Disk.stat, hlocate, hat, bind, Except.bind, pure,
    Except.pure]
  rfl

end Look

/-- A device looks like an empty file, whatever was written. -/
theorem Placed.look_iff (h : Placed d dir f) : look d dir f = .ok (some f.2) ↔
    f.2 = "" ∨ d.at? ((d.resolve dir).parts ++ f.1.parts) ≠ some .device := by
  by_cases hat : d.at? ((d.resolve dir).parts ++ f.1.parts) = some .device
  · rw [look_of_device h.located hat, Except.ok.injEq, Option.some.injEq, eq_comm]
    exact ⟨Or.inl, fun hf => hf.resolve_right fun hne => hne hat⟩
  · exact iff_of_true (h.text.resolve_right hat) (Or.inr hat)

/-! ## Runs -/

theorem place_placed {flag : Bool} (h : w.disk.Sound) (hf : f.1.Beneath)
    (hreturn : '\r' ∉ f.2.toList) (hplace : (place dir f).perform w = (.ok flag, w')) :
    Placed w'.disk dir f := by
  obtain ⟨hfills, hlocate, hthere⟩ := place_fills h hf hplace
  have hresolve := hfills.resolve dir
  rw [← hresolve] at hlocate hthere
  refine ⟨hlocate, hthere, ?_⟩
  rcases place_cases hplace with ⟨-, hlook, rfl⟩ | ⟨-, -, d, hmake, hwrite⟩
  · exact Or.inl hlook
  · obtain ⟨hsound, hgrows⟩ := Disk.makeDirectory_ok h hmake
    have hl : (d.resolve (target dir f.1)).parts = (w'.disk.resolve dir).parts ++ f.1.parts := by
      rw [Disk.resolve_congr hgrows.start, hf.resolve_target, hresolve]
    rw [← hl] at hlocate ⊢
    by_cases hdevice : d.at? (d.resolve (target dir f.1)).parts = some .device
    · obtain ⟨-, hfills', -⟩ := Disk.writeText_fills hsound hwrite
      exact Or.inr (hfills'.device.mpr hdevice)
    · obtain ⟨-, hne, -, -, hput⟩ := Disk.writeText_ok hsound hwrite hdevice
      have hat : w'.disk.at? (d.resolve (target dir f.1)).parts =
          some (.file (Text.Utf8.encode f.2.toList)) := by
        rw [hput, Disk.at?_put hne, if_pos rfl]
      rw [look_of_file hlocate hat, decodeText_encode hreturn]
      exact Or.inl rfl

theorem places_placed {done done' : Written} (h : w.disk.Sound)
    (hfiles : ∀ f ∈ files, f.1.Beneath) (hnodup : (files.map Prod.fst).Nodup)
    (hreturn : ∀ f ∈ files, '\r' ∉ f.2.toList)
    (hrun : (files.foldlM (placeNoting dir) done).perform w = (.ok done', w')) :
    ∀ f ∈ files, Placed w'.disk dir f := by
  induction files generalizing done w with
  | nil => simp
  | cons f files ih =>
      rw [List.foldlM_cons] at hrun
      obtain ⟨done₁, w₁, hstep, hrest⟩ := DiskWork.perform_bind_ok.mp hrun
      obtain ⟨flag, hplace, -, -⟩ := placeNoting_ok hstep
      obtain ⟨hf, hothers⟩ := List.forall_mem_cons.mp hfiles
      obtain ⟨hfresh, hnodup⟩ := List.nodup_cons.mp hnodup
      obtain ⟨hline, hlines⟩ := List.forall_mem_cons.mp hreturn
      have hsound := (place_fills h hf hplace).1.sound
      -- What comes after `f` is put at other places, so `f` stays as it was placed.
      refine List.forall_mem_cons.mpr ⟨?_, ih hsound hothers hnodup hlines hrest⟩
      refine (place_placed h hf hline hplace).fills (places_fills hsound hothers hrest) ?_
      rintro ⟨g, hg, heq⟩
      have hkey := hf.eq_of_parts_eq (hothers g hg) (List.append_cancel_left heq)
      exact hfresh (hkey ▸ List.mem_map_of_mem hg)

/-! ## Files that are up to date -/

theorem look_of_compare {v v' : Verified} (h : compare d dir v f = .ok v') :
    ∃ seen, look d dir f = .ok seen := by
  unfold compare at h
  unfold look
  obtain ⟨there, hexists, h⟩ := bind_eq_ok_iff.mp h
  rw [hexists]
  cases there with
  | false => exact ⟨none, rfl⟩
  | true =>
      obtain ⟨text, hread, -⟩ := bind_eq_ok_iff.mp h
      exact ⟨some text, by simp only [bind, Except.bind, if_true, hread]; rfl⟩

theorem look_of_compares {v v' : Verified} (h : files.foldlM (compare d dir) v = .ok v') :
    ∀ f ∈ files, ∃ seen, look d dir f = .ok seen := by
  induction files generalizing v with
  | nil => simp
  | cons f files ih =>
      rw [List.foldlM_cons] at h
      obtain ⟨v₁, hstep, hrest⟩ := bind_eq_ok_iff.mp h
      exact List.forall_mem_cons.mpr ⟨look_of_compare hstep, ih hrest⟩

/-- What checking finds is told by how the files look. -/
theorem exists_verify (hlook : ∀ f ∈ files, ∃ seen, look d dir f = .ok seen) {old : List Path}
    (hold : obsolete d dir files = .ok old) :
    ∃ v, verify d dir files = .ok v ∧ v.obsolete = old ∧
      v.stale = targets dir
        ((Files.sorted files).filter fun f => !holds d dir f && !lacks d dir f) ∧
      v.missing = targets dir ((Files.sorted files).filter (lacks d dir)) := by
  obtain ⟨v, hcompare, hstale, hmissing⟩ :=
    compares_ok (v := ⟨[], [], [], []⟩) fun f (hf : f ∈ Files.sorted files) =>
      hlook f (List.mem_mergeSort.mp hf)
  refine ⟨{ v with obsolete := old }, ?_, rfl, hstale, hmissing⟩
  rw [verify, hcompare, hold]
  rfl

theorem verify_ok {v : Verified} (h : verify d dir files = .ok v) :
    (∀ f ∈ files, ∃ seen, look d dir f = .ok seen) ∧ obsolete d dir files = .ok v.obsolete := by
  unfold verify at h
  obtain ⟨v₁, hcompare, h⟩ := bind_eq_ok_iff.mp h
  obtain ⟨old, hold, h⟩ := bind_eq_ok_iff.mp h
  obtain rfl := Except.ok.inj h
  exact ⟨fun f hf => look_of_compares hcompare f (List.mem_mergeSort.mpr hf), hold⟩

theorem perform_places_of_look {done : Written}
    (h : ∀ f ∈ files, look w.disk dir f = .ok (some f.2)) :
    (files.foldlM (placeNoting dir) done).perform w =
      (.ok { done with unchanged := done.unchanged ++ targets dir files }, w) := by
  induction files generalizing done with
  | nil => simpa [targets] using DiskWork.perform_pure_ok.mpr ⟨rfl, rfl⟩
  | cons f files ih =>
      obtain ⟨hlook, hothers⟩ := List.forall_mem_cons.mp h
      have hplace : (place dir f).perform w = (.ok false, w) := by
        rw [perform_place, hlook]
        exact if_pos rfl
      have hstep : (placeNoting dir done f).perform w =
          (.ok { done with unchanged := done.unchanged ++ [target dir f.1] }, w) := by
        unfold placeNoting
        rw [DiskWork.perform_bind, hplace]
        rfl
      rw [List.foldlM_cons, DiskWork.perform_bind, hstep]
      dsimp only
      rw [ih hothers]
      simp [targets]

theorem targets_filter_eq_nil_iff {p : Path × String → Bool} :
    targets dir (files.filter p) = [] ↔ ∀ f ∈ files, ¬ p f := by
  rw [targets, List.map_eq_nil_iff, List.filter_eq_nil_iff]

/-- Checking finds nothing to do, and a run does nothing but look. -/
def Fresh (d : Disk) (dir : Path) (files : Files) : Prop :=
  (∃ v, verify d dir files = .ok v ∧ v.isUpToDate) ∧
  ∀ log, (write dir files).perform ⟨d, log⟩ =
    (.ok ⟨[], [], targets dir (Files.sorted files)⟩, ⟨d, log⟩)

/-- Files are up to date if each looks as it is generated, and nothing is to be taken away. -/
theorem fresh_iff : Fresh d dir files ↔
    (∀ f ∈ files, look d dir f = .ok (some f.2)) ∧ obsolete d dir files = .ok [] := by
  have hmem : ∀ f, f ∈ Files.sorted files ↔ f ∈ files := fun f => List.mem_mergeSort
  constructor
  · rintro ⟨⟨v, hverify, hfresh⟩, -⟩
    obtain ⟨hlook, hold⟩ := verify_ok hverify
    obtain ⟨v', hverify', -, hstale, hmissing⟩ := exists_verify hlook hold
    obtain rfl := Except.ok.inj (hverify.symm.trans hverify')
    simp only [Verified.isUpToDate, Bool.and_eq_true, List.isEmpty_iff] at hfresh
    obtain ⟨⟨hstale', hmissing'⟩, hobsolete⟩ := hfresh
    rw [hstale, targets_filter_eq_nil_iff] at hstale'
    rw [hmissing, targets_filter_eq_nil_iff] at hmissing'
    refine ⟨fun f hf => holds_iff.mp ?_, hobsolete ▸ hold⟩
    have hpresent := hmissing' f ((hmem f).mpr hf)
    have hsame := hstale' f ((hmem f).mpr hf)
    simpa [hpresent] using hsame
  · rintro ⟨hlook, hold⟩
    have hlook' : ∀ f ∈ Files.sorted files, look d dir f = .ok (some f.2) :=
      fun f hf => hlook f ((hmem f).mp hf)
    have hholds : ∀ f ∈ Files.sorted files, holds d dir f := fun f hf => holds_iff.mpr (hlook' f hf)
    have hlacks : ∀ f ∈ Files.sorted files, ¬ lacks d dir f := fun f hf hlack => by
      simpa [hholds f hf] using not_holds_of_lacks hlack
    refine ⟨?_, fun log => ?_⟩
    · obtain ⟨v, hverify, hobsolete, hstale, hmissing⟩ :=
        exists_verify (fun f hf => ⟨_, hlook f hf⟩) hold
      rw [targets_filter_eq_nil_iff.mpr fun f hf => by simp [hholds f hf]] at hstale
      rw [targets_filter_eq_nil_iff.mpr hlacks] at hmissing
      exact ⟨v, hverify, by simp [Verified.isUpToDate, hstale, hmissing, hobsolete]⟩
    · have hplaced : (placeAll dir files).perform ⟨d, log⟩ =
          (.ok ⟨[], [], targets dir (Files.sorted files)⟩, ⟨d, log⟩) :=
        perform_places_of_look hlook'
      rw [perform_write_of_placeAll_ok hplaced, hold]
      rfl

/-! ## After a run -/

theorem obsolete_of_cleared (h : d.Sound) (hfiles : ∀ f ∈ files, f.1.Beneath) {there : Bool}
    (hthere : d.isDirectory dir = .ok there)
    (hcleared : d.Cleared (d.resolve dir).parts (IsObsolete d dir files) d') :
    obsolete d' dir files = .ok [] := by
  -- The listing after the run sees no directory that was not there before it.
  have hkeep : ∀ m, d'.at? m = some .directory → d.at? m = some .directory :=
    fun m hat => (hcleared.at?_of_ne (by rw [hat]; simp)).symm.trans hat
  obtain ⟨after, hafter⟩ := Disk.exists_isDirectory_of_more hkeep hcleared.start.symm hthere
  obtain ⟨old, hold⟩ := exists_obsolete hafter files
  rw [hold, Except.ok.injEq, List.eq_nil_iff_forall_not_mem]
  intro path hpath
  obtain ⟨names, -, -, rfl⟩ := exists_found hcleared.sound hfiles hold path hpath
  -- What is found now was found before, so it was taken away.
  obtain ⟨names', heq, hfinds, hnew⟩ := (mem_obsolete_iff hfiles hold).mp hpath
  obtain rfl := List.append_cancel_left heq
  obtain ⟨hfound, hne, hrecognised⟩ := (finds_iff hcleared.sound).mp hfinds
  obtain ⟨l, hlocate, hat⟩ := Disk.isDirectory_iff.mp hfound
  rw [hcleared.resolve] at hrecognised hnew
  obtain ⟨bytes, hthere⟩ := exists_file_of_recognises hrecognised
  have hsame := hcleared.at?_of_ne (by rw [hthere]; simp)
  have hbefore : Finds d dir names := by
    refine (finds_iff h).mpr ⟨?_, hne, ?_⟩
    · have hlocated := Disk.locate_mono hkeep hcleared.start.symm hlocate
      exact Disk.isDirectory_iff.mpr ⟨l, hlocated, hkeep l hat⟩
    · rwa [recognises_congr (d := d) (by rw [Disk.fileAt?, Disk.fileAt?, hsame])] at hrecognised
  rw [hcleared.absent _ ⟨names, rfl, hbefore, hnew⟩] at hthere
  simp at hthere

/-- The state in which all files are in place, from which a run clears the directory. -/
theorem exists_placed {done : Written} (h : w.disk.Sound) (hfiles : ∀ f ∈ files, f.1.Beneath)
    (hnodup : (files.map Prod.fst).Nodup) (hreturn : ∀ f ∈ files, '\r' ∉ f.2.toList)
    (hrun : (write dir files).perform w = (.ok done, w')) :
    ∃ d, w.disk.Fills (IsTarget (w.disk.resolve dir).parts files) d ∧
      (∀ f ∈ files, Placed d dir f) ∧ (∃ there, d.isDirectory dir = .ok there) ∧
      d.Cleared (w.disk.resolve dir).parts (IsObsolete d dir files) w'.disk := by
  have hperm : (Files.sorted files).Perm files := List.mergeSort_perm _ _
  obtain ⟨placed, w₁, hplaced, hfills, hcleared, hold⟩ := exists_placeAll h hfiles hrun
  refine ⟨w₁.disk, hfills, fun f hf => ?_, ?_, hcleared⟩
  · exact places_placed h (fun g hg => hfiles g (hperm.mem_iff.mp hg))
      ((hperm.map Prod.fst).nodup_iff.mpr hnodup)
      (fun g hg => hreturn g (hperm.mem_iff.mp hg)) hplaced f (hperm.mem_iff.mpr hf)
  · obtain ⟨paths, hpaths, -⟩ := obsolete_eq_ok hold
    obtain ⟨there, hthere, -⟩ := bind_eq_ok_iff.mp ((generatedFiles_eq _ _).symm.trans hpaths)
    exact ⟨there, hthere⟩

theorem exists?_of_look (hf : f.1.Beneath) {text : String} (h : look d dir f = .ok (some text)) :
    d.exists? dir = .ok true := by
  obtain ⟨l, e, hlocate, hat, -⟩ := exists_of_look h
  rw [hf.target] at hlocate
  exact Disk.exists?_iff.mpr ⟨_, Disk.locate_dir hlocate (by rw [hat]; simp)⟩

/-- As long as the directory is found, a file in place is seen there after clearing, unless it is a
device. -/
theorem Placed.look_cleared_iff (h : Placed d dir f) (hf : f.1.Beneath) (hmem : f ∈ files)
    (hcleared : d.Cleared (d.resolve dir).parts (IsObsolete d dir files) d')
    (hexists : d'.exists? dir = .ok true) :
    look d' dir f = .ok (some f.2) ↔
      f.2 = "" ∨ d.at? ((d.resolve dir).parts ++ f.1.parts) ≠ some .device := by
  have hgone : ¬ IsObsolete d dir files ((d.resolve dir).parts ++ f.1.parts) := by
    rintro ⟨names, -, -, hnew⟩
    exact hnew ⟨f, hmem, rfl⟩
  obtain ⟨l, hlocate, -⟩ := Disk.exists?_iff.mp hexists
  obtain rfl := (Disk.locate_ok hlocate).2
  rw [hcleared.resolve] at hlocate
  have hback := h.sheds hf hcleared.toSheds hgone hlocate
  rw [hback.look_iff, hcleared.resolve, hcleared.at?_of_not_gone hgone h.at?_ne_directory]

/-- Clearing does not take away a steady way to the directory. -/
theorem Placed.exists?_cleared (h : Placed d dir f) (hf : f.1.Beneath) (hsound : d.Sound)
    (hcleared : d.Cleared (d.resolve dir).parts (IsObsolete d dir files) d')
    (hsteady : d.Steady dir) : d'.exists? dir = .ok true := by
  have hlocated := h.located
  rw [hf.target] at hlocated
  obtain ⟨e, hat, -⟩ := h.there
  obtain ⟨hlocate, hroot⟩ := Disk.locate_dir hlocated (by rw [hat]; simp)
  have hbelow : ∀ l, IsObsolete d dir files l → Disk.IsBelow (d.resolve dir).parts l := by
    rintro l ⟨names, rfl, hfinds, -⟩
    exact ⟨names, ((finds_iff hsound).mp hfinds).2.1, rfl⟩
  refine Disk.exists?_iff.mpr ⟨_, hsteady.locate (hcleared.keeps hbelow) hlocate, ?_⟩
  rwa [hcleared.at?_of_not_below hbelow (Disk.not_isBelow_self _)]

/-- After a run all is up to date, if the directory is found and no file is a device. The way to the
directory may have been taken away, unless it is steady. -/
theorem write_freshens {done : Written} (h : w.disk.Sound) (hfiles : ∀ f ∈ files, f.1.Beneath)
    (hnodup : (files.map Prod.fst).Nodup) (hreturn : ∀ f ∈ files, '\r' ∉ f.2.toList)
    (hrun : (write dir files).perform w = (.ok done, w')) :
    (Fresh w'.disk dir files ↔ (files = [] ∨ w'.disk.exists? dir = .ok true) ∧
      ∀ f ∈ files, f.2 = "" ∨
        w.disk.at? ((w.disk.resolve dir).parts ++ f.1.parts) ≠ some .device) ∧
    (w.disk.Steady dir → files = [] ∨ w'.disk.exists? dir = .ok true) := by
  obtain ⟨d, hfills, hplaced, ⟨there, hthere⟩, hcleared⟩ :=
    exists_placed h hfiles hnodup hreturn hrun
  rw [← hfills.resolve dir] at hcleared
  have hold : obsolete w'.disk dir files = .ok [] :=
    obsolete_of_cleared hfills.sound hfiles hthere hcleared
  have hlook : w'.disk.exists? dir = .ok true → ∀ f ∈ files, look w'.disk dir f = .ok (some f.2) ↔
      f.2 = "" ∨ w.disk.at? ((w.disk.resolve dir).parts ++ f.1.parts) ≠ some .device := by
    intro hexists f hf
    rw [(hplaced f hf).look_cleared_iff (hfiles f hf) hf hcleared hexists, Ne, hfills.device,
      hfills.resolve dir]
  have hfind : (∀ f ∈ files, w'.disk.exists? dir = .ok true) →
      files = [] ∨ w'.disk.exists? dir = .ok true := by
    intro hall
    by_cases hnil : files = []
    · exact Or.inl hnil
    · obtain ⟨f, hf⟩ := List.exists_mem_of_ne_nil files hnil
      exact Or.inr (hall f hf)
  -- Nothing is left to take away in any case, so it is all about how the files look.
  rw [fresh_iff, and_iff_left hold]
  refine ⟨⟨fun hall => ?_, ?_⟩, fun hsteady => hfind fun f hf => ?_⟩
  · have hexists := fun f hf => exists?_of_look (hfiles f hf) (hall f hf)
    exact ⟨hfind hexists, fun f hf => (hlook (hexists f hf) f hf).mp (hall f hf)⟩
  · rintro ⟨hexists, hdevice⟩ f hf
    exact (hlook (hexists.resolve_left (List.ne_nil_of_mem hf)) f hf).mpr (hdevice f hf)
  · exact (hplaced f hf).exists?_cleared (hfiles f hf) hfills.sound hcleared
      (hfills.keeps.steady hsteady)

theorem write_freshens_of_mixed :
    mixed.disk.Sound ∧ (∀ f ∈ refreshed, f.1.Beneath) ∧ (refreshed.map Prod.fst).Nodup ∧
      (∀ f ∈ refreshed, '\r' ∉ f.2.toList) ∧
      ∃ done w', (write outDirectory refreshed).perform mixed = (.ok done, w') ∧
        done.written.length = 2 ∧ Fresh w'.disk outDirectory refreshed := by
  have hsound : mixed.disk.Sound := ⟨by decide +kernel, by decide +kernel, by decide +kernel⟩
  have hfiles : ∀ f ∈ refreshed, f.1.Beneath := by
    simp only [refreshed, List.forall_mem_cons]
    exact ⟨⟨rfl, by decide⟩, ⟨rfl, by decide⟩, ⟨rfl, by decide⟩, by simp⟩
  have hnodup : (refreshed.map Prod.fst).Nodup := by decide
  have hreturn : ∀ f ∈ refreshed, '\r' ∉ f.2.toList := by decide +kernel
  have hsteady : mixed.disk.Steady outDirectory :=
    Disk.steady_of_notMem (by decide) (by decide)
  have hdone : ((writeInOrder outDirectory refreshed).perform mixed).1.toOption.map
      (fun done => done.written.length) = some 2 := by
    decide +kernel
  rcases hperform : (writeInOrder outDirectory refreshed).perform mixed with ⟨e | done, w'⟩
  · rw [hperform] at hdone
    simp [Except.toOption] at hdone
  · rw [hperform] at hdone
    have hwrite := perform_write_of_inOrder hperform
    obtain ⟨hfresh, hfind⟩ := write_freshens hsound hfiles hnodup hreturn hwrite
    refine ⟨hsound, hfiles, hnodup, hreturn, done, w', hwrite, Option.some.inj hdone,
      hfresh.mpr ⟨hfind hsteady, fun f hf => Or.inr ?_⟩⟩
    revert f
    decide +kernel

end StubDirectory

end TypeStubs
