import TypeStubs.Proofs.Histories

/-!
# Looking at a disk before and after it fills

A run makes directories where nothing was and writes files at the places it has files for. Whatever
else it comes upon was there before it started, if only the disk is looked at by a path that leads
to what stands there.
-/

namespace TypeStubs

namespace Disk

variable {d d' : Disk} {p : Path} {a : Anchor} {parts names : List String} {l m : Location}

/-! ## What is known of a path -/

theorem enter_error {name : String} {f : Fault} (h : d.enter l name = .error f) :
    f = .noFile ∨ f = .notDirectory ∨
      (f = .nameTooLong ∧ d.at? l = some .directory ∧ longestName < name.utf8ByteSize) := by
  unfold enter at h
  split at h
  · exact Or.inl (Except.error.inj h).symm
  · rename_i hat
    split at h
    · rename_i hlong
      exact Or.inr (Or.inr ⟨(Except.error.inj h).symm, hat, hlong⟩)
    · split at h <;> simp at h
  · exact Or.inr (Or.inl (Except.error.inj h).symm)

theorem length_of_enter {name : String} (h : d.enter l name = .ok m) :
    ¬ longestName < name.utf8ByteSize := by
  intro hlong
  rw [enter, (enter_ok h).1] at h
  simp [hlong] at h

theorem walk_error {f : Fault} (h : parts.foldlM d.enter l = .error f) :
    f = .noFile ∨ f = .notDirectory ∨ f = .nameTooLong := by
  induction parts generalizing l with
  | nil => simp [pure, Except.pure] at h
  | cons s parts ih =>
      rw [List.foldlM_cons] at h
      cases henter : d.enter l s with
      | error f' =>
          rw [henter] at h
          obtain rfl := Except.error.inj h
          exact (enter_error henter).imp_right (Or.imp_right And.left)
      | ok m =>
          rw [henter] at h
          exact ih h

theorem peek_of_locate (h : d.locate p = .ok l) : d.peek p = .ok (d.at? l) := by
  unfold peek stat
  rw [h]
  simp only [bind, Except.bind]
  cases d.at? l <;> rfl

theorem peek_of_tooLong (h : d.locate p = .error .nameTooLong) :
    d.peek p = .error .nameTooLong := by
  unfold peek stat
  rw [h]
  rfl

theorem peek_of_error {f : Fault} (h : d.locate p = .error f) (hf : f ≠ .nameTooLong) :
    d.peek p = .ok none := by
  have hkinds : f = .noFile ∨ f = .notDirectory ∨ f = .nullInPath := by
    unfold locate at h
    dsimp only at h
    split at h
    · exact Or.inr (Or.inr (Except.error.inj h).symm)
    · rcases walk_error h with hf' | hf' | hf'
      · exact Or.inl hf'
      · exact Or.inr (Or.inl hf')
      · exact (hf hf').elim
  unfold peek stat
  rw [h]
  rcases hkinds with rfl | rfl | rfl <;> rfl

theorem isDirectory_iff : d.isDirectory p = .ok true ↔
    ∃ l, d.locate p = .ok l ∧ d.at? l = some .directory := by
  constructor
  · intro h
    unfold isDirectory at h
    cases hlocate : d.locate p with
    | ok l =>
        rw [peek_of_locate hlocate] at h
        exact ⟨l, rfl, beq_iff_eq.mp (Except.ok.inj h)⟩
    | error f =>
        by_cases hf : f = .nameTooLong
        · rw [peek_of_tooLong (hf ▸ hlocate)] at h
          simp [Except.map] at h
        · rw [peek_of_error hlocate hf] at h
          simp [Except.map] at h
  · rintro ⟨l, hlocate, hat⟩
    exact isDirectory_of_at? hlocate hat

theorem walk_tooLong_mono
    (hkeep : ∀ m, d.at? m = some .directory → d'.at? m = some .directory)
    (h : parts.foldlM d.enter m = .error .nameTooLong) :
    parts.foldlM d'.enter m = .error .nameTooLong := by
  induction parts generalizing m with
  | nil => simp [pure, Except.pure] at h
  | cons s parts ih =>
      rw [List.foldlM_cons] at h ⊢
      cases henter : d.enter m s with
      | error f =>
          rw [henter] at h
          obtain rfl := Except.error.inj h
          obtain hf | hf | ⟨-, hat, hlong⟩ := enter_error henter
          · simp at hf
          · simp at hf
          · rw [enter, hkeep m hat]
            simp [hlong, bind, Except.bind]
      | ok m' =>
          rw [henter] at h
          rw [enter_mono hkeep henter]
          exact ih h

/-- A name that is too long stays so as long as directories stay. -/
theorem locate_tooLong_mono
    (hkeep : ∀ m, d.at? m = some .directory → d'.at? m = some .directory)
    (hstart : d'.workingDirectory = d.workingDirectory)
    (h : d.locate p = .error .nameTooLong) : d'.locate p = .error .nameTooLong := by
  have habsolute : d'.absolute p = d.absolute p := by rw [absolute, absolute, hstart]
  unfold locate at h ⊢
  rw [habsolute]
  dsimp only at h ⊢
  split at h
  · simp at h
  · rename_i hnull
    rw [if_neg hnull]
    exact walk_tooLong_mono hkeep h

/-- The names on a way that was gone are ones that a disk takes. -/
theorem short_of_walk (h : names.foldlM d.enter l = .ok m) :
    ∀ s ∈ names, ¬ longestName < s.utf8ByteSize := by
  induction names generalizing l with
  | nil => simp
  | cons s names ih =>
      rw [List.foldlM_cons] at h
      obtain ⟨k, hstep, hrest⟩ := bind_eq_ok_iff.mp h
      rw [List.forall_mem_cons]
      exact ⟨length_of_enter hstep, ih hrest⟩

theorem walk_of_at? (h : d.Sound) (hdots : ".." ∉ names)
    (hshort : ∀ s ∈ names, ¬ longestName < s.utf8ByteSize) (hat : d.at? (l ++ names) ≠ none) :
    names.foldlM d.enter l = .ok (l ++ names) := by
  induction names using List.reverseRecOn with
  | nil => simp [pure, Except.pure]
  | append_singleton names s ih =>
      rw [List.mem_append, List.mem_singleton, not_or] at hdots
      rw [← List.append_assoc] at hat
      have hparent := h.at?_dropLast hat
      rw [List.dropLast_concat] at hparent
      have hfront := ih hdots.1 (fun t ht => hshort t (List.mem_append_left [s] ht))
        (by rw [hparent]; simp)
      rw [List.foldlM_append, hfront]
      have hlast := hshort s (List.mem_append_right names (List.mem_singleton_self s))
      simp [bind, Except.bind, enter, hparent, hlast, Ne.symm hdots.2, pure, Except.pure]

/-- What stands below a directory can be located if its names are ones that a disk takes. -/
theorem locate_of_at? (h : d.Sound) (hstart : d'.workingDirectory = d.workingDirectory)
    (hdir : d.locate ⟨a, parts⟩ = .ok l) (hlocate : d'.locate ⟨a, parts ++ names⟩ = .ok m)
    (hdots : ".." ∉ names) (hat : d.at? (l ++ names) ≠ none) :
    d.locate ⟨a, parts ++ names⟩ = .ok (l ++ names) := by
  have habsolute : d'.absolute ⟨a, parts ++ names⟩ = d.absolute ⟨a, parts ++ names⟩ := by
    rw [absolute, absolute, hstart]
  -- The later walk need not have gone the same way, but it took all the names.
  have hwalked := (locate_ok hlocate).1
  rw [habsolute, (d.absolute_append a parts names).1, List.foldlM_append] at hwalked
  obtain ⟨k, -, hback⟩ := bind_eq_ok_iff.mp hwalked
  unfold locate at hlocate ⊢
  rw [habsolute] at hlocate
  dsimp only at hlocate ⊢
  split at hlocate
  · simp at hlocate
  · rename_i hnull
    rw [if_neg hnull, (d.absolute_append a parts names).1, List.foldlM_append, (locate_ok hdir).1]
    exact walk_of_at? h hdots (short_of_walk hback) hat

/-! ## Filling -/

/-- Directories were made where nothing was, and files were written at some places. -/
structure Fills (hit : Location → Prop) (d d' : Disk) : Prop where
  sound : d'.Sound
  start : d'.workingDirectory = d.workingDirectory
  at? : ∀ l, d'.at? l = d.at? l ∨ (d.at? l = none ∧ d'.at? l = some .directory) ∨
    (hit l ∧ (d.at? l = none ∨ ∃ bytes, d.at? l = some (.file bytes)) ∧
      ∃ bytes, d'.at? l = some (.file bytes))

namespace Fills

variable {hit hit' : Location → Prop}

theorem refl (h : d.Sound) : d.Fills hit d := ⟨h, rfl, fun _ => Or.inl rfl⟩

theorem mono (h : d.Fills hit d') (hle : ∀ l, hit l → hit' l) : d.Fills hit' d' :=
  ⟨h.sound, h.start, fun l => (h.at? l).imp_right (Or.imp_right (And.imp_left (hle l)))⟩

theorem trans {d'' : Disk} (h : d.Fills hit d') (h' : d'.Fills hit d'') : d.Fills hit d'' := by
  refine ⟨h'.sound, h'.start.trans h.start, fun l => ?_⟩
  rcases h.at? l with hsame | ⟨hnone, hmade⟩ | ⟨hl, hbefore, bytes, hwritten⟩
  · rw [← hsame]
    exact h'.at? l
  · rcases h'.at? l with hsame' | ⟨hnone', -⟩ | ⟨-, hbefore', -⟩
    · exact Or.inr (Or.inl ⟨hnone, hsame'.trans hmade⟩)
    · simp [hmade] at hnone'
    · simp [hmade] at hbefore'
  · rcases h'.at? l with hsame' | ⟨hnone', -⟩ | ⟨-, -, hwritten'⟩
    · exact Or.inr (Or.inr ⟨hl, hbefore, bytes, hsame'.trans hwritten⟩)
    · simp [hwritten] at hnone'
    · exact Or.inr (Or.inr ⟨hl, hbefore, hwritten'⟩)

theorem directory (h : d.Fills hit d') (hat : d.at? l = some .directory) :
    d'.at? l = some .directory := by
  rcases h.at? l with hsame | ⟨hnone, -⟩ | ⟨-, hbefore, -⟩
  · exact hsame.trans hat
  · simp [hat] at hnone
  · simp [hat] at hbefore

/-- What is there and no directory does not become one. -/
theorem ne_directory (h : d.Fills hit d') {e : Entry} (hat : d.at? l = some e)
    (he : e ≠ .directory) : d'.at? l ≠ some .directory := by
  rcases h.at? l with hsame | ⟨hnone, -⟩ | ⟨-, -, bytes, hwritten⟩
  · rw [hsame, hat, Ne, Option.some.injEq]
    exact he
  · simp [hat] at hnone
  · simp [hwritten]

/-- What is there and no directory was there before, unless it was written. -/
theorem at?_back (h : d.Fills hit d') (hl : ¬ hit l) {e : Entry} (hat : d'.at? l = some e)
    (he : e ≠ .directory) : d.at? l = some e := by
  rcases h.at? l with hsame | ⟨-, hmade⟩ | ⟨hhit, -⟩
  · exact hsame.symm.trans hat
  · exact (he (Option.some.inj (hat.symm.trans hmade))).elim
  · exact (hl hhit).elim

theorem resolve (h : d.Fills hit d') (p : Path) : d'.resolve p = d.resolve p :=
  resolve_congr h.start p

theorem fileAt? (h : d.Fills hit d') (hl : ¬ hit l) : d'.fileAt? l = d.fileAt? l := by
  unfold Disk.fileAt?
  rcases h.at? l with hsame | ⟨hnone, hmade⟩ | ⟨hhit, -⟩
  · rw [hsame]
  · rw [hnone, hmade]
  · exact (hl hhit).elim

end Fills

theorem Grows.fills {hit : Location → Prop} (h : d.Grows d') (hsound : d'.Sound) :
    d.Fills hit d' :=
  ⟨hsound, h.start, fun l => (h.same_or_made l).imp_right Or.inl⟩

theorem Fills.isDirectory {hit : Location → Prop} (h : d.Fills hit d')
    (hthere : d.isDirectory p = .ok true) : d'.isDirectory p = .ok true := by
  obtain ⟨l, hlocate, hat⟩ := isDirectory_iff.mp hthere
  exact isDirectory_iff.mpr
    ⟨l, locate_mono (fun _ => h.directory) h.start hlocate, h.directory hat⟩

/-- A path that can be asked about where there are more directories can be asked about. -/
theorem exists_isDirectory_of_more
    (hkeep : ∀ m, d.at? m = some .directory → d'.at? m = some .directory)
    (hstart : d'.workingDirectory = d.workingDirectory) {there : Bool}
    (hthere : d'.isDirectory p = .ok there) : ∃ before, d.isDirectory p = .ok before := by
  unfold Disk.isDirectory at hthere ⊢
  cases hlocate : d.locate p with
  | ok l => exact ⟨_, by rw [peek_of_locate hlocate]; rfl⟩
  | error f =>
      by_cases hf : f = .nameTooLong
      · have hlong := locate_tooLong_mono hkeep hstart (hf ▸ hlocate)
        rw [peek_of_tooLong hlong] at hthere
        simp [Except.map] at hthere
      · exact ⟨_, by rw [peek_of_error hlocate hf]; rfl⟩

theorem Fills.exists_isDirectory {hit : Location → Prop} (h : d.Fills hit d') {there : Bool}
    (hthere : d'.isDirectory p = .ok there) : ∃ before, d.isDirectory p = .ok before :=
  exists_isDirectory_of_more (fun _ => h.directory) h.start hthere

/-- Writing ends with a file or a device at the place. -/
theorem writeText_fills {text : String} (h : d.Sound) (hwrite : d.writeText p text = .ok d') :
    d.locate p = .ok (d.resolve p).parts ∧ d.Fills (· = (d.resolve p).parts) d' ∧
      ∃ e, d'.at? (d.resolve p).parts = some e ∧ e ≠ .directory := by
  by_cases hdevice : d.at? (d.resolve p).parts = some .device
  · unfold writeText writeBytes at hwrite
    obtain ⟨l, hlocate, hput⟩ := bind_eq_ok_iff.mp hwrite
    obtain rfl := (locate_ok hlocate).2
    rw [hdevice] at hput
    obtain rfl := Except.ok.inj hput
    exact ⟨hlocate, .refl h, .device, hdevice, by simp⟩
  · obtain ⟨hlocate, hne, hdirectory, hsound, rfl⟩ := writeText_ok h hwrite hdevice
    refine ⟨hlocate, ⟨hsound, rfl, fun l => ?_⟩, .file (Text.Utf8.encode text.toList), ?_, by simp⟩
    · rw [at?_put hne]
      by_cases hl : l = (d.resolve p).parts
      · subst hl
        refine Or.inr (Or.inr ⟨rfl, ?_, _, if_pos rfl⟩)
        cases hat : d.at? (d.resolve p).parts with
        | none => exact Or.inl rfl
        | some e =>
            cases e with
            | directory => exact (hdirectory hat).elim
            | device => exact (hdevice hat).elim
            | file bytes => exact Or.inr ⟨bytes, rfl⟩
      · exact Or.inl (if_neg hl)
    · rw [at?_put hne, if_pos rfl]

/-! ## Paths that show what is there -/

/-- A path shows what stands below the place it leads to without its two dots: it leads to a
directory, or nothing stands there. -/
def Shows (d : Disk) (dir : Path) : Prop :=
  d.isDirectory dir = .ok true ∨
    ∀ names, names ≠ [] → d.at? ((d.resolve dir).parts ++ names) = none

/-- A steady path, such as one without two dots, shows what is there. -/
theorem Steady.shows {dir : Path} (hsteady : d.Steady dir) (h : d.Sound) {there : Bool}
    (hthere : d.isDirectory dir = .ok there) : d.Shows dir := by
  cases there with
  | true => exact Or.inl hthere
  | false => exact Or.inr fun _ => hsteady.at?_eq_none h hthere

end Disk

end TypeStubs
