import TypeStubs.Proofs.Disks

/-!
# From paths to locations

The disk is walked part by part. A walk that comes to an end leads where the path does when its two
dots are taken out, and no operation on directories that stay in place can change that.
-/

namespace TypeStubs

namespace Path

theorem resolved_concat (a : Anchor) (parts : List String) (s : String) :
    (resolved ⟨a, parts ++ [s]⟩).parts =
      if s = ".." then (resolved ⟨a, parts⟩).parts.dropLast
      else (resolved ⟨a, parts⟩).parts ++ [s] := by
  unfold resolved
  dsimp only
  rw [List.foldl_append]
  simp only [List.foldl_cons, List.foldl_nil]
  split
  · rw [List.drop_one, List.dropLast_reverse]
  · rw [List.reverse_cons]

theorem resolved_append (a : Anchor) (parts : List String) {names : List String}
    (h : ".." ∉ names) :
    (resolved ⟨a, parts ++ names⟩).parts = (resolved ⟨a, parts⟩).parts ++ names := by
  induction names using List.reverseRecOn with
  | nil => simp
  | append_singleton names name ih =>
      rw [List.mem_append, List.mem_singleton, not_or] at h
      rw [← List.append_assoc, resolved_concat, if_neg (Ne.symm h.2), ih h.1, List.append_assoc]

theorem notMem_resolved (a : Anchor) (parts : List String) :
    ".." ∉ (resolved ⟨a, parts⟩).parts := by
  induction parts using List.reverseRecOn with
  | nil => simp [resolved]
  | append_singleton parts s ih =>
      rw [resolved_concat]
      split
      · exact fun hmem => ih ((List.dropLast_sublist _).subset hmem)
      · rename_i hs
        rw [List.mem_append, List.mem_singleton, not_or]
        exact ⟨ih, Ne.symm hs⟩

end Path

namespace Disk

variable {d d' : Disk} {p : Path} {a : Anchor} {parts names : List String} {l m : Location}

/-! ## Walking -/

theorem enter_ok {name : String} (h : d.enter l name = .ok m) :
    d.at? l = some .directory ∧ m = if name = ".." then l.dropLast else l ++ [name] := by
  unfold enter at h
  split at h
  · simp at h
  · rename_i hat
    split at h
    · simp at h
    · refine ⟨hat, ?_⟩
      split at h
      · rename_i hname
        rw [if_pos hname]
        exact (Except.ok.inj h).symm
      · rename_i hname
        rw [if_neg hname]
        exact (Except.ok.inj h).symm
  · simp at h

theorem walk_ok (h : parts.foldlM d.enter [] = .ok l) (a : Anchor) :
    l = (Path.resolved ⟨a, parts⟩).parts := by
  induction parts using List.reverseRecOn generalizing l with
  | nil => exact (Except.ok.inj h).symm
  | append_singleton parts s ih =>
      rw [List.foldlM_append] at h
      obtain ⟨m, hwalk, hstep⟩ := bind_eq_ok_iff.mp h
      have hlast : d.enter m s = .ok l := by simpa using hstep
      rw [Path.resolved_concat, ← ih hwalk]
      exact (enter_ok hlast).2

theorem locate_ok (h : d.locate p = .ok l) :
    (d.absolute p).parts.foldlM d.enter [] = .ok l ∧ l = (d.resolve p).parts := by
  unfold locate at h
  dsimp only at h
  split at h
  · simp at h
  · exact ⟨h, walk_ok h _⟩

theorem absolute_append (d : Disk) (a : Anchor) (parts names : List String) :
    (d.absolute ⟨a, parts ++ names⟩).parts = (d.absolute ⟨a, parts⟩).parts ++ names ∧
      (d.absolute ⟨a, parts ++ names⟩).anchor = (d.absolute ⟨a, parts⟩).anchor := by
  unfold absolute Path.isAbsolute
  dsimp only
  split
  · exact ⟨rfl, rfl⟩
  · exact ⟨(List.append_assoc _ _ _).symm, rfl⟩

theorem resolve_append (d : Disk) (a : Anchor) (parts : List String) (h : ".." ∉ names) :
    (d.resolve ⟨a, parts ++ names⟩).parts = (d.resolve ⟨a, parts⟩).parts ++ names ∧
      (d.resolve ⟨a, parts ++ names⟩).anchor = (d.resolve ⟨a, parts⟩).anchor := by
  obtain ⟨hparts, hanchor⟩ := d.absolute_append a parts names
  refine ⟨?_, hanchor⟩
  unfold resolve
  rw [← Path.resolved_append _ _ h, ← hparts, ← hanchor]

theorem resolve_congr (h : d'.workingDirectory = d.workingDirectory) (p : Path) :
    d'.resolve p = d.resolve p := by
  rw [resolve, resolve, absolute, absolute, h]

/-- The way to a located path goes through directories. -/
theorem at?_of_locate (h : d.locate ⟨a, parts ++ names⟩ = .ok l) (hnames : names ≠ []) :
    d.at? (d.resolve ⟨a, parts⟩).parts = some .directory := by
  obtain ⟨hwalk, -⟩ := locate_ok h
  rw [(d.absolute_append a parts names).1, List.foldlM_append] at hwalk
  obtain ⟨m, hfront, hback⟩ := bind_eq_ok_iff.mp hwalk
  obtain ⟨name, rest, rfl⟩ := List.exists_cons_of_ne_nil hnames
  rw [List.foldlM_cons] at hback
  obtain ⟨m', hstep, -⟩ := bind_eq_ok_iff.mp hback
  have hm : m = (d.resolve ⟨a, parts⟩).parts := walk_ok hfront _
  exact hm ▸ (enter_ok hstep).1

/-- What is on the way to a located path can be located. -/
theorem locate_front (h : d.locate ⟨a, parts ++ names⟩ = .ok l) :
    d.locate ⟨a, parts⟩ = .ok (d.resolve ⟨a, parts⟩).parts := by
  unfold locate at h ⊢
  rw [(d.absolute_append a parts names).1] at h
  dsimp only at h ⊢
  split at h
  · simp at h
  · rename_i hnull
    rw [List.any_append, Bool.or_eq_true, not_or] at hnull
    rw [List.foldlM_append] at h
    obtain ⟨m, hfront, -⟩ := bind_eq_ok_iff.mp h
    rw [if_neg hnull.1, hfront, walk_ok hfront (d.absolute ⟨a, parts⟩).anchor]
    rfl

section Kept

variable (hkeep : ∀ m, d.at? m = some .directory → d'.at? m = some .directory)

include hkeep

theorem enter_mono {name : String} (h : d.enter l name = .ok m) : d'.enter l name = .ok m := by
  have hat := (enter_ok h).1
  rw [enter, hat] at h
  rw [enter, hkeep l hat]
  exact h

theorem walk_mono (h : parts.foldlM d.enter m = .ok l) : parts.foldlM d'.enter m = .ok l := by
  induction parts generalizing m with
  | nil => exact h
  | cons s parts ih =>
      rw [List.foldlM_cons] at h ⊢
      obtain ⟨m', hstep, hrest⟩ := bind_eq_ok_iff.mp h
      rw [enter_mono hkeep hstep]
      exact ih hrest

/-- What can be located stays so as long as directories stay. -/
theorem locate_mono (hstart : d'.workingDirectory = d.workingDirectory) (h : d.locate p = .ok l) :
    d'.locate p = .ok l := by
  have habsolute : d'.absolute p = d.absolute p := by rw [absolute, absolute, hstart]
  unfold locate at h ⊢
  rw [habsolute]
  dsimp only at h ⊢
  split at h
  · simp at h
  · rename_i hnull
    rw [if_neg hnull]
    exact walk_mono hkeep h

end Kept

theorem locate_parent (h : d.Sound) (hlocate : d.locate p = .ok l)
    (hat : d.at? l ≠ some .directory) :
    ∃ front name, l = front ++ [name] ∧ name ≠ ".." ∧ ".." ∉ front ∧
      d.at? front = some .directory := by
  obtain ⟨hwalk, -⟩ := locate_ok hlocate
  rcases List.eq_nil_or_concat (d.absolute p).parts with hnil | ⟨parts, s, hparts⟩
  · rw [hnil] at hwalk
    obtain rfl := Except.ok.inj hwalk
    exact (hat rfl).elim
  · rw [hparts, List.concat_eq_append, List.foldlM_append] at hwalk
    obtain ⟨front, hfront, hstep⟩ := bind_eq_ok_iff.mp hwalk
    have hlast : d.enter front s = .ok l := by simpa using hstep
    obtain ⟨hdirectory, hl⟩ := enter_ok hlast
    by_cases hs : s = ".."
    · rw [if_pos hs] at hl
      exact (hat (hl ▸ h.at?_dropLast (by rw [hdirectory]; simp))).elim
    · rw [if_neg hs] at hl
      have hnone : ".." ∉ front := walk_ok hfront .root ▸ Path.notMem_resolved .root parts
      exact ⟨front, s, hl, hs, hnone, hdirectory⟩

theorem Sound.put_of_locate (h : d.Sound) (hlocate : d.locate p = .ok l)
    (hat : d.at? l ≠ some .directory) (e : Entry) : l ≠ [] ∧ (d.put l e).Sound := by
  obtain ⟨front, name, rfl, hname, hfront, hparent⟩ := locate_parent h hlocate hat
  exact ⟨by simp, h.put hname hfront hparent hat⟩

/-! ## Growth -/

/-- Some directories were made. -/
structure Grows (d d' : Disk) : Prop where
  start : d'.workingDirectory = d.workingDirectory
  same_or_made : ∀ l, d'.at? l = d.at? l ∨ (d.at? l = none ∧ d'.at? l = some .directory)

namespace Grows

theorem refl (d : Disk) : d.Grows d := ⟨rfl, fun _ => Or.inl rfl⟩

theorem trans {d'' : Disk} (h : d.Grows d') (h' : d'.Grows d'') : d.Grows d'' := by
  refine ⟨h'.start.trans h.start, fun l => ?_⟩
  rcases h.same_or_made l with hl | ⟨hnone, hmade⟩
  · rw [← hl]
    exact h'.same_or_made l
  · rcases h'.same_or_made l with hl' | ⟨hnone', -⟩
    · exact Or.inr ⟨hnone, hl'.trans hmade⟩
    · rw [hmade] at hnone'
      simp at hnone'

theorem directory (h : d.Grows d') (hat : d.at? l = some .directory) :
    d'.at? l = some .directory := by
  rcases h.same_or_made l with hl | ⟨-, hmade⟩
  · exact hl.trans hat
  · exact hmade

theorem fileAt? (h : d.Grows d') (l : Location) : d'.fileAt? l = d.fileAt? l := by
  unfold Disk.fileAt?
  rcases h.same_or_made l with hl | ⟨hnone, hmade⟩
  · rw [hl]
  · rw [hnone, hmade]

end Grows

theorem makeOne_ok (h : d.Sound) (hmake : d.makeOne p = .ok d') : d'.Sound ∧ d.Grows d' := by
  unfold makeOne at hmake
  obtain ⟨l, hlocate, hput⟩ := bind_eq_ok_iff.mp hmake
  split at hput
  · exact (throw_ne_ok hput).elim
  · rename_i hnone
    obtain rfl := Except.ok.inj hput
    obtain ⟨hl, hsound⟩ := h.put_of_locate hlocate (by rw [hnone]; simp) .directory
    refine ⟨hsound, rfl, fun m => ?_⟩
    rw [at?_put hl]
    by_cases hm : m = l
    · rw [if_pos hm, hm]
      exact Or.inr ⟨hnone, rfl⟩
    · rw [if_neg hm]
      exact Or.inl rfl

theorem makeUnlessThere_ok (h : d.Sound) (hmake : d.makeUnlessThere p = .ok d') :
    d'.Sound ∧ d.Grows d' := by
  unfold makeUnlessThere at hmake
  split at hmake
  · rename_i hone
    exact Except.ok.inj hmake ▸ makeOne_ok h hone
  · obtain ⟨isThere, -, hmake⟩ := bind_eq_ok_iff.mp hmake
    split at hmake
    · exact Except.ok.inj hmake ▸ ⟨h, .refl d⟩
    · exact (throw_ne_ok hmake).elim

theorem after_grows {r : Except Fault Disk} (h : d.Sound)
    (hr : ∀ d', r = .ok d' → d'.Sound ∧ d.Grows d') :
    (d.after r).2.Sound ∧ d.Grows (d.after r).2 := by
  cases r with
  | ok d' => exact hr d' rfl
  | error f => exact ⟨h, .refl d⟩

/-- Directories are made one by one, and those that were made stay, whatever comes next. -/
theorem makeAll_grows (p : Path) (missing : Nat) (h : d.Sound) :
    (d.makeAll missing p).2.Sound ∧ d.Grows (d.makeAll missing p).2 := by
  induction missing generalizing p with
  | zero => exact after_grows h fun d' => makeUnlessThere_ok h
  | succ missing ih =>
      rw [makeAll]
      split
      · rename_i hone
        exact makeOne_ok h hone
      · obtain ⟨hsound, hgrows⟩ := ih (p := p.parent)
        split
        · rename_i hparent
          rw [hparent] at hsound hgrows
          obtain ⟨hsound', hgrows'⟩ := after_grows hsound fun d'' => makeUnlessThere_ok hsound
          exact ⟨hsound', hgrows.trans hgrows'⟩
        · rename_i hparent
          rw [hparent] at hsound hgrows
          exact ⟨hsound, hgrows⟩
      · refine after_grows h fun d' hmake => ?_
        obtain ⟨isThere, -, hmake⟩ := bind_eq_ok_iff.mp hmake
        split at hmake
        · exact Except.ok.inj hmake ▸ ⟨h, .refl d⟩
        · exact (throw_ne_ok hmake).elim

theorem makeDirectory_eq_ok_iff :
    d.makeDirectory p = .ok d' ↔ d.makeDirectories p = (.ok (), d') := by
  unfold makeDirectory
  rcases d.makeDirectories p with ⟨f | x, d₁⟩
  · simp
  · simp

theorem makeDirectory_ok (h : d.Sound) (hmake : d.makeDirectory p = .ok d') :
    d'.Sound ∧ d.Grows d' := by
  have hall := makeAll_grows p p.parts.length h
  rw [makeDirectory_eq_ok_iff, makeDirectories] at hmake
  rwa [hmake] at hall

/-! ## Files -/

theorem writeText_ok {text : String} (h : d.Sound) (hwrite : d.writeText p text = .ok d')
    (hdevice : d.at? (d.resolve p).parts ≠ some .device) :
    d.locate p = .ok (d.resolve p).parts ∧ (d.resolve p).parts ≠ [] ∧
      d.at? (d.resolve p).parts ≠ some .directory ∧ d'.Sound ∧
      d' = d.put (d.resolve p).parts (.file (Text.Utf8.encode text.toList)) := by
  unfold writeText writeBytes at hwrite
  obtain ⟨l, hlocate, hput⟩ := bind_eq_ok_iff.mp hwrite
  obtain rfl := (locate_ok hlocate).2
  split at hput
  · exact (throw_ne_ok hput).elim
  · rename_i hat
    exact (hdevice hat).elim
  · rename_i hdirectory _
    obtain rfl := Except.ok.inj hput
    obtain ⟨hne, hsound⟩ := h.put_of_locate hlocate hdirectory
      (.file (Text.Utf8.encode text.toList))
    exact ⟨hlocate, hne, hdirectory, hsound, rfl⟩

theorem removeFile_ok (h : d.Sound) (hremove : d.removeFile p = .ok d') :
    (d.resolve p).parts ≠ [] ∧
      (∃ e, d.at? (d.resolve p).parts = some e ∧ e ≠ .directory) ∧ d'.Sound ∧
      d' = d.erase (d.resolve p).parts := by
  unfold removeFile at hremove
  obtain ⟨l, hlocate, herase⟩ := bind_eq_ok_iff.mp hremove
  obtain rfl := (locate_ok hlocate).2
  split at herase
  · exact (throw_ne_ok herase).elim
  · rename_i e hne hat
    obtain rfl := Except.ok.inj herase
    have he : e ≠ .directory := hne
    have hdirectory : d.at? (d.resolve p).parts ≠ some .directory := by
      rwa [hat, Ne, Option.some.injEq]
    have hnil : (d.resolve p).parts ≠ [] := by
      intro hnil
      rw [hnil] at hdirectory
      exact hdirectory rfl
    refine ⟨hnil, ⟨e, hat, he⟩, h.erase hnil fun name => ?_, rfl⟩
    exact h.at?_append_eq_none hdirectory (by simp)
  · exact (throw_ne_ok herase).elim

end Disk

end TypeStubs
