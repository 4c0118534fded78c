import Mathlib.Data.List.Infix
import TypeStubs.Proofs.Opening

/-!
# What a run repairs

Where nothing is in the way of its files, a run comes to its end and leaves each file with its text,
whatever was there before. It has to be a text, though: to compare a file it is read, and bytes that
cannot be decoded end the run, as they end checking.
-/

namespace TypeStubs

namespace Disk

variable {d d' : Disk} {dir p : Path} {names : List String} {l m : Location}

theorem Sound.at?_of_prefix (h : d.Sound) (habove : l <+: m) (hat : d.at? m ≠ none) :
    d.at? l ≠ none := by
  obtain ⟨rest, rfl⟩ := habove
  by_cases hrest : rest = []
  · rwa [hrest, List.append_nil] at hat
  · rw [h.at?_of_append hrest hat]
    simp

/-- The way through a steady directory leads to locations above its end, or through directories. -/
theorem Steady.front (h : d.Steady dir) (hnames : ".." ∉ names) {front : List String}
    (hfront : front <+: (d.absolute dir).parts ++ names) :
    (Path.resolved ⟨.root, front⟩).parts <+: (d.resolve dir).parts ++ names ∨
      d.at? (Path.resolved ⟨.root, front⟩).parts = some .directory := by
  -- The way ends before the directory, or in it and goes on without two dots.
  rcases List.prefix_or_prefix_of_prefix hfront (List.prefix_append _ _) with hinside | hbeyond
  · rcases h.2 front hinside with habove | ⟨hat, -⟩
    · exact Or.inl (habove.trans (List.prefix_append _ _))
    · exact Or.inr hat
  · obtain ⟨rest, rfl⟩ := hbeyond
    have hrest := (List.prefix_append_right_inj _).mp hfront
    rw [Path.resolved_append _ _ fun hmem => hnames (hrest.subset hmem)]
    exact Or.inl ((List.prefix_append_right_inj _).mpr hrest)

theorem writeText_made {text : String} (hwrite : d.writeText p text = .ok d')
    (hm : m ≠ (d.resolve p).parts) : d'.at? m = d.at? m := by
  unfold writeText writeBytes at hwrite
  obtain ⟨l, hlocate, hput⟩ := bind_eq_ok_iff.mp hwrite
  obtain rfl := (locate_ok hlocate).2
  split at hput
  · exact (throw_ne_ok hput).elim
  · rw [Except.ok.inj hput]
  · rename_i hdirectory _
    obtain rfl := Except.ok.inj hput
    have hnil : (d.resolve p).parts ≠ [] := by
      intro hnil
      rw [hnil] at hdirectory
      exact hdirectory rfl
    rw [at?_put hnil, if_neg hm]

end Disk

namespace StubDirectory

variable {w w' : Workspace} {d d' : Disk} {dir : Path} {f : Path × String} {files : Files}

/-- Nothing is in the way of files: at the place of each is a file or nothing, and the way there
leads through directories, or through what is missing and no place of another file. Their names and
their paths are within the limits of the disk. -/
structure Ready (d : Disk) (dir : Path) (files : Files) : Prop where
  sound : d.Sound
  here : d.isDirectory .here = .ok true
  steady : d.Steady dir
  takes : ∀ s ∈ (d.absolute dir).parts, Disk.Takes s
  names : ∀ f ∈ files, ∀ s ∈ f.1.parts, Disk.Takes s
  fits : ∀ f ∈ files, d.Fits dir f.1.parts
  nodup : (files.map Prod.fst).Nodup
  beneath : ∀ f ∈ files, f.1.Beneath
  free : ∀ f ∈ files, d.at? ((d.resolve dir).parts ++ f.1.parts) = none ∨
    ∃ bytes, d.at? ((d.resolve dir).parts ++ f.1.parts) = some (.file bytes)
  way : ∀ f ∈ files, ∀ front, front <+: (d.absolute dir).parts ++ f.1.parts →
    front ≠ (d.absolute dir).parts ++ f.1.parts →
    d.at? (Path.resolved ⟨.root, front⟩).parts = some .directory ∨
      (d.at? (Path.resolved ⟨.root, front⟩).parts = none ∧
        ¬ IsTarget (d.resolve dir).parts files (Path.resolved ⟨.root, front⟩).parts)

/-- The files that are there at the places of some files can be read as texts. -/
def Readable (d : Disk) (dir : Path) (files : Files) : Prop :=
  ∀ f ∈ files, ∀ bytes, d.fileAt? ((d.resolve dir).parts ++ f.1.parts) = some bytes →
    ∃ text, Disk.decodeText bytes = .ok text

/-- In the end the file at the place of one that is generated has its text for its bytes, or bytes
that it had and that are read as the text. -/
def Holds (d d' : Disk) (root : Location) (f : Path × String) : Prop :=
  ∃ bytes, d'.fileAt? (root ++ f.1.parts) = some bytes ∧
    (bytes = Text.Utf8.encode f.2.toList ∨
      d.fileAt? (root ++ f.1.parts) = some bytes ∧ Disk.decodeText bytes = .ok f.2)

theorem absolute_target (hf : f.1.Beneath) (d : Disk) (dir : Path) :
    (d.absolute (target dir f.1)).parts = (d.absolute dir).parts ++ f.1.parts := by
  rw [hf.target]
  exact (d.absolute_append dir.anchor dir.parts f.1.parts).1

namespace Ready

theorem takes_target (h : Ready d dir files) (hf : f ∈ files) :
    ∀ s ∈ (d.absolute (target dir f.1)).parts, Disk.Takes s := by
  rw [absolute_target (h.beneath f hf)]
  intro s hs
  rcases List.mem_append.mp hs with hs | hs
  · exact h.takes s hs
  · exact h.names f hf s hs

theorem eq_directory_of_way (h : Ready d dir files) (hf : f ∈ files) {front : List String}
    (hfront : front <+: (d.absolute dir).parts ++ f.1.parts)
    (hne : front ≠ (d.absolute dir).parts ++ f.1.parts) {e : Entry}
    (hat : d.at? (Path.resolved ⟨.root, front⟩).parts = some e) : e = .directory := by
  rcases h.way f hf front hfront hne with hdirectory | ⟨hnone, -⟩
  · exact Option.some.inj (hat.symm.trans hdirectory)
  · rw [hnone] at hat
    simp at hat

theorem locate_target (h : Ready d dir files) (hf : f ∈ files) :
    d.locate (target dir f.1) = .ok ((d.resolve dir).parts ++ f.1.parts) ∨
      (d.locate (target dir f.1) = .error .noFile ∧
        d.at? ((d.resolve dir).parts ++ f.1.parts) = none) := by
  have htakes := h.takes_target hf
  have hbeneath := h.beneath f hf
  have hlocate := Disk.locate_of_takes htakes
  rw [absolute_target hbeneath] at htakes hlocate
  have hopen := Disk.walk_open htakes fun front hfront hne e => h.eq_directory_of_way hf hfront hne
  rcases hopen with ⟨l, hwalk⟩ | ⟨hwalk, front, hfront, hne, hnone⟩
  · rw [hwalk] at hlocate
    obtain rfl := (Disk.locate_ok hlocate).2.trans (hbeneath.resolve_target d dir)
    exact Or.inl hlocate
  · refine Or.inr ⟨hlocate.trans hwalk, ?_⟩
    by_contra hthere
    rcases h.steady.front hbeneath.names hfront with habove | hat
    · exact h.sound.at?_of_prefix habove hthere hnone
    · rw [hnone] at hat
      simp at hat

theorem look_fileAt? (h : Ready d dir files) (hf : f ∈ files) :
    look d dir f = match d.fileAt? ((d.resolve dir).parts ++ f.1.parts) with
      | none => .ok none
      | some bytes => (Disk.decodeText bytes).map some := by
  rcases h.locate_target hf with hlocate | ⟨hlocate, hnone⟩
  · rcases h.free f hf with hnone | ⟨bytes, hfile⟩
    · rw [look_of_none hlocate hnone, Disk.fileAt?, hnone]
    · rw [look_of_file hlocate hfile, Disk.fileAt?, hfile]
  · rw [look_eq, Disk.peek_of_error hlocate (by simp), Disk.fileAt?, hnone]
    rfl

theorem exists_look_iff (h : Ready d dir files) :
    (∀ f ∈ files, ∃ seen, look d dir f = .ok seen) ↔ Readable d dir files := by
  refine forall₂_congr fun f hf => ?_
  rw [h.look_fileAt? hf]
  cases hfile : d.fileAt? ((d.resolve dir).parts ++ f.1.parts) with
  | none => simp
  | some bytes =>
      cases hdecode : Disk.decodeText bytes <;> simp [Except.map, hdecode]

theorem lacks_iff (h : Ready d dir files) (hf : f ∈ files) :
    lacks d dir f ↔ d.at? ((d.resolve dir).parts ++ f.1.parts) = none := by
  rw [TypeStubs.StubDirectory.lacks_iff, h.look_fileAt? hf]
  rcases h.free f hf with hnone | ⟨bytes, hfile⟩
  · simp [Disk.fileAt?, hnone]
  · rw [Disk.fileAt?, hfile]
    cases hdecode : Disk.decodeText bytes <;> simp [Except.map, hdecode]

theorem stale_iff (h : Ready d dir files) (hf : f ∈ files)
    (hlook : ∃ seen, look d dir f = .ok seen) :
    (!holds d dir f && !lacks d dir f) ↔ ∃ bytes text,
      d.at? ((d.resolve dir).parts ++ f.1.parts) = some (.file bytes) ∧
        Disk.decodeText bytes = .ok text ∧ text ≠ f.2 := by
  rw [Bool.and_eq_true, Bool.not_eq_true', Bool.not_eq_true', Bool.eq_false_iff, Bool.eq_false_iff,
    Ne, Ne, holds_iff, h.lacks_iff hf, h.look_fileAt? hf]
  rw [h.look_fileAt? hf] at hlook
  rcases h.free f hf with hnone | ⟨bytes, hfile⟩
  · simp [hnone]
  · rw [Disk.fileAt?, hfile] at hlook ⊢
    cases hdecode : Disk.decodeText bytes with
    | error e => simp [hdecode, Except.map] at hlook
    | ok text => simp [Except.map, hdecode]

theorem ne_directory (h : Ready d dir files) (hf : f ∈ files) :
    d.at? ((d.resolve dir).parts ++ f.1.parts) ≠ some .directory := by
  rcases h.free f hf with hnone | ⟨bytes, hfile⟩
  · simp [hnone]
  · simp [hfile]

/-- The path of a file has a last part, and before it the way is clear. -/
theorem exists_parent (h : Ready d dir files) (hf : f ∈ files) :
    ∃ front s, target dir f.1 = ⟨dir.anchor, front ++ [s]⟩ ∧ Disk.Takes s ∧
      (∀ t ∈ (d.absolute ⟨dir.anchor, front⟩).parts, Disk.Takes t) ∧
      d.Clear ⟨dir.anchor, front⟩ ∧
      ∀ l, d.OnWay ⟨dir.anchor, front⟩ l → d.at? l = some .directory ∨
        (d.at? l = none ∧ ¬ IsTarget (d.resolve dir).parts files l) := by
  have hbeneath := h.beneath f hf
  have htarget := hbeneath.target dir
  have htakes := h.takes_target hf
  have habsolute := absolute_target hbeneath d dir
  rcases List.eq_nil_or_concat (dir.parts ++ f.1.parts) with hnil | ⟨front, s, hconcat⟩
  · -- Without a last part the path is that of a directory that is there.
    have hthere := Disk.isDirectory_of_parts_eq_nil (p := target dir f.1) h.here
      (by rw [htarget, hnil])
    obtain ⟨l, hlocate, hat⟩ := Disk.isDirectory_iff.mp hthere
    rw [(Disk.locate_ok hlocate).2, hbeneath.resolve_target] at hat
    exact (h.ne_directory hf hat).elim
  · rw [hconcat, List.concat_eq_append] at htarget
    rw [htarget, (d.absolute_append dir.anchor front [s]).1] at htakes habsolute
    have hproper : ∀ first, first <+: (d.absolute ⟨dir.anchor, front⟩).parts →
        first <+: (d.absolute dir).parts ++ f.1.parts ∧
          first ≠ (d.absolute dir).parts ++ f.1.parts := by
      intro first hfirst
      rw [← habsolute]
      refine ⟨hfirst.trans (List.prefix_append _ _), ?_⟩
      rintro rfl
      have hlength := hfirst.length_le
      rw [List.length_append, List.length_singleton] at hlength
      omega
    refine ⟨front, s, htarget, htakes s (by simp), fun t ht => htakes t (by simp [ht]), ?_, ?_⟩
    · intro first hfirst e
      obtain ⟨habove, hne⟩ := hproper first hfirst
      exact h.eq_directory_of_way hf habove hne
    · rintro l ⟨first, hfirst, rfl⟩
      obtain ⟨habove, hne⟩ := hproper first hfirst
      exact h.way f hf first habove hne

/-- Making the directories of one file leaves the places of all files as they are. -/
theorem made (h : Ready d dir files) (hf : f ∈ files)
    (hmake : d.makeDirectories (target dir f.1).parent = (.ok (), d')) {g : Path × String}
    (hg : g ∈ files) : d'.at? ((d.resolve dir).parts ++ g.1.parts) =
      d.at? ((d.resolve dir).parts ++ g.1.parts) := by
  obtain ⟨front, s, htarget, -, -, -, hway⟩ := h.exists_parent hf
  rw [htarget, Path.parent, List.dropLast_concat] at hmake
  rcases Disk.makeAll_made h.sound hmake _ with hsame | honway
  · exact hsame
  · rcases hway _ honway with hdirectory | ⟨-, hnew⟩
    · exact (h.ne_directory hg hdirectory).elim
    · exact (hnew ⟨g, hg, rfl⟩).elim

theorem putInPlace_total (h : Ready w.disk dir files) (hf : f ∈ files) :
    ∃ w', (putInPlace dir f).perform w = (.ok true, w') := by
  obtain ⟨front, s, htarget, hs, htakes, hclear, -⟩ := h.exists_parent hf
  obtain ⟨d, hmake, hthere⟩ : ∃ d, w.disk.makeDirectories (target dir f.1).parent = (.ok (), d) ∧
      d.isDirectory ⟨dir.anchor, front⟩ = .ok true := by
    rw [htarget, Path.parent, List.dropLast_concat]
    exact Disk.makeAll_total h.sound h.here htakes hclear (Nat.le_refl _)
  have hat := h.made hf hmake hf
  obtain ⟨l, hlocate⟩ := Disk.locate_child hthere hs
  rw [← htarget] at hlocate
  have hgrows := (Disk.makeAll_grows (target dir f.1).parent
    (target dir f.1).parent.parts.length h.sound).2
  rw [← Disk.makeDirectories, hmake] at hgrows
  obtain rfl : l = (w.disk.resolve dir).parts ++ f.1.parts := by
    rw [(Disk.locate_ok hlocate).2, Disk.resolve_congr hgrows.start,
      (h.beneath f hf).resolve_target]
  obtain ⟨d', hwrite⟩ : ∃ d', d.writeText (target dir f.1) f.2 = .ok d' := by
    unfold Disk.writeText Disk.writeBytes
    rw [hlocate]
    simp only [bind, Except.bind, hat]
    rcases h.free f hf with hnone | ⟨bytes, hfile⟩
    · exact ⟨_, by rw [hnone]; rfl⟩
    · exact ⟨_, by rw [hfile]; rfl⟩
  exact ⟨_, DiskWork.perform_bind_ok.mpr ⟨(), _, DiskWork.perform_alters_ok.mpr ⟨d, hmake, rfl⟩,
    DiskWork.perform_bind_ok.mpr ⟨(), _, DiskWork.perform_writes_ok.mpr ⟨d', hwrite, rfl⟩, rfl⟩⟩⟩

/-- A file is placed if the bytes at its place, if any, can be read. -/
theorem place_total (h : Ready w.disk dir files) (hread : Readable w.disk dir files)
    (hf : f ∈ files) : ∃ flag w', (place dir f).perform w = (.ok flag, w') := by
  obtain ⟨seen, hlook⟩ := h.exists_look_iff.mpr hread f hf
  rw [perform_place, hlook]
  dsimp only
  split
  · exact ⟨false, w, rfl⟩
  · exact ⟨true, h.putInPlace_total hf⟩

theorem place_at? {flag : Bool} (h : Ready w.disk dir files) (hf : f ∈ files)
    (hplace : (place dir f).perform w = (.ok flag, w')) {g : Path × String} (hg : g ∈ files)
    (hne : g.1 ≠ f.1) : w'.disk.at? ((w.disk.resolve dir).parts ++ g.1.parts) =
      w.disk.at? ((w.disk.resolve dir).parts ++ g.1.parts) := by
  rcases place_cases hplace with ⟨-, -, rfl⟩ | ⟨-, -, d, hmake, hwrite⟩
  · rfl
  · have hgrows := (Disk.makeDirectory_ok h.sound hmake).2
    rw [← h.made hf (Disk.makeDirectory_eq_ok_iff.mp hmake) hg]
    refine Disk.writeText_made hwrite fun heq => hne ?_
    rw [Disk.resolve_congr hgrows.start, (h.beneath f hf).resolve_target] at heq
    exact (h.beneath g hg).eq_of_parts_eq (h.beneath f hf) (List.append_cancel_left heq)

theorem place_holds {flag : Bool} (h : Ready w.disk dir files) (hf : f ∈ files)
    (hplace : (place dir f).perform w = (.ok flag, w')) :
    Holds w.disk w'.disk (w.disk.resolve dir).parts f := by
  rcases place_cases hplace with ⟨-, hlook, rfl⟩ | ⟨-, -, d, hmake, hwrite⟩
  · rw [h.look_fileAt? hf] at hlook
    cases hfile : w'.disk.fileAt? ((w'.disk.resolve dir).parts ++ f.1.parts) with
    | none => simp [hfile] at hlook
    | some bytes =>
        rw [hfile] at hlook
        cases hdecode : Disk.decodeText bytes with
        | error e => simp [hdecode, Except.map] at hlook
        | ok text =>
            dsimp only at hlook
            rw [hdecode] at hlook
            have htext : text = f.2 := Option.some.inj (Except.ok.inj hlook)
            exact ⟨bytes, hfile, Or.inr ⟨hfile, htext ▸ hdecode⟩⟩
  · obtain ⟨hsound, hgrows⟩ := Disk.makeDirectory_ok h.sound hmake
    have hl : (d.resolve (target dir f.1)).parts = (w.disk.resolve dir).parts ++ f.1.parts := by
      rw [Disk.resolve_congr hgrows.start, (h.beneath f hf).resolve_target]
    have hdevice : d.at? (d.resolve (target dir f.1)).parts ≠ some .device := by
      rw [hl, h.made hf (Disk.makeDirectory_eq_ok_iff.mp hmake) hf]
      rcases h.free f hf with hnone | ⟨bytes, hfile⟩
      · simp [hnone]
      · simp [hfile]
    obtain ⟨-, hne, -, -, hput⟩ := Disk.writeText_ok hsound hwrite hdevice
    rw [hl] at hne hput
    refine ⟨Text.Utf8.encode f.2.toList, ?_, Or.inl rfl⟩
    rw [hput, Disk.fileAt?_put hne, if_pos rfl]

/-- After one file is placed, the others can be placed too. -/
theorem step {flag : Bool} (h : Ready w.disk dir (f :: files))
    (hplace : (place dir f).perform w = (.ok flag, w')) : Ready w'.disk dir files := by
  have hself : f ∈ f :: files := List.mem_cons_self
  have hothers : ∀ g ∈ files, g ∈ f :: files := fun g hg => List.mem_cons_of_mem f hg
  obtain ⟨hfresh, hnodup⟩ := List.nodup_cons.mp h.nodup
  obtain ⟨hfills, -, -⟩ := place_fills h.sound (h.beneath f hself) hplace
  have hresolve := hfills.resolve dir
  have habsolute : w'.disk.absolute dir = w.disk.absolute dir := by
    rw [Disk.absolute, Disk.absolute, hfills.start]
  exact
    { sound := hfills.sound
      here := hfills.isDirectory h.here
      steady := hfills.keeps.steady h.steady
      takes := habsolute ▸ h.takes
      names := fun g hg => h.names g (hothers g hg)
      fits := by
        intro g hg
        rw [Disk.Fits, Disk.absolute, hfills.start]
        exact h.fits g (hothers g hg)
      nodup := hnodup
      beneath := fun g hg => h.beneath g (hothers g hg)
      free := by
        intro g hg
        rw [hresolve, h.place_at? hself hplace (hothers g hg)
          fun heq => hfresh (heq ▸ List.mem_map_of_mem hg)]
        exact h.free g (hothers g hg)
      way := by
        intro g hg front hfront hne
        rw [habsolute] at hfront hne
        rw [hresolve]
        -- What was missing on the way of another file is still missing, or is a directory now. It
        -- is not the file that was placed, since `f` is in no way.
        rcases h.way g (hothers g hg) front hfront hne with hdirectory | ⟨hnone, hnew⟩
        · exact Or.inl (hfills.directory hdirectory)
        · rcases hfills.at? (Path.resolved ⟨.root, front⟩).parts with hsame | ⟨-, hmade⟩ | ⟨hhit, -⟩
          · refine Or.inr ⟨hsame.trans hnone, ?_⟩
            rintro ⟨k, hk, heq⟩
            exact hnew ⟨k, hothers k hk, heq⟩
          · exact Or.inl hmade
          · exact (hnew ⟨f, hself, hhit⟩).elim }

end Ready

/-! ## Runs -/

theorem Readable.step {flag : Bool} (h : Ready w.disk dir (f :: files))
    (hread : Readable w.disk dir (f :: files))
    (hplace : (place dir f).perform w = (.ok flag, w')) : Readable w'.disk dir files := by
  obtain ⟨hfresh, -⟩ := List.nodup_cons.mp h.nodup
  have hresolve := (place_fills h.sound (h.beneath f List.mem_cons_self) hplace).1.resolve dir
  intro g hg bytes hfile
  have hmem := List.mem_cons_of_mem f hg
  refine hread g hmem bytes ?_
  rw [← hfile, hresolve, Disk.fileAt?, Disk.fileAt?, h.place_at? List.mem_cons_self hplace hmem]
  exact fun heq => hfresh (heq ▸ List.mem_map_of_mem hg)

theorem perform_placeNoting (done : Written) {flag : Bool}
    (hplace : (place dir f).perform w = (.ok flag, w')) :
    ∃ done', (placeNoting dir done f).perform w = (.ok done', w') := by
  unfold placeNoting
  rw [DiskWork.perform_bind, hplace]
  cases flag
  · exact ⟨_, rfl⟩
  · exact ⟨_, rfl⟩

theorem places_total (done : Written) (h : Ready w.disk dir files)
    (hread : Readable w.disk dir files) :
    ∃ done' w', (files.foldlM (placeNoting dir) done).perform w = (.ok done', w') := by
  induction files generalizing done w with
  | nil => exact ⟨done, w, rfl⟩
  | cons f files ih =>
      obtain ⟨flag, w₁, hplace⟩ := h.place_total hread List.mem_cons_self
      obtain ⟨done₁, hstep⟩ := perform_placeNoting done hplace
      obtain ⟨done', w', hrest⟩ := ih done₁ (h.step hplace) (hread.step h hplace)
      refine ⟨done', w', ?_⟩
      rw [List.foldlM_cons]
      exact DiskWork.perform_bind_ok.mpr ⟨done₁, w₁, hstep, hrest⟩

theorem places_hold {done done' : Written} (h : Ready w.disk dir files)
    (hrun : (files.foldlM (placeNoting dir) done).perform w = (.ok done', w')) :
    ∀ f ∈ files, Holds w.disk w'.disk (w.disk.resolve dir).parts f := by
  induction files generalizing done w with
  | nil => simp
  | cons f files ih =>
      rw [List.foldlM_cons] at hrun
      obtain ⟨done₁, w₁, hstep, hrest⟩ := DiskWork.perform_bind_ok.mp hrun
      obtain ⟨flag, hplace, -, -⟩ := placeNoting_ok hstep
      obtain ⟨hfresh, -⟩ := List.nodup_cons.mp h.nodup
      have hself : f ∈ f :: files := List.mem_cons_self
      have hfills := (place_fills h.sound (h.beneath f hself) hplace).1
      have hready := h.step hplace
      have hlater := places_fills hready.sound hready.beneath hrest
      have hresolve := hfills.resolve dir
      refine List.forall_mem_cons.mpr ⟨?_, fun g hg => ?_⟩
      · obtain ⟨bytes, hfile, htext⟩ := h.place_holds hself hplace
        refine ⟨bytes, ?_, htext⟩
        rw [hlater.fileAt?, hfile]
        rintro ⟨g, hg, heq⟩
        rw [hresolve] at heq
        have hkey := (h.beneath f hself).eq_of_parts_eq (hready.beneath g hg)
          (List.append_cancel_left heq)
        exact hfresh (hkey ▸ List.mem_map_of_mem hg)
      · obtain ⟨bytes, hfile, htext⟩ := ih hready hrest g hg
        have hsame := h.place_at? hself hplace (List.mem_cons_of_mem f hg)
          fun heq => hfresh (heq ▸ List.mem_map_of_mem hg)
        rw [hresolve] at hfile htext
        refine ⟨bytes, hfile, htext.imp_right (And.imp_left ?_)⟩
        rw [Disk.fileAt?, Disk.fileAt?, hsame]
        exact id

theorem Ready.perm (h : Ready d dir files) {others : Files} (hperm : others.Perm files) :
    Ready d dir others := by
  have hmem : ∀ f, f ∈ others → f ∈ files := fun f => hperm.mem_iff.mp
  refine ⟨h.sound, h.here, h.steady, h.takes, fun f hf => h.names f (hmem f hf),
    fun f hf => h.fits f (hmem f hf), (hperm.map Prod.fst).nodup_iff.mpr h.nodup,
    fun f hf => h.beneath f (hmem f hf), fun f hf => h.free f (hmem f hf),
    fun f hf front hfront hne => ?_⟩
  refine (h.way f (hmem f hf) front hfront hne).imp_right (And.imp_right fun hnew => ?_)
  rintro ⟨g, hg, heq⟩
  exact hnew ⟨g, hmem g hg, heq⟩

/-- What is obsolete once all files are in place are files with names that a disk takes. -/
theorem obsolete_takes {old : List Path} (hbeneath : ∀ f ∈ files, f.1.Beneath)
    (hfills : d.Fills (IsTarget (d.resolve dir).parts files) d')
    (hentries : ∀ l, d.at? l ≠ none → ∀ s ∈ l, Disk.Takes s)
    (hold : obsolete d' dir files = .ok old) :
    ∀ path ∈ old, ∃ names, names ≠ [] ∧ ".." ∉ names ∧ (∀ s ∈ names, Disk.Takes s) ∧
      path = found dir names ∧
      ∃ e, d'.at? ((d'.resolve dir).parts ++ names) = some e ∧ e ≠ .directory := by
  intro path hpath
  obtain ⟨names, hne, hnames, rfl⟩ := exists_found hfills.sound hbeneath hold path hpath
  have hobsolete := (mem_obsolete_iff hbeneath hold).mp hpath
  obtain ⟨names', -, heq, hbefore⟩ := hobsolete.before hfills
  rw [hfills.resolve] at heq
  obtain rfl := List.append_cancel_left heq
  obtain ⟨bytes, hat⟩ := exists_file_of_recognises hbefore
  obtain ⟨names', heq, hfinds, -⟩ := hobsolete
  obtain rfl := List.append_cancel_left heq
  obtain ⟨bytes', hat'⟩ := exists_file_of_recognises ((finds_iff hfills.sound).mp hfinds).2.2
  refine ⟨names, hne, hnames, fun s hs => ?_, rfl, _, hat', by simp⟩
  exact hentries _ (by rw [hat]; simp) s (List.mem_append_right _ hs)

/-- A run comes to its end if the bytes at the places of its files can be read. -/
theorem write_total (h : Ready w.disk dir files) (hwithin : w.disk.Within dir)
    (hread : Readable w.disk dir files) :
    ∃ done w', (write dir files).perform w = (.ok done, w') := by
  have hperm : (Files.sorted files).Perm files := List.mergeSort_perm _ _
  obtain ⟨placed, w₁, hplaced⟩ := places_total ⟨[], [], []⟩ (h.perm hperm)
    fun f hf => hread f (hperm.mem_iff.mp hf)
  have hfills := placeAll_fills dir h.sound h.beneath
  rw [placeAll, hplaced] at hfills
  have habsolute : w₁.disk.absolute dir = w.disk.absolute dir := by
    rw [Disk.absolute, Disk.absolute, hfills.start]
  obtain ⟨there, hthere⟩ := Disk.exists_isDirectory_of_takes (habsolute ▸ h.takes)
  obtain ⟨old, hold⟩ := exists_obsolete hthere files
  have hwrite := perform_write_of_placeAll_ok (show (placeAll dir files).perform w = _ from hplaced)
  rw [hold] at hwrite
  obtain ⟨done, hdone⟩ : ∃ done,
      ((old.foldlM (discardNoting dir) placed).perform w₁).1 = .ok done := by
    cases there with
    | false =>
        rw [obsolete_of_missing hthere] at hold
        obtain rfl := Except.ok.inj hold
        exact ⟨placed, rfl⟩
    | true =>
        obtain ⟨l, hlocate, -⟩ := Disk.isDirectory_iff.mp hthere
        obtain rfl := (Disk.locate_ok hlocate).2
        have hreaches : w₁.disk.Reaches dir :=
          ⟨hfills.sound, hfills.keeps.steady h.steady, hlocate⟩
        exact discards_total hreaches (obsolete_sorted hfills.sound hold).2
          (obsolete_takes h.beneath hfills hwithin.takes hold)
  exact ⟨done, _, hwrite.trans (Prod.ext hdone rfl)⟩

theorem readable_of_placeAll {placed : Written} (h : Ready w.disk dir files)
    (hplaced : (placeAll dir files).perform w = (.ok placed, w')) :
    Readable w.disk dir files := by
  have hperm : (Files.sorted files).Perm files := List.mergeSort_perm _ _
  have hsorted : (Files.sorted files).Pairwise fun a b => a.1.le b.1 :=
    List.pairwise_mergeSort (fun a b c => Path.le_trans a.1 b.1 c.1)
      (fun a b => Path.le_total a.1 b.1) files
  obtain ⟨there, hthere⟩ := Disk.exists_isDirectory_of_takes h.takes
  have hfills : w.disk.Fills (fun _ => False) w.disk := .refl h.sound
  obtain ⟨hlook, -⟩ := places_look h.sound hfills (Or.inr (h.steady.shows h.sound hthere))
    (h.perm hperm).beneath (h.perm hperm).nodup hsorted (fun _ _ => id) (Or.inl rfl) hplaced
  exact h.exists_look_iff.mp fun f hf => hlook f (hperm.mem_iff.mpr hf)

theorem target_mem_iff (hbeneath : ∀ f ∈ files, f.1.Beneath)
    (hnodup : (files.map Prod.fst).Nodup) {p : Path × String → Bool} (hf : f ∈ files) :
    target dir f.1 ∈ targets dir ((Files.sorted files).filter p) ↔ p f := by
  rw [targets, List.mem_map]
  constructor
  · rintro ⟨g, hg, heq⟩
    obtain ⟨hg, hp⟩ := List.mem_filter.mp hg
    replace hg := List.mem_mergeSort.mp hg
    have hkey := target_injective (hbeneath g hg) (hbeneath f hf) heq
    rwa [← List.inj_on_of_nodup_map hnodup hg hf hkey]
  · intro hp
    exact ⟨f, List.mem_filter.mpr ⟨List.mem_mergeSort.mpr hf, hp⟩, rfl⟩

/-- Checking comes to its end, and so does a run, just if the files that are there can be read. Then
those are stale that are read as another text, and the run leaves each file with its text. -/
theorem write_repairs (h : Ready w.disk dir files) (hwithin : w.disk.Within dir) :
    ((∃ v, verify w.disk dir files = .ok v) ↔ Readable w.disk dir files) ∧
      ((∃ done w', (write dir files).perform w = (.ok done, w')) ↔
        Readable w.disk dir files) ∧
      (∀ v, verify w.disk dir files = .ok v → ∀ f ∈ files,
        (target dir f.1 ∈ v.missing ↔
          w.disk.at? ((w.disk.resolve dir).parts ++ f.1.parts) = none) ∧
        (target dir f.1 ∈ v.stale ↔ ∃ bytes text,
          w.disk.at? ((w.disk.resolve dir).parts ++ f.1.parts) = some (.file bytes) ∧
            Disk.decodeText bytes = .ok text ∧ text ≠ f.2)) ∧
      ∀ done w', (write dir files).perform w = (.ok done, w') → ∀ f ∈ files,
        Holds w.disk w'.disk (w.disk.resolve dir).parts f := by
  obtain ⟨there, hthere⟩ := Disk.exists_isDirectory_of_takes h.takes
  obtain ⟨old, hold⟩ := exists_obsolete hthere files
  have hverify : (∃ v, verify w.disk dir files = .ok v) ↔ Readable w.disk dir files := by
    rw [← h.exists_look_iff]
    constructor
    · rintro ⟨v, hv⟩
      exact (verify_ok hv).1
    · intro hlook
      obtain ⟨v, hv, -⟩ := exists_verify hlook hold
      exact ⟨v, hv⟩
  refine ⟨hverify, ⟨?_, write_total h hwithin⟩, fun v hv f hf => ?_, fun done w' hrun f hf => ?_⟩
  · rintro ⟨done, w', hrun⟩
    obtain ⟨placed, w₁, hplaced, -⟩ := exists_placeAll h.sound h.beneath hrun
    exact readable_of_placeAll h hplaced
  · obtain ⟨hlook, -⟩ := verify_ok hv
    obtain ⟨v', hv', -, hstale, hmissing⟩ := exists_verify hlook hold
    obtain rfl := Except.ok.inj (hv.symm.trans hv')
    rw [hmissing, hstale, target_mem_iff h.beneath h.nodup hf, target_mem_iff h.beneath h.nodup hf]
    exact ⟨h.lacks_iff hf, h.stale_iff hf (hlook f hf)⟩
  · obtain ⟨placed, w₁, hplaced, hfills, hcleared, -⟩ := exists_placeAll h.sound h.beneath hrun
    have hperm : (Files.sorted files).Perm files := List.mergeSort_perm _ _
    obtain ⟨bytes, hfile, htext⟩ := places_hold (h.perm hperm) hplaced f (hperm.mem_iff.mpr hf)
    refine ⟨bytes, ?_, htext⟩
    rw [hcleared.fileAt?, hfile]
    rintro ⟨names, -, -, hnew⟩
    exact hnew ⟨f, hf, by rw [hfills.resolve]⟩

theorem ready_mixed : Ready mixed.disk outDirectory refreshed where
  sound := ⟨by decide +kernel, by decide +kernel, by decide +kernel⟩
  here := Disk.isDirectory_iff.mpr ⟨["work"], by rfl, by decide +kernel⟩
  steady := Disk.steady_of_notMem (by decide) (by decide)
  takes := by decide +kernel
  names := by decide +kernel
  fits := by decide +kernel
  nodup := by decide
  beneath := by
    simp only [refreshed, List.forall_mem_cons]
    exact ⟨⟨rfl, by decide⟩, ⟨rfl, by decide⟩, ⟨rfl, by decide⟩, by simp⟩
  free := by
    simp only [refreshed, List.forall_mem_cons]
    exact ⟨Or.inr ⟨[], by decide +kernel⟩, Or.inr ⟨[35, 10], by decide +kernel⟩,
      Or.inl (by decide +kernel), by simp⟩
  way := by
    have hway : ∀ f ∈ refreshed,
        ∀ front ∈ ((mixed.disk.absolute outDirectory).parts ++ f.1.parts).inits,
        front ≠ (mixed.disk.absolute outDirectory).parts ++ f.1.parts →
        mixed.disk.at? (Path.resolved ⟨.root, front⟩).parts = some .directory := by
      decide +kernel
    exact fun f hf front hfront hne =>
      Or.inl (hway f hf front ((List.mem_inits _ _).mpr hfront) hne)

theorem within_mixed : mixed.disk.Within outDirectory := by
  have htakes : ∀ p ∈ mixed.disk.entries, ∀ s ∈ p.1, Disk.Takes s := by decide +kernel
  have hfits : ∀ p ∈ mixed.disk.entries, mixed.disk.Fits outDirectory (p.1.drop 2) := by
    decide +kernel
  have hroot : (mixed.disk.resolve outDirectory).parts = ["work", "out"] := by decide +kernel
  constructor
  · intro l hat
    by_cases hl : l = []
    · simp [hl]
    · obtain ⟨e, he⟩ := ready_mixed.sound.exists_entry hl hat
      exact htakes _ he
  · intro names hat
    rw [hroot] at hat
    obtain ⟨e, he⟩ := ready_mixed.sound.exists_entry (List.cons_ne_nil _ _) hat
    exact hfits (["work", "out"] ++ names, e) he

theorem write_repairs_of_mixed :
    Ready mixed.disk outDirectory refreshed ∧ mixed.disk.Within outDirectory ∧
      ∃ done w', (write outDirectory refreshed).perform mixed = (.ok done, w') ∧
        ∀ f ∈ refreshed, Holds mixed.disk w'.disk ["work", "out"] f := by
  have hread : Readable mixed.disk outDirectory refreshed := by
    have hall : ∀ f ∈ refreshed, (mixed.disk.fileAt?
        ((mixed.disk.resolve outDirectory).parts ++ f.1.parts)).all
          fun bytes => (Disk.decodeText bytes).isOk := by
      decide +kernel
    intro f hf bytes hfile
    have hok := hall f hf
    rw [hfile] at hok
    cases hdecode : Disk.decodeText bytes with
    | ok text => exact ⟨text, rfl⟩
    | error e => simp [hdecode, Except.isOk, Except.toBool] at hok
  obtain ⟨-, hwrite, -, hholds⟩ := write_repairs ready_mixed within_mixed
  obtain ⟨done, w', hrun⟩ := hwrite.mpr hread
  exact ⟨ready_mixed, within_mixed, done, w', hrun, hholds done w' hrun⟩

end StubDirectory

end TypeStubs
