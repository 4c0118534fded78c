import TypeStubs.Proofs.DiskRuns

/-!
# Clearing a directory

Files are taken away one by one, and after each of them the directories that it leaves empty. In
the end a directory is gone just if it held something, and all that it held is gone. If the work
breaks off, nothing else is gone either.
-/

namespace TypeStubs

open StubDirectory

namespace Disk

variable {root : Location} {gone gone' : Location → Prop} {d d' : Disk} {l : Location}

/-- A directory strictly below the root that holds something, where every entry is among those that
are gone or is such a directory itself. -/
inductive Emptied (d : Disk) (root : Location) (gone : Location → Prop) : Location → Prop
  | intro (l : Location) (below : IsBelow root l) (directory : d.at? l = some .directory)
      (holds : ∃ name, d.at? (l ++ [name]) ≠ none)
      (entries : ∀ name, d.at? (l ++ [name]) ≠ none → ¬ gone (l ++ [name]) →
        Emptied d root gone (l ++ [name])) : Emptied d root gone l

namespace Emptied

theorem isBelow (h : d.Emptied root gone l) : IsBelow root l := by
  cases h with
  | intro _ below _ _ _ => exact below

theorem directory (h : d.Emptied root gone l) : d.at? l = some .directory := by
  cases h with
  | intro _ _ directory _ _ => exact directory

theorem mono (h : d.Emptied root gone l) (hle : ∀ l, gone l → gone' l) :
    d.Emptied root gone' l := by
  induction h with
  | intro l below directory holds _ ih =>
      exact .intro l below directory holds fun name hthere hnot =>
        ih name hthere fun hgone => hnot (hle _ hgone)

end Emptied

/-- Some of what is gone has been taken away, and some of the directories that this empties. -/
structure Sheds (root : Location) (gone : Location → Prop) (d d' : Disk) : Prop where
  sound : d'.Sound
  start : d'.workingDirectory = d.workingDirectory
  at? : ∀ l, d'.at? l = d.at? l ∨ (d'.at? l = none ∧ (gone l ∨ d.Emptied root gone l))

/-- A directory below the root that held something still holds something. -/
def Tidy (root : Location) (d d' : Disk) (l : Location) : Prop :=
  IsBelow root l → d'.at? l = some .directory → (∃ name, d.at? (l ++ [name]) ≠ none) →
    ∃ name, d'.at? (l ++ [name]) ≠ none

theorem dropLast_ne_self (hl : l ≠ []) : l.dropLast ≠ l := by
  intro heq
  have hlength := congrArg List.length heq
  have hpos := List.length_pos_iff.mpr hl
  rw [List.length_dropLast] at hlength
  omega

theorem not_isBelow_self (root : Location) : ¬ IsBelow root root := by
  rintro ⟨names, hne, heq⟩
  exact hne (List.self_eq_append_right.mp heq)

theorem at?_erase_dropLast (h : d.Sound) (hl : l ≠ []) (hthere : d.at? l ≠ none) :
    (d.erase l).at? l.dropLast = some .directory := by
  rw [at?_erase hl, if_neg (dropLast_ne_self hl)]
  exact h.at?_dropLast hthere

theorem tidy_of_ne_root (h : ∀ l, l ≠ root → Tidy root d d' l) (l : Location) :
    Tidy root d d' l := by
  by_cases hl : l = root
  · exact fun hbelow => (not_isBelow_self root (hl ▸ hbelow)).elim
  · exact h l hl

/-- Taking something away can leave only the directory empty that it was in. -/
theorem Tidy.erase {m : Location} (hl : l ≠ []) (h : m ≠ l → Tidy root d d' m)
    (hm : m ≠ l.dropLast) : Tidy root d (d'.erase l) m := by
  intro hbelow hat hholds
  rw [at?_erase hl] at hat
  split at hat
  · simp at hat
  · rename_i hne
    obtain ⟨name, hname⟩ := h hne hbelow hat hholds
    refine ⟨name, ?_⟩
    rwa [at?_erase hl, if_neg]
    rintro rfl
    exact hm (List.dropLast_concat).symm

/-- All of what is gone has been taken away, and no directory was left empty by that. -/
structure Cleared (root : Location) (gone : Location → Prop) (d d' : Disk) : Prop
    extends Sheds root gone d d' where
  absent : ∀ l, gone l → d'.at? l = none
  tidy : ∀ l, Tidy root d d' l

namespace Sheds

theorem refl (h : d.Sound) : d.Sheds root gone d := ⟨h, rfl, fun _ => Or.inl rfl⟩

theorem mono (h : d.Sheds root gone d') (hle : ∀ l, gone l → gone' l) :
    d.Sheds root gone' d' :=
  ⟨h.sound, h.start, fun l => (h.at? l).imp_right (And.imp_right
    (Or.imp (hle l) fun hemptied => hemptied.mono hle))⟩

theorem at?_of_ne (h : d.Sheds root gone d') (hl : d'.at? l ≠ none) : d'.at? l = d.at? l :=
  (h.at? l).resolve_right fun hnone => hl hnone.1

/-- What is no directory is as it was, unless it is gone. -/
theorem at?_of_not_gone (h : d.Sheds root gone d') (hl : ¬ gone l)
    (hat : d.at? l ≠ some .directory) : d'.at? l = d.at? l := by
  rcases h.at? l with hsame | ⟨-, hgone | hemptied⟩
  · exact hsame
  · exact (hl hgone).elim
  · exact (hat hemptied.directory).elim

theorem fileAt? (h : d.Sheds root gone d') (hl : ¬ gone l) : d'.fileAt? l = d.fileAt? l := by
  unfold Disk.fileAt?
  rcases h.at? l with hsame | ⟨hnone, hgone | hemptied⟩
  · rw [hsame]
  · exact (hl hgone).elim
  · rw [hnone, hemptied.directory]

theorem at?_of_not_below (h : d.Sheds root gone d') (hgone : ∀ l, gone l → IsBelow root l)
    (hl : ¬ IsBelow root l) : d'.at? l = d.at? l := by
  rcases h.at? l with hsame | ⟨-, hgone' | hemptied⟩
  · exact hsame
  · exact (hl (hgone l hgone')).elim
  · exact (hl hemptied.isBelow).elim

theorem resolve (h : d.Sheds root gone d') (p : Path) : d'.resolve p = d.resolve p :=
  resolve_congr h.start p

theorem keeps (h : d.Sheds root gone d') (hgone : ∀ l, gone l → IsBelow root l) :
    d.Keeps (fun l => ¬ IsBelow root l) d' where
  sound := h.sound
  start := h.start
  directory _ hl hat := (h.at?_of_not_below hgone hl).trans hat
  device _ hat := (h.at?_of_ne (by rw [hat]; simp)).symm.trans hat

/-- An empty directory that held something is emptied by what is gone. -/
theorem emptied (h : d.Sheds root gone d') (hl : IsBelow root l)
    (hat : d'.at? l = some .directory) (hholds : ∃ name, d.at? (l ++ [name]) ≠ none)
    (hempty : ∀ name, d'.at? (l ++ [name]) = none) : d.Emptied root gone l := by
  refine .intro l hl ?_ hholds fun name hthere hnot => ?_
  · rw [← hat]
    exact (h.at?_of_ne (by rw [hat]; simp)).symm
  · -- An entry that was there is no longer, so it was gone or emptied before.
    rcases h.at? (l ++ [name]) with hsame | ⟨-, hgone⟩
    · exact (hthere (hsame.symm.trans (hempty name))).elim
    · exact hgone.resolve_left hnot

theorem erase (h : d.Sheds root gone d') (hl : gone l ∨ d.Emptied root gone l) (hnil : l ≠ [])
    (hempty : ∀ name, d'.at? (l ++ [name]) = none) : d.Sheds root gone (d'.erase l) := by
  refine ⟨h.sound.erase hnil hempty, h.start, fun m => ?_⟩
  rw [at?_erase hnil]
  by_cases hm : m = l
  · rw [if_pos hm, hm]
    exact Or.inr ⟨rfl, hl⟩
  · rw [if_neg hm]
    exact h.at? m

end Sheds

namespace Cleared

theorem refl (h : d.Sound) : d.Cleared root (fun _ => False) d where
  toSheds := .refl h
  absent _ := False.elim
  tidy _ _ _ := id

/-- A directory is gone if it held something and all that it held is gone. -/
theorem at?_of_emptied (h : d.Cleared root gone d') (hl : d.Emptied root gone l) :
    d'.at? l = none := by
  -- If the directory were still there it would hold something by tidiness, but each of its entries
  -- is gone or, by the induction, emptied and so gone as well.
  induction hl with
  | intro l below directory holds _ ih =>
      by_contra hthere
      have hat : d'.at? l = some .directory := (h.at?_of_ne hthere).trans directory
      obtain ⟨name, hname⟩ := h.tidy l below hat holds
      by_cases hgone : gone (l ++ [name])
      · exact hname (h.absent _ hgone)
      · exact hname (ih name (by rwa [← h.at?_of_ne hname]) hgone)

theorem at?_eq_none_iff (h : d.Cleared root gone d') (hl : d.at? l ≠ none) :
    d'.at? l = none ↔ gone l ∨ d.Emptied root gone l := by
  constructor
  · intro hnone
    rcases h.at? l with hsame | ⟨-, hgone⟩
    · exact (hl (hsame.symm.trans hnone)).elim
    · exact hgone
  · rintro (hgone | hemptied)
    · exact h.absent l hgone
    · exact h.at?_of_emptied hemptied

end Cleared

/-- All of what is gone has been taken away, and no directory was left empty by that, save perhaps
one. -/
structure Loose (root : Location) (gone : Location → Prop) (d d' : Disk) (l : Location) : Prop
    extends Sheds root gone d d' where
  there : d'.at? l = some .directory
  held : l ≠ root → ∃ name, d.at? (l ++ [name]) ≠ none
  absent : ∀ m, gone m → d'.at? m = none
  tidy : ∀ m, m ≠ l → Tidy root d d' m

/-- What is taken away can leave the directory empty that it was in. -/
theorem Sheds.loose (h : d.Sheds root gone d') (hl : gone l ∨ d.Emptied root gone l)
    (hnil : l ≠ []) (hthere : d'.at? l ≠ none) (hempty : ∀ name, d'.at? (l ++ [name]) = none)
    (habsent : ∀ m, m ≠ l → gone m → d'.at? m = none) (htidy : ∀ m, m ≠ l → Tidy root d d' m) :
    d.Loose root gone (d'.erase l) l.dropLast where
  toSheds := h.erase hl hnil hempty
  there := at?_erase_dropLast h.sound hnil hthere
  held _ := ⟨l.getLast hnil, by rwa [List.dropLast_append_getLast, ← h.at?_of_ne hthere]⟩
  absent m hm := by
    rw [at?_erase hnil]
    split
    · rfl
    · exact habsent m ‹_› hm
  tidy m := .erase hnil (htidy m)

namespace Loose

theorem cleared_root (h : d.Loose root gone d' root) : d.Cleared root gone d' where
  toSheds := h.toSheds
  absent := h.absent
  tidy := tidy_of_ne_root h.tidy

theorem cleared (h : d.Loose root gone d' l) (hholds : ∃ name, d'.at? (l ++ [name]) ≠ none) :
    d.Cleared root gone d' where
  toSheds := h.toSheds
  absent := h.absent
  tidy m := by
    by_cases hm : m = l
    · exact fun _ _ _ => hm ▸ hholds
    · exact h.tidy m hm

/-- An empty directory is taken away, and the one above it may be left empty. -/
theorem erase (h : d.Loose root gone d' l) (hbelow : IsBelow root l)
    (hempty : ∀ name, d'.at? (l ++ [name]) = none) :
    d.Loose root gone (d'.erase l) l.dropLast := by
  have hroot : l ≠ root := fun heq => not_isBelow_self root (heq ▸ hbelow)
  have hnil : l ≠ [] := by
    obtain ⟨names, hne, rfl⟩ := hbelow
    simp [hne]
  have hemptied : d.Emptied root gone l := h.emptied hbelow h.there (h.held hroot) hempty
  exact h.toSheds.loose (Or.inr hemptied) hnil (by rw [h.there]; simp) hempty
    (fun m _ => h.absent m) h.tidy

end Loose

/-- One entry more that is no directory is taken away. -/
theorem Cleared.loose (h : d.Cleared root gone d') {e : Entry} (hnil : l ≠ [])
    (hat : d'.at? l = some e) (he : e ≠ .directory) :
    d.Loose root (fun m => gone m ∨ m = l) (d'.erase l) l.dropLast := by
  -- Nothing stands below what is no directory.
  have hempty : ∀ name, d'.at? (l ++ [name]) = none := fun name =>
    h.sound.at?_append_eq_none (by rwa [hat, Ne, Option.some.injEq]) (by simp)
  refine (h.toSheds.mono fun _ => Or.inl).loose (Or.inl (Or.inr rfl)) hnil (by rw [hat]; simp)
    hempty ?_ fun m _ => h.tidy m
  exact fun m hne hm => h.absent m (hm.resolve_right hne)

end Disk

namespace StubDirectory

variable {w : Workspace} {dir root : Path} {d : Disk} {gone : Location → Prop}
  {names : List String}

/-! ## Paths of what is found -/

/-- The path of what is found below a directory. -/
def found (dir : Path) (names : Location) : Path := ⟨dir.anchor, dir.parts ++ names⟩

theorem found_injective {names names' : Location} (h : found dir names = found dir names') :
    names = names' := List.append_cancel_left (Path.mk.inj h).2

theorem parent_found (hne : names ≠ []) : (found dir names).parent = found dir names.dropLast := by
  rw [found, Path.parent, List.dropLast_append_of_ne_nil hne]
  rfl

theorem resolve_found (d : Disk) (hnames : ".." ∉ names) :
    (d.resolve (found dir names)).parts = (d.resolve dir).parts ++ names :=
  (d.resolve_append dir.anchor dir.parts hnames).1

theorem below?_found (hroot : d.resolve dir = root) (hnames : ".." ∉ names) :
    Path.below? root (d.resolve (found dir names)) = some names := by
  obtain ⟨hparts, hanchor⟩ := d.resolve_append dir.anchor dir.parts hnames
  rw [show d.resolve ⟨dir.anchor, dir.parts⟩ = root from hroot] at hparts hanchor
  unfold Path.below? found
  rw [hanchor, hparts]
  simp

theorem notMem_dropLast (hnames : ".." ∉ names) : ".." ∉ names.dropLast :=
  fun hmem => hnames ((List.dropLast_sublist _).subset hmem)

/-! ## Pruning -/

theorem perform_prune_zero (root current : Path) (w : Workspace) :
    (prune root 0 current).perform w = (.ok (), w) := rfl

theorem perform_prune_of_root {fuel : Nat} {current : Path}
    (h : Path.below? root (w.disk.resolve current) = some []) :
    (prune root (fuel + 1) current).perform w = (.ok (), w) := by
  rw [prune, DiskWork.perform_bind, DiskWork.perform_disk]
  dsimp only
  rw [h]
  rfl

theorem perform_prune_of_below {fuel : Nat} {current : Path} {name : String} {rest : List String}
    (h : Path.below? root (w.disk.resolve current) = some (name :: rest)) :
    (prune root (fuel + 1) current).perform w =
      match w.disk.locate current with
      | .error e => (.error e, w)
      | .ok l =>
        if (w.disk.children l).isEmpty then
          (prune root fuel current.parent).perform { w with disk := w.disk.erase l }
        else (.ok (), w) := by
  rw [prune, DiskWork.perform_bind, DiskWork.perform_disk]
  dsimp only
  rw [h]
  dsimp only
  rw [DiskWork.perform_bind, DiskWork.perform_reads]
  cases hlocate : w.disk.locate current with
  | error e => rfl
  | ok l =>
      simp only [bind, Except.bind, pure, Except.pure]
      split
      · change ((DiskWork.writes (·.removeDirectory current)) >>= fun _ =>
          prune root fuel current.parent).perform w = _
        rw [DiskWork.perform_bind, DiskWork.perform_writes, Disk.removeDirectory, hlocate]
        rfl
      · rfl

/-- The bound on the steps is never what ends pruning: it has ended by then. -/
theorem perform_prune_of_le {fuel : Nat} (hroot : w.disk.resolve dir = root)
    (hnames : ".." ∉ names) (hfuel : names.length ≤ fuel) :
    (prune root fuel (found dir names)).perform w =
      (prune root names.length (found dir names)).perform w := by
  induction hn : names.length generalizing names fuel w with
  | zero =>
      obtain rfl := List.length_eq_zero_iff.mp hn
      cases fuel with
      | zero => rfl
      | succ fuel => exact perform_prune_of_root (below?_found hroot hnames)
  | succ n ih =>
      obtain ⟨name, rest, rfl⟩ := List.exists_cons_of_length_eq_add_one hn
      obtain ⟨fuel, rfl⟩ := Nat.exists_eq_add_one_of_ne_zero (by omega : fuel ≠ 0)
      have hbelow := below?_found hroot hnames
      have hparent : (name :: rest).dropLast.length = n := by simpa using hn
      rw [perform_prune_of_below hbelow, perform_prune_of_below hbelow, parent_found (by simp)]
      cases w.disk.locate (found dir (name :: rest)) with
      | error e => rfl
      | ok l =>
          dsimp only
          split
          · exact ih (by exact hroot) (notMem_dropLast hnames) (by omega) hparent
          · rfl

/-- Pruning takes away emptied directories. If it comes to its end, there is none left. -/
theorem prune_cleared {fuel : Nat} (hroot : w.disk.resolve dir = root) (hnames : ".." ∉ names)
    (hfuel : names.length ≤ fuel) (h : d.Loose root.parts gone w.disk (root.parts ++ names)) :
    let after := (prune root fuel (found dir names)).perform w
    d.Sheds root.parts gone after.2.disk ∧
      (after.1 = .ok () → d.Cleared root.parts gone after.2.disk) := by
  -- The only directory that may have been left empty is the one at `names`. It is taken away, and
  -- then the one above it may be empty.
  induction fuel generalizing names w with
  | zero =>
      obtain rfl := List.length_eq_zero_iff.mp (Nat.le_zero.mp hfuel)
      rw [List.append_nil] at h
      rw [perform_prune_zero]
      exact ⟨h.toSheds, fun _ => h.cleared_root⟩
  | succ fuel ih =>
      have hbelow := below?_found hroot hnames
      cases names with
      | nil =>
          rw [List.append_nil] at h
          rw [perform_prune_of_root hbelow]
          exact ⟨h.toSheds, fun _ => h.cleared_root⟩
      | cons name rest =>
          rw [perform_prune_of_below hbelow]
          cases hlocate : w.disk.locate (found dir (name :: rest)) with
          | error e => exact ⟨h.toSheds, fun hok => by simp at hok⟩
          | ok l =>
              have hl : root.parts ++ name :: rest = l := by
                rw [(Disk.locate_ok hlocate).2, resolve_found _ hnames, hroot]
              dsimp only
              rw [hl] at h
              split
              · rename_i hchildren
                have hempty : ∀ s, w.disk.at? (l ++ [s]) = none :=
                  Disk.at?_child_eq_none h.sound (by simpa using hchildren)
                have hloose := h.erase ⟨_, by simp, hl.symm⟩ hempty
                rw [← hl, List.dropLast_append_of_ne_nil (by simp), hl] at hloose
                rw [parent_found (by simp)]
                exact ih (w := { w with disk := w.disk.erase l }) (by exact hroot)
                  (notMem_dropLast hnames) (by simpa using hfuel) hloose
              · rename_i hchildren
                obtain ⟨s, hs⟩ := List.exists_mem_of_ne_nil _ (by simpa using hchildren)
                exact ⟨h.toSheds, fun _ => h.cleared ⟨s, Disk.at?_child_ne_none h.sound hs⟩⟩

/-! ## Discarding -/

theorem perform_discard_of_error {path : Path} {e : Fault}
    (hremove : w.disk.removeFile path = .error e) :
    (discard dir path).perform w = (.error e, w) := by
  rw [discard, DiskWork.perform_bind, DiskWork.perform_writes, hremove]

theorem perform_discard_of_ok (dir : Path) {path : Path}
    (hremove : w.disk.removeFile path = .ok d) :
    ∃ log, (discard dir path).perform w =
      (prune (d.resolve dir) path.parts.length path.parent).perform ⟨d, log⟩ := by
  rw [discard, DiskWork.perform_bind, DiskWork.perform_writes, hremove]
  exact ⟨_, rfl⟩

theorem discard_cleared (hroot : w.disk.resolve dir = root) (hnames : ".." ∉ names)
    (hne : names ≠ []) (h : d.Cleared root.parts gone w.disk) :
    let after := (discard dir (found dir names)).perform w
    let gone' := fun l => gone l ∨ l = root.parts ++ names
    d.Sheds root.parts gone' after.2.disk ∧
      (after.1 = .ok () → d.Cleared root.parts gone' after.2.disk) := by
  intro after gone'
  have hmono : d.Sheds root.parts gone' w.disk := h.toSheds.mono fun _ => Or.inl
  cases hremove : w.disk.removeFile (found dir names) with
  | error e =>
      have hafter : after = (.error e, w) := perform_discard_of_error hremove
      rw [hafter]
      exact ⟨hmono, fun hok => by simp at hok⟩
  | ok d' =>
      obtain ⟨log, hafter⟩ := perform_discard_of_ok dir hremove
      obtain ⟨hnil, ⟨e, hat, he⟩, -, rfl⟩ := Disk.removeFile_ok h.sound hremove
      rw [resolve_found _ hnames, hroot] at hnil hat hafter
      have hloose := h.loose hnil hat he
      rw [List.dropLast_append_of_ne_nil hne] at hloose
      have hroot' : (w.disk.erase (root.parts ++ names)).resolve dir = root := hroot
      rw [hroot', parent_found hne] at hafter
      replace hafter : after = _ := hafter
      rw [hafter]
      exact prune_cleared (w := ⟨w.disk.erase (root.parts ++ names), log⟩) hroot'
        (notMem_dropLast hnames) (by simp [found]; omega) hloose

theorem gone_cons (gone : Location → Prop) (root dir : Path) (names : Location)
    (paths : List Path) :
    (fun l => gone l ∨ ∃ names', found dir names' ∈ found dir names :: paths ∧
      l = root.parts ++ names') =
    fun l => (gone l ∨ l = root.parts ++ names) ∨ ∃ names', found dir names' ∈ paths ∧
      l = root.parts ++ names' := by
  funext l
  rw [or_assoc]
  refine propext (or_congr_right ⟨?_, ?_⟩)
  · rintro ⟨names', hmem, rfl⟩
    rcases List.mem_cons.mp hmem with heq | hmem
    · exact Or.inl (by rw [found_injective heq])
    · exact Or.inr ⟨names', hmem, rfl⟩
  · rintro (rfl | ⟨names', hmem, rfl⟩)
    · exact ⟨names, List.mem_cons_self, rfl⟩
    · exact ⟨names', List.mem_cons_of_mem _ hmem, rfl⟩

/-- Some files are gone, with the directories that this empties. If the work breaks off, nothing
else is gone. -/
theorem discards_cleared {paths : List Path} (done : Written) (hroot : w.disk.resolve dir = root)
    (hpaths : ∀ path ∈ paths, ∃ names, names ≠ [] ∧ ".." ∉ names ∧ path = found dir names)
    (h : d.Cleared root.parts gone w.disk) :
    let after := (paths.foldlM (discardNoting dir) done).perform w
    let gone' := fun l => gone l ∨ ∃ names, found dir names ∈ paths ∧ l = root.parts ++ names
    d.Sheds root.parts gone' after.2.disk ∧
      (∀ done', after.1 = .ok done' → d.Cleared root.parts gone' after.2.disk) := by
  induction paths generalizing done w gone with
  | nil =>
      have hgone : (fun l => gone l ∨ ∃ names, found dir names ∈ ([] : List Path) ∧
          l = root.parts ++ names) = gone := by simp
      simp only [hgone]
      exact ⟨h.toSheds, fun _ _ => h⟩
  | cons path paths ih =>
      obtain ⟨names, hne, hnames, rfl⟩ := hpaths path List.mem_cons_self
      have hothers := fun p hp => hpaths p (List.mem_cons_of_mem (found dir names) hp)
      obtain ⟨hsheds, hcleared⟩ := discard_cleared hroot hnames hne h
      -- What is gone grows by one location with each path; `gone_cons` takes it off the list.
      simp only [gone_cons, List.foldlM_cons, discardNoting, bind_assoc, pure_bind]
      rw [DiskWork.perform_bind]
      rcases hdiscard : (discard dir (found dir names)).perform w with ⟨e | x, w₁⟩
      · rw [hdiscard] at hsheds
        exact ⟨hsheds.mono fun _ => Or.inl, fun done' hok => by simp at hok⟩
      · rw [hdiscard] at hcleared hsheds
        exact ih _ ((hsheds.resolve dir).trans ((h.resolve dir).symm.trans hroot)) hothers
          (hcleared rfl)

end StubDirectory

end TypeStubs
