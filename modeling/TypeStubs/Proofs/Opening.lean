import TypeStubs.Proofs.Freshness

/-!
# Open ways

Where nothing stands in the way of a path, its directories can be made, and nothing else is made
with them. Then a file can be written, and files below a directory that is found can be taken away.
-/

namespace TypeStubs

namespace Disk

variable {d d' : Disk} {dir p : Path} {a : Anchor} {parts names : List String} {l m : Location}
  {s : String}

/-- A name that a disk takes. -/
def Takes (s : String) : Prop := Char.ofNat 0 ∉ s.toList ∧ ¬ longestName < s.utf8ByteSize

instance (s : String) : Decidable (Takes s) :=
  inferInstanceAs (Decidable (Char.ofNat 0 ∉ s.toList ∧ ¬ longestName < s.utf8ByteSize))

/-- The longest path a disk takes, in bytes; the byte that ends it is not counted. -/
def longestPath : Nat := 4095

/-- How many directories, one in the other, are made or searched in one go. The way through them is
a recursion, and calls nest only so far. -/
def deepest : Nat := 500

/-- Names below a directory that make a path the disk takes as a whole. -/
def Fits (d : Disk) (dir : Path) (names : List String) : Prop :=
  (d.absolute ⟨dir.anchor, dir.parts ++ names⟩).text.utf8ByteSize ≤ longestPath ∧
    (dir.parts ++ names).length ≤ deepest

instance (d : Disk) (dir : Path) (names : List String) : Decidable (d.Fits dir names) :=
  inferInstanceAs (Decidable (_ ∧ _))

/-- What is on the disk is within its limits, also by the paths that lead there from `dir`. -/
structure Within (d : Disk) (dir : Path) : Prop where
  takes : ∀ l, d.at? l ≠ none → ∀ s ∈ l, Takes s
  fits : ∀ names, d.at? ((d.resolve dir).parts ++ names) ≠ none → d.Fits dir names

/-- There is a directory, or nothing yet, wherever the first parts of a path lead. -/
def Clear (d : Disk) (p : Path) : Prop :=
  ∀ front, front <+: (d.absolute p).parts → ∀ e,
    d.at? (Path.resolved ⟨.root, front⟩).parts = some e → e = .directory

/-! ## Walking -/

theorem locate_of_takes (h : ∀ s ∈ (d.absolute p).parts, Takes s) :
    d.locate p = (d.absolute p).parts.foldlM d.enter [] := by
  unfold locate
  rw [if_neg]
  rw [List.any_eq_true]
  rintro ⟨s, hs, hcontains⟩
  exact (h s hs).1 (List.contains_iff_mem.mp hcontains)

theorem enter_of_takes (hat : d.at? l = some .directory) (hs : Takes s) :
    d.enter l s = .ok (if s = ".." then l.dropLast else l ++ [s]) := by
  rw [enter, hat]
  dsimp only
  rw [if_neg hs.2]
  split <;> rfl

theorem walk_ne_tooLong (htakes : ∀ s ∈ parts, Takes s) :
    parts.foldlM d.enter l ≠ .error .nameTooLong := by
  induction parts generalizing l with
  | nil => simp [pure, Except.pure]
  | cons s parts ih =>
      obtain ⟨hs, hparts⟩ := List.forall_mem_cons.mp htakes
      rw [List.foldlM_cons]
      cases henter : d.enter l s with
      | ok m => exact ih hparts
      | error f =>
          rcases enter_error henter with rfl | rfl | ⟨-, -, hlong⟩
          · simp [bind, Except.bind]
          · simp [bind, Except.bind]
          · exact (hs.2 hlong).elim

theorem exists_isDirectory_of_takes (htakes : ∀ s ∈ (d.absolute p).parts, Takes s) :
    ∃ there, d.isDirectory p = .ok there := by
  unfold isDirectory
  cases hlocate : d.locate p with
  | ok l => exact ⟨_, by rw [peek_of_locate hlocate]; rfl⟩
  | error f =>
      have hf : f ≠ .nameTooLong := by
        rintro rfl
        rw [locate_of_takes htakes] at hlocate
        exact walk_ne_tooLong htakes hlocate
      exact ⟨_, by rw [peek_of_error hlocate hf]; rfl⟩

/-- A walk through directories comes to its end, or to something that is missing. -/
theorem walk_open (htakes : ∀ s ∈ parts, Takes s)
    (hclear : ∀ front, front <+: parts → front ≠ parts → ∀ e,
      d.at? (Path.resolved ⟨.root, front⟩).parts = some e → e = .directory) :
    (∃ l, parts.foldlM d.enter [] = .ok l) ∨ (parts.foldlM d.enter [] = .error .noFile ∧
      ∃ front, front <+: parts ∧ front ≠ parts ∧
        d.at? (Path.resolved ⟨.root, front⟩).parts = none) := by
  induction parts using List.reverseRecOn with
  | nil => exact Or.inl ⟨[], rfl⟩
  | append_singleton parts s ih =>
      have hproper : ∀ front, front <+: parts → front ≠ parts ++ [s] := by
        rintro front hfront rfl
        have hlength := hfront.length_le
        rw [List.length_append, List.length_singleton] at hlength
        omega
      have hlonger : parts <+: parts ++ [s] := List.prefix_append _ _
      rw [List.foldlM_append]
      rcases ih (fun t ht => htakes t (List.mem_append_left _ ht)) fun front hfront _ =>
        hclear front (hfront.trans hlonger) (hproper front hfront) with
        ⟨m, hwalk⟩ | ⟨hwalk, front, hfront, -, hnone⟩
      · have hm := walk_ok hwalk .root
        have hlast := htakes s (List.mem_append_right parts (List.mem_singleton_self s))
        rw [hwalk]
        change (∃ l, [s].foldlM d.enter m = .ok l) ∨ ([s].foldlM d.enter m = .error .noFile ∧ _)
        cases hat : d.at? m with
        | none =>
            refine Or.inr ⟨?_, parts, hlonger, hproper parts List.prefix_rfl, hm ▸ hat⟩
            simp [enter, hat, bind, Except.bind]
        | some e =>
            obtain rfl := hclear parts hlonger (hproper parts List.prefix_rfl) e (hm ▸ hat)
            exact Or.inl ⟨_, by simpa using enter_of_takes hat hlast⟩
      · rw [hwalk]
        exact Or.inr ⟨rfl, front, hfront.trans hlonger, hproper front hfront, hnone⟩

theorem Clear.locate (h : d.Clear p) (htakes : ∀ s ∈ (d.absolute p).parts, Takes s) :
    (∃ l, d.locate p = .ok l) ∨ d.locate p = .error .noFile := by
  rw [locate_of_takes htakes]
  exact (walk_open htakes fun front hfront _ => h front hfront).imp_right And.left

theorem locate_child (hparent : d.isDirectory ⟨a, parts⟩ = .ok true) (hs : Takes s) :
    ∃ l, d.locate ⟨a, parts ++ [s]⟩ = .ok l := by
  obtain ⟨m, hlocate, hat⟩ := isDirectory_iff.mp hparent
  obtain ⟨hwalk, -⟩ := locate_ok hlocate
  unfold locate at hlocate ⊢
  dsimp only at hlocate ⊢
  rw [(d.absolute_append a parts [s]).1, List.any_append, List.foldlM_append, hwalk]
  split at hlocate
  · simp at hlocate
  · rename_i hnull
    rw [if_neg]
    · change ∃ l, [s].foldlM d.enter m = .ok l
      exact ⟨_, by simpa using enter_of_takes hat hs⟩
    · rw [Bool.or_eq_true, not_or]
      refine ⟨hnull, ?_⟩
      simpa using hs.1

theorem Clear.front (h : d.Clear ⟨a, parts ++ names⟩) : d.Clear ⟨a, parts⟩ := by
  intro front hfront
  refine h front (hfront.trans ?_)
  rw [(d.absolute_append a parts names).1]
  exact List.prefix_append _ _

theorem Clear.grows (h : d.Clear p) (hgrows : d.Grows d') : d'.Clear p := by
  intro front hfront e hat
  rw [absolute, hgrows.start] at hfront
  rcases hgrows.same_or_made (Path.resolved ⟨.root, front⟩).parts with hsame | ⟨-, hmade⟩
  · exact h front hfront e (hsame ▸ hat)
  · exact Option.some.inj (hat.symm.trans hmade)

/-! ## Making directories -/

theorem makeOne_of_locate (hlocate : d.locate p = .ok l) :
    d.makeOne p = match d.at? l with
      | some _ => .error .fileExists
      | none => .ok (d.put l .directory) := by
  unfold makeOne
  rw [hlocate]
  rfl

theorem makeOne_of_error {f : Fault} (hlocate : d.locate p = .error f) :
    d.makeOne p = .error f := by
  unfold makeOne
  rw [hlocate]
  rfl

theorem makeAll_of_locate (hlocate : d.locate p = .ok l) (missing : Nat) :
    d.makeAll missing p = d.after (d.makeUnlessThere p) := by
  cases missing with
  | zero => rfl
  | succ missing =>
      rw [makeAll, makeUnlessThere, makeOne_of_locate hlocate]
      cases d.at? l <;> rfl

theorem makeUnlessThere_total (hlocate : d.locate p = .ok l)
    (hclear : ∀ e, d.at? l = some e → e = .directory) :
    ∃ d', d.makeUnlessThere p = .ok d' ∧ d'.isDirectory p = .ok true := by
  unfold makeUnlessThere
  rw [makeOne_of_locate hlocate]
  cases hat : d.at? l with
  | none =>
      have hl : l ≠ [] := by
        rintro rfl
        simp [Disk.at?] at hat
      have hkeep : ∀ m, d.at? m = some .directory →
          (d.put l .directory).at? m = some .directory := by
        intro m hm
        rw [at?_put hl]
        split
        · rfl
        · exact hm
      refine ⟨_, rfl, isDirectory_of_at? (locate_mono hkeep rfl hlocate) ?_⟩
      rw [at?_put hl, if_pos rfl]
  | some e =>
      obtain rfl := hclear e hat
      have hthere := isDirectory_of_at? hlocate hat
      refine ⟨d, ?_, hthere⟩
      rw [hthere]
      rfl

theorem isDirectory_of_parts_eq_nil (hhere : d.isDirectory .here = .ok true) (hnil : p.parts = []) :
    d.isDirectory p = .ok true := by
  obtain ⟨a, parts⟩ := p
  obtain rfl : parts = [] := hnil
  cases a with
  | relative => exact hhere
  | root => rfl
  | doubleRoot => rfl

theorem makeAll_of_parent {missing : Nat} {a : Anchor} {front : List String} {s : String}
    {d₁ d₂ : Disk} (hnone : d.locate ⟨a, front ++ [s]⟩ = .error .noFile)
    (hfront : d.makeAll missing ⟨a, front⟩ = (.ok (), d₁))
    (hmake : d₁.makeUnlessThere ⟨a, front ++ [s]⟩ = .ok d₂) :
    d.makeAll (missing + 1) ⟨a, front ++ [s]⟩ = (.ok (), d₂) := by
  rw [makeAll, makeOne_of_error hnone, Path.parent, List.dropLast_concat]
  dsimp only
  rw [hfront]
  dsimp only
  rw [hmake]
  rfl

/-- A directory can be made where the way to it is clear. -/
theorem makeAll_total {missing : Nat} (h : d.Sound) (hhere : d.isDirectory .here = .ok true)
    (htakes : ∀ s ∈ (d.absolute p).parts, Takes s) (hclear : d.Clear p)
    (hmissing : p.parts.length ≤ missing) :
    ∃ d', d.makeAll missing p = (.ok (), d') ∧ d'.isDirectory p = .ok true := by
  -- When the bound is used up the path has no parts, and is there. A path that cannot be located
  -- has a directory missing on its way, so that the one above it is made first, by the induction.
  induction missing generalizing p with
  | zero =>
      have hthere := isDirectory_of_parts_eq_nil hhere (List.length_eq_zero_iff.mp
        (Nat.le_zero.mp hmissing))
      obtain ⟨l, hlocate, hat⟩ := isDirectory_iff.mp hthere
      obtain ⟨d', hmake, hthere'⟩ := makeUnlessThere_total hlocate (by simp [hat])
      exact ⟨d', by rw [makeAll_of_locate hlocate, hmake]; rfl, hthere'⟩
  | succ missing ih =>
      rcases hclear.locate htakes with ⟨l, hlocate⟩ | hnone
      · obtain rfl := (locate_ok hlocate).2
        obtain ⟨d', hmake, hthere⟩ := makeUnlessThere_total hlocate (hclear _ List.prefix_rfl)
        exact ⟨d', by rw [makeAll_of_locate hlocate, hmake]; rfl, hthere⟩
      · obtain ⟨a, parts⟩ := p
        rcases List.eq_nil_or_concat parts with rfl | ⟨front, s, rfl⟩
        · have hthere := isDirectory_of_parts_eq_nil (p := ⟨a, []⟩) hhere rfl
          obtain ⟨l, hlocate, -⟩ := isDirectory_iff.mp hthere
          rw [hnone] at hlocate
          simp at hlocate
        · rw [List.concat_eq_append] at *
          have habsolute := (d.absolute_append a front [s]).1
          have hlast := htakes s (by rw [habsolute]; simp)
          rw [List.length_append] at hmissing
          obtain ⟨d₁, hfront, hthere⟩ := ih (p := ⟨a, front⟩)
            (fun t ht => htakes t (by rw [habsolute]; exact List.mem_append_left _ ht))
            (hclear.front) (Nat.le_of_succ_le_succ hmissing)
          obtain ⟨-, hgrows⟩ := makeAll_grows ⟨a, front⟩ missing h
          rw [hfront] at hgrows
          obtain ⟨l, hlocate⟩ := locate_child hthere hlast
          obtain ⟨d', hmake, hthere'⟩ := makeUnlessThere_total hlocate (by
            obtain rfl := (locate_ok hlocate).2
            exact hclear.grows hgrows _ List.prefix_rfl)
          exact ⟨d', makeAll_of_parent hnone hfront hmake, hthere'⟩

/-- A location that the first parts of a path lead to. -/
def OnWay (d : Disk) (p : Path) (l : Location) : Prop :=
  ∃ front, front <+: (d.absolute p).parts ∧ l = (Path.resolved ⟨.root, front⟩).parts

theorem OnWay.of_parent (h : d.OnWay p.parent l) : d.OnWay p l := by
  obtain ⟨a, parts⟩ := p
  obtain ⟨front, hfront, hl⟩ := h
  refine ⟨front, hfront.trans ?_, hl⟩
  rcases List.eq_nil_or_concat parts with rfl | ⟨init, s, rfl⟩
  · exact List.prefix_rfl
  · rw [List.concat_eq_append, Path.parent, List.dropLast_concat, (d.absolute_append a init [s]).1]
    exact List.prefix_append _ _

theorem makeOne_made (hmake : d.makeOne p = .ok d') (m : Location) :
    d'.at? m = d.at? m ∨ d.OnWay p m := by
  unfold makeOne at hmake
  obtain ⟨l, hlocate, hput⟩ := bind_eq_ok_iff.mp hmake
  obtain rfl := (locate_ok hlocate).2
  split at hput
  · exact (throw_ne_ok hput).elim
  · rename_i hnone
    obtain rfl := Except.ok.inj hput
    have hl : (d.resolve p).parts ≠ [] := by
      intro hnil
      rw [hnil] at hnone
      simp [Disk.at?] at hnone
    rw [at?_put hl]
    by_cases hm : m = (d.resolve p).parts
    · exact Or.inr ⟨_, List.prefix_rfl, hm⟩
    · exact Or.inl (if_neg hm)

theorem makeUnlessThere_made (hmake : d.makeUnlessThere p = .ok d') (m : Location) :
    d'.at? m = d.at? m ∨ d.OnWay p m := by
  unfold makeUnlessThere at hmake
  split at hmake
  · rename_i hone
    exact Except.ok.inj hmake ▸ makeOne_made hone m
  · obtain ⟨isThere, -, hmake⟩ := bind_eq_ok_iff.mp hmake
    split at hmake
    · exact Or.inl (Except.ok.inj hmake ▸ rfl)
    · exact (throw_ne_ok hmake).elim

theorem eq_ok_of_after {r : Except Fault Disk} (h : d.after r = (.ok (), d')) : r = .ok d' := by
  cases r with
  | error f => simp [after] at h
  | ok d₁ => rw [(Prod.mk.inj h).2]

/-- Directories are made on the way to a path only. -/
theorem makeAll_made {missing : Nat} (h : d.Sound) (hmake : d.makeAll missing p = (.ok (), d'))
    (m : Location) : d'.at? m = d.at? m ∨ d.OnWay p m := by
  induction missing generalizing p d' with
  | zero => exact makeUnlessThere_made (eq_ok_of_after hmake) m
  | succ missing ih =>
      rw [makeAll] at hmake
      split at hmake
      · rename_i hone
        obtain rfl := (Prod.mk.inj hmake).2
        exact makeOne_made hone m
      · split at hmake
        · rename_i d₁ hparent
          have hgrows := (makeAll_grows p.parent missing h).2
          rw [hparent] at hgrows
          rcases makeUnlessThere_made (eq_ok_of_after hmake) m with hsame | hway
          · exact hsame ▸ (ih hparent).imp_right OnWay.of_parent
          · -- The way is the same after the directories above were made.
            refine Or.inr ?_
            unfold OnWay at hway ⊢
            rwa [absolute, hgrows.start] at hway
        · simp at hmake
      · obtain ⟨isThere, -, hthere⟩ := bind_eq_ok_iff.mp (eq_ok_of_after hmake)
        split at hthere
        · exact Or.inl (Except.ok.inj hthere ▸ rfl)
        · exact (throw_ne_ok hthere).elim

/-! ## Below a directory that is found -/

/-- The directory is found, and its way leads through nothing below it. -/
structure Reaches (d : Disk) (dir : Path) : Prop where
  sound : d.Sound
  steady : d.Steady dir
  locate : d.locate dir = .ok (d.resolve dir).parts

theorem Reaches.keeps (h : d.Reaches dir)
    (hkeeps : d.Keeps (fun l => ¬ IsBelow (d.resolve dir).parts l) d') : d'.Reaches dir where
  sound := hkeeps.sound
  steady := hkeeps.steady h.steady
  locate := by
    rw [hkeeps.resolve]
    exact h.steady.locate hkeeps h.locate

theorem Reaches.erase (h : d.Reaches dir) (hl : IsBelow (d.resolve dir).parts l)
    (hempty : ∀ name, d.at? (l ++ [name]) = none) : (d.erase l).Reaches dir := by
  have hnil : l ≠ [] := by
    obtain ⟨names, hne, rfl⟩ := hl
    simp [hne]
  exact h.keeps (keeps_erase (h.sound.erase hnil hempty) hnil fun hstays => (hstays hl).elim)

theorem Reaches.locate_found (h : d.Reaches dir) (htakes : ∀ s ∈ names, Takes s)
    (hat : d.at? ((d.resolve dir).parts ++ names) ≠ none) :
    d.locate (StubDirectory.found dir names) = .ok ((d.resolve dir).parts ++ names) := by
  have hdir := h.locate
  have hwalk := (locate_ok hdir).1
  have hdots : ".." ∉ names := fun hmem =>
    h.sound.notMem_of_at? hat (List.mem_append_right _ hmem)
  unfold Disk.locate at hdir
  unfold Disk.locate StubDirectory.found
  dsimp only at hdir ⊢
  rw [(d.absolute_append dir.anchor dir.parts names).1, List.any_append, List.foldlM_append]
  split at hdir
  · simp at hdir
  · rename_i hnull
    rw [if_neg, hwalk]
    · exact walk_of_at? h.sound hdots (fun s hs => (htakes s hs).2) hat
    · rw [Bool.or_eq_true, not_or]
      refine ⟨hnull, ?_⟩
      rw [List.any_eq_true]
      rintro ⟨s, hs, hcontains⟩
      exact (htakes s hs).1 (List.contains_iff_mem.mp hcontains)

end Disk

namespace StubDirectory

variable {w : Workspace} {dir root : Path} {names : List String}

/-- Pruning comes to its end below a directory that is found. -/
theorem prune_total {fuel : Nat} (hroot : w.disk.resolve dir = root) (h : w.disk.Reaches dir)
    (htakes : ∀ s ∈ names, Disk.Takes s)
    (hat : w.disk.at? (root.parts ++ names) = some .directory) :
    ((prune root fuel (found dir names)).perform w).1 = .ok () := by
  have hthere : w.disk.at? (root.parts ++ names) ≠ none := by
    rw [hat]
    simp
  have hnames : ".." ∉ names := fun hmem =>
    h.sound.notMem_of_at? hthere (List.mem_append_right _ hmem)
  induction fuel generalizing names w with
  | zero => rfl
  | succ fuel ih =>
      have hbelow := below?_found hroot hnames
      cases names with
      | nil => rw [perform_prune_of_root hbelow]
      | cons name rest =>
          rw [perform_prune_of_below hbelow, h.locate_found htakes (hroot ▸ hthere), hroot]
          dsimp only
          split
          · rename_i hchildren
            have hempty : ∀ s, w.disk.at? (root.parts ++ name :: rest ++ [s]) = none :=
              Disk.at?_child_eq_none h.sound (by simpa using hchildren)
            have hnil : root.parts ++ name :: rest ≠ [] := by simp
            have hat' := Disk.at?_erase_dropLast h.sound hnil hthere
            rw [List.dropLast_append_of_ne_nil (by simp)] at hat'
            rw [parent_found (by simp)]
            refine ih (w := { w with disk := w.disk.erase (root.parts ++ name :: rest) }) hroot
              (h.erase ?_ hempty) (fun s hs => htakes s ((List.dropLast_sublist _).subset hs)) hat'
              (by rw [hat']; simp) (notMem_dropLast hnames)
            exact ⟨name :: rest, by simp, by rw [hroot]⟩
          · rfl

theorem discard_total {e : Entry} (h : w.disk.Reaches dir) (hne : names ≠ [])
    (htakes : ∀ s ∈ names, Disk.Takes s)
    (hat : w.disk.at? ((w.disk.resolve dir).parts ++ names) = some e) (he : e ≠ .directory) :
    ((discard dir (found dir names)).perform w).1 = .ok () := by
  have hthere : w.disk.at? ((w.disk.resolve dir).parts ++ names) ≠ none := by
    rw [hat]
    simp
  have hremove : w.disk.removeFile (found dir names) =
      .ok (w.disk.erase ((w.disk.resolve dir).parts ++ names)) := by
    unfold Disk.removeFile
    rw [h.locate_found htakes hthere]
    simp only [bind, Except.bind, hat]
    cases e with
    | directory => exact (he rfl).elim
    | file bytes => rfl
    | device => rfl
  have hempty : ∀ name, w.disk.at? ((w.disk.resolve dir).parts ++ names ++ [name]) = none :=
    fun name => h.sound.at?_append_eq_none (by rwa [hat, Ne, Option.some.injEq]) (by simp)
  have hnil : (w.disk.resolve dir).parts ++ names ≠ [] := by simp [hne]
  have hat' := Disk.at?_erase_dropLast h.sound hnil hthere
  rw [List.dropLast_append_of_ne_nil hne] at hat'
  obtain ⟨log, hperform⟩ := perform_discard_of_ok dir hremove
  rw [hperform, parent_found hne]
  exact prune_total (w := ⟨_, log⟩) rfl (h.erase ⟨names, hne, rfl⟩ hempty)
    (fun s hs => htakes s ((List.dropLast_sublist _).subset hs)) hat'

theorem discards_total {paths : List Path} {done : Written} (h : w.disk.Reaches dir)
    (hnodup : paths.Nodup)
    (hpaths : ∀ path ∈ paths, ∃ names, names ≠ [] ∧ ".." ∉ names ∧ (∀ s ∈ names, Disk.Takes s) ∧
      path = found dir names ∧
      ∃ e, w.disk.at? ((w.disk.resolve dir).parts ++ names) = some e ∧ e ≠ .directory) :
    ∃ done', ((paths.foldlM (discardNoting dir) done).perform w).1 = .ok done' := by
  induction paths generalizing w done with
  | nil => exact ⟨done, rfl⟩
  | cons path paths ih =>
      obtain ⟨⟨names, hne, hnames, htakes, rfl, e, hat, he⟩, hothers⟩ :=
        List.forall_mem_cons.mp hpaths
      obtain ⟨hfresh, hnodup⟩ := List.nodup_cons.mp hnodup
      have hok := discard_total h hne htakes hat he
      obtain ⟨-, hcleared⟩ := discard_cleared rfl hnames hne (.refl h.sound)
      replace hcleared := hcleared hok
      rw [List.foldlM_cons, DiskWork.perform_bind]
      rcases hdiscard : (discard dir (found dir names)).perform w with ⟨r, w₁⟩
      rw [hdiscard] at hok hcleared
      obtain rfl := hok
      have hstep : (discardNoting dir done (found dir names)).perform w =
          (.ok { done with removed := done.removed ++ [found dir names] }, w₁) := by
        unfold discardNoting
        rw [DiskWork.perform_bind, hdiscard]
        rfl
      rw [hstep]
      -- The paths differ, so the files that are left are not what was taken away.
      have hgone : ∀ l, (False ∨ l = (w.disk.resolve dir).parts ++ names) →
          Disk.IsBelow (w.disk.resolve dir).parts l :=
        fun l hl => ⟨names, hne, hl.resolve_left id⟩
      refine ih (h.keeps (hcleared.keeps hgone)) hnodup fun path hpath => ?_
      obtain ⟨names', hne', hnames', htakes', rfl, e', hat', he'⟩ := hothers path hpath
      refine ⟨names', hne', hnames', htakes', rfl, e', ?_, he'⟩
      have hstays : ¬ (False ∨
          (w.disk.resolve dir).parts ++ names' = (w.disk.resolve dir).parts ++ names) := by
        rintro (hfalse | heq)
        · exact hfalse
        · exact hfresh (List.append_cancel_left heq ▸ hpath)
      rwa [hcleared.resolve, hcleared.at?_of_not_gone hstays (by rwa [hat', Ne, Option.some.injEq])]

end StubDirectory

end TypeStubs
