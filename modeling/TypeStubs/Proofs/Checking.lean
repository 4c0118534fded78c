import TypeStubs.Proofs.Looking

/-!
# Checking tells what writing would do

Checking looks at the disk as it is, writing looks at it again and again while it fills. Both see
the same: a file that has its turn finds at its place what was there at the start, and what is taken
away in the end was there at the start as well.
-/

namespace TypeStubs

open StubDirectory

/-! ## The order of paths -/

namespace Path

theorem partsLe_antisymm {as bs : List String} (h : partsLe as bs) (h' : partsLe bs as) :
    as = bs := by
  induction as generalizing bs with
  | nil =>
      cases bs with
      | nil => rfl
      | cons b bs => simp [partsLe] at h'
  | cons a as ih =>
      cases bs with
      | nil => simp [partsLe] at h
      | cons b bs =>
          by_cases hab : a = b
          · subst hab
            rw [partsLe, if_pos rfl] at h h'
            rw [ih h h']
          · rw [partsLe, if_neg hab] at h
            rw [partsLe, if_neg (Ne.symm hab)] at h'
            exact (String.lt_asymm (of_decide_eq_true h) (of_decide_eq_true h')).elim

theorem partsLe_trans {as bs cs : List String} (h : partsLe as bs) (h' : partsLe bs cs) :
    partsLe as cs := by
  induction as generalizing bs cs with
  | nil => rfl
  | cons a as ih =>
      cases bs with
      | nil => simp [partsLe] at h
      | cons b bs =>
          cases cs with
          | nil => simp [partsLe] at h'
          | cons c cs =>
              simp only [partsLe] at h h' ⊢
              split at h <;> split at h'
              · rename_i hab hbc
                rw [if_pos (hab.trans hbc)]
                exact ih h h'
              · rename_i hab hbc
                subst hab
                rwa [if_neg hbc]
              · rename_i hab hbc
                subst hbc
                rwa [if_neg hab]
              · have hac := String.lt_trans (of_decide_eq_true h) (of_decide_eq_true h')
                rw [if_neg]
                · exact decide_eq_true hac
                · rintro rfl
                  exact String.lt_irrefl _ hac

theorem partsLe_total (as bs : List String) : partsLe as bs || partsLe bs as := by
  induction as generalizing bs with
  | nil => rfl
  | cons a as ih =>
      cases bs with
      | nil => rfl
      | cons b bs =>
          by_cases hab : a = b
          · subst hab
            simpa only [partsLe, if_true] using ih bs
          · simp only [partsLe, if_neg hab, if_neg (Ne.symm hab), Bool.or_eq_true,
              decide_eq_true_eq]
            rcases Std.lt_trichotomy a b with hlt | heq | hlt
            · exact Or.inl hlt
            · exact (hab heq).elim
            · exact Or.inr hlt

theorem le_trans (p q r : Path) (h : p.le q) (h' : q.le r) : p.le r := partsLe_trans h h'

theorem le_total (p q : Path) : p.le q || q.le p := partsLe_total p.components q.components

/-- The path that comes first has no parts if any has none. -/
theorem Beneath.eq_of_le {p q : Path} (hp : p.Beneath) (hq : q.Beneath) (hnil : q.parts = [])
    (h : p.le q) : p = q := by
  have hle : partsLe p.parts q.parts := by
    rwa [le, components, components, if_pos hp.relative, if_pos hq.relative] at h
  exact hp.eq_of_parts_eq hq (partsLe_antisymm hle (by rw [hnil]; rfl))

end Path

namespace StubDirectory

variable {w w' : Workspace} {d d' : Disk} {dir : Path} {f : Path × String} {files : Files}

theorem found_antisymm {names names' : Location} (h : (found dir names).le (found dir names'))
    (h' : (found dir names').le (found dir names)) : found dir names = found dir names' := by
  have hcomponents := Path.partsLe_antisymm h h'
  have hparts : dir.parts ++ names = dir.parts ++ names' := by
    unfold Path.components found at hcomponents
    dsimp only at hcomponents
    split at hcomponents
    · exact hcomponents
    · exact (List.cons.inj hcomponents).2
  rw [found, found, hparts]

/-! ## Looking -/

theorem look_eq (d : Disk) (dir : Path) (f : Path × String) :
    look d dir f = (d.peek (target dir f.1)).bind fun
      | none => .ok none
      | some _ => (d.readText (target dir f.1)).map some := by
  unfold look Disk.exists?
  cases d.peek (target dir f.1) with
  | error e => rfl
  | ok e =>
      cases e with
      | none => rfl
      | some e => cases d.readText (target dir f.1) <;> rfl

/-- What a located file looks like depends on what stands there. -/
theorem look_congr {l : Location} (hd : d.locate (target dir f.1) = .ok l)
    (hd' : d'.locate (target dir f.1) = .ok l) (hat : d'.at? l = d.at? l) :
    look d' dir f = look d dir f := by
  have hread : d'.readText (target dir f.1) = d.readText (target dir f.1) := by
    simp only [Disk.readText, Disk.readBytes, Disk.stat, hd, hd', bind, Except.bind, hat]
  rw [look_eq, look_eq, Disk.peek_of_locate hd, Disk.peek_of_locate hd', hat, hread]

/-- A text is read from something that is no directory. -/
theorem exists_of_look {text : String} (h : look d dir f = .ok (some text)) :
    ∃ l e, d.locate (target dir f.1) = .ok l ∧ d.at? l = some e ∧ e ≠ .directory := by
  have hread := look_some h
  unfold Disk.readText Disk.readBytes Disk.stat at hread
  obtain ⟨bytes, hread, -⟩ := bind_eq_ok_iff.mp hread
  obtain ⟨e, hstat, hbytes⟩ := bind_eq_ok_iff.mp hread
  obtain ⟨l, hlocate, hat⟩ := bind_eq_ok_iff.mp hstat
  split at hat
  · rename_i e' he'
    obtain rfl := Except.ok.inj hat
    refine ⟨l, e', hlocate, he', ?_⟩
    rintro rfl
    exact throw_ne_ok hbytes
  · exact (throw_ne_ok hat).elim

theorem look_ne_ok_of_directory {l : Location} (hlocate : d.locate (target dir f.1) = .ok l)
    (hat : d.at? l = some .directory) (seen : Option String) : look d dir f ≠ .ok seen := by
  intro h
  cases seen with
  | some text =>
      obtain ⟨l', e, hlocate', hat', he⟩ := exists_of_look h
      obtain rfl := Except.ok.inj (hlocate.symm.trans hlocate')
      exact he (Option.some.inj (hat'.symm.trans hat))
  | none =>
      rw [look_eq, Disk.peek_of_locate hlocate, hat] at h
      cases hread : d.readText (target dir f.1) <;> simp [hread, Except.bind, Except.map] at h

/-- A file that has its turn finds what was at its place at the start. -/
theorem look_back {hit : Location → Prop} (h : d.Sound) (hfills : d.Fills hit d')
    (hf : f.1.Beneath) (hne : f.1.parts ≠ []) (hhit : ¬ hit ((d.resolve dir).parts ++ f.1.parts))
    (hshows : d.Shows dir) {seen : Option String} (hlook : look d' dir f = .ok seen) :
    look d dir f = .ok seen := by
  have hresolve := hf.resolve_target d dir
  cases hlocate : d.locate (target dir f.1) with
  | ok l =>
      have hl := (Disk.locate_ok hlocate).2.trans hresolve
      have hlocate' := Disk.locate_mono (fun _ => hfills.directory) hfills.start hlocate
      rcases hfills.at? l with hsame | ⟨-, hmade⟩ | ⟨hhit', -⟩
      · rwa [look_congr hlocate hlocate' hsame] at hlook
      · exact (look_ne_ok_of_directory hlocate' hmade seen hlook).elim
      · exact (hhit (hl ▸ hhit')).elim
  | error e =>
      by_cases he : e = .nameTooLong
      · have hlong := Disk.locate_tooLong_mono (fun _ => hfills.directory) hfills.start
          (he ▸ hlocate)
        rw [look_eq, Disk.peek_of_tooLong hlong] at hlook
        simp [Except.bind] at hlook
      · have hnone : look d dir f = .ok none := by
          rw [look_eq, Disk.peek_of_error hlocate he]
          rfl
        cases seen with
        | none => exact hnone
        | some text =>
            -- What is read now was there at the start, so its path could be located at the start.
            obtain ⟨l, e', hlocate', hat', he'⟩ := exists_of_look hlook
            have hl : l = (d.resolve dir).parts ++ f.1.parts := by
              rw [(Disk.locate_ok hlocate').2, hfills.resolve, hresolve]
            subst hl
            have hat : d.at? ((d.resolve dir).parts ++ f.1.parts) ≠ none := by
              rw [hfills.at?_back hhit hat' he']
              simp
            rcases hshows with hthere | hnothing
            · obtain ⟨root, hroot, -⟩ := Disk.isDirectory_iff.mp hthere
              obtain rfl := (Disk.locate_ok hroot).2
              rw [hf.target] at hlocate hlocate'
              have hfound := Disk.locate_of_at? h hfills.start hroot hlocate' hf.names hat
              rw [hlocate] at hfound
              simp at hfound
            · exact (hat (hnothing f.1.parts hne)).elim

/-! ## Placing -/

/-- A file that was placed can be located, and is no directory. -/
theorem place_fills {flag : Bool} (h : w.disk.Sound) (hf : f.1.Beneath)
    (hplace : (place dir f).perform w = (.ok flag, w')) :
    w.disk.Fills (· = (w.disk.resolve dir).parts ++ f.1.parts) w'.disk ∧
      w'.disk.locate (target dir f.1) = .ok ((w.disk.resolve dir).parts ++ f.1.parts) ∧
      ∃ e, w'.disk.at? ((w.disk.resolve dir).parts ++ f.1.parts) = some e ∧ e ≠ .directory := by
  have hresolve := hf.resolve_target w.disk dir
  rcases place_cases hplace with ⟨-, hlook, rfl⟩ | ⟨-, -, d, hmake, hwrite⟩
  · obtain ⟨l, e, hlocate, hat, he⟩ := exists_of_look hlook
    obtain rfl := (Disk.locate_ok hlocate).2.trans hresolve
    exact ⟨.refl h, hlocate, e, hat, he⟩
  · obtain ⟨hsound, hgrows⟩ := Disk.makeDirectory_ok h hmake
    obtain ⟨hlocate, hfills, hthere⟩ := Disk.writeText_fills hsound hwrite
    rw [Disk.resolve_congr hgrows.start, hresolve] at hlocate hfills hthere
    have hlocate' := Disk.locate_mono (fun _ => hfills.directory) hfills.start hlocate
    exact ⟨(hgrows.fills hsound).trans hfills, hlocate', hthere⟩

/-- Is the file there with its text? -/
def holds (d : Disk) (dir : Path) (f : Path × String) : Bool :=
  match look d dir f with
  | .ok (some text) => text == f.2
  | _ => false

/-- Is there nothing at the place of the file? -/
def lacks (d : Disk) (dir : Path) (f : Path × String) : Bool :=
  match look d dir f with
  | .ok none => true
  | _ => false

theorem holds_iff : holds d dir f ↔ look d dir f = .ok (some f.2) := by
  unfold holds
  split
  · rename_i text hlook
    rw [hlook, beq_iff_eq, Except.ok.injEq, Option.some.injEq]
  · rename_i hlook
    exact ⟨fun h => by simp at h, fun h => (hlook f.2 h).elim⟩

theorem lacks_iff : lacks d dir f ↔ look d dir f = .ok none := by
  unfold lacks
  split
  · rename_i hlook
    simp [hlook]
  · rename_i hlook
    exact ⟨fun h => by simp at h, fun h => (hlook h).elim⟩

/-- What one step of a writing run adds to the lists is told by how the file looks. -/
theorem placeNoting_ok {done done' : Written}
    (h : (placeNoting dir done f).perform w = (.ok done', w')) :
    ∃ flag, (place dir f).perform w = (.ok flag, w') ∧ (∃ seen, look w.disk dir f = .ok seen) ∧
      done' = if holds w.disk dir f
        then { done with unchanged := done.unchanged ++ [target dir f.1] }
        else { done with written := done.written ++ [target dir f.1] } := by
  obtain ⟨flag, w₁, hplace, hnote⟩ := DiskWork.perform_bind_ok.mp h
  rcases place_cases hplace with ⟨rfl, hlook, rfl⟩ | ⟨rfl, ⟨seen, hlook, hseen⟩, -⟩
  · obtain ⟨rfl, rfl⟩ := DiskWork.perform_pure_ok.mp hnote
    exact ⟨false, hplace, ⟨_, hlook⟩, (if_pos (holds_iff.mpr hlook)).symm⟩
  · obtain ⟨rfl, rfl⟩ := DiskWork.perform_pure_ok.mp hnote
    refine ⟨true, hplace, ⟨seen, hlook⟩, (if_neg ?_).symm⟩
    rw [holds_iff, hlook, Except.ok.injEq]
    exact hseen

/-- What becomes of a disk while files are placed at some locations. -/
def Filling (dir : Path) (root : Location) (hit : Location → Prop) (d d' : Disk) : Prop :=
  d.Sound → (d.resolve dir).parts = root → d.Fills hit d'

theorem Filling.refl (dir : Path) (root : Location) (hit : Location → Prop) (d : Disk) :
    Filling dir root hit d d := fun h _ => .refl h

theorem Filling.trans (dir : Path) (root : Location) (hit : Location → Prop) (d₁ d₂ d₃ : Disk)
    (h : Filling dir root hit d₁ d₂) (h' : Filling dir root hit d₂ d₃) :
    Filling dir root hit d₁ d₃ := by
  intro hsound hroot
  have hfirst := h hsound hroot
  exact hfirst.trans (h' hfirst.sound (by rw [hfirst.resolve, hroot]))

/-- Placing a file makes directories and writes the file, as far as it comes. -/
theorem place_leads {root : Location} {hit : Location → Prop} (hf : f.1.Beneath)
    (hhit : hit (root ++ f.1.parts)) : (place dir f).Leads (Filling dir root hit) := by
  have hrefl := Filling.refl dir root hit
  have htrans := Filling.trans dir root hit
  have hput : (putInPlace dir f).Leads (Filling dir root hit) := by
    refine (DiskWork.leads_alters fun d hsound _ => ?_).bind htrans fun _ => ?_
    · obtain ⟨hsound', hgrows⟩ := Disk.makeAll_grows _ _ hsound
      exact hgrows.fills hsound'
    · refine (DiskWork.leads_writes hrefl fun d d' hwrite hsound hroot => ?_).bind htrans fun _ =>
        (DiskWork.leads_note hrefl _ _ _).bind htrans fun _ => DiskWork.leads_pure hrefl _
      obtain ⟨-, hfills, -⟩ := Disk.writeText_fills hsound hwrite
      rw [hf.resolve_target, hroot] at hfills
      exact hfills.mono fun l hl => hl ▸ hhit
  intro w
  rw [perform_place]
  split
  · exact hrefl w.disk
  · split
    · exact hrefl w.disk
    · exact hput w

theorem placeNoting_leads {root : Location} {hit : Location → Prop} (hf : f.1.Beneath)
    (hhit : hit (root ++ f.1.parts)) (done : Written) :
    (placeNoting dir done f).Leads (Filling dir root hit) := by
  refine (place_leads hf hhit).bind (Filling.trans dir root hit) fun flag => ?_
  cases flag <;> exact DiskWork.leads_pure (Filling.refl dir root hit) _

/-- Placing files fills the disk at their places, whether it comes to its end or breaks off. -/
theorem places_lead (dir : Path) (done : Written) (h : w.disk.Sound)
    (hfiles : ∀ f ∈ files, f.1.Beneath) :
    w.disk.Fills (fun l => ∃ f ∈ files, l = (w.disk.resolve dir).parts ++ f.1.parts)
      ((files.foldlM (placeNoting dir) done).perform w).2.disk :=
  DiskWork.Leads.foldlM (Filling.refl dir _ _) (Filling.trans dir _ _)
    (fun f hf done => placeNoting_leads (hfiles f hf) ⟨f, hf, rfl⟩ done) done w h rfl

theorem places_fills {done done' : Written} (h : w.disk.Sound) (hfiles : ∀ f ∈ files, f.1.Beneath)
    (hrun : (files.foldlM (placeNoting dir) done).perform w = (.ok done', w')) :
    w.disk.Fills (fun l => ∃ f ∈ files, l = (w.disk.resolve dir).parts ++ f.1.parts) w'.disk := by
  have hfills := places_lead dir done h hfiles
  rwa [hrun] at hfills

/-- A writing run does with every file what its look at the start calls for. -/
theorem places_look {hit : Location → Prop} {done done' : Written} (h : d.Sound)
    (hfills : d.Fills hit w.disk) (hshows : files = [] ∨ d.Shows dir)
    (hfiles : ∀ f ∈ files, f.1.Beneath) (hnodup : (files.map Prod.fst).Nodup)
    (hsorted : files.Pairwise fun a b => a.1.le b.1)
    (hhit : ∀ f ∈ files, ¬ hit ((d.resolve dir).parts ++ f.1.parts))
    (hstart : w.disk = d ∨ ∀ f ∈ files, f.1.parts ≠ [])
    (hrun : (files.foldlM (placeNoting dir) done).perform w = (.ok done', w')) :
    (∀ f ∈ files, ∃ seen, look d dir f = .ok seen) ∧
      done' = { done with
        written := done.written ++ targets dir (files.filter fun f => !holds d dir f)
        unchanged := done.unchanged ++ targets dir (files.filter (holds d dir)) } := by
  induction files generalizing done w hit with
  | nil =>
      obtain ⟨rfl, rfl⟩ := DiskWork.perform_pure_ok.mp hrun
      simp [targets]
  | cons f files ih =>
      rw [List.foldlM_cons] at hrun
      obtain ⟨done₁, w₁, hstep, hrest⟩ := DiskWork.perform_bind_ok.mp hrun
      obtain ⟨flag, hplace, ⟨seen, hlook⟩, rfl⟩ := placeNoting_ok hstep
      replace hshows := hshows.resolve_left (List.cons_ne_nil f files)
      obtain ⟨hf, hothers⟩ := List.forall_mem_cons.mp hfiles
      obtain ⟨hfresh, hnodup⟩ := List.nodup_cons.mp hnodup
      obtain ⟨hfirst, hsorted⟩ := List.pairwise_cons.mp hsorted
      have hdifferent : ∀ g ∈ files, f.1 ≠ g.1 :=
        fun g hg heq => hfresh (heq ▸ List.mem_map_of_mem hg)
      have hback : look d dir f = .ok seen := by
        rcases hstart with heq | hnames
        · rwa [← heq]
        · exact look_back h hfills hf (hnames f List.mem_cons_self) (hhit f List.mem_cons_self)
            hshows hlook
      have hholds : holds w.disk dir f = holds d dir f := by
        rw [holds, holds, hlook, hback]
      obtain ⟨hfilled, -, -⟩ := place_fills hfills.sound hf hplace
      rw [hfills.resolve] at hfilled
      have hfills' : d.Fills (fun l => hit l ∨ l = (d.resolve dir).parts ++ f.1.parts) w₁.disk :=
        (hfills.mono fun _ => Or.inl).trans (hfilled.mono fun _ => Or.inr)
      obtain ⟨hall, rfl⟩ := ih hfills' (Or.inr hshows) hothers hnodup hsorted
        (by
          rintro g hg (hl | hl)
          · exact hhit g (List.mem_cons_of_mem f hg) hl
          · exact hdifferent g hg
              (hf.eq_of_parts_eq (hothers g hg) (List.append_cancel_left hl).symm))
        (Or.inr fun g hg hnil =>
          -- In order, the path without parts would have come first.
          hdifferent g hg (hf.eq_of_le (hothers g hg) hnil (hfirst g hg)))
        hrest
      refine ⟨List.forall_mem_cons.mpr ⟨⟨seen, hback⟩, hall⟩, ?_⟩
      rw [hholds]
      by_cases hsame : holds d dir f <;> simp [hsame, targets]

/-! ## Comparing -/

theorem compare_ok {v : Verified} {seen : Option String} (h : look d dir f = .ok seen) :
    ∃ v', compare d dir v f = .ok v' ∧
      v'.stale = v.stale ++
        (if !holds d dir f && !lacks d dir f then [target dir f.1] else []) ∧
      v'.missing = v.missing ++ if lacks d dir f then [target dir f.1] else [] := by
  have hholds : holds d dir f = (seen == some f.2) := by
    rw [Bool.eq_iff_iff, holds_iff, h, Except.ok.injEq, beq_iff_eq]
  have hlacks : lacks d dir f = (seen == none) := by
    rw [Bool.eq_iff_iff, lacks_iff, h, Except.ok.injEq, beq_iff_eq]
  rw [hholds, hlacks]
  unfold look at h
  unfold compare
  dsimp only
  obtain ⟨there, hexists, h⟩ := bind_eq_ok_iff.mp h
  rw [hexists]
  cases there with
  | false =>
      obtain rfl := Except.ok.inj h
      exact ⟨_, rfl, by simp⟩
  | true =>
      obtain ⟨text, hread, h⟩ := bind_eq_ok_iff.mp h
      obtain rfl := Except.ok.inj h
      simp only [bind, Except.bind, hread]
      by_cases hsame : text = f.2
      · exact ⟨v, by simp [hsame]; rfl, by simp [hsame]⟩
      · exact ⟨_, by simp [hsame]; rfl, by simp [hsame]⟩

theorem compares_ok {v : Verified} (h : ∀ f ∈ files, ∃ seen, look d dir f = .ok seen) :
    ∃ v', files.foldlM (compare d dir) v = .ok v' ∧
      v'.stale = v.stale ++
        targets dir (files.filter fun f => !holds d dir f && !lacks d dir f) ∧
      v'.missing = v.missing ++ targets dir (files.filter (lacks d dir)) := by
  induction files generalizing v with
  | nil => exact ⟨v, rfl, by simp [targets]⟩
  | cons f files ih =>
      obtain ⟨⟨seen, hlook⟩, hrest⟩ := List.forall_mem_cons.mp h
      obtain ⟨v₁, hcompare, hstale, hmissing⟩ := compare_ok (v := v) hlook
      obtain ⟨v', hrun, hstale', hmissing'⟩ := ih (v := v₁) hrest
      refine ⟨v', ?_, ?_, ?_⟩
      · rw [List.foldlM_cons, hcompare]
        exact hrun
      · rw [hstale', hstale, List.append_assoc, List.filter_cons]
        split <;> simp [targets]
      · rw [hmissing', hmissing, List.append_assoc, List.filter_cons]
        split <;> simp [targets]

/-! ## Obsolete files -/

theorem generatedFiles_sorted (h : d.Sound) {paths : List Path}
    (hfound : generatedFiles d dir = .ok paths) :
    (paths.Pairwise fun p q => p.le q) ∧ paths.Nodup := by
  rw [generatedFiles_eq] at hfound
  obtain ⟨isThere, -, hfound⟩ := bind_eq_ok_iff.mp hfound
  cases isThere with
  | false =>
      obtain rfl := Except.ok.inj hfound
      exact ⟨.nil, .nil⟩
  | true =>
      obtain ⟨l, -, hfound⟩ := bind_eq_ok_iff.mp hfound
      obtain rfl := Except.ok.inj hfound
      refine ⟨List.pairwise_mergeSort Path.le_trans Path.le_total _, ?_⟩
      rw [(List.mergeSort_perm _ _).nodup_iff, List.Nodup, List.pairwise_filterMap]
      refine (h.pairwise_below l).imp ?_
      rintro ⟨names, e⟩ ⟨names', e'⟩ hne p hp q hq rfl
      obtain ⟨-, -, -, -, rfl⟩ := generatedPath?_eq_some_iff.mp hp
      obtain ⟨-, -, -, -, heq⟩ := generatedPath?_eq_some_iff.mp hq
      exact hne (found_injective heq)

theorem obsolete_eq_ok {old : List Path} (h : obsolete d dir files = .ok old) :
    ∃ paths, generatedFiles d dir = .ok paths ∧
      old = paths.filter fun p => !(targets dir files).contains p := by
  unfold obsolete at h
  cases hpaths : generatedFiles d dir with
  | error e => simp [hpaths, Except.map] at h
  | ok paths =>
      rw [hpaths] at h
      exact ⟨paths, rfl, (Except.ok.inj h).symm⟩

theorem obsolete_sorted (h : d.Sound) {old : List Path} (hold : obsolete d dir files = .ok old) :
    (old.Pairwise fun p q => p.le q) ∧ old.Nodup := by
  obtain ⟨paths, hpaths, rfl⟩ := obsolete_eq_ok hold
  obtain ⟨hsorted, hnodup⟩ := generatedFiles_sorted h hpaths
  exact ⟨hsorted.filter _, hnodup.filter _⟩

theorem obsolete_perm (d : Disk) {files others : Files} (h : files.Perm others) :
    obsolete d dir files = obsolete d dir others := by
  have hcontains : ∀ p, (targets dir files).contains p = (targets dir others).contains p := by
    intro p
    rw [Bool.eq_iff_iff, List.contains_iff_mem, List.contains_iff_mem]
    exact (h.map fun f => target dir f.1).mem_iff
  simp only [obsolete, hcontains]

theorem exists_obsolete {there : Bool} (h : d.isDirectory dir = .ok there) (files : Files) :
    ∃ old, obsolete d dir files = .ok old := by
  unfold obsolete
  rw [generatedFiles_eq, h]
  cases there with
  | false => exact ⟨_, rfl⟩
  | true =>
      obtain ⟨l, hlocate, -⟩ := Disk.isDirectory_iff.mp h
      simp only [bind, Except.bind, hlocate]
      exact ⟨_, rfl⟩

theorem obsolete_of_missing (h : d.isDirectory dir = .ok false) (files : Files) :
    obsolete d dir files = .ok [] := by
  rw [obsolete, generatedFiles_eq, h]
  rfl

/-- Below a directory that is shown, what is obsolete is what was generated and has no new file. -/
theorem obsolete_of_shows {old : List Path} (h : d.Sound) (hfiles : ∀ f ∈ files, f.1.Beneath)
    (hshows : d.Shows dir) (hold : obsolete d dir files = .ok old) :
    (∀ path ∈ old, ∃ names, path = found dir names) ∧
      ∀ names, found dir names ∈ old ↔ names ≠ [] ∧ recognises d (d.resolve dir).parts names ∧
        ⟨.relative, names⟩ ∉ files.map Prod.fst := by
  rcases obsolete_ok h hfiles hold with ⟨hnot, rfl⟩ | ⟨hpaths, hmem⟩
  · have hnothing := hshows.resolve_left (by rw [hnot]; simp)
    refine ⟨by simp, fun names => ⟨fun hmem => by simp at hmem, ?_⟩⟩
    rintro ⟨hne, hrecognised, -⟩
    rw [recognises, Disk.fileAt?, hnothing names hne] at hrecognised
    simp at hrecognised
  · refine ⟨fun path hpath => ?_, hmem⟩
    obtain ⟨names, -, -, heq⟩ := hpaths path hpath
    exact ⟨names, heq⟩

/-- Two orderly lists of the same paths below a directory are the same. -/
theorem eq_of_found {paths others : List Path}
    (hpaths : ∀ p ∈ paths, ∃ names, p = found dir names)
    (hothers : ∀ p ∈ others, ∃ names, p = found dir names)
    (hsorted : (paths.Pairwise fun p q => p.le q) ∧ paths.Nodup)
    (hsorted' : (others.Pairwise fun p q => p.le q) ∧ others.Nodup)
    (hsame : ∀ names, found dir names ∈ paths ↔ found dir names ∈ others) : paths = others := by
  have hiff : ∀ p, p ∈ paths ↔ p ∈ others := by
    intro p
    constructor
    · intro hp
      obtain ⟨names, rfl⟩ := hpaths p hp
      exact (hsame names).mp hp
    · intro hp
      obtain ⟨names, rfl⟩ := hothers p hp
      exact (hsame names).mpr hp
  have hperm := (List.perm_ext_iff_of_nodup hsorted.2 hsorted'.2).mpr hiff
  refine hperm.eq_of_pairwise ?_ hsorted.1 hsorted'.1
  intro p q hp hq hpq hqp
  obtain ⟨names, rfl⟩ := hpaths p hp
  obtain ⟨names', rfl⟩ := hothers q hq
  exact found_antisymm hpq hqp

/-- What is found to take away in the end was there at the start. -/
theorem obsolete_back {old : List Path} (h : d.Sound)
    (hfills : d.Fills (fun l => ∃ f ∈ files, l = (d.resolve dir).parts ++ f.1.parts) d')
    (hfiles : ∀ f ∈ files, f.1.Beneath) (hshows : d.Shows dir)
    (hthere : d'.isDirectory dir = .ok true) (hold : obsolete d' dir files = .ok old) :
    obsolete d dir files = .ok old := by
  obtain ⟨before, hbefore⟩ := hfills.exists_isDirectory hthere
  obtain ⟨early, hearly⟩ := exists_obsolete hbefore files
  obtain ⟨hpaths, hmem⟩ := obsolete_of_shows hfills.sound hfiles (Or.inl hthere) hold
  obtain ⟨hpaths', hmem'⟩ := obsolete_of_shows h hfiles hshows hearly
  -- No file of the run was written where a path without a new file leads.
  have hsame : ∀ names, ⟨.relative, names⟩ ∉ files.map Prod.fst →
      recognises d' (d'.resolve dir).parts names = recognises d (d.resolve dir).parts names := by
    intro names hnew
    rw [hfills.resolve]
    apply recognises_congr
    apply hfills.fileAt?
    rintro ⟨f, hf, heq⟩
    rw [List.append_cancel_left heq, ← (hfiles f hf).eq_of_parts] at hnew
    exact hnew (List.mem_map_of_mem hf)
  rw [hearly, eq_of_found hpaths' hpaths (obsolete_sorted h hearly)
    (obsolete_sorted hfills.sound hold)]
  intro names
  rw [hmem, hmem']
  exact and_congr_right fun _ => and_congr_left fun hnew => by rw [hsame names hnew]

theorem discards_noted {paths : List Path} {done done' : Written}
    (h : (paths.foldlM (discardNoting dir) done).perform w = (.ok done', w')) :
    done' = { done with removed := done.removed ++ paths } := by
  induction paths generalizing done w with
  | nil =>
      obtain ⟨rfl, -⟩ := DiskWork.perform_pure_ok.mp h
      simp
  | cons path paths ih =>
      rw [List.foldlM_cons] at h
      obtain ⟨done₁, w₁, hstep, hrest⟩ := DiskWork.perform_bind_ok.mp h
      obtain ⟨_, w₂, -, hnote⟩ := DiskWork.perform_bind_ok.mp hstep
      obtain ⟨rfl, rfl⟩ := DiskWork.perform_pure_ok.mp hnote
      rw [ih hrest]
      simp

/-- After a run with files the directory is there, or a file stands in its place as one did. -/
theorem places_obsolete {done done' : Written} {old : List Path} (h : w.disk.Sound)
    (hne : files ≠ []) (hfiles : ∀ f ∈ files, f.1.Beneath) (hshows : w.disk.Shows dir)
    (hlook : ∀ f ∈ files, ∃ seen, look w.disk dir f = .ok seen)
    (hrun : (files.foldlM (placeNoting dir) done).perform w = (.ok done', w'))
    (hold : obsolete w'.disk dir files = .ok old) : obsolete w.disk dir files = .ok old := by
  have hall := places_fills h hfiles hrun
  obtain ⟨f, files, rfl⟩ := List.exists_cons_of_ne_nil hne
  rw [List.foldlM_cons] at hrun
  obtain ⟨done₁, w₁, hstep, hrest⟩ := DiskWork.perform_bind_ok.mp hrun
  obtain ⟨flag, hplace, -, -⟩ := placeNoting_ok hstep
  obtain ⟨hf, hothers⟩ := List.forall_mem_cons.mp hfiles
  obtain ⟨hfills, hlocate, e, hat, he⟩ := place_fills h hf hplace
  have hlater := places_fills hfills.sound hothers hrest
  rw [hf.target] at hlocate
  by_cases hnil : f.1.parts = []
  · -- The only file is the one in place of the directory.
    have hself : target dir f.1 = dir := by
      rw [hf.target, hnil, List.append_nil]
    have hgone : w'.disk.isDirectory dir ≠ .ok true := by
      intro hthere
      obtain ⟨l, hlocate', hat'⟩ := Disk.isDirectory_iff.mp hthere
      obtain rfl := (Disk.locate_ok hlocate').2
      rw [hnil, List.append_nil] at hat
      rw [hlater.resolve, hfills.resolve] at hat'
      exact hlater.ne_directory hat he hat'
    obtain ⟨seen, hseen⟩ := hlook f List.mem_cons_self
    have hearly : w.disk.isDirectory dir ≠ .ok true := by
      intro hthere
      obtain ⟨l, hlocate', hat'⟩ := Disk.isDirectory_iff.mp hthere
      exact look_ne_ok_of_directory (hself.symm ▸ hlocate') hat' seen hseen
    obtain ⟨paths, hpaths, -⟩ := obsolete_eq_ok hold
    obtain ⟨there, hthere, -⟩ := bind_eq_ok_iff.mp ((generatedFiles_eq _ _).symm.trans hpaths)
    obtain ⟨before, hbefore⟩ := hall.exists_isDirectory hthere
    cases there with
    | true => exact (hgone hthere).elim
    | false =>
        cases before with
        | true => exact (hearly hbefore).elim
        | false => rwa [obsolete_of_missing hbefore, ← obsolete_of_missing hthere]
  · exact obsolete_back h hall hfiles hshows
      (hlater.isDirectory (Disk.isDirectory_of_locate hlocate hnil)) hold

/-! ## Whole runs -/

theorem target_injective {p q : Path} (hp : p.Beneath) (hq : q.Beneath)
    (h : target dir p = target dir q) : p = q := by
  rw [hp.target, hq.target] at h
  exact hp.eq_of_parts_eq hq (List.append_cancel_left (Path.mk.inj h).2)

theorem not_holds_of_lacks (h : lacks d dir f) : !holds d dir f := by
  rw [Bool.not_eq_true', Bool.eq_false_iff, Ne, holds_iff, lacks_iff.mp h]
  simp

theorem perm_written (d : Disk) (dir : Path) (files : Files) :
    (targets dir (files.filter fun f => !holds d dir f && !lacks d dir f) ++
      targets dir (files.filter (lacks d dir))).Perm
        (targets dir (files.filter fun f => !holds d dir f)) := by
  have hlacks : ∀ f, (lacks d dir f && !holds d dir f) = lacks d dir f := by
    intro f
    cases hlack : lacks d dir f with
    | false => rfl
    | true => rw [Bool.true_and, not_holds_of_lacks hlack]
  have hsplit := List.filter_append_perm (fun f => lacks d dir f)
    (files.filter fun f => !holds d dir f)
  rw [List.filter_filter, List.filter_filter] at hsplit
  simp only [hlacks] at hsplit
  rw [targets, targets, targets, ← List.map_append]
  refine (List.perm_append_comm.trans ?_).map _
  simpa only [Bool.and_comm] using hsplit

theorem unchanged_eq (hfiles : ∀ f ∈ files, f.1.Beneath) (hnodup : (files.map Prod.fst).Nodup) :
    targets dir (files.filter (holds d dir)) = (targets dir files).filter
      (· ∉ targets dir (files.filter fun f => !holds d dir f)) := by
  unfold targets
  rw [List.filter_map]
  refine congrArg _ (List.filter_congr fun f hf => ?_)
  rw [Function.comp_apply, Bool.eq_iff_iff, decide_eq_true_eq, List.mem_map]
  constructor
  · rintro hholds ⟨g, hg, heq⟩
    obtain ⟨hg, hchanged⟩ := List.mem_filter.mp hg
    have hkey := target_injective (hfiles g hg) (hfiles f hf) heq
    obtain rfl := List.inj_on_of_nodup_map hnodup hg hf hkey
    simp [hholds] at hchanged
  · intro hnone
    by_contra hholds
    exact hnone ⟨f, List.mem_filter.mpr ⟨hf, by simpa using hholds⟩, rfl⟩

/-- If a writing run comes to its end, checking the disk beforehand tells what the run does: it
writes what is stale or missing, in the order of the paths, leaves the other files alone and takes
away what is obsolete. The path of the directory has to show what stands below it, though: one with
two dots may lead through a directory that only the run makes. -/
theorem write_as_verified {done : Written} (h : w.disk.Sound)
    (hnodup : (files.map Prod.fst).Nodup) (hfiles : ∀ f ∈ files, f.1.Beneath)
    (hshows : files = [] ∨ w.disk.Shows dir)
    (hrun : (write dir files).perform w = (.ok done, w')) :
    ∃ v, verify w.disk dir files = .ok v ∧
      (v.stale ++ v.missing).Perm done.written ∧
      v.stale.Sublist done.written ∧ v.missing.Sublist done.written ∧
      done.written.Sublist (targets dir (Files.sorted files)) ∧
      done.unchanged = (targets dir (Files.sorted files)).filter (· ∉ done.written) ∧
      done.removed = v.obsolete ∧
      (v.isUpToDate ↔ done.written = [] ∧ done.removed = []) := by
  have hperm : (Files.sorted files).Perm files := List.mergeSort_perm _ _
  have hsorted : (Files.sorted files).Pairwise fun a b => a.1.le b.1 :=
    List.pairwise_mergeSort (fun a b c => Path.le_trans a.1 b.1 c.1)
      (fun a b => Path.le_total a.1 b.1) files
  have hfiles' : ∀ f ∈ Files.sorted files, f.1.Beneath :=
    fun f hf => hfiles f (hperm.mem_iff.mp hf)
  have hnodup' : ((Files.sorted files).map Prod.fst).Nodup :=
    (hperm.map Prod.fst).nodup_iff.mpr hnodup
  have hshows' : Files.sorted files = [] ∨ w.disk.Shows dir :=
    hshows.imp_left fun hnil => by rw [hnil] at hperm ⊢; exact hperm.eq_nil
  unfold write at hrun
  obtain ⟨placed, w₁, hplace, hrun⟩ := DiskWork.perform_bind_ok.mp hrun
  obtain ⟨old, w₂, hread, hdiscard⟩ := DiskWork.perform_bind_ok.mp hrun
  obtain ⟨hold, rfl⟩ := DiskWork.perform_reads_ok.mp hread
  have hfills : w.disk.Fills (fun _ => False) w.disk := .refl h
  obtain ⟨hlook, rfl⟩ := places_look h hfills hshows' hfiles' hnodup' hsorted (fun _ _ => id)
    (Or.inl rfl) hplace
  obtain rfl := discards_noted hdiscard
  have hsame : obsolete w.disk dir files = .ok old := by
    by_cases hnil : Files.sorted files = []
    · rw [hnil] at hplace
      obtain ⟨-, rfl⟩ := DiskWork.perform_pure_ok.mp hplace
      exact hold
    · rw [← obsolete_perm _ hperm] at hold ⊢
      exact places_obsolete h hnil hfiles' (hshows'.resolve_left hnil) hlook hplace hold
  obtain ⟨v, hcompare, hstale, hmissing⟩ := compares_ok (v := ⟨[], [], [], []⟩) hlook
  have hmerge := perm_written w.disk dir (Files.sorted files)
  refine ⟨{ v with obsolete := old }, ?_, ?_, ?_, ?_, ?_, ?_, rfl, ?_⟩
  · rw [verify, hcompare, hsame]
    rfl
  · rw [hstale, hmissing]
    exact hmerge
  · rw [hstale]
    exact (List.monotone_filter_right _ fun f hf => (Bool.and_eq_true _ _ ▸ hf).1).map _
  · rw [hmissing]
    exact (List.monotone_filter_right _ fun f hf => not_holds_of_lacks hf).map _
  · exact List.filter_sublist.map _
  · exact unchanged_eq hfiles' hnodup'
  · have hnil : v.stale ++ v.missing = [] ↔
        targets dir ((Files.sorted files).filter fun f => !holds w.disk dir f) = [] := by
      rw [hstale, hmissing]
      exact ⟨fun heq => (heq ▸ hmerge).nil_eq.symm, fun heq => (heq ▸ hmerge).eq_nil⟩
    rw [List.append_eq_nil_iff] at hnil
    simp only [Verified.isUpToDate, Bool.and_eq_true, List.isEmpty_iff, List.nil_append, hnil]

/-- A file to take over, one that is there as it is generated, and a new one. -/
def refreshed : Files :=
  [(⟨.relative, ["hand.pyi"]⟩, plainStub), (⟨.relative, ["kept.pyi"]⟩, "#\n"),
    (⟨.relative, ["pkg", "page.pyi"]⟩, plainStub)]

theorem write_as_verified_of_mixed :
    mixed.disk.Sound ∧ (refreshed.map Prod.fst).Nodup ∧ (∀ f ∈ refreshed, f.1.Beneath) ∧
      mixed.disk.Shows outDirectory ∧
      ∃ v, verify mixed.disk outDirectory refreshed = .ok v ∧
        (v.stale ++ v.missing).Perm
          [⟨.relative, ["out", "hand.pyi"]⟩, ⟨.relative, ["out", "pkg", "page.pyi"]⟩] ∧
        v.obsolete = [⟨.relative, ["out", "pkg", "old.pyi"]⟩] := by
  have hsound : mixed.disk.Sound := ⟨by decide +kernel, by decide +kernel, by decide +kernel⟩
  have hnodup : (refreshed.map Prod.fst).Nodup := by decide
  have hfiles : ∀ f ∈ refreshed, f.1.Beneath := by
    simp only [refreshed, List.forall_mem_cons]
    exact ⟨⟨rfl, by decide⟩, ⟨rfl, by decide⟩, ⟨rfl, by decide⟩, by simp⟩
  have hshows : mixed.disk.Shows outDirectory := by
    exact Or.inl (Disk.isDirectory_iff.mpr ⟨["work", "out"], by rfl, by decide +kernel⟩)
  have hdone : ((writeInOrder outDirectory refreshed).perform mixed).1.toOption.map
      (fun done => (done.written, done.removed)) =
        some ([⟨.relative, ["out", "hand.pyi"]⟩, ⟨.relative, ["out", "pkg", "page.pyi"]⟩],
          [⟨.relative, ["out", "pkg", "old.pyi"]⟩]) := by
    decide +kernel
  rcases hperform : (writeInOrder outDirectory refreshed).perform mixed with ⟨e | done, w'⟩
  · rw [hperform] at hdone
    simp [Except.toOption] at hdone
  · rw [hperform] at hdone
    obtain ⟨hwritten, hremoved⟩ := Prod.mk.inj (Option.some.inj hdone)
    obtain ⟨v, hverify, hmerge, -, -, -, -, hobsolete, -⟩ := write_as_verified hsound hnodup hfiles
      (Or.inr hshows) (perform_write_of_inOrder hperform)
    exact ⟨hsound, hnodup, hfiles, hshows, v, hverify, hwritten ▸ hmerge,
      hobsolete.symm.trans hremoved⟩

end StubDirectory

end TypeStubs
