import TypeStubs.Proofs.Clearing
import TypeStubs.Proofs.Recognition

/-!
# An output directory has no memory

After a run that writes files into a directory, the generated files in it are those of the run:
earlier ones are gone, and files of other origin are as they were.
-/

namespace TypeStubs

open StubDirectory

/-- A file as it is generated: named like a stub file below the directory it is for, with the header
for its first line. -/
structure Fits (f : Path × String) : Prop where
  relative : f.1.anchor = .relative
  names : ".." ∉ f.1.parts
  stub : isStubName f.1.parts
  line : f.2.toList.takeWhile (· ≠ '\n') = header.toList
  noReturn : '\r' ∉ f.2.toList

/-- A path that leads from a directory to a place below it, or to the directory itself. -/
structure Path.Beneath (p : Path) : Prop where
  relative : p.anchor = .relative
  names : ".." ∉ p.parts

/-- Files as they are generated, each with a path of its own. -/
structure Files.Generated (files : Files) : Prop where
  nodup : (files.map Prod.fst).Nodup
  fits : ∀ f ∈ files, Fits f

namespace Fits

variable {f : Path × String}

theorem ne_nil (h : Fits f) : f.1.parts ≠ [] := by
  intro hnil
  have hstub := h.stub
  rw [hnil] at hstub
  simp [isStubName] at hstub

theorem ne_empty (h : Fits f) : f.2 ≠ "" := by
  intro hempty
  have hline := h.line
  rw [hempty] at hline
  exact absurd hline (by decide +kernel)

theorem beneath (h : Fits f) : f.1.Beneath := ⟨h.relative, h.names⟩

end Fits

namespace Path.Beneath

variable {p : Path}

theorem eq_of_parts (h : p.Beneath) : p = ⟨.relative, p.parts⟩ := by
  rw [← h.relative]

theorem eq_of_parts_eq {q : Path} (h : p.Beneath) (hq : q.Beneath) (heq : p.parts = q.parts) :
    p = q := by
  rw [h.eq_of_parts, hq.eq_of_parts, heq]

theorem target (h : p.Beneath) (dir : Path) :
    target dir p = ⟨dir.anchor, dir.parts ++ p.parts⟩ := by
  rw [StubDirectory.target, Path.join, if_pos h.relative]

theorem resolve_target (h : p.Beneath) (d : Disk) (dir : Path) :
    (d.resolve (StubDirectory.target dir p)).parts = (d.resolve dir).parts ++ p.parts := by
  rw [h.target]
  exact (d.resolve_append dir.anchor dir.parts h.names).1

end Path.Beneath

namespace StubDirectory

variable {w w' : Workspace} {dir : Path} {f : Path × String}

/-! ## Placing -/

/-- The text at the place of a file, if anything is there. -/
def look (d : Disk) (dir : Path) (f : Path × String) : Except Fault (Option String) := do
  if ← d.exists? (target dir f.1) then return some (← d.readText (target dir f.1))
  else return none

/-- Makes the directory of a file and writes the file. -/
def putInPlace (dir : Path) (f : Path × String) : DiskWork Bool := do
  DiskWork.alters (·.makeDirectories (target dir f.1).parent)
  DiskWork.writes (·.writeText (target dir f.1) f.2)
  DiskWork.note .debug logger ("Wrote " ++ (target dir f.1).text)
  return true

/-- What placing a file does is told by how the file looks. -/
theorem perform_place (dir : Path) (f : Path × String) (w : Workspace) :
    (place dir f).perform w =
      match look w.disk dir f with
      | .error e => (.error e, w)
      | .ok seen => if seen = some f.2 then (.ok false, w) else (putInPlace dir f).perform w := by
  unfold place look
  rw [DiskWork.perform_bind, DiskWork.perform_reads]
  cases w.disk.exists? (target dir f.1) with
  | error e => rfl
  | ok there =>
      cases there with
      | false => rfl
      | true =>
          dsimp only
          rw [if_pos rfl, DiskWork.perform_bind, DiskWork.perform_reads]
          cases w.disk.readText (target dir f.1) with
          | error e => rfl
          | ok text =>
              change (if (text == f.2) = true then pure false else putInPlace dir f :
                DiskWork Bool).perform w = if some text = some f.2 then _ else _
              by_cases hsame : text = f.2
              · rw [if_pos (beq_iff_eq.mpr hsame), if_pos (congrArg some hsame)]
                rfl
              · rw [if_neg (mt beq_iff_eq.mp hsame), if_neg (mt Option.some.inj hsame)]

theorem putInPlace_ok {flag : Bool} (h : (putInPlace dir f).perform w = (.ok flag, w')) :
    flag = true ∧ ∃ d, w.disk.makeDirectory (target dir f.1).parent = .ok d ∧
      d.writeText (target dir f.1) f.2 = .ok w'.disk := by
  unfold putInPlace at h
  obtain ⟨_, w₁, hmake, h⟩ := DiskWork.perform_bind_ok.mp h
  obtain ⟨d, hd, rfl⟩ := DiskWork.perform_alters_ok.mp hmake
  obtain ⟨_, w₂, hwrite, h⟩ := DiskWork.perform_bind_ok.mp h
  obtain ⟨d', hd', rfl⟩ := DiskWork.perform_writes_ok.mp hwrite
  obtain ⟨_, w₃, hnote, h⟩ := DiskWork.perform_bind_ok.mp h
  obtain ⟨hflag, rfl⟩ := DiskWork.perform_pure_ok.mp h
  refine ⟨hflag.symm, d, Disk.makeDirectory_eq_ok_iff.mpr hd, ?_⟩
  rw [DiskWork.perform_note_ok hnote]
  exact hd'

/-- A file that is placed was there with its text, or is written into a directory that is made. -/
theorem place_cases {flag : Bool} (h : (place dir f).perform w = (.ok flag, w')) :
    (flag = false ∧ look w.disk dir f = .ok (some f.2) ∧ w' = w) ∨
      (flag = true ∧ (∃ seen, look w.disk dir f = .ok seen ∧ seen ≠ some f.2) ∧
        ∃ d, w.disk.makeDirectory (target dir f.1).parent = .ok d ∧
          d.writeText (target dir f.1) f.2 = .ok w'.disk) := by
  rw [perform_place] at h
  cases hlook : look w.disk dir f with
  | error e => simp [hlook] at h
  | ok seen =>
      rw [hlook] at h
      dsimp only at h
      split at h
      · rename_i hsame
        obtain ⟨hflag, rfl⟩ := Prod.mk.inj h
        exact Or.inl ⟨(Except.ok.inj hflag).symm, hsame ▸ rfl, rfl⟩
      · rename_i hdiffer
        obtain ⟨hflag, hput⟩ := putInPlace_ok h
        exact Or.inr ⟨hflag, ⟨seen, rfl, hdiffer⟩, hput⟩

theorem look_some {d : Disk} {text : String} (h : look d dir f = .ok (some text)) :
    d.readText (target dir f.1) = .ok text := by
  obtain ⟨there, -, h⟩ := bind_eq_ok_iff.mp h
  cases there with
  | false => simp [pure, Except.pure] at h
  | true =>
      obtain ⟨text', hread, h⟩ := bind_eq_ok_iff.mp h
      rw [hread, Option.some.inj (Except.ok.inj h)]

/-- What stands below a directory after some of its files were placed. -/
theorem place_ok {flag : Bool} (h : w.disk.Sound) (hf : Fits f)
    (hdevice : w.disk.at? ((w.disk.resolve dir).parts ++ f.1.parts) ≠ some .device)
    (hplace : (place dir f).perform w = (.ok flag, w')) :
    w.disk.Keeps (fun _ => True) w'.disk ∧ w'.disk.isDirectory dir = .ok true ∧
      ∃ bytes, Disk.decodeText bytes = .ok f.2 ∧ ∀ l, w'.disk.fileAt? l =
        if l = (w.disk.resolve dir).parts ++ f.1.parts then some bytes else w.disk.fileAt? l := by
  have hresolve := hf.beneath.resolve_target w.disk dir
  rcases place_cases hplace with ⟨-, hlook, rfl⟩ | ⟨-, -, d, hmake, hwrite⟩
  · obtain ⟨bytes, hlocate, hfile, htext⟩ := Disk.readText_ok (look_some hlook) hf.ne_empty
    rw [hf.beneath.target] at hlocate
    rw [hresolve] at hfile
    refine ⟨.refl h, Disk.isDirectory_of_locate hlocate hf.ne_nil, bytes, htext, fun l => ?_⟩
    by_cases hl : l = (w'.disk.resolve dir).parts ++ f.1.parts
    · rw [if_pos hl, hl, hfile]
    · rw [if_neg hl]
  · obtain ⟨hsound, hgrows⟩ := Disk.makeDirectory_ok h hmake
    have hresolve' : (d.resolve (target dir f.1)).parts =
        (w.disk.resolve dir).parts ++ f.1.parts := by
      rw [Disk.resolve_congr hgrows.start, hresolve]
    have hmade : w.disk.Keeps (fun _ => True) d := hgrows.keeps hsound
    have hdevice' : d.at? (d.resolve (target dir f.1)).parts ≠ some .device := by
      rw [hresolve']
      exact fun hat => hdevice (hmade.device _ hat)
    obtain ⟨hlocate, hne, hdirectory, hsound', hput⟩ := Disk.writeText_ok hsound hwrite hdevice'
    have hkeeps : d.Keeps (fun _ => True) w'.disk :=
      hput ▸ Disk.keeps_put (hput ▸ hsound') hne hdirectory
    have hlocate' := Disk.locate_mono (fun m => hkeeps.directory m trivial) hkeeps.start hlocate
    rw [hf.beneath.target] at hlocate'
    refine ⟨hmade.trans hkeeps, Disk.isDirectory_of_locate hlocate' hf.ne_nil,
      Text.Utf8.encode f.2.toList, decodeText_encode hf.noReturn, fun l => ?_⟩
    rw [hput, Disk.fileAt?_put hne, hresolve', hgrows.fileAt?]

/-! ## Whole runs -/

/-- Does a generated file stand below the root? -/
def recognises (d : Disk) (root names : Location) : Bool :=
  isStubName names && (d.fileAt? (root ++ names)).any isGenerated

/-- The path of an entry below a directory, if it is a generated file. -/
def generatedPath? (dir : Path) (p : Location × Entry) : Option Path :=
  match p.2 with
  | .file bytes => if isStubName p.1 && isGenerated bytes then some (found dir p.1) else none
  | _ => none

theorem generatedPath?_eq_some_iff {names : Location} {e : Entry} {path : Path} :
    generatedPath? dir (names, e) = some path ↔ ∃ bytes, e = .file bytes ∧ isStubName names ∧
      isGenerated bytes ∧ path = found dir names := by
  unfold generatedPath?
  cases e with
  | directory => simp
  | device => simp
  | file bytes =>
      dsimp only
      rw [Option.ite_none_right_eq_some, Bool.and_eq_true, Option.some.injEq]
      constructor
      · rintro ⟨⟨hstub, hgenerated⟩, heq⟩
        exact ⟨bytes, rfl, hstub, hgenerated, heq.symm⟩
      · rintro ⟨bytes', heq, hstub, hgenerated, rfl⟩
        obtain rfl := Entry.file.inj heq
        exact ⟨⟨hstub, hgenerated⟩, rfl⟩

theorem generatedFiles_eq (d : Disk) (dir : Path) : generatedFiles d dir = do
    if !(← d.isDirectory dir) then return []
    let l ← d.locate dir
    return ((d.below l).filterMap (generatedPath? dir)).mergeSort Path.le := rfl

theorem generatedFiles_ok {d : Disk} (h : d.Sound) {paths : List Path}
    (hfound : generatedFiles d dir = .ok paths) :
    (d.isDirectory dir = .ok false ∧ paths = []) ∨
      (d.isDirectory dir = .ok true ∧ ∀ path, path ∈ paths ↔
        ∃ names, names ≠ [] ∧ recognises d (d.resolve dir).parts names ∧
          path = found dir names) := by
  rw [generatedFiles_eq] at hfound
  obtain ⟨isThere, hthere, hfound⟩ := bind_eq_ok_iff.mp hfound
  cases isThere with
  | false => exact Or.inl ⟨hthere, (Except.ok.inj hfound).symm⟩
  | true =>
      refine Or.inr ⟨hthere, fun path => ?_⟩
      obtain ⟨l, hlocate, hfound⟩ := bind_eq_ok_iff.mp hfound
      obtain rfl := (Disk.locate_ok hlocate).2
      obtain rfl := Except.ok.inj hfound
      rw [List.mem_mergeSort, List.mem_filterMap]
      constructor
      · rintro ⟨⟨names, e⟩, hmem, hsome⟩
        obtain ⟨hentry, hne⟩ := Disk.mem_below.mp hmem
        obtain ⟨bytes, rfl, hstub, hgenerated, rfl⟩ := generatedPath?_eq_some_iff.mp hsome
        have hfile := Disk.fileAt?_eq_some_iff.mpr (h.mem_entries_iff.mp hentry).2
        refine ⟨names, hne, ?_, rfl⟩
        rw [recognises, hfile, hstub, Option.any_some, hgenerated]
        rfl
      · rintro ⟨names, hne, hrecognised, rfl⟩
        rw [recognises, Bool.and_eq_true, Option.any_eq_true] at hrecognised
        obtain ⟨hstub, bytes, hfile, hgenerated⟩ := hrecognised
        have hentry : ((d.resolve dir).parts ++ names, Entry.file bytes) ∈ d.entries :=
          h.mem_entries_iff.mpr ⟨by simp [hne], Disk.fileAt?_eq_some_iff.mp hfile⟩
        exact ⟨(names, .file bytes), Disk.mem_below.mpr ⟨hentry, hne⟩,
          generatedPath?_eq_some_iff.mpr ⟨bytes, rfl, hstub, hgenerated, rfl⟩⟩

theorem found_mem_targets {files : Files} (hfiles : ∀ f ∈ files, f.1.Beneath) {names : Location} :
    found dir names ∈ targets dir files ↔ ⟨.relative, names⟩ ∈ files.map Prod.fst := by
  rw [targets, List.mem_map, List.mem_map]
  constructor
  · rintro ⟨f, hf, heq⟩
    rw [(hfiles f hf).target] at heq
    exact ⟨f, hf, by rw [(hfiles f hf).eq_of_parts, found_injective heq]⟩
  · rintro ⟨f, hf, heq⟩
    refine ⟨f, hf, ?_⟩
    rw [(hfiles f hf).target, heq]
    rfl

theorem exists_file_of_recognises {d : Disk} {root names : Location}
    (hrecognised : recognises d root names) :
    ∃ bytes, d.at? (root ++ names) = some (.file bytes) := by
  rw [recognises, Bool.and_eq_true, Option.any_eq_true] at hrecognised
  obtain ⟨-, bytes, hfile, -⟩ := hrecognised
  exact ⟨bytes, Disk.fileAt?_eq_some_iff.mp hfile⟩

theorem notMem_of_recognises {d : Disk} (h : d.Sound) {root names : Location}
    (hrecognised : recognises d root names) : ".." ∉ names := by
  obtain ⟨bytes, hat⟩ := exists_file_of_recognises hrecognised
  exact fun hmem => h.notMem_of_at? (by rw [hat]; simp) (List.mem_append_right root hmem)

/-- The files to take away are the recognised ones that are none of the given files. -/
theorem obsolete_ok {d : Disk} (h : d.Sound) {files : Files} (hfiles : ∀ f ∈ files, f.1.Beneath)
    {old : List Path} (hold : obsolete d dir files = .ok old) :
    (d.isDirectory dir = .ok false ∧ old = []) ∨
      ((∀ path ∈ old, ∃ names, names ≠ [] ∧ ".." ∉ names ∧ path = found dir names) ∧
        ∀ names, found dir names ∈ old ↔ names ≠ [] ∧
          recognises d (d.resolve dir).parts names ∧
            ⟨.relative, names⟩ ∉ files.map Prod.fst) := by
  unfold obsolete at hold
  cases hpaths : generatedFiles d dir with
  | error e => simp [hpaths, Except.map] at hold
  | ok paths =>
      rw [hpaths] at hold
      obtain rfl := Except.ok.inj hold
      rcases generatedFiles_ok h hpaths with ⟨hnot, rfl⟩ | ⟨-, hmem⟩
      · exact Or.inl ⟨hnot, rfl⟩
      · refine Or.inr ⟨fun path hpath => ?_, fun names => ?_⟩
        · obtain ⟨names, hne, hrecognised, rfl⟩ := (hmem path).mp (List.mem_of_mem_filter hpath)
          exact ⟨names, hne, notMem_of_recognises h hrecognised, rfl⟩
        · rw [List.mem_filter, hmem, ← found_mem_targets hfiles]
          constructor
          · rintro ⟨⟨names', hne, hrecognised, heq⟩, hnew⟩
            obtain rfl := found_injective heq
            exact ⟨hne, hrecognised, by simpa using hnew⟩
          · rintro ⟨hne, hrecognised, hnew⟩
            exact ⟨⟨names, hne, hrecognised, rfl⟩, by simpa using hnew⟩

/-- Files that are found below a directory are gone, all others are as they were. -/
theorem discards_ok {paths : List Path} {done done' : Written} (h : w.disk.Sound)
    (hpaths : ∀ path ∈ paths, ∃ names, names ≠ [] ∧ ".." ∉ names ∧ path = found dir names)
    (hrun : (paths.foldlM (discardNoting dir) done).perform w = (.ok done', w')) :
    w.disk.Keeps (fun l => ¬ Disk.IsBelow (w.disk.resolve dir).parts l) w'.disk ∧
      (∀ names, w'.disk.fileAt? ((w.disk.resolve dir).parts ++ names) =
        if found dir names ∈ paths then none
        else w.disk.fileAt? ((w.disk.resolve dir).parts ++ names)) := by
  obtain ⟨-, hdone⟩ := discards_cleared done rfl hpaths (.refl h)
  rw [hrun] at hdone
  have hcleared := hdone done' rfl
  simp only [false_or] at hcleared
  have hbelow : ∀ l, (∃ names, found dir names ∈ paths ∧ l = (w.disk.resolve dir).parts ++ names) →
      Disk.IsBelow (w.disk.resolve dir).parts l := by
    rintro l ⟨names, hmem, rfl⟩
    obtain ⟨names', hne, -, heq⟩ := hpaths _ hmem
    exact ⟨names, found_injective heq ▸ hne, rfl⟩
  refine ⟨hcleared.keeps hbelow, fun names => ?_⟩
  split
  · rename_i hmem
    rw [Disk.fileAt?, hcleared.absent _ ⟨names, hmem, rfl⟩]
  · rename_i hmem
    refine hcleared.fileAt? ?_
    rintro ⟨names', hmem', heq⟩
    exact hmem (List.append_cancel_left heq ▸ hmem')

/-- Files that are placed are there with their texts, all others are as they were. -/
theorem places_ok {files : Files} {done done' : Written} (h : w.disk.Sound)
    (hfiles : files.Generated)
    (hdevice : ∀ f ∈ files, w.disk.at? ((w.disk.resolve dir).parts ++ f.1.parts) ≠ some .device)
    (hrun : (files.foldlM (placeNoting dir) done).perform w = (.ok done', w')) :
    w.disk.Keeps (fun _ => True) w'.disk ∧
      (files ≠ [] → w'.disk.isDirectory dir = .ok true) ∧
      (∀ f ∈ files, ∃ bytes, Disk.decodeText bytes = .ok f.2 ∧
        w'.disk.fileAt? ((w.disk.resolve dir).parts ++ f.1.parts) = some bytes) ∧
      ∀ l, (∀ f ∈ files, l ≠ (w.disk.resolve dir).parts ++ f.1.parts) →
        w'.disk.fileAt? l = w.disk.fileAt? l := by
  induction files generalizing done w with
  | nil =>
      obtain ⟨-, rfl⟩ := DiskWork.perform_pure_ok.mp hrun
      exact ⟨.refl h, fun hne => (hne rfl).elim, by simp, fun l _ => rfl⟩
  | cons f files ih =>
      rw [List.foldlM_cons] at hrun
      obtain ⟨done₁, w₁, hstep, hrest⟩ := DiskWork.perform_bind_ok.mp hrun
      obtain ⟨flag, w₂, hplace, hnote⟩ := DiskWork.perform_bind_ok.mp hstep
      obtain rfl : w₂ = w₁ := by
        split at hnote
        · exact (DiskWork.perform_pure_ok.mp hnote).2
        · exact (DiskWork.perform_pure_ok.mp hnote).2
      obtain ⟨hfresh, hnodup⟩ := List.nodup_cons.mp hfiles.nodup
      have hfits := hfiles.fits f List.mem_cons_self
      obtain ⟨hkeeps, hthere, bytes, htext, hplaced⟩ :=
        place_ok h hfits (hdevice f List.mem_cons_self) hplace
      have hdevice' : ∀ g ∈ files,
          w₂.disk.at? ((w₂.disk.resolve dir).parts ++ g.1.parts) ≠ some .device := by
        intro g hg hat
        rw [hkeeps.resolve dir] at hat
        exact hdevice g (List.mem_cons_of_mem f hg) (hkeeps.device _ hat)
      obtain ⟨hkeeps', hthere', hplaced', hothers⟩ := ih hkeeps.sound
        ⟨hnodup, fun g hg => hfiles.fits g (List.mem_cons_of_mem f hg)⟩ hdevice' hrest
      rw [hkeeps.resolve dir] at hplaced' hothers
      refine ⟨hkeeps.trans hkeeps', fun _ => ?_, ?_, fun l hl => ?_⟩
      · by_cases hnil : files = []
        · subst hnil
          obtain ⟨-, rfl⟩ := DiskWork.perform_pure_ok.mp hrest
          exact hthere
        · exact hthere' hnil
      · intro g hg
        rcases List.mem_cons.mp hg with rfl | hg
        · refine ⟨bytes, htext, ?_⟩
          rw [hothers, hplaced, if_pos rfl]
          intro k hk heq
          have hk' := (hfiles.fits k (List.mem_cons_of_mem g hk)).beneath
          have hpath : g.1 = k.1 := hfits.beneath.eq_of_parts_eq hk' (List.append_cancel_left heq)
          exact hfresh (hpath ▸ List.mem_map_of_mem hk)
        · exact hplaced' g hg
      · rw [hothers l fun g hg => hl g (List.mem_cons_of_mem f hg), hplaced,
          if_neg (hl f List.mem_cons_self)]

/-- What a run leaves below a directory: its own files, and those of other origin as they were. -/
def Settles (files : Files) (root : Location) (d d' : Disk) : Prop :=
  (∀ f ∈ files, ∃ bytes, Disk.decodeText bytes = .ok f.2 ∧
    d'.fileAt? (root ++ f.1.parts) = some bytes) ∧
  ∀ names, names ≠ [] → ⟨.relative, names⟩ ∉ files.map Prod.fst →
    d'.fileAt? (root ++ names) =
      if recognises d root names then none else d.fileAt? (root ++ names)

/-- A run leaves its files and no other generated ones, unless it has no files at all and does not
find the directory. -/
theorem write_ok {files : Files} {done : Written} (h : w.disk.Sound) (hfiles : files.Generated)
    (hdevice : ∀ f ∈ files, w.disk.at? ((w.disk.resolve dir).parts ++ f.1.parts) ≠ some .device)
    (hrun : (write dir files).perform w = (.ok done, w')) :
    w.disk.Keeps (fun l => ¬ Disk.IsBelow (w.disk.resolve dir).parts l) w'.disk ∧
      (Settles files (w.disk.resolve dir).parts w.disk w'.disk ∨
        (files = [] ∧ w'.disk = w.disk ∧ w.disk.isDirectory dir = .ok false)) := by
  have hsorted : (Files.sorted files).Perm files := List.mergeSort_perm _ _
  unfold write at hrun
  obtain ⟨done₁, w₁, hplace, hrun⟩ := DiskWork.perform_bind_ok.mp hrun
  obtain ⟨old, w₂, hold, hdiscard⟩ := DiskWork.perform_bind_ok.mp hrun
  obtain ⟨hobsolete, rfl⟩ := DiskWork.perform_reads_ok.mp hold
  have hgenerated : (Files.sorted files).Generated :=
    ⟨(hsorted.map Prod.fst).nodup_iff.mpr hfiles.nodup,
      fun f hf => hfiles.fits f (hsorted.mem_iff.mp hf)⟩
  obtain ⟨hkeeps, hthere, hplaced, hothers⟩ := places_ok h hgenerated
    (fun f hf => hdevice f (hsorted.mem_iff.mp hf)) hplace
  have hkeeps' : w.disk.Keeps (fun l => ¬ Disk.IsBelow (w.disk.resolve dir).parts l) w₁.disk :=
    hkeeps.mono fun _ _ => trivial
  rcases obsolete_ok hkeeps.sound (fun f hf => (hfiles.fits f hf).beneath) hobsolete with
    ⟨hnot, rfl⟩ | ⟨hpaths, hold'⟩
  · have hnil : Files.sorted files = [] := by
      by_contra hne
      have hsome := hthere hne
      rw [hnot] at hsome
      simp at hsome
    rw [hnil] at hplace
    obtain ⟨-, rfl⟩ := DiskWork.perform_pure_ok.mp hplace
    obtain ⟨-, rfl⟩ := DiskWork.perform_pure_ok.mp hdiscard
    rw [hnil] at hsorted
    exact ⟨.refl h, Or.inr ⟨hsorted.nil_eq.symm, rfl, hnot⟩⟩
  · obtain ⟨hkeeps'', hgone⟩ := discards_ok hkeeps.sound hpaths hdiscard
    rw [hkeeps.resolve dir] at hkeeps'' hgone hold'
    refine ⟨hkeeps'.trans hkeeps'', Or.inl ⟨fun f hf => ?_, fun names hne hnew => ?_⟩⟩
    · obtain ⟨bytes, htext, hfile⟩ := hplaced f (hsorted.mem_iff.mpr hf)
      refine ⟨bytes, htext, ?_⟩
      rw [hgone, if_neg, hfile]
      intro hmem
      have hkey := ((hold' f.1.parts).mp hmem).2.2
      rw [← (hfiles.fits f hf).beneath.eq_of_parts] at hkey
      exact hkey (List.mem_map_of_mem hf)
    · have hsame : w₁.disk.fileAt? ((w.disk.resolve dir).parts ++ names) =
          w.disk.fileAt? ((w.disk.resolve dir).parts ++ names) := by
        apply hothers
        intro g hg heq
        have hmem := hsorted.mem_iff.mp hg
        apply hnew
        rw [List.append_cancel_left heq, ← (hfiles.fits g hmem).beneath.eq_of_parts]
        exact List.mem_map_of_mem hmem
      have hrecognised : recognises w₁.disk (w.disk.resolve dir).parts names =
          recognises w.disk (w.disk.resolve dir).parts names := by
        rw [recognises, recognises, hsame]
      rw [hgone, hsame]
      simp only [hold', hne, hnew, hrecognised, not_false_iff, ne_eq, true_and, and_true]

end StubDirectory

end TypeStubs
