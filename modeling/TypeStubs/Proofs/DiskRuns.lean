import TypeStubs.Disk.StubDirectory
import TypeStubs.Proofs.Locating

/-!
# Work on a disk

What work that comes to an end has done. Between two states of a disk, what stays is told by the
directories that are kept.
-/

namespace TypeStubs

namespace DiskWork

variable {α β : Type} {w w' : Workspace}

/-- The outcome of work, and the workspace as the work left it. -/
def perform (work : DiskWork α) (w : Workspace) : Except Fault α × Workspace := work.run.run w

theorem perform_bind (work : DiskWork α) (next : α → DiskWork β) (w : Workspace) :
    (work >>= next).perform w =
      match work.perform w with
      | (.ok x, w) => (next x).perform w
      | (.error e, w) => (.error e, w) := by
  unfold perform
  rw [ExceptT.run_bind, StateT.run_bind]
  rcases work.run.run w with ⟨e | x, w⟩ <;> rfl

theorem perform_bind_ok {work : DiskWork α} {next : α → DiskWork β} {y : β} :
    (work >>= next).perform w = (.ok y, w') ↔
      ∃ x w₁, work.perform w = (.ok x, w₁) ∧ (next x).perform w₁ = (.ok y, w') := by
  rw [perform_bind]
  rcases work.perform w with ⟨e | x, w₁⟩
  · simp
  · simp

theorem perform_pure_ok {x y : α} :
    (pure x : DiskWork α).perform w = (.ok y, w') ↔ x = y ∧ w = w' := by
  change ((Except.ok x, w) : Except Fault α × Workspace) = _ ↔ _
  rw [Prod.mk.injEq, Except.ok.injEq]

theorem perform_reads_ok {f : Disk → Except Fault α} {x : α} :
    (reads f).perform w = (.ok x, w') ↔ f w.disk = .ok x ∧ w = w' := by
  change ((f w.disk, w) : Except Fault α × Workspace) = _ ↔ _
  rw [Prod.mk.injEq]

theorem perform_disk (w : Workspace) : disk.perform w = (.ok w.disk, w) := rfl

theorem perform_reads (f : Disk → Except Fault α) (w : Workspace) :
    (reads f).perform w = (f w.disk, w) := rfl

theorem perform_writes (f : Disk → Except Fault Disk) (w : Workspace) :
    (writes f).perform w =
      match f w.disk with
      | .ok d => (.ok (), { w with disk := d })
      | .error e => (.error e, w) := by
  unfold writes
  rw [perform_bind, perform_reads]
  cases f w.disk <;> rfl

theorem perform_writes_ok {f : Disk → Except Fault Disk} {x : Unit} :
    (writes f).perform w = (.ok x, w') ↔ ∃ d, f w.disk = .ok d ∧ w' = { w with disk := d } := by
  unfold writes
  rw [perform_bind_ok]
  constructor
  · rintro ⟨d, w₁, hreads, hmodify⟩
    obtain ⟨hd, rfl⟩ := perform_reads_ok.mp hreads
    exact ⟨d, hd, (Prod.mk.inj hmodify).2.symm⟩
  · rintro ⟨d, hd, rfl⟩
    exact ⟨d, w, perform_reads_ok.mpr ⟨hd, rfl⟩, rfl⟩

theorem perform_alters_ok {f : Disk → Except Fault Unit × Disk} {x : Unit} :
    (alters f).perform w = (.ok x, w') ↔
      ∃ d, f w.disk = (.ok (), d) ∧ w' = { w with disk := d } := by
  change (((f w.disk).1, { w with disk := (f w.disk).2 }) : Except Fault Unit × Workspace) = _ ↔ _
  rcases f w.disk with ⟨e | y, d⟩
  · simp
  · simp [eq_comm]

theorem perform_note_ok {level : Level} {logger message : String} {x : Unit}
    (h : (note level logger message).perform w = (.ok x, w')) : w'.disk = w.disk :=
  (Prod.mk.inj h).2 ▸ rfl

/-! ## Whatever the outcome -/

/-- The work leads from any disk to one that is so related to it, whether it comes to its end or
breaks off. -/
def Leads (R : Disk → Disk → Prop) (work : DiskWork α) : Prop :=
  ∀ w, R w.disk (work.perform w).2.disk

section Leads

variable {R : Disk → Disk → Prop} {work : DiskWork α}

theorem Leads.bind (htrans : ∀ d₁ d₂ d₃, R d₁ d₂ → R d₂ d₃ → R d₁ d₃) {next : α → DiskWork β}
    (h : work.Leads R) (hnext : ∀ x, (next x).Leads R) : (work >>= next).Leads R := by
  intro w
  have hfirst := h w
  rw [perform_bind]
  rcases hwork : work.perform w with ⟨e | x, w₁⟩
  · rwa [hwork] at hfirst
  · rw [hwork] at hfirst
    exact htrans _ _ _ hfirst (hnext x w₁)

theorem leads_pure (hrefl : ∀ d, R d d) (x : α) : (pure x : DiskWork α).Leads R :=
  fun w => hrefl w.disk

theorem leads_note (hrefl : ∀ d, R d d) (level : Level) (logger message : String) :
    (note level logger message).Leads R :=
  fun w => hrefl w.disk

theorem leads_alters {f : Disk → Except Fault Unit × Disk} (hf : ∀ d, R d (f d).2) :
    (alters f).Leads R :=
  fun w => hf w.disk

theorem leads_writes (hrefl : ∀ d, R d d) {f : Disk → Except Fault Disk}
    (hf : ∀ d d', f d = .ok d' → R d d') : (writes f).Leads R := by
  intro w
  rw [perform_writes]
  cases hd : f w.disk with
  | error e => exact hrefl w.disk
  | ok d => exact hf w.disk d hd

theorem Leads.foldlM (hrefl : ∀ d, R d d) (htrans : ∀ d₁ d₂ d₃, R d₁ d₂ → R d₂ d₃ → R d₁ d₃)
    {step : β → α → DiskWork β} {items : List α} (h : ∀ x ∈ items, ∀ y, (step y x).Leads R)
    (y : β) : (items.foldlM step y).Leads R := by
  induction items generalizing y with
  | nil => exact leads_pure hrefl y
  | cons x items ih =>
      rw [List.foldlM_cons]
      exact (h x List.mem_cons_self y).bind htrans
        (ih fun z hz => h z (List.mem_cons_of_mem x hz))

end Leads

end DiskWork

namespace Disk

/-- Does a location come strictly below another one? -/
def IsBelow (root l : Location) : Prop := ∃ names, names ≠ [] ∧ l = root ++ names

/-- The disk stays a tree and its start stays, some directories stay, and there is no new device. -/
structure Keeps (stays : Location → Prop) (d d' : Disk) : Prop where
  sound : d'.Sound
  start : d'.workingDirectory = d.workingDirectory
  directory : ∀ l, stays l → d.at? l = some .directory → d'.at? l = some .directory
  device : ∀ l, d'.at? l = some .device → d.at? l = some .device

variable {d d' : Disk} {stays : Location → Prop} {l m : Location}

namespace Keeps

theorem refl (h : d.Sound) : d.Keeps stays d := ⟨h, rfl, fun _ _ h => h, fun _ h => h⟩

theorem trans {d'' : Disk} (h : d.Keeps stays d') (h' : d'.Keeps stays d'') :
    d.Keeps stays d'' where
  sound := h'.sound
  start := h'.start.trans h.start
  directory l hl hat := h'.directory l hl (h.directory l hl hat)
  device l hat := h.device l (h'.device l hat)

theorem mono {stays' : Location → Prop} (h : d.Keeps stays d') (hle : ∀ l, stays' l → stays l) :
    d.Keeps stays' d' where
  sound := h.sound
  start := h.start
  directory l hl := h.directory l (hle l hl)
  device := h.device

theorem resolve (h : d.Keeps stays d') (p : Path) : d'.resolve p = d.resolve p :=
  resolve_congr h.start p

end Keeps

theorem Grows.keeps (h : d.Grows d') (hsound : d'.Sound) : d.Keeps stays d' where
  sound := hsound
  start := h.start
  directory _ _ hat := h.directory hat
  device l hat := by
    rcases h.same_or_made l with hl | ⟨-, hmade⟩
    · exact hl.symm.trans hat
    · rw [hmade] at hat
      simp at hat

theorem keeps_put (h : (d.put l (.file bytes)).Sound) (hl : l ≠ [])
    (hat : d.at? l ≠ some .directory) : d.Keeps stays (d.put l (.file bytes)) where
  sound := h
  start := rfl
  directory m _ hm := by
    rw [at?_put hl, if_neg]
    · exact hm
    · exact fun heq => hat (heq ▸ hm)
  device m hm := by
    rw [at?_put hl] at hm
    split at hm
    · simp at hm
    · exact hm

theorem keeps_erase (h : (d.erase l).Sound) (hl : l ≠ [])
    (hat : stays l → d.at? l ≠ some .directory) : d.Keeps stays (d.erase l) where
  sound := h
  start := rfl
  directory m hstays hm := by
    rw [at?_erase hl, if_neg]
    · exact hm
    · rintro rfl
      exact hat hstays hm
  device m hm := by
    rw [at?_erase hl] at hm
    split at hm
    · simp at hm
    · exact hm

theorem fileAt?_put (hl : l ≠ []) (bytes : List UInt8) (m : Location) :
    (d.put l (.file bytes)).fileAt? m = if m = l then some bytes else d.fileAt? m := by
  rw [fileAt?, at?_put hl]
  by_cases hm : m = l
  · rw [if_pos hm, if_pos hm]
  · rw [if_neg hm, if_neg hm]
    rfl

/-! ## Reading -/

theorem readText_ok {p : Path} {text : String} (h : d.readText p = .ok text) (hne : text ≠ "") :
    ∃ bytes, d.locate p = .ok (d.resolve p).parts ∧
      d.fileAt? (d.resolve p).parts = some bytes ∧ decodeText bytes = .ok text := by
  unfold readText readBytes stat at h
  obtain ⟨bytes, hread, htext⟩ := bind_eq_ok_iff.mp h
  obtain ⟨e, hstat, hbytes⟩ := bind_eq_ok_iff.mp hread
  obtain ⟨l, hlocate, hat⟩ := bind_eq_ok_iff.mp hstat
  obtain rfl := (locate_ok hlocate).2
  split at hat
  · rename_i e' he'
    obtain rfl := Except.ok.inj hat
    split at hbytes
    · obtain rfl := Except.ok.inj hbytes
      refine ⟨_, hlocate, ?_, htext⟩
      rw [fileAt?, he']
    · obtain rfl := Except.ok.inj hbytes
      exact (hne (Except.ok.inj htext).symm).elim
    · exact (throw_ne_ok hbytes).elim
  · exact (throw_ne_ok hat).elim

theorem isDirectory_of_at? {p : Path} (hlocate : d.locate p = .ok l)
    (hat : d.at? l = some .directory) : d.isDirectory p = .ok true := by
  unfold isDirectory peek stat
  rw [hlocate]
  simp only [bind, Except.bind, hat]
  rfl

/-- Where something below a directory was located, the directory is there. -/
theorem isDirectory_of_locate {a : Anchor} {parts names : List String}
    (h : d.locate ⟨a, parts ++ names⟩ = .ok l) (hnames : names ≠ []) :
    d.isDirectory ⟨a, parts⟩ = .ok true :=
  isDirectory_of_at? (locate_front h) (at?_of_locate h hnames)

/-! ## What is below -/

theorem mem_below {names : Location} {e : Entry} :
    (names, e) ∈ d.below l ↔ (l ++ names, e) ∈ d.entries ∧ names ≠ [] := by
  unfold below
  rw [List.mem_filterMap]
  constructor
  · rintro ⟨⟨k, e'⟩, hmem, hsome⟩
    rw [Option.ite_none_right_eq_some, Bool.and_eq_true, List.isPrefixOf_iff_prefix, bne_iff_ne,
      Option.some.injEq, Prod.mk.injEq] at hsome
    obtain ⟨⟨⟨rest, rfl⟩, hlength⟩, hnames, rfl⟩ := hsome
    rw [List.drop_left] at hnames
    subst hnames
    refine ⟨hmem, ?_⟩
    rintro rfl
    exact hlength (by simp)
  · rintro ⟨hmem, hne⟩
    refine ⟨(l ++ names, e), hmem, ?_⟩
    simp [hne]

theorem at?_child_eq_none (h : d.Sound) (hchildren : d.children l = []) (name : String) :
    d.at? (l ++ [name]) = none := by
  by_contra hthere
  obtain ⟨e, he⟩ := h.exists_entry (by simp) hthere
  have hmem : name ∈ d.children l :=
    List.mem_filterMap.mpr ⟨([name], e), mem_below.mpr ⟨he, by simp⟩, rfl⟩
  rw [hchildren] at hmem
  exact List.not_mem_nil hmem

theorem at?_child_ne_none (h : d.Sound) {name : String} (hmem : name ∈ d.children l) :
    d.at? (l ++ [name]) ≠ none := by
  obtain ⟨⟨names, e⟩, hbelow, hname⟩ := List.mem_filterMap.mp hmem
  dsimp only at hname
  split at hname
  · obtain rfl := Option.some.inj hname
    rw [(h.mem_entries_iff.mp (mem_below.mp hbelow).1).2]
    simp
  · simp at hname

end Disk

end TypeStubs
