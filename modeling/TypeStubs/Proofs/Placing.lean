import Mathlib.Data.List.TakeWhile
import TypeStubs.Proofs.Rendering

/-!
# Where stub files go

A module has a place unless its name comes down to nothing, and of all modules that share a place
the one with the greatest name is found there.
-/

namespace TypeStubs

/-! ## Paths of modules -/

namespace Path

theorem ofTexts_append (texts : List String) (last : String) :
    ofTexts (texts ++ [last]) = (ofTexts texts).join (ofText last) := by
  rw [ofTexts, List.foldl_append]
  rfl

theorem parts_ofText_of_forall {s : String} (h : ∀ c ∈ s.toList, c = '/') :
    (ofText s).parts = [] := by
  have hrest : s.toList.dropWhile (· == '/') = [] :=
    List.dropWhile_eq_nil_iff.mpr fun c hc => beq_iff_eq.mpr (h c hc)
  simp [ofText, splitAnchor, hrest, Text.splitAt, Text.pieces, isPart]

theorem anchor_ofText_of_forall {s : String} (hne : s ≠ "") (h : ∀ c ∈ s.toList, c = '/') :
    (ofText s).anchor ≠ .relative := by
  have hall : s.toList.takeWhile (· == '/') = s.toList :=
    List.takeWhile_eq_self_iff.mpr fun c hc => beq_iff_eq.mpr (h c hc)
  have hlength : s.toList.length ≠ 0 := by simpa using hne
  simp only [ofText, splitAnchor, hall, hlength, if_false]
  split <;> simp

/-- A text with something else than slashes, and without dots, leads somewhere. -/
theorem parts_ofText_ne_nil {s : String} (hdot : '.' ∉ s.toList) {c : Char} (hc : c ∈ s.toList)
    (hslash : c ≠ '/') : (ofText s).parts ≠ [] := by
  obtain ⟨d, rest, hrest⟩ : ∃ d rest, s.toList.dropWhile (· == '/') = d :: rest := by
    apply List.exists_cons_of_ne_nil
    intro hnil
    exact hslash (beq_iff_eq.mp (List.dropWhile_eq_nil_iff.mp hnil c hc))
  have hd : d ≠ '/' := by
    have hhead := List.head?_dropWhile_not (· == '/') s.toList
    rw [hrest] at hhead
    simpa using hhead
  have hmem : d ∈ s.toList :=
    (List.dropWhile_sublist (· == '/')).subset (hrest ▸ List.mem_cons_self)
  obtain ⟨p, ps, -, hpieces⟩ := Text.pieces_cons '/' d rest
  rw [if_neg hd] at hpieces
  have hpart : isPart (String.ofList (d :: p)) := by
    have hne : String.ofList (d :: p) ≠ "." := by
      intro heq
      have hlist := congrArg String.toList heq
      rw [String.toList_ofList] at hlist
      obtain ⟨rfl, -⟩ := List.cons.inj hlist
      exact hdot hmem
    rw [isPart, Bool.and_eq_true]
    exact ⟨by simp, bne_iff_ne.mpr hne⟩
  intro hnil
  have hmempart : String.ofList (d :: p) ∈ (ofText s).parts := by
    simp only [ofText, splitAnchor, hrest, Text.splitAt, String.toList_ofList, hpieces]
    exact List.mem_filter.mpr ⟨List.mem_cons_self, hpart⟩
  rw [hnil] at hmempart
  exact List.not_mem_nil hmempart

theorem parts_join_ne_nil (base : Path) {p : Path} (h : p.parts ≠ []) :
    (base.join p).parts ≠ [] := by
  unfold join
  split
  · simp [h]
  · exact h

theorem isSome_name?_ofTexts (init : List String) {last : String} (hne : last ≠ "")
    (hdot : '.' ∉ last.toList) :
    (ofTexts (init ++ [last])).name?.isSome ↔ ∃ c ∈ last.toList, c ≠ '/' := by
  rw [ofTexts_append, name?, List.getLast?_isSome]
  constructor
  · intro hparts
    by_contra hall
    push Not at hall
    apply hparts
    rw [join, if_neg (anchor_ofText_of_forall hne hall), parts_ofText_of_forall hall]
  · rintro ⟨c, hc, hslash⟩
    exact parts_join_ne_nil _ (parts_ofText_ne_nil hdot hc hslash)

end Path

/-- The segments of a module's name that count. -/
def partsOf (module : String) : List String := (Text.segments module).filter (!·.isEmpty)

/-- A module has a place if its name has a segment, and the last one is not made of slashes alone
unless the module is a package. -/
def HasPlace (module : String) (package : Prop) : Prop :=
  ∃ last, (partsOf module).getLast? = some last ∧ (package ∨ ∃ c ∈ last.toList, c ≠ '/')

theorem not_mem_of_mem_partsOf {module s : String} (h : s ∈ partsOf module) :
    '.' ∉ s.toList ∧ s ≠ "" := by
  obtain ⟨hmem, hempty⟩ := List.mem_filter.mp h
  obtain ⟨p, hp, rfl⟩ := List.mem_map.mp hmem
  refine ⟨?_, by simpa using hempty⟩
  rw [String.toList_ofList]
  exact Text.not_mem_of_mem_pieces hp

theorem isPart_of_mem_partsOf {module s : String} (h : s ∈ partsOf module) : Path.isPart s := by
  obtain ⟨hdot, hne⟩ := not_mem_of_mem_partsOf h
  rw [Path.isPart, Bool.and_eq_true]
  refine ⟨by simpa using hne, bne_iff_ne.mpr ?_⟩
  rintro rfl
  exact hdot (by simp)

theorem stubPath_eq (module : String) (package : Bool) :
    stubPath module package =
      if (partsOf module).isEmpty then .error .unnamedModule
      else if package then .ok (Path.ofTexts (partsOf module ++ [packageStub]))
      else
        match (Path.ofTexts (partsOf module)).name? with
        | none => .error (.unnamedPath (Path.ofTexts (partsOf module)).text)
        | some name =>
          .ok ((Path.ofTexts (partsOf module)).parent.child (name ++ stubSuffix)) := rfl

theorem stubPath_ok_iff {module : String} {package : Bool} :
    (∃ path, stubPath module package = .ok path) ↔ HasPlace module package := by
  unfold HasPlace
  rw [stubPath_eq]
  cases hlast : (partsOf module).getLast? with
  | none =>
      have hnil := List.getLast?_eq_none_iff.mp hlast
      simp [hnil]
  | some last =>
      obtain ⟨init, hinit⟩ := List.getLast?_eq_some_iff.mp hlast
      have hmem : last ∈ partsOf module := List.mem_of_getLast? hlast
      obtain ⟨hdot, hne⟩ := not_mem_of_mem_partsOf hmem
      have hempty : (partsOf module).isEmpty = false := by simp [hinit]
      cases package with
      | true => simp [hempty]
      | false =>
          have hname := Path.isSome_name?_ofTexts init hne hdot
          rw [← hinit] at hname
          simp only [hempty, Option.some.injEq, exists_eq_left', Bool.false_eq_true, false_or]
          rw [← hname]
          cases (Path.ofTexts (partsOf module)).name? <;> simp

theorem stubPath_error {module : String} {package : Bool} {f : Fault}
    (h : stubPath module package = .error f) : f.family = .value := by
  rw [stubPath_eq] at h
  split at h
  · exact Except.error.inj h ▸ rfl
  · split at h
    · simp at h
    · split at h
      · exact Except.error.inj h ▸ rfl
      · simp at h

/-! ## Files -/

def Files.text? (p : Path) (files : Files) : Option String :=
  (files.find? fun f => f.1 == p).map Prod.snd

theorem Files.text?_put (p path : Path) (text : String) (files : Files) :
    Files.text? p (Files.put path text files) =
      if p = path then some text else Files.text? p files := by
  unfold Files.text?
  induction files with
  | nil =>
      by_cases h : p = path
      · simp [Files.put, h]
      · simp [Files.put, h, Ne.symm h]
  | cons f rest ih =>
      by_cases hf : f.1 = path
      · by_cases h : p = path
        · simp [Files.put, hf, h]
        · simp [Files.put, hf, h, Ne.symm h]
      · rw [Files.put, if_neg hf, List.find?_cons, List.find?_cons]
        by_cases h : p = path
        · have hne : (f.1 == p) = false := beq_false_of_ne fun heq => hf (heq.trans h)
          rw [hne]
          simpa [h] using ih
        · cases hp : f.1 == p with
          | true => simp [h]
          | false => simpa [h] using ih

namespace StubTree

def placedAt (isPackage : String → Bool) (p : Path) (m : String × String) : Bool :=
  match stubPath m.1 (isPackage m.1) with
  | .ok path => p = path
  | .error _ => false

/-- Under a path there is the text of the last module that is placed there. -/
theorem text?_of_placeTexts {isPackage : String → Bool} {texts : List (String × String)}
    {files : Files} (h : placeTexts isPackage texts = .ok files) (p : Path) :
    Files.text? p files = ((texts.filter (placedAt isPackage p)).getLast?).map Prod.snd := by
  suffices hfrom : ∀ done : Files, texts.foldlM (placeText isPackage) done = .ok files →
      Files.text? p files =
        (((texts.filter (placedAt isPackage p)).getLast?).map Prod.snd).or
          (Files.text? p done) by
    have hempty := hfrom [] h
    rwa [show Files.text? p [] = none from rfl, Option.or_none] at hempty
  clear h
  induction texts with
  | nil =>
      intro done h
      obtain rfl := Except.ok.inj h
      rfl
  | cons m texts ih =>
      intro done h
      rw [List.foldlM_cons, placeText] at h
      cases hpath : stubPath m.1 (isPackage m.1) with
      | error e => simp [hpath, Except.map, bind, Except.bind] at h
      | ok path =>
          simp only [hpath, Except.map, bind, Except.bind] at h
          rw [ih _ h, Files.text?_put]
          have hplaced : placedAt isPackage p m = decide (p = path) := by
            simp only [placedAt, hpath]
          by_cases hp : p = path
          · rw [List.filter_cons_of_pos (by rw [hplaced]; exact decide_eq_true hp), if_pos hp,
              List.getLast?_cons]
            cases (texts.filter (placedAt isPackage p)).getLast? <;> rfl
          · rw [List.filter_cons_of_neg (by simp [hplaced, hp]), if_neg hp]

theorem exists_placeTexts_iff {isPackage : String → Bool} {texts : List (String × String)} :
    (∃ files, placeTexts isPackage texts = .ok files) ↔
      ∀ m ∈ texts, HasPlace m.1 (isPackage m.1) := by
  unfold placeTexts
  suffices hfrom : ∀ done : Files, (∃ files, texts.foldlM (placeText isPackage) done = .ok files) ↔
      ∀ m ∈ texts, HasPlace m.1 (isPackage m.1) from hfrom []
  induction texts with
  | nil => exact fun done => ⟨fun _ => by simp, fun _ => ⟨done, rfl⟩⟩
  | cons m texts ih =>
      intro done
      rw [List.foldlM_cons, List.forall_mem_cons, ← stubPath_ok_iff, placeText]
      cases hpath : stubPath m.1 (isPackage m.1) with
      | error e => simp [Except.map, bind, Except.bind]
      | ok path =>
          simp only [Except.map, bind, Except.bind]
          rw [ih]
          simp

theorem placeTexts_error {isPackage : String → Bool} {texts : List (String × String)} {f : Fault}
    (h : placeTexts isPackage texts = .error f) : f.family = .value := by
  obtain ⟨files, m, -, hm⟩ := foldlM_error h
  cases hpath : stubPath m.1 (isPackage m.1) with
  | ok path => simp [placeText, hpath, Except.map] at hm
  | error e =>
      rw [placeText, hpath] at hm
      exact Except.error.inj hm ▸ stubPath_error hpath

theorem le_of_getLast? {α : Type} {items : List (String × α)}
    (h : items.Pairwise fun a b => a.1 ≤ b.1) {last : String × α}
    (hlast : items.getLast? = some last) : ∀ item ∈ items, item.1 ≤ last.1 := by
  obtain ⟨init, rfl⟩ := List.getLast?_eq_some_iff.mp hlast
  intro item hitem
  rcases List.mem_append.mp hitem with hinit | hself
  · exact (List.pairwise_append.mp h).2.2 item hinit last List.mem_cons_self
  · obtain rfl := List.mem_singleton.mp hself
    exact String.le_refl _

/-- A module of the tree finds its place taken by the greatest of the modules placed there. -/
theorem exists_kept {t : StubTree} {files : Files}
    (h : placeTexts t.isPackage t.sortedTexts = .ok files) {m : ModuleNode} (hm : m ∈ t.modules) :
    ∃ path, stubPath m.name (t.isPackage m.name) = .ok path ∧
      ∃ k ∈ t.modules, stubPath k.name (t.isPackage k.name) = .ok path ∧
        Files.text? path files = some k.text ∧
        ∀ l ∈ t.modules, stubPath l.name (t.isPackage l.name) = .ok path → l.name ≤ k.name := by
  have hmem := mem_sortedTexts.mpr ⟨m, hm, rfl⟩
  obtain ⟨path, hpath⟩ := stubPath_ok_iff.mpr (exists_placeTexts_iff.mp ⟨files, h⟩ _ hmem)
  have hplaced : ∀ l : ModuleNode, placedAt t.isPackage path (l.name, l.text) ↔
      stubPath l.name (t.isPackage l.name) = .ok path := by
    intro l
    unfold placedAt
    cases stubPath l.name (t.isPackage l.name) with
    | error e => simp
    | ok p => simp [eq_comm]
  have htext := text?_of_placeTexts h path
  have hfilter := List.mem_filter.mpr ⟨hmem, (hplaced m).mpr hpath⟩
  cases hlast : (t.sortedTexts.filter (placedAt t.isPackage path)).getLast? with
  | none =>
      rw [List.getLast?_eq_none_iff] at hlast
      rw [hlast] at hfilter
      exact (List.not_mem_nil hfilter).elim
  | some last =>
      obtain ⟨hsorted, hat⟩ := List.mem_filter.mp (List.mem_of_getLast? hlast)
      obtain ⟨k, hk, rfl⟩ := mem_sortedTexts.mp hsorted
      rw [hlast] at htext
      refine ⟨path, hpath, k, hk, (hplaced k).mp hat, htext, fun l hl hlpath => ?_⟩
      have hpairwise := t.pairwise_sortedTexts.filter (placedAt t.isPackage path)
      exact le_of_getLast? hpairwise hlast _
        (List.mem_filter.mpr ⟨mem_sortedTexts.mpr ⟨l, hl, rfl⟩, (hplaced l).mpr hlpath⟩)

end StubTree

/-! ## Modules of proper segments -/

/-- A module name made of segments that can stand in a path and do not name the file of a
package. -/
def Segmented (module : String) : Prop :=
  ∀ s ∈ Text.segments module, s ≠ "" ∧ '/' ∉ s.toList ∧ s ≠ "__init__"

instance (module : String) : Decidable (Segmented module) :=
  inferInstanceAs (Decidable (∀ s ∈ Text.segments module, s ≠ "" ∧ '/' ∉ s.toList ∧ s ≠ "__init__"))

/-- The stub file of a module of such segments. -/
def stubFile (module : String) (package : Bool) : Path :=
  if package then ⟨.relative, Text.segments module ++ [packageStub]⟩
  else ⟨.relative, (Text.segments module).dropLast ++
    [(Text.segments module).getLast (Text.segments_ne_nil module) ++ stubSuffix]⟩

namespace Path

theorem ofText_of_isPart {s : String} (hpart : isPart s) (hslash : '/' ∉ s.toList) :
    ofText s = ⟨.relative, [s]⟩ := by
  have hhead : s.toList.takeWhile (· == '/') = [] :=
    List.takeWhile_eq_nil_iff.mpr fun _ h => hslash (beq_iff_eq.mp h ▸ List.getElem_mem _)
  have hrest : s.toList.dropWhile (· == '/') = s.toList :=
    List.dropWhile_eq_self_iff.mpr fun _ h => hslash (beq_iff_eq.mp h ▸ List.getElem_mem _)
  simp [ofText, splitAnchor, hhead, hrest, Text.splitAt, Text.pieces_of_notMem hslash, hpart]

theorem ofTexts_of_isPart {texts : List String}
    (h : ∀ s ∈ texts, isPart s ∧ '/' ∉ s.toList) : ofTexts texts = ⟨.relative, texts⟩ := by
  induction texts using List.reverseRecOn with
  | nil => rfl
  | append_singleton texts last ih =>
      obtain ⟨hpart, hslash⟩ := h last (by simp)
      have hinit := ih fun s hs => h s (List.mem_append_left _ hs)
      rw [ofTexts_append, hinit, ofText_of_isPart hpart hslash, join, if_pos rfl]

end Path

namespace Segmented

variable {module other : String}

theorem partsOf_eq (h : Segmented module) : partsOf module = Text.segments module :=
  List.filter_eq_self.mpr fun s hs => by simp [(h s hs).1]

theorem ofTexts_eq (h : Segmented module) :
    Path.ofTexts (Text.segments module) = ⟨.relative, Text.segments module⟩ := by
  apply Path.ofTexts_of_isPart
  intro s hs
  exact ⟨isPart_of_mem_partsOf (h.partsOf_eq ▸ hs), (h s hs).2.1⟩

/-- Such a module has a stub file, whether it is a package or not. -/
theorem stubPath_eq (h : Segmented module) (package : Bool) :
    stubPath module package = .ok (stubFile module package) := by
  have hempty : (Text.segments module).isEmpty = false :=
    List.isEmpty_eq_false_iff.mpr (Text.segments_ne_nil module)
  rw [TypeStubs.stubPath_eq, h.partsOf_eq, hempty]
  cases package with
  | true =>
      have hinit : Path.ofText packageStub = ⟨.relative, [packageStub]⟩ :=
        Path.ofText_of_isPart (by decide) (by decide)
      rw [Path.ofTexts_append, h.ofTexts_eq, hinit]
      rfl
  | false =>
      have hname : Path.name? ⟨.relative, Text.segments module⟩ =
          some ((Text.segments module).getLast (Text.segments_ne_nil module)) :=
        List.getLast?_eq_some_getLast (Text.segments_ne_nil module)
      rw [h.ofTexts_eq]
      simp only [hname]
      rfl

theorem getLast_ne (h : Segmented module) :
    (Text.segments module).getLast (Text.segments_ne_nil module) ++ stubSuffix ≠ packageStub := by
  intro heq
  have hlast : (Text.segments module).getLast (Text.segments_ne_nil module) = "__init__" :=
    String.append_left_inj stubSuffix |>.mp heq
  exact (h _ (List.getLast_mem _)).2.2 hlast

/-- Different modules have different stub files. -/
theorem eq_of_stubFile (h : Segmented module) (h' : Segmented other) {package package' : Bool}
    (heq : stubFile module package = stubFile other package') : module = other := by
  apply Text.segments_injective
  have hparts := congrArg Path.parts heq
  unfold stubFile at hparts
  cases package with
  | true =>
      cases package' with
      | true => exact (List.append_inj' hparts rfl).1
      | false =>
          exact (h'.getLast_ne (List.singleton_inj.mp (List.append_inj' hparts rfl).2).symm).elim
  | false =>
      cases package' with
      | true => exact (h.getLast_ne (List.singleton_inj.mp (List.append_inj' hparts rfl).2)).elim
      | false =>
          obtain ⟨hinit, hlast⟩ := List.append_inj' hparts rfl
          have hend := (String.append_left_inj stubSuffix).mp (List.singleton_inj.mp hlast)
          rw [← List.dropLast_append_getLast (Text.segments_ne_nil module), hinit, hend,
            List.dropLast_append_getLast]

end Segmented

namespace StubTree

/-- Where all modules are of proper segments, each one is written, and finds its text in its own
file. -/
theorem exists_files_of_segmented {t : StubTree} (ht : t.Distinct)
    (h : ∀ m ∈ t.modules, Segmented m.name) :
    ∃ files, placeTexts t.isPackage t.sortedTexts = .ok files ∧
      ∀ m ∈ t.modules, Files.text? (stubFile m.name (t.isPackage m.name)) files = some m.text := by
  obtain ⟨files, hfiles⟩ : ∃ files, placeTexts t.isPackage t.sortedTexts = .ok files := by
    apply exists_placeTexts_iff.mpr
    intro item hitem
    obtain ⟨m, hm, rfl⟩ := mem_sortedTexts.mp hitem
    exact stubPath_ok_iff.mp ⟨_, (h m hm).stubPath_eq _⟩
  refine ⟨files, hfiles, fun m hm => ?_⟩
  obtain ⟨path, hpath, k, hk, hkpath, htext, -⟩ := exists_kept hfiles hm
  rw [(h m hm).stubPath_eq] at hpath
  rw [(h k hk).stubPath_eq] at hkpath
  obtain rfl := Except.ok.inj hpath
  have hname := (h k hk).eq_of_stubFile (h m hm) (Except.ok.inj hkpath)
  obtain rfl : k = m := List.inj_on_of_nodup_map ht.modules hk hm hname
  exact htext

end StubTree

end TypeStubs
