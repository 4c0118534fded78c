import TypeStubs.Proofs.Placing

/-!
# Importing rendered stubs

A stub file is imported under the name that its path spells. Where the names of modules are made
of proper segments, this is the name of the module that the file was written for.
-/

namespace TypeStubs

/-! ## Names that paths spell -/

namespace Path

/-- The name of a stub file without its ending. -/
def stem? (file : String) : Option String :=
  if stubSuffix.toList.isSuffixOf file.toList then
    some (String.ofList (file.toList.take (file.toList.length - stubSuffix.toList.length)))
  else none

/-- The dotted name under which a stub file is imported. A package has the name of the directory
that its file is in. -/
def importName? (p : Path) : Option String :=
  match p.anchor, p.parts.getLast?.bind stem? with
  | .relative, some stem =>
    some (String.intercalate "."
      (if stem = "__init__" then p.parts.dropLast else p.parts.dropLast ++ [stem]))
  | _, _ => none

/-- Is the path inside a directory? -/
def Inside (dir p : Path) : Prop := ∃ rest, rest ≠ [] ∧ dir.below? p = some rest

theorem stem?_append (stem : String) : stem? (stem ++ stubSuffix) = some stem := by
  have hsuffix : stubSuffix.toList.isSuffixOf (stem ++ stubSuffix).toList = true := by
    rw [List.isSuffixOf_iff_suffix, String.toList_append]
    exact List.suffix_append _ _
  rw [stem?, if_pos hsuffix, String.toList_append, List.length_append, Nat.add_sub_cancel,
    List.take_left, String.ofList_toList]

theorem parts_of_inside {dir p : Path} (h : dir.Inside p) :
    ∃ rest, rest ≠ [] ∧ p.parts = dir.parts ++ rest := by
  obtain ⟨rest, hne, hbelow⟩ := h
  refine ⟨rest, hne, ?_⟩
  unfold below? at hbelow
  split at hbelow
  · rename_i hbase
    obtain ⟨-, hprefix⟩ := Bool.and_eq_true_iff.mp hbase
    obtain ⟨tail, htail⟩ := List.isPrefixOf_iff_prefix.mp hprefix
    rw [← htail, List.drop_left] at hbelow
    rw [← htail, Option.some.inj hbelow]
  · simp at hbelow

end Path

namespace Segmented

variable {module : String}

theorem importName?_stubFile (h : Segmented module) (package : Bool) :
    (stubFile module package).importName? = some module := by
  unfold stubFile Path.importName?
  cases package with
  | true =>
      have hstem : Path.stem? packageStub = some "__init__" := by decide
      simp [hstem, Text.intercalate_segments]
  | false =>
      have hlast : (Text.segments module).getLast (Text.segments_ne_nil module) ≠ "__init__" :=
        (h _ (List.getLast_mem _)).2.2
      simp only [Bool.false_eq_true, if_false, List.getLast?_concat, Option.bind_some,
        Path.stem?_append, hlast, List.dropLast_concat]
      rw [List.dropLast_append_getLast, Text.intercalate_segments]

/-- The directories on the way to a stub file are segments of the module's name. -/
theorem dropLast_stubFile_prefix (module : String) (package : Bool) :
    (stubFile module package).parts.dropLast <+: Text.segments module := by
  unfold stubFile
  cases package with
  | true => simp
  | false => simpa using List.dropLast_prefix (Text.segments module)

end Segmented

/-! ## Files of modules with places of their own -/

theorem Files.put_of_notMem {path : Path} {files : Files} (h : path ∉ files.map Prod.fst)
    (text : String) : Files.put path text files = files ++ [(path, text)] := by
  induction files with
  | nil => rfl
  | cons f rest ih =>
      rw [List.map_cons, List.mem_cons, not_or] at h
      rw [Files.put, if_neg (Ne.symm h.1), ih h.2, List.cons_append]

namespace StubTree

/-- Modules with places of their own are all written, in the order in which they are placed. -/
theorem placeTexts_of_nodup {isPackage : String → Bool} (place : String → Path)
    {texts : List (String × String)}
    (hplace : ∀ m ∈ texts, stubPath m.1 (isPackage m.1) = .ok (place m.1))
    (hnodup : (texts.map fun m => place m.1).Nodup) :
    placeTexts isPackage texts = .ok (texts.map fun m => (place m.1, m.2)) := by
  induction texts using List.reverseRecOn with
  | nil => rfl
  | append_singleton texts m ih =>
      rw [List.map_append, List.nodup_append] at hnodup
      have hinit := ih (fun k hk => hplace k (List.mem_append_left _ hk)) hnodup.1
      have hnew : place m.1 ∉ (texts.map fun m => (place m.1, m.2)).map Prod.fst := by
        intro hmem
        rw [List.map_map] at hmem
        exact hnodup.2.2 _ hmem _ (List.mem_singleton.mpr rfl) rfl
      have hlast := hplace m (List.mem_append_right _ (List.mem_singleton.mpr rfl))
      unfold placeTexts at hinit ⊢
      rw [List.foldlM_append, hinit]
      simp only [List.foldlM_cons, List.foldlM_nil, placeText, hlast, Except.map, bind,
        Except.bind, pure, Except.pure, Files.put_of_notMem hnew, List.map_append, List.map_cons,
        List.map_nil]

theorem isPackage_iff {t : StubTree} {name : String} :
    t.isPackage name ↔
      ∃ k ∈ t.modules, k.name ≠ name ∧ Text.segments name <+: Text.segments k.name := by
  rw [isPackage_iff_exists]
  constructor
  · rintro ⟨other, hother, hstart⟩
    obtain ⟨k, hk, rfl⟩ := List.mem_map.mp hother
    obtain ⟨below, hne, hbelow⟩ := Text.startsWith_dot_iff.mp hstart
    refine ⟨k, hk, fun hname => ?_, hbelow ▸ List.prefix_append _ _⟩
    rw [hname] at hbelow
    exact hne (List.self_eq_append_right.mp hbelow)
  · rintro ⟨k, hk, hname, below, hbelow⟩
    refine ⟨k.name, List.mem_map_of_mem hk, Text.startsWith_dot_iff.mpr ⟨below, ?_, hbelow.symm⟩⟩
    rintro rfl
    exact hname (Text.segments_injective (hbelow.symm.trans (List.append_nil _)))

/-! ## Rendered trees -/

/-- What it is for a tree to be rendered to files that can be imported: every module has a place
of its own that spells its name, modules with others below them are packages, and nothing has both
a file and a directory. -/
structure Importable (t : StubTree) (place : ModuleNode → Path) : Prop where
  gives : t.render.Gives (.ok (t.sortedModules.map fun m => (place m, m.text)))
  nodup : (t.sortedModules.map place).Nodup
  spells : ∀ m ∈ t.modules, (place m).importName? = some m.name
  package : ∀ m ∈ t.modules,
    place m = ⟨.relative, Text.segments m.name ++ [packageStub]⟩ ↔
      ∃ k ∈ t.modules, k.name ≠ m.name ∧ Text.segments m.name <+: Text.segments k.name
  apart : ∀ m ∈ t.modules, ∀ k ∈ t.modules, ∀ (dir : Path) (name : String),
    place m = dir.child (name ++ stubSuffix) → ¬ (dir.child name).Inside (place k)

/-- The directory of a module's name has no files in it unless the module is a package. -/
theorem isPackage_of_inside {t : StubTree} {m k : ModuleNode} (hk : k ∈ t.modules)
    {rest : List String} (hne : rest ≠ [])
    (hinside : (stubFile k.name (t.isPackage k.name)).parts = Text.segments m.name ++ rest) :
    t.isPackage m.name := by
  have hbelow : Text.segments m.name <+: Text.segments k.name := by
    have hdirs := Segmented.dropLast_stubFile_prefix k.name (t.isPackage k.name)
    rw [hinside, List.dropLast_append_of_ne_nil hne] at hdirs
    exact (List.prefix_append _ _).trans hdirs
  by_cases hname : k.name = m.name
  · rw [hname] at hinside
    cases hpackage : t.isPackage m.name with
    | true => rfl
    | false =>
        have hlength := congrArg List.length hinside
        have hpos := List.length_pos_iff.mpr (Text.segments_ne_nil m.name)
        have hrest := List.length_pos_iff.mpr hne
        simp only [hpackage, stubFile, Bool.false_eq_true, if_false, List.length_append,
          List.length_dropLast, List.length_singleton] at hlength
        omega
  · exact isPackage_iff.mpr ⟨k, hk, hname, hbelow⟩

theorem stubFile_apart {t : StubTree} {m k : ModuleNode} (hk : k ∈ t.modules)
    (hproper : Segmented k.name) {dir : Path} {name : String}
    (hfile : stubFile m.name (t.isPackage m.name) = dir.child (name ++ stubSuffix)) :
    ¬ (dir.child name).Inside (stubFile k.name (t.isPackage k.name)) := by
  intro hin
  obtain ⟨rest, hne, hparts⟩ := Path.parts_of_inside hin
  have hfileparts := congrArg Path.parts hfile
  cases hpackage : t.isPackage m.name with
  | true =>
      -- The file of a package is no module of its own, so it has no directory either.
      simp only [hpackage, stubFile, if_true, Path.child] at hfileparts
      obtain ⟨-, hlast⟩ := List.append_inj' hfileparts rfl
      have hname : "__init__" = name :=
        (String.append_left_inj stubSuffix).mp (List.singleton_inj.mp hlast)
      have hdirs := Segmented.dropLast_stubFile_prefix k.name (t.isPackage k.name)
      rw [hparts, List.dropLast_append_of_ne_nil hne] at hdirs
      have hmem : name ∈ Text.segments k.name := by
        apply hdirs.subset
        simp [Path.child]
      exact (hproper name hmem).2.2 hname.symm
  | false =>
      simp only [hpackage, stubFile, Bool.false_eq_true, if_false, Path.child] at hfileparts
      obtain ⟨hinit, hlast⟩ := List.append_inj' hfileparts rfl
      have hname := (String.append_left_inj stubSuffix).mp (List.singleton_inj.mp hlast)
      have hdir : (dir.child name).parts = Text.segments m.name := by
        rw [Path.child, ← hinit, ← hname, List.dropLast_append_getLast]
      rw [hdir] at hparts
      rw [isPackage_of_inside hk hne hparts] at hpackage
      simp at hpackage

/-- Rendered stubs can be imported under the names of their modules. -/
theorem render_importable {t : StubTree} (hnames : (t.modules.map ModuleNode.name).Nodup)
    (hproper : ∀ m ∈ t.modules, Segmented m.name) : ∃ place, t.Importable place := by
  let place := fun m : ModuleNode => stubFile m.name (t.isPackage m.name)
  have hsorted : ∀ m ∈ t.sortedModules, m ∈ t.modules :=
    fun m hm => t.sortedModules_perm.mem_iff.mp hm
  have hnodup : (t.sortedModules.map place).Nodup := by
    apply List.Nodup.map_on
    · intro m hm k hk heq
      have hname := (hproper m (hsorted m hm)).eq_of_stubFile (hproper k (hsorted k hk)) heq
      exact List.inj_on_of_nodup_map hnames (hsorted m hm) (hsorted k hk) hname
    · exact t.sortedModules_perm.nodup_iff.mpr (List.Nodup.of_map _ hnames)
  refine ⟨place, ?_, hnodup, ?_, ?_, ?_⟩
  · have hplaced : placeTexts t.isPackage t.sortedTexts =
        .ok (t.sortedModules.map fun m => (place m, m.text)) := by
      rw [placeTexts_of_nodup fun name => stubFile name (t.isPackage name), sortedTexts,
        List.map_map]
      · rfl
      · intro item hitem
        obtain ⟨m, hm, rfl⟩ := mem_sortedTexts.mp hitem
        exact (hproper m hm).stubPath_eq _
      · rw [sortedTexts, List.map_map]
        exact hnodup
    rw [← hplaced]
    exact t.render_gives
  · intro m hm
    exact (hproper m hm).importName?_stubFile _
  · intro m hm
    rw [← isPackage_iff]
    cases hpackage : t.isPackage m.name with
    | true => simp [place, hpackage, stubFile]
    | false =>
        have hlast := (hproper m hm).getLast_ne
        simp only [place, hpackage, stubFile, Bool.false_eq_true, if_false, iff_false]
        intro heq
        exact hlast (List.singleton_inj.mp (List.append_inj' (congrArg Path.parts heq) rfl).2)
  · intro m _ k hk dir name hfile
    exact stubFile_apart hk (hproper k hk) hfile

/-- A package with a module two levels below it and another module whose name begins alike. -/
def kinTree : StubTree := ⟨[⟨"application", []⟩, ⟨"app.sub.page", []⟩, ⟨"app", []⟩]⟩

theorem kinTree_importable : ∃ place, kinTree.Importable place :=
  render_importable (by decide) (by decide)

end StubTree

end TypeStubs
