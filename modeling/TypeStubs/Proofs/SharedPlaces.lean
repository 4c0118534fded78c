import Mathlib.Data.List.Perm.Subperm
import TypeStubs.Proofs.Importing

/-!
# Modules that share a place

A stub file is the path that a module's name spells, with the ending. Names may differ and still
spell one path: empty segments do not count, and a package spells the path of its own
initialization file. Of the modules that spell one path only one is written.
-/

namespace TypeStubs

namespace Path

/-- The stub file that a path is the stem of. -/
def stub (p : Path) : Path := p.parent.child (p.name?.getD "" ++ stubSuffix)

theorem stub_append (a : Anchor) (parts : List String) (name : String) :
    stub ⟨a, parts ++ [name]⟩ = ⟨a, parts ++ [name ++ stubSuffix]⟩ := by
  simp [stub, parent, child, name?]

theorem stub_injective {p q : Path} (hp : p.parts ≠ []) (hq : q.parts ≠ [])
    (h : p.stub = q.stub) : p = q := by
  rcases p with ⟨a, parts⟩
  rcases q with ⟨b, parts'⟩
  obtain ⟨init, last, rfl⟩ := (List.eq_nil_or_concat parts).resolve_left hp
  obtain ⟨init', last', rfl⟩ := (List.eq_nil_or_concat parts').resolve_left hq
  rw [List.concat_eq_append, List.concat_eq_append, stub_append, stub_append, mk.injEq] at h
  obtain ⟨rfl, hparts⟩ := h
  obtain ⟨rfl, hlast⟩ := List.append_inj' hparts rfl
  rw [(String.append_left_inj stubSuffix).mp (List.singleton_inj.mp hlast)]

end Path

/-- The path that a module's name spells. -/
def spelled (module : String) (package : Bool) : Path :=
  Path.ofTexts (partsOf module ++ if package then ["__init__"] else [])

theorem spelled_of_notMem {module : String} (h : '/' ∉ module.toList) (package : Bool) :
    spelled module package =
      ⟨.relative, partsOf module ++ if package then ["__init__"] else []⟩ := by
  apply Path.ofTexts_of_isPart
  intro s hs
  rcases List.mem_append.mp hs with hpart | hinit
  · obtain ⟨p, hp, rfl⟩ := List.mem_map.mp (List.mem_filter.mp hpart).1
    refine ⟨isPart_of_mem_partsOf hpart, fun hmem => h ?_⟩
    rw [String.toList_ofList] at hmem
    exact Text.mem_of_mem_pieces hp hmem
  · cases package with
    | false => simp at hinit
    | true =>
        obtain rfl := List.mem_singleton.mp hinit
        decide

/-- The place of a module is told by the path that its name spells. -/
theorem stubPath_ok {module : String} {package : Bool} {path : Path}
    (h : stubPath module package = .ok path) :
    (spelled module package).parts ≠ [] ∧ path = (spelled module package).stub := by
  rw [stubPath_eq] at h
  split at h
  · simp at h
  · split at h
    · rename_i hpackage
      -- The initialization file is a part of its own, with the ending and without it.
      have hinit : ∀ name, Path.isPart name → '/' ∉ name.toList →
          Path.ofTexts (partsOf module ++ [name]) =
            ⟨(Path.ofTexts (partsOf module)).anchor,
              (Path.ofTexts (partsOf module)).parts ++ [name]⟩ := by
        intro name hpart hslash
        rw [Path.ofTexts_append, Path.ofText_of_isPart hpart hslash, Path.join, if_pos rfl]
      obtain rfl := Except.ok.inj h
      rw [spelled, if_pos hpackage, hinit "__init__" (by decide) (by decide),
        hinit packageStub (by decide) (by decide), Path.stub_append]
      exact ⟨by simp, rfl⟩
    · rename_i hpackage
      split at h
      · simp at h
      · rename_i name hname
        obtain rfl := Except.ok.inj h
        rw [spelled, if_neg hpackage, List.append_nil, Path.stub, hname]
        refine ⟨fun hnil => ?_, rfl⟩
        rw [Path.name?, hnil] at hname
        simp at hname

/-! ## The paths of files -/

theorem Files.keys_put (path : Path) (text : String) (files : Files) :
    (Files.put path text files).map Prod.fst =
      if path ∈ files.map Prod.fst then files.map Prod.fst else files.map Prod.fst ++ [path] := by
  split
  · rename_i hmem
    induction files with
    | nil => simp at hmem
    | cons f rest ih =>
        by_cases hf : f.1 = path
        · rw [Files.put, if_pos hf, List.map_cons, List.map_cons]
        · rw [List.map_cons, List.mem_cons] at hmem
          rw [Files.put, if_neg hf, List.map_cons, ih (hmem.resolve_left (Ne.symm hf)),
            List.map_cons]
  · rename_i hnew
    rw [Files.put_of_notMem hnew, List.map_append]
    rfl

namespace StubTree

/-- There is one file for every path that a module is placed at. -/
theorem keys_of_placeTexts {isPackage : String → Bool} {texts : List (String × String)}
    {files : Files} (h : placeTexts isPackage texts = .ok files) :
    (files.map Prod.fst).Nodup ∧
      ∀ path, path ∈ files.map Prod.fst ↔ ∃ m ∈ texts, stubPath m.1 (isPackage m.1) = .ok path := by
  -- The last module is taken off, since it is the last that can take the place of another.
  induction texts using List.reverseRecOn generalizing files with
  | nil =>
      obtain rfl := Except.ok.inj h
      simp
  | append_singleton texts m ih =>
      rw [placeTexts, List.foldlM_append] at h
      obtain ⟨init, hinit, hlast⟩ := bind_eq_ok_iff.mp h
      obtain ⟨hnodup, hmem⟩ := ih hinit
      have hput : placeText isPackage init m = .ok files := by simpa using hlast
      rw [placeText] at hput
      cases hpath : stubPath m.1 (isPackage m.1) with
      | error e => simp [hpath, Except.map] at hput
      | ok place =>
          rw [hpath] at hput
          obtain rfl := Except.ok.inj hput
          rw [Files.keys_put]
          simp only [List.mem_append, List.mem_singleton, or_and_right, exists_or, exists_eq_left,
            hpath, Except.ok.injEq, ← hmem]
          split
          · rename_i hold
            refine ⟨hnodup, fun path => ⟨Or.inl, ?_⟩⟩
            rintro (hpath | rfl)
            · exact hpath
            · exact hold
          · rename_i hnew
            refine ⟨List.nodup_append.mpr ⟨hnodup, List.nodup_singleton place, ?_⟩, fun path => ?_⟩
            · rintro path hpath _ hplace rfl
              exact hnew (List.mem_singleton.mp hplace ▸ hpath)
            · rw [List.mem_append, List.mem_singleton, eq_comm (a := place)]

/-- The path that a module of a tree spells. -/
def stem (t : StubTree) (m : ModuleNode) : Path := spelled m.name (t.isPackage m.name)

/-- Distinct keys are as many as what they are the keys of, if that is distinct too. -/
theorem length_eq_iff_nodup {α : Type} {xs : List α} (ys : List α) (hxs : xs.Nodup)
    (hmem : ∀ x, x ∈ xs ↔ x ∈ ys) : xs.length = ys.length ↔ ys.Nodup := by
  constructor
  · intro hlength
    have hperm : xs.Perm ys :=
      (List.subperm_of_subset hxs fun x => (hmem x).mp).perm_of_length_le hlength.ge
    exact hperm.nodup_iff.mp hxs
  · intro hys
    exact ((List.perm_ext_iff_of_nodup hxs hys).mpr hmem).length_eq

section

variable {t : StubTree} {files : Files} {m k : ModuleNode}

theorem stubPath_of_placeTexts (h : placeTexts t.isPackage t.sortedTexts = .ok files)
    (hm : m ∈ t.modules) : (t.stem m).parts ≠ [] ∧
      stubPath m.name (t.isPackage m.name) = .ok (t.stem m).stub := by
  obtain ⟨path, hpath, -⟩ := exists_kept h hm
  obtain ⟨hne, rfl⟩ := stubPath_ok hpath
  exact ⟨hne, hpath⟩

theorem stubPath_ok_iff_stem (h : placeTexts t.isPackage t.sortedTexts = .ok files)
    (hm : m ∈ t.modules) {path : Path} :
    stubPath m.name (t.isPackage m.name) = .ok path ↔ (t.stem m).stub = path := by
  rw [(stubPath_of_placeTexts h hm).2, Except.ok.injEq]

theorem stub_stem_inj (h : placeTexts t.isPackage t.sortedTexts = .ok files)
    (hm : m ∈ t.modules) (hk : k ∈ t.modules) :
    (t.stem m).stub = (t.stem k).stub ↔ t.stem m = t.stem k :=
  ⟨Path.stub_injective (stubPath_of_placeTexts h hm).1 (stubPath_of_placeTexts h hk).1,
    congrArg Path.stub⟩

theorem keys_of_tree (h : placeTexts t.isPackage t.sortedTexts = .ok files) :
    (files.map Prod.fst).Nodup ∧
      ∀ path, path ∈ files.map Prod.fst ↔ ∃ m ∈ t.modules, (t.stem m).stub = path := by
  obtain ⟨hnodup, hkeys⟩ := keys_of_placeTexts h
  refine ⟨hnodup, fun path => ?_⟩
  rw [hkeys]
  constructor
  · rintro ⟨item, hitem, hat⟩
    obtain ⟨m, hm, rfl⟩ := mem_sortedTexts.mp hitem
    exact ⟨m, hm, (stubPath_ok_iff_stem h hm).mp hat⟩
  · rintro ⟨m, hm, hat⟩
    exact ⟨(m.name, m.text), mem_sortedTexts.mpr ⟨m, hm, rfl⟩, (stubPath_ok_iff_stem h hm).mpr hat⟩

theorem exists_greatest (h : placeTexts t.isPackage t.sortedTexts = .ok files)
    (hm : m ∈ t.modules) : ∃ k ∈ t.modules, t.stem k = t.stem m ∧
      Files.text? (t.stem m).stub files = some k.text ∧
      ∀ l ∈ t.modules, t.stem l = t.stem m → l.name ≤ k.name := by
  obtain ⟨path, hpath, k, hk, hsame, htext, hlast⟩ := exists_kept h hm
  obtain rfl := (stubPath_ok_iff_stem h hm).mp hpath
  have hstem := (stub_stem_inj h hk hm).mp ((stubPath_ok_iff_stem h hk).mp hsame)
  refine ⟨k, hk, hstem, htext, fun l hl hsame => hlast l hl ?_⟩
  exact (stubPath_ok_iff_stem h hl).mpr (congrArg Path.stub hsame)

theorem length_eq_size_iff (h : placeTexts t.isPackage t.sortedTexts = .ok files) :
    files.length = t.size ↔ (t.modules.map t.stem).Nodup := by
  obtain ⟨hnodup, hkeys⟩ := keys_of_tree h
  -- The paths are as many as the modules just if the stub files of the stems are distinct, and then
  -- the stems are, since each of them has parts.
  have hlength := length_eq_iff_nodup ((t.modules.map t.stem).map Path.stub) hnodup
    (by simpa using hkeys)
  rw [List.length_map, List.length_map, List.length_map] at hlength
  rw [size, hlength]
  refine ⟨List.Nodup.of_map _, fun hdistinct => hdistinct.map_on ?_⟩
  intro p hp q hq heq
  obtain ⟨m, hm, rfl⟩ := List.mem_map.mp hp
  obtain ⟨k, hk, rfl⟩ := List.mem_map.mp hq
  exact (stub_stem_inj h hm hk).mp heq

end

/-- Of the modules that spell one path the one with the greatest name is written. So there is a file
for each module, and it holds the text of the module, just if no two modules spell one path. Names
without slashes spell their segments. -/
theorem render_keeps {t : StubTree} {files : Files} (h : t.render.Gives (.ok files)) :
    (∀ m ∈ t.modules, stubPath m.name (t.isPackage m.name) = .ok (t.stem m).stub) ∧
      (files.map Prod.fst).Nodup ∧
      (∀ path, path ∈ files.map Prod.fst ↔ ∃ m ∈ t.modules, (t.stem m).stub = path) ∧
      (∀ m ∈ t.modules, ∃ k ∈ t.modules, t.stem k = t.stem m ∧
        Files.text? (t.stem m).stub files = some k.text ∧
        ∀ l ∈ t.modules, t.stem l = t.stem m → l.name ≤ k.name) ∧
      (files.length = t.size ↔ (t.modules.map t.stem).Nodup) ∧
      ((t.modules.map t.stem).Nodup →
        ∀ m ∈ t.modules, Files.text? (t.stem m).stub files = some m.text) ∧
      ∀ m ∈ t.modules, '/' ∉ m.name.toList → t.stem m =
        ⟨.relative, partsOf m.name ++ if t.isPackage m.name then ["__init__"] else []⟩ := by
  have hplaced : placeTexts t.isPackage t.sortedTexts = .ok files :=
    (t.render_gives #[]).symm.trans (h #[])
  obtain ⟨hnodup, hkeys⟩ := keys_of_tree hplaced
  refine ⟨fun m hm => (stubPath_of_placeTexts hplaced hm).2, hnodup, hkeys,
    fun m hm => exists_greatest hplaced hm, length_eq_size_iff hplaced, fun hdistinct m hm => ?_,
    fun m _ hslash => spelled_of_notMem hslash _⟩
  obtain ⟨k, hk, hsame, htext, -⟩ := exists_greatest hplaced hm
  rw [htext, List.inj_on_of_nodup_map hdistinct hk hm hsame]

/-- A package and a module with the name of its initialization file. -/
def twinTree : StubTree := ⟨[⟨"app", [.bare "A"]⟩, ⟨"app.__init__", [.bare "B"]⟩]⟩

theorem render_keeps_of_twins : ∃ files, twinTree.render.Gives (.ok files) ∧
    files.length ≠ twinTree.size ∧
    Files.text? ⟨.relative, ["app", "__init__.pyi"]⟩ files =
      some (ModuleNode.text ⟨"app.__init__", [.bare "B"]⟩) := by
  have hplaces : ∀ m ∈ twinTree.modules, HasPlace m.name (twinTree.isPackage m.name) := by
    simp only [twinTree, List.forall_mem_cons]
    exact ⟨⟨"app", by decide, Or.inr ⟨'a', by decide, by decide⟩⟩,
      ⟨"__init__", by decide, Or.inr ⟨'_', by decide, by decide⟩⟩, by simp⟩
  obtain ⟨files, hfiles⟩ := exists_placeTexts_iff.mpr fun item hitem => by
    obtain ⟨m, hm, rfl⟩ := mem_sortedTexts.mp hitem
    exact hplaces m hm
  have hgives : twinTree.render.Gives (.ok files) := hfiles ▸ twinTree.render_gives
  obtain ⟨-, -, -, hkept, hlength, -⟩ := render_keeps hgives
  refine ⟨files, hgives, ?_, ?_⟩
  · rw [Ne, hlength]
    decide +kernel
  · obtain ⟨k, hk, -, htext, hlast⟩ :=
      hkept ⟨"app.__init__", [.bare "B"]⟩ (List.mem_cons_of_mem _ List.mem_cons_self)
    have hname := hlast ⟨"app.__init__", [.bare "B"]⟩
      (List.mem_cons_of_mem _ List.mem_cons_self) rfl
    simp only [twinTree, List.mem_cons, List.not_mem_nil, or_false] at hk
    rcases hk with rfl | rfl
    · exact absurd hname (by decide)
    · exact htext

end StubTree

end TypeStubs
