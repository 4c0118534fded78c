import TypeStubs.Compiler.Plugin
import TypeStubs.Proofs.Accessors
import TypeStubs.Proofs.LetterCase
import TypeStubs.Proofs.Work

/-!
# Compilers by name

Under each name stands one source of a compiler: the built-in one, or else the first plugin of that
name. A request makes the compilers of the names it asks for, in the order of all names, and looks
at no other source.
-/

namespace TypeStubs

variable {C : Type}

namespace Plugin

/-- What loading a plugin and making a compiler of it gives. -/
def made (p : Plugin C) : Except Fault (Compiler C) := do compilerOf (← p.target)

def Loads (p : Plugin C) : Prop := ∃ t, p.loaded = .ok t

end Plugin

namespace Compiler

open ClassNode (eraseDups_concat)

def builtInKey : String := key GeneratorCompiler.name

/-- What makes the compiler of a name: the built-in one, or else the first plugin of that name. -/
def source? (builtIn : Except Fault GeneratorCompiler) (plugins : List (Plugin C)) (k : String) :
    Option (Except Fault (Compiler C)) :=
  if k = builtInKey then some (builtIn.map .generators)
  else (plugins.find? fun p => key p.name = k).map Plugin.made

/-- The names there are, in lower case: the built-in one, and those of plugins where each first
comes up. -/
def keys (plugins : List (Plugin C)) : List String :=
  (builtInKey :: plugins.map fun p => key p.name).eraseDups

/-- The compiler of a name, with the name. -/
def entry (builtIn : Except Fault GeneratorCompiler) (plugins : List (Plugin C)) (k : String) :
    Except Fault (String × Compiler C) :=
  match source? builtIn plugins k with
  | some made => made.map (k, ·)
  | none => .error .noKey

variable {builtIn : Except Fault GeneratorCompiler} {plugins : List (Plugin C)} {p : Plugin C}
  {k : String}

/-! ## Names and sources -/

theorem mem_keys_iff : k ∈ keys plugins ↔ k = builtInKey ∨ ∃ p ∈ plugins, key p.name = k := by
  rw [keys, List.mem_eraseDups, List.mem_cons, List.mem_map]

theorem keys_concat : keys (plugins ++ [p]) =
    if key p.name ∈ keys plugins then keys plugins else keys plugins ++ [key p.name] := by
  have hconcat := eraseDups_concat (builtInKey :: plugins.map fun p => key p.name) (key p.name)
  simp only [← List.mem_eraseDups (l := builtInKey :: _)] at hconcat
  rw [keys, List.map_append, List.map_singleton, ← List.cons_append, hconcat]
  rfl

theorem source?_isSome_iff (builtIn : Except Fault GeneratorCompiler) :
    (source? builtIn plugins k).isSome ↔ k ∈ keys plugins := by
  rw [mem_keys_iff, source?]
  by_cases hk : k = builtInKey
  · simp [hk]
  · simp [hk]

theorem source?_concat (h : k ∈ keys plugins) :
    source? builtIn (plugins ++ [p]) k = source? builtIn plugins k := by
  unfold source?
  by_cases hk : k = builtInKey
  · rw [if_pos hk, if_pos hk]
  · rw [if_neg hk, if_neg hk, List.find?_append, Option.or_of_isSome]
    rw [List.find?_isSome]
    obtain ⟨q, hq, hname⟩ := (mem_keys_iff.mp h).resolve_left hk
    exact ⟨q, hq, by simpa using hname⟩

theorem source?_concat_self (h : key p.name ∉ keys plugins) :
    source? builtIn (plugins ++ [p]) (key p.name) = some p.made := by
  rw [mem_keys_iff, not_or] at h
  have hnone : plugins.find? (fun q => key q.name = key p.name) = none := by
    rw [List.find?_eq_none]
    exact fun q hq hname => h.2 ⟨q, hq, by simpa using hname⟩
  rw [source?, if_neg h.1, List.find?_append, hnone]
  simp

/-! ## Taking the compilers of names -/

theorem entry_eq_ok_iff {e : String × Compiler C} :
    entry builtIn plugins k = .ok e ↔ k = e.1 ∧ source? builtIn plugins e.1 = some (.ok e.2) := by
  obtain ⟨k', c⟩ := e
  unfold entry
  constructor
  · intro h
    split at h
    · rename_i made hmade
      obtain ⟨c', rfl, hpair⟩ := map_eq_ok_iff.mp h
      obtain ⟨rfl, rfl⟩ := Prod.mk.inj hpair
      exact ⟨rfl, hmade⟩
    · simp at h
  · rintro ⟨rfl, h⟩
    simp only [h]
    rfl

theorem mapM_entry_eq_ok_iff {ks : List String} {found : NamedCompilers C} :
    ks.mapM (entry builtIn plugins) = .ok found ↔
      ks = found.map Prod.fst ∧ ∀ e ∈ found, source? builtIn plugins e.1 = some (.ok e.2) := by
  rw [mapM_eq_ok_iff]
  constructor
  · intro h
    induction h with
    | nil => simp
    | @cons k e ks found he h ih =>
        obtain ⟨rfl, hsource⟩ := entry_eq_ok_iff.mp he
        exact ⟨by simp [← ih.1], List.forall_mem_cons.mpr ⟨hsource, ih.2⟩⟩
  · rintro ⟨rfl, h⟩
    rw [List.forall₂_map_left_iff, List.forall₂_same]
    exact fun e he => entry_eq_ok_iff.mpr ⟨rfl, h e he⟩

theorem mapM_entry_congr {builtIn' : Except Fault GeneratorCompiler} {plugins' : List (Plugin C)}
    {ks : List String} (h : ∀ k ∈ ks, source? builtIn' plugins' k = source? builtIn plugins k) :
    ks.mapM (entry builtIn' plugins') = ks.mapM (entry builtIn plugins) := by
  induction ks with
  | nil => rfl
  | cons k ks ih =>
      have hentry : entry builtIn' plugins' k = entry builtIn plugins k := by
        rw [entry, entry, h k List.mem_cons_self]
      have hrest := ih fun k' hk' => h k' (List.mem_cons_of_mem k hk')
      rw [List.mapM_cons, List.mapM_cons, hentry, hrest]

theorem exists_mapM_entry {ks : List String}
    (h : ∀ k ∈ ks, ∃ c, source? builtIn plugins k = some (.ok c)) :
    ∃ found, ks.mapM (entry builtIn plugins) = .ok found := by
  induction ks with
  | nil => exact ⟨[], rfl⟩
  | cons k ks ih =>
      obtain ⟨c, hc⟩ := h k List.mem_cons_self
      obtain ⟨found, hfound⟩ := ih fun k' hk' => h k' (List.mem_cons_of_mem k hk')
      have hentry : entry builtIn plugins k = .ok (k, c) := entry_eq_ok_iff.mpr ⟨rfl, hc⟩
      exact ⟨(k, c) :: found, by rw [List.mapM_cons, hentry, hfound]; rfl⟩

/-! ## The pass over the plugins -/

theorem takePlugin_of_loads (hp : p.Loads) (wanted : Option (List String))
    (found : NamedCompilers C) :
    takePlugin wanted found p =
      if isNeeded wanted found p.name then p.made.map fun c => found ++ [(key p.name, c)]
      else .ok found := by
  obtain ⟨t, ht⟩ := hp
  have htarget : p.target = .ok t := by simp [Plugin.target, ht]
  rw [takePlugin, Plugin.made, htarget, ok_bind, ok_bind]
  split
  · cases Plugin.compilerOf t <;> rfl
  · rfl

theorem lookup_isNone_iff {found : NamedCompilers C} :
    (found.lookup k).isNone ↔ k ∉ found.map Prod.fst := by
  rw [Option.isNone_iff_eq_none, List.lookup_eq_none_iff, List.mem_map]
  constructor
  · rintro h ⟨e, he, rfl⟩
    simpa using h e he
  · intro h e he
    exact bne_iff_ne.mpr fun heq => h ⟨e, he, heq.symm⟩

theorem takeBuiltIn_eq (builtIn : Except Fault GeneratorCompiler) (wanted : Option (List String)) :
    takeBuiltIn builtIn wanted =
      ((keys ([] : List (Plugin C))).filter (isWanted wanted)).mapM
        (entry builtIn ([] : List (Plugin C))) := by
  have hkeys : keys ([] : List (Plugin C)) = [builtInKey] := rfl
  have hentry : entry builtIn ([] : List (Plugin C)) builtInKey =
      builtIn.map fun g => (builtInKey, .generators g) := by
    simp only [entry, source?]
    cases builtIn <;> rfl
  have hneeded : isNeeded wanted ([] : NamedCompilers C) GeneratorCompiler.name =
      isWanted wanted builtInKey := by
    simp [isNeeded, builtInKey]
  rw [hkeys, takeBuiltIn, hneeded]
  by_cases hwanted : isWanted wanted builtInKey
  · rw [List.filter_cons_of_pos hwanted, List.filter_nil, List.mapM_cons, List.mapM_nil, hentry,
      if_pos hwanted]
    cases builtIn <;> rfl
  · rw [List.filter_cons_of_neg hwanted, List.filter_nil, List.mapM_nil, if_neg hwanted]

/-- One more plugin leaves the compilers that were made as they are. -/
theorem mapM_entry_concat (p : Plugin C) (wanted : Option (List String)) :
    ((keys (plugins ++ [p])).filter (isWanted wanted)).mapM (entry builtIn (plugins ++ [p])) = (do
      let found ← ((keys plugins).filter (isWanted wanted)).mapM (entry builtIn plugins)
      if key p.name ∉ keys plugins ∧ isWanted wanted (key p.name) then
        p.made.map fun c => found ++ [(key p.name, c)]
      else .ok found) := by
  have hkept : ((keys plugins).filter (isWanted wanted)).mapM (entry builtIn (plugins ++ [p])) =
      ((keys plugins).filter (isWanted wanted)).mapM (entry builtIn plugins) :=
    mapM_entry_congr fun k hk => source?_concat (List.mem_of_mem_filter hk)
  rw [keys_concat]
  by_cases htaken : key p.name ∈ keys plugins
  · rw [if_pos htaken, hkept]
    simp only [htaken, not_true_eq_false, false_and, if_false]
    exact (bind_pure _).symm
  · rw [if_neg htaken, List.filter_append, List.mapM_append, hkept]
    refine congrArg _ (funext fun found => ?_)
    by_cases hwanted : isWanted wanted (key p.name)
    · have hentry : entry builtIn (plugins ++ [p]) (key p.name) =
          p.made.map (key p.name, ·) := by
        rw [entry, source?_concat_self htaken]
      rw [List.filter_cons_of_pos hwanted, List.filter_nil, List.mapM_cons, List.mapM_nil, hentry,
        if_pos ⟨htaken, hwanted⟩]
      cases p.made <;> rfl
    · rw [List.filter_cons_of_neg hwanted, List.filter_nil, List.mapM_nil,
        if_neg fun h => hwanted h.2]
      exact congrArg Except.ok (List.append_nil found)

/-- A plugin is left out if its name was taken before, so that the pass makes the compilers of the
names there are, as far as they are wanted. -/
theorem foldlM_takePlugin (builtIn : Except Fault GeneratorCompiler)
    (hloads : ∀ p ∈ plugins, p.Loads) (wanted : Option (List String)) :
    (do plugins.foldlM (takePlugin wanted) (← takeBuiltIn builtIn wanted)) =
      ((keys plugins).filter (isWanted wanted)).mapM (entry builtIn plugins) := by
  induction plugins using List.reverseRecOn with
  | nil =>
      rw [← takeBuiltIn_eq]
      exact bind_pure _
  | append_singleton plugins p ih =>
      have hp : p.Loads := hloads p (by simp)
      have hbefore := ih fun q hq => hloads q (List.mem_append_left _ hq)
      simp only [List.foldlM_append, List.foldlM_cons, List.foldlM_nil, bind_pure]
      rw [← bind_assoc, hbefore, mapM_entry_concat]
      cases hfound : ((keys plugins).filter (isWanted wanted)).mapM (entry builtIn plugins) with
      | error f => rfl
      | ok found =>
          have hnames : found.map Prod.fst = (keys plugins).filter (isWanted wanted) :=
            (mapM_entry_eq_ok_iff.mp hfound).1.symm
          have hneeded : isNeeded wanted found p.name ↔
              key p.name ∉ keys plugins ∧ isWanted wanted (key p.name) := by
            rw [isNeeded, Bool.and_eq_true, lookup_isNone_iff, hnames, List.mem_filter]
            exact ⟨fun ⟨hnot, hw⟩ => ⟨fun hk => hnot ⟨hk, hw⟩, hw⟩,
              fun ⟨hk, hw⟩ => ⟨fun h => hk h.1, hw⟩⟩
          rw [ok_bind, ok_bind, takePlugin_of_loads hp]
          simp only [hneeded]

/-- A request makes the compilers of the names that it asks for and then looks whether one is
missing. -/
theorem discover_eq (hloads : ∀ p ∈ plugins, p.Loads) (enabled : Option (List String)) :
    discover builtIn plugins enabled = (do
      let wanted := enabled.map fun names => names.map key
      let found ← ((keys plugins).filter (isWanted wanted)).mapM (entry builtIn plugins)
      match unknownNames (wanted.getD []) found with
      | [] => return found
      | names => throw (.unknownCompilers names)) := by
  have hpass := foldlM_takePlugin builtIn hloads (enabled.map fun names => names.map key)
  rw [discover]
  dsimp only
  rw [← hpass]
  exact (bind_assoc _ _ _).symm

/-! ## Names that are not there -/

theorem mem_insertName {name other : String} {names : List String} :
    other ∈ insertName name names ↔ other = name ∨ other ∈ names := by
  induction names with
  | nil => simp [insertName]
  | cons n names ih =>
      rw [insertName]
      split
      · rename_i heq
        simp [heq]
      · split
        · simp
        · rw [List.mem_cons, ih, List.mem_cons, or_left_comm]

theorem sorted_insertName (name : String) {names : List String} (h : names.Pairwise (· < ·)) :
    (insertName name names).Pairwise (· < ·) := by
  induction names with
  | nil => simp [insertName]
  | cons n names ih =>
      obtain ⟨hn, hnames⟩ := List.pairwise_cons.mp h
      rw [insertName]
      split
      · exact h
      · split
        · rename_i hne hlt
          refine List.pairwise_cons.mpr ⟨fun m hm => ?_, h⟩
          rcases List.mem_cons.mp hm with rfl | hm
          · exact hlt
          · exact String.lt_trans hlt (hn m hm)
        · rename_i hne hnot
          refine List.pairwise_cons.mpr ⟨fun m hm => ?_, ih hnames⟩
          rcases mem_insertName.mp hm with rfl | hm
          · by_contra hle
            exact hne (String.le_antisymm (String.not_lt.mp hle) (String.not_lt.mp hnot))
          · exact hn m hm

theorem mem_unknownNames {wanted : List String} {found : NamedCompilers C} :
    k ∈ unknownNames wanted found ↔ k ∈ wanted ∧ k ∉ found.map Prod.fst := by
  have hfold : ∀ (ks done : List String),
      k ∈ ks.foldl (fun names k => insertName k names) done ↔ k ∈ ks ∨ k ∈ done := by
    intro ks
    induction ks with
    | nil => simp
    | cons k' ks ih =>
        intro done
        rw [List.foldl_cons, ih, mem_insertName, List.mem_cons, or_left_comm, or_assoc]
  rw [unknownNames, hfold, List.mem_filter, lookup_isNone_iff]
  simp

theorem sorted_unknownNames (wanted : List String) (found : NamedCompilers C) :
    (unknownNames wanted found).Pairwise (· < ·) := by
  unfold unknownNames
  generalize wanted.filter _ = ks
  induction ks using List.reverseRecOn with
  | nil => exact .nil
  | append_singleton ks k ih =>
      rw [List.foldl_append, List.foldl_cons, List.foldl_nil]
      exact sorted_insertName k ih

theorem unknownNames_congr {wanted wanted' : List String} (h : ∀ k, k ∈ wanted ↔ k ∈ wanted')
    (found : NamedCompilers C) : unknownNames wanted found = unknownNames wanted' found := by
  have hnodup : ∀ ks, (unknownNames ks found).Nodup := by
    intro ks
    refine (sorted_unknownNames ks found).imp fun {a b} hlt => ?_
    rintro rfl
    exact String.lt_irrefl a hlt
  have hperm : (unknownNames wanted found).Perm (unknownNames wanted' found) := by
    rw [List.perm_ext_iff_of_nodup (hnodup _) (hnodup _)]
    intro k
    rw [mem_unknownNames, mem_unknownNames, h]
  refine hperm.eq_of_pairwise (fun a b _ _ hab hba => ?_) (sorted_unknownNames wanted found)
    (sorted_unknownNames wanted' found)
  exact (String.lt_asymm hab hba).elim

/-! ## Requests -/

/-- Two requests with the same names, in any order and any number of times, in letters of either
case. -/
def SameRequest (names names' : List String) : Prop :=
  (∀ n ∈ names, ∃ n' ∈ names', Text.SameLetters n.toList n'.toList) ∧
    ∀ n' ∈ names', ∃ n ∈ names, Text.SameLetters n.toList n'.toList

instance (names names' : List String) : Decidable (SameRequest names names') :=
  inferInstanceAs (Decidable (_ ∧ _))

theorem SameRequest.mem_keys_iff {names names' : List String} (h : SameRequest names names')
    (k : String) : k ∈ names.map key ↔ k ∈ names'.map key := by
  rw [List.mem_map, List.mem_map]
  constructor
  · rintro ⟨n, hn, rfl⟩
    obtain ⟨n', hn', hsame⟩ := h.1 n hn
    exact ⟨n', hn', (Text.lower_congr hsame).symm⟩
  · rintro ⟨n', hn', rfl⟩
    obtain ⟨n, hn, hsame⟩ := h.2 n' hn'
    exact ⟨n, hn, Text.lower_congr hsame⟩

theorem discover_congr {names names' : List String}
    (h : ∀ k, k ∈ names.map key ↔ k ∈ names'.map key) :
    discover builtIn plugins (some names) = discover builtIn plugins (some names') := by
  have hneeded : @isNeeded C (some (names.map key)) = isNeeded (some (names'.map key)) := by
    funext found name
    have hwanted : isWanted (some (names.map key)) (key name) =
        isWanted (some (names'.map key)) (key name) := by
      rw [Bool.eq_iff_iff]
      simpa [isWanted] using h (key name)
    rw [isNeeded, isNeeded, hwanted]
  have hplugin : @takePlugin C (some (names.map key)) = takePlugin (some (names'.map key)) := by
    funext found p
    rw [takePlugin, takePlugin, hneeded]
  simp only [discover, takeBuiltIn, Option.map_some, Option.getD_some, hneeded, hplugin,
    unknownNames_congr h]

/-- The sources of the names asked for are all that a request depends on. -/
theorem discover_of_sources {builtIn' : Except Fault GeneratorCompiler} {plugins' : List (Plugin C)}
    (hloads : ∀ p ∈ plugins, p.Loads) (hloads' : ∀ p ∈ plugins', p.Loads)
    (hnames : plugins'.map Plugin.name = plugins.map Plugin.name) {enabled : Option (List String)}
    (hsources : ∀ k ∈ keys plugins, isWanted (enabled.map fun names => names.map key) k →
      source? builtIn' plugins' k = source? builtIn plugins k) :
    discover builtIn' plugins' enabled = discover builtIn plugins enabled := by
  have hkeys : keys plugins' = keys plugins := by
    have hmap : ∀ ps : List (Plugin C),
        keys ps = (builtInKey :: (ps.map Plugin.name).map key).eraseDups := by
      intro ps
      rw [List.map_map]
      rfl
    rw [hmap, hmap, hnames]
  rw [discover_eq hloads, discover_eq hloads', hkeys]
  dsimp only
  rw [mapM_entry_congr fun k hk => hsources k (List.mem_of_mem_filter hk) (List.mem_filter.mp hk).2]

theorem exists_source (hbuiltIn : ∃ g, builtIn = .ok g)
    (hmade : ∀ p ∈ plugins, ∃ c, p.made = .ok c) (hk : k ∈ keys plugins) :
    ∃ c, source? builtIn plugins k = some (.ok c) := by
  unfold source?
  by_cases hkey : k = builtInKey
  · obtain ⟨g, rfl⟩ := hbuiltIn
    exact ⟨.generators g, if_pos hkey⟩
  · obtain ⟨q, hq, hname⟩ := (mem_keys_iff.mp hk).resolve_left hkey
    have hsome : (plugins.find? fun p => key p.name = k).isSome := by
      rw [List.find?_isSome]
      exact ⟨q, hq, by simpa using hname⟩
    obtain ⟨p, hp⟩ := Option.isSome_iff_exists.mp hsome
    obtain ⟨c, hc⟩ := hmade p (List.mem_of_find?_eq_some hp)
    exact ⟨c, by rw [if_neg hkey, hp, Option.map_some, hc]⟩

/-- All names are answered if every source gives a compiler. -/
theorem exists_discover_none (hloads : ∀ p ∈ plugins, p.Loads)
    (hmade : ∀ k ∈ keys plugins, ∃ c, source? builtIn plugins k = some (.ok c)) :
    ∃ all, discover builtIn plugins none = .ok all ∧ all.map Prod.fst = keys plugins ∧
      ∀ e ∈ all, source? builtIn plugins e.1 = some (.ok e.2) := by
  obtain ⟨all, hall⟩ := exists_mapM_entry hmade
  obtain ⟨hkeys, hsources⟩ := mapM_entry_eq_ok_iff.mp hall
  refine ⟨all, ?_, hkeys.symm, hsources⟩
  have hfilter : (keys plugins).filter (isWanted none) = keys plugins :=
    List.filter_eq_self.mpr fun k _ => rfl
  rw [discover_eq hloads]
  dsimp only [Option.map_none]
  rw [hfilter, hall]
  rfl

theorem discover_some_of_made {names : List String} {found : NamedCompilers C}
    (hloads : ∀ p ∈ plugins, p.Loads)
    (hfound : ((keys plugins).filter (isWanted (some (names.map key)))).mapM
      (entry builtIn plugins) = .ok found) :
    discover builtIn plugins (some names) =
      match unknownNames (names.map key) found with
      | [] => .ok found
      | unknown => .error (.unknownCompilers unknown) := by
  rw [discover_eq hloads]
  dsimp only [Option.map_some, Option.getD_some]
  rw [hfound, ok_bind]
  rfl

theorem exists_of_made {names : List String}
    (hmade : ∀ name ∈ names, ∀ made, source? builtIn plugins (key name) = some made →
      ∃ c, made = .ok c) :
    ∃ found, ((keys plugins).filter (isWanted (some (names.map key)))).mapM
      (entry builtIn plugins) = .ok found := by
  refine exists_mapM_entry fun k hk => ?_
  obtain ⟨hkey, hwanted⟩ := List.mem_filter.mp hk
  obtain ⟨made, hsource⟩ := Option.isSome_iff_exists.mp ((source?_isSome_iff builtIn).mpr hkey)
  obtain ⟨name, hname, rfl⟩ : ∃ name ∈ names, key name = k := by simpa [isWanted] using hwanted
  obtain ⟨c, rfl⟩ := hmade name hname made hsource
  exact ⟨c, hsource⟩

/-- The names that are missing are those asked for that no source has. -/
theorem discover_of_missing {names : List String} (hloads : ∀ p ∈ plugins, p.Loads)
    (hmade : ∀ name ∈ names, ∀ made, source? builtIn plugins (key name) = some made →
      ∃ c, made = .ok c)
    (hmissing : ∃ name ∈ names, key name ∉ keys plugins) :
    ∃ unknown, discover builtIn plugins (some names) = .error (.unknownCompilers unknown) ∧
      ∀ k, k ∈ unknown ↔ k ∈ names.map key ∧ k ∉ keys plugins := by
  obtain ⟨found, hfound⟩ := exists_of_made hmade
  have hkeys : ∀ k, k ∈ found.map Prod.fst ↔ k ∈ keys plugins ∧ k ∈ names.map key := by
    intro k
    rw [← (mapM_entry_eq_ok_iff.mp hfound).1, List.mem_filter, isWanted, List.contains_iff_mem]
  have hunknown : ∀ k, k ∈ unknownNames (names.map key) found ↔
      k ∈ names.map key ∧ k ∉ keys plugins := by
    intro k
    rw [mem_unknownNames, hkeys]
    exact and_congr_right fun hname => not_congr (and_iff_left hname)
  obtain ⟨name, hname, hnone⟩ := hmissing
  have hmem : key name ∈ unknownNames (names.map key) found :=
    (hunknown _).mpr ⟨List.mem_map_of_mem hname, hnone⟩
  refine ⟨unknownNames (names.map key) found, ?_, hunknown⟩
  rw [discover_some_of_made hloads hfound]
  split
  · rename_i hnil
    rw [hnil] at hmem
    exact (List.not_mem_nil hmem).elim
  · rfl

/-- If every name asked for is there, the compilers are those of these names among all. -/
theorem discover_of_present {names : List String} {all : NamedCompilers C}
    (hloads : ∀ p ∈ plugins, p.Loads) (hkeys : all.map Prod.fst = keys plugins)
    (hsources : ∀ e ∈ all, source? builtIn plugins e.1 = some (.ok e.2))
    (hthere : ∀ name ∈ names, key name ∈ keys plugins) :
    discover builtIn plugins (some names) =
      .ok (all.filter fun e => (names.map key).contains e.1) := by
  have hfound : ((keys plugins).filter (isWanted (some (names.map key)))).mapM
      (entry builtIn plugins) = .ok (all.filter fun e => (names.map key).contains e.1) := by
    rw [mapM_entry_eq_ok_iff, ← hkeys, List.filter_map]
    exact ⟨rfl, fun e he => hsources e (List.mem_of_mem_filter he)⟩
  have hnone : unknownNames (names.map key)
      (all.filter fun e => (names.map key).contains e.1) = [] := by
    refine List.eq_nil_iff_forall_not_mem.mpr fun k hk => ?_
    obtain ⟨hwanted, hmissing⟩ := mem_unknownNames.mp hk
    obtain ⟨name, hname, rfl⟩ := List.mem_map.mp hwanted
    have hkey : key name ∈ all.map Prod.fst := hkeys ▸ hthere name hname
    obtain ⟨e, he, heq⟩ := List.mem_map.mp hkey
    refine hmissing (List.mem_map.mpr ⟨e, List.mem_filter.mpr ⟨he, ?_⟩, heq⟩)
    rw [List.contains_iff_mem, heq]
    exact hwanted
  rw [discover_some_of_made hloads hfound, hnone]

/-- A request for names gives the compilers of these names among all there are, in the same order:
the built-in one first, then those of the plugins, the first of each name. It fails when a name is
not there. Neither the order of the names asked for nor the case of their letters matters, and
nothing depends on sources that are not asked for or stand behind another of their name. -/
theorem discover_selects (builtIn : Except Fault GeneratorCompiler)
    (hloads : ∀ p ∈ plugins, p.Loads) (names : List String) :
    ((∀ name ∈ names, ∀ made, source? builtIn plugins (key name) = some made → ∃ c, made = .ok c) →
      (∃ name ∈ names, key name ≠ builtInKey ∧ ∀ p ∈ plugins, key p.name ≠ key name) →
      ∃ unknown, discover builtIn plugins (some names) = .error (.unknownCompilers unknown) ∧
        (Fault.unknownCompilers unknown).family = .value ∧
        ∀ k, k ∈ unknown ↔ k ∈ names.map key ∧ k ∉ keys plugins) ∧
    ((∃ g, builtIn = .ok g) → (∀ p ∈ plugins, ∃ c, p.made = .ok c) →
      (∀ name ∈ names, key name = builtInKey ∨ ∃ p ∈ plugins, key p.name = key name) →
      ∃ all, discover builtIn plugins none = .ok all ∧
        discover builtIn plugins (some names) =
          .ok (all.filter fun e => (names.map key).contains e.1) ∧
        all.map Prod.fst = (builtInKey :: plugins.map fun p => key p.name).eraseDups ∧
        ∀ e ∈ all, source? builtIn plugins e.1 = some (.ok e.2)) ∧
    (∀ names', SameRequest names names' →
      discover builtIn plugins (some names') = discover builtIn plugins (some names)) ∧
    ∀ builtIn' plugins' enabled, (∀ p ∈ plugins', p.Loads) →
      plugins'.map Plugin.name = plugins.map Plugin.name →
      (∀ k ∈ keys plugins, isWanted (enabled.map fun ns => ns.map key) k →
        source? builtIn' plugins' k = source? builtIn plugins k) →
      discover builtIn' plugins' enabled = discover builtIn plugins enabled := by
  refine ⟨fun hmade hmissing => ?_, fun hbuiltIn hmade hthere => ?_,
    fun names' hsame => (discover_congr hsame.mem_keys_iff).symm,
    fun builtIn' plugins' enabled hloads' hnames hsources =>
      discover_of_sources hloads hloads' hnames hsources⟩
  · obtain ⟨name, hname, hne, hnone⟩ := hmissing
    have hunknown : key name ∉ keys plugins := by
      rw [mem_keys_iff, not_or]
      exact ⟨hne, fun ⟨p, hp, heq⟩ => hnone p hp heq⟩
    obtain ⟨unknown, hdiscover, hmem⟩ := discover_of_missing hloads hmade ⟨name, hname, hunknown⟩
    exact ⟨unknown, hdiscover, rfl, hmem⟩
  · obtain ⟨all, hdiscover, hkeys, hsources⟩ := exists_discover_none hloads fun k hk =>
      exists_source hbuiltIn hmade hk
    have hpresent : ∀ name ∈ names, key name ∈ keys plugins :=
      fun name hname => mem_keys_iff.mpr (hthere name hname)
    exact ⟨all, hdiscover, discover_of_present hloads hkeys hsources hpresent, hkeys, hsources⟩

/-- A plugin that is a compiler of a name and takes no classes. -/
def idle (name : String) : Plugin Nat :=
  ⟨name, .ok (.ready (.plugin ⟨"Idle", name, fun _ => pure [], fun _ _ => pure ()⟩))⟩

/-- Two plugins of one name, one of the name of the built-in compiler, and another. -/
def crowded : List (Plugin Nat) :=
  [idle "Lint", idle "LINT", idle "Generators", idle "docs"]

/-- The same names, but what stands behind others makes no compiler. -/
def crippled : List (Plugin Nat) :=
  [idle "Lint", ⟨"LINT", .ok (.other "7")⟩,
    ⟨"Generators", .ok (.factory "f" (.error .wrongType))⟩, idle "docs"]

theorem keys_crowded : keys crowded = ["generators", "lint", "docs"] := by decide +kernel

/-- The order of the names asked for is of no account, and neither is what they shadow. -/
theorem discover_selects_of_crowded :
    ∃ all, discover (.ok ⟨"lib.Root", []⟩) crowded none = .ok all ∧
      all.map Prod.fst = ["generators", "lint", "docs"] ∧
      discover (.ok ⟨"lib.Root", []⟩) crowded (some ["docs", "Lint"]) =
        .ok (all.filter fun e => ["docs", "lint"].contains e.1) ∧
      discover (.ok ⟨"lib.Root", []⟩) crowded (some ["LINT", "DOCS", "lint"]) =
        discover (.ok ⟨"lib.Root", []⟩) crowded (some ["docs", "Lint"]) ∧
      discover (.error .invalidPattern) crippled (some ["docs", "Lint"]) =
        discover (.ok ⟨"lib.Root", []⟩) crowded (some ["docs", "Lint"]) ∧
      ∃ unknown, discover (.ok ⟨"lib.Root", []⟩) crowded (some ["docs", "zip"]) =
        .error (.unknownCompilers unknown) := by
  have hloads : ∀ p ∈ crowded, p.Loads := by simp [crowded, idle, Plugin.Loads]
  have hloads' : ∀ p ∈ crippled, p.Loads := by simp [crippled, idle, Plugin.Loads]
  have hmade : ∀ p ∈ crowded, ∃ c, p.made = .ok c := by
    simp [crowded, idle, Plugin.made, Plugin.target, Plugin.compilerOf, ok_bind]
  have hthere : ∀ name ∈ ["docs", "Lint"],
      key name = builtInKey ∨ ∃ p ∈ crowded, key p.name = key name := by decide +kernel
  have hnames : (["docs", "Lint"] : List String).map key = ["docs", "lint"] := by decide +kernel
  obtain ⟨-, hselects, hsame, hsources⟩ :=
    discover_selects (.ok ⟨"lib.Root", []⟩) hloads ["docs", "Lint"]
  obtain ⟨hmissing, -⟩ := discover_selects (.ok ⟨"lib.Root", []⟩) hloads ["docs", "zip"]
  obtain ⟨all, hall, hsome, hkeys, -⟩ := hselects ⟨_, rfl⟩ hmade hthere
  rw [hnames] at hsome
  refine ⟨all, hall, hkeys.trans keys_crowded, hsome, hsame _ (by decide +kernel), ?_, ?_⟩
  · refine hsources _ _ _ hloads' (by decide +kernel) fun k hk hwanted => ?_
    rw [keys_crowded] at hk
    obtain rfl | rfl | rfl : k = "generators" ∨ k = "lint" ∨ k = "docs" := by simpa using hk
    · exact absurd hwanted (by decide +kernel)
    · rfl
    · rfl
  · have hneeded : ∀ name ∈ ["docs", "zip"], ∀ made,
        source? (.ok ⟨"lib.Root", []⟩) crowded (key name) = some made → ∃ c, made = .ok c := by
      intro name _ made hsource
      have hkey := (source?_isSome_iff _).mp (Option.isSome_of_eq_some hsource)
      obtain ⟨c, hc⟩ := exists_source ⟨_, rfl⟩ hmade hkey
      exact ⟨c, Option.some.inj (hsource.symm.trans hc)⟩
    obtain ⟨unknown, hunknown, -⟩ :=
      hmissing hneeded ⟨"zip", by simp, by decide +kernel, by decide +kernel⟩
    exact ⟨unknown, hunknown⟩

end Compiler

end TypeStubs
