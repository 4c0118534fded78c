import Mathlib.Data.List.Induction
import Mathlib.Data.List.Nodup
import TypeStubs.Disk.Basic
import TypeStubs.Proofs.Work

/-!
# Disks as maps

A disk is seen through what stands at each location. Every operation on it changes what stands at
few locations, and keeps it a tree: what stands anywhere stands in a directory.
-/

namespace TypeStubs.Disk

variable {d d' : Disk} {l m : Location} {e : Entry}

/-- The entries have different locations, none of them the root or with two dots in it, and each of
them is in a directory. -/
structure Sound (d : Disk) : Prop where
  nodup : (d.entries.map Prod.fst).Nodup
  named : ∀ p ∈ d.entries, p.1 ≠ [] ∧ ".." ∉ p.1
  parent : ∀ p ∈ d.entries, d.at? p.1.dropLast = some .directory

/-- The bytes of the file at a location. -/
def fileAt? (d : Disk) (l : Location) : Option (List UInt8) :=
  match d.at? l with
  | some (.file bytes) => some bytes
  | _ => none

theorem fileAt?_eq_some_iff {bytes : List UInt8} :
    d.fileAt? l = some bytes ↔ d.at? l = some (.file bytes) := by
  unfold fileAt?
  split
  · rename_i bytes' hat
    rw [hat, Option.some.injEq, Option.some.injEq, Entry.file.injEq]
  · rename_i hat
    exact ⟨fun h => by simp at h, fun h => (hat bytes h).elim⟩

/-! ## Single locations -/

theorem at?_of_ne_nil (d : Disk) (hl : l ≠ []) : d.at? l = d.entries.lookup l := by
  rw [at?, if_neg]
  simpa using hl

theorem lookup_replace (entries : List (Location × Entry)) (l m : Location) (e : Entry) :
    (entries.map fun p => if p.1 = l then (l, e) else p).lookup m =
      if m = l then (entries.lookup l).map fun _ => e else entries.lookup m := by
  induction entries with
  | nil => simp
  | cons p entries ih =>
      obtain ⟨k, e'⟩ := p
      by_cases hk : k = l
      · by_cases hm : m = l
        · simp [hk, hm]
        · simp [List.lookup_cons, hk, hm, beq_false_of_ne hm, ih]
      · by_cases hm : m = k
        · simp [hm, hk]
        · simp [List.lookup_cons, hk, beq_false_of_ne hm, beq_false_of_ne (Ne.symm hk), ih]

theorem at?_put (hl : l ≠ []) (m : Location) :
    (d.put l e).at? m = if m = l then some e else d.at? m := by
  by_cases hm : m = []
  · rw [hm, if_neg (Ne.symm hl)]
    rfl
  · rw [at?_of_ne_nil _ hm, at?_of_ne_nil _ hm, put]
    dsimp only
    split
    · rename_i h
      obtain ⟨e', he'⟩ := Option.isSome_iff_exists.mp h
      rw [lookup_replace, he']
      rfl
    · rename_i h
      rw [Option.not_isSome_iff_eq_none] at h
      rw [List.lookup_append]
      by_cases hml : m = l
      · rw [if_pos hml, hml, h]
        simp
      · rw [if_neg hml]
        simp [List.lookup_cons, beq_false_of_ne hml]

theorem at?_erase (hl : l ≠ []) (m : Location) :
    (d.erase l).at? m = if m = l then none else d.at? m := by
  by_cases hm : m = []
  · rw [hm, if_neg (Ne.symm hl)]
    rfl
  · rw [at?_of_ne_nil _ hm, at?_of_ne_nil _ hm, erase]
    dsimp only
    induction d.entries with
    | nil => simp
    | cons p entries ih =>
        obtain ⟨k, e⟩ := p
        rw [List.filter_cons]
        by_cases hk : k = l
        · by_cases hml : m = l
          · simpa [hk, hml] using ih
          · simpa [hk, hml, List.lookup_cons, beq_false_of_ne hml] using ih
        · by_cases hmk : m = k
          · have hml : m ≠ l := hmk ▸ hk
            simp [hk, hmk]
          · simpa [hk, List.lookup_cons, beq_false_of_ne hmk] using ih

namespace Sound

theorem mem_entries_iff (h : d.Sound) : (l, e) ∈ d.entries ↔ l ≠ [] ∧ d.at? l = some e := by
  constructor
  · intro hmem
    have hl : l ≠ [] := (h.named _ hmem).1
    rw [at?_of_ne_nil d hl]
    exact ⟨hl, (lookup_eq_some_iff h.nodup (p := (l, e))).mpr hmem⟩
  · rintro ⟨hl, he⟩
    rw [at?_of_ne_nil d hl] at he
    exact (lookup_eq_some_iff h.nodup (p := (l, e))).mp he

theorem exists_entry (h : d.Sound) (hl : l ≠ []) (hat : d.at? l ≠ none) :
    ∃ e, (l, e) ∈ d.entries := by
  obtain ⟨e, he⟩ := Option.ne_none_iff_exists'.mp hat
  exact ⟨e, h.mem_entries_iff.mpr ⟨hl, he⟩⟩

/-- Entries below a location have different names. -/
theorem pairwise_below (h : d.Sound) (l : Location) :
    (d.below l).Pairwise fun p q => p.1 ≠ q.1 := by
  have hentries : d.entries.Pairwise fun p q => p.1 ≠ q.1 := List.pairwise_map.mp h.nodup
  unfold below
  rw [List.pairwise_filterMap]
  refine hentries.imp ?_
  intro p q hpq p' hp' q' hq' heq
  rw [Option.ite_none_right_eq_some, Bool.and_eq_true, List.isPrefixOf_iff_prefix] at hp' hq'
  obtain ⟨⟨⟨rest, hp⟩, -⟩, hp'⟩ := hp'
  obtain ⟨⟨⟨rest', hq⟩, -⟩, hq'⟩ := hq'
  obtain rfl := Option.some.inj hp'
  obtain rfl := Option.some.inj hq'
  dsimp only at heq
  rw [← hp, ← hq, List.drop_left, List.drop_left] at heq
  exact hpq (by rw [← hp, ← hq, heq])

/-- What is there is in a directory. -/
theorem at?_dropLast (h : d.Sound) (hat : d.at? l ≠ none) :
    d.at? l.dropLast = some .directory := by
  by_cases hl : l = []
  · rw [hl]
    rfl
  · obtain ⟨e, he⟩ := h.exists_entry hl hat
    exact h.parent _ he

theorem notMem_of_at? (h : d.Sound) (hat : d.at? l ≠ none) : ".." ∉ l := by
  by_cases hl : l = []
  · simp [hl]
  · obtain ⟨e, he⟩ := h.exists_entry hl hat
    exact (h.named _ he).2

/-- What is on the way to something is a directory. -/
theorem at?_of_append (h : d.Sound) {names : Location} (hnames : names ≠ [])
    (hat : d.at? (l ++ names) ≠ none) : d.at? l = some .directory := by
  induction names using List.reverseRecOn with
  | nil => exact (hnames rfl).elim
  | append_singleton names name ih =>
      rw [← List.append_assoc] at hat
      have hparent := h.at?_dropLast hat
      rw [List.dropLast_concat] at hparent
      by_cases hnames : names = []
      · rwa [hnames, List.append_nil] at hparent
      · exact ih hnames (by rw [hparent]; simp)

/-- There is nothing in what is no directory. -/
theorem at?_append_eq_none (h : d.Sound) {names : Location} (hat : d.at? l ≠ some .directory)
    (hnames : names ≠ []) : d.at? (l ++ names) = none := by
  by_contra hthere
  exact hat (h.at?_of_append hnames hthere)

theorem put (h : d.Sound) {name : String} (hname : name ≠ "..") (hl : ".." ∉ l)
    (hparent : d.at? l = some .directory) (hat : d.at? (l ++ [name]) ≠ some .directory) :
    (d.put (l ++ [name]) e).Sound := by
  have hne : l ++ [name] ≠ [] := by simp
  have hself : l ≠ l ++ [name] := fun heq => by simpa using congrArg List.length heq
  have hkeys : ∀ p ∈ (d.put (l ++ [name]) e).entries,
      p.1 = l ++ [name] ∨ ∃ q ∈ d.entries, q.1 = p.1 := by
    intro p hp
    unfold Disk.put at hp
    dsimp only at hp
    split at hp
    · obtain ⟨q, hq, rfl⟩ := List.mem_map.mp hp
      by_cases hkey : q.1 = l ++ [name]
      · rw [if_pos hkey]
        exact Or.inl rfl
      · rw [if_neg hkey]
        exact Or.inr ⟨q, hq, rfl⟩
    · rcases List.mem_append.mp hp with hp | hp
      · exact Or.inr ⟨p, hp, rfl⟩
      · rw [List.mem_singleton.mp hp]
        exact Or.inl rfl
  constructor
  · unfold Disk.put
    dsimp only
    split
    · have hsame : (d.entries.map fun p => if p.1 = l ++ [name] then (l ++ [name], e) else p).map
          Prod.fst = d.entries.map Prod.fst := by
        rw [List.map_map]
        refine List.map_congr_left fun p _ => ?_
        rw [Function.comp_apply]
        split
        · rename_i hkey
          exact hkey.symm
        · rfl
      rw [hsame]
      exact h.nodup
    · rename_i hnew
      rw [List.map_append, List.nodup_append']
      refine ⟨h.nodup, by simp, ?_⟩
      rintro k hk hk'
      obtain rfl := List.mem_singleton.mp hk'
      obtain ⟨q, hq, heq⟩ := List.mem_map.mp hk
      have hlookup := (lookup_eq_some_iff h.nodup).mpr hq
      rw [heq] at hlookup
      exact hnew (by rw [hlookup]; rfl)
  · intro p hp
    rcases hkeys p hp with heq | ⟨q, hq, heq⟩
    · rw [heq]
      refine ⟨hne, ?_⟩
      rw [List.mem_append, List.mem_singleton, not_or]
      exact ⟨hl, Ne.symm hname⟩
    · exact heq ▸ h.named q hq
  · intro p hp
    rw [at?_put hne]
    rcases hkeys p hp with heq | ⟨q, hq, heq⟩
    · rw [heq, List.dropLast_concat, if_neg hself]
      exact hparent
    · have hdirectory := heq ▸ h.parent q hq
      rw [if_neg]
      · exact hdirectory
      · exact fun hkey => hat (hkey ▸ hdirectory)

theorem erase (h : d.Sound) (hl : l ≠ []) (halone : ∀ name, d.at? (l ++ [name]) = none) :
    (d.erase l).Sound := by
  have hentries : ∀ p ∈ (d.erase l).entries, p ∈ d.entries := fun p hp => List.mem_of_mem_filter hp
  constructor
  · exact h.nodup.sublist (List.filter_sublist.map Prod.fst)
  · exact fun p hp => h.named p (hentries p hp)
  · intro p hp
    have hmem := hentries p hp
    have hkey : p.1 ≠ [] := (h.named p hmem).1
    rw [at?_erase hl, if_neg]
    · exact h.parent p hmem
    · intro heq
      have hchild : p.1 = l ++ [p.1.getLast hkey] := by
        rw [← heq, List.dropLast_append_getLast]
      have hthere := (h.mem_entries_iff.mp hmem).2
      rw [hchild, halone] at hthere
      simp at hthere

end Sound

end TypeStubs.Disk
