import Mathlib.Data.List.Basic
import TypeStubs.StubTree

/-!
# Segments of dotted names

Taking a text apart at a separator loses nothing: the pieces put together again give the text, so
that different paths lead to different sites.
-/

namespace TypeStubs

namespace Text

theorem pieces_ne_nil (sep : Char) (cs : List Char) : pieces sep cs ≠ [] := by
  cases cs with
  | nil => simp [pieces]
  | cons c cs =>
      rw [pieces]
      split
      · simp
      · split <;> simp

theorem pieces_cons (sep c : Char) (cs : List Char) :
    ∃ p ps, pieces sep cs = p :: ps ∧
      pieces sep (c :: cs) = if c = sep then [] :: p :: ps else (c :: p) :: ps := by
  obtain ⟨p, ps, hps⟩ := List.exists_cons_of_ne_nil (pieces_ne_nil sep cs)
  exact ⟨p, ps, hps, by simp only [pieces, hps]⟩

theorem intercalate_pieces (sep : Char) (cs : List Char) :
    List.intercalate [sep] (pieces sep cs) = cs := by
  induction cs with
  | nil => rfl
  | cons c cs ih =>
      obtain ⟨p, ps, hps, hcons⟩ := pieces_cons sep c cs
      rw [hps] at ih
      rw [hcons]
      split
      · rename_i hc
        rw [List.intercalate_cons_cons, ih, hc]
        rfl
      · rw [List.intercalate_cons_cons_left, ih]

theorem not_mem_of_mem_pieces {sep : Char} {cs p : List Char} (h : p ∈ pieces sep cs) :
    sep ∉ p := by
  induction cs generalizing p with
  | nil =>
      rw [pieces, List.mem_singleton] at h
      simp [h]
  | cons c cs ih =>
      obtain ⟨q, qs, hqs, hcons⟩ := pieces_cons sep c cs
      rw [hqs] at ih
      rw [hcons] at h
      split at h
      · rcases List.mem_cons.mp h with rfl | h
        · simp
        · exact ih h
      · rename_i hc
        rcases List.mem_cons.mp h with rfl | h
        · intro hmem
          rcases List.mem_cons.mp hmem with heq | hmem
          · exact hc heq.symm
          · exact ih List.mem_cons_self hmem
        · exact ih (List.mem_cons_of_mem q h)

/-- What is in a piece is in the whole. -/
theorem mem_of_mem_pieces {sep c : Char} {cs p : List Char} (h : p ∈ pieces sep cs) (hc : c ∈ p) :
    c ∈ cs := by
  induction cs generalizing p with
  | nil =>
      rw [pieces, List.mem_singleton] at h
      simp [h] at hc
  | cons d cs ih =>
      obtain ⟨q, qs, hqs, hcons⟩ := pieces_cons sep d cs
      rw [hqs] at ih
      rw [hcons] at h
      split at h
      · rcases List.mem_cons.mp h with rfl | h
        · simp at hc
        · exact List.mem_cons_of_mem d (ih h hc)
      · rcases List.mem_cons.mp h with rfl | h
        · rcases List.mem_cons.mp hc with rfl | hc
          · exact List.mem_cons_self
          · exact List.mem_cons_of_mem d (ih List.mem_cons_self hc)
        · exact List.mem_cons_of_mem d (ih (List.mem_cons_of_mem q h) hc)

/-- A separator closes the last piece before it. -/
theorem pieces_append_sep (sep : Char) (as bs : List Char) :
    pieces sep (as ++ sep :: bs) = pieces sep as ++ pieces sep bs := by
  induction as with
  | nil =>
      obtain ⟨q, qs, hqs, hcons⟩ := pieces_cons sep sep bs
      rw [List.nil_append, hcons, if_pos rfl, hqs]
      rfl
  | cons c as ih =>
      obtain ⟨p, ps, hps, hfront⟩ := pieces_cons sep c as
      obtain ⟨q, qs, hqs, hcons⟩ := pieces_cons sep c (as ++ sep :: bs)
      rw [ih, hps] at hqs
      obtain ⟨rfl, rfl⟩ := List.cons.inj hqs
      rw [List.cons_append, hcons, hfront]
      split <;> rfl

theorem pieces_of_notMem {sep : Char} {p : List Char} (h : sep ∉ p) : pieces sep p = [p] := by
  induction p with
  | nil => rfl
  | cons c p ih =>
      rw [List.mem_cons, not_or] at h
      obtain ⟨q, qs, hqs, hcons⟩ := pieces_cons sep c p
      rw [ih h.2] at hqs
      obtain ⟨rfl, rfl⟩ := List.cons.inj hqs
      rw [hcons, if_neg (Ne.symm h.1)]

/-- What is in front of a list without a separator goes into its first piece. -/
theorem exists_pieces_append {sep : Char} {p : List Char} (h : sep ∉ p) (cs : List Char) :
    ∃ q qs, pieces sep cs = q :: qs ∧ pieces sep (p ++ cs) = (p ++ q) :: qs := by
  induction p with
  | nil =>
      obtain ⟨q, qs, hqs⟩ := List.exists_cons_of_ne_nil (pieces_ne_nil sep cs)
      exact ⟨q, qs, hqs, hqs⟩
  | cons c p ih =>
      rw [List.mem_cons, not_or] at h
      obtain ⟨q, qs, hqs, happend⟩ := ih h.2
      obtain ⟨q', qs', hqs', hcons⟩ := pieces_cons sep c (p ++ cs)
      rw [happend] at hqs'
      obtain ⟨rfl, rfl⟩ := List.cons.inj hqs'
      exact ⟨q, qs, hqs, by rw [List.cons_append, hcons, if_neg (Ne.symm h.1)]; rfl⟩

/-- Lists that are put together by a separator come apart at it, and then further by themselves. -/
theorem pieces_intercalate_flatMap {sep : Char} {ps : List (List Char)} (hne : ps ≠ []) :
    pieces sep (List.intercalate [sep] ps) = ps.flatMap (pieces sep) := by
  induction ps with
  | nil => exact (hne rfl).elim
  | cons p ps ih =>
      cases ps with
      | nil => rw [List.intercalate_singleton, List.flatMap_singleton]
      | cons q ps =>
          rw [List.intercalate_cons_cons, List.append_assoc, List.singleton_append,
            pieces_append_sep, ih (List.cons_ne_nil q ps)]
          rfl

theorem pieces_intercalate {sep : Char} {ps : List (List Char)} (hne : ps ≠ [])
    (h : ∀ p ∈ ps, sep ∉ p) : pieces sep (List.intercalate [sep] ps) = ps := by
  rw [pieces_intercalate_flatMap hne, List.flatMap_congr fun p hp => pieces_of_notMem (h p hp)]
  exact List.flatMap_singleton' ps

theorem splitAt_of_notMem {sep : Char} {s : String} (h : sep ∉ s.toList) : splitAt sep s = [s] := by
  rw [splitAt, pieces_of_notMem h, List.map_singleton, String.ofList_toList]

/-- A text of lines that are all ended comes apart into them, and further where a line is broken. -/
theorem splitAt_lines {ls : List String} (hne : ls ≠ []) :
    splitAt '\n' (String.intercalate "\n" ls ++ "\n") = ls.flatMap (splitAt '\n') ++ [""] := by
  have hend : (String.intercalate "\n" ls ++ "\n").toList =
      List.intercalate ['\n'] (ls.map String.toList) ++ ['\n'] := by
    rw [String.toList_append, String.toList_intercalate]
    rfl
  rw [splitAt, hend, pieces_append_sep, pieces_intercalate_flatMap (by simpa using hne),
    List.map_append, List.flatMap_map, List.map_flatMap]
  rfl

theorem intercalate_append {α : Type} (sep : List α) {as bs : List (List α)} (ha : as ≠ [])
    (hb : bs ≠ []) :
    List.intercalate sep (as ++ bs) =
      List.intercalate sep as ++ sep ++ List.intercalate sep bs := by
  induction as with
  | nil => exact (ha rfl).elim
  | cons a as ih =>
      cases as with
      | nil =>
          obtain ⟨b, bs, rfl⟩ := List.exists_cons_of_ne_nil hb
          rw [List.singleton_append, List.intercalate_cons_cons, List.intercalate_singleton]
      | cons a' as =>
          rw [List.cons_append, List.cons_append, List.intercalate_cons_cons, ← List.cons_append,
            ih (List.cons_ne_nil a' as), List.intercalate_cons_cons]
          simp only [List.append_assoc]

/-- Lines put together by a separator that none of them holds can be told apart again. -/
theorem intercalate_injective {sep : String} {c : Char} (hsep : sep.toList = [c])
    {ls ms : List String} (hls : ls ≠ []) (hms : ms ≠ []) (hl : ∀ l ∈ ls, c ∉ l.toList)
    (hm : ∀ l ∈ ms, c ∉ l.toList)
    (h : String.intercalate sep ls = String.intercalate sep ms) : ls = ms := by
  have hpieces : ∀ {ks : List String}, ks ≠ [] → (∀ l ∈ ks, c ∉ l.toList) →
      pieces c (String.intercalate sep ks).toList = ks.map String.toList := by
    intro ks hks hk
    rw [String.toList_intercalate, hsep]
    apply pieces_intercalate
    · simpa using hks
    · intro p hp
      obtain ⟨l, hl, rfl⟩ := List.mem_map.mp hp
      exact hk l hl
  apply List.map_injective_iff.mpr (fun _ _ => String.toList_injective)
  rw [← hpieces hls hl, h, hpieces hms hm]

theorem segments_ne_nil (s : String) : segments s ≠ [] := by
  simpa [segments, splitAt] using pieces_ne_nil '.' s.toList

theorem intercalate_segments (s : String) : String.intercalate "." (segments s) = s := by
  apply String.toList_injective
  have hlists : (segments s).map String.toList = pieces '.' s.toList := by
    simp [segments, splitAt, Function.comp_def]
  rw [String.toList_intercalate, hlists]
  exact intercalate_pieces '.' s.toList

theorem startsWith_append (start s : String) : startsWith start (start ++ s) := by
  rw [startsWith, List.isPrefixOf_iff_prefix, String.toList_append]
  exact List.prefix_append _ _

/-- A name goes on after another one and a dot if it has the other one's segments and more. -/
theorem startsWith_dot_iff {name other : String} :
    startsWith (name ++ ".") other ↔
      ∃ below, below ≠ [] ∧ segments other = segments name ++ below := by
  have hdot : (name ++ ".").toList = name.toList ++ ['.'] := by simp
  rw [startsWith, List.isPrefixOf_iff_prefix, hdot]
  constructor
  · rintro ⟨rest, hrest⟩
    refine ⟨(pieces '.' rest).map String.ofList, by simpa using pieces_ne_nil '.' rest, ?_⟩
    rw [List.append_assoc, List.singleton_append] at hrest
    rw [segments, splitAt, ← hrest, pieces_append_sep, List.map_append]
    rfl
  · rintro ⟨below, hne, hbelow⟩
    have hother := congrArg (String.intercalate ".") hbelow
    rw [intercalate_segments] at hother
    rw [hother, String.toList_intercalate, List.map_append,
      intercalate_append _ (by simpa using segments_ne_nil name) (by simpa using hne),
      ← String.toList_intercalate, intercalate_segments]
    exact ⟨_, rfl⟩

theorem segments_injective {s t : String} (h : segments s = segments t) : s = t := by
  rw [← intercalate_segments s, h, intercalate_segments]

end Text

namespace Site

theorem path_ofPath (module path : String) : (ofPath module path).path = Text.segments path := by
  unfold ofPath
  split
  · rename_i h
    exact (Text.segments_ne_nil path h).elim
  · rename_i h
    rw [h]
    rfl

@[simp] theorem module_ofPath (module path : String) : (ofPath module path).module = module := by
  unfold ofPath
  split <;> rfl

theorem eq_of_path {s s' : Site} (hmodule : s.module = s'.module) (hpath : s.path = s'.path) :
    s = s' := by
  obtain ⟨module, head, nested⟩ := s
  obtain ⟨module', head', nested'⟩ := s'
  obtain ⟨rfl, rfl⟩ := List.cons.inj hpath
  obtain rfl : module = module' := hmodule
  rfl

theorem ofPath_injective {module module' path path' : String}
    (h : ofPath module path = ofPath module' path') : module = module' ∧ path = path' := by
  constructor
  · simpa using congrArg Site.module h
  · apply Text.segments_injective
    rw [← path_ofPath module path, ← path_ofPath module' path', h]

end Site

end TypeStubs
