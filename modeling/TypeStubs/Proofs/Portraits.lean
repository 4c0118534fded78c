import TypeStubs.Proofs.Namesakes
import TypeStubs.Proofs.Registering

/-!
# Portraits of live classes

A registry of synthetic classes portrays the generators of a universe: a portrait has the module,
the path, the base and the members of its class.
-/

namespace TypeStubs

open Scaffold

theorem Live.text?_qualifiedName {k : LiveClass} {name : String} :
    (qualifiedName k).bind Label.text? = some name ↔ qualifiedName k = some (.text name) := by
  cases hl : qualifiedName k with
  | none => simp
  | some l =>
      obtain rfl := qualifiedName_eq hl
      simp [Label.text?, Label.value, Value.text?]

theorem Live.isTruthy_of_qualifiedName {k : LiveClass} {l : Label} (h : qualifiedName k = some l) :
    l.value.isTruthy := by
  obtain rfl := qualifiedName_eq h
  simp [Label.value, Value.isTruthy]

theorem eq_map_of_forall₂ {α β : Type} {R : α → β → Prop} {f : α → β} {xs : List α} {ys : List β}
    (h : List.Forall₂ R xs ys) (hf : ∀ x ∈ xs, ∀ y, R x y → y = f x) : ys = xs.map f := by
  induction h with
  | nil => rfl
  | @cons x y xs ys hxy h ih =>
      rw [List.map_cons, hf x List.mem_cons_self y hxy,
        ih fun z hz => hf z (List.mem_cons_of_mem x hz)]

/-- The root of all classes and the generators. -/
def Scaffold.Universe.Portrayed (u : Universe) (c : Nat) : Prop :=
  c = Universe.objectId ∨ u.isGenerator c

instance (u : Universe) : DecidablePred u.Portrayed :=
  fun _ => inferInstanceAs (Decidable (_ ∨ _))

namespace Scaffold.Universe

variable {u : Universe} {c : Nat}

/-- The members of a class are these, and they are read as such. -/
structure HasMembers (u : Universe) (c : Nat) (as os : List (String × Declaration)) : Prop where
  membersArguments : Members as
  membersOptions : Members os
  items : u.inheritedItems c = .ok (argumentItems as)
  entries : u.inheritedOptions c = .ok (optionEntries os)
  arguments : ((Live.reflection u .standard).arguments c).outcome = .ok (as.map specOf)
  options : ((Live.reflection u .standard).options c).outcome = .ok (os.map optionSpecOf)

theorem Collects.hasMembers {as os : List (String × Declaration)} (h : u.Collects c as os) :
    u.HasMembers c as os where
  membersArguments := h.membersArguments
  membersOptions := h.membersOptions
  items := by
    obtain ⟨k, hk⟩ := h.arguments
    exact inheritedItems_of_attribute? hk
  entries := by
    obtain ⟨k, hk⟩ := h.options
    exact inheritedOptions_of_attribute? hk
  arguments := Live.arguments_of_collects h
  options := Live.options_of_collects h

theorem Grown.hasMembers_objectId (h : u.Grown) : u.HasMembers objectId [] [] := by
  have hnone : ∀ name, name = argumentsName ∨ name = optionsName →
      u.attribute? objectId name = none := by
    intro name hname
    rw [attribute?, row, h.sound.ancestry_objectId, List.findSome?_cons, h.lookup_objectId hname]
    rfl
  have harguments := hnone argumentsName (Or.inl rfl)
  have hoptions := hnone optionsName (Or.inr rfl)
  have hread : (Live.reflection u .standard).arguments objectId = Reading.ofExcept
      (([] : List Value).mapM fun item => ArgumentSpec.ofDeclaration item .null) := by
    change Live.arguments u .standard objectId = _
    rw [Live.arguments, AttributeNames.standard, harguments]
    rfl
  have hread' : (Live.reflection u .standard).options objectId = pure [] := by
    change Live.options u .standard objectId = _
    rw [Live.options, AttributeNames.standard, hoptions]
    rfl
  constructor
  · exact members_nil
  · exact members_nil
  · rw [inheritedItems, harguments]
    rfl
  · rw [inheritedOptions, hoptions]
    rfl
  · rw [hread]
    rfl
  · rw [hread']
    rfl

theorem Grown.exists_hasMembers (h : u.Grown) (hlines : ∀ c, u.isGenerator c → u.Lineage c)
    (hc : u.Portrayed c) : ∃ as os, u.HasMembers c as os := by
  rcases hc with rfl | hc
  · exact ⟨[], [], h.hasMembers_objectId⟩
  · obtain ⟨as, os, hcollected⟩ := h.exists_collects (hlines c hc)
    exact ⟨as, os, hcollected.hasMembers⟩

theorem Portrayed.lt_size (hu : u.Sound) (hc : u.Portrayed c) : c < u.classes.size := by
  rcases hc with rfl | hc
  · exact Nat.lt_of_le_of_lt (Nat.zero_le _) hu.generatorId_lt
  · rcases List.mem_cons.mp (isGenerator_iff.mp hc) with rfl | hmem
    · exact hu.generatorId_lt
    · exact hu.lt_size hmem

end Scaffold.Universe

/-- Synthetic classes for the root of all classes and the generators of a universe, and no others:
of the same module and path, with the corresponding bases and the normalised forms of the collected
members. Local classes have no name. -/
structure StaticRegistry.Portrays (r : StaticRegistry) (u : Universe) (image : Nat → ClassId) :
    Prop where
  injective : ∀ c d, u.Portrayed c → u.Portrayed d → image c = image d → c = d
  registered : ∀ i, i ∈ r.registered ↔ ∃ c, u.Portrayed c ∧ image c = i
  nodup : r.registered.Nodup
  module : ∀ c, u.Portrayed c → (u.get c).module = .text (r.get (image c)).module ∧
    (r.get (image c)).module ≠ ""
  name : ∀ c, u.Portrayed c → (r.get (image c)).name =
    if Live.holdsWord Live.localMark.toList (u.get c).path.toList then none
    else some (.text (u.get c).path)
  base : ∀ c, u.Portrayed c → (r.get (image c)).base = (u.get c).bases.head?.map image
  arguments : ∀ c, u.Portrayed c → ∃ items, u.inheritedItems c = .ok items ∧
    List.Forall₂ (fun v a => ArgumentSpec.ofDeclaration v .null = .ok a) items
      (r.get (image c)).arguments
  options : ∀ c, u.Portrayed c → ∃ entries, u.inheritedOptions c = .ok entries ∧
    List.Forall₂ (fun e o => o.1 = e.1.plain ∧
      ArgumentSpec.ofDeclaration e.2 (.text o.1) = .ok o.2) entries (r.get (image c)).options

/-- What is above a portrayed class is portrayed. -/
theorem portrayed_of_mem_ancestry {u : Universe} (hu : u.Sound)
    (hlines : ∀ c, u.isGenerator c → u.Lineage c) {c d : Nat} (hc : u.Portrayed c)
    (hd : d ∈ (u.get c).ancestry) : u.Portrayed d := by
  rcases hc with rfl | hc
  · rw [hu.ancestry_objectId] at hd
    exact (List.not_mem_nil hd).elim
  · rcases (hlines c hc).of_mem_row hu (List.mem_cons_of_mem c hd) with rfl | hline
    · exact Or.inl rfl
    · exact Or.inr (hline.isGenerator hu)

namespace StaticRegistry.Portrays

variable {u : Universe} {r : StaticRegistry} {image : Nat → ClassId} {c : Nat}

theorem qualifiedName (h : r.Portrays u image) (hc : u.Portrayed c) :
    (r.get (image c)).qualifiedName = Live.qualifiedName (u.get c) := by
  obtain ⟨hmodule, hne⟩ := h.module c hc
  unfold SyntheticClass.qualifiedName Live.qualifiedName
  rw [h.name c hc, hmodule]
  have hempty : (r.get (image c)).module.isEmpty = false := String.isEmpty_eq_false_iff.mpr hne
  by_cases hlocal : Live.holdsWord Live.localMark.toList (u.get c).path.toList
  · simp [hlocal, Value.text?]
  · simp only [hlocal, Value.text?, Bool.false_eq_true, if_false, Option.map_some, hempty]
    rfl

theorem moduleOf (h : r.Portrays u image) (hc : u.Portrayed c) :
    (r.get (image c)).module = Live.moduleOf (u.get c) := by
  obtain ⟨hmodule, hne⟩ := h.module c hc
  have htrue : (Value.text (r.get (image c)).module).isTruthy := by
    simpa [Value.isTruthy] using hne
  rw [Live.moduleOf, hmodule, if_pos htrue]
  rfl

/-- The bases above a portrait are the portraits of what is above the class. -/
theorem chain (h : r.Portrays u image) (hu : u.Sound)
    (hlines : ∀ c, u.isGenerator c → u.Lineage c) (hc : u.Portrayed c) :
    r.Chain (r.get (image c)).base ((u.get c).ancestry.map image) := by
  induction c using Nat.strongRecOn with
  | ind c ih =>
      rw [h.base c hc]
      by_cases hobject : c = Universe.objectId
      · have hbases : (u.get c).bases = [] := by
          apply List.eq_nil_iff_forall_not_mem.mpr
          intro b hb
          have hmem := hu.mem hb
          rw [hobject, hu.ancestry_objectId] at hmem
          exact List.not_mem_nil hmem
        rw [hbases, hobject, hu.ancestry_objectId]
        exact .done
      · obtain ⟨b, hbase⟩ : ∃ b, (u.get c).bases = [b] := by
          by_cases hroot : c = Universe.generatorId
          · exact ⟨_, hroot ▸ hu.generator⟩
          · obtain ⟨b, hbase, -⟩ := (hlines c (hc.resolve_left hobject)).exists_base hroot
            exact ⟨b, hbase⟩
        have hb : b ∈ (u.get c).ancestry := hu.mem (by simp [hbase])
        have hchain := ih b (hu.lt hb) (portrayed_of_mem_ancestry hu hlines hc hb)
        rw [hbase, hu.single hbase]
        exact .next hchain

theorem arguments_eq (h : r.Portrays u image) (hu : u.Grown)
    (hlines : ∀ c, u.isGenerator c → u.Lineage c) (hc : u.Portrayed c) :
    ((Live.reflection u .standard).arguments c).outcome = .ok (r.get (image c)).arguments := by
  obtain ⟨as, os, hcollected⟩ := hu.exists_hasMembers hlines hc
  obtain ⟨items, hitems, himages⟩ := h.arguments c hc
  obtain rfl := Except.ok.inj (hitems.symm.trans hcollected.items)
  have hread := mapM_eq_ok_iff.mpr himages
  rw [mapM_argumentItems hcollected.membersArguments] at hread
  rw [hcollected.arguments, Except.ok.inj hread]

theorem options_eq (h : r.Portrays u image) (hu : u.Grown)
    (hlines : ∀ c, u.isGenerator c → u.Lineage c) (hc : u.Portrayed c) :
    ((Live.reflection u .standard).options c).outcome = .ok (r.get (image c)).options := by
  obtain ⟨as, os, hcollected⟩ := hu.exists_hasMembers hlines hc
  obtain ⟨entries, hentries, himages⟩ := h.options c hc
  obtain rfl := Except.ok.inj (hentries.symm.trans hcollected.entries)
  rw [optionEntries, List.forall₂_map_left_iff] at himages
  have heach : ∀ p ∈ os, ∀ o : String × ArgumentSpec,
      o.1 = (Value.text p.1).plain ∧
        ArgumentSpec.ofDeclaration (.member p.2) (.text o.1) = .ok o.2 → o = optionSpecOf p := by
    rintro p hp ⟨name, spec⟩ ⟨hname, hspec⟩
    have hplain : name = p.1 := hname
    have hread := ofDeclaration_named p (hcollected.membersOptions.ne_empty p hp)
    dsimp only at hspec
    rw [hplain, hread] at hspec
    rw [hplain, ← Except.ok.inj hspec]
    rfl
  rw [hcollected.options, eq_map_of_forall₂ himages heach]

end StaticRegistry.Portrays

/-! ## Portraits of a grown universe -/

namespace Scaffold.Universe

variable {u : Universe}

def portrait (u : Universe) (c : Nat) : SyntheticClass where
  module := (u.get c).module.plain
  name := if Live.holdsWord Live.localMark.toList (u.get c).path.toList then none
    else some (.text (u.get c).path)
  base := (u.get c).bases.head?
  arguments := (((Live.reflection u .standard).arguments c).outcome.toOption).getD []
  options := (((Live.reflection u .standard).options c).outcome.toOption).getD []

/-- A store with a portrait of each class at the position of the class. None is registered. -/
def portraits (u : Universe) : StaticRegistry :=
  ⟨((List.range u.classes.size).map u.portrait).toArray, [], []⟩

theorem get_portraits {c : Nat} (hc : c < u.classes.size) : u.portraits.get c = u.portrait c := by
  simp [portraits, StaticRegistry.get, hc]

/-- The portraits of the generators of a grown universe can be registered in any order. -/
theorem exists_portrays (hu : u.Grown) (hlines : ∀ c, u.isGenerator c → u.Lineage c)
    (hmodule : ∀ c, u.Portrayed c → ∃ m, (u.get c).module = .text m ∧ m ≠ "") {order : List Nat}
    (horder : order.Perm ((List.range u.classes.size).filter fun c => u.Portrayed c)) :
    ∃ r, u.portraits.rebuild order = .ok r ∧ r.Portrays u id := by
  have hmem : ∀ c, c ∈ order ↔ u.Portrayed c := by
    intro c
    rw [horder.mem_iff, List.mem_filter, List.mem_range, decide_eq_true_eq]
    exact ⟨fun h => h.2, fun h => ⟨h.lt_size hu.sound, h⟩⟩
  have htexts : u.portraits.TextNames := by
    apply StaticRegistry.textNames_of_store
    intro k hk l hl
    obtain ⟨c, -, rfl⟩ := List.mem_map.mp (List.mem_toArray.mp hk)
    unfold portrait at hl
    dsimp only at hl
    split at hl
    · simp at hl
    · exact ⟨_, (Option.some.inj hl).symm⟩
  have htext : ∀ i ∈ order, ∀ l, (u.portraits.get i).qualifiedName = some l →
      ∃ s, l = .text s := fun c _ => htexts.text_of_qualifiedName
  obtain ⟨r, hrebuild⟩ := StaticRegistry.exists_rebuild htext
  have hstore := StaticRegistry.store_rebuild hrebuild
  have hregistered := StaticRegistry.registered_rebuild hrebuild
  have hget : ∀ c, u.Portrayed c → r.get c = u.portrait c := fun c hc => by
    rw [← get_portraits (hc.lt_size hu.sound), StaticRegistry.get, StaticRegistry.get, hstore]
  refine ⟨r, hrebuild, ?_⟩
  constructor
  · exact fun c d _ _ h => h
  · intro i
    rw [hregistered, hmem]
    exact exists_eq_right.symm
  · rw [hregistered, horder.nodup_iff]
    exact List.nodup_range.filter _
  · intro c hc
    obtain ⟨m, hm, hne⟩ := hmodule c hc
    have hplain : (u.portrait c).module = m := by
      rw [portrait, hm]
      rfl
    rw [id, hget c hc, hplain]
    exact ⟨hm, hne⟩
  · intro c hc
    rw [id, hget c hc]
    rfl
  · intro c hc
    rw [id, hget c hc]
    exact Option.map_id.symm ▸ rfl
  · intro c hc
    obtain ⟨as, os, hcollected⟩ := hu.exists_hasMembers hlines hc
    have harguments : (u.portrait c).arguments = as.map specOf := by
      rw [portrait, hcollected.arguments]
      rfl
    rw [id, hget c hc, harguments]
    exact ⟨_, hcollected.items,
      mapM_eq_ok_iff.mp (mapM_argumentItems hcollected.membersArguments)⟩
  · intro c hc
    obtain ⟨as, os, hcollected⟩ := hu.exists_hasMembers hlines hc
    have hoptions : (u.portrait c).options = os.map optionSpecOf := by
      rw [portrait, hcollected.options]
      rfl
    rw [id, hget c hc, hoptions]
    refine ⟨_, hcollected.entries, ?_⟩
    rw [optionEntries, List.forall₂_map_left_iff, List.forall₂_map_right_iff, List.forall₂_same]
    exact fun p hp => ⟨rfl, ofDeclaration_named p (hcollected.membersOptions.ne_empty p hp)⟩

end Scaffold.Universe

end TypeStubs
