import UsageGrammar.Grammar.OfPattern
import Mathlib.Data.List.Nodup
import Mathlib.Data.List.Pairwise

/-!
# The slot table of a pattern

The slots of a pattern have distinct names, so that a leaf of a name refers to the slot of that
name and to no other. A slot accumulates exactly if its name can occur more than once: it collects
where its leaves yield texts, and counts where they do not.
-/

namespace UsageGrammar

namespace Slot

theorem mem_of_mem_firstOfEachName {slot : Slot} {slots : List Slot}
    (member : slot ∈ firstOfEachName slots) : slot ∈ slots := by
  induction slots with
  | nil => exact member
  | cons first slots ih =>
      rcases List.mem_cons.mp member with rfl | later
      · exact List.mem_cons_self
      · exact List.mem_cons_of_mem _ (ih (List.mem_of_mem_filter later))

theorem firstOfEachName_nodup (slots : List Slot) :
    ((firstOfEachName slots).map name).Nodup := by
  induction slots with
  | nil => exact List.nodup_nil
  | cons first slots ih =>
      refine List.nodup_cons.mpr ⟨fun member => ?_, ih.sublist (List.filter_sublist.map name)⟩
      obtain ⟨slot, kept, same⟩ := List.mem_map.mp member
      have different := (List.mem_filter.mp kept).2
      simp [same] at different

theorem name_mem_firstOfEachName {slot : Slot} {slots : List Slot} (member : slot ∈ slots) :
    slot.name ∈ (firstOfEachName slots).map name := by
  induction slots with
  | nil => cases member
  | cons first slots ih =>
      by_cases same : slot.name = first.name
      · exact same ▸ List.mem_cons_self
      · rcases List.mem_cons.mp member with rfl | later
        · exact absurd rfl same
        · obtain ⟨kept, first_kept, named⟩ := List.mem_map.mp (ih later)
          refine List.mem_cons_of_mem _ (List.mem_map.mpr ⟨kept, ?_, named⟩)
          exact List.mem_filter.mpr ⟨first_kept, by simpa [named] using same⟩

theorem repeatedDefault_accumulation (slot : Slot) :
    { slot with default := slot.repeatedDefault }.accumulation =
      if slot.collectsValues then .list else .count := by
  unfold repeatedDefault
  split
  · split <;> rfl
  · rfl

/-- The slot that a single leaf asks for. -/
inductive OfLeaf : Slot → Prop
  | option (spec : OptionSpec) : OfLeaf (.ofOption spec)
  | argument (name : String) : OfLeaf (.ofArgument name)
  | command (name : String) : OfLeaf (.ofCommand name)

theorem OfLeaf.accumulation {slot : Slot} (leaf : slot.OfLeaf) : slot.accumulation = .scalar := by
  cases leaf with
  | option spec =>
      obtain ⟨short, long, takesValue, default⟩ := spec
      cases takesValue <;> cases default <;> rfl
  | argument name => rfl
  | command name => rfl

end Slot

namespace Pattern

mutual

theorem ofLeaf_of_mem_leafSlots {slot : Slot} : ∀ pattern : Pattern,
    slot ∈ pattern.leafSlots → slot.OfLeaf
  | option spec, member => List.mem_singleton.mp member ▸ .option spec
  | argument name, member => List.mem_singleton.mp member ▸ .argument name
  | command name, member => List.mem_singleton.mp member ▸ .command name
  | required children, member | optional children, member | either children, member =>
      ofLeaf_of_mem_leafSlotsOfAll children member
  | repeatable child, member => ofLeaf_of_mem_leafSlots child member
  | shortcut specs, member => by
      obtain ⟨spec, _, rfl⟩ := List.mem_map.mp member
      exact .option spec

theorem ofLeaf_of_mem_leafSlotsOfAll {slot : Slot} : ∀ children : List Pattern,
    slot ∈ leafSlotsOfAll children → slot.OfLeaf
  | [], member => by cases member
  | child :: children, member =>
      (List.mem_append.mp member).elim (ofLeaf_of_mem_leafSlots child)
        (ofLeaf_of_mem_leafSlotsOfAll children)

end

@[simp]
theorem typeRepetition_name (pattern : Pattern) (slot : Slot) :
    (pattern.typeRepetition slot).name = slot.name := by
  unfold typeRepetition
  split <;> rfl

@[simp]
theorem typeRepetition_kind (pattern : Pattern) (slot : Slot) :
    (pattern.typeRepetition slot).kind = slot.kind := by
  unfold typeRepetition
  split <;> rfl

@[simp]
theorem typeRepetition_collectsValues (pattern : Pattern) (slot : Slot) :
    (pattern.typeRepetition slot).collectsValues = slot.collectsValues := by
  unfold typeRepetition
  split <;> rfl

theorem typeRepetition_accumulation {pattern : Pattern} {slot : Slot}
    (scalar : slot.accumulation = .scalar) :
    (pattern.typeRepetition slot).accumulation =
      if 1 < pattern.occurrences slot.name then
        if slot.collectsValues then .list else .count
      else .scalar := by
  unfold typeRepetition
  split
  · exact slot.repeatedDefault_accumulation
  · exact scalar

end Pattern

namespace Grammar

variable {pattern : Pattern} {index : Nat} {slot : Slot}

/-- The names of the slots, in the order of the table. -/
def names (grammar : Grammar) : List String :=
  grammar.slots.map Slot.name

theorem names_ofPattern (pattern : Pattern) :
    (ofPattern pattern).names = (Slot.firstOfEachName pattern.leafSlots).map Slot.name := by
  simp [names, ofPattern, Function.comp_def]

theorem names_nodup (pattern : Pattern) : (ofPattern pattern).names.Nodup := by
  rw [names_ofPattern]
  exact Slot.firstOfEachName_nodup pattern.leafSlots

/-- Every slot of the table is one that a leaf asks for, typed for its repetition. -/
theorem exists_leafSlot (member : slot ∈ (ofPattern pattern).slots) :
    ∃ leaf ∈ pattern.leafSlots, slot = pattern.typeRepetition leaf := by
  obtain ⟨leaf, first, rfl⟩ := List.mem_map.mp member
  exact ⟨leaf, Slot.mem_of_mem_firstOfEachName first, rfl⟩

theorem name_mem_names {leaf : Slot} (asked : leaf ∈ pattern.leafSlots) :
    leaf.name ∈ (ofPattern pattern).names := by
  rw [names_ofPattern]
  exact Slot.name_mem_firstOfEachName asked

/-- A slot accumulates exactly if its name can occur more than once. -/
theorem accumulation_ofPattern (found : (ofPattern pattern).slots[index]? = some slot) :
    slot.accumulation =
      if 1 < pattern.occurrences slot.name then
        if slot.collectsValues then .list else .count
      else .scalar := by
  simp only [ofPattern, List.getElem?_map, Option.map_eq_some_iff] at found
  obtain ⟨first, at_index, rfl⟩ := found
  have member := Slot.mem_of_mem_firstOfEachName (List.mem_of_getElem? at_index)
  rw [Pattern.typeRepetition_name, Pattern.typeRepetition_collectsValues]
  exact Pattern.typeRepetition_accumulation
    (Pattern.ofLeaf_of_mem_leafSlots pattern member).accumulation

theorem root_ofPattern (pattern : Pattern) :
    (ofPattern pattern).root = pattern.toNode (ofPattern pattern).names.idxOf := by
  rw [names_ofPattern]
  rfl

theorem names_getElem? {grammar : Grammar} (found : grammar.slots[index]? = some slot) :
    grammar.names[index]? = some slot.name := by
  simp [names, found]

theorem exists_slot_of_name {grammar : Grammar} {name : String} (named : name ∈ grammar.names) :
    ∃ slot, grammar.slots[grammar.names.idxOf name]? = some slot ∧ slot.name = name := by
  have at_index : (grammar.slots.map Slot.name)[grammar.names.idxOf name]? = some name :=
    List.getElem?_idxOf named
  rw [List.getElem?_map] at at_index
  exact Option.map_eq_some_iff.mp at_index

/-- The leaves of a name refer to the slot of that name, and no other leaf does. -/
theorem idxOf_names_iff {grammar : Grammar} (distinct : grammar.names.Nodup)
    (found : grammar.slots[index]? = some slot) (name : String) :
    grammar.names.idxOf name = index ↔ name = slot.name := by
  obtain ⟨inside, at_index⟩ := List.getElem?_eq_some_iff.mp (names_getElem? found)
  constructor
  · rintro rfl
    rw [← at_index, List.getElem_idxOf]
  · rintro rfl
    rw [← at_index, distinct.idxOf_getElem]

theorem index_eq_of_name_eq {grammar : Grammar} (distinct : grammar.names.Nodup) {other : Nat}
    {declared : Slot} (found : grammar.slots[index]? = some slot)
    (found' : grammar.slots[other]? = some declared) (same : declared.name = slot.name) :
    other = index := by
  rw [← (idxOf_names_iff distinct found' slot.name).mpr same.symm]
  exact (idxOf_names_iff distinct found slot.name).mpr rfl

end Grammar

end UsageGrammar
