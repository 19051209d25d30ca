import UsageGrammar.Proofs.LeafKinds

/-!
# Unification of names

All leaves of a name share one slot. The slots of a pattern are the names of its leaves without
repetition, each of the kind of the first leaf of its name, and the node of the grammar is the
pattern with references to the slots at its leaves. A single pass from left to right, in which a
name that has no slot so far gets the next one, comes to the same grammar.
-/

namespace UsageGrammar

namespace Slot

theorem firstOfEachName_filter (slots : List Slot) (keeps : String → Bool) :
    firstOfEachName (slots.filter fun slot => keeps slot.name) =
      (firstOfEachName slots).filter fun slot => keeps slot.name := by
  induction slots with
  | nil => rfl
  | cons slot slots ih =>
      cases kept : keeps slot.name with
      | true =>
          simp only [List.filter_cons, kept, firstOfEachName, ih, List.filter_filter, if_true]
          congr 2
          funext other
          exact Bool.and_comm ..
      | false =>
          simp only [List.filter_cons, kept, firstOfEachName, ih, List.filter_filter,
            Bool.false_eq_true, if_false]
          refine List.filter_congr fun other _ => ?_
          by_cases same : other.name = slot.name <;> simp [same, kept]

theorem map_name_firstOfEachName : ∀ slots : List Slot,
    (firstOfEachName slots).map name = (slots.map name).eraseDups
  | [] => rfl
  | slot :: slots => by
      have others := map_name_firstOfEachName (slots.filter fun other => other.name ≠ slot.name)
      rw [firstOfEachName_filter slots (fun name => decide (name ≠ slot.name))] at others
      rw [firstOfEachName, List.map_cons, others, List.map_cons, List.eraseDups_cons,
        List.filter_map]
      congr 3
      refine List.filter_congr fun other _ => ?_
      by_cases same : other.name = slot.name <;> simp [same]
termination_by slots => slots.length
decreasing_by exact Nat.lt_succ_of_le (List.length_filter_le ..)

theorem find?_of_mem_firstOfEachName {slot : Slot} {slots : List Slot}
    (member : slot ∈ firstOfEachName slots) :
    slots.find? (·.name = slot.name) = some slot := by
  induction slots with
  | nil => cases member
  | cons first slots ih =>
      rcases List.mem_cons.mp member with rfl | later
      · exact List.find?_cons_of_pos (by simp)
      · obtain ⟨kept, different⟩ := List.mem_filter.mp later
        rw [List.find?_cons_of_neg]
        · exact ih kept
        · intro same
          exact of_decide_eq_true different (of_decide_eq_true same).symm

/-- The number of a slot in a table, and the table with it. A name that has no slot gets one at the
end. -/
def intern (slot : Slot) (table : List Slot) : Nat × List Slot :=
  if slot.name ∈ table.map name then ((table.map name).idxOf slot.name, table)
  else (table.length, table ++ [slot])

/-- The table after several slots. -/
def internAll (slots table : List Slot) : List Slot :=
  slots.foldl (fun table slot => (slot.intern table).2) table

theorem prefix_intern (slot : Slot) (table : List Slot) : table <+: (slot.intern table).2 := by
  unfold intern
  split
  · exact List.prefix_refl table
  · exact List.prefix_append ..

theorem prefix_internAll (slots table : List Slot) : table <+: internAll slots table := by
  induction slots generalizing table with
  | nil => exact List.prefix_refl table
  | cons slot slots ih => exact (prefix_intern slot table).trans (ih _)

theorem internAll_append (first second table : List Slot) :
    internAll (first ++ second) table = internAll second (internAll first table) :=
  List.foldl_append

/-- The number of a slot stays that of its name, whatever the table grows to. -/
theorem intern_fst {slot : Slot} {table final : List Slot}
    (grows : (slot.intern table).2 <+: final) :
    (slot.intern table).1 = (final.map name).idxOf slot.name := by
  unfold intern at grows ⊢
  split at grows
  · next known =>
      obtain ⟨rest, rfl⟩ := grows
      rw [if_pos known, List.map_append, List.idxOf_append_of_mem known]
  · next new =>
      obtain ⟨rest, rfl⟩ := grows
      have last : slot.name ∉ table.map name := new
      rw [if_neg new, List.append_assoc, List.map_append, List.idxOf_append_of_notMem last]
      simp

/-- A table takes up the first slot of each name that it does not have. -/
theorem internAll_eq (slots table : List Slot) :
    internAll slots table =
      table ++ firstOfEachName (slots.filter fun slot => slot.name ∉ table.map name) := by
  induction slots generalizing table with
  | nil => exact (List.append_nil table).symm
  | cons slot slots ih =>
      change internAll slots (slot.intern table).2 = _
      rw [ih]
      by_cases known : slot.name ∈ table.map name
      · simp only [intern, known, if_true, List.filter_cons, not_true_eq_false, decide_false,
          Bool.false_eq_true, if_false]
      · simp only [intern, known, if_false, List.filter_cons, not_false_eq_true, decide_true,
          if_true, firstOfEachName, List.append_assoc, List.singleton_append]
        rw [← firstOfEachName_filter _ (fun name => decide (name ≠ slot.name)), List.filter_filter]
        congr 4
        funext other
        simp only [List.map_append, List.map_cons, List.map_nil, List.mem_append,
          List.mem_singleton, not_or, Bool.decide_and]
        exact Bool.and_comm ..

end Slot

/-- A node has the shape of a pattern, with one option for each option of a shortcut. -/
inductive Node.HasShape : Node → Pattern → Prop
  | option (slot : Nat) (spec : OptionSpec) : HasShape (.option slot) (.option spec)
  | argument (slot : Nat) (name : String) : HasShape (.argument slot) (.argument name)
  | command (slot : Nat) (name : String) : HasShape (.command slot) (.command name)
  | required {nodes : List Node} {children : List Pattern} :
      List.Forall₂ HasShape nodes children → HasShape (.required nodes) (.required children)
  | optional {nodes : List Node} {children : List Pattern} :
      List.Forall₂ HasShape nodes children → HasShape (.optional nodes) (.optional children)
  | either {nodes : List Node} {children : List Pattern} :
      List.Forall₂ HasShape nodes children → HasShape (.either nodes) (.either children)
  | repeatable {node : Node} {child : Pattern} :
      HasShape node child → HasShape (.repeatable node) (.repeatable child)
  | shortcut {slots : List Nat} {specs : List OptionSpec} :
      slots.length = specs.length → HasShape (.shortcut (slots.map .option)) (.shortcut specs)

namespace Pattern

mutual

theorem map_name_leafSlots : ∀ pattern : Pattern,
    pattern.leafSlots.map Slot.name = pattern.leafNames
  | option _ | argument _ | command _ => rfl
  | required children | optional children | either children => map_name_leafSlotsOfAll children
  | repeatable child => map_name_leafSlots child
  | shortcut specs => by
      rw [leafSlots, List.map_map]
      rfl

theorem map_name_leafSlotsOfAll : ∀ children : List Pattern,
    (leafSlotsOfAll children).map Slot.name = leafNamesOfAll children
  | [] => rfl
  | child :: children => by
      rw [leafSlotsOfAll, List.map_append, map_name_leafSlots child,
        map_name_leafSlotsOfAll children, leafNamesOfAll]

end

mutual

theorem toNode_hasShape (index : String → Nat) : ∀ pattern : Pattern,
    (pattern.toNode index).HasShape pattern
  | .option spec => .option _ spec
  | .argument name => .argument _ name
  | .command name => .command _ name
  | .required children => .required (toNodes_hasShape index children)
  | .optional children => .optional (toNodes_hasShape index children)
  | .either children => .either (toNodes_hasShape index children)
  | .repeatable child => .repeatable (toNode_hasShape index child)
  | .shortcut specs => by
      have as_many : (specs.map fun spec => index spec.name).length = specs.length :=
        List.length_map _
      have shape := Node.HasShape.shortcut as_many
      rwa [List.map_map] at shape

theorem toNodes_hasShape (index : String → Nat) : ∀ children : List Pattern,
    List.Forall₂ Node.HasShape (toNodes index children) children
  | [] => .nil
  | child :: children => .cons (toNode_hasShape index child) (toNodes_hasShape index children)

end

/-- The options of a shortcut, with the numbers of their slots. -/
def internOptions (table : List Slot) : List OptionSpec → List Node × List Slot
  | [] => ([], table)
  | spec :: specs =>
    let (slot, table) := (Slot.ofOption spec).intern table
    (internOptions table specs).map (.option slot :: ·) id

mutual

/-- Replaces the names of a pattern by their numbers in a table, which takes up new names on the
way. -/
def internNames (table : List Slot) : Pattern → Node × List Slot
  | option spec => ((Slot.ofOption spec).intern table).map .option id
  | argument name => ((Slot.ofArgument name).intern table).map .argument id
  | command name => ((Slot.ofCommand name).intern table).map .command id
  | required children => (internNamesOfAll table children).map .required id
  | optional children => (internNamesOfAll table children).map .optional id
  | either children => (internNamesOfAll table children).map .either id
  | repeatable child => (internNames table child).map .repeatable id
  | shortcut specs => (internOptions table specs).map .shortcut id

/-- Replaces the names of several patterns, from left to right. -/
def internNamesOfAll (table : List Slot) : List Pattern → List Node × List Slot
  | [] => ([], table)
  | child :: children =>
    let (node, table) := internNames table child
    (internNamesOfAll table children).map (node :: ·) id

end

section Intern

variable {final : List Slot}

theorem internOptions_eq (table : List Slot) (specs : List OptionSpec)
    (grows : Slot.internAll (specs.map .ofOption) table <+: final) :
    internOptions table specs =
      (specs.map fun spec => .option ((final.map Slot.name).idxOf spec.name),
        Slot.internAll (specs.map .ofOption) table) := by
  induction specs generalizing table with
  | nil => rfl
  | cons spec specs ih =>
      have number := Slot.intern_fst ((Slot.prefix_internAll ..).trans grows)
      simp only [internOptions, ih _ grows, number]
      rfl

mutual

/-- In a table that only grows, the number of a name is the one that it has in the end. -/
theorem internNames_eq (table : List Slot) : ∀ pattern : Pattern,
    Slot.internAll pattern.leafSlots table <+: final →
    internNames table pattern =
      (pattern.toNode (final.map Slot.name).idxOf, Slot.internAll pattern.leafSlots table)
  | option _, grows | argument _, grows | command _, grows => by
      have number := Slot.intern_fst grows
      rw [internNames, Prod.map, number]
      rfl
  | required children, grows | optional children, grows | either children, grows => by
      rw [internNames, internNamesOfAll_eq table children grows]
      rfl
  | repeatable child, grows => by
      rw [internNames, internNames_eq table child grows]
      rfl
  | shortcut specs, grows => by
      rw [internNames, internOptions_eq table specs grows]
      rfl

theorem internNamesOfAll_eq (table : List Slot) : ∀ children : List Pattern,
    Slot.internAll (leafSlotsOfAll children) table <+: final →
    internNamesOfAll table children =
      (toNodes (final.map Slot.name).idxOf children,
        Slot.internAll (leafSlotsOfAll children) table)
  | [], _ => rfl
  | child :: children, grows => by
      rw [leafSlotsOfAll, Slot.internAll_append] at grows ⊢
      have head := internNames_eq table child ((Slot.prefix_internAll ..).trans grows)
      have later := internNamesOfAll_eq _ children grows
      simp only [internNamesOfAll, head, later]
      rfl

end

/-- A single pass from the empty table finds the slots of a pattern and their numbers. -/
theorem internNames_nil (pattern : Pattern) :
    internNames [] pattern =
      (pattern.toNode ((Slot.firstOfEachName pattern.leafSlots).map Slot.name).idxOf,
        Slot.firstOfEachName pattern.leafSlots) := by
  have table : Slot.internAll pattern.leafSlots [] = Slot.firstOfEachName pattern.leafSlots := by
    simp [Slot.internAll_eq]
  rw [← table]
  exact internNames_eq [] pattern (List.prefix_refl _)

end Intern

end Pattern

namespace Grammar

variable {pattern : Pattern}

theorem index_lt_size {leaf : LeafKind × Nat} (member : leaf ∈ (ofPattern pattern).root.leaves) :
    leaf.2 < (ofPattern pattern).size := by
  obtain ⟨asked, written, rfl⟩ := mem_leaves_ofPattern.mp member
  have inside := List.idxOf_lt_length_of_mem (name_mem_names written)
  rwa [names, List.length_map] at inside

theorem map_nameAt_leaves (pattern : Pattern) :
    (ofPattern pattern).root.leaves.map (fun leaf => (ofPattern pattern).nameAt leaf.2) =
      pattern.leafNames := by
  rw [root_ofPattern, Pattern.leaves_toNode, List.map_map, ← Pattern.map_name_leafSlots]
  refine List.map_congr_left fun leaf asked => ?_
  obtain ⟨slot, found, named⟩ := exists_slot_of_name (name_mem_names asked)
  simp [Pattern.leafOf, nameAt, found, named]

/-- A slot is of the kind of the first leaf of its name. -/
theorem exists_first_leaf {slot : Slot} (member : slot ∈ (ofPattern pattern).slots) :
    ∃ first, pattern.leafSlots.find? (·.name = slot.name) = some first ∧
      slot.kind = first.kind := by
  obtain ⟨first, kept, rfl⟩ := List.mem_map.mp member
  refine ⟨first, ?_, Pattern.typeRepetition_kind ..⟩
  rw [Pattern.typeRepetition_name]
  exact Slot.find?_of_mem_firstOfEachName kept

/-- The grammar of a pattern has one slot for each name of its leaves, in the order in which the
names first occur and of the kind of the first leaf. Its root has the shape of the pattern, and its
leaves refer to the slots of their names. A single pass with a growing table builds it. -/
theorem ofPattern_unifies (pattern : Pattern) :
    let grammar := ofPattern pattern
    grammar.names.Nodup ∧ grammar.names = pattern.leafNames.eraseDups ∧
      (∀ leaf ∈ grammar.root.leaves, leaf.2 < grammar.size) ∧
      grammar.root.HasShape pattern ∧
      grammar.root.leaves.map (fun leaf => grammar.nameAt leaf.2) = pattern.leafNames ∧
      pattern.leafSlots.map Slot.name = pattern.leafNames ∧
      (∀ slot ∈ grammar.slots, ∃ first,
        pattern.leafSlots.find? (·.name = slot.name) = some first ∧ slot.kind = first.kind) ∧
      let (root, slots) := pattern.internNames []
      grammar = ⟨root, slots.map pattern.typeRepetition⟩ := by
  refine ⟨names_nodup pattern, ?_, fun _ => index_lt_size, ?_, map_nameAt_leaves pattern,
    pattern.map_name_leafSlots, fun _ => exists_first_leaf, ?_⟩
  · rw [names_ofPattern, Slot.map_name_firstOfEachName, pattern.map_name_leafSlots]
  · rw [root_ofPattern]
    exact pattern.toNode_hasShape _
  · rw [Pattern.internNames_nil]
    rfl

end Grammar

end UsageGrammar
