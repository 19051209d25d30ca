import UsageGrammar.Grammar
import UsageGrammar.Pattern.Occurrences
import UsageGrammar.Text.Blank

/-!
# The grammar of a pattern

Every name of a pattern gets one slot, in the order in which the names first occur. The first leaf
of a name decides what the slot is. A name that can occur more than once is counted, or its values
are collected, and its default takes that shape.
-/

namespace UsageGrammar

namespace Slot

/-- The slot of an option. -/
def ofOption (spec : OptionSpec) : Slot :=
  ⟨spec.name, .option spec, spec.initialValue⟩

/-- The slot of an argument. -/
def ofArgument (name : String) : Slot :=
  ⟨name, .argument, .null⟩

/-- The slot of a command. -/
def ofCommand (name : String) : Slot :=
  ⟨name, .command, .bool false⟩

/-- The default of a slot whose name can occur more than once: zero where occurrences are counted,
else the words of the declared default. -/
def repeatedDefault (slot : Slot) : Value :=
  if slot.collectsValues then
    match slot.kind with
    | .option spec => .list ((spec.default.map Text.wordsOf).getD [])
    | _ => .list []
  else .count 0

/-- The slots whose name no slot before them has. -/
def firstOfEachName : List Slot → List Slot
  | [] => []
  | slot :: slots => slot :: (firstOfEachName slots).filter (·.name ≠ slot.name)

end Slot

namespace Pattern

mutual

/-- The slots that the leaves of a pattern ask for, from left to right. -/
def leafSlots : Pattern → List Slot
  | option spec => [.ofOption spec]
  | argument name => [.ofArgument name]
  | command name => [.ofCommand name]
  | required children | optional children | either children => leafSlotsOfAll children
  | repeatable child => child.leafSlots
  | shortcut specs => specs.map .ofOption

/-- The slots that the leaves of several patterns ask for, from left to right. -/
def leafSlotsOfAll : List Pattern → List Slot
  | [] => []
  | child :: children => child.leafSlots ++ leafSlotsOfAll children

end

mutual

/-- The shape of a pattern, with an index for each name. -/
def toNode (index : String → Nat) : Pattern → Node
  | option spec => .option (index spec.name)
  | argument name => .argument (index name)
  | command name => .command (index name)
  | required children => .required (toNodes index children)
  | optional children => .optional (toNodes index children)
  | either children => .either (toNodes index children)
  | repeatable child => .repeatable (toNode index child)
  | shortcut specs => .shortcut (specs.map fun spec => .option (index spec.name))

/-- The shapes of several patterns. -/
def toNodes (index : String → Nat) : List Pattern → List Node
  | [] => []
  | child :: children => toNode index child :: toNodes index children

end

/-- The slot of a name that can occur more than once accumulates. -/
def typeRepetition (pattern : Pattern) (slot : Slot) : Slot :=
  if 1 < pattern.occurrences slot.name then { slot with default := slot.repeatedDefault } else slot

end Pattern

/-- The grammar of a pattern. -/
def Grammar.ofPattern (pattern : Pattern) : Grammar :=
  let slots := Slot.firstOfEachName pattern.leafSlots
  { root := pattern.toNode fun name => (slots.map Slot.name).idxOf name
    slots := slots.map pattern.typeRepetition }

end UsageGrammar
