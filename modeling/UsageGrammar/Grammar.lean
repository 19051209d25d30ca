import UsageGrammar.OptionSpec

/-!
# Grammars

A grammar separates the shape of a usage text from its names. Each name has one slot, and every
leaf of that name refers to the slot by its index, so that the occurrences of a name share one
binding. Whether a slot keeps one value, counts or collects is read off its default.
-/

namespace UsageGrammar

/-- What the leaves of a slot consume. -/
inductive SlotKind where
  | option (spec : OptionSpec)
  | argument
  | command
  deriving Repr, DecidableEq, Inhabited

/-- What happens to the values of repeated occurrences. -/
inductive Accumulation where
  | scalar
  | count
  | list
  deriving Repr, DecidableEq, Inhabited

/-- One name of a grammar. -/
structure Slot where
  name : String
  kind : SlotKind
  default : Value
  deriving Repr, DecidableEq, Inhabited

namespace Slot

/-- A slot accumulates in the shape of its default. -/
def accumulation (slot : Slot) : Accumulation :=
  match slot.default with
  | .count _ => .count
  | .list _ => .list
  | _ => .scalar

/-- Arguments and options with a value yield texts. -/
def collectsValues (slot : Slot) : Bool :=
  match slot.kind with
  | .argument => true
  | .option spec => spec.takesValue
  | .command => false

end Slot

/-- The shape of a grammar, with slot indices at its leaves. -/
inductive Node where
  | option (slot : Nat)
  | argument (slot : Nat)
  | command (slot : Nat)
  | required (children : List Node)
  | optional (children : List Node)
  | either (children : List Node)
  | repeatable (child : Node)
  | shortcut (children : List Node)
  deriving Repr, Inhabited

/-- A shape over a table of slots. -/
structure Grammar where
  root : Node
  slots : List Slot
  deriving Repr, Inhabited

namespace Grammar

/-- The number of slots. -/
def size (grammar : Grammar) : Nat :=
  grammar.slots.length

/-- The index of the first slot with a name. -/
def indexOf? (grammar : Grammar) (name : String) : Option Nat :=
  grammar.slots.findIdx? (·.name == name)

/-- The name of a slot, empty for an index outside the table. -/
def nameAt (grammar : Grammar) (slot : Nat) : String :=
  (grammar.slots[slot]?.map Slot.name).getD ""

mutual

/-- A node on one line, its leaves shown by the names of their slots. -/
def renderNode (grammar : Grammar) : Node → String
  | .option slot | .argument slot | .command slot => grammar.nameAt slot
  | .required children => "( " ++ " ".intercalate (grammar.renderNodes children) ++ " )"
  | .optional children | .shortcut children =>
    "[ " ++ " ".intercalate (grammar.renderNodes children) ++ " ]"
  | .either children => "( " ++ " | ".intercalate (grammar.renderNodes children) ++ " )"
  | .repeatable child => grammar.renderNode child ++ "..."

/-- Each of several nodes on its own. -/
def renderNodes (grammar : Grammar) : List Node → List String
  | [] => []
  | child :: children => grammar.renderNode child :: grammar.renderNodes children

end

/-- A grammar on one line. -/
def render (grammar : Grammar) : String :=
  grammar.renderNode grammar.root

end Grammar

end UsageGrammar
