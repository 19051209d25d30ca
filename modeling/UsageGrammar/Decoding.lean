import UsageGrammar.Json.Tree
import UsageGrammar.Usage

/-!
# Reading the library's types from JSON

A record is an object of its fields, in which other keys are passed over and no field may stand
twice, or an array of its fields in their order. A value is told by its shape.
-/

namespace UsageGrammar

open Json (Tree)

/-- A string of which the text is known. -/
def Json.Tree.text? : Tree → Option String
  | text word => word
  | _ => none

/-- A truth value. -/
def Json.Tree.bool? : Tree → Option Bool
  | bool truth => some truth
  | _ => none

/-- A string, or null for none. -/
def Json.Tree.optionalText? : Tree → Option (Option String)
  | null => some none
  | text word => word.map some
  | _ => none

/-- A value. Its counts are integers of 64 bits without sign. -/
def Value.ofJson? : Tree → Option Value
  | .null => some .null
  | .bool truth => some (.bool truth)
  | .integer number =>
    if 0 ≤ number ∧ number < 0x10000000000000000 then some (.count number.toNat) else none
  | .text word => word.map .text
  | .array items => (items.mapM Tree.text?).map .list
  | .real | .object _ => none

/-- The member of an object at a key that stands there at most once; `some none` if it does not
stand there at all. -/
def uniqueMember? (members : List (Option String × Tree)) (key : String) : Option (Option Tree) :=
  match members.filter fun member => member.1 == some key with
  | [] => some none
  | [member] => some (some member.2)
  | _ => none

/-- The fields of a record in their order, `none` for a field that is missing. An array cannot hold
more than the fields, and holds all of them unless `mayBeShort`. -/
def recordFields? (names : List String) (mayBeShort : Bool) : Tree → Option (List (Option Tree))
  | .object members =>
    if members.all fun member => member.1.isSome then names.mapM (uniqueMember? members) else none
  | .array items =>
    if items.length = names.length ∨ (mayBeShort ∧ items.length < names.length) then
      some (items.map some ++ List.replicate (names.length - items.length) none)
    else none
  | _ => none

/-- A field that has to be there. -/
def requiredField? {α : Type} (read? : Tree → Option α) (field : Option Tree) : Option α :=
  field.bind read?

/-- A field that stands for a default where it is missing. -/
def defaultField? {α : Type} (read? : Tree → Option α) (default : α) (field : Option Tree) :
    Option α :=
  match field with
  | some tree => read? tree
  | none => some default

/-- An option. -/
def OptionSpec.ofJson? (tree : Tree) : Option OptionSpec := do
  match ← recordFields? ["short", "long", "takes_value", "default"] false tree with
  | [short, long, takesValue, default] =>
    return ⟨← defaultField? Tree.optionalText? none short,
      ← defaultField? Tree.optionalText? none long, ← requiredField? Tree.bool? takesValue,
      ← defaultField? Tree.optionalText? none default⟩
  | _ => none

/-- An entry of bindings. -/
def Bindings.entryOfJson? (member : Option String × Tree) : Option (String × Value) := do
  return (← member.1, ← Value.ofJson? member.2)

/-- Bindings. Of two members with one key the later counts. -/
def Bindings.ofJson? : Tree → Option Bindings
  | .object members =>
    (members.mapM entryOfJson?).map .ofList
  | _ => none

/-- An integer of 32 bits with sign. -/
def Json.Tree.int32? : Tree → Option Int
  | integer number => if -0x80000000 ≤ number ∧ number < 0x80000000 then some number else none
  | _ => none

/-- A response. -/
def Response.ofJson? (tree : Tree) : Option Response := do
  match ← recordFields? ["success", "bindings", "error_status", "error_message", "output"] false
    tree with
  | [success, bindings, errorStatus, errorMessage, output] =>
    return ⟨← requiredField? Tree.bool? success, ← requiredField? Bindings.ofJson? bindings,
      ← requiredField? Tree.int32? errorStatus,
      ← defaultField? Tree.optionalText? none errorMessage,
      ← defaultField? Tree.optionalText? none output⟩
  | _ => none

/-- Parse options. Every field may be missing. -/
def ParseOptions.ofJson? (tree : Tree) : Option ParseOptions := do
  match ← recordFields? ["options_first", "help", "version", "exit", "exit_full_usage"] true
    tree with
  | [optionsFirst, help, version, exit, fullUsage] =>
    return ⟨← defaultField? Tree.bool? false optionsFirst, ← defaultField? Tree.bool? true help,
      ← defaultField? Tree.optionalText? none version, ← defaultField? Tree.bool? true exit,
      ← defaultField? Tree.bool? false fullUsage⟩
  | _ => none

end UsageGrammar
