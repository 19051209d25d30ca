import UsageGrammar.Json.Token

/-!
# Trees of JSON

JSON tokens are read as a tree, from left to right, with a stack of the arrays and objects that are
still open. An object keeps its members as they stand, repeated keys included.
-/

namespace UsageGrammar.Json

/-- What a JSON text holds. -/
inductive Tree where
  | null
  | bool (truth : Bool)
  | integer (number : Int)
  | real
  | text (word : Option String)
  | array (items : List Tree)
  | object (members : List (Option String × Tree))
  deriving Repr, Inhabited

/-- An array or object that is still open, with what it holds so far. An open object waits for the
value of a key. -/
inductive Frame where
  | array (items : List Tree)
  | object (members : List (Option String × Tree)) (key : Option String)
  deriving Repr, Inhabited

mutual

/-- Reads a value. Right after the opening bracket of an array, the array may also end. -/
def readValue (mayEnd : Bool) (stack : List Frame) : List Token → Option Tree
  | [] => none
  | token :: rest =>
    match token with
    | .null => readRest stack .null rest
    | .bool truth => readRest stack (.bool truth) rest
    | .integer number => readRest stack (.integer number) rest
    | .real => readRest stack .real rest
    | .text word => readRest stack (.text word) rest
    | .openArray => readValue true (.array [] :: stack) rest
    | .openObject => readFirstMember stack rest
    | .closeArray =>
      match mayEnd, stack with
      | true, .array items :: stack => readRest stack (.array items) rest
      | _, _ => none
    | _ => none

/-- Reads what follows the opening bracket of an object. -/
def readFirstMember (stack : List Frame) : List Token → Option Tree
  | .closeObject :: rest => readRest stack (.object []) rest
  | .text key :: .colon :: rest => readValue false (.object [] key :: stack) rest
  | _ => none

/-- Goes on after a complete value. -/
def readRest (stack : List Frame) (value : Tree) : List Token → Option Tree
  | [] =>
    match stack with
    | [] => some value
    | _ :: _ => none
  | token :: rest =>
    match stack with
    | .array items :: stack =>
      match token with
      | .comma => readValue false (.array (items ++ [value]) :: stack) rest
      | .closeArray => readRest stack (.array (items ++ [value])) rest
      | _ => none
    | .object members key :: stack =>
      match token, rest with
      | .comma, .text next :: .colon :: rest =>
        readValue false (.object (members ++ [(key, value)]) next :: stack) rest
      | .closeObject, rest => readRest stack (.object (members ++ [(key, value)])) rest
      | _, _ => none
    | [] => none

end

/-- The tree of a JSON text, which holds one value and nothing else. -/
def read? (text : String) : Option Tree :=
  (tokens? text.toList).bind (readValue false [])

end UsageGrammar.Json
