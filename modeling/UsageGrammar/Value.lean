import UsageGrammar.Text.Quoted

/-!
# Values

What a name of a usage text can be bound to: nothing, a truth value, a number of occurrences, one
text or several. `Value.render` writes the five shapes so that no two of them look alike.
-/

namespace UsageGrammar

/-- What a name is bound to. -/
inductive Value where
  | null
  | bool (truth : Bool)
  | count (occurrences : Nat)
  | text (word : String)
  | list (items : List String)
  deriving Repr, DecidableEq, Inhabited

namespace Value

/-- The truth a value stands for; a count stands for "at least once". -/
def toBool? : Value → Option Bool
  | bool truth => some truth
  | count occurrences => some (decide (0 < occurrences))
  | _ => none

/-- The count a value stands for; a truth value counts as zero or one. -/
def toCount? : Value → Option Nat
  | count occurrences => some occurrences
  | bool truth => some truth.toNat
  | _ => none

/-- The one text a value holds. -/
def toText? : Value → Option String
  | text word => some word
  | _ => none

/-- The texts of a list value. -/
def toItems? : Value → Option (List String)
  | list items => some items
  | _ => none

/-- Neither null nor false nor zero nor empty. -/
def isTruthy : Value → Bool
  | null => false
  | bool truth => truth
  | count occurrences => decide (0 < occurrences)
  | text word => !word.isEmpty
  | list items => !items.isEmpty

/-- The words that a value adds to a list. -/
def contribution : Value → List String
  | text word => [word]
  | list items => items
  | _ => []

/-- Values on one line: texts are quoted, lists stand in brackets. -/
def render : Value → String
  | null => "null"
  | bool true => "true"
  | bool false => "false"
  | count occurrences => Nat.repr occurrences
  | text word => Text.Quoted.quote word
  | list items => "[" ++ ", ".intercalate (items.map Text.Quoted.quote) ++ "]"

end Value

end UsageGrammar
