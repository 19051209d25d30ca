import UsageGrammar.Value

/-!
# Tokens

An argument vector is read as options, arguments, and words that could not be understood.
-/

namespace UsageGrammar

/-- One unit of an argument vector. -/
inductive Token where
  | option (name : String) (value : Value)
  | argument (word : String)
  | invalid (word : String)
  deriving Repr, DecidableEq, Inhabited

namespace Token

/-- An option that occurs without a value. -/
def flag (name : String) : Token :=
  .option name (.bool true)

/-- The word of an argument. -/
def argument? : Token → Option String
  | argument word => some word
  | _ => none

/-- The value of an option of the given name. -/
def valueOf? (name : String) : Token → Option Value
  | option other value => if other = name then some value else none
  | _ => none

/-- A token as one would type it; only a text value is shown with its option. -/
def render : Token → String
  | option name (.text value) => name ++ "=" ++ value
  | option name _ => name
  | argument word => word
  | invalid word => word

end Token

end UsageGrammar
