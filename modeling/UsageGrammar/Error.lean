import UsageGrammar.Text.Quoted

/-!
# Errors

An option word can fail to resolve, a usage text can fail to describe a grammar, and an argument
vector can fail to fit a grammar. The causes are kept apart from their wording.
-/

namespace UsageGrammar

/-- Why an option word does not resolve to a declared option. -/
inductive FlagError where
  /-- An abbreviation fits several long forms. -/
  | notUniquePrefix (form : String) (candidates : List String)
  /-- A short form is declared several times. -/
  | ambiguousShort (form : String) (count : Nat)
  /-- A long form is declared several times. -/
  | ambiguousLong (form : String) (count : Nat)
  /-- A value is given to an option that takes none. -/
  | unexpectedArgument (name : String)
  /-- An option that takes a value has none to take. -/
  | missingArgument (form : String)
  deriving Repr, DecidableEq, Inhabited

/-- Why a text describes no grammar. -/
inductive GrammarError where
  | missingUsage
  | duplicateUsage
  /-- The usage section is empty after its label. -/
  | emptyUsage
  /-- A bracket is closed by the wrong bracket or not at all. -/
  | unmatched (bracket : String)
  /-- Words are left over after a complete expression. -/
  | unexpectedEnding (words : List String)
  | flag (error : FlagError)
  deriving Repr, DecidableEq, Inhabited

/-- Why an argument vector is refused. -/
inductive UserError where
  | flag (error : FlagError)
  /-- The grammar matches but leaves these words. -/
  | unexpectedArguments (words : List String)
  | noMatch
  deriving Repr, DecidableEq, Inhabited

/-- The wording of an option error. -/
def FlagError.message : FlagError → String
  | notUniquePrefix form candidates =>
    form ++ " is not a unique prefix: " ++ ", ".intercalate candidates ++ "?"
  | ambiguousShort form count | ambiguousLong form count =>
    form ++ " is specified ambiguously " ++ Nat.repr count ++ " times"
  | unexpectedArgument name => name ++ " must not have an argument"
  | missingArgument form => form ++ " requires argument"

/-- The wording of a grammar error. -/
def GrammarError.message : GrammarError → String
  | missingUsage => "\"usage:\" (case-insensitive) not found"
  | duplicateUsage => "more than one \"usage:\" (case-insensitive)"
  | emptyUsage => "usage section does not name a program"
  | unmatched bracket => "unmatched '" ++ bracket ++ "'"
  | unexpectedEnding words =>
    "unexpected ending: " ++ Text.Quoted.quote (" ".intercalate words)
  | flag error => "invalid option in usage: " ++ error.message

/-- The wording of a refusal. -/
def UserError.message : UserError → String
  | flag error => error.message
  | unexpectedArguments words => "unexpected arguments: " ++ " ".intercalate words
  | noMatch => "arguments do not match any usage pattern"

end UsageGrammar
