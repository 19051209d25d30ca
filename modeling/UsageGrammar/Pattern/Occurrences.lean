import UsageGrammar.Pattern

/-!
# Occurrences of a name

How often a name can occur within one way of matching a pattern, in which every choice takes one
branch and every repetition runs twice. Sequences add, choices take the largest branch, and a
repetition doubles.
-/

namespace UsageGrammar.Pattern

/-- A name counts once at a leaf that bears it. -/
def occurrence (name leaf : String) : Nat :=
  if leaf = name then 1 else 0

mutual

/-- The largest number of times that a name occurs in one way of matching. -/
def occurrences (name : String) : Pattern → Nat
  | option spec => occurrence name spec.name
  | argument leaf => occurrence name leaf
  | command leaf => occurrence name leaf
  | required children | optional children => occurrencesTogether name children
  | either children => occurrencesApart name children
  | repeatable child => 2 * occurrences name child
  | shortcut specs => (specs.map OptionSpec.name).count name

/-- The largest number of times that a name occurs in one way of matching all of several
patterns. -/
def occurrencesTogether (name : String) : List Pattern → Nat
  | [] => 0
  | child :: children => occurrences name child + occurrencesTogether name children

/-- The largest number of times that a name occurs in one way of matching one of several
patterns. -/
def occurrencesApart (name : String) : List Pattern → Nat
  | [] => 0
  | child :: children => max (occurrences name child) (occurrencesApart name children)

end

end UsageGrammar.Pattern
