import UsageGrammar.Argv
import UsageGrammar.Expression.Words
import UsageGrammar.Pattern
import UsageGrammar.Text.Letter

/-!
# Usage expressions

A usage expression is a choice of sequences, separated by bars. A sequence is a row of atoms, each
of which an ellipsis may follow. An atom is a bracketed expression, the word `options`, an option
word, an argument name or a command. The words are read from left to right with a stack of the
brackets that are still open.
-/

namespace UsageGrammar.Expression

/-- Round brackets group and square brackets make optional. -/
inductive Bracket where
  | round
  | square
  deriving Repr, DecidableEq, Inhabited

namespace Bracket

/-- The word that opens a bracket. -/
def opener : Bracket → String
  | round => "("
  | square => "["

/-- The pattern of a bracketed sequence. -/
def group : Bracket → List Pattern → Pattern
  | round => .required
  | square => .optional

end Bracket

/-- What a word means in an expression. -/
inductive Symbol where
  | opening (bracket : Bracket)
  | closing (bracket : Bracket)
  | bar
  | shortcut
  | long
  | short
  | argument
  | command
  deriving Repr, DecidableEq, Inhabited

/-- A word in angle brackets, or one with an uppercase letter and no lowercase letter. -/
def isArgumentName (word : String) : Bool :=
  let letters := word.toList
  (letters.head? == some '<' && letters.getLast? == some '>') ||
    (letters.any Text.isUppercase && !letters.any Text.isLowercase)

/-- The meaning of a word. The terminator and a single dash are commands. -/
def Symbol.ofWord (word : String) : Symbol :=
  if word = "(" then .opening .round
  else if word = "[" then .opening .square
  else if word = ")" then .closing .round
  else if word = "]" then .closing .square
  else if word = "|" then .bar
  else if word = "options" then .shortcut
  else
    match WordShape.ofWord word with
    | .long => .long
    | .short => .short
    | _ => if isArgumentName word then .argument else .command

/-- The inside of a bracket, as far as it has been read: the sequences before the last bar, and
the sequence after it. -/
structure Choice where
  earlier : List (List Pattern)
  current : List Pattern
  deriving Repr, Inhabited

namespace Choice

/-- Nothing has been read. -/
def empty : Choice :=
  ⟨[], []⟩

/-- Adds an atom to the sequence at the end. -/
def push (choice : Choice) (atom : List Pattern) : Choice :=
  { choice with current := choice.current ++ atom }

/-- Begins a new sequence. -/
def bar (choice : Choice) : Choice :=
  ⟨choice.earlier ++ [choice.current], []⟩

/-- A sequence as a branch of a choice: one atom stands bare, several are grouped, and an empty
sequence is no branch. -/
def branch (sequence : List Pattern) : List Pattern :=
  match sequence with
  | [] => []
  | [atom] => [atom]
  | atoms => [.required atoms]

/-- The patterns that a complete inside stands for. -/
def patterns (choice : Choice) : List Pattern :=
  match choice.earlier with
  | [] => choice.current
  | earlier =>
    match (earlier ++ [choice.current]).flatMap branch with
    | [] => []
    | [branch] => [branch]
    | branches => [.either branches]

end Choice

/-- An atom, repeated where an ellipsis follows it, and the words after it. Several patterns from
one cluster are repeated together. -/
def takeEllipsis (atom : List Pattern) : List String → List Pattern × List String
  | [] => (atom, [])
  | word :: following =>
    if word = "..." then
      match atom with
      | [single] => ([.repeatable single], following)
      | several => ([.repeatable (.required several)], following)
    else (atom, word :: following)

theorem takeEllipsis_length (atom : List Pattern) (following : List String) :
    (takeEllipsis atom following).2.length ≤ following.length := by
  cases following with
  | nil => exact Nat.le_refl _
  | cons word following =>
    simp only [takeEllipsis]
    split
    · split <;> simp
    · exact Nat.le_refl _

/-- A reading of an expression: its patterns or an error, and the registry with the options that
were new, in either case. -/
structure Compiled (α : Type) where
  result : Except GrammarError α
  registry : Registry

/-- The patterns of the occurrences that an option word resolves to. -/
def flagPatterns (flags : List ResolvedFlag) : List Pattern :=
  flags.map fun flag => .option flag.spec

/-- Reads words inside the innermost open bracket. The stack holds every open bracket with what
stood before it at its level. -/
def compileWords (stack : List (Bracket × Choice)) (choice : Choice) (registry : Registry) :
    List String → Compiled (List Pattern)
  | [] =>
    match stack with
    | [] => ⟨.ok choice.patterns, registry⟩
    | (bracket, _) :: _ => ⟨.error (.unmatched bracket.opener), registry⟩
  | word :: following =>
    match Symbol.ofWord word with
    | .opening bracket => compileWords ((bracket, choice) :: stack) .empty registry following
    | .closing bracket =>
      match stack with
      | [] => ⟨.error (.unexpectedEnding (word :: following)), registry⟩
      | (opened, outer) :: stack =>
        if opened = bracket then
          let taken := takeEllipsis [bracket.group choice.patterns] following
          compileWords stack (outer.push taken.1) registry taken.2
        else ⟨.error (.unmatched opened.opener), registry⟩
    | .bar => compileWords stack choice.bar registry following
    | .shortcut =>
      let taken := takeEllipsis [.shortcut []] following
      compileWords stack (choice.push taken.1) registry taken.2
    | .argument =>
      let taken := takeEllipsis [.argument word] following
      compileWords stack (choice.push taken.1) registry taken.2
    | .command =>
      let taken := takeEllipsis [.command word] following
      compileWords stack (choice.push taken.1) registry taken.2
    | .long =>
      let resolution := registry.resolveLong .usage word following
      match resolution.result with
      | .error error => ⟨.error (.flag error), resolution.registry⟩
      | .ok flags =>
        let taken := takeEllipsis (flagPatterns flags) resolution.following
        compileWords stack (choice.push taken.1) resolution.registry taken.2
    | .short =>
      let resolution := registry.resolveShort .usage word following
      match resolution.result with
      | .error error => ⟨.error (.flag error), resolution.registry⟩
      | .ok flags =>
        let taken := takeEllipsis (flagPatterns flags) resolution.following
        compileWords stack (choice.push taken.1) resolution.registry taken.2
termination_by words => words.length
decreasing_by
  · simp
  · exact Nat.lt_succ_of_le (takeEllipsis_length _ _)
  · simp
  · exact Nat.lt_succ_of_le (takeEllipsis_length _ _)
  · exact Nat.lt_succ_of_le (takeEllipsis_length _ _)
  · exact Nat.lt_succ_of_le (takeEllipsis_length _ _)
  · exact Nat.lt_succ_of_le
      (Nat.le_trans (takeEllipsis_length _ _) (registry.resolveLong_length .usage word following))
  · exact Nat.lt_succ_of_le
      (Nat.le_trans (takeEllipsis_length _ _) (registry.resolveShort_length .usage word following))

/-- Compiles an expression into a pattern that requires all of it. -/
def compile (registry : Registry) (expression : String) : Compiled Pattern :=
  let compiled := compileWords [] .empty registry (wordsOf expression)
  ⟨compiled.result.map .required, compiled.registry⟩

end UsageGrammar.Expression
