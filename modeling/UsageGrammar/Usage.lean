import UsageGrammar.Expression
import UsageGrammar.Grammar.Match
import UsageGrammar.Grammar.OfPattern
import UsageGrammar.Pattern.Shortcut
import UsageGrammar.Registry.Entry
import UsageGrammar.Response

/-!
# Usage texts

A document is compiled once: its usage section becomes a grammar, and its options sections declare
options. After that any number of argument vectors can be parsed.
-/

namespace UsageGrammar

/-- The settings of one use of a usage text. -/
structure ParseOptions where
  /-- The first plain word and everything after it are arguments. -/
  optionsFirst : Bool := false
  /-- `-h` and `--help` are answered with the usage section. -/
  help : Bool := true
  /-- `--version` is answered with this text. -/
  version : Option String := none
  /-- The process may end once the answer is known. -/
  exit : Bool := true
  /-- Help and errors show the whole document. -/
  fullUsage : Bool := false
  deriving Repr, DecidableEq, Inhabited

/-- A compiled document. -/
structure Usage where
  doc : String
  /-- The usage section. -/
  text : String
  /-- The usage section as one expression. -/
  formal : String
  /-- The pattern of the expression, its shortcuts filled in. -/
  pattern : Pattern
  grammar : Grammar
  /-- The declared options, and those that only the usage section mentions. -/
  registry : Registry

namespace Usage

/-- Compiles a document. -/
def ofDoc (doc : String) : Except GrammarError Usage :=
  match usageSection doc with
  | .error error => .error error
  | .ok text =>
    match formalUsage text with
    | .error error => .error error
    | .ok formal =>
      let declared := Registry.ofDoc doc
      let compiled := Expression.compile declared formal
      match compiled.result with
      | .error error => .error error
      | .ok unresolved =>
        let pattern := unresolved.resolveShortcuts declared
        .ok ⟨doc, text, formal, pattern, .ofPattern pattern, compiled.registry⟩

/-- The text that help and errors show. -/
def shown (usage : Usage) (options : ParseOptions) : String :=
  if options.fullUsage then Text.trimmed usage.doc else usage.text

/-- One of the named options occurs with a truthy value. -/
def asksFor (names : List String) (tokens : List Token) : Bool :=
  tokens.any fun token =>
    match token with
    | .option name value => names.contains name && value.isTruthy
    | _ => false

/-- The text that is asked for instead of a match: help first, then the version. -/
def requested? (usage : Usage) (options : ParseOptions) (tokens : List Token) : Option String :=
  if options.help && asksFor ["-h", "--help"] tokens then some (usage.shown options)
  else
    match options.version with
    | some version => if asksFor ["--version"] tokens then some version else none
    | none => none

/-- The bindings after a match; a slot that is not bound keeps its default. -/
def bindingsOf (usage : Usage) (state : MatchState) : Bindings :=
  .ofList ((usage.grammar.slots.zip state.bindings).map fun (slot, bound) =>
    (slot.name, bound.getD slot.default))

/-- The cause of a refusal: the first option error, else the tokens left over. -/
def refusal (errors : List FlagError) (unconsumed : Option (List Token)) : UserError :=
  match errors, unconsumed with
  | error :: _, _ => .flag error
  | [], some tokens => .unexpectedArguments (tokens.map Token.render)
  | [], none => .noMatch

/-- Parses an argument vector, which does not hold the name of the program. -/
def parse (usage : Usage) (options : ParseOptions) (argv : List String) : Response :=
  let tokenized := tokenize options.optionsFirst usage.registry argv
  match usage.requested? options tokenized.tokens with
  | some text => .printed text
  | none =>
    match usage.grammar.matchTokens tokenized.tokens with
    | .accepted state => .matched (usage.bindingsOf state)
    | .rejected _ unconsumed =>
      .failed ((refusal tokenized.errors unconsumed).message ++ "\n" ++ usage.shown options)

end Usage

/-- What running a document on arguments comes to. -/
inductive RunOutcome where
  | returned (response : Response)
  | exited (exit : Exit)

/-- Compiles a document and parses an argument vector. With the setting `exit` the process ends
unless the vector matches. -/
def runDoc (doc : String) (argv : List String) (options : ParseOptions) :
    Except GrammarError RunOutcome :=
  (Usage.ofDoc doc).map fun usage =>
    let response := usage.parse options argv
    if options.exit then
      match response.exit? with
      | some exit => .exited exit
      | none => .returned response
    else .returned response

end UsageGrammar
