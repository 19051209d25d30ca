import UsageGrammar.Output
import UsageGrammar.Text.Digit

/-!
# Invocations

The program is invoked with the name of a command, the options of that command and, after `--`,
plain arguments.
-/

namespace UsageGrammar

/-- The settings of a match that an invocation gives. -/
structure InvocationFlags where
  /-- The path of a configuration. -/
  config : Option String
  optionsFirst : Bool
  noHelp : Bool
  version : Option String
  fullUsage : Bool
  deriving Repr, DecidableEq, Inhabited

/-- What the program is asked to do. -/
inductive Invocation where
  /-- Show what a document is compiled to. -/
  | check (doc : String) (format : OutputFormat)
  /-- Match one argument vector. -/
  | single (doc : String) (flags : InvocationFlags) (format : OutputFormat) (argv : List String)
  /-- Match the argument vectors of a file. They are independent of each other, so the number of
  jobs shows in no answer. -/
  | batch (doc input : String) (flags : InvocationFlags) (jobs : Nat) (format : OutputFormat)
  deriving Repr, DecidableEq, Inhabited

namespace Invocation

/-- The options that a command knows. -/
structure Signature where
  valued : List String
  flags : List String
  /-- Words may stand after `--`. -/
  takesArguments : Bool

/-- The words after the name of a command, sorted. -/
structure Typed where
  /-- The options in their order, each with its value if it takes one. -/
  options : List (String × Option String)
  /-- The words after `--`. -/
  arguments : List String

/-- One more option in front. -/
def Typed.cons (option : String × Option String) (typed : Typed) : Typed :=
  { typed with options := option :: typed.options }

/-- A word that can be the value of the option before it. -/
def isValue (word : String) : Bool :=
  word == "-" || !word.startsWith "-"

/-- The name of a long option, and the text that an equals sign attaches to it. -/
def longOption? (word : String) : Option (String × Option String) :=
  match word.toList with
  | '-' :: '-' :: form =>
    let attached := form.dropWhile (· != '=')
    some (String.ofList (form.takeWhile (· != '=')), attached.tail?.map String.ofList)
  | _ => none

/-- Sorts the words after the name of a command. -/
def Signature.sort? (signature : Signature) : List String → Option Typed
  | [] => some ⟨[], []⟩
  | word :: rest =>
    if word == "--" then
      if rest.isEmpty || signature.takesArguments then some ⟨[], rest⟩ else none
    else
      match longOption? word, rest with
      | none, _ => none
      | some (name, attached), rest =>
        if signature.flags.contains name then
          if attached.isNone then (signature.sort? rest).map (.cons (name, none)) else none
        else if signature.valued.contains name then
          match attached, rest with
          | some value, rest => (signature.sort? rest).map (.cons (name, some value))
          | none, [] => none
          | none, value :: rest =>
            if isValue value then (signature.sort? rest).map (.cons (name, some value)) else none
        else none

namespace Typed

/-- No option is typed twice. -/
def isDistinct (typed : Typed) : Bool :=
  decide (typed.options.map Prod.fst).Nodup

/-- A flag is typed. -/
def has (typed : Typed) (name : String) : Bool :=
  typed.options.any fun option => option.1 == name

/-- The value of an option. -/
def value? (typed : Typed) (name : String) : Option String :=
  (typed.options.find? fun option => option.1 == name).bind Prod.snd

/-- The value of an option read as its type, or a default. -/
def valueOr? {α : Type} (typed : Typed) (name : String) (read? : String → Option α)
    (default : α) : Option α :=
  match typed.value? name with
  | some value => read? value
  | none => some default

end Typed

/-- A path, which is not empty. -/
def path? (word : String) : Option String :=
  if word.isEmpty then none else some word

/-- A number of jobs: decimal digits, perhaps after a plus sign, that fit 64 bits. -/
def jobs? (word : String) : Option Nat := do
  let digits := match word.toList with
    | '+' :: digits => digits
    | digits => digits
  let number ← Text.natural? 10 digits
  if number < 0x10000000000000000 then some number else none

/-- The options of `check`. -/
def checkSignature : Signature :=
  ⟨["doc", "format"], [], false⟩

/-- The options of `match`. -/
def singleSignature : Signature :=
  ⟨["doc", "config", "version-string", "format"], ["options-first", "no-help", "full-usage"], true⟩

/-- The options of `batch`. -/
def batchSignature : Signature :=
  ⟨["doc", "input", "config", "version-string", "jobs", "format"],
    ["options-first", "no-help", "full-usage"], false⟩

/-- The path that an option has to give. -/
def Typed.path? (typed : Typed) (name : String) : Option String :=
  (typed.value? name).bind Invocation.path?

/-- The format of output. -/
def Typed.format? (typed : Typed) (default : OutputFormat) : Option OutputFormat :=
  typed.valueOr? "format" OutputFormat.ofWord? default

/-- The settings of a match. -/
def Typed.flags? (typed : Typed) : Option InvocationFlags := do
  return {
    config := ← typed.valueOr? "config" (fun word => (Invocation.path? word).map some) none
    optionsFirst := typed.has "options-first"
    noHelp := typed.has "no-help"
    version := typed.value? "version-string"
    fullUsage := typed.has "full-usage" }

/-- The words after the name of a command, sorted, without an option typed twice. -/
def Signature.typed? (signature : Signature) (words : List String) : Option Typed :=
  (signature.sort? words).filter Typed.isDistinct

/-- What words ask for. A word that the command does not know, a value that is not of the type of
its option, and an option that is missing or typed twice ask for nothing. -/
def ofArguments? : List String → Option Invocation
  | "check" :: words => do
    let typed ← checkSignature.typed? words
    return .check (← typed.path? "doc") (← typed.format? .table)
  | "match" :: words => do
    let typed ← singleSignature.typed? words
    return .single (← typed.path? "doc") (← typed.flags?) (← typed.format? .json) typed.arguments
  | "batch" :: words => do
    let typed ← batchSignature.typed? words
    return .batch (← typed.path? "doc") (← typed.path? "input") (← typed.flags?)
      (← typed.valueOr? "jobs" jobs? 4) (← typed.format? .json)
  | _ => none

end Invocation

end UsageGrammar
