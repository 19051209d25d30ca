import UsageGrammar.Configuration
import UsageGrammar.File
import UsageGrammar.Invocation
import UsageGrammar.Report
import UsageGrammar.Text.Shell

/-!
# The outcome of an invocation

An invocation reads its files and ends with a status and two texts. A batch is a text with one
argument vector a line, where blank lines and comments hold none.
-/

namespace UsageGrammar

namespace Batch

/-- A line with an argument vector. -/
def holdsVector (line : List Char) : Bool :=
  match Text.trim line with
  | [] => false
  | c :: _ => c != '#'

/-- The argument vector of a line. The error is the number of a line with an open quote. -/
def vectorOf (number : Nat) (line : List Char) : Except Nat (List String) :=
  match Text.Shell.words? line with
  | some words => .ok words
  | none => .error number

/-- The argument vectors of a batch. Lines are numbered from one, those without a vector too. -/
def vectors (text : String) : Except Nat (List (List String)) :=
  let numbered := (Text.lines text.toList).zipIdx 1
  (numbered.filter fun (line, _) => holdsVector line).mapM fun (line, number) =>
    vectorOf number line

end Batch

/-- Why parse options cannot be loaded. -/
inductive ConfigurationError where
  /-- The file does not open. -/
  | file (error : FileError)
  /-- The content is no configuration. -/
  | content
  deriving Repr, DecidableEq, Inhabited

/-- The wording of the cause. -/
def ConfigurationError.message : ConfigurationError → String
  | file error => "I/O error: " ++ error.message
  | content => "YAML error: not a mapping of parse options"

/-- Why an invocation comes to nothing. -/
inductive InvocationError where
  | unreadable (path : String) (error : TextError)
  | invalidDoc (path : String) (error : GrammarError)
  | configuration (path : String) (error : ConfigurationError)
  /-- A line of a batch has an open quote. -/
  | openQuote (line : Nat)
  /-- The argument vector is refused. -/
  | refused (message : String)
  deriving Repr, DecidableEq, Inhabited

/-- The wording of the cause. -/
def InvocationError.message : InvocationError → String
  | unreadable path error => "Failed to read '" ++ path ++ "': " ++ error.message
  | invalidDoc path error => "invalid doc '" ++ path ++ "': " ++ error.message
  | configuration path error => "Failed to load config '" ++ path ++ "': " ++ error.message
  | openQuote line => "line " ++ Nat.repr line ++ ": missing closing quote"
  | refused message => message

namespace Files

/-- The text of a file that an invocation names. -/
def textAt (files : Files) (path : String) : Except InvocationError String :=
  (files.text path).mapError (.unreadable path)

/-- The compiled document of a file. -/
def usageAt (files : Files) (path : String) : Except InvocationError Usage := do
  let doc ← files.textAt path
  (Usage.ofDoc doc).mapError (.invalidDoc path)

/-- The parse options of a file. A directory opens, and so has the wrong content. -/
def optionsAt (files : Files) (path : String) : Except ConfigurationError ParseOptions :=
  match files path with
  | .error error => .error (if error = .isDirectory then .content else .file error)
  | .ok bytes =>
    match (String.fromUTF8? bytes).bind fun text => ParseOptions.ofYaml? text.toList with
    | some options => .ok options
    | none => .error .content

end Files

namespace InvocationFlags

/-- Changes parse options as the flags say. -/
def apply (flags : InvocationFlags) (options : ParseOptions) : ParseOptions where
  optionsFirst := options.optionsFirst || flags.optionsFirst
  help := options.help && !flags.noHelp
  version := flags.version.or options.version
  exit := false
  fullUsage := options.fullUsage || flags.fullUsage

/-- The parse options of an invocation. -/
def options (flags : InvocationFlags) (files : Files) : Except InvocationError ParseOptions :=
  match flags.config with
  | none => .ok (flags.apply {})
  | some path => ((files.optionsAt path).mapError (.configuration path)).map flags.apply

end InvocationFlags

namespace Invocation

/-- What a single match prints. -/
def singleText (response : Response) (format : OutputFormat) : Except InvocationError String :=
  if response.success then
    .ok (response.output.getD (response.bindings.format format) ++ "\n")
  else .error (.refused (response.errorMessage.getD "arguments do not match"))

/-- The note on the vectors of a batch that do not match. -/
def failureNote (responses : List Response) : String :=
  let failures := responses.countP fun response => !response.success
  if failures == 0 then ""
  else Nat.repr failures ++ " of " ++ Nat.repr responses.length ++
    " argument vectors did not match\n"

/-- The end of an invocation, or its error. The document is compiled first, then the parse options
are loaded, and last the batch is read. -/
def exit (files : Files) : Invocation → Except InvocationError Exit
  | check doc format => do
    let usage ← files.usageAt doc
    return ⟨0, usage.report.format format, ""⟩
  | single doc flags format argv => do
    let usage ← files.usageAt doc
    let options ← flags.options files
    return ⟨0, ← singleText (usage.parse options argv) format, ""⟩
  | batch doc input flags _ format => do
    let usage ← files.usageAt doc
    let options ← flags.options files
    let text ← files.textAt input
    let vectors ← (Batch.vectors text).mapError .openQuote
    let responses := vectors.map (usage.parse options)
    return ⟨0, Response.formatAll responses format, failureNote responses⟩

/-- The end of an invocation. -/
def run (files : Files) (invocation : Invocation) : Exit :=
  match invocation.exit files with
  | .ok exit => exit
  | .error error => ⟨1, "", "error: " ++ error.message ++ "\n"⟩

/-- The end of an invocation by its words. Words that ask for nothing end with status 2. -/
def runArguments (files : Files) (arguments : List String) : Exit :=
  match ofArguments? arguments with
  | some invocation => invocation.run files
  | none => ⟨2, "", "error: the arguments are none of check, match or batch with their options\n"⟩

/-- The paths that an invocation may read. -/
def paths : Invocation → List String
  | check doc _ => [doc]
  | single doc flags _ _ => doc :: flags.config.toList
  | batch doc input flags _ _ => doc :: input :: flags.config.toList

end Invocation

end UsageGrammar
