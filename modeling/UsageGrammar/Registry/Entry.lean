import UsageGrammar.Registry
import UsageGrammar.Section

/-!
# Entries of an options section

An entry starts at a line whose first visible characters are a dash and something after it. Its
declaration ends at the first column break, which is a tab or a run of at least two spaces or tabs.
What follows is the description, with the default value in the form `[default: value]`.
-/

namespace UsageGrammar

open Text

/-- A text up to its first column break, and the text after the break. -/
def splitColumn : List Char → List Char × List Char
  | [] => ([], [])
  | c :: text =>
    if c == '\t' || (c == ' ' && isIndented text) then ([], text.dropWhile isSpaceOrTab)
    else
      let (before, after) := splitColumn text
      (c :: before, after)

/-- A line up to its end, and the text after the line break where there is one. -/
def splitLine (text : List Char) : List Char × Option (List Char) :=
  match text.dropWhile (· != '\n') with
  | [] => (text, none)
  | _ :: rest => (text.takeWhile (· != '\n'), some rest)

/-- Takes one word of a declaration: a long form, a short form or the placeholder of a value. -/
def OptionSpec.declare (spec : OptionSpec) (word : List Char) : OptionSpec :=
  match word with
  | '-' :: '-' :: _ => { spec with long := some (String.ofList word) }
  | '-' :: _ => { spec with short := some (String.ofList word) }
  | _ => { spec with takesValue := true }

/-- The option of a declaration. Commas and equals signs separate words. -/
def declaredOption (declaration : List Char) : OptionSpec :=
  let spaced := declaration.map fun c => if c == ',' || c == '=' then ' ' else c
  (words spaced).foldl OptionSpec.declare (.flag none none)

/-- The default value that a description names. It ends at a bracket or with the line, and the
spaces and tabs around it do not belong to it. -/
def describedDefault (description : List Char) : Option String :=
  (afterLabel? "[default:".toList description).map fun rest =>
    let value := rest.takeWhile fun c => c != ']' && c != '\n'
    String.ofList (dropEndWhile isSpaceOrTab (value.dropWhile isSpaceOrTab))

/-- The option that an entry declares and describes. -/
def OptionSpec.ofEntry (entry : List Char) : OptionSpec :=
  let (firstLine, continuation) := splitLine (trim entry)
  let (declaration, inlineDescription) := splitColumn firstLine
  let description :=
    match continuation with
    | some rest => inlineDescription ++ '\n' :: rest
    | none => inlineDescription
  { declaredOption declaration with default := describedDefault description }

/-- A line on which an entry starts. -/
def startsEntry (line : List Char) : Bool :=
  match trimStart line with
  | '-' :: c :: _ => !isBlank c
  | _ => false

/-- The entries among lines: each starts on its own line and takes the lines up to the next. -/
def entriesOf : List (List Char) → List (List Char)
  | [] => []
  | line :: rest =>
    if startsEntry line then
      let continuation := rest.takeWhile fun next => !startsEntry next
      ['\n'].intercalate (trimStart line :: continuation) :: entriesOf rest
    else entriesOf rest

/-- The options of the entries in the text behind a label. -/
def optionsIn (body : List Char) : List OptionSpec :=
  (entriesOf (lines body)).map OptionSpec.ofEntry

/-- The options that the options sections of a document declare. -/
def Registry.ofDoc (doc : String) : Registry :=
  ⟨(sectionsOf "options:" doc).flatMap fun text => optionsIn (afterLabel "options:" text.toList)⟩

theorem Registry.specs_ofDoc (doc : String) : (ofDoc doc).specs =
    (sectionsOf "options:" doc).flatMap fun text =>
      optionsIn (afterLabel "options:" text.toList) := rfl

theorem Registry.exists_entry_of_mem_ofDoc {doc : String} {spec : OptionSpec}
    (member : spec ∈ (ofDoc doc).specs) :
    ∃ lines, ∃ entry ∈ entriesOf lines, spec = .ofEntry entry := by
  rw [specs_ofDoc] at member
  obtain ⟨text, -, listed⟩ := List.mem_flatMap.mp member
  obtain ⟨entry, declared, rfl⟩ := List.mem_map.mp listed
  exact ⟨_, entry, declared, rfl⟩

end UsageGrammar
