import UsageGrammar.Usage
import UsageGrammar.Yaml.Node

/-!
# Parse options from YAML

A configuration is a mapping from the names of settings to values. Other keys are passed over, no
setting may stand twice, and a setting that does not stand there has its default.
-/

namespace UsageGrammar

/-- The tag of truth values. -/
def Yaml.boolTag : List UInt8 :=
  Yaml.asciiBytes "tag:yaml.org,2002:bool".toList

/-- The tag of nothing. -/
def Yaml.nullTag : List UInt8 :=
  Yaml.asciiBytes "tag:yaml.org,2002:null".toList

/-- A truth value. It is a plain scalar, or a literal one that is tagged as such. -/
def Yaml.Node.bool? : Yaml.Node → Option Bool
  | scalar _ .plain text => Yaml.bool? text
  | scalar tag .literal text => if tag == some Yaml.boolTag then Yaml.bool? text else none
  | _ => none

/-- A text, or a plain scalar that stands for none. -/
def Yaml.Node.optionalText? : Yaml.Node → Option (Option String)
  | scalar none .plain text =>
    some (if text.isEmpty || Yaml.isNull text then none else some (String.ofList text))
  | scalar (some tag) .plain text =>
    if tag == Yaml.nullTag then (if Yaml.isNull text then some none else none)
    else some (some (String.ofList text))
  | scalar _ _ text => some (some (String.ofList text))
  | _ => none

/-- The text of a scalar, whatever it stands for. -/
def Yaml.Node.scalarText? : Yaml.Node → Option (List Char)
  | scalar _ _ text => some text
  | _ => none

/-- A setting that stands in a mapping at most once, read as its type. -/
def Yaml.setting? {α : Type} (entries : List (List Char × Yaml.Node)) (name : String)
    (read? : Yaml.Node → Option α) (default : α) : Option α :=
  match entries.filter fun entry => entry.1 == name.toList with
  | [] => some default
  | [entry] => read? entry.2
  | _ => none

/-- The entries of a mapping under the texts of their keys, where aliases stand for scalars. -/
def Yaml.Document.textEntries? (document : Yaml.Document)
    (entries : List (Yaml.Node × Yaml.Node)) : Option (List (List Char × Yaml.Node)) :=
  entries.mapM fun entry =>
    (document.target entry.1).scalarText?.map fun key => (key, document.target entry.2)

namespace ParseOptions

/-- The settings of a mapping. -/
def ofEntries? (entries : List (List Char × Yaml.Node)) : Option ParseOptions := do
  let defaults : ParseOptions := {}
  return {
    optionsFirst := ← Yaml.setting? entries "options_first" Yaml.Node.bool? defaults.optionsFirst
    help := ← Yaml.setting? entries "help" Yaml.Node.bool? defaults.help
    version := ← Yaml.setting? entries "version" Yaml.Node.optionalText? defaults.version
    exit := ← Yaml.setting? entries "exit" Yaml.Node.bool? defaults.exit
    fullUsage := ← Yaml.setting? entries "exit_full_usage" Yaml.Node.bool? defaults.fullUsage }

/-- The settings of a configuration. One without a document, or with an empty one, has the
defaults. -/
def ofYaml? (text : List Char) : Option ParseOptions := do
  let some document ← Yaml.document? text | return {}
  match document.root with
  | .scalar _ .plain [] => return {}
  | .mapping entries => ofEntries? (← document.textEntries? entries)
  | _ => none

end ParseOptions

end UsageGrammar
