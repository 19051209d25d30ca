import UsageGrammar.Encoding
import UsageGrammar.Table
import UsageGrammar.Yaml.Layout

/-!
# Output formats

Responses, bindings and reports in each of the three formats.
-/

namespace UsageGrammar

/-- The formats of output. -/
inductive OutputFormat where
  | json
  | yaml
  | table
  deriving Repr, DecidableEq, Inhabited

namespace OutputFormat

/-- The word for a format. -/
def word : OutputFormat → String
  | json => "json"
  | yaml => "yaml"
  | table => "table"

/-- All formats. -/
def all : List OutputFormat :=
  [json, yaml, table]

/-- The format that a word names, in its exact spelling. -/
def ofWord? (word : String) : Option OutputFormat :=
  all.find? (·.word == word)

/-- The format that a word names in any mix of ASCII case. -/
def ofWordIgnoringCase? (word : String) : Option OutputFormat :=
  ofWord? (String.ofList (word.toList.map Char.toLower))

/-- Writes data in a format, where the table has a layout of its own. -/
def write (format : OutputFormat) (data : Data) (table : String) : String :=
  match format with
  | .json => data.toPrettyJson
  | .yaml => data.toYaml
  | .table => table

end OutputFormat

/-- A response in a format. -/
def Response.format (response : Response) (format : OutputFormat) : String :=
  format.write response.toData (Table.ofResponse response)

/-- Bindings in a format. -/
def Bindings.format (bindings : Bindings) (format : OutputFormat) : String :=
  format.write bindings.toData (Table.ofBindings bindings)

/-- Several responses in a format, as one sequence. -/
def Response.formatAll (responses : List Response) (format : OutputFormat) : String :=
  format.write (.sequence (responses.map Response.toData)) (Table.ofResponses responses)

/-- A report in a format. -/
def Report.format (report : Report) (format : OutputFormat) : String :=
  format.write report.toData (Table.ofReport report)

end UsageGrammar
