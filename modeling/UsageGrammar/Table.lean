import UsageGrammar.Report

/-!
# Tables

The layout for people. Names stand in a column that is as wide as the longest name has bytes, and
are filled up with spaces by their number of characters.
-/

namespace UsageGrammar.Table

/-- The width of a column of names. -/
def columnWidth (names : List String) : Nat :=
  (names.map String.utf8ByteSize).foldl max 0

/-- A name filled up to a width. -/
def padded (width : Nat) (name : String) : String :=
  name ++ String.ofList (List.replicate (width - name.length) ' ')

/-- One line for each binding. -/
def ofBindings (bindings : Bindings) : String :=
  let width := columnWidth (bindings.entries.map Prod.fst)
  String.join (bindings.entries.map fun (name, value) =>
    padded width name ++ "  " ++ value.render ++ "\n")

/-- The error, the text to print, or the bindings. -/
def ofResponse (response : Response) : String :=
  if response.success then
    match response.output with
    | some text => text ++ "\n"
    | none => ofBindings response.bindings
  else
    "error (status " ++ toString response.errorStatus ++ "): " ++
      response.errorMessage.getD "" ++ "\n"

/-- The responses one after another, with a line break between them. -/
def ofResponses (responses : List Response) : String :=
  "\n".intercalate (responses.map ofResponse)

/-- One line for each option. -/
def optionLines (specs : List OptionSpec) : String :=
  String.join (specs.map fun spec =>
    let default := (spec.default.map fun text => "  [default: " ++ text ++ "]").getD ""
    "  " ++ spec.render ++ default ++ "\n")

/-- One line for each declared name. -/
def slotLines (slots : List SlotReport) : String :=
  let width := columnWidth (slots.map SlotReport.name)
  String.join (slots.map fun slot =>
    "  " ++ padded width slot.name ++ "  " ++ padded 8 slot.kind ++ "  " ++ slot.default.render ++
      "\n")

/-- A part with a heading that counts its members; an empty part is left out. -/
def counted (heading : String) (count : Nat) (body : String) : String :=
  if count = 0 then ""
  else "\n" ++ heading ++ " (" ++ Nat.repr count ++ "):\n" ++ body

/-- The formal usage and the pattern, the options, and the names. -/
def ofReport (report : Report) : String :=
  "Formal usage: " ++ report.formalUsage ++ "\n" ++
    "Pattern:      " ++ report.pattern ++ "\n" ++
    counted "Options" report.options.length (optionLines report.options) ++
    counted "Bindings" report.slots.length (slotLines report.slots)

end UsageGrammar.Table
