import UsageGrammar.Data
import UsageGrammar.Report

/-!
# Data of the library's types

How values, options, responses and reports are laid out as data. A value needs no tag, because its
five shapes are five shapes of data.
-/

namespace UsageGrammar

/-- A value as data. -/
def Value.toData : Value → Data
  | null => .null
  | bool truth => .bool truth
  | count occurrences => .integer occurrences
  | text word => .text word
  | list items => .sequence (items.map .text)

/-- An option as data. -/
def OptionSpec.toData (spec : OptionSpec) : Data :=
  .mapping [("short", .ofText? spec.short), ("long", .ofText? spec.long),
    ("takes_value", .bool spec.takesValue), ("default", .ofText? spec.default)]

/-- Bindings as data. -/
def Bindings.toData (bindings : Bindings) : Data :=
  .mapping (bindings.entries.map fun (name, value) => (name, value.toData))

/-- A response as data. -/
def Response.toData (response : Response) : Data :=
  .mapping [("success", .bool response.success), ("bindings", response.bindings.toData),
    ("error_status", .integer response.errorStatus),
    ("error_message", .ofText? response.errorMessage), ("output", .ofText? response.output)]

/-- Parse options as data. -/
def ParseOptions.toData (options : ParseOptions) : Data :=
  .mapping [("options_first", .bool options.optionsFirst), ("help", .bool options.help),
    ("version", .ofText? options.version), ("exit", .bool options.exit),
    ("exit_full_usage", .bool options.fullUsage)]

/-- One declared name as data. -/
def SlotReport.toData (slot : SlotReport) : Data :=
  .mapping [("name", .text slot.name), ("kind", .text slot.kind),
    ("default", slot.default.toData)]

/-- A report as data. -/
def Report.toData (report : Report) : Data :=
  .mapping [("usage", .text report.usage), ("formal_usage", .text report.formalUsage),
    ("pattern", .text report.pattern),
    ("options", .sequence (report.options.map OptionSpec.toData)),
    ("slots", .sequence (report.slots.map SlotReport.toData))]

end UsageGrammar
