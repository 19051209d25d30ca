import UsageGrammar.Usage

/-!
# Reports

A report shows what a document was compiled to.
-/

namespace UsageGrammar

/-- The word for the kind of a slot. -/
def SlotKind.word : SlotKind → String
  | option _ => "option"
  | argument => "argument"
  | command => "command"

/-- One declared name. -/
structure SlotReport where
  name : String
  kind : String
  default : Value
  deriving Repr, DecidableEq, Inhabited

/-- What a document was compiled to. -/
structure Report where
  usage : String
  formalUsage : String
  pattern : String
  options : List OptionSpec
  slots : List SlotReport
  deriving Repr, DecidableEq, Inhabited

/-- A compiled document, shown as a report. -/
def Usage.report (usage : Usage) : Report where
  usage := usage.text
  formalUsage := usage.formal
  pattern := usage.pattern.render
  options := usage.registry.specs
  slots := usage.grammar.slots.map fun slot => ⟨slot.name, slot.kind.word, slot.default⟩

end UsageGrammar
