import UsageGrammar.OptionSpec

/-!
# Registries

A registry holds the options that are known, in the order in which they became known. Nothing is
ever removed, and one form may be declared more than once.
-/

namespace UsageGrammar

/-- The known options, the oldest first. -/
structure Registry where
  specs : List OptionSpec
  deriving Repr, DecidableEq, Inhabited

namespace Registry

/-- No option is known. -/
def empty : Registry :=
  ⟨[]⟩

/-- Adds an option at the end. -/
def register (registry : Registry) (spec : OptionSpec) : Registry :=
  ⟨registry.specs ++ [spec]⟩

/-- The first option with a name. -/
def get? (registry : Registry) (name : String) : Option OptionSpec :=
  registry.specs.find? (·.name == name)

/-- The options with a long form. -/
def byLong (registry : Registry) (form : String) : List OptionSpec :=
  registry.specs.filter (·.long == some form)

/-- A text begins another one. -/
def begins (start : String) (text : String) : Bool :=
  start.toList.isPrefixOf text.toList

/-- The options whose long form begins with the given text. -/
def byLongBeginning (registry : Registry) (start : String) : List OptionSpec :=
  registry.specs.filter fun spec => spec.long.any (begins start)

/-- The options with a short form. -/
def byShort (registry : Registry) (form : String) : List OptionSpec :=
  registry.specs.filter (·.short == some form)

/-- The number of options. -/
def size (registry : Registry) : Nat :=
  registry.specs.length

end Registry

end UsageGrammar
