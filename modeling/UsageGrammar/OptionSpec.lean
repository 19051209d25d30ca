import UsageGrammar.Value

/-!
# Option specifications

An option has a short form, a long form or both, and takes one value or none. Its name is the long
form where there is one.
-/

namespace UsageGrammar

/-- The declaration of one option. -/
structure OptionSpec where
  short : Option String
  long : Option String
  takesValue : Bool
  default : Option String
  deriving Repr, DecidableEq, Inhabited

namespace OptionSpec

/-- An option that takes no value. -/
def flag (short long : Option String) : OptionSpec :=
  ⟨short, long, false, none⟩

/-- An option that takes one value. -/
def valued (short long : Option String) : OptionSpec :=
  ⟨short, long, true, none⟩

/-- The same option with a default value. -/
def withDefault (spec : OptionSpec) (default : String) : OptionSpec :=
  { spec with default := some default }

/-- The key that identifies an option: its long form, else its short form. -/
def name (spec : OptionSpec) : String :=
  (spec.long.or spec.short).getD ""

theorem name_of_long {spec : OptionSpec} {form : String} (long : spec.long = some form) :
    spec.name = form := by
  simp [name, long]

theorem name_of_short {spec : OptionSpec} {form : String} (no_long : spec.long = none)
    (short : spec.short = some form) : spec.name = form := by
  simp [name, no_long, short]

/-- The name is a form of the option if it has any. -/
theorem name_cases (spec : OptionSpec) :
    spec.long = some spec.name ∨ (spec.long = none ∧ spec.short = some spec.name) ∨
      spec.name = "" := by
  obtain ⟨short, long, takesValue, default⟩ := spec
  cases long with
  | some form => exact .inl rfl
  | none =>
      cases short with
      | some form => exact .inr (.inl ⟨rfl, rfl⟩)
      | none => exact .inr (.inr rfl)

/-- Either form is the given one. -/
def answersTo (spec : OptionSpec) (form : String) : Bool :=
  spec.short == some form || spec.long == some form

/-- The value of the option when it does not occur. A default counts only where a value is
taken. -/
def initialValue (spec : OptionSpec) : Value :=
  if spec.takesValue then
    match spec.default with
    | some default => .text default
    | none => .null
  else .bool false

/-- Both forms, and a placeholder when a value is taken. -/
def render (spec : OptionSpec) : String :=
  let forms :=
    match spec.short, spec.long with
    | some short, some long => short ++ ", " ++ long
    | some short, none => short
    | none, some long => long
    | none, none => "?"
  if spec.takesValue then forms ++ " <arg>" else forms

end OptionSpec

end UsageGrammar
