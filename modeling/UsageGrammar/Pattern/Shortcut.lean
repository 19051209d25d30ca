import UsageGrammar.Pattern
import UsageGrammar.Registry

/-!
# The options shortcut

`[options]` stands for every declared option that the usage text does not mention by itself.
-/

namespace UsageGrammar.Pattern

mutual

/-- Puts the same options into every shortcut of a pattern. -/
def fillShortcuts (specs : List OptionSpec) : Pattern → Pattern
  | shortcut _ => shortcut specs
  | required children => required (fillAllShortcuts specs children)
  | optional children => optional (fillAllShortcuts specs children)
  | either children => either (fillAllShortcuts specs children)
  | repeatable child => repeatable (fillShortcuts specs child)
  | option spec => option spec
  | argument name => argument name
  | command name => command name

/-- Puts the same options into every shortcut of several patterns. -/
def fillAllShortcuts (specs : List OptionSpec) : List Pattern → List Pattern
  | [] => []
  | child :: children => fillShortcuts specs child :: fillAllShortcuts specs children

end

/-- The options whose name is not among those given and not that of an option before them. -/
def unmentioned (mentioned : List String) : List OptionSpec → List OptionSpec
  | [] => []
  | spec :: specs =>
    if mentioned.contains spec.name then unmentioned mentioned specs
    else spec :: unmentioned (spec.name :: mentioned) specs

/-- Fills every shortcut with the declared options that the pattern does not mention. -/
def resolveShortcuts (declared : Registry) (pattern : Pattern) : Pattern :=
  pattern.fillShortcuts (unmentioned (pattern.options.map OptionSpec.name) declared.specs)

end UsageGrammar.Pattern
