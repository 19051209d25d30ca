import UsageGrammar.OptionSpec

/-!
# Patterns

A pattern is the tree that a usage text describes: options, arguments and commands, put together
by sequence, optionality, choice and repetition. `[options]` stands for declared options, which are
filled in once the whole text is known.
-/

namespace UsageGrammar

/-- A usage pattern. -/
inductive Pattern where
  | option (spec : OptionSpec)
  | argument (name : String)
  | command (name : String)
  | required (children : List Pattern)
  | optional (children : List Pattern)
  | either (children : List Pattern)
  | repeatable (child : Pattern)
  | shortcut (specs : List OptionSpec)
  deriving Repr, Inhabited

namespace Pattern

/-- The name of a leaf. -/
def name? : Pattern → Option String
  | option spec => some spec.name
  | argument name => some name
  | command name => some name
  | _ => none

/-- Options, arguments and commands are leaves; a shortcut is not. -/
def isLeaf (pattern : Pattern) : Bool :=
  pattern.name?.isSome

mutual

/-- The options that stand in the pattern by themselves, from left to right. -/
def options : Pattern → List OptionSpec
  | option spec => [spec]
  | argument _ | command _ | shortcut _ => []
  | required children | optional children | either children => optionsOfAll children
  | repeatable child => child.options

/-- The options of several patterns, from left to right. -/
def optionsOfAll : List Pattern → List OptionSpec
  | [] => []
  | child :: children => child.options ++ optionsOfAll children

end

mutual

/-- The names of the leaves from left to right, the options of a shortcut included. -/
def leafNames : Pattern → List String
  | option spec => [spec.name]
  | argument name => [name]
  | command name => [name]
  | required children | optional children | either children => leafNamesOfAll children
  | repeatable child => child.leafNames
  | shortcut specs => specs.map OptionSpec.name

/-- The leaf names of several patterns, from left to right. -/
def leafNamesOfAll : List Pattern → List String
  | [] => []
  | child :: children => child.leafNames ++ leafNamesOfAll children

end

mutual

/-- A pattern on one line, in the notation of usage expressions. -/
def render : Pattern → String
  | option spec => if spec.takesValue then spec.name ++ "=<arg>" else spec.name
  | argument name => name
  | command name => name
  | required children => "( " ++ " ".intercalate (renderAll children) ++ " )"
  | optional children => "[ " ++ " ".intercalate (renderAll children) ++ " ]"
  | either children => "( " ++ " | ".intercalate (renderAll children) ++ " )"
  | repeatable child => child.render ++ "..."
  | shortcut _ => "[options]"

/-- Each of several patterns on its own. -/
def renderAll : List Pattern → List String
  | [] => []
  | child :: children => child.render :: renderAll children

end

theorem optionsOfAll_eq (children : List Pattern) :
    optionsOfAll children = children.flatMap options := by
  induction children with
  | nil => rfl
  | cons child children ih => simp [optionsOfAll, ih]

theorem leafNamesOfAll_eq (children : List Pattern) :
    leafNamesOfAll children = children.flatMap leafNames := by
  induction children with
  | nil => rfl
  | cons child children ih => simp [leafNamesOfAll, ih]

theorem renderAll_eq (children : List Pattern) : renderAll children = children.map render := by
  induction children with
  | nil => rfl
  | cons child children ih => simp [renderAll, ih]

end Pattern

end UsageGrammar
