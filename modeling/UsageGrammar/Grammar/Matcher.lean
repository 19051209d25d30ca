import UsageGrammar.Grammar

/-!
# Matchers

A node says in which order its leaves are tried and which failures are passed over. What a leaf
does to a state is left to a matcher, together with a measure of what a state still has to consume.
Optional parts take what they can, a choice takes the branch that leaves the least, and a
repetition goes on as long as it consumes something.
-/

namespace UsageGrammar

/-- What the leaf of a slot does to a state, and how much a state has left to consume. -/
structure Matcher (σ : Type) where
  leaf (slot : Nat) (state : σ) : Option σ
  remaining (state : σ) : Nat

namespace Matcher

variable {σ : Type}

/-- The candidate that leaves less, and of two that leave as much the first. -/
def closer (matcher : Matcher σ) (first second : Option σ) : Option σ :=
  match first, second with
  | none, second => second
  | some first, none => some first
  | some first, some second =>
    if matcher.remaining second < matcher.remaining first then some second else some first

/-- Repeats a step that has to succeed once, until it fails or consumes nothing. -/
def repeatStep (matcher : Matcher σ) (step : σ → Option σ) (state : σ) : Option σ :=
  match step state with
  | none => none
  | some next =>
    if matcher.remaining next < matcher.remaining state then
      some ((matcher.repeatStep step next).getD next)
    else some next
termination_by matcher.remaining state

mutual

/-- Matches a node: the state after it, if it fits. What a leaf consumes is decided by its slot. -/
def matchNode (matcher : Matcher σ) (state : σ) : Node → Option σ
  | .option slot | .argument slot | .command slot => matcher.leaf slot state
  | .required children => matcher.matchAll state children
  | .optional children | .shortcut children => some (matcher.matchEach state children)
  | .either children => matcher.matchClosest state children
  | .repeatable child => matcher.repeatStep (fun state => matcher.matchNode state child) state

/-- Matches nodes one after another; all of them have to fit. -/
def matchAll (matcher : Matcher σ) (state : σ) : List Node → Option σ
  | [] => some state
  | child :: children =>
    match matcher.matchNode state child with
    | none => none
    | some next => matcher.matchAll next children

/-- Matches nodes one after another; those that do not fit are passed over. -/
def matchEach (matcher : Matcher σ) (state : σ) : List Node → σ
  | [] => state
  | child :: children => matcher.matchEach ((matcher.matchNode state child).getD state) children

/-- Matches one of several nodes, the one that leaves the least. -/
def matchClosest (matcher : Matcher σ) (state : σ) : List Node → Option σ
  | [] => none
  | child :: children =>
    matcher.closer (matcher.matchNode state child) (matcher.matchClosest state children)

end

end Matcher

end UsageGrammar
