import UsageGrammar.Grammar.Matcher
import Mathlib.Logic.Relation

/-!
# Simulation of matchers

If the leaves of two matchers keep two states related, and related states agree on which of two has
less left, then the matchers treat every node alike. A property of one matcher that every leaf
keeps is the special case of a matcher related to itself.
-/

namespace UsageGrammar

namespace Matcher

variable {σ τ : Type}

theorem getD_related {related : σ → τ → Prop} {first : Option σ} {second : Option τ} {left : σ}
    {right : τ} (candidates : Option.Rel related first second) (fallback : related left right) :
    related (first.getD left) (second.getD right) := by
  cases candidates with
  | none => exact fallback
  | some candidate => exact candidate

/-- Leaves keep states related, and related states agree on which of two has less left. -/
structure Simulates (first : Matcher σ) (second : Matcher τ) (related : σ → τ → Prop) : Prop where
  leaf {slot : Nat} {left : σ} {right : τ} : related left right →
    Option.Rel related (first.leaf slot left) (second.leaf slot right)
  remaining {left left' : σ} {right right' : τ} : related left right → related left' right' →
    (first.remaining left' < first.remaining left ↔
      second.remaining right' < second.remaining right)

namespace Simulates

variable {first : Matcher σ} {second : Matcher τ} {related : σ → τ → Prop}

theorem closer (simulates : Simulates first second related) {left left' : Option σ}
    {right right' : Option τ} (candidates : Option.Rel related left right)
    (others : Option.Rel related left' right') :
    Option.Rel related (first.closer left left') (second.closer right right') := by
  cases candidates with
  | none => exact others
  | some candidate =>
      cases others with
      | none => exact .some candidate
      | some other =>
          simp only [Matcher.closer, simulates.remaining candidate other]
          split
          · exact .some other
          · exact .some candidate

theorem repeatStep (simulates : Simulates first second related) {step : σ → Option σ}
    {step' : τ → Option τ}
    (steps : ∀ {left right}, related left right → Option.Rel related (step left) (step' right))
    {left : σ} {right : τ} (start : related left right) :
    Option.Rel related (first.repeatStep step left) (second.repeatStep step' right) := by
  induction size : first.remaining left using Nat.strongRecOn generalizing left right with
  | ind size ih =>
      rw [Matcher.repeatStep, Matcher.repeatStep]
      have once := steps start
      generalize step left = next, step' right = next' at once
      cases once with
      | none => exact .none
      | @some next next' once =>
          simp only [simulates.remaining start once]
          split
          · next progress =>
              have less := (simulates.remaining start once).mpr progress
              exact .some (getD_related (ih _ (size ▸ less) once rfl) once)
          · exact .some once

mutual

/-- Related states stay related through a node, and the node fits both or neither. -/
theorem matchNode (simulates : Simulates first second related) {left : σ} {right : τ}
    (start : related left right) : ∀ node : Node,
      Option.Rel related (first.matchNode left node) (second.matchNode right node)
  | .option _ | .argument _ | .command _ => simulates.leaf start
  | .required children => simulates.matchAll start children
  | .optional children | .shortcut children => .some (simulates.matchEach start children)
  | .either children => simulates.matchClosest start children
  | .repeatable child =>
      simulates.repeatStep (fun start => simulates.matchNode start child) start

theorem matchAll (simulates : Simulates first second related) {left : σ} {right : τ}
    (start : related left right) : ∀ children : List Node,
      Option.Rel related (first.matchAll left children) (second.matchAll right children)
  | [] => .some start
  | child :: children => by
      have head := simulates.matchNode start child
      rw [Matcher.matchAll, Matcher.matchAll]
      generalize first.matchNode left child = next, second.matchNode right child = next' at head
      cases head with
      | none => exact .none
      | some head => exact simulates.matchAll head children

theorem matchEach (simulates : Simulates first second related) {left : σ} {right : τ}
    (start : related left right) : ∀ children : List Node,
      related (first.matchEach left children) (second.matchEach right children)
  | [] => start
  | child :: children =>
      simulates.matchEach (getD_related (simulates.matchNode start child) start) children

theorem matchClosest (simulates : Simulates first second related) {left : σ} {right : τ}
    (start : related left right) : ∀ children : List Node,
      Option.Rel related (first.matchClosest left children) (second.matchClosest right children)
  | [] => .none
  | child :: children =>
      simulates.closer (simulates.matchNode start child) (simulates.matchClosest start children)

end

end Simulates

variable {matcher : Matcher σ}

/-- What every leaf keeps, every node keeps. -/
theorem matchNode_preserves (holds : σ → Prop)
    (leaf : ∀ {slot state next}, holds state → matcher.leaf slot state = some next → holds next)
    {state next : σ} {node : Node} (start : holds state)
    (fits : matcher.matchNode state node = some next) : holds next := by
  have simulates : Simulates matcher matcher fun left right => left = right ∧ holds left := by
    refine ⟨?_, ?_⟩
    · rintro slot left _ ⟨rfl, start⟩
      cases once : matcher.leaf slot left with
      | none => exact .none
      | some next => exact .some ⟨rfl, leaf start once⟩
    · rintro left left' _ _ ⟨rfl, _⟩ ⟨rfl, _⟩
      exact Iff.rfl
  have related := simulates.matchNode ⟨rfl, start⟩ node
  rw [fits, Option.rel_some_some] at related
  exact related.2

theorem closer_eq_some {first second : Option σ} {chosen : σ}
    (choice : matcher.closer first second = some chosen) :
    first = some chosen ∨ second = some chosen := by
  unfold closer at choice
  split at choice
  · exact .inr choice
  · exact .inl choice
  · split at choice
    · exact .inr choice
    · exact .inl choice

theorem repeatStep_transGen {step : σ → Option σ} {state final : σ}
    (repeated : matcher.repeatStep step state = some final) :
    Relation.TransGen (fun before after => step before = some after) state final := by
  fun_induction matcher.repeatStep step state generalizing final with
  | case1 state failed => cases repeated
  | case2 state next once progress ih =>
      obtain rfl := Option.some.inj repeated
      cases later : matcher.repeatStep step next with
      | none => exact .single once
      | some last => exact .head once (ih later)
  | case3 state next once stuck =>
      obtain rfl := Option.some.inj repeated
      exact .single once

end Matcher

end UsageGrammar
