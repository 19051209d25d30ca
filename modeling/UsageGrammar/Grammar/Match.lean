import UsageGrammar.Grammar.Matcher
import UsageGrammar.Token

/-!
# Matching

A leaf consumes a token and binds its slot, or fails. Options are found wherever they stand,
arguments in their order. A node is matched by the matcher whose leaves do this, and a choice takes
the branch that leaves the fewest tokens.
-/

namespace UsageGrammar

/-- The tokens not consumed so far, and the value bound to each slot so far. -/
structure MatchState where
  leftover : List Token
  bindings : List (Option Value)
  deriving Repr, DecidableEq, Inhabited

namespace MatchState

/-- Nothing is consumed and nothing is bound. -/
def start (grammar : Grammar) (tokens : List Token) : MatchState :=
  ⟨tokens, List.replicate grammar.size none⟩

/-- The value bound to a slot. -/
def binding? (state : MatchState) (slot : Nat) : Option Value :=
  (state.bindings[slot]?).join

end MatchState

/-- Takes the first token that a selection accepts, and leaves the others. -/
def takeFirst {α : Type} (select : Token → Option α) : List Token → Option (α × List Token)
  | [] => none
  | token :: tokens =>
    match select token with
    | some value => some (value, tokens)
    | none => (takeFirst select tokens).map fun (value, rest) => (value, token :: rest)

namespace Slot

/-- Takes the token that a leaf of the slot consumes, with its value. A command consumes the first
argument only, and only if it is the name of the command. -/
def take? (slot : Slot) (tokens : List Token) : Option (Value × List Token) :=
  match slot.kind with
  | .option _ => takeFirst (Token.valueOf? slot.name) tokens
  | .argument => (takeFirst Token.argument? tokens).map fun (word, rest) => (.text word, rest)
  | .command =>
    match takeFirst Token.argument? tokens with
    | some (word, rest) => if word = slot.name then some (.bool true, rest) else none
    | none => none

/-- The binding of a slot after one more value. A scalar slot keeps its first value. -/
def accumulate (slot : Slot) (bound : Option Value) (value : Value) : Value :=
  match slot.accumulation with
  | .scalar => bound.getD value
  | .count =>
    match bound with
    | some (.count occurrences) => .count (occurrences + 1)
    | _ => .count 1
  | .list =>
    match bound with
    | some (.list items) => .list (items ++ value.contribution)
    | _ => .list value.contribution

end Slot

namespace Grammar

/-- Matches a leaf of a slot. -/
def matchSlot (grammar : Grammar) (slot : Nat) (state : MatchState) : Option MatchState :=
  match grammar.slots[slot]? with
  | none => none
  | some declared =>
    match declared.take? state.leftover with
    | none => none
    | some (value, leftover) =>
      some ⟨leftover,
        state.bindings.modify slot fun bound => some (declared.accumulate bound value)⟩

/-- Leaves consume tokens and bind slots; what is left to consume are the tokens. -/
def matcher (grammar : Grammar) : Matcher MatchState where
  leaf := grammar.matchSlot
  remaining state := state.leftover.length

/-- Matches a node: the state after it, if it fits. -/
def matchNode (grammar : Grammar) (state : MatchState) (node : Node) : Option MatchState :=
  grammar.matcher.matchNode state node

/-- Matches a node and tells whether it fits. A node that does not fit leaves the state as it was. -/
def attempt (grammar : Grammar) (node : Node) (state : MatchState) : Bool × MatchState :=
  match grammar.matchNode state node with
  | some next => (true, next)
  | none => (false, state)

end Grammar

/-- Whether all tokens of an argument vector fit a grammar. -/
inductive MatchOutcome where
  | accepted (state : MatchState)
  /-- The grammar does not fit, or it leaves the tokens given as `unconsumed`. -/
  | rejected (state : MatchState) (unconsumed : Option (List Token))
  deriving Repr, DecidableEq, Inhabited

/-- The outcome is an acceptance. -/
def MatchOutcome.isAccepted : MatchOutcome → Bool
  | accepted _ => true
  | rejected _ _ => false

/-- Matches all tokens against a grammar. A rejection comes with the state before the match. -/
def Grammar.matchTokens (grammar : Grammar) (tokens : List Token) : MatchOutcome :=
  let start := MatchState.start grammar tokens
  match grammar.matchNode start grammar.root with
  | none => .rejected start none
  | some state =>
    if state.leftover.isEmpty then .accepted state else .rejected start (some state.leftover)

/-- A vector is accepted if the root fits and leaves nothing. -/
theorem Grammar.matchTokens_eq_accepted_iff {grammar : Grammar} {tokens : List Token}
    {state : MatchState} :
    grammar.matchTokens tokens = .accepted state ↔
      grammar.matchNode (.start grammar tokens) grammar.root = some state ∧
        state.leftover = [] := by
  simp only [matchTokens]
  cases grammar.matchNode (.start grammar tokens) grammar.root with
  | none => simp
  | some next =>
    simp only [Option.some.injEq, List.isEmpty_iff]
    split
    · next empty =>
      simp only [MatchOutcome.accepted.injEq]
      exact ⟨fun same => ⟨same, same ▸ empty⟩, And.left⟩
    · next left =>
      simp only [reduceCtorEq, false_iff]
      rintro ⟨rfl, empty⟩
      exact left empty

theorem MatchOutcome.isAccepted_iff {outcome : MatchOutcome} :
    outcome.isAccepted ↔ ∃ state, outcome = .accepted state := by
  cases outcome <;> simp [isAccepted]

end UsageGrammar
