import UsageGrammar.Proofs.Consumption
import UsageGrammar.Proofs.Simulation

/-!
# Tokens that suit a grammar

A leaf consumes only tokens that suit its slot. A token that suits no slot is left over by every
node, and an accepted vector therefore holds none: no word that could not be understood, and no
option that the grammar does not name.
-/

namespace UsageGrammar

namespace Slot

/-- The tokens that a leaf of the slot may consume. -/
inductive Suits (slot : Slot) : Token → Prop
  | option {spec : OptionSpec} {value : Value} : slot.kind = .option spec →
      Suits slot (.option slot.name value)
  | argument {word : String} : slot.kind = .argument → Suits slot (.argument word)
  | command : slot.kind = .command → Suits slot (.argument slot.name)

theorem option_of_valueOf? {name : String} {token : Token} {value : Value}
    (selected : Token.valueOf? name token = some value) : token = .option name value := by
  cases token with
  | option other value' =>
      simp only [Token.valueOf?, Option.ite_none_right_eq_some, Option.some.injEq] at selected
      obtain ⟨rfl, rfl⟩ := selected
      rfl
  | argument word => cases selected
  | invalid word => cases selected

theorem argument_of_argument? {token : Token} {word : String}
    (selected : token.argument? = some word) : token = .argument word := by
  cases token with
  | argument other => exact congrArg Token.argument (Option.some.inj selected)
  | option name value => cases selected
  | invalid other => cases selected

theorem Takes.split {slot : Slot} {tokens rest : List Token} {value : Value}
    (taken : slot.Takes tokens rest value) :
    ∃ before token after, tokens = before ++ token :: after ∧ rest = before ++ after ∧
      slot.Suits token := by
  cases taken with
  | option kind found =>
      obtain ⟨before, token, after, whole, left, -, selected⟩ := takeFirst_split found
      exact ⟨before, token, after, whole, left, option_of_valueOf? selected ▸ .option kind⟩
  | argument kind found =>
      obtain ⟨before, token, after, whole, left, -, selected⟩ := takeFirst_split found
      exact ⟨before, token, after, whole, left, argument_of_argument? selected ▸ .argument kind⟩
  | command kind found =>
      obtain ⟨before, token, after, whole, left, -, selected⟩ := takeFirst_split found
      exact ⟨before, token, after, whole, left, argument_of_argument? selected ▸ .command kind⟩

end Slot

namespace Grammar

variable {grammar : Grammar} {tokens : List Token} {token : Token} {state : MatchState}

/-- Everything that the leaf of a slot can do to a state. -/
theorem matchSlot_eq_some {slot : Nat} {next : MatchState}
    (fits : grammar.matchSlot slot state = some next) :
    ∃ declared value, grammar.slots[slot]? = some declared ∧
      declared.Takes state.leftover next.leftover value ∧
      next.bindings = state.bindings.modify slot fun bound =>
        some (declared.accumulate bound value) := by
  simp only [matchSlot] at fits
  split at fits
  · cases fits
  · next declared found =>
      split at fits
      · cases fits
      · next value leftover taken =>
          obtain rfl := Option.some.inj fits
          exact ⟨declared, value, found, Slot.takes_of_take? taken, rfl⟩

theorem mem_leftover_of_matchSlot {slot : Nat} {next : MatchState}
    (unsuited : ∀ slot ∈ grammar.slots, ¬ slot.Suits token) (member : token ∈ state.leftover)
    (fits : grammar.matchSlot slot state = some next) : token ∈ next.leftover := by
  obtain ⟨declared, value, found, taken, -⟩ := matchSlot_eq_some fits
  obtain ⟨before, other, after, whole, left, suits⟩ := taken.split
  have different : token ≠ other := by
    rintro rfl
    exact unsuited declared (List.mem_of_getElem? found) suits
  rw [whole] at member
  rw [left]
  simpa [different] using member

/-- A token that suits no slot is left over by every node. -/
theorem mem_leftover_of_matchNode {node : Node} {next : MatchState}
    (unsuited : ∀ slot ∈ grammar.slots, ¬ slot.Suits token) (member : token ∈ state.leftover)
    (fits : grammar.matchNode state node = some next) : token ∈ next.leftover :=
  Matcher.matchNode_preserves (fun state => token ∈ state.leftover)
    (fun member once => mem_leftover_of_matchSlot unsuited member once) member fits

theorem exists_suits_of_accepted (accepted : grammar.matchTokens tokens = .accepted state)
    (member : token ∈ tokens) : ∃ slot ∈ grammar.slots, slot.Suits token := by
  obtain ⟨fits, empty⟩ := matchTokens_eq_accepted_iff.mp accepted
  refine Classical.byContradiction fun unsuited => ?_
  have left := mem_leftover_of_matchNode
    (fun slot declared suits => unsuited ⟨slot, declared, suits⟩) member fits
  rw [empty] at left
  cases left

/-- No grammar accepts a word that could not be understood. -/
theorem invalids_eq_nil_of_accepted (accepted : grammar.matchTokens tokens = .accepted state) :
    Token.invalids tokens = [] := by
  rw [Token.invalids, List.filterMap_eq_nil_iff]
  intro token member
  obtain ⟨slot, -, suits⟩ := exists_suits_of_accepted accepted member
  cases suits <;> rfl

theorem exists_option_slot_of_accepted (accepted : grammar.matchTokens tokens = .accepted state)
    {name : String} {value : Value} (member : .option name value ∈ tokens) :
    ∃ slot ∈ grammar.slots, slot.name = name ∧ ∃ spec, slot.kind = .option spec := by
  obtain ⟨slot, declared, suits⟩ := exists_suits_of_accepted accepted member
  cases suits with
  | option kind => exact ⟨slot, declared, rfl, _, kind⟩

end Grammar

end UsageGrammar
