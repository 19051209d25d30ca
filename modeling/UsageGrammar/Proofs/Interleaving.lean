import UsageGrammar.Proofs.Consumption
import UsageGrammar.Proofs.Simulation
import Mathlib.Data.List.Perm.Basic

/-!
# Interleaving of options and arguments

A match depends on tokens through their streams only: the words of the arguments, the values of
each option, and the number of words that could not be understood. How the streams are interleaved
makes no difference to any node, nor to the choice between branches.
-/

namespace UsageGrammar

namespace Token

/-- The token is an option that was understood. -/
def isOption : Token → Bool
  | option _ _ => true
  | _ => false

theorem length_eq_streams (tokens : List Token) :
    tokens.length =
      (words tokens).length + (invalids tokens).length + (tokens.filter isOption).length := by
  induction tokens with
  | nil => rfl
  | cons token tokens ih =>
      rw [words, invalids] at ih ⊢
      cases token with
      | option name value =>
          simp [List.filterMap_cons, List.filter_cons, argument?, invalid?, isOption]
          omega
      | argument word =>
          simp [List.filterMap_cons, argument?, invalid?, isOption]
          omega
      | invalid word =>
          simp [List.filterMap_cons, argument?, invalid?, isOption]
          omega

theorem count_option (name : String) (value : Value) (tokens : List Token) :
    tokens.count (option name value) = (valuesOf name tokens).count value := by
  induction tokens with
  | nil => rfl
  | cons token tokens ih =>
      rw [valuesOf] at ih ⊢
      cases token with
      | option other value' =>
          by_cases same : other = name
          · simp [valueOf?, List.count_cons, same, ih]
          · simp [valueOf?, same, ih]
      | argument word => simp [List.filterMap_cons, valueOf?, ih]
      | invalid word => simp [List.filterMap_cons, valueOf?, ih]

end Token

/-- Tokens with the same streams, however these are interleaved. -/
structure SameStreams (tokens others : List Token) : Prop where
  words : Token.words tokens = Token.words others
  values (name : String) : Token.valuesOf name tokens = Token.valuesOf name others
  invalids : (Token.invalids tokens).length = (Token.invalids others).length

namespace SameStreams

variable {tokens others rest rest' : List Token}

theorem options_perm (same : SameStreams tokens others) :
    (tokens.filter Token.isOption).Perm (others.filter Token.isOption) := by
  rw [List.perm_iff_count]
  intro token
  cases option : token.isOption with
  | false =>
      have absent (tokens : List Token) : (tokens.filter Token.isOption).count token = 0 := by
        rw [List.count_eq_zero, List.mem_filter]
        simp [option]
      rw [absent, absent]
  | true =>
      obtain ⟨name, value, rfl⟩ : ∃ name value, token = .option name value := by
        cases token <;> simp_all [Token.isOption]
      rw [List.count_filter option, List.count_filter option, Token.count_option,
        Token.count_option, same.values name]

theorem length_eq (same : SameStreams tokens others) : tokens.length = others.length := by
  rw [Token.length_eq_streams tokens, Token.length_eq_streams others, same.words, same.invalids,
    same.options_perm.length_eq]

theorem of_takeFirst_option {name : String} {value : Value} (same : SameStreams tokens others)
    (found : takeFirst (Token.valueOf? name) tokens = some (value, rest))
    (found' : takeFirst (Token.valueOf? name) others = some (value, rest')) :
    SameStreams rest rest' := by
  have words := same.words
  rw [words_of_takeFirst_option found, words_of_takeFirst_option found'] at words
  have invalids := same.invalids
  rw [invalids_of_takeFirst_option found, invalids_of_takeFirst_option found'] at invalids
  refine ⟨words, fun other => ?_, invalids⟩
  have values := same.values other
  by_cases here : name = other
  · subst here
    rw [valuesOf_of_takeFirst found, valuesOf_of_takeFirst found'] at values
    exact (List.cons.inj values).2
  · rwa [valuesOf_of_takeFirst_other here found, valuesOf_of_takeFirst_other here found'] at values

theorem of_takeFirst_argument {word : String} (same : SameStreams tokens others)
    (found : takeFirst Token.argument? tokens = some (word, rest))
    (found' : takeFirst Token.argument? others = some (word, rest')) : SameStreams rest rest' := by
  have words := same.words
  rw [words_of_takeFirst found, words_of_takeFirst found'] at words
  have invalids := same.invalids
  rw [invalids_of_takeFirst_argument found, invalids_of_takeFirst_argument found'] at invalids
  refine ⟨(List.cons.inj words).2, fun name => ?_, invalids⟩
  have values := same.values name
  rwa [valuesOf_of_takeFirst_argument found, valuesOf_of_takeFirst_argument found'] at values

theorem takeFirst_related {α : Type} {select : Token → Option α}
    (stream : tokens.filterMap select = others.filterMap select)
    (keeps : ∀ {value rest rest'}, takeFirst select tokens = some (value, rest) →
      takeFirst select others = some (value, rest') → SameStreams rest rest') :
    Option.Rel (fun left right => left.1 = right.1 ∧ SameStreams left.2 right.2)
      (takeFirst select tokens) (takeFirst select others) := by
  cases found : takeFirst select tokens with
  | none =>
      have empty := takeFirst_eq_none_iff.mp found
      rw [stream, ← takeFirst_eq_none_iff] at empty
      rw [empty]
      exact .none
  | some taken =>
      have nonempty := filterMap_of_takeFirst found
      rw [stream] at nonempty
      cases found' : takeFirst select others with
      | none =>
          rw [takeFirst_eq_none_iff.mp found'] at nonempty
          cases nonempty
      | some taken' =>
          rw [filterMap_of_takeFirst found'] at nonempty
          obtain ⟨value, rest⟩ := taken
          obtain ⟨value', rest'⟩ := taken'
          obtain rfl : value' = value := (List.cons.inj nonempty).1
          exact .some ⟨rfl, keeps found found'⟩

end SameStreams

namespace Grammar

/-- The matcher cannot tell apart states whose tokens have the same streams. -/
theorem matcher_simulates_itself (grammar : Grammar) :
    Matcher.Simulates grammar.matcher grammar.matcher fun left right =>
      SameStreams left.leftover right.leftover ∧ left.bindings = right.bindings := by
  apply matcher_simulates
  · intro slot _ tokens others same
    apply Slot.take?_related
    · exact SameStreams.takeFirst_related same.words same.of_takeFirst_argument
    · intro _ _
      exact SameStreams.takeFirst_related (same.values slot.name) same.of_takeFirst_option
  · intro tokens tokens' others others' same same'
    rw [same.length_eq, same'.length_eq]

end Grammar

/-- Both vectors are accepted with the same bindings, or both are refused for the same reason. -/
inductive MatchOutcome.Agrees : MatchOutcome → MatchOutcome → Prop
  | accepted {left right : MatchState} : left.bindings = right.bindings →
      Agrees (.accepted left) (.accepted right)
  | rejected {left right : MatchState} {unconsumed unconsumed' : Option (List Token)} :
      unconsumed.isSome = unconsumed'.isSome →
      Agrees (.rejected left unconsumed) (.rejected right unconsumed')

/-- Options and arguments may be interleaved freely. -/
theorem Grammar.matchTokens_agrees (grammar : Grammar) {tokens others : List Token}
    (same : SameStreams tokens others) :
    (grammar.matchTokens tokens).Agrees (grammar.matchTokens others) := by
  have start : SameStreams (MatchState.start grammar tokens).leftover
      (MatchState.start grammar others).leftover ∧
      (MatchState.start grammar tokens).bindings =
        (MatchState.start grammar others).bindings := ⟨same, rfl⟩
  have related := grammar.matcher_simulates_itself.matchNode start grammar.root
  simp only [matchTokens, matchNode]
  generalize grammar.matcher.matchNode (MatchState.start grammar tokens) grammar.root = left,
    grammar.matcher.matchNode (MatchState.start grammar others) grammar.root = right at related
  cases related with
  | none => exact .rejected rfl
  | @some left right related =>
      have empty : left.leftover = [] ↔ right.leftover = [] := by
        rw [← List.length_eq_zero_iff, related.1.length_eq, List.length_eq_zero_iff]
      simp only [List.isEmpty_iff, empty]
      split
      · exact .accepted related.2
      · exact .rejected rfl

/-- Two options and an argument may be typed in the reverse order. -/
theorem Grammar.matchTokens_agrees_reversed :
    SameStreams [.flag "-v", .argument "a", .option "-o" (.text "x")]
        [.option "-o" (.text "x"), .argument "a", .flag "-v"] ∧
      let grammar : Grammar :=
        ⟨.required [.argument 0, .shortcut [.option 1, .option 2]],
          [⟨"FILE", .argument, .null⟩,
            ⟨"-v", .option (.flag (some "-v") none), .bool false⟩,
            ⟨"-o", .option (.valued (some "-o") none), .null⟩]⟩
      (grammar.matchTokens [.flag "-v", .argument "a", .option "-o" (.text "x")]).Agrees
        (grammar.matchTokens [.option "-o" (.text "x"), .argument "a", .flag "-v"]) := by
  have same : SameStreams [.flag "-v", .argument "a", .option "-o" (.text "x")]
      [.option "-o" (.text "x"), .argument "a", .flag "-v"] := by
    refine ⟨rfl, fun name => ?_, rfl⟩
    by_cases flag : "-v" = name
    · subst flag
      rfl
    · simp [Token.valuesOf, Token.flag, List.filterMap_cons, Token.valueOf?, flag]
  exact ⟨same, Grammar.matchTokens_agrees _ same⟩

end UsageGrammar
