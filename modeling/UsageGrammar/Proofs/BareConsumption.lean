import UsageGrammar.Proofs.LeafKinds
import UsageGrammar.Proofs.Regrouping

/-!
# Consumption without bindings

Whether a vector is accepted does not depend on what gets bound. A matcher that only consumes
tokens decides it, and a step of this matcher is described by what it takes of each stream: so many
words from the front, and the first value of some options. An argument that repeats takes all words.
-/

namespace UsageGrammar

namespace Token

theorem mem_valuesOf {name : String} {value : Value} {tokens : List Token} :
    value ∈ valuesOf name tokens ↔ .option name value ∈ tokens := by
  rw [valuesOf, List.mem_filterMap]
  constructor
  · rintro ⟨token, member, selected⟩
    exact Slot.option_of_valueOf? selected ▸ member
  · intro member
    exact ⟨_, member, by simp [valueOf?]⟩

theorem mem_invalids {word : String} {tokens : List Token} :
    word ∈ invalids tokens ↔ .invalid word ∈ tokens := by
  rw [invalids, List.mem_filterMap]
  constructor
  · rintro ⟨token, member, selected⟩
    cases token <;> simp_all [invalid?]
  · intro member
    exact ⟨_, member, rfl⟩

/-- All tokens are arguments. -/
structure OnlyWords (tokens : List Token) : Prop where
  values (name : String) : valuesOf name tokens = []
  invalids : invalids tokens = []

theorem eq_nil_iff_onlyWords {tokens : List Token} :
    tokens = [] ↔ words tokens = [] ∧ OnlyWords tokens := by
  constructor
  · rintro rfl
    exact ⟨rfl, fun _ => rfl, rfl⟩
  · rintro ⟨no_words, no_values, no_invalids⟩
    cases tokens with
    | nil => rfl
    | cons token tokens =>
        cases token with
        | option name value => simpa [valuesOf, valueOf?] using no_values name
        | argument word => simp [words, argument?] at no_words
        | invalid word => simp [invalids, invalid?] at no_invalids

end Token

/-- Words were taken from the front of tokens, and of each of some options one value if it had
any. -/
structure Consumed (count : Nat) (names : List String) (tokens rest : List Token) : Prop where
  words : Token.words rest = (Token.words tokens).drop count
  values (name : String) : Token.valuesOf name rest =
    if name ∈ names then (Token.valuesOf name tokens).tail else Token.valuesOf name tokens
  invalids : Token.invalids rest = Token.invalids tokens

namespace Consumed

variable {count count' : Nat} {names names' : List String} {tokens middle rest : List Token}

theorem refl (tokens : List Token) : Consumed 0 [] tokens tokens :=
  ⟨rfl, fun _ => rfl, rfl⟩

theorem trans (first : Consumed count names tokens middle)
    (second : Consumed count' names' middle rest) (separate : names.Disjoint names') :
    Consumed (count + count') (names ++ names') tokens rest := by
  refine ⟨?_, fun name => ?_, second.invalids.trans first.invalids⟩
  · rw [second.words, first.words, List.drop_drop]
  · rw [second.values, first.values]
    by_cases early : name ∈ names
    · have not_late : name ∉ names' := fun late => separate early late
      simp [early, not_late]
    · simp [early]

theorem passOption (name : String) (tokens : List Token) :
    Consumed 0 [name] tokens
      (((takeFirst (Token.valueOf? name) tokens).map Prod.snd).getD tokens) := by
  cases found : takeFirst (Token.valueOf? name) tokens with
  | none =>
      refine ⟨rfl, fun other => ?_, rfl⟩
      have absent : Token.valuesOf name tokens = [] := takeFirst_eq_none_iff.mp found
      by_cases same : other = name
      · simp [same, absent]
      · simp [same]
  | some taken =>
      obtain ⟨value, rest⟩ := taken
      refine ⟨(words_of_takeFirst_option found).symm, fun other => ?_,
        (invalids_of_takeFirst_option found).symm⟩
      by_cases same : other = name
      · simp [same, valuesOf_of_takeFirst found]
      · simp [same, valuesOf_of_takeFirst_other (Ne.symm same) found]

theorem takeWord {word : String}
    (found : takeFirst Token.argument? tokens = some (word, rest)) :
    Consumed 1 [] tokens rest := by
  refine ⟨?_, fun name => ?_, (invalids_of_takeFirst_argument found).symm⟩
  · rw [words_of_takeFirst found]
    rfl
  · simp [valuesOf_of_takeFirst_argument found]

/-- After all words, what is left is nothing if there were only words. -/
theorem eq_nil_iff (consumed : Consumed (Token.words tokens).length [] tokens rest) :
    rest = [] ↔ Token.OnlyWords tokens := by
  have no_words : Token.words rest = [] := by
    rw [consumed.words, List.drop_length]
  have values (name : String) : Token.valuesOf name rest = Token.valuesOf name tokens := by
    simpa using consumed.values name
  rw [Token.eq_nil_iff_onlyWords, and_iff_right no_words]
  constructor
  · intro only
    exact ⟨fun name => values name ▸ only.values name, consumed.invalids ▸ only.invalids⟩
  · intro only
    exact ⟨fun name => (values name).trans (only.values name),
      consumed.invalids.trans only.invalids⟩

/-- Of an option, nothing is left if it occurred at most once, and only where one value was
taken. -/
theorem valuesOf_eq_nil_iff (consumed : Consumed count names tokens rest) (name : String) :
    Token.valuesOf name rest = [] ↔
      (∀ value, .option name value ∈ tokens → name ∈ names) ∧
        (Token.valuesOf name tokens).length ≤ 1 := by
  rw [consumed.values]
  by_cases taken : name ∈ names
  · rw [if_pos taken, ← List.length_eq_zero_iff, List.length_tail,
      and_iff_right fun _ _ => taken]
    omega
  · have absent_iff : (∀ value, .option name value ∈ tokens → name ∈ names) ↔
        Token.valuesOf name tokens = [] := by
      simp only [taken, imp_false, List.eq_nil_iff_forall_not_mem, Token.mem_valuesOf]
    rw [if_neg taken, absent_iff]
    exact ⟨fun absent => ⟨absent, absent ▸ Nat.zero_le 1⟩, And.left⟩

theorem onlyWords_iff (consumed : Consumed count names tokens rest) :
    Token.OnlyWords rest ↔
      (∀ word, .invalid word ∉ tokens) ∧
        (∀ name value, .option name value ∈ tokens → name ∈ names) ∧
        ∀ name, (Token.valuesOf name tokens).length ≤ 1 := by
  have understood : Token.invalids rest = [] ↔ ∀ word, .invalid word ∉ tokens := by
    simp only [consumed.invalids, List.eq_nil_iff_forall_not_mem, Token.mem_invalids]
  rw [← forall_and, ← understood, and_comm]
  simp only [← consumed.valuesOf_eq_nil_iff]
  exact ⟨fun only => ⟨only.values, only.invalids⟩, fun ⟨values, invalids⟩ => ⟨values, invalids⟩⟩

end Consumed

namespace Slot

/-- The name of the slot of an option. -/
def optionName? (slot : Slot) : Option String :=
  match slot.kind with
  | .option _ => some slot.name
  | _ => none

theorem Takes.consumed_word {slot : Slot} {tokens rest : List Token} {value : Value}
    (wordy : slot.optionName? = none) (taken : slot.Takes tokens rest value) :
    Consumed 1 [] tokens rest := by
  cases taken with
  | option kind => simp [optionName?, kind] at wordy
  | argument _ found => exact .takeWord found
  | command _ found => exact .takeWord found

theorem take?_ofCommand_eq_none_iff {name : String} {tokens : List Token} :
    (ofCommand name).take? tokens = none ↔ (Token.words tokens).head? ≠ some name := by
  simp only [take?, ofCommand]
  cases found : takeFirst Token.argument? tokens with
  | none =>
      have no_words : Token.words tokens = [] := takeFirst_eq_none_iff.mp found
      simp [no_words]
  | some taken =>
      obtain ⟨word, rest⟩ := taken
      by_cases same : word = name <;> simp [words_of_takeFirst found, same]

end Slot

namespace Grammar

/-- Leaves consume tokens as in the grammar, but nothing is bound. -/
def consumer (grammar : Grammar) : Matcher (List Token) where
  leaf slot tokens :=
    grammar.slots[slot]?.bind fun declared => (declared.take? tokens).map Prod.snd
  remaining := List.length

theorem matcher_simulates_consumer (grammar : Grammar) :
    Matcher.Simulates grammar.matcher grammar.consumer fun state tokens =>
      state.leftover = tokens := by
  constructor
  · rintro slot state _ rfl
    simp only [matcher, matchSlot, consumer]
    cases grammar.slots[slot]? with
    | none => exact .none
    | some declared =>
        simp only [Option.bind_some]
        cases declared.take? state.leftover with
        | none => exact .none
        | some taken => exact .some rfl
  · rintro state state' _ _ rfl rfl
    exact Iff.rfl

theorem isAccepted_iff_consumer {grammar : Grammar} {tokens : List Token} :
    (grammar.matchTokens tokens).isAccepted ↔
      grammar.consumer.matchNode tokens grammar.root = some [] := by
  have related : Option.Rel _ (grammar.matchNode (.start grammar tokens) grammar.root)
      (grammar.consumer.matchNode tokens grammar.root) :=
    grammar.matcher_simulates_consumer.matchNode rfl grammar.root
  simp only [MatchOutcome.isAccepted_iff, matchTokens_eq_accepted_iff]
  generalize grammar.matchNode (.start grammar tokens) grammar.root = matched,
    grammar.consumer.matchNode tokens grammar.root = rest at related ⊢
  cases related with
  | none => simp
  | some same => simp [same]

/-- The leaves of some slots consume what those slots take by themselves. -/
def Serves (grammar : Grammar) (index : String → Nat) (slots : List Slot) : Prop :=
  ∀ slot ∈ slots, ∀ tokens,
    grammar.consumer.leaf (index slot.name) tokens = (slot.take? tokens).map Prod.snd

theorem ofPattern_serves {pattern : Pattern} (agree : pattern.KindsAgree) :
    (ofPattern pattern).Serves (ofPattern pattern).names.idxOf pattern.leafSlots := by
  intro slot asked tokens
  obtain ⟨declared, found, named, first, first_asked, same, kind⟩ := exists_slot_of_leaf asked
  have alike : declared.kind.alike slot.kind := kind ▸ agree first first_asked slot asked same
  simp only [consumer, found, Option.bind_some, Slot.take?_eq_of_alike named alike]

namespace Serves

variable {grammar : Grammar} {index : String → Nat} {tokens rest : List Token}

theorem of_subset {slots others : List Slot} (serves : grammar.Serves index others)
    (within : slots ⊆ others) : grammar.Serves index slots :=
  fun slot asked => serves slot (within asked)

section Repeated

variable {name : String}

theorem matchNode_argument (serves : grammar.Serves index (Pattern.argument name).leafSlots) :
    grammar.consumer.matchNode tokens (.argument (index name)) =
      ((Slot.ofArgument name).take? tokens).map Prod.snd :=
  serves (.ofArgument name) List.mem_cons_self tokens

theorem step_argument (serves : grammar.Serves index (Pattern.argument name).leafSlots)
    (once : grammar.consumer.matchNode tokens (.argument (index name)) = some rest) :
    ∃ word, takeFirst Token.argument? tokens = some (word, rest) := by
  rw [serves.matchNode_argument] at once
  obtain ⟨⟨value, left⟩, taken, rfl⟩ := Option.map_eq_some_iff.mp once
  obtain ⟨⟨word, left⟩, found, same⟩ := Option.map_eq_some_iff.mp
    (show (takeFirst Token.argument? tokens).map _ = _ from taken)
  obtain ⟨-, rfl⟩ := Prod.mk.inj same
  exact ⟨word, found⟩

theorem step_argument_eq_none_iff
    (serves : grammar.Serves index (Pattern.argument name).leafSlots) :
    grammar.consumer.matchNode tokens (.argument (index name)) = none ↔
      Token.words tokens = [] := by
  rw [serves.matchNode_argument, Option.map_eq_none_iff]
  exact Option.map_eq_none_iff.trans takeFirst_eq_none_iff

theorem step_argument_shortens (serves : grammar.Serves index (Pattern.argument name).leafSlots)
    (once : grammar.consumer.matchNode tokens (.argument (index name)) = some rest) :
    rest.length < tokens.length := by
  obtain ⟨word, found⟩ := serves.step_argument once
  obtain ⟨before, token, after, rfl, rfl, -⟩ := takeFirst_split found
  simp

theorem exists_consumed_of_steps (serves : grammar.Serves index (Pattern.argument name).leafSlots)
    (steps : Relation.TransGen (fun tokens rest =>
      grammar.consumer.matchNode tokens (.argument (index name)) = some rest) tokens rest) :
    ∃ count, Consumed count [] tokens rest := by
  induction steps with
  | single once =>
      obtain ⟨word, found⟩ := serves.step_argument once
      exact ⟨1, .takeWord found⟩
  | tail _ once ih =>
      obtain ⟨count, earlier⟩ := ih
      obtain ⟨word, found⟩ := serves.step_argument once
      exact ⟨count + 1, earlier.trans (.takeWord found) (List.disjoint_nil_left [])⟩

/-- An argument that repeats takes all words, since one that was left would have been taken. -/
theorem consumed_repeated (serves : grammar.Serves index (Pattern.argument name).leafSlots)
    (repeated : grammar.consumer.matchNode tokens (.repeatable (.argument (index name))) =
      some rest) : Consumed (Token.words tokens).length [] tokens rest := by
  have no_words : Token.words rest = [] := by
    have progressive : grammar.consumer.Progressive fun tokens =>
        grammar.consumer.matchNode tokens (.argument (index name)) :=
      fun once => .inr (serves.step_argument_shortens once)
    rcases Matcher.settled_of_repeatStep progressive repeated with failed | still
    · exact serves.step_argument_eq_none_iff.mp failed
    · exact absurd (serves.step_argument_shortens still) (Nat.lt_irrefl _)
  obtain ⟨count, consumed⟩ := serves.exists_consumed_of_steps (Matcher.repeatStep_transGen repeated)
  refine ⟨?_, consumed.values, consumed.invalids⟩
  rw [no_words, List.drop_length]

theorem repeated_eq_none_iff (serves : grammar.Serves index (Pattern.argument name).leafSlots) :
    grammar.consumer.matchNode tokens (.repeatable (.argument (index name))) = none ↔
      Token.words tokens = [] := by
  rw [Matcher.matchNode, Matcher.repeatStep_eq_none_iff]
  exact serves.step_argument_eq_none_iff

theorem consumed_repeated_getD (serves : grammar.Serves index (Pattern.argument name).leafSlots)
    (tokens : List Token) : Consumed (Token.words tokens).length [] tokens
      ((grammar.consumer.matchNode tokens (.repeatable (.argument (index name)))).getD tokens) := by
  cases repeated : grammar.consumer.matchNode tokens (.repeatable (.argument (index name))) with
  | some rest => exact serves.consumed_repeated repeated
  | none =>
      rw [serves.repeated_eq_none_iff.mp repeated]
      exact .refl tokens

end Repeated

end Serves

end Grammar

end UsageGrammar
