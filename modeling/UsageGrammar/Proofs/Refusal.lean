import UsageGrammar.Proofs.Compilation
import UsageGrammar.Proofs.Fitting

/-!
# Refusal

A vector that cannot be understood is refused, whatever the grammar is: each option error leaves a
word that no node consumes, and the answer tells the first of them. A vector with an option that
the document does not know is refused as well, because no slot bears the name of a new option.
-/

namespace UsageGrammar

namespace Response

/-- The vector matches, and nothing else was asked for. -/
def IsMatch (response : Response) : Prop :=
  response.success = true ∧ response.output = none

/-- The vector is refused with a message. -/
structure Refuses (response : Response) (message : String) : Prop where
  success : response.success = false
  bindings : response.bindings = .empty
  errorStatus : response.errorStatus = 1
  errorMessage : response.errorMessage = some message
  output : response.output = none

theorem matched_isMatch (bindings : Bindings) : (matched bindings).IsMatch :=
  ⟨rfl, rfl⟩

theorem printed_not_isMatch (text : String) : ¬ (printed text).IsMatch :=
  fun matched => by cases matched.2

theorem failed_refuses (message : String) : (failed message).Refuses message :=
  ⟨rfl, rfl, rfl, rfl, rfl⟩

theorem Refuses.not_isMatch {response : Response} {message : String}
    (refuses : response.Refuses message) : ¬ response.IsMatch :=
  fun matched => by cases refuses.success.symm.trans matched.1

end Response

/-- Help is enabled and asked for, or a version is set and asked for. -/
def ParseOptions.AsksForText (options : ParseOptions) (tokens : List Token) : Prop :=
  (options.help = true ∧ ∃ name value, .option name value ∈ tokens ∧
      (name = "-h" ∨ name = "--help") ∧ value.isTruthy = true) ∨
    (options.version ≠ none ∧ ∃ value, .option "--version" value ∈ tokens ∧
      value.isTruthy = true)

namespace Usage

variable (usage : Usage) (options : ParseOptions) (argv : List String)

theorem asksFor_iff (names : List String) (tokens : List Token) :
    asksFor names tokens = true ↔
      ∃ name value, .option name value ∈ tokens ∧ name ∈ names ∧ value.isTruthy = true := by
  rw [asksFor, List.any_eq_true]
  constructor
  · rintro ⟨token, member, asked⟩
    cases token with
    | option name value => exact ⟨name, value, member, by simpa using asked⟩
    | argument word => cases asked
    | invalid word => cases asked
  · rintro ⟨name, value, member, named, truthy⟩
    exact ⟨.option name value, member, by simp [named, truthy]⟩

theorem requested?_eq_none_iff (tokens : List Token) :
    usage.requested? options tokens = none ↔ ¬ options.AsksForText tokens := by
  have help : asksFor ["-h", "--help"] tokens = true ↔ ∃ name value,
      .option name value ∈ tokens ∧ (name = "-h" ∨ name = "--help") ∧ value.isTruthy = true := by
    simpa using asksFor_iff ["-h", "--help"] tokens
  have version : asksFor ["--version"] tokens = true ↔
      ∃ value, .option "--version" value ∈ tokens ∧ value.isTruthy = true := by
    simpa using asksFor_iff ["--version"] tokens
  rw [ParseOptions.AsksForText, ← help, ← version, requested?]
  simp only [Bool.and_eq_true]
  by_cases asked : options.help = true ∧ asksFor ["-h", "--help"] tokens = true
  · simp [asked]
  · cases options.version with
    | none => simp [asked]
    | some text => simp [asked]

/-- What the answer to a vector can be: a text that is asked for, a match, or a refusal. -/
inductive Answers (tokenized : Tokenized) : Response → Prop
  | printed {text : String} : usage.requested? options tokenized.tokens = some text →
      Answers tokenized (.printed text)
  | matched {state : MatchState} : usage.requested? options tokenized.tokens = none →
      usage.grammar.matchTokens tokenized.tokens = .accepted state →
      Answers tokenized (.matched (usage.bindingsOf state))
  | refused {state : MatchState} {unconsumed : Option (List Token)} :
      usage.requested? options tokenized.tokens = none →
      usage.grammar.matchTokens tokenized.tokens = .rejected state unconsumed →
      Answers tokenized (.failed
        ((refusal tokenized.errors unconsumed).message ++ "\n" ++ usage.shown options))

theorem parse_answers :
    usage.Answers options (tokenize options.optionsFirst usage.registry argv)
      (usage.parse options argv) := by
  simp only [parse]
  generalize tokenize options.optionsFirst usage.registry argv = tokenized
  cases asked : usage.requested? options tokenized.tokens with
  | some text => exact .printed asked
  | none =>
      cases outcome : usage.grammar.matchTokens tokenized.tokens with
      | accepted state => exact .matched asked outcome
      | rejected state unconsumed => exact .refused asked outcome

variable {usage options} {tokenized : Tokenized} {response : Response}

namespace Answers

theorem exists_accepted (answers : usage.Answers options tokenized response)
    (matched : response.IsMatch) :
    ∃ state, usage.grammar.matchTokens tokenized.tokens = .accepted state ∧
      response = .matched (usage.bindingsOf state) := by
  cases answers with
  | printed => exact absurd matched (Response.printed_not_isMatch _)
  | matched _ accepted => exact ⟨_, accepted, rfl⟩
  | refused => exact absurd matched (Response.failed_refuses _).not_isMatch

theorem isMatch_of_accepted (answers : usage.Answers options tokenized response)
    (unasked : usage.requested? options tokenized.tokens = none) {state : MatchState}
    (accepted : usage.grammar.matchTokens tokenized.tokens = .accepted state) :
    response.IsMatch := by
  cases answers with
  | printed asked => cases unasked.symm.trans asked
  | matched => exact Response.matched_isMatch _
  | refused _ rejected => cases accepted.symm.trans rejected

/-- A vector that does not match is answered with a text that is asked for, or refused. -/
theorem printed_or_refused (answers : usage.Answers options tokenized response)
    (unmatched : ¬ response.IsMatch) :
    (∃ text, usage.requested? options tokenized.tokens = some text ∧ response = .printed text) ∨
      ∃ message, response.Refuses message := by
  cases answers with
  | printed asked => exact .inl ⟨_, asked, rfl⟩
  | matched => exact absurd (Response.matched_isMatch _) unmatched
  | refused => exact .inr ⟨_, Response.failed_refuses _⟩

end Answers

/-- A vector with an error is not accepted, because the error left a word that nothing consumes. -/
theorem errors_eq_nil_of_accepted {optionsFirst : Bool} {registry : Registry}
    {argv : List String} {grammar : Grammar} {state : MatchState}
    (accepted : grammar.matchTokens (tokenize optionsFirst registry argv).tokens =
      .accepted state) : (tokenize optionsFirst registry argv).errors = [] := by
  rw [← List.length_eq_zero_iff, ← tokenize_invalids_length,
    Grammar.invalids_eq_nil_of_accepted accepted, List.length_nil]

/-- A word that cannot be understood always surfaces: the vector matches exactly if every word is
understood and the grammar accepts the tokens, and otherwise the first error is told. -/
theorem parse_surfaces_errors (usage : Usage) (options : ParseOptions) (argv : List String)
    (unasked : ¬ options.AsksForText
      (tokenize options.optionsFirst usage.registry argv).tokens) :
    ((usage.parse options argv).IsMatch ↔
        (tokenize options.optionsFirst usage.registry argv).errors = [] ∧
          ∃ state, usage.grammar.matchTokens
            (tokenize options.optionsFirst usage.registry argv).tokens = .accepted state) ∧
      ∀ error later,
        (tokenize options.optionsFirst usage.registry argv).errors = error :: later →
          (usage.parse options argv).Refuses
            (error.message ++ "\n" ++ usage.shown options) := by
  have answers := usage.parse_answers options argv
  have unasked := (usage.requested?_eq_none_iff options _).mpr unasked
  constructor
  · constructor
    · intro matched
      obtain ⟨state, accepted, -⟩ := answers.exists_accepted matched
      exact ⟨errors_eq_nil_of_accepted accepted, state, accepted⟩
    · rintro ⟨-, state, accepted⟩
      exact answers.isMatch_of_accepted unasked accepted
  · intro error later failed
    generalize usage.parse options argv = response at answers
    cases answers with
    | printed asked => cases unasked.symm.trans asked
    | matched _ accepted => cases (errors_eq_nil_of_accepted accepted).symm.trans failed
    | refused =>
        rw [failed]
        exact Response.failed_refuses _

/-- A speed without its value is told. -/
theorem parse_surfaces_errors_ship :
    ¬ ParseOptions.AsksForText {} (tokenize false shipUsage.registry ["-v", "--at"]).tokens ∧
      (tokenize false shipUsage.registry ["-v", "--at"]).errors = [.missingArgument "--at"] ∧
      ¬ (shipUsage.parse {} ["-v", "--at"]).IsMatch ∧
      (shipUsage.parse {} ["-v", "--at"]).Refuses
        "--at requires argument\nusage: ship [--at=N] [-v]... <x>" := by
  have tokenized : tokenize false shipUsage.registry ["-v", "--at"] =
      ⟨[.flag "-v", .invalid "--at"], [.missingArgument "--at"], shipUsage.registry⟩ := by
    cbv
  have failed : (tokenize false shipUsage.registry ["-v", "--at"]).errors =
      [.missingArgument "--at"] := by
    rw [tokenized]
  have unasked : ¬ ParseOptions.AsksForText {}
      (tokenize false shipUsage.registry ["-v", "--at"]).tokens := by
    rw [tokenized, ← shipUsage.requested?_eq_none_iff]
    decide +kernel
  obtain ⟨matches_iff, told⟩ := parse_surfaces_errors shipUsage {} ["-v", "--at"] unasked
  refine ⟨unasked, failed, fun matched => ?_, told _ _ failed⟩
  cases failed.symm.trans (matches_iff.mp matched).1

namespace Compiled

variable {doc : String}

/-- An accepted vector holds no option that is new: the slot that consumed it would bear the name of
a known one. -/
theorem registry_eq_of_accepted (compiled : Compiled doc usage)
    (plain : ∀ spec ∈ usage.registry.specs, spec.name ≠ "--") {optionsFirst : Bool}
    {argv : List String} {state : MatchState}
    (accepted : usage.grammar.matchTokens (tokenize optionsFirst usage.registry argv).tokens =
      .accepted state) :
    (tokenize optionsFirst usage.registry argv).registry = usage.registry := by
  obtain ⟨met, reports⟩ := exists_tokenize_reports optionsFirst usage.registry argv
  refine reports.path.eq_of_not_isNew fun flag member new => ?_
  have typed := reports.mem_of_met (errors_eq_nil_of_accepted accepted) flag member
  obtain ⟨slot, declared, named, spec, kind⟩ :=
    Grammar.exists_option_slot_of_accepted accepted typed
  obtain ⟨name, known⟩ := compiled.mem_registry declared kind
  exact new.name_ne known (compiled.dashed spec known) (plain spec known) (name.symm.trans named)

end Compiled

/-- An option that the document does not know is never accepted: a vector that registers one is
answered with a text that is asked for, or refused. -/
theorem parse_refuses_new_option {doc : String} (described : ofDoc doc = .ok usage)
    (plain : ∀ spec ∈ usage.registry.specs, spec.name ≠ "--") (options : ParseOptions)
    (argv : List String)
    (registers : usage.registry.size <
      (tokenize options.optionsFirst usage.registry argv).registry.size) :
    ¬ (usage.parse options argv).IsMatch ∧
      ((∃ text, usage.requested? options
            (tokenize options.optionsFirst usage.registry argv).tokens = some text ∧
          usage.parse options argv = .printed text) ∨
        ∃ message, (usage.parse options argv).Refuses message) := by
  have answers := usage.parse_answers options argv
  have unmatched : ¬ (usage.parse options argv).IsMatch := by
    intro matched
    obtain ⟨state, accepted, -⟩ := answers.exists_accepted matched
    rw [(compiled_of_ofDoc described).registry_eq_of_accepted plain accepted] at registers
    exact Nat.lt_irrefl _ registers
  exact ⟨unmatched, answers.printed_or_refused unmatched⟩

/-- The cluster `-vw` holds an option that the ship does not have. -/
theorem parse_refuses_new_option_ship :
    ofDoc shipDoc = .ok shipUsage ∧
      (∀ spec ∈ shipUsage.registry.specs, spec.name ≠ "--") ∧
      shipUsage.registry.size <
        (tokenize false shipUsage.registry ["-vw", "y"]).registry.size ∧
      ¬ (shipUsage.parse {} ["-vw", "y"]).IsMatch ∧
      ((∃ text, shipUsage.requested? {}
            (tokenize false shipUsage.registry ["-vw", "y"]).tokens = some text ∧
          shipUsage.parse {} ["-vw", "y"] = .printed text) ∨
        ∃ message, (shipUsage.parse {} ["-vw", "y"]).Refuses message) := by
  have registers : shipUsage.registry.size <
      (tokenize false shipUsage.registry ["-vw", "y"]).registry.size := by
    have tokenized : tokenize false shipUsage.registry ["-vw", "y"] =
        ⟨[.flag "-v", .flag "-w", .argument "y"], [],
          shipUsage.registry.register (.flag (some "-w") none)⟩ := by
      cbv
    rw [tokenized]
    exact Nat.lt_succ_self _
  have described := compiled_ship.ofDoc_eq
  exact ⟨described, ship_plain, registers,
    parse_refuses_new_option described ship_plain {} ["-vw", "y"] registers⟩

end Usage

end UsageGrammar
