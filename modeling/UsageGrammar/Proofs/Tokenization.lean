import UsageGrammar.Argv
import UsageGrammar.Proofs.Consumption
import UsageGrammar.Proofs.Discovery

/-!
# Tokenization

Reading an argument vector loses no failure: there are as many words that could not be understood
as there are errors. The option tokens are the occurrences that were met, and where no word fails,
every occurrence that was met has its token.
-/

namespace UsageGrammar

namespace WordShape

theorem begins_of_ofWord_eq_long {word : String} (long : ofWord word = .long) :
    Registry.begins "--" word := by
  have means := means_ofWord word
  rw [long] at means
  cases means with
  | long letters => simp [Registry.begins, letters]

end WordShape

namespace Token

@[simp]
theorem invalids_append (tokens others : List Token) :
    invalids (tokens ++ others) = invalids tokens ++ invalids others :=
  List.filterMap_append

@[simp]
theorem invalids_flags (flags : List ResolvedFlag) :
    invalids (flags.map ResolvedFlag.toToken) = [] := by
  simp [invalids, ResolvedFlag.toToken, invalid?]

theorem invalids_arguments (words : List String) : invalids (words.map argument) = [] := by
  simp [invalids, invalid?]

end Token

namespace Tokenized

/-- The option tokens are occurrences met since a registry, and all of them unless a word failed. -/
structure Reports (registry : Registry) (met : List ResolvedFlag) (tokenized : Tokenized) :
    Prop where
  path : registry.MeetsAll .arguments met tokenized.registry
  met_of_mem {name : String} {value : Value} : .option name value ∈ tokenized.tokens →
    ∃ flag ∈ met, flag.toToken = .option name value
  mem_of_met : tokenized.errors = [] → ∀ flag ∈ met, flag.toToken ∈ tokenized.tokens

namespace Reports

variable {registry : Registry} {met : List ResolvedFlag} {tokenized : Tokenized}

theorem verbatim (registry : Registry) (words : List String) :
    Reports registry [] (.verbatim registry words) := by
  refine ⟨.nil, fun member => ?_, by simp⟩
  obtain ⟨word, -, same⟩ := List.mem_map.mp member
  cases same

theorem argument (reports : Reports registry met tokenized) (word : String) :
    Reports registry met { tokenized with tokens := .argument word :: tokenized.tokens } := by
  refine ⟨reports.path, fun member => ?_, fun whole flag member => ?_⟩
  · exact reports.met_of_mem (by simpa using member)
  · exact List.mem_cons_of_mem _ (reports.mem_of_met whole flag member)

theorem after {resolution : Resolution} {earlier : List ResolvedFlag}
    (resolved : Registry.Reports .arguments registry earlier resolution)
    (reports : Reports resolution.registry met tokenized) (word : String) :
    Reports registry (earlier ++ met) (tokenized.after word resolution.result) := by
  rcases resolved.result with result | ⟨error, result⟩
  · rw [result]
    refine ⟨resolved.path.append reports.path, fun member => ?_, fun whole flag member => ?_⟩
    · rcases List.mem_append.mp member with here | later
      · obtain ⟨flag, met, same⟩ := List.mem_map.mp here
        exact ⟨flag, List.mem_append_left _ met, same⟩
      · obtain ⟨flag, met, same⟩ := reports.met_of_mem later
        exact ⟨flag, List.mem_append_right _ met, same⟩
    · rcases List.mem_append.mp member with here | later
      · exact List.mem_append_left _ (List.mem_map_of_mem here)
      · exact List.mem_append_right _ (reports.mem_of_met whole flag later)
  · rw [result]
    refine ⟨resolved.path.append reports.path, fun member => ?_, nofun⟩
    obtain ⟨flag, met, same⟩ := reports.met_of_mem (by simpa [Tokenized.after] using member)
    exact ⟨flag, List.mem_append_right _ met, same⟩

end Reports

theorem after_invalids_length (word : String) (result : Except FlagError (List ResolvedFlag))
    {rest : Tokenized} (counted : (Token.invalids rest.tokens).length = rest.errors.length) :
    (Token.invalids (rest.after word result).tokens).length =
      (rest.after word result).errors.length := by
  cases result with
  | error error => simpa [Tokenized.after, Token.invalids, Token.invalid?] using counted
  | ok flags => simpa [Tokenized.after] using counted

end Tokenized

variable (optionsFirst : Bool) (registry : Registry) (argv : List String)

/-- Each error left one token for the word that failed, and there are no other such tokens. -/
theorem tokenize_invalids_length :
    (Token.invalids (tokenize optionsFirst registry argv).tokens).length =
      (tokenize optionsFirst registry argv).errors.length := by
  fun_induction tokenize optionsFirst registry argv with
  | case1 => rfl
  | case2 registry word following terminator =>
      exact congrArg List.length (Token.invalids_arguments (word :: following))
  | case3 registry word following long resolution ih =>
      exact Tokenized.after_invalids_length word _ ih
  | case4 registry word following short resolution ih =>
      exact Tokenized.after_invalids_length word _ ih
  | case5 registry word following plain =>
      exact congrArg List.length (Token.invalids_arguments (word :: following))
  | case6 registry word following plain _ rest ih => exact ih

/-- A vector reports the options that it meets. -/
theorem exists_tokenize_reports :
    ∃ met, Tokenized.Reports registry met (tokenize optionsFirst registry argv) := by
  fun_induction tokenize optionsFirst registry argv with
  | case1 registry => exact ⟨[], .verbatim registry []⟩
  | case2 registry word following terminator => exact ⟨[], .verbatim registry _⟩
  | case3 registry word following long resolution ih =>
      obtain ⟨met, reports⟩ := ih
      obtain ⟨earlier, resolved⟩ := registry.exists_resolveLong_reports .arguments
        (WordShape.begins_of_ofWord_eq_long long) following
      exact ⟨_, reports.after resolved word⟩
  | case4 registry word following short resolution ih =>
      obtain ⟨met, reports⟩ := ih
      obtain ⟨earlier, resolved⟩ :=
        registry.exists_resolveShort_reports .arguments word following
      exact ⟨_, .after resolved reports word⟩
  | case5 registry word following plain => exact ⟨[], .verbatim registry _⟩
  | case6 registry word following plain _ rest ih =>
      obtain ⟨met, reports⟩ := ih
      exact ⟨met, reports.argument word⟩

end UsageGrammar
