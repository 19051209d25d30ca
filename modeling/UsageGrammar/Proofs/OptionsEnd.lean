import UsageGrammar.Proofs.FollowingWords

/-!
# The end of the options

The terminator ends the options wherever it stands: what is read before it does not depend on what
comes after it, which is all arguments. Where the first plain word ends the options too, the
arguments are the end of the vector as it stands, and the vector is read as usual exactly if all its
options stand before its arguments.
-/

namespace UsageGrammar

namespace Token

/-- No option and no word that was not understood stands after an argument. -/
def ArgumentsLast (tokens : List Token) : Prop :=
  tokens.Pairwise fun first later => first.argument?.isSome → later.argument?.isSome

variable {tokens others : List Token}

theorem argumentsLast_append_iff (options : ∀ token ∈ others, token.argument? = none) :
    ArgumentsLast (others ++ tokens) ↔ ArgumentsLast tokens := by
  refine ⟨fun last => (List.pairwise_append.mp last).2.1, fun last => ?_⟩
  have among : others.Pairwise fun first later => first.argument?.isSome → later.argument?.isSome :=
    List.pairwise_of_forall_mem_list fun first member later _ argument => by
      simp [options first member] at argument
  refine List.pairwise_append.mpr ⟨among, last, fun first member later _ argument => ?_⟩
  simp [options first member] at argument

theorem argumentsLast_argument_cons_iff (word : String) :
    ArgumentsLast (.argument word :: tokens) ↔ ∀ token ∈ tokens, token.argument?.isSome := by
  refine ⟨fun last token member => (List.pairwise_cons.mp last).1 token member rfl, fun all => ?_⟩
  refine List.pairwise_cons.mpr ⟨fun token member _ => all token member, ?_⟩
  exact List.pairwise_of_forall_mem_list fun _ _ later member _ => all later member

theorem isSome_argument?_of_mem_map {words : List String} {token : Token}
    (member : token ∈ words.map argument) : token.argument?.isSome := by
  obtain ⟨word, -, rfl⟩ := List.mem_map.mp member
  rfl

end Token

namespace Tokenized

variable {word : String} {result : Except FlagError (List ResolvedFlag)} {rest other : Tokenized}

/-- The tokens of one option word. -/
def tokensOf (word : String) : Except FlagError (List ResolvedFlag) → List Token
  | .ok flags => flags.map ResolvedFlag.toToken
  | .error _ => [.invalid word]

theorem tokens_after : (rest.after word result).tokens = tokensOf word result ++ rest.tokens := by
  cases result <;> rfl

theorem argument?_of_mem_tokensOf {token : Token} (member : token ∈ tokensOf word result) :
    token.argument? = none := by
  cases result with
  | ok flags =>
      obtain ⟨flag, -, rfl⟩ := List.mem_map.mp member
      rfl
  | error error =>
      obtain rfl := List.mem_singleton.mp member
      rfl

theorem tokensOf_ne_nil (gives : result ≠ .ok []) : tokensOf word result ≠ [] := by
  cases result with
  | ok flags =>
      have some_flag : flags ≠ [] := fun same => gives (same ▸ rfl)
      simpa [tokensOf] using some_flag
  | error error => exact List.cons_ne_nil _ _

theorem not_all_arguments_after (gives : result ≠ .ok []) :
    ¬ ∀ token ∈ (rest.after word result).tokens, token.argument?.isSome := by
  intro all
  have some_token : tokensOf word result ≠ [] := tokensOf_ne_nil gives
  obtain ⟨token, member⟩ := List.exists_mem_of_ne_nil _ some_token
  have listed : token ∈ (rest.after word result).tokens := by
    rw [tokens_after]
    exact List.mem_append_left _ member
  have argument := all token listed
  rw [argument?_of_mem_tokensOf member] at argument
  cases argument

theorem after_inj : rest.after word result = other.after word result ↔ rest = other := by
  refine ⟨fun same => ?_, fun same => same ▸ rfl⟩
  obtain ⟨tokens, errors, registry⟩ := rest
  obtain ⟨tokens', errors', registry'⟩ := other
  cases result <;> simpa [after] using same

/-- The same tokens, and after them words that are arguments. -/
def followedBy (tokenized : Tokenized) (words : List String) : Tokenized :=
  { tokenized with tokens := tokenized.tokens ++ words.map .argument }

theorem verbatim_append (registry : Registry) (words others : List String) :
    verbatim registry (words ++ others) = (verbatim registry words).followedBy others := by
  simp [verbatim, followedBy]

theorem followedBy_after (words : List String) :
    (rest.followedBy words).after word result = (rest.after word result).followedBy words := by
  cases result <;> simp [after, followedBy]

end Tokenized

section Step

variable {optionsFirst : Bool} {registry : Registry} {word : String} {following : List String}

theorem tokenize_terminator (terminator : WordShape.ofWord word = .terminator) :
    tokenize optionsFirst registry (word :: following) = .verbatim registry (word :: following) := by
  rw [tokenize, terminator]

theorem tokenize_long (long : WordShape.ofWord word = .long) :
    tokenize optionsFirst registry (word :: following) =
      (tokenize optionsFirst (registry.resolveLong .arguments word following).registry
        (registry.resolveLong .arguments word following).following).after word
        (registry.resolveLong .arguments word following).result := by
  rw [tokenize, long]

theorem tokenize_short (short : WordShape.ofWord word = .short) :
    tokenize optionsFirst registry (word :: following) =
      (tokenize optionsFirst (registry.resolveShort .arguments word following).registry
        (registry.resolveShort .arguments word following).following).after word
        (registry.resolveShort .arguments word following).result := by
  rw [tokenize, short]

theorem tokenize_true_plain (plain : WordShape.ofWord word = .plain) :
    tokenize true registry (word :: following) = .verbatim registry (word :: following) := by
  rw [tokenize, plain]
  exact if_pos rfl

theorem tokenize_false_plain (plain : WordShape.ofWord word = .plain) :
    tokenize false registry (word :: following) =
      { tokenize false registry following with
        tokens := .argument word :: (tokenize false registry following).tokens } := by
  rw [tokenize, plain]
  exact if_neg Bool.false_ne_true

end Step

/-- The terminator is absolute: what is read before it is read as if the vector ended there, and
the terminator and all words after it are arguments. -/
theorem tokenize_append_terminator (optionsFirst : Bool) (registry : Registry)
    (before after : List String) :
    tokenize optionsFirst registry (before ++ "--" :: after) =
      (tokenize optionsFirst registry before).followedBy ("--" :: after) := by
  fun_induction tokenize optionsFirst registry before with
  | case1 registry => exact tokenize_terminator (by decide)
  | case2 registry word following terminator =>
      rw [List.cons_append, tokenize_terminator terminator]
      exact Tokenized.verbatim_append registry (word :: following) _
  | case3 registry word following long resolution ih =>
      rw [List.cons_append, tokenize_long long,
        (registry.resolveLong_uses .arguments word).append_terminator, ih,
        Tokenized.followedBy_after]
  | case4 registry word following short resolution ih =>
      rw [List.cons_append, tokenize_short short,
        (registry.resolveShort_uses .arguments word).append_terminator, ih,
        Tokenized.followedBy_after]
  | case5 registry word following plain first =>
      subst first
      rw [List.cons_append, tokenize_true_plain plain]
      exact Tokenized.verbatim_append registry (word :: following) _
  | case6 registry word following plain later rest ih =>
      obtain rfl : optionsFirst = false := by simpa using later
      rw [List.cons_append, tokenize_false_plain plain, ih]
      rfl

/-- First come options and words that were not understood, then arguments, which are the last words
of the vector as they stand. -/
def Tokenized.EndsVerbatim (argv : List String) (tokenized : Tokenized) : Prop :=
  ∃ options words, tokenized.tokens = options ++ words.map .argument ∧
    (∀ token ∈ options, token.argument? = none) ∧ words <:+ argv

namespace Tokenized

variable {argv remaining : List String} {rest : Tokenized}

theorem verbatim_endsVerbatim (registry : Registry) (argv : List String) :
    EndsVerbatim argv (verbatim registry argv) :=
  ⟨[], argv, rfl, nofun, List.suffix_refl _⟩

theorem EndsVerbatim.after (ends : EndsVerbatim remaining rest) (suffix : remaining <:+ argv)
    (word : String) (result : Except FlagError (List ResolvedFlag)) :
    EndsVerbatim argv (rest.after word result) := by
  obtain ⟨options, words, tokens, none_argument, last⟩ := ends
  refine ⟨tokensOf word result ++ options, words, ?_, fun token member => ?_, last.trans suffix⟩
  · rw [tokens_after, tokens, List.append_assoc]
  · rcases List.mem_append.mp member with here | later
    · exact argument?_of_mem_tokensOf here
    · exact none_argument token later

end Tokenized

section OptionsFirst

variable {registry : Registry} {argv : List String}

theorem tokenize_true_endsVerbatim (registry : Registry) (argv : List String) :
    (tokenize true registry argv).EndsVerbatim argv := by
  fun_induction tokenize true registry argv with
  | case1 registry => exact Tokenized.verbatim_endsVerbatim registry []
  | case2 registry word following terminator => exact Tokenized.verbatim_endsVerbatim registry _
  | case3 registry word following long resolution ih =>
      have suffix := (registry.resolveLong_uses .arguments word).suffix following
      exact ih.after (suffix.trans (List.suffix_cons ..)) word _
  | case4 registry word following short resolution ih =>
      have suffix := (registry.resolveShort_uses .arguments word).suffix following
      exact ih.after (suffix.trans (List.suffix_cons ..)) word _
  | case5 registry word following plain first => exact Tokenized.verbatim_endsVerbatim registry _
  | case6 registry word following plain later => exact absurd rfl later

/-- A vector that gives nothing but arguments is taken as it stands. -/
theorem tokenize_eq_verbatim
    (all : ∀ token ∈ (tokenize false registry argv).tokens, token.argument?.isSome) :
    tokenize false registry argv = .verbatim registry argv := by
  fun_induction tokenize false registry argv with
  | case1 registry => rfl
  | case2 registry word following terminator => rfl
  | case3 registry word following long resolution ih =>
      exact absurd all (Tokenized.not_all_arguments_after (registry.resolveLong_ne_nil _ _ _))
  | case4 registry word following short resolution ih =>
      exact absurd all (Tokenized.not_all_arguments_after (registry.resolveShort_ne_nil short _ _))
  | case5 registry word following plain first => cases first
  | case6 registry word following plain later rest ih =>
      have same : rest = .verbatim registry following :=
        ih fun token member => all token (List.mem_cons_of_mem _ member)
      rw [same]
      rfl

/-- The two ways of reading a vector agree exactly if all its options stand before its arguments. -/
theorem tokenize_false_eq_true_iff (registry : Registry) (argv : List String) :
    tokenize false registry argv = tokenize true registry argv ↔
      Token.ArgumentsLast (tokenize false registry argv).tokens := by
  fun_induction tokenize true registry argv with
  | case1 registry =>
      rw [tokenize]
      exact iff_of_true rfl .nil
  | case2 registry word following terminator =>
      rw [tokenize_terminator terminator]
      refine iff_of_true rfl (List.pairwise_of_forall_mem_list fun _ _ later member _ => ?_)
      exact Token.isSome_argument?_of_mem_map member
  | case3 registry word following long resolution ih =>
      rw [tokenize_long long, Tokenized.after_inj, Tokenized.tokens_after,
        Token.argumentsLast_append_iff fun _ => Tokenized.argument?_of_mem_tokensOf, ih]
  | case4 registry word following short resolution ih =>
      rw [tokenize_short short, Tokenized.after_inj, Tokenized.tokens_after,
        Token.argumentsLast_append_iff fun _ => Tokenized.argument?_of_mem_tokensOf, ih]
  | case5 registry word following plain first =>
      rw [tokenize_false_plain plain, Token.argumentsLast_argument_cons_iff]
      constructor
      · intro same token member
        have whole : Token.argument word :: (tokenize false registry following).tokens =
            (word :: following).map .argument := congrArg Tokenized.tokens same
        have listed := List.mem_cons_of_mem (.argument word) member
        rw [whole] at listed
        exact Token.isSome_argument?_of_mem_map listed
      · intro all
        rw [tokenize_eq_verbatim all]
        rfl
  | case6 registry word following plain later => exact absurd rfl later

/-- Where the first plain word ends the options, the arguments are the last words of the vector as
they stand. The vector is read as usual exactly if no option, and no word that is not understood,
follows an argument when it is read as usual. -/
theorem tokenize_optionsFirst (registry : Registry) (argv : List String) :
    (tokenize true registry argv).EndsVerbatim argv ∧
      (tokenize false registry argv = tokenize true registry argv ↔
        Token.ArgumentsLast (tokenize false registry argv).tokens) :=
  ⟨tokenize_true_endsVerbatim registry argv, tokenize_false_eq_true_iff registry argv⟩

end OptionsFirst

end UsageGrammar
