import UsageGrammar.Flag

/-!
# Argument vectors

Reading an argument vector never fails as a whole: a word that does not resolve becomes an invalid
token, and its error is kept. Everything from the terminator on is an argument.
-/

namespace UsageGrammar

/-- What a word is by its first characters. -/
inductive WordShape where
  | terminator
  | long
  | short
  | plain
  deriving Repr, DecidableEq, Inhabited

namespace WordShape

/-- Two dashes open a long word and one dash a cluster. Two dashes alone are the terminator, and
one dash alone is plain. -/
def ofWord (word : String) : WordShape :=
  match word.toList with
  | ['-', '-'] => terminator
  | '-' :: '-' :: _ => long
  | ['-'] => plain
  | '-' :: _ => short
  | _ => plain

/-- What the characters of a word are where it has a shape. -/
inductive Means (word : String) : WordShape → Prop
  | terminator : word = "--" → Means word terminator
  | long {c : Char} {rest : List Char} : word.toList = '-' :: '-' :: c :: rest → Means word long
  | short {c : Char} {rest : List Char} : word.toList = '-' :: c :: rest → c ≠ '-' →
      Means word short
  | dash : word = "-" → Means word plain
  | undashed : word.toList.head? ≠ some '-' → Means word plain

theorem means_ofWord (word : String) : Means word (ofWord word) := by
  unfold ofWord
  split
  · next dashes => exact .terminator (String.toList_inj.mp dashes)
  · next rest longer letters =>
      cases rest with
      | nil => exact absurd rfl longer
      | cons c rest => exact .long letters
  · next dash => exact .dash (String.toList_inj.mp dash)
  · next rest _ no_long longer letters =>
      cases rest with
      | nil => exact absurd rfl longer
      | cons c cluster =>
          refine .short letters ?_
          rintro rfl
          exact no_long cluster rfl
  · next dashless =>
      refine .undashed fun opening => ?_
      obtain ⟨rest, letters⟩ := List.head?_eq_some_iff.mp opening
      exact dashless rest letters

theorem ofWord_of_undashed {word : String} (undashed : word.toList.head? ≠ some '-') :
    ofWord word = plain := by
  have means := means_ofWord word
  generalize ofWord word = shape at means ⊢
  cases means with
  | terminator dashes => exact absurd (by rw [dashes]; rfl) undashed
  | long letters | short letters => exact absurd (by rw [letters]; rfl) undashed
  | dash | undashed => rfl

end WordShape

/-- An argument vector as tokens, the errors of its option words, and the registry with the
options that were new. -/
structure Tokenized where
  tokens : List Token
  errors : List FlagError
  registry : Registry
  deriving Repr, DecidableEq, Inhabited

namespace Tokenized

/-- Words that are arguments whatever they look like. -/
def verbatim (registry : Registry) (words : List String) : Tokenized :=
  ⟨words.map .argument, [], registry⟩

/-- The same tokens after those of one option word. -/
def after (word : String) (result : Except FlagError (List ResolvedFlag))
    (rest : Tokenized) : Tokenized :=
  match result with
  | .ok flags => { rest with tokens := flags.map ResolvedFlag.toToken ++ rest.tokens }
  | .error error =>
    { rest with tokens := .invalid word :: rest.tokens, errors := error :: rest.errors }

end Tokenized

/-- Reads an argument vector. With `optionsFirst` the first plain word ends the options. -/
def tokenize (optionsFirst : Bool) (registry : Registry) : List String → Tokenized
  | [] => ⟨[], [], registry⟩
  | word :: following =>
    match WordShape.ofWord word with
    | .terminator => .verbatim registry (word :: following)
    | .long =>
      let resolution := registry.resolveLong .arguments word following
      (tokenize optionsFirst resolution.registry resolution.following).after word resolution.result
    | .short =>
      let resolution := registry.resolveShort .arguments word following
      (tokenize optionsFirst resolution.registry resolution.following).after word resolution.result
    | .plain =>
      if optionsFirst then .verbatim registry (word :: following)
      else
        let rest := tokenize optionsFirst registry following
        { rest with tokens := .argument word :: rest.tokens }
termination_by words => words.length
decreasing_by
  · exact Nat.lt_succ_of_le (registry.resolveLong_length .arguments word following)
  · exact Nat.lt_succ_of_le (registry.resolveShort_length .arguments word following)
  · simp

end UsageGrammar
