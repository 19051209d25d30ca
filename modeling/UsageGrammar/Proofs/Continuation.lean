import UsageGrammar.Proofs.OptionsEnd

/-!
# Reading on

A vector may be cut in two. Its first part is read as if it stood alone, and its second part is read
with the registry that the first one leaves. This takes a first part without a terminator in which
every option has its value, for an option without one takes the first word after the cut.
-/

namespace UsageGrammar

namespace Resolution

variable {resolve : List String → Resolution}

/-- An option word that lacks no value does not see how far the words after it go on. -/
theorem Uses.append (uses : Uses resolve) {following : List String}
    (unterminated : "--" ∉ following)
    (supplied : ∀ form, (resolve following).result ≠ .error (.missingArgument form))
    (after : List String) :
    resolve (following ++ after) =
      { resolve following with following := (resolve following).following ++ after } := by
  cases uses with
  | nothing _ _ same => rw [same, same]
  | value form _ _ same =>
      cases following with
      | nil =>
          apply absurd _ (supplied form)
          rw [same]
          rfl
      | cons word following =>
          have ordinary : word ≠ "--" := by
            rintro rfl
            exact unterminated List.mem_cons_self
          rw [same, same, List.cons_append]
          simp only [takingValue, takeArgument, if_neg ordinary]

theorem Uses.unterminated (uses : Uses resolve) {following : List String}
    (unterminated : "--" ∉ following) : "--" ∉ (resolve following).following := fun member =>
  unterminated ((uses.suffix following).subset member)

end Resolution

theorem WordShape.eq_terminator {word : String} (terminator : ofWord word = .terminator) :
    word = "--" := by
  have means := means_ofWord word
  rw [terminator] at means
  cases means with
  | terminator dashes => exact dashes

namespace Tokenized

variable {word : String} {result : Except FlagError (List ResolvedFlag)} {rest : Tokenized}

/-- Every option that takes a value has one. -/
def Supplied (tokenized : Tokenized) : Prop :=
  ∀ form, .missingArgument form ∉ tokenized.errors

theorem supplied_of_sound {tokenized : Tokenized} (sound : tokenized.errors = []) :
    tokenized.Supplied := by
  intro form member
  rw [sound] at member
  cases member

theorem Supplied.later (supplied : (rest.after word result).Supplied) : rest.Supplied := by
  intro form member
  apply supplied form
  cases result with
  | ok flags => exact member
  | error error => exact List.mem_cons_of_mem error member

theorem Supplied.result_ne (supplied : (rest.after word result).Supplied) (form : String) :
    result ≠ .error (.missingArgument form) := by
  rintro rfl
  exact supplied form List.mem_cons_self

/-- The tokens and errors of a first part before those of a second part, which is read with the
registry that the first one leaves. -/
def andThen (first : Tokenized) (readOn : Registry → Tokenized) : Tokenized :=
  let second := readOn first.registry
  ⟨first.tokens ++ second.tokens, first.errors ++ second.errors, second.registry⟩

theorem after_andThen (readOn : Registry → Tokenized) :
    (rest.after word result).andThen readOn = (rest.andThen readOn).after word result := by
  cases result with
  | ok flags => simp [after, andThen]
  | error error => simp [after, andThen]

end Tokenized

/-- A vector is read part by part, unless its first part ends the options or lacks a value. -/
theorem tokenize_append {registry : Registry} {before : List String}
    (unterminated : "--" ∉ before) (supplied : (tokenize false registry before).Supplied)
    (after : List String) :
    tokenize false registry (before ++ after) =
      (tokenize false registry before).andThen fun known => tokenize false known after := by
  fun_induction tokenize false registry before with
  | case1 registry => simp [Tokenized.andThen]
  | case2 registry word following terminator =>
      obtain rfl := WordShape.eq_terminator terminator
      exact absurd List.mem_cons_self unterminated
  | case3 registry word following long resolution ih =>
      have uses := registry.resolveLong_uses .arguments word
      have open_ended := List.not_mem_of_not_mem_cons unterminated
      rw [List.cons_append, tokenize_long long, uses.append open_ended supplied.result_ne,
        ih (uses.unterminated open_ended) supplied.later, Tokenized.after_andThen]
  | case4 registry word following short resolution ih =>
      have uses := registry.resolveShort_uses .arguments word
      have open_ended := List.not_mem_of_not_mem_cons unterminated
      rw [List.cons_append, tokenize_short short, uses.append open_ended supplied.result_ne,
        ih (uses.unterminated open_ended) supplied.later, Tokenized.after_andThen]
  | case5 registry word following plain first => cases first
  | case6 registry word following plain later rest ih =>
      rw [List.cons_append, tokenize_false_plain plain,
        ih (List.not_mem_of_not_mem_cons unterminated) supplied]
      rfl

end UsageGrammar
