import UsageGrammar.Proofs.Accounting
import UsageGrammar.Proofs.OccurrenceBounds

/-!
# Bound values

After an accepted vector every binding is exactly what was typed for its name: options keep their
values, and the words of the arguments are shared out among arguments and commands without loss. A
slot that keeps one value never sees a second, because the repetition of its name would have made
it accumulate.
-/

namespace UsageGrammar

namespace Slot

variable {slot : Slot}

/-- A binding holds exactly the values that were given for its slot. -/
structure HoldsValues (slot : Slot) (values : List Value) (bound : Option Value) : Prop where
  unbound : values = [] → bound = none
  counted : values ≠ [] → slot.accumulation = .count → bound = some (.count values.length)
  collected : values ≠ [] → slot.accumulation = .list →
    bound = some (.list (values.flatMap Value.contribution))
  single : values ≠ [] → slot.accumulation = .scalar →
    ∃ value, values = [value] ∧ bound = some value

/-- A binding holds exactly the words that were given for its slot. -/
structure HoldsWords (slot : Slot) (words : List String) (bound : Option Value) : Prop where
  unbound : words = [] → bound = none
  counted : words ≠ [] → slot.accumulation = .count → bound = some (.count words.length)
  collected : words ≠ [] → slot.accumulation = .list → bound = some (.list words)
  argument : words ≠ [] → slot.accumulation = .scalar → slot.kind = .argument →
    ∃ word, words = [word] ∧ bound = some (.text word)
  command : words ≠ [] → slot.accumulation = .scalar → slot.kind = .command →
    ∃ word, words = [word] ∧ bound = some (.bool true)

theorem accumulateAll_count (counts : slot.accumulation = .count) (occurrences : Nat)
    (values : List Value) :
    slot.accumulateAll (some (.count occurrences)) values =
      some (.count (occurrences + values.length)) := by
  induction values generalizing occurrences with
  | nil => rfl
  | cons value values ih =>
      have once : slot.accumulate (some (.count occurrences)) value = .count (occurrences + 1) := by
        simp [accumulate, counts]
      change slot.accumulateAll (some (slot.accumulate _ value)) values = _
      rw [once, ih, List.length_cons, Nat.add_assoc, Nat.add_comm 1]

theorem accumulateAll_list (collects : slot.accumulation = .list) (items : List String)
    (values : List Value) :
    slot.accumulateAll (some (.list items)) values =
      some (.list (items ++ values.flatMap Value.contribution)) := by
  induction values generalizing items with
  | nil => simp [accumulateAll]
  | cons value values ih =>
      have once : slot.accumulate (some (.list items)) value =
          .list (items ++ value.contribution) := by
        simp [accumulate, collects]
      change slot.accumulateAll (some (slot.accumulate _ value)) values = _
      rw [once, ih, List.flatMap_cons, List.append_assoc]

theorem accumulateAll_holdsValues {values : List Value}
    (single : slot.accumulation = .scalar → values.length ≤ 1) :
    slot.HoldsValues values (slot.accumulateAll none values) := by
  cases values with
  | nil => exact ⟨fun _ => rfl, by simp, by simp, by simp⟩
  | cons value values =>
      change slot.HoldsValues _ (slot.accumulateAll (some (slot.accumulate none value)) values)
      refine ⟨by simp, fun _ counts => ?_, fun _ collects => ?_, fun _ scalar => ?_⟩
      · have first : slot.accumulate none value = .count 1 := by simp [accumulate, counts]
        rw [first, accumulateAll_count counts, List.length_cons, Nat.add_comm]
      · have first : slot.accumulate none value = .list value.contribution := by
          simp [accumulate, collects]
        rw [first, accumulateAll_list collects, List.flatMap_cons]
      · have alone : values = [] := by simpa using single scalar
        subst alone
        exact ⟨value, rfl, by simp [accumulateAll, accumulate, scalar]⟩

theorem flatMap_contribution_text (words : List String) :
    (words.map Value.text).flatMap Value.contribution = words := by
  induction words with
  | nil => rfl
  | cons word words ih => simpa [Value.contribution] using ih

theorem HoldsValues.single_word {words : List String} {bound : Option Value}
    (holds : slot.HoldsValues (words.map slot.valueOfWord) bound) (nonempty : words ≠ [])
    (scalar : slot.accumulation = .scalar) :
    ∃ word, words = [word] ∧ bound = some (slot.valueOfWord word) := by
  obtain ⟨value, only, rfl⟩ := holds.single (by simpa using nonempty) scalar
  obtain ⟨word, rfl, rfl⟩ := List.map_eq_singleton_iff.mp only
  exact ⟨word, rfl, rfl⟩

/-- Values that stand for words are held as the words are. -/
theorem HoldsValues.holdsWords {words : List String} {bound : Option Value}
    (collecting : slot.accumulation = .list → slot.kind = .argument)
    (holds : slot.HoldsValues (words.map slot.valueOfWord) bound) :
    slot.HoldsWords words bound := by
  constructor
  · rintro rfl
    exact holds.unbound rfl
  · intro nonempty counts
    simpa using holds.counted (by simpa using nonempty) counts
  · intro nonempty collects
    have texts : slot.valueOfWord = Value.text := by
      funext word
      simp [valueOfWord, collecting collects]
    rw [holds.collected (by simpa using nonempty) collects, texts, flatMap_contribution_text]
  · intro nonempty scalar kind
    obtain ⟨word, only, rfl⟩ := holds.single_word nonempty scalar
    exact ⟨word, only, by simp [valueOfWord, kind]⟩
  · intro nonempty scalar kind
    obtain ⟨word, only, rfl⟩ := holds.single_word nonempty scalar
    exact ⟨word, only, by simp [valueOfWord, kind]⟩

end Slot

namespace Grammar

variable {pattern : Pattern} {tokens : List Token} {state : MatchState}

/-- Every slot of an accepted vector holds what its leaves captured. -/
theorem holdsValues_of_accepted
    (accepted : (ofPattern pattern).matchTokens tokens = .accepted state) {index : Nat}
    {slot : Slot} (found : (ofPattern pattern).slots[index]? = some slot) :
    slot.HoldsValues (Capture.valuesAt index ((ofPattern pattern).captures tokens))
      (state.binding? index) := by
  rw [binding?_of_accepted found accepted]
  refine Slot.accumulateAll_holdsValues fun scalar => consumedBy_le_one accepted found ?_
  have typed := accumulation_ofPattern found
  rw [scalar] at typed
  split at typed
  · split at typed <;> cases typed
  · next single => exact Nat.not_lt.mp single

theorem argument_of_collects {index : Nat} {slot : Slot} (takes : slot.TakesWords)
    (found : (ofPattern pattern).slots[index]? = some slot)
    (collects : slot.accumulation = .list) : slot.kind = .argument := by
  rcases takes with argument | command
  · exact argument
  · have typed := accumulation_ofPattern found
    have counts : slot.collectsValues = false := by simp [Slot.collectsValues, command]
    rw [collects, counts] at typed
    split at typed <;> cases typed

/-- The binding of an option is exactly the values typed for it: none of them is dropped, and an
option that is not repeated is not accepted twice. -/
theorem option_holds_typed_values
    (accepted : (ofPattern pattern).matchTokens tokens = .accepted state) {index : Nat}
    {slot : Slot} {spec : OptionSpec} (found : (ofPattern pattern).slots[index]? = some slot)
    (kind : slot.kind = .option spec) :
    slot.HoldsValues (Token.valuesOf slot.name tokens) (state.binding? index) := by
  have traced := (traced_of_accepted accepted).1
  have values := valuesOf_eq_captured (names_nodup pattern) found kind traced
  rw [show Token.valuesOf slot.name [] = [] from rfl, List.append_nil] at values
  rw [values]
  exact holdsValues_of_accepted accepted found

/-- Both occurrences of the flag are counted. -/
theorem option_holds_typed_values_transfer :
    (ofPattern transferUsage).matchTokens transferTokens =
        .accepted ⟨[], [some (.bool true), some (.list ["a", "b"]), none, none,
          some (.count 2)]⟩ ∧
      (ofPattern transferUsage).slots[4]? =
        some ⟨"-v", .option (.flag (some "-v") none), .count 0⟩ ∧
      Slot.HoldsValues ⟨"-v", .option (.flag (some "-v") none), .count 0⟩
        (Token.valuesOf "-v" transferTokens) (some (.count 2)) := by
  have found : (ofPattern transferUsage).slots[4]? =
      some ⟨"-v", .option (.flag (some "-v") none), .count 0⟩ := by
    cbv
  exact ⟨transfer_accepted, found, option_holds_typed_values transfer_accepted found rfl⟩

/-- The words of the arguments are shared out among the arguments and commands: every word goes to
one slot that may take it, and every such slot is bound to its words in their order. -/
theorem exists_assignment_of_words
    (accepted : (ofPattern pattern).matchTokens tokens = .accepted state) :
    ∃ assigned : List (String × Nat),
      assigned.map Prod.fst = Token.words tokens ∧
      (∀ word index, (word, index) ∈ assigned →
        ∃ slot, (ofPattern pattern).slots[index]? = some slot ∧ slot.Admits word) ∧
      ∀ (index : Nat) (slot : Slot), (ofPattern pattern).slots[index]? = some slot →
        slot.TakesWords → slot.HoldsWords (wordsAt index assigned) (state.binding? index) := by
  obtain ⟨assigned, accounts⟩ := exists_accountsFor (traced_of_accepted accepted).1
  refine ⟨assigned, ?_, fun _ _ member => accounts.admitted member, ?_⟩
  · rw [accounts.words]
    exact (List.append_nil _).symm
  · intro index slot found takes
    have holds := holdsValues_of_accepted accepted found
    rw [accounts.captured found takes] at holds
    exact holds.holdsWords (argument_of_collects takes found)

/-- The three words of a copy belong to the command and to its sources. -/
theorem exists_assignment_of_words_transfer :
    (ofPattern transferUsage).matchTokens transferTokens =
        .accepted ⟨[], [some (.bool true), some (.list ["a", "b"]), none, none,
          some (.count 2)]⟩ ∧
      ∃ assigned : List (String × Nat),
        assigned.map Prod.fst = ["copy", "a", "b"] ∧
        (∀ word index, (word, index) ∈ assigned →
          ∃ slot, (ofPattern transferUsage).slots[index]? = some slot ∧ slot.Admits word) ∧
        ∀ (index : Nat) (slot : Slot), (ofPattern transferUsage).slots[index]? = some slot →
          slot.TakesWords → slot.HoldsWords (wordsAt index assigned)
            (MatchState.binding? ⟨[], [some (.bool true), some (.list ["a", "b"]), none, none,
              some (.count 2)]⟩ index) :=
  ⟨transfer_accepted, exists_assignment_of_words transfer_accepted⟩

end Grammar

end UsageGrammar
