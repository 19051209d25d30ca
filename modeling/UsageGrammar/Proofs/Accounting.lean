import UsageGrammar.Proofs.SlotTable
import UsageGrammar.Proofs.Trace

/-!
# Accounting for tokens

Every leaf that fits moves one token from what is left over to the captures of its slot. The values
of an option therefore are those that its slot captured, followed by those left over, and the words
of the arguments can be assigned to the slots that took them, in the order in which they stand.
-/

namespace UsageGrammar

namespace Slot

/-- The slot of an argument or of a command. -/
def TakesWords (slot : Slot) : Prop :=
  slot.kind = .argument ∨ slot.kind = .command

/-- The slot may take a word: an argument takes any, a command its own name. -/
def Admits (slot : Slot) (word : String) : Prop :=
  slot.kind = .argument ∨ slot.kind = .command ∧ word = slot.name

/-- The value that a word has for the slot: an argument keeps the word, a command that it occurs. -/
def valueOfWord (slot : Slot) (word : String) : Value :=
  match slot.kind with
  | .argument => .text word
  | _ => .bool true

theorem Takes.cases_stream {slot : Slot} {tokens rest : List Token} {value : Value}
    (taken : slot.Takes tokens rest value) :
    (¬ slot.TakesWords ∧
        Token.valuesOf slot.name tokens = value :: Token.valuesOf slot.name rest ∧
        Token.words tokens = Token.words rest ∧
        ∀ name, slot.name ≠ name → Token.valuesOf name tokens = Token.valuesOf name rest) ∨
      ∃ word, slot.TakesWords ∧ slot.Admits word ∧ value = slot.valueOfWord word ∧
        Token.words tokens = word :: Token.words rest ∧
        ∀ name, Token.valuesOf name tokens = Token.valuesOf name rest := by
  cases taken with
  | option kind found =>
      refine .inl ⟨by simp [TakesWords, kind], valuesOf_of_takeFirst found,
        words_of_takeFirst_option found, fun name different => ?_⟩
      exact valuesOf_of_takeFirst_other different found
  | @argument word kind found =>
      exact .inr ⟨word, .inl kind, .inl kind, by simp [valueOfWord, kind],
        words_of_takeFirst found, fun _ => valuesOf_of_takeFirst_argument found⟩
  | command kind found =>
      exact .inr ⟨slot.name, .inr kind, .inr ⟨kind, rfl⟩, by simp [valueOfWord, kind],
        words_of_takeFirst found, fun _ => valuesOf_of_takeFirst_argument found⟩

end Slot

/-- The words assigned to a slot, in order. -/
def wordsAt (slot : Nat) (assigned : List (String × Nat)) : List String :=
  (assigned.filter fun entry => entry.2 = slot).map Prod.fst

theorem wordsAt_concat (slot : Nat) (assigned : List (String × Nat)) (word : String)
    (taker : Nat) :
    wordsAt slot (assigned ++ [(word, taker)]) =
      if taker = slot then wordsAt slot assigned ++ [word] else wordsAt slot assigned := by
  by_cases here : taker = slot <;> simp [wordsAt, here]

/-- An assignment of words to slots accounts for the words that a trace has consumed. -/
structure AccountsFor (grammar : Grammar) (tokens : List Token) (assigned : List (String × Nat))
    (trace : Trace) : Prop where
  words : Token.words tokens = assigned.map Prod.fst ++ Token.words trace.leftover
  admitted {word : String} {index : Nat} : (word, index) ∈ assigned →
    ∃ slot, grammar.slots[index]? = some slot ∧ slot.Admits word
  captured {index : Nat} {slot : Slot} : grammar.slots[index]? = some slot → slot.TakesWords →
    Capture.valuesAt index trace.captures = (wordsAt index assigned).map slot.valueOfWord

namespace Grammar

variable {grammar : Grammar} {tokens : List Token}

/-- A leaf that takes a word adds it to the assignment, any other leaf keeps the assignment. -/
theorem leaf_accountsFor {assigned : List (String × Nat)} {slot : Nat} {trace next : Trace}
    (accounts : AccountsFor grammar tokens assigned trace)
    (fits : grammar.tracer.leaf slot trace = some next) :
    ∃ assigned', AccountsFor grammar tokens assigned' next := by
  obtain ⟨declared, value, found, taken, captures⟩ := tracer_leaf_eq_some fits
  rcases taken.cases_stream with ⟨wordless, -, words, -⟩ | ⟨word, -, admits, rfl, words, -⟩
  · refine ⟨assigned, accounts.words.trans (by rw [words]), accounts.admitted, ?_⟩
    intro index other found' takes
    have elsewhere : slot ≠ index := by
      rintro rfl
      rw [found] at found'
      exact wordless (Option.some.inj found' ▸ takes)
    rw [captures, Capture.valuesAt_concat, if_neg elsewhere]
    exact accounts.captured found' takes
  · refine ⟨assigned ++ [(word, slot)], ?_, ?_, ?_⟩
    · rw [accounts.words, words]
      simp
    · intro word' index member
      rcases List.mem_append.mp member with earlier | last
      · exact accounts.admitted earlier
      · obtain ⟨rfl, rfl⟩ := Prod.mk.inj (List.mem_singleton.mp last)
        exact ⟨declared, found, admits⟩
    · intro index other found' takes
      rw [captures, Capture.valuesAt_concat, wordsAt_concat, accounts.captured found' takes]
      split
      · next here =>
          obtain rfl : slot = index := here
          obtain rfl := Option.some.inj (found.symm.trans found')
          simp
      · rfl

/-- The words that a node consumes can be assigned to the slots that took them. -/
theorem exists_accountsFor {node : Node} {trace : Trace}
    (fits : grammar.tracer.matchNode ⟨tokens, []⟩ node = some trace) :
    ∃ assigned, AccountsFor grammar tokens assigned trace := by
  refine Matcher.matchNode_preserves
    (fun trace => ∃ assigned, AccountsFor grammar tokens assigned trace) ?_ ⟨[], ?_⟩ fits
  · rintro slot trace next ⟨assigned, accounts⟩ once
    exact leaf_accountsFor accounts once
  · exact ⟨rfl, by simp, fun _ _ => rfl⟩

theorem valuesOf_eq_captured (distinct : grammar.names.Nodup) {index : Nat} {slot : Slot}
    {spec : OptionSpec} (found : grammar.slots[index]? = some slot)
    (kind : slot.kind = .option spec) {node : Node} {trace : Trace}
    (fits : grammar.tracer.matchNode ⟨tokens, []⟩ node = some trace) :
    Token.valuesOf slot.name tokens =
      Capture.valuesAt index trace.captures ++ Token.valuesOf slot.name trace.leftover := by
  refine Matcher.matchNode_preserves (fun trace => Token.valuesOf slot.name tokens =
    Capture.valuesAt index trace.captures ++ Token.valuesOf slot.name trace.leftover) ?_ rfl fits
  intro taker trace next accounted once
  obtain ⟨declared, value, found', taken, captures⟩ := tracer_leaf_eq_some once
  rw [accounted, captures, Capture.valuesAt_concat]
  by_cases here : taker = index
  · obtain rfl : declared = slot := by
      rw [here, found] at found'
      exact (Option.some.inj found').symm
    rcases taken.cases_stream with ⟨-, values, -, -⟩ | ⟨_, takes, -, -, -, -⟩
    · simp [here, values]
    · simp [Slot.TakesWords, kind] at takes
  · rw [if_neg here]
    rcases taken.cases_stream with ⟨-, -, -, others⟩ | ⟨_, -, -, -, -, others⟩
    · have different : declared.name ≠ slot.name := fun same =>
        here (index_eq_of_name_eq distinct found found' same)
      rw [others slot.name different]
    · rw [others slot.name]

end Grammar

end UsageGrammar
