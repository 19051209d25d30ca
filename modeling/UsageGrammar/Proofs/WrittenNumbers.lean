import UsageGrammar.Text.Digit

/-!
# Written numbers

A number that is written in a base of up to sixteen is read back from its digits. Only zero is
written with a zero in front, so the decimal digits of a number are the ones that a notation without
leading zeros asks for.
-/

namespace UsageGrammar.Text

variable {base n : Nat} {c : Char}

theorem digit?_digitChar : ∀ digit < 16, digit? (Nat.digitChar digit) = some digit := by
  decide

theorem appendDigit_digitChar {digit : Nat} (below : digit < base) (small : base ≤ 16)
    (total : Nat) : appendDigit base total (Nat.digitChar digit) = some (base * total + digit) := by
  rw [appendDigit, digit?_digitChar digit (by omega)]
  exact if_pos below

/-- Digits that are read one after the other add up to the number that they write. -/
theorem foldlM_toDigits (several : 1 < base) (small : base ≤ 16) (n : Nat) :
    (Nat.toDigits base n).foldlM (appendDigit base) 0 = some n := by
  induction n using Nat.strongRecOn with
  | ind n ih =>
      by_cases single : n < base
      · rw [Nat.toDigits_of_lt_base single]
        simp [appendDigit_digitChar single small]
      · have whole : base ≤ n := Nat.le_of_not_lt single
        have less : n / base < n := Nat.div_lt_self (by omega) several
        have last : n % base < base := Nat.mod_lt n (by omega)
        rw [Nat.toDigits_of_base_le several whole, List.foldlM_append, ih _ less]
        simp [appendDigit_digitChar last small, Nat.div_add_mod]

/-- A written number is read back. -/
theorem natural?_toDigits (several : 1 < base) (small : base ≤ 16) (n : Nat) :
    natural? base (Nat.toDigits base n) = some n := by
  rw [natural?, if_neg (by simp), foldlM_toDigits several small]

theorem toDigits_injective (several : 1 < base) (small : base ≤ 16) :
    Function.Injective (Nat.toDigits base) := by
  intro n m same
  have read := natural?_toDigits several small n
  rw [same, natural?_toDigits several small] at read
  exact (Option.some.inj read).symm

theorem exists_digit_of_mem_toDigits (several : 1 < base) (member : c ∈ Nat.toDigits base n) :
    ∃ digit < base, c = Nat.digitChar digit := by
  induction n using Nat.strongRecOn with
  | ind n ih =>
      by_cases single : n < base
      · rw [Nat.toDigits_of_lt_base single] at member
        exact ⟨n, single, List.mem_singleton.mp member⟩
      · have whole : base ≤ n := Nat.le_of_not_lt single
        rw [Nat.toDigits_of_base_le several whole] at member
        rcases List.mem_append.mp member with early | last
        · exact ih _ (Nat.div_lt_self (by omega) several) early
        · exact ⟨n % base, Nat.mod_lt n (by omega), List.mem_singleton.mp last⟩

theorem isDigit_of_mem_toDigits (member : c ∈ Nat.toDigits 10 n) : isDigit c = true := by
  have decimal : ∀ digit < 10, isDigit (Nat.digitChar digit) = true := by decide
  obtain ⟨digit, below, rfl⟩ := exists_digit_of_mem_toDigits (by decide) member
  exact decimal digit below

theorem exists_digit_cons_toDigits (n : Nat) :
    ∃ first rest, Nat.toDigits 10 n = first :: rest ∧ isDigit first = true := by
  obtain ⟨first, rest, digits⟩ :=
    List.exists_cons_of_ne_nil (Nat.toDigits_ne_nil : Nat.toDigits 10 n ≠ [])
  exact ⟨first, rest, digits, isDigit_of_mem_toDigits (digits ▸ List.mem_cons_self)⟩

theorem head?_toDigits_ne_zero (positive : 0 < n) : (Nat.toDigits 10 n).head? ≠ some '0' := by
  have single : ∀ digit < 10, 0 < digit → Nat.digitChar digit ≠ '0' := by decide
  induction n using Nat.strongRecOn with
  | ind n ih =>
      by_cases below : n < 10
      · rw [Nat.toDigits_of_lt_base below]
        simpa using single n below positive
      · have whole : 10 ≤ n := Nat.le_of_not_lt below
        have front := ih (n / 10) (by omega) (by omega)
        obtain ⟨first, rest, digits, -⟩ := exists_digit_cons_toDigits (n / 10)
        rw [digits] at front
        rwa [Nat.toDigits_of_base_le (by decide) whole, digits]

end UsageGrammar.Text
