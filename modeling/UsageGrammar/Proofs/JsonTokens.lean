import Mathlib.Tactic.SplitIfs
import UsageGrammar.Data
import UsageGrammar.Json.Token
import UsageGrammar.Proofs.WrittenNumbers

/-!
# Tokens of printed JSON

What is printed of a scalar is read as one token, whatever follows it. The reader stops at the
closing quote of a string, because a quote inside is escaped, and finds the characters of the string
among its code units. A number is read to its end if no digit, point or exponent follows.
-/

namespace UsageGrammar

open Text

namespace Text

theorem isHighHalf_toNat (c : Char) : isHighHalf c.toNat = false := by
  have valid := c.valid
  simp only [isHighHalf, Char.toNat, UInt32.isValidChar, Nat.isValidChar] at valid ⊢
  simp only [Bool.and_eq_false_iff, decide_eq_false_iff_not]
  omega

theorem isLowHalf_toNat (c : Char) : isLowHalf c.toNat = false := by
  have valid := c.valid
  simp only [isLowHalf, Char.toNat, UInt32.isValidChar, Nat.isValidChar] at valid ⊢
  simp only [Bool.and_eq_false_iff, decide_eq_false_iff_not]
  omega

theorem charsOfUnits?_map_toNat (word : List Char) :
    charsOfUnits? (word.map Char.toNat) = some word := by
  induction word with
  | nil => rfl
  | cons c word ih =>
      cases word with
      | nil => simp [charsOfUnits?, isHighHalf_toNat, isLowHalf_toNat]
      | cons d word =>
          rw [List.map_cons, List.map_cons, charsOfUnits?, ← List.map_cons, ih]
          simp [isHighHalf_toNat, isLowHalf_toNat]

end Text

namespace Json

variable {text rest : List Char} {c : Char} {token : Token}

section Strings

theorem codeUnit?_hexByte : ∀ n < 0x20, codeUnit? ('0' :: '0' :: Data.hexByte n) = some n := by
  decide

theorem stringUnits?_letter {letter : Char} {unit : Nat} (other : letter ≠ 'u')
    (escape : letterEscape? letter = some unit) (text : List Char) :
    stringUnits? ('\\' :: letter :: text) =
      (stringUnits? text).map fun (units, after) => (unit :: units, after) := by
  rw [stringUnits?]
  · rw [escape]
    cases stringUnits? text <;> rfl
  · intro _ _ _ _ _ same
    exact absurd same other

theorem stringUnits?_unescaped (open_still : c ≠ '"') (plain : c ≠ '\\') (visible : 0x20 ≤ c.toNat)
    (text : List Char) :
    stringUnits? (c :: text) =
      (stringUnits? text).map fun (units, after) => (c.toNat :: units, after) := by
  rw [stringUnits?, if_neg (by simp [plain, visible])]
  · exact open_still
  · intro _ _ _ _ _ same
    exact absurd same plain
  · intro _ _ same
    exact absurd same plain

theorem stringUnits?_escapeJson (c : Char) (text : List Char) :
    stringUnits? (Data.escapeJson c ++ text) =
      (stringUnits? text).map fun (units, after) => (c.toNat :: units, after) := by
  have by_letter {code letter : Char} (same : c = code) (other : letter ≠ 'u')
      (escape : letterEscape? letter = some code.toNat) : stringUnits? (['\\', letter] ++ text) =
        (stringUnits? text).map fun (units, after) => (c.toNat :: units, after) :=
    same ▸ stringUnits?_letter other escape text
  have of_toNat {n : Nat} (code : c.toNat = n) : c = Char.ofNat n := by
    rw [← code, Char.ofNat_toNat]
  unfold Data.escapeJson
  split_ifs with quote backslash backspace formFeed newline carriage tab control
  · exact by_letter quote (by decide) rfl
  · exact by_letter backslash (by decide) rfl
  · exact by_letter (of_toNat backspace) (by decide) rfl
  · exact by_letter (of_toNat formFeed) (by decide) rfl
  · exact by_letter newline (by decide) rfl
  · exact by_letter carriage (by decide) rfl
  · exact by_letter tab (by decide) rfl
  · have unit := codeUnit?_hexByte c.toNat control
    simp only [Data.hexByte] at unit ⊢
    simp only [List.cons_append, List.nil_append, stringUnits?, unit]
    cases stringUnits? text <;> rfl
  · exact stringUnits?_unescaped quote backslash (Nat.le_of_not_lt control) text

/-- A string is read to its closing quote, whatever follows. -/
theorem stringUnits?_closed (word rest : List Char) :
    stringUnits? (word.flatMap Data.escapeJson ++ '"' :: rest) =
      some (word.map Char.toNat, rest) := by
  induction word with
  | nil => rfl
  | cons c word ih =>
      rw [List.flatMap_cons, List.append_assoc, stringUnits?_escapeJson, ih]
      rfl

end Strings

section Scanning

theorem tokens?_space (space : isSpace c = true) (text : List Char) :
    tokens? (c :: text) = tokens? text := by
  rw [tokens?, if_pos space]

theorem tokens?_of_firstToken? (visible : isSpace c = false)
    (read : firstToken? c text = some (token, rest)) :
    tokens? (c :: text) = (tokens? rest).map (token :: ·) := by
  rw [tokens?, if_neg (by simp [visible])]
  split
  · next read' =>
      obtain ⟨rfl, rfl⟩ := Prod.mk.inj (Option.some.inj (read.symm.trans read'))
      rfl
  · next failed => cases read.symm.trans failed

/-- What may stand behind a number: nothing that goes on with it. -/
def EndsNumber (text : List Char) : Prop :=
  ∀ c ∈ text.head?, isDigit c = false ∧ c ≠ '.' ∧ c ≠ 'e' ∧ c ≠ 'E'

theorem takeWhile_digits {digits : List Char} (all : ∀ c ∈ digits, isDigit c = true)
    (ends : EndsNumber rest) :
    (digits ++ rest).takeWhile isDigit = digits ∧ (digits ++ rest).dropWhile isDigit = rest := by
  rw [List.takeWhile_append_of_pos all, List.dropWhile_append_of_pos all]
  cases rest with
  | nil => simp
  | cons c rest =>
      have other := (ends c rfl).1
      simp [other]

/-- A number is read to its end. Zero with a sign would not be an integer. -/
theorem number?_toDigits (negative : Bool) {n : Nat} (signed : negative = true → 0 < n)
    (ends : EndsNumber rest) :
    number? negative (Nat.toDigits 10 n ++ rest) =
      some (.integer (if negative then -(n : Int) else n), rest) := by
  obtain ⟨whole, after⟩ := takeWhile_digits (fun c => isDigit_of_mem_toDigits (n := n)) ends
  have unpadded : ((Nat.toDigits 10 n).head? == some '0' && (Nat.toDigits 10 n).length != 1) =
      false := by
    rcases Nat.eq_zero_or_pos n with rfl | positive
    · rfl
    · simp [head?_toDigits_ne_zero positive]
  have fraction : afterFraction? rest = some (false, rest) := by
    cases rest with
    | nil => rfl
    | cons c rest =>
        unfold afterFraction?
        split
        · next same => exact absurd (List.cons.inj same).1 (ends c rfl).2.1
        · rfl
  have exponent : afterExponent? rest = some (false, rest) := by
    cases rest with
    | nil => rfl
    | cons c rest => simp [afterExponent?, ends c rfl]
  have integral : (negative && n == 0) = false := by
    cases negative with
    | false => rfl
    | true => simpa using Nat.ne_of_gt (signed rfl)
  have magnitude : natural? 10 (Nat.toDigits 10 n) = some n :=
    natural?_toDigits (by decide) (by decide) n
  simp [number?, whole, after, unpadded, magnitude, fraction, exponent, integral]

theorem isSpace_of_isDigit (digit : isDigit c = true) : isSpace c = false := by
  have apart (space : Char) (other : isDigit space = false) : (c == space) = false := by
    rw [beq_eq_false_iff_ne]
    rintro rfl
    cases digit.symm.trans other
  rw [isSpace, apart ' ' rfl, apart '\n' rfl, apart '\t' rfl, apart '\r' rfl]
  rfl

theorem firstToken?_digit (digit : isDigit c = true) (text : List Char) :
    firstToken? c text = number? false (c :: text) := by
  unfold firstToken?
  split
  case h_12 => rw [if_pos digit]
  all_goals cases digit

theorem tokens?_jsonInteger (ends : EndsNumber rest) (number : Int) :
    tokens? (Data.jsonInteger number ++ rest) = (tokens? rest).map (.integer number :: ·) := by
  cases number with
  | ofNat n =>
      obtain ⟨c, digits, written, digit⟩ := exists_digit_cons_toDigits n
      rw [Data.jsonInteger, written, List.cons_append]
      refine tokens?_of_firstToken? (isSpace_of_isDigit digit) ?_
      rw [firstToken?_digit digit, ← List.cons_append, ← written, number?_toDigits false nofun ends]
      rfl
  | negSucc n =>
      refine tokens?_of_firstToken? rfl ?_
      exact number?_toDigits true (fun _ => Nat.succ_pos n) ends

theorem tokens?_jsonText (word : String) (rest : List Char) :
    tokens? (Data.jsonText word ++ rest) = (tokens? rest).map (.text (some word) :: ·) := by
  rw [Data.jsonText, List.cons_append, List.append_assoc]
  refine tokens?_of_firstToken? rfl ?_
  change (stringUnits? (word.toList.flatMap Data.escapeJson ++ '"' :: rest)).map _ = _
  rw [stringUnits?_closed]
  simp [charsOfUnits?_map_toNat]

theorem tokens?_jsonBool (truth : Bool) (rest : List Char) :
    tokens? (Data.jsonBool truth ++ rest) = (tokens? rest).map (.bool truth :: ·) := by
  cases truth <;> exact tokens?_of_firstToken? rfl rfl

theorem tokens?_null (rest : List Char) :
    tokens? ("null".toList ++ rest) = (tokens? rest).map (.null :: ·) :=
  tokens?_of_firstToken? rfl rfl

theorem tokens?_indentation (depth : Nat) (rest : List Char) :
    tokens? (Data.indentation depth ++ rest) = tokens? rest := by
  have spaces (count : Nat) : tokens? (List.replicate count ' ' ++ rest) = tokens? rest := by
    induction count with
    | zero => rfl
    | succ count ih => rw [List.replicate_succ, List.cons_append, tokens?_space rfl, ih]
  rw [Data.indentation, List.cons_append, tokens?_space rfl, spaces]

end Scanning

end Json

end UsageGrammar
