/-!
# Digits

Numbers written in a base of up to sixteen.
-/

namespace UsageGrammar.Text

/-- A decimal digit. -/
def isDigit (c : Char) : Bool :=
  '0' ≤ c && c ≤ '9'

/-- The value of a digit up to `f`, in either case. -/
def digit? (c : Char) : Option Nat :=
  if '0' ≤ c && c ≤ '9' then some (c.toNat - '0'.toNat)
  else if 'a' ≤ c && c ≤ 'f' then some (c.toNat - 'a'.toNat + 10)
  else if 'A' ≤ c && c ≤ 'F' then some (c.toNat - 'A'.toNat + 10)
  else none

/-- A number and one more digit at its end. -/
def appendDigit (base total : Nat) (c : Char) : Option Nat :=
  match digit? c with
  | some digit => if digit < base then some (base * total + digit) else none
  | none => none

/-- The number that a nonempty row of digits writes in a base. -/
def natural? (base : Nat) (digits : List Char) : Option Nat :=
  if digits.isEmpty then none else digits.foldlM (appendDigit base) 0

/-- A text without one sign at its start. -/
def dropSign : List Char → List Char
  | '+' :: rest => rest
  | '-' :: rest => rest
  | text => text

theorem dropSign_length (text : List Char) : (dropSign text).length ≤ text.length := by
  unfold dropSign
  split <;> simp

end UsageGrammar.Text
