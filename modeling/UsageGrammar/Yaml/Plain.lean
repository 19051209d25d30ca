import UsageGrammar.Text.Digit

/-!
# Plain scalars

A scalar without quotes stands for nothing, a truth value, a number or a text, according to its
characters. Numbers are decimal, hexadecimal, octal or binary integers of up to 128 bits, and
decimal fractions that a double can hold. A run of digits with a leading zero is a text.
-/

namespace UsageGrammar.Yaml

open Text

/-- The scalar stands for nothing. -/
def isNull (scalar : List Char) : Bool :=
  ["null", "Null", "NULL", "~"].any (·.toList == scalar)

/-- The truth value that the scalar stands for. -/
def bool? (scalar : List Char) : Option Bool :=
  if ["true", "True", "TRUE"].any (·.toList == scalar) then some true
  else if ["false", "False", "FALSE"].any (·.toList == scalar) then some false
  else none

/-- Two or more digits of which the first is zero, behind at most one sign. -/
def isZeroLed (scalar : List Char) : Bool :=
  match dropSign scalar with
  | '0' :: c :: rest => (c :: rest).all isDigit
  | _ => false

/-- The number that an integer without sign writes. -/
def magnitude? (digits : List Char) : Option Nat :=
  match digits with
  | '0' :: 'x' :: rest => natural? 16 rest
  | '0' :: 'o' :: rest => natural? 8 rest
  | '0' :: 'b' :: rest => natural? 2 rest
  | _ => natural? 10 digits

/-- The scalar is an integer of at most 128 bits. -/
def isInteger (scalar : List Char) : Bool :=
  !isZeroLed scalar &&
    match scalar with
    | '-' :: digits => (magnitude? digits).any (· ≤ Nat.pow 2 127)
    | '+' :: digits => (magnitude? digits).any (· < Nat.pow 2 128)
    | digits => (magnitude? digits).any (· < Nat.pow 2 128)

/-- A number too large for a double, given as `mantissa * 10 ^ exponent`: from half a unit above
the largest double on. -/
def overflows (mantissa : Nat) (exponent : Int) : Bool :=
  let bound := Nat.pow 2 1024 - Nat.pow 2 970
  let digits := (Nat.toDigits 10 mantissa).length
  if mantissa = 0 then false
  else if 310 < digits + exponent then true
  else if digits + exponent < 300 then false
  else if 0 ≤ exponent then bound ≤ mantissa * Nat.pow 10 exponent.toNat
  else bound * Nat.pow 10 (-exponent).toNat ≤ mantissa

/-- The exponent that follows a mantissa; none is zero. -/
def exponent? : List Char → Option Int
  | [] => some 0
  | mark :: rest =>
    if mark == 'e' || mark == 'E' then
      match rest with
      | '-' :: digits => (natural? 10 digits).map fun n => -(n : Int)
      | '+' :: digits => (natural? 10 digits).map fun n => (n : Int)
      | digits => (natural? 10 digits).map fun n => (n : Int)
    else none

/-- The digits before and after the point, and what follows them. -/
def splitMantissa (text : List Char) : List Char × List Char × List Char :=
  let whole := text.takeWhile isDigit
  match text.dropWhile isDigit with
  | '.' :: rest => (whole, rest.takeWhile isDigit, rest.dropWhile isDigit)
  | rest => (whole, [], rest)

/-- An unsigned decimal fraction that a double can hold. -/
def isFinite (text : List Char) : Bool :=
  let (whole, fraction, rest) := splitMantissa text
  match natural? 10 (whole ++ fraction), exponent? rest with
  | some mantissa, some exponent => !overflows mantissa (exponent - fraction.length)
  | _, _ => false

/-- The scalar is a fraction, infinite or not a number. Infinity may have a sign, and only a minus
sign may follow the place of a plus sign. -/
def isFraction (scalar : List Char) : Bool :=
  let unsigned :=
    match scalar with
    | '+' :: rest => rest
    | text => text
  [".inf", ".Inf", ".INF"].any (·.toList == unsigned) ||
    ["-.inf", "-.Inf", "-.INF", ".nan", ".NaN", ".NAN"].any (·.toList == scalar) ||
    match scalar with
    | '+' :: rest => isFinite rest
    | '-' :: rest => isFinite rest
    | text => isFinite text

/-- A plain scalar that stands for a text. Digits with a leading zero do so only by their quotes in
other readers, and count as no text here. -/
def isPlainText (scalar : List Char) : Bool :=
  !scalar.isEmpty && !isNull scalar && (bool? scalar).isNone && !isInteger scalar &&
    !isFraction scalar && !isZeroLed scalar

end UsageGrammar.Yaml
