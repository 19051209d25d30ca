import UsageGrammar.Text.Printable

/-!
# Quoted text

A quoted text stands between double quotes, on one line. A character that is not printable, or
that would join the quote before it, is written by its code point in hexadecimal.
-/

namespace UsageGrammar.Text.Quoted

/-- The digits of a number in base 16, in lower case and without leading zeros. -/
def hexadecimal (n : Nat) : List Char :=
  Nat.toDigits 16 n

/-- The written form of one character. -/
def escape (c : Char) : List Char :=
  if c = Char.ofNat 0 then ['\\', '0']
  else if c = '\t' then ['\\', 't']
  else if c = '\r' then ['\\', 'r']
  else if c = '\n' then ['\\', 'n']
  else if c = '\\' then ['\\', '\\']
  else if c = '"' then ['\\', '"']
  else if extendsGrapheme c || !isPrintable c then
    ['\\', 'u', '\x7b'] ++ hexadecimal c.toNat ++ ['\x7d']
  else [c]

/-- The quoted form of a text. -/
def encode (text : List Char) : List Char :=
  '"' :: (text.flatMap escape ++ ['"'])

/-- The quoted form of a string. -/
def quote (text : String) : String :=
  String.ofList (encode text.toList)

end UsageGrammar.Text.Quoted
