import UsageGrammar.Text.Digit

/-!
# Tokens of JSON

JSON text is read as punctuation, words, numbers and strings. A number with a fraction or an
exponent is told from an integer, and so is minus zero. The escapes of a string give units of
sixteen bits; characters above the first 65536 are a pair of units, a high and a low half. A string
may hold half of a character by its escapes; such a string has no text.
-/

namespace UsageGrammar

namespace Text

/-- A unit that begins a pair. -/
def isHighHalf (unit : Nat) : Bool :=
  decide (0xD800 ≤ unit) && decide (unit < 0xDC00)

/-- A unit that ends a pair. -/
def isLowHalf (unit : Nat) : Bool :=
  decide (0xDC00 ≤ unit) && decide (unit < 0xE000)

/-- The characters of code units, if every half of a character has its other half. -/
def charsOfUnits? : List Nat → Option (List Char)
  | [] => some []
  | [unit] => if isHighHalf unit || isLowHalf unit then none else some [Char.ofNat unit]
  | unit :: next :: rest =>
    if isHighHalf unit then
      if isLowHalf next then
        let code := 0x10000 + (unit - 0xD800) * 0x400 + (next - 0xDC00)
        (charsOfUnits? rest).map (Char.ofNat code :: ·)
      else none
    else if isLowHalf unit then none
    else (charsOfUnits? (next :: rest)).map (Char.ofNat unit :: ·)

end Text

namespace Json

open Text

/-- One unit of JSON text. -/
inductive Token where
  | openArray
  | closeArray
  | openObject
  | closeObject
  | comma
  | colon
  | null
  | bool (truth : Bool)
  | integer (number : Int)
  /-- A number that is written as a fraction, or minus zero. -/
  | real
  /-- A string, without its text where the escapes leave half a character. -/
  | text (word : Option String)
  deriving Repr, DecidableEq, Inhabited

/-- The blanks between tokens. -/
def isSpace (c : Char) : Bool :=
  c == ' ' || c == '\n' || c == '\t' || c == '\r'

/-- The number that four hexadecimal digits write. -/
def codeUnit? (digits : List Char) : Option Nat :=
  natural? 16 digits

/-- The character that an escape of one letter stands for. -/
def letterEscape? (letter : Char) : Option Nat :=
  [('"', 0x22), ('\\', 0x5C), ('/', 0x2F), ('b', 0x8), ('f', 0xC), ('n', 0xA), ('r', 0xD),
    ('t', 0x9)].lookup letter

/-- The code units of a string up to its closing quote, and the text after it. -/
def stringUnits? : List Char → Option (List Nat × List Char)
  | [] => none
  | '"' :: rest => some ([], rest)
  | '\\' :: 'u' :: a :: b :: c :: d :: rest =>
    match codeUnit? [a, b, c, d], stringUnits? rest with
    | some unit, some (units, after) => some (unit :: units, after)
    | _, _ => none
  | '\\' :: letter :: rest =>
    match letterEscape? letter, stringUnits? rest with
    | some unit, some (units, after) => some (unit :: units, after)
    | _, _ => none
  | c :: rest =>
    if c = '\\' || c.toNat < 0x20 then none
    else (stringUnits? rest).map fun (units, after) => (c.toNat :: units, after)

/-- The text after the digits of a fraction, if there is one. -/
def afterFraction? (text : List Char) : Option (Bool × List Char) :=
  match text with
  | '.' :: rest =>
    if (rest.takeWhile isDigit).isEmpty then none else some (true, rest.dropWhile isDigit)
  | rest => some (false, rest)

/-- The text after an exponent, if there is one. -/
def afterExponent? (text : List Char) : Option (Bool × List Char) :=
  match text with
  | [] => some (false, [])
  | mark :: rest =>
    if mark == 'e' || mark == 'E' then
      let digits := dropSign rest
      if (digits.takeWhile isDigit).isEmpty then none else some (true, digits.dropWhile isDigit)
    else some (false, mark :: rest)

/-- The first number of a text that starts with a digit, and the text after it. A leading zero
stands alone. -/
def number? (negative : Bool) (text : List Char) : Option (Token × List Char) :=
  let whole := text.takeWhile isDigit
  if whole.head? == some '0' && whole.length != 1 then none
  else
    match natural? 10 whole, afterFraction? (text.dropWhile isDigit) with
    | some magnitude, some (hasFraction, rest) =>
      match afterExponent? rest with
      | some (hasExponent, rest) =>
        if hasFraction || hasExponent || (negative && magnitude == 0) then some (.real, rest)
        else some (.integer (if negative then -(magnitude : Int) else magnitude), rest)
      | none => none
    | _, _ => none

/-- The first token of a text that does not start with a blank, and the text after it. -/
def firstToken? (c : Char) (text : List Char) : Option (Token × List Char) :=
  match c, text with
  | '[', rest => some (.openArray, rest)
  | ']', rest => some (.closeArray, rest)
  | '\x7b', rest => some (.openObject, rest)
  | '\x7d', rest => some (.closeObject, rest)
  | ',', rest => some (.comma, rest)
  | ':', rest => some (.colon, rest)
  | 'n', 'u' :: 'l' :: 'l' :: rest => some (.null, rest)
  | 't', 'r' :: 'u' :: 'e' :: rest => some (.bool true, rest)
  | 'f', 'a' :: 'l' :: 's' :: 'e' :: rest => some (.bool false, rest)
  | '"', text =>
    (stringUnits? text).map fun (units, rest) =>
      (.text ((charsOfUnits? units).map String.ofList), rest)
  | '-', text => number? true text
  | c, text => if isDigit c then number? false (c :: text) else none

theorem stringUnits?_length {text rest : List Char} {units : List Nat}
    (read : stringUnits? text = some (units, rest)) : rest.length < text.length := by
  fun_induction stringUnits? text generalizing units rest with
  | case1 => simp at read
  | case2 text =>
    obtain ⟨_, rfl⟩ := Prod.mk.inj (Option.some.inj read)
    simp
  | case3 a b c d text unit _ _ after _ ih =>
    obtain ⟨_, rfl⟩ := Prod.mk.inj (Option.some.inj read)
    have := ih (by assumption)
    simp only [List.length_cons]
    omega
  | case4 => simp at read
  | case5 letter text _ unit _ _ after _ ih =>
    obtain ⟨_, rfl⟩ := Prod.mk.inj (Option.some.inj read)
    have := ih (by assumption)
    simp only [List.length_cons]
    omega
  | case6 => simp at read
  | case7 => simp at read
  | case8 c text _ _ _ _ ih =>
    obtain ⟨⟨units', after⟩, read', same⟩ := Option.map_eq_some_iff.1 read
    obtain ⟨_, rfl⟩ := Prod.mk.inj same
    have := ih read'
    simp only [List.length_cons]
    omega

theorem afterFraction?_length {text rest : List Char} {found : Bool}
    (read : afterFraction? text = some (found, rest)) : rest.length ≤ text.length := by
  unfold afterFraction? at read
  split at read
  · next tail =>
    split at read
    · simp at read
    · obtain ⟨_, rfl⟩ := Prod.mk.inj (Option.some.inj read)
      have := (List.dropWhile_sublist isDigit (l := tail)).length_le
      simp only [List.length_cons]
      omega
  · obtain ⟨_, rfl⟩ := Prod.mk.inj (Option.some.inj read)
    exact Nat.le_refl _

theorem afterExponent?_length {text rest : List Char} {found : Bool}
    (read : afterExponent? text = some (found, rest)) : rest.length ≤ text.length := by
  cases text with
  | nil =>
    obtain ⟨_, rfl⟩ := Prod.mk.inj (Option.some.inj read)
    exact Nat.le_refl _
  | cons mark tail =>
    simp only [afterExponent?] at read
    split at read
    · split at read
      · simp at read
      · obtain ⟨_, rfl⟩ := Prod.mk.inj (Option.some.inj read)
        have shorter := (List.dropWhile_sublist isDigit (l := dropSign tail)).length_le
        have unsigned := dropSign_length tail
        simp only [List.length_cons]
        omega
    · obtain ⟨_, rfl⟩ := Prod.mk.inj (Option.some.inj read)
      exact Nat.le_refl _

theorem number?_length {negative : Bool} {text rest : List Char} {token : Token}
    (read : number? negative text = some (token, rest)) :
    rest.length ≤ (text.dropWhile isDigit).length := by
  simp only [number?] at read
  split at read
  · simp at read
  · split at read
    · next fraction =>
      split at read
      · next exponent =>
        have kept := Nat.le_trans (afterExponent?_length exponent) (afterFraction?_length fraction)
        split at read
        all_goals
          obtain ⟨_, rfl⟩ := Prod.mk.inj (Option.some.inj read)
          exact kept
      · simp at read
    · simp at read

theorem firstToken?_length {c : Char} {text rest : List Char} {token : Token}
    (read : firstToken? c text = some (token, rest)) : rest.length ≤ text.length := by
  unfold firstToken? at read
  split at read
  case h_10 =>
    obtain ⟨⟨units, after⟩, closed, same⟩ := Option.map_eq_some_iff.1 read
    obtain ⟨_, rfl⟩ := Prod.mk.inj same
    exact Nat.le_of_lt (stringUnits?_length closed)
  case h_11 =>
    exact Nat.le_trans (number?_length read) (List.dropWhile_sublist isDigit).length_le
  case h_12 =>
    split at read
    · next digit =>
      refine Nat.le_trans (number?_length read) ?_
      rw [List.dropWhile_cons_of_pos digit]
      exact (List.dropWhile_sublist isDigit).length_le
    · simp at read
  all_goals
    obtain ⟨_, rfl⟩ := Prod.mk.inj (Option.some.inj read)
    grind

/-- The tokens of a text, if it consists of tokens and blanks. -/
def tokens? : List Char → Option (List Token)
  | [] => some []
  | c :: text =>
    if isSpace c then tokens? text
    else
      match _read : firstToken? c text with
      | some (token, rest) => (tokens? rest).map (token :: ·)
      | none => none
termination_by text => text.length
decreasing_by
  · simp
  · exact Nat.lt_succ_of_le (firstToken?_length _read)

end Json

end UsageGrammar
