import UsageGrammar.Yaml.Plain

/-!
# Writing scalars

A text is written plain where it would be read back as that text, else in single quotes, where they
can hold it, else in double quotes. A text of several lines is written as a literal block, unless
its blanks or its characters forbid that.
-/

namespace UsageGrammar.Yaml

/-- The characters that end a line. -/
def isBreak (c : Char) : Bool :=
  c == '\n' || c == '\r' || c.toNat == 0x85 || c.toNat == 0x2028 || c.toNat == 0x2029

/-- A character may stand unescaped: a newline, or anything that is neither a control character nor
a byte order mark nor one of the last two of the basic plane. -/
def isWritable (c : Char) : Bool :=
  let code := c.toNat
  c == '\n' || (decide (0x20 ≤ code) && decide (code ≤ 0x7E)) ||
    (decide (0xA0 ≤ code) && code != 0xFEFF && code != 0xFFFE && code != 0xFFFF)

/-- A blank, a line break, a zero character or the end of the text. -/
def isSeparator (c : Option Char) : Bool :=
  match c with
  | none => true
  | some c => c == ' ' || c == '\t' || isBreak c || c.toNat == 0

/-- The characters that cannot begin a plain scalar. -/
def startsIndicator (c : Char) : Bool :=
  "#,[]\x7b\x7d&*!|>'\"%@`".toList.contains c

/-- An indicator inside a plain scalar: a colon before a separator, or a hash sign after one. -/
def holdsIndicator (before : Option Char) : List Char → Bool
  | [] => false
  | c :: rest =>
    (c == ':' && isSeparator rest.head?) || (c == '#' && isSeparator before) ||
      holdsIndicator (some c) rest

/-- The text would be read as markup if it stood plain in a block. -/
def looksLikeMarkup (text : List Char) : Bool :=
  match text with
  | [] => false
  | c :: rest =>
    "---".toList.isPrefixOf text || "...".toList.isPrefixOf text || startsIndicator c ||
      ((c == '?' || c == '-' || c == ':') && isSeparator rest.head?) ||
      holdsIndicator (some c) rest

/-- Some character of one class is directly followed by one of another class. -/
def adjacent (first second : Char → Bool) : List Char → Bool
  | [] => false
  | c :: rest => (first c && rest.head?.any second) || adjacent first second rest

/-- The space alone. -/
def isSpace (c : Char) : Bool :=
  c == ' '

/-- A space before a line break, or a character that has to be escaped. -/
def needsEscapes (text : List Char) : Bool :=
  adjacent isSpace isBreak text || text.any fun c => !isWritable c

/-- The text can stand plain. -/
def allowsPlain (text : List Char) : Bool :=
  !needsEscapes text && !text.any isBreak && !text.head?.any isSpace &&
    !text.getLast?.any isSpace && !looksLikeMarkup text

/-- The text can stand in single quotes. -/
def allowsSingle (text : List Char) : Bool :=
  !needsEscapes text && !adjacent isBreak isSpace text

/-- The text can stand in a literal block. -/
def allowsLiteral (text : List Char) : Bool :=
  !needsEscapes text && !text.getLast?.any isSpace

/-- How a scalar is written. -/
inductive ScalarStyle where
  | plain
  | single
  | double
  | literal
  deriving Repr, DecidableEq, Inhabited

/-- The style of a text. A key on one line cannot be of several lines. -/
def styleOf (inlineKey : Bool) (text : List Char) : ScalarStyle :=
  if text.contains '\n' then
    if !inlineKey && allowsLiteral text then .literal else .double
  else if inlineKey && text.any isBreak then .double
  else if isPlainText text && allowsPlain text then .plain
  else if allowsSingle text then .single
  else .double

/-- The lowest hexadecimal digits of a number, as many as asked for, in upper case. -/
def hexDigits (width n : Nat) : List Char :=
  (List.range width).reverse.map fun place =>
    (Nat.digitChar (n / Nat.pow 16 place % 16)).toUpper

/-- A character in double quotes. -/
def escapeDouble (c : Char) : List Char :=
  let code := c.toNat
  if c == '"' || c == '\\' then ['\\', c]
  else if isWritable c && !isBreak c then [c]
  else
    match [(0x0, '0'), (0x7, 'a'), (0x8, 'b'), (0x9, 't'), (0xA, 'n'), (0xB, 'v'), (0xC, 'f'),
      (0xD, 'r'), (0x1B, 'e'), (0x85, 'N'), (0x2028, 'L'), (0x2029, 'P')].lookup code with
    | some letter => ['\\', letter]
    | none =>
      if code ≤ 0xFF then '\\' :: 'x' :: hexDigits 2 code
      else if code ≤ 0xFFFF then '\\' :: 'u' :: hexDigits 4 code
      else '\\' :: 'U' :: hexDigits 8 code

/-- A text in double quotes. -/
def writeDouble (text : List Char) : List Char :=
  '"' :: (text.flatMap escapeDouble ++ ['"'])

/-- Spaces at the start of a line. -/
def margin (indent : Nat) : List Char :=
  List.replicate indent ' '

/-- The inside of single quotes, of which every line after a break is indented. The flag says
whether a break comes before. -/
def writeSingleFrom (indent : Nat) : Bool → List Char → List Char
  | broken, [] => if broken then margin indent else []
  | broken, c :: rest =>
    if isBreak c then c :: writeSingleFrom indent true rest
    else
      (if broken then margin indent else []) ++ (if c == '\'' then ['\'', '\''] else [c]) ++
        writeSingleFrom indent false rest

/-- A text in single quotes. -/
def writeSingle (indent : Nat) (text : List Char) : List Char :=
  '\'' :: (writeSingleFrom indent false text ++ ['\''])

/-- The lines of a literal block. A line that is empty is not indented. -/
def writeLinesFrom (indent : Nat) : Bool → List Char → List Char
  | _, [] => []
  | broken, c :: rest =>
    if isBreak c then c :: writeLinesFrom indent true rest
    else (if broken then margin indent else []) ++ c :: writeLinesFrom indent false rest

/-- The head of a literal block says how much it is indented, where that cannot be seen, and what
becomes of the line breaks at its end: none, one or all. -/
def literalHead (text : List Char) : List Char :=
  let indentHint := if text.head?.any (fun c => c == ' ' || isBreak c) then ['2'] else []
  let endHint :=
    match text.reverse with
    | [] => ['-']
    | last :: before =>
      if !isBreak last then ['-']
      else if before.head?.all isBreak then ['+']
      else []
  '|' :: (indentHint ++ endHint)

/-- A literal block, with the line break that ends it. -/
def writeLiteral (indent : Nat) (text : List Char) : List Char :=
  literalHead text ++ '\n' :: writeLinesFrom indent true text ++
    if text.getLast?.any isBreak then [] else ['\n']

/-- A text as a scalar of a block, with the line break that ends it. -/
def writeScalarLine (indent : Nat) (text : List Char) : List Char :=
  match styleOf false text with
  | .plain => text ++ ['\n']
  | .single => writeSingle indent text ++ ['\n']
  | .double => writeDouble text ++ ['\n']
  | .literal => writeLiteral indent text

/-- A text as a key on one line. -/
def writeInlineKey (text : List Char) : List Char :=
  match styleOf true text with
  | .plain => text
  | .single => writeSingle 0 text
  | _ => writeDouble text

/-- A key stays on one line with its value if it has one line and at most 128 bytes. -/
def fitsInlineKey (key : String) : Bool :=
  key.utf8ByteSize ≤ 128 && !key.toList.any isBreak

end UsageGrammar.Yaml
