/-!
# Structured data

What the textual formats write: scalars, sequences, and mappings whose entries keep their order.
JSON has two layouts here, on one line without blanks, and with one item on each line, indented by
two spaces. Its strings escape quotes, backslashes and the control characters below the space;
everything else stands for itself.
-/

namespace UsageGrammar

/-- A tree of scalars, sequences and mappings. -/
inductive Data where
  | null
  | bool (truth : Bool)
  | integer (number : Int)
  | text (word : String)
  | sequence (items : List Data)
  | mapping (entries : List (String × Data))
  deriving Repr, Inhabited

/-- A text that may be missing. -/
def Data.ofText? (word : Option String) : Data :=
  match word with
  | some word => .text word
  | none => .null

namespace Data

/-- The lowercase digits of a number below 256, two of them. -/
def hexByte (n : Nat) : List Char :=
  [Nat.digitChar (n / 16), Nat.digitChar (n % 16)]

/-- A character inside a JSON string. -/
def escapeJson (c : Char) : List Char :=
  if c = '"' then ['\\', '"']
  else if c = '\\' then ['\\', '\\']
  else if c.toNat = 0x8 then ['\\', 'b']
  else if c.toNat = 0xC then ['\\', 'f']
  else if c = '\n' then ['\\', 'n']
  else if c = '\r' then ['\\', 'r']
  else if c = '\t' then ['\\', 't']
  else if c.toNat < 0x20 then ['\\', 'u', '0', '0'] ++ hexByte c.toNat
  else [c]

/-- A JSON string. -/
def jsonText (word : String) : List Char :=
  '"' :: (word.toList.flatMap escapeJson ++ ['"'])

/-- A JSON number without fraction. -/
def jsonInteger : Int → List Char
  | .ofNat n => Nat.toDigits 10 n
  | .negSucc n => '-' :: Nat.toDigits 10 (n + 1)

/-- The JSON words for the truth values. -/
def jsonBool : Bool → List Char
  | true => "true".toList
  | false => "false".toList

/-- A line break and the indentation after it. -/
def indentation (depth : Nat) : List Char :=
  '\n' :: List.replicate (2 * depth) ' '

mutual

/-- JSON on one line, without blanks. -/
def compact : Data → List Char
  | null => "null".toList
  | bool truth => jsonBool truth
  | integer number => jsonInteger number
  | text word => jsonText word
  | sequence items => '[' :: ([','].intercalate (compactItems items) ++ [']'])
  | mapping entries => '\x7b' :: ([','].intercalate (compactEntries entries) ++ ['\x7d'])

/-- Each item on its own. -/
def compactItems : List Data → List (List Char)
  | [] => []
  | item :: items => compact item :: compactItems items

/-- Each entry on its own. -/
def compactEntries : List (String × Data) → List (List Char)
  | [] => []
  | (key, item) :: entries => (jsonText key ++ ':' :: compact item) :: compactEntries entries

end

mutual

/-- JSON with one item on each line. Empty sequences and mappings stay on one line. -/
def pretty (depth : Nat) : Data → List Char
  | null => "null".toList
  | bool truth => jsonBool truth
  | integer number => jsonInteger number
  | text word => jsonText word
  | sequence [] => ['[', ']']
  | sequence (item :: items) =>
    '[' :: ([','].intercalate (prettyItems (depth + 1) (item :: items)) ++
      indentation depth ++ [']'])
  | mapping [] => ['\x7b', '\x7d']
  | mapping (entry :: entries) =>
    '\x7b' :: ([','].intercalate (prettyEntries (depth + 1) (entry :: entries)) ++
      indentation depth ++ ['\x7d'])

/-- Each item on a line of its own. -/
def prettyItems (depth : Nat) : List Data → List (List Char)
  | [] => []
  | item :: items => (indentation depth ++ pretty depth item) :: prettyItems depth items

/-- Each entry on a line of its own. -/
def prettyEntries (depth : Nat) : List (String × Data) → List (List Char)
  | [] => []
  | (key, item) :: entries =>
    (indentation depth ++ jsonText key ++ ':' :: ' ' :: pretty depth item) ::
      prettyEntries depth entries

end

/-- Data as JSON on one line. -/
def toCompactJson (data : Data) : String :=
  String.ofList data.compact

/-- Data as indented JSON. -/
def toPrettyJson (data : Data) : String :=
  String.ofList (data.pretty 0)

end Data

end UsageGrammar
