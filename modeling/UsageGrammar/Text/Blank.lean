/-!
# Blank characters, words and lines

Blank means the Unicode property `White_Space`. Words are the maximal runs of characters that are
not blank. Lines end at a newline, which takes one carriage return before it along.
-/

namespace UsageGrammar.Text

/-- The Unicode property `White_Space`. -/
def isBlank (c : Char) : Bool :=
  let code := c.toNat
  (decide (0x9 ≤ code) && decide (code ≤ 0xD)) || code == 0x20 || code == 0x85 || code == 0xA0 ||
    code == 0x1680 || (decide (0x2000 ≤ code) && decide (code ≤ 0x200A)) || code == 0x2028 ||
    code == 0x2029 || code == 0x202F || code == 0x205F || code == 0x3000

/-- The two characters that separate columns and indent lines. -/
def isSpaceOrTab (c : Char) : Bool :=
  c == ' ' || c == '\t'

theorem isSpaceOrTab_iff {c : Char} : isSpaceOrTab c ↔ c = ' ' ∨ c = '\t' := by
  simp [isSpaceOrTab]

theorem isBlank_of_isSpaceOrTab {c : Char} (space : isSpaceOrTab c) : isBlank c := by
  rcases isSpaceOrTab_iff.mp space with rfl | rfl <;> rfl

/-- Drops the blank characters at the start. -/
def trimStart (text : List Char) : List Char :=
  text.dropWhile isBlank

/-- Drops the characters of a class at the end. -/
def dropEndWhile (drops : Char → Bool) (text : List Char) : List Char :=
  (text.reverse.dropWhile drops).reverse

/-- Drops the blank characters at both ends. -/
def trim (text : List Char) : List Char :=
  dropEndWhile isBlank (trimStart text)

/-- The maximal runs of characters that are not blank. -/
def words (text : List Char) : List (List Char) :=
  (text.splitOnP isBlank).filter fun word => !word.isEmpty

/-- Removes one carriage return at the end. -/
def dropReturn (line : List Char) : List Char :=
  if line.getLast? = some '\r' then line.dropLast else line

/-- The lines of a text. A newline ends a line, and an empty rest after the last newline is no
line; a carriage return belongs to the line break only when a newline follows it. -/
def lines (text : List Char) : List (List Char) :=
  let pieces := text.splitOn '\n'
  let ended := pieces.dropLast.map dropReturn
  match pieces.getLast? with
  | none => ended
  | some rest => if rest.isEmpty then ended else ended ++ [rest]

/-- The words of a string. -/
def wordsOf (text : String) : List String :=
  (words text.toList).map String.ofList

/-- A string without the blank characters at its ends. -/
def trimmed (text : String) : String :=
  String.ofList (trim text.toList)

end UsageGrammar.Text
