import UsageGrammar.Yaml.Scalar

/-!
# Positions in YAML text

A cursor is the text not read so far, with its line and column, and with the number of bytes before
it. Line breaks are read as one character whatever their spelling, except that the two Unicode
separators stand for themselves.
-/

namespace UsageGrammar.Yaml

/-- A place in a text. -/
structure Cursor where
  text : List Char
  /-- The number of bytes before it, in UTF-8. -/
  index : Nat
  line : Nat
  column : Nat
  deriving Repr, DecidableEq, Inhabited

namespace Cursor

/-- The start of a text. -/
def start (text : List Char) : Cursor :=
  ⟨text, 0, 0, 0⟩

/-- The next character. -/
def peek (cursor : Cursor) : Option Char :=
  cursor.text.head?

/-- The next character is the given one. -/
def sees (cursor : Cursor) (c : Char) : Bool :=
  cursor.peek == some c

/-- The character at a distance ends a word: it is blank, or there is none. -/
def separatorAt (cursor : Cursor) (distance : Nat) : Bool :=
  isSeparator cursor.text[distance]?

/-- The next character is a space or a tab. -/
def seesBlank (cursor : Cursor) : Bool :=
  cursor.peek.any fun c => c == ' ' || c == '\t'

/-- The next character ends a line, or there is none. -/
def atLineEnd (cursor : Cursor) : Bool :=
  cursor.peek.all isBreak

/-- The number of bytes of the characters up to a distance. -/
def bytesWithin (cursor : Cursor) (distance : Nat) : Nat :=
  (String.ofList (cursor.text.take distance)).utf8ByteSize

/-- Passes over characters of one line. -/
def advance (cursor : Cursor) (count : Nat) : Cursor :=
  { cursor with
    text := cursor.text.drop count
    index := cursor.index + cursor.bytesWithin count
    column := cursor.column + count }

/-- Reads the characters of one line that belong to a class. -/
def takeWhile (cursor : Cursor) (accepts : Char → Bool) : List Char × Cursor :=
  let taken := cursor.text.takeWhile accepts
  (taken, cursor.advance taken.length)

/-- Passes over the rest of the line. -/
def skipLine (cursor : Cursor) : Cursor :=
  (cursor.takeWhile fun c => !isBreak c).2

/-- The start of the next line, after a line break of the given length. -/
def nextLine (cursor : Cursor) (length : Nat) : Cursor :=
  ⟨cursor.text.drop length, cursor.index + cursor.bytesWithin length, cursor.line + 1, 0⟩

/-- Reads a line break. -/
def lineBreak? (cursor : Cursor) : Option (Char × Cursor) :=
  match cursor.text with
  | '\r' :: '\n' :: _ => some ('\n', cursor.nextLine 2)
  | c :: _ =>
    if c.toNat == 0x2028 || c.toNat == 0x2029 then some (c, cursor.nextLine 1)
    else if isBreak c then some ('\n', cursor.nextLine 1)
    else none
  | [] => none

/-- A mark of three characters stands alone at the start of the line. -/
def seesMark (cursor : Cursor) (mark : String) : Bool :=
  cursor.column == 0 && mark.toList.isPrefixOf cursor.text && cursor.separatorAt 3

/-- The start or the end of a document is marked here. -/
def seesDocumentMark (cursor : Cursor) : Bool :=
  cursor.seesMark "---" || cursor.seesMark "..."

end Cursor

/-- The blanks and line breaks between two words of a scalar. -/
structure Gap where
  blanks : List Char
  /-- The first line break; none if the gap begins after one. -/
  first : Option Char
  /-- The other line breaks. -/
  more : List Char
  /-- The gap goes over the end of a line. -/
  crosses : Bool
  deriving Repr, DecidableEq, Inhabited

namespace Gap

/-- What a gap contributes to a scalar. Within a line it stands for itself. One line break is folded
to a space, and of several the first is dropped. -/
def folded (gap : Gap) : List Char :=
  if gap.crosses then
    match gap.first with
    | some '\n' => if gap.more.isEmpty then [' '] else gap.more
    | some c => c :: gap.more
    | none => gap.more
  else gap.blanks

/-- Reads a gap. A tab may not stand in the indentation of a line. -/
def read (indent : Int) (gap : Gap) : Nat → Cursor → Option (Gap × Cursor)
  | 0, _ => none
  | fuel + 1, cursor =>
    match cursor.peek with
    | none => some (gap, cursor)
    | some c =>
      if c == ' ' || c == '\t' then
        if gap.crosses then
          if c == '\t' && cursor.column < indent then none
          else read indent gap fuel (cursor.advance 1)
        else read indent { gap with blanks := gap.blanks ++ [c] } fuel (cursor.advance 1)
      else
        match cursor.lineBreak? with
        | none => some (gap, cursor)
        | some (lineBreak, next) =>
          if gap.crosses then read indent { gap with more := gap.more ++ [lineBreak] } fuel next
          else read indent ⟨[], some lineBreak, [], true⟩ fuel next

/-- A gap that begins within a line. -/
def inLine : Gap :=
  ⟨[], none, [], false⟩

/-- A gap that begins after a line break which does not count. -/
def afterBreak : Gap :=
  ⟨[], none, [], true⟩

end Gap

/-- A bound on the steps that a text can take. -/
def Cursor.fuel (cursor : Cursor) : Nat :=
  cursor.text.length + 1

end UsageGrammar.Yaml
