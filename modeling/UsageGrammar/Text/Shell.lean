/-!
# Words of a shell line

A line is cut into words at blanks. Quotes and backslashes take the characters after them as they
are, and a `#` where a word could begin opens a comment.
-/

namespace UsageGrammar.Text.Shell

/-- Where the reader of a line stands. -/
inductive Position where
  /-- Between words. -/
  | gap
  | comment
  /-- In a word, outside of quotes. -/
  | word
  /-- After a backslash outside of quotes, which may be the first character of its word. -/
  | escape (begun : Bool)
  | singleQuotes
  | doubleQuotes
  /-- After a backslash in double quotes. -/
  | doubleEscape
  deriving Repr, DecidableEq, Inhabited

/-- A character that ends a word. -/
def isSeparator (c : Char) : Bool :=
  c == ' ' || c == '\t' || c == '\n'

/-- A character that a backslash escapes in double quotes. Before any other the backslash stands
for itself. -/
def isEscapable (c : Char) : Bool :=
  "$`\"\\".toList.contains c

/-- Adds a character at the front of the first word. -/
def prepend (c : Char) : List (List Char) → List (List Char)
  | [] => [[c]]
  | word :: words => (c :: word) :: words

/-- Where an unquoted character that is no separator leads, and whether it belongs to the word. -/
def enter (begun : Bool) (c : Char) : Position × Bool :=
  if c == '\'' then (.singleQuotes, false)
  else if c == '"' then (.doubleQuotes, false)
  else if c == '\\' then (.escape begun, false)
  else (.word, true)

/-- The words from a position on, if every quote is closed. Inside of a word its rest comes
first. -/
def wordsFrom? : Position → List Char → Option (List (List Char))
  | .gap, [] | .comment, [] => some []
  | .word, [] => some [[]]
  | .escape _, [] => some [['\\']]
  | .singleQuotes, [] | .doubleQuotes, [] | .doubleEscape, [] => none
  | .gap, c :: rest =>
    if isSeparator c then wordsFrom? .gap rest
    else if c == '#' then wordsFrom? .comment rest
    else
      let (position, kept) := enter false c
      if kept then (wordsFrom? position rest).map (prepend c) else wordsFrom? position rest
  | .comment, c :: rest => wordsFrom? (if c == '\n' then .gap else .comment) rest
  | .word, c :: rest =>
    if isSeparator c then (wordsFrom? .gap rest).map ([] :: ·)
    else
      let (position, kept) := enter true c
      if kept then (wordsFrom? position rest).map (prepend c) else wordsFrom? position rest
  | .escape begun, c :: rest =>
    if c == '\n' then wordsFrom? (if begun then .word else .gap) rest
    else (wordsFrom? .word rest).map (prepend c)
  | .singleQuotes, c :: rest =>
    if c == '\'' then wordsFrom? .word rest
    else (wordsFrom? .singleQuotes rest).map (prepend c)
  | .doubleQuotes, c :: rest =>
    if c == '"' then wordsFrom? .word rest
    else if c == '\\' then wordsFrom? .doubleEscape rest
    else (wordsFrom? .doubleQuotes rest).map (prepend c)
  | .doubleEscape, c :: rest =>
    if c == '\n' then wordsFrom? .doubleQuotes rest
    else if isEscapable c then (wordsFrom? .doubleQuotes rest).map (prepend c)
    else (wordsFrom? .doubleQuotes rest).map fun words => prepend '\\' (prepend c words)

/-- The words of a line, if every quote is closed. -/
def words? (line : List Char) : Option (List String) :=
  (wordsFrom? .gap line).map fun words => words.map String.ofList

end UsageGrammar.Text.Shell
