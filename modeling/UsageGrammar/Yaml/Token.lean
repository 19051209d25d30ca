import UsageGrammar.Yaml.Cursor

/-!
# Tokens of YAML

The parts of YAML text that are read without regard to their surroundings: scalars in their five
presentations, anchors, tags and directives.
-/

namespace UsageGrammar.Yaml

open Text

/-- How a scalar stands in the text. -/
inductive Presentation where
  | plain
  | quoted
  | literal
  | folded
  deriving Repr, DecidableEq, Inhabited

/-- One unit of YAML text. -/
inductive Token where
  | versionDirective (major minor : Nat)
  | tagDirective (handle : List Char) (stem : List UInt8)
  | documentStart
  | documentEnd
  | blockSequenceStart
  | blockMappingStart
  | blockEnd
  | flowSequenceStart
  | flowSequenceEnd
  | flowMappingStart
  | flowMappingEnd
  | blockEntry
  | flowEntry
  | key
  | value
  | alias (name : List Char)
  | anchor (name : List Char)
  | tag (handle : List Char) (suffix : List UInt8)
  | scalar (presentation : Presentation) (text : List Char)
  deriving Repr, DecidableEq, Inhabited

/-- The brackets, braces and comma that structure a flow collection. -/
def isFlowIndicator (c : Char) : Bool :=
  c == ',' || c == '[' || c == ']' || c == '\x7b' || c == '\x7d'

/-- The characters of names: ASCII letters and digits, the underscore and the dash. -/
def isNameChar (c : Char) : Bool :=
  isDigit c || ('a' ≤ c && c ≤ 'z') || ('A' ≤ c && c ≤ 'Z') || c == '_' || c == '-'

/-! ## Plain scalars -/

/-- The characters of a plain scalar up to a blank or an indicator that ends it. In a flow
collection a colon directly before an indicator is an error. -/
def plainRun (inFlow : Bool) : List Char → Option (List Char)
  | [] => some []
  | c :: rest =>
    if isSeparator (some c) then some []
    else if inFlow && c == ':' && rest.head?.any (fun next => isFlowIndicator next || next == '?')
    then none
    else if (c == ':' && isSeparator rest.head?) || (inFlow && isFlowIndicator c) then some []
    else (plainRun inFlow rest).map (c :: ·)

/-- Reads on in a plain scalar, after a gap that counts only if more of the scalar follows. Says
also whether the scalar is followed by a line break. -/
def readPlain (inFlow : Bool) (indent : Int) (text : List Char) (gap : Gap) :
    Nat → Cursor → Option (List Char × Bool × Cursor)
  | 0, _ => none
  | fuel + 1, cursor =>
    if cursor.seesDocumentMark || cursor.sees '#' then some (text, gap.crosses, cursor)
    else
      match plainRun inFlow cursor.text with
      | none => none
      | some run =>
        let after := cursor.advance run.length
        let text := if run.isEmpty then text else text ++ gap.folded ++ run
        let gap := if run.isEmpty then gap else .inLine
        if after.seesBlank || (after.peek.any isBreak) then
          match Gap.read indent gap after.fuel after with
          | none => none
          | some (gap, next) =>
            if !inFlow && (next.column : Int) < indent then some (text, gap.crosses, next)
            else readPlain inFlow indent text gap fuel next
        else some (text, gap.crosses, after)

/-! ## Quoted scalars -/

/-- The character that an escape of one letter stands for. -/
def letterEscape? (letter : Char) : Option Char :=
  ([('0', 0x0), ('a', 0x7), ('b', 0x8), ('t', 0x9), ('\t', 0x9), ('n', 0xA), ('v', 0xB),
    ('f', 0xC), ('r', 0xD), ('e', 0x1B), (' ', 0x20), ('"', 0x22), ('/', 0x2F), ('\\', 0x5C),
    ('N', 0x85), ('_', 0xA0), ('L', 0x2028), ('P', 0x2029)].lookup letter).map Char.ofNat

/-- The number of hexadecimal digits that an escape takes. -/
def escapeWidth? (letter : Char) : Option Nat :=
  [('x', 2), ('u', 4), ('U', 8)].lookup letter

/-- The character of a code point, which is not half of a pair. -/
def scalarValue? (code : Nat) : Option Char :=
  if code < 0xD800 || (0xE000 ≤ code && code ≤ 0x10FFFF) then some (Char.ofNat code) else none

/-- Reads an escape of double quotes, its backslash included. -/
def readEscape (cursor : Cursor) : Option (Char × Cursor) :=
  match cursor.text with
  | _ :: letter :: rest =>
    match letterEscape? letter, escapeWidth? letter with
    | some c, _ => some (c, cursor.advance 2)
    | none, some width =>
      let digits := rest.take width
      if digits.length = width then
        ((natural? 16 digits).bind scalarValue?).map fun c => (c, cursor.advance (2 + width))
      else none
    | none, none => none
  | _ => none

/-- Reads the characters of a quoted scalar up to a blank, a line break or the closing quote. Says
also whether an escaped line break was passed. -/
def readQuotedRun (single : Bool) (text : List Char) :
    Nat → Cursor → Option (List Char × Bool × Cursor)
  | 0, _ => none
  | fuel + 1, cursor =>
    match cursor.text with
    | [] => some (text, false, cursor)
    | c :: rest =>
      if isSeparator (some c) then some (text, false, cursor)
      else if single then
        if c != '\'' then readQuotedRun single (text ++ [c]) fuel (cursor.advance 1)
        else if rest.head? == some '\'' then
          readQuotedRun single (text ++ [c]) fuel (cursor.advance 2)
        else some (text, false, cursor)
      else if c == '"' then some (text, false, cursor)
      else if c == '\\' then
        match (cursor.advance 1).lineBreak? with
        | some (_, next) => some (text, true, next)
        | none =>
          match readEscape cursor with
          | some (c, next) => readQuotedRun single (text ++ [c]) fuel next
          | none => none
      else readQuotedRun single (text ++ [c]) fuel (cursor.advance 1)

/-- Reads on in a quoted scalar up to and including its closing quote. -/
def readQuoted (single : Bool) (text : List Char) : Nat → Cursor → Option (List Char × Cursor)
  | 0, _ => none
  | fuel + 1, cursor =>
    if cursor.seesDocumentMark || cursor.peek.isNone then none
    else
      match readQuotedRun single text cursor.fuel cursor with
      | none => none
      | some (text, escapedBreak, after) =>
        if after.sees (if single then '\'' else '"') then some (text, after.advance 1)
        else
          match Gap.read 0 (if escapedBreak then .afterBreak else .inLine) after.fuel after with
          | none => none
          | some (gap, next) => readQuoted single (text ++ gap.folded) fuel next

/-! ## Block scalars -/

/-- What becomes of the line breaks at the end of a block scalar. -/
inductive Chomping where
  | strip
  | clip
  | keep
  deriving Repr, DecidableEq, Inhabited

/-- The sign for a chomping. -/
def Chomping.ofSign? (c : Char) : Option Chomping :=
  if c == '-' then some .strip else if c == '+' then some .keep else none

/-- The head of a block scalar: a chomping sign and a digit for the indentation, in either order.
The digit is not zero. -/
def readBlockHead (cursor : Cursor) : Option (Chomping × Nat × Cursor) :=
  let digitAt (cursor : Cursor) : Option (Nat × Cursor) :=
    match cursor.peek with
    | some c =>
      if isDigit c then
        if c == '0' then none else some (c.toNat - '0'.toNat, cursor.advance 1)
      else some (0, cursor)
    | none => some (0, cursor)
  let signAt (cursor : Cursor) : Option (Chomping × Cursor) :=
    (cursor.peek.bind Chomping.ofSign?).map fun chomping => (chomping, cursor.advance 1)
  match signAt cursor with
  | some (chomping, next) => (digitAt next).map fun (digit, next) => (chomping, digit, next)
  | none =>
    (digitAt cursor).map fun (digit, next) =>
      match signAt next with
      | some (chomping, last) => (chomping, digit, last)
      | none => (.clip, digit, next)

/-- Reads empty lines and the indentation after them. An indentation of zero is not known yet, and
takes all spaces. Gives the line breaks and the widest indentation met. -/
def readBlockBreaks (indent : Nat) (breaks : List Char) (widest : Nat) :
    Nat → Cursor → Option (List Char × Nat × Cursor)
  | 0, _ => none
  | fuel + 1, cursor =>
    let spaces := (cursor.text.takeWhile isSpace).length
    let count := if indent = 0 then spaces else min spaces (indent - cursor.column)
    let after := cursor.advance count
    let widest := max widest after.column
    if (indent = 0 ∨ after.column < indent) ∧ after.sees '\t' then none
    else
      match after.lineBreak? with
      | some (lineBreak, next) => readBlockBreaks indent (breaks ++ [lineBreak]) widest fuel next
      | none => some (breaks, widest, after)

/-- A block scalar as far as it has been read: its text, the line break at the end of its last line,
the empty lines after that, and whether the last line began with a blank. -/
structure BlockText where
  text : List Char
  last : Option Char
  breaks : List Char
  indented : Bool
  deriving Repr, DecidableEq, Inhabited

/-- Reads the lines of a block scalar. In a folded scalar the line break between two lines becomes a
space, unless one of them begins with a blank; before empty lines it is dropped. -/
def readBlockLines (literal : Bool) (indent : Nat) (block : BlockText) :
    Nat → Cursor → Option (BlockText × Cursor)
  | 0, _ => none
  | fuel + 1, cursor =>
    if cursor.column = indent ∧ cursor.peek.isSome then
      let beginsBlank := cursor.seesBlank
      let joint :=
        if !literal && block.last == some '\n' && !block.indented && !beginsBlank then
          if block.breaks.isEmpty then [' '] else []
        else block.last.toList
      let (line, after) := cursor.takeWhile fun c => !isBreak c
      let text := block.text ++ joint ++ block.breaks ++ line
      let (last, next) :=
        match after.lineBreak? with
        | some (lineBreak, next) => (some lineBreak, next)
        | none => (none, after)
      match readBlockBreaks indent [] 0 next.fuel next with
      | none => none
      | some (breaks, _, next) =>
        readBlockLines literal indent ⟨text, last, breaks, beginsBlank⟩ fuel next
    else some (block, cursor)

/-- Reads a block scalar, its indicator included. The indentation is relative to that of the
surrounding block. -/
def readBlockScalar (literal : Bool) (outer : Int) (cursor : Cursor) :
    Option (List Char × Cursor) :=
  match readBlockHead (cursor.advance 1) with
  | none => none
  | some (chomping, digit, next) =>
    let next := (next.takeWhile fun c => c == ' ' || c == '\t').2
    let next := if next.sees '#' then next.skipLine else next
    if !next.atLineEnd then none
    else
      let body := (next.lineBreak?.map Prod.snd).getD next
      let given := if digit = 0 then 0 else (max outer 0).toNat + digit
      match readBlockBreaks given [] 0 body.fuel body with
      | none => none
      | some (breaks, widest, first) =>
        let indent := if given = 0 then max (max widest (outer + 1).toNat) 1 else given
        match readBlockLines literal indent ⟨[], none, breaks, false⟩ first.fuel first with
        | none => none
        | some (block, after) =>
          let ending :=
            match chomping with
            | .strip => []
            | .clip => block.last.toList
            | .keep => block.last.toList ++ block.breaks
          some (block.text ++ ending, after)

/-! ## Anchors, tags and directives -/

/-- Reads the name of an anchor or an alias, after its indicator. -/
def readName (cursor : Cursor) : Option (List Char × Cursor) :=
  let (name, next) := cursor.takeWhile isNameChar
  let ends := next.separatorAt 0 ||
    next.peek.any ['?', ':', ',', ']', '\x7d', '%', '@', Char.ofNat 0x60].contains
  if name.isEmpty || !ends then none else some (name, next)

/-- The characters of a tag other than escapes. Only a tag in angle brackets may hold commas and
brackets. -/
def isTagChar (verbatim : Bool) (c : Char) : Bool :=
  isNameChar c || ";/?:@&=+$.!~*'()".toList.contains c || (verbatim && ",[]".toList.contains c)

/-- The byte that a percent sign and two digits write. -/
def percentByte? : List Char → Option UInt8
  | '%' :: a :: b :: _ => (natural? 16 [a, b]).map Nat.toUInt8
  | _ => none

/-- The number of bytes that follow a byte in the form of UTF-8. The byte may not be one that
follows another one itself. -/
def followingBytes? (lead : UInt8) : Option Nat :=
  if lead < 0x80 then some 0
  else if lead < 0xC0 then none
  else if lead < 0xE0 then some 1
  else if lead < 0xF0 then some 2
  else if lead < 0xF8 then some 3
  else none

/-- A byte that follows another one in the form of UTF-8. -/
def isFollowingByte (byte : UInt8) : Bool :=
  decide (0x80 ≤ byte) && decide (byte < 0xC0)

/-- Reads the bytes of a tag, where percent signs write bytes. These have the form of UTF-8, but
need not be the shortest form of a character. `pending` bytes are still to follow. -/
def readTagText (verbatim : Bool) (bytes : List UInt8) (pending : Nat) :
    Nat → Cursor → Option (List UInt8 × Cursor)
  | 0, _ => none
  | fuel + 1, cursor =>
    match percentByte? cursor.text with
    | some byte =>
      let next := cursor.advance 3
      if pending = 0 then
        match followingBytes? byte with
        | some pending => readTagText verbatim (bytes ++ [byte]) pending fuel next
        | none => none
      else if isFollowingByte byte then
        readTagText verbatim (bytes ++ [byte]) (pending - 1) fuel next
      else none
    | none =>
      if pending = 0 && !cursor.sees '%' then
        match cursor.peek with
        | some c =>
          if isTagChar verbatim c then
            readTagText verbatim (bytes ++ [c.toUInt8]) 0 fuel (cursor.advance 1)
          else some (bytes, cursor)
        | none => some (bytes, cursor)
      else none

/-- The bytes of a tag that count: those before the first zero. -/
def effectiveBytes (bytes : List UInt8) : List UInt8 :=
  bytes.takeWhile (· != 0)

/-- The bytes of ASCII characters. -/
def asciiBytes (text : List Char) : List UInt8 :=
  text.map Char.toUInt8

/-- Reads a tag, its exclamation mark included: its handle and its suffix. A tag in angle brackets
has no handle, and neither has the lone exclamation mark. -/
def readTag (cursor : Cursor) : Option (List Char × List UInt8 × Cursor) :=
  if cursor.text[1]? == some '<' then
    match readTagText true [] 0 cursor.fuel (cursor.advance 2) with
    | some (suffix, next) =>
      if suffix.isEmpty || !next.sees '>' then none
      else some ([], effectiveBytes suffix, next.advance 1)
    | none => none
  else
    let (name, next) := (cursor.advance 1).takeWhile isNameChar
    if next.sees '!' then
      match readTagText false [] 0 next.fuel (next.advance 1) with
      | some (suffix, next) =>
        if suffix.isEmpty then none
        else some ('!' :: name ++ ['!'], effectiveBytes suffix, next)
      | none => none
    else
      match readTagText false (asciiBytes name) 0 next.fuel next with
      | some (suffix, next) =>
        let suffix := effectiveBytes suffix
        if suffix.isEmpty then some ([], asciiBytes ['!'], next) else some (['!'], suffix, next)
      | none => none

/-- Passes over spaces and tabs. -/
def Cursor.skipBlanks (cursor : Cursor) : Cursor :=
  (cursor.takeWhile fun c => c == ' ' || c == '\t').2

/-- Reads a number of at most nine digits. -/
def readVersionNumber (cursor : Cursor) : Option (Nat × Cursor) :=
  let (digits, next) := cursor.takeWhile isDigit
  if digits.length ≤ 9 then (natural? 10 digits).map fun number => (number, next) else none

/-- Reads the value of a version directive. -/
def readVersion (cursor : Cursor) : Option (Token × Cursor) := do
  let (major, next) ← readVersionNumber cursor.skipBlanks
  if !next.sees '.' then none
  else
    let (minor, next) ← readVersionNumber (next.advance 1)
    return (.versionDirective major minor, next)

/-- Reads the handle of a tag directive. -/
def readHandle (cursor : Cursor) : Option (List Char × Cursor) :=
  if !cursor.sees '!' then none
  else
    let (name, next) := (cursor.advance 1).takeWhile isNameChar
    if next.sees '!' then some ('!' :: name ++ ['!'], next.advance 1)
    else if name.isEmpty then some (['!'], next)
    else none

/-- Reads the value of a tag directive. -/
def readTagDirective (cursor : Cursor) : Option (Token × Cursor) := do
  let (handle, next) ← readHandle cursor.skipBlanks
  if !next.seesBlank then none
  else
    let next := next.skipBlanks
    let (stem, next) ← readTagText true [] 0 next.fuel next
    if stem.isEmpty || !next.separatorAt 0 then none
    else return (.tagDirective handle (effectiveBytes stem), next)

/-- Reads a directive through the end of its line. -/
def readDirective (cursor : Cursor) : Option (Token × Cursor) := do
  let (name, next) := (cursor.advance 1).takeWhile isNameChar
  if name.isEmpty || !next.separatorAt 0 then none
  else
    let (token, next) ←
      if name == "YAML".toList then readVersion next
      else if name == "TAG".toList then readTagDirective next
      else none
    let next := next.skipBlanks
    let next := if next.sees '#' then next.skipLine else next
    if next.atLineEnd then return (token, (next.lineBreak?.map Prod.snd).getD next) else none

end UsageGrammar.Yaml
