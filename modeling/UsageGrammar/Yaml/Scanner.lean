import UsageGrammar.Yaml.Token

/-!
# Structure from indentation

A scanner turns text into tokens. Columns open and close blocks, and a colon turns the token before
it into a key, so the places where a key may have begun are kept: one for the block and one for
each open flow collection.
-/

namespace UsageGrammar.Yaml

/-- A place where a key on one line may have begun. -/
structure KeyPlace where
  /-- The number of tokens before it. -/
  position : Nat
  /-- The indentation demands a key here. -/
  required : Bool
  index : Nat
  line : Nat
  column : Nat
  deriving Repr, DecidableEq, Inhabited

/-- A text that is scanned up to a place. -/
structure Scanner where
  cursor : Cursor
  tokens : List Token
  /-- The column of the innermost block, below zero outside of all blocks. -/
  indent : Int
  /-- The columns of the blocks around it. -/
  outerIndents : List Int
  /-- A key on one line may begin at the next token. -/
  allowsKey : Bool
  /-- The possible key of the innermost collection. -/
  keyPlace : Option KeyPlace
  /-- The possible keys of the collections around it, one for each open flow collection. -/
  outerKeyPlaces : List (Option KeyPlace)
  deriving Repr, DecidableEq, Inhabited

/-- The character that tells an encoding. It may stand at the start of any line. -/
def byteOrderMark : Char :=
  Char.ofNat 0xFEFF

namespace Scanner

/-- Nothing is scanned. -/
def start (text : List Char) : Scanner :=
  ⟨Cursor.start text, [], -1, [], true, none, []⟩

/-- A flow collection is open. -/
def inFlow (scanner : Scanner) : Bool :=
  !scanner.outerKeyPlaces.isEmpty

/-- Adds a token at the end. -/
def emit (scanner : Scanner) (token : Token) : Scanner :=
  { scanner with tokens := scanner.tokens ++ [token] }

/-- Moves to another place. -/
def moveTo (scanner : Scanner) (cursor : Cursor) : Scanner :=
  { scanner with cursor }

/-- Says whether a key may begin at the next token. -/
def allowKey (scanner : Scanner) (allows : Bool) : Scanner :=
  { scanner with allowsKey := allows }

/-- Gives up the possible key. It is an error if a key is required there. -/
def dropKey? (scanner : Scanner) : Option Scanner :=
  if scanner.keyPlace.any KeyPlace.required then none else some { scanner with keyPlace := none }

/-- A key has to stay on one line and within 1024 bytes. -/
def isStale (cursor : Cursor) (place : KeyPlace) : Bool :=
  decide (place.line < cursor.line) || decide (place.index + 1024 < cursor.index)

/-- The possible keys that are still within reach. It is an error to lose a required one. -/
def freshen? (cursor : Cursor) : Option KeyPlace → Option (Option KeyPlace)
  | none => some none
  | some place =>
    if isStale cursor place then (if place.required then none else some none)
    else some (some place)

/-- Gives up all possible keys that are out of reach. -/
def dropStaleKeys? (scanner : Scanner) : Option Scanner := do
  let keyPlace ← freshen? scanner.cursor scanner.keyPlace
  let outerKeyPlaces ← scanner.outerKeyPlaces.mapM (freshen? scanner.cursor)
  return { scanner with keyPlace, outerKeyPlaces }

/-- Notes that a key may begin here, if one is allowed. -/
def saveKey? (scanner : Scanner) : Option Scanner :=
  if scanner.allowsKey then
    let cursor := scanner.cursor
    let required := !scanner.inFlow && scanner.indent == (cursor.column : Int)
    let place : KeyPlace :=
      ⟨scanner.tokens.length, required, cursor.index, cursor.line, cursor.column⟩
    scanner.dropKey?.map fun scanner => { scanner with keyPlace := some place }
  else some scanner

/-- Opens a block at a column that is deeper than the innermost one. Its token goes to the given
position. Flow collections have no blocks. -/
def openBlock (scanner : Scanner) (column position : Nat) (token : Token) : Scanner :=
  if !scanner.inFlow && decide (scanner.indent < (column : Int)) then
    { scanner with
      indent := column
      outerIndents := scanner.indent :: scanner.outerIndents
      tokens := scanner.tokens.take position ++ token :: scanner.tokens.drop position }
  else scanner

/-- The columns that stay open at a column, and the number of those that do not. -/
def closeIndents (column : Int) (indent : Int) : List Int → Nat × Int × List Int
  | [] => (0, indent, [])
  | outer :: outers =>
    if column < indent then
      let (count, rest) := closeIndents column outer outers
      (count + 1, rest)
    else (0, indent, outer :: outers)

/-- Closes the blocks that are deeper than a column. -/
def closeBlocks (scanner : Scanner) (column : Int) : Scanner :=
  if scanner.inFlow then scanner
  else
    let (count, indent, outerIndents) := closeIndents column scanner.indent scanner.outerIndents
    { scanner with
      indent, outerIndents
      tokens := scanner.tokens ++ List.replicate count .blockEnd }

/-- Passes over blanks, comments and line breaks, and over a byte order mark at the start of a
line, which takes up a column. Outside of flow collections a key may begin after a line break, and a
tab may not stand where a key may begin. -/
def skipToToken (scanner : Scanner) : Nat → Scanner
  | 0 => scanner
  | fuel + 1 =>
    let tabs := scanner.inFlow || !scanner.allowsKey
    let cursor := scanner.cursor
    let cursor :=
      if cursor.column == 0 && cursor.sees byteOrderMark then cursor.advance 1 else cursor
    let (_, cursor) := cursor.takeWhile fun c => c == ' ' || (tabs && c == '\t')
    let cursor := if cursor.sees '#' then cursor.skipLine else cursor
    match cursor.lineBreak? with
    | some (_, next) =>
      skipToToken ((scanner.moveTo next).allowKey (scanner.allowsKey || !scanner.inFlow)) fuel
    | none => scanner.moveTo cursor

/-- Reads a mark that ends all blocks. -/
def fetchDocumentMark? (scanner : Scanner) (token : Token) : Option Scanner :=
  (scanner.closeBlocks (-1)).dropKey?.map fun scanner =>
    ((scanner.allowKey false).emit token).moveTo (scanner.cursor.advance 3)

/-- Reads a directive. -/
def fetchDirective? (scanner : Scanner) : Option Scanner := do
  let scanner ← (scanner.closeBlocks (-1)).dropKey?
  let (token, cursor) ← readDirective scanner.cursor
  return ((scanner.allowKey false).emit token).moveTo cursor

/-- Reads the opening bracket of a flow collection, which may itself be a key. -/
def fetchFlowStart? (scanner : Scanner) (token : Token) : Option Scanner :=
  scanner.saveKey?.map fun scanner =>
    { (scanner.emit token).moveTo (scanner.cursor.advance 1) with
      allowsKey := true
      keyPlace := none
      outerKeyPlaces := scanner.keyPlace :: scanner.outerKeyPlaces }

/-- Reads the closing bracket of a flow collection. -/
def fetchFlowEnd? (scanner : Scanner) (token : Token) : Option Scanner :=
  scanner.dropKey?.map fun scanner =>
    let scanner := ((scanner.emit token).moveTo (scanner.cursor.advance 1)).allowKey false
    match scanner.outerKeyPlaces with
    | [] => scanner
    | outer :: outers => { scanner with keyPlace := outer, outerKeyPlaces := outers }

/-- Reads the comma of a flow collection. -/
def fetchFlowEntry? (scanner : Scanner) : Option Scanner :=
  scanner.dropKey?.map fun scanner =>
    ((scanner.emit .flowEntry).moveTo (scanner.cursor.advance 1)).allowKey true

/-- Opens a block here for an indicator, where a key may begin. -/
def enterBlock? (scanner : Scanner) (token : Token) : Option Scanner :=
  if scanner.inFlow then some scanner
  else if scanner.allowsKey then
    some (scanner.openBlock scanner.cursor.column scanner.tokens.length token)
  else none

/-- Reads the dash of an item. -/
def fetchBlockEntry? (scanner : Scanner) : Option Scanner := do
  let scanner ← (← scanner.enterBlock? .blockSequenceStart).dropKey?
  return ((scanner.emit .blockEntry).moveTo (scanner.cursor.advance 1)).allowKey true

/-- Reads the question mark of a key. -/
def fetchKey? (scanner : Scanner) : Option Scanner := do
  let scanner ← (← scanner.enterBlock? .blockMappingStart).dropKey?
  return ((scanner.emit .key).moveTo (scanner.cursor.advance 1)).allowKey (!scanner.inFlow)

/-- Reads the colon of a value. Where a key may have begun, it did. -/
def fetchValue? (scanner : Scanner) : Option Scanner := do
  let scanner ←
    match scanner.keyPlace with
    | some place =>
      let tokens :=
        scanner.tokens.take place.position ++ .key :: scanner.tokens.drop place.position
      let keyed := { scanner with tokens, keyPlace := none }
      pure ((keyed.openBlock place.column place.position .blockMappingStart).allowKey false)
    | none =>
      let entered ← scanner.enterBlock? .blockMappingStart
      pure (entered.allowKey (!scanner.inFlow))
  return (scanner.emit .value).moveTo (scanner.cursor.advance 1)

/-- Reads an alias or an anchor. -/
def fetchName? (scanner : Scanner) (token : List Char → Token) : Option Scanner := do
  let scanner ← scanner.saveKey?
  let (name, cursor) ← readName (scanner.cursor.advance 1)
  return ((scanner.emit (token name)).moveTo cursor).allowKey false

/-- Reads a tag, which ends at a blank or, in a flow collection, at a comma. -/
def fetchTag? (scanner : Scanner) : Option Scanner := do
  let scanner ← scanner.saveKey?
  let (handle, suffix, cursor) ← readTag scanner.cursor
  if (scanner.inFlow && cursor.sees ',') || cursor.separatorAt 0 then
    return ((scanner.emit (.tag handle suffix)).moveTo cursor).allowKey false
  else none

/-- Reads a literal or folded block scalar. -/
def fetchBlockScalar? (scanner : Scanner) (literal : Bool) : Option Scanner := do
  let scanner ← scanner.dropKey?
  let (text, cursor) ← readBlockScalar literal scanner.indent scanner.cursor
  let token := .scalar (if literal then .literal else .folded) text
  return ((scanner.emit token).moveTo cursor).allowKey true

/-- Reads a quoted scalar. -/
def fetchQuoted? (scanner : Scanner) (single : Bool) : Option Scanner := do
  let scanner ← scanner.saveKey?
  let first := scanner.cursor.advance 1
  let (text, cursor) ← readQuoted single [] first.fuel first
  return ((scanner.emit (.scalar .quoted text)).moveTo cursor).allowKey false

/-- Reads a plain scalar. A key may begin after it if a line break follows. -/
def fetchPlain? (scanner : Scanner) : Option Scanner := do
  let scanner ← scanner.saveKey?
  let cursor := scanner.cursor
  let (text, lineEnds, next) ←
    readPlain scanner.inFlow (scanner.indent + 1) [] .inLine cursor.fuel cursor
  return ((scanner.emit (.scalar .plain text)).moveTo next).allowKey lineEnds

/-- A plain scalar may begin here. Of the indicators only the dash may begin one, and the question
mark and the colon outside of flow collections, with a visible character after it. -/
def beginsPlain (scanner : Scanner) (c : Char) : Bool :=
  let cursor := scanner.cursor
  if c == '-' then !(cursor.advance 1).seesBlank
  else if c == '?' || c == ':' then !scanner.inFlow && !cursor.separatorAt 1
  else !startsIndicator c && !isSeparator (some c)

/-- Reads the token that begins with a character. -/
def fetchFrom? (scanner : Scanner) (c : Char) : Option Scanner :=
  let cursor := scanner.cursor
  if cursor.column == 0 && c == '%' then scanner.fetchDirective?
  else if cursor.seesMark "---" then scanner.fetchDocumentMark? .documentStart
  else if cursor.seesMark "..." then scanner.fetchDocumentMark? .documentEnd
  else if c == '[' then scanner.fetchFlowStart? .flowSequenceStart
  else if c == '\x7b' then scanner.fetchFlowStart? .flowMappingStart
  else if c == ']' then scanner.fetchFlowEnd? .flowSequenceEnd
  else if c == '\x7d' then scanner.fetchFlowEnd? .flowMappingEnd
  else if c == ',' then scanner.fetchFlowEntry?
  else if c == '-' && cursor.separatorAt 1 then scanner.fetchBlockEntry?
  else if c == '?' && (scanner.inFlow || cursor.separatorAt 1) then scanner.fetchKey?
  else if c == ':' && (scanner.inFlow || cursor.separatorAt 1) then scanner.fetchValue?
  else if c == '*' then scanner.fetchName? .alias
  else if c == '&' then scanner.fetchName? .anchor
  else if c == '!' then scanner.fetchTag?
  else if c == '|' && !scanner.inFlow then scanner.fetchBlockScalar? true
  else if c == '>' && !scanner.inFlow then scanner.fetchBlockScalar? false
  else if c == '\'' then scanner.fetchQuoted? true
  else if c == '"' then scanner.fetchQuoted? false
  else if scanner.beginsPlain c then scanner.fetchPlain?
  else none

/-- Scans to the end. -/
def finish? (scanner : Scanner) : Nat → Option (List Token)
  | 0 => none
  | fuel + 1 => do
    let scanner ← (scanner.skipToToken scanner.cursor.fuel).dropStaleKeys?
    let scanner := scanner.closeBlocks scanner.cursor.column
    match scanner.cursor.peek with
    | none => return (← (scanner.closeBlocks (-1)).dropKey?).tokens
    | some c => finish? (← scanner.fetchFrom? c) fuel

end Scanner

/-- The characters that may stand in YAML text. -/
def isAllowed (c : Char) : Bool :=
  let code := c.toNat
  c == '\t' || c == '\n' || c == '\r' || (decide (0x20 ≤ code) && decide (code ≤ 0x7E)) ||
    code == 0x85 || (decide (0xA0 ≤ code) && code != 0xFFFE && code != 0xFFFF)

/-- The tokens of a text. -/
def tokens? (text : List Char) : Option (List Token) :=
  if text.all isAllowed then (Scanner.start text).finish? (text.length + 1)
  else none

end UsageGrammar.Yaml
