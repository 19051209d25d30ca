import UsageGrammar.Yaml.Scanner

/-!
# Nodes of YAML

Tokens are read as a tree of scalars, sequences, mappings and aliases. An anchor has a number, which
is the number of different names that were given before it. When a name is given again, a later name
can come to the same number; an alias then stands for the last node with the number of its name.
-/

namespace UsageGrammar.Yaml

/-- A node of a document. -/
inductive Node where
  /-- A scalar with its tag written out. -/
  | scalar (tag : Option (List UInt8)) (presentation : Presentation) (text : List Char)
  | sequence (items : List Node)
  | mapping (entries : List (Node × Node))
  /-- An alias with the number of its name. -/
  | alias (number : Nat)
  deriving Repr, Inhabited

/-- A scalar that is not written. -/
def Node.missing : Node :=
  .scalar none .plain []

/-- The tokens to read, with the names and the tag handles known so far. -/
structure NodeSource where
  tokens : List Token
  /-- The number of each name. -/
  numbers : List (List Char × Nat)
  /-- The nodes that have a number, the last one first; none for a sequence or a mapping. -/
  anchored : List (Nat × Option Node)
  handles : List (List Char × List UInt8)
  deriving Inhabited

/-- Reads a part of the tokens, or fails. -/
abbrev NodeReader := StateT NodeSource Option

namespace NodeReader

/-- The next token. -/
def peek : NodeReader (Option Token) := do
  return (← get).tokens.head?

/-- Passes over the next token. -/
def skip : NodeReader Unit :=
  modify fun source => { source with tokens := source.tokens.tail }

/-- The next token is one of the given ones, or there is none. -/
def seesAny (tokens : List Token) : NodeReader Bool := do
  return (← peek).all tokens.contains

/-- Gives a scalar a name, or a sequence or a mapping that is about to be read. -/
def define (name : Option (List Char)) (scalar : Option Node) : NodeReader Unit :=
  modify fun source =>
    match name with
    | some name =>
      let number := source.numbers.length
      { source with
        numbers := (name, number) :: source.numbers.filter (·.1 != name)
        anchored := (number, scalar) :: source.anchored }
    | none => source

/-- The tag that a handle and a suffix stand for. The handle has to be known. -/
def expandTag (handle : List Char) (suffix : List UInt8) : NodeReader (List UInt8) := do
  if handle.isEmpty then return suffix
  let some stem := (← get).handles.lookup handle | failure
  return stem ++ suffix

/-- Reads an anchor and a tag, in either order. -/
def readProperties : NodeReader (Option (List Char) × Option (List UInt8)) := do
  match ← peek with
  | some (.anchor name) =>
    skip
    match ← peek with
    | some (.tag handle suffix) =>
      skip
      return (some name, some (← expandTag handle suffix))
    | _ => return (some name, none)
  | some (.tag handle suffix) =>
    skip
    match ← peek with
    | some (.anchor name) =>
      skip
      return (some name, some (← expandTag handle suffix))
    | _ => return (none, some (← expandTag handle suffix))
  | _ => return (none, none)

/-- A scalar with its properties. -/
def scalarNode (name : Option (List Char)) (tag : Option (List UInt8))
    (presentation : Presentation) (text : List Char) : NodeReader Node := do
  let node := Node.scalar tag presentation text
  define name (some node)
  return node

mutual

/-- Reads a node. Only in a block may it be a block, and only as the value or key of a mapping a
sequence that is not indented. -/
def readNode (inBlock indentless : Bool) : Nat → NodeReader Node
  | 0 => failure
  | fuel + 1 => do
    if let some (.alias name) ← peek then
      skip
      let some number := (← get).numbers.lookup name | failure
      return .alias number
    let (name, tag) ← readProperties
    match ← peek with
    | some (.scalar presentation text) =>
      skip
      scalarNode name tag presentation text
    | some .flowSequenceStart =>
      skip
      define name none
      return .sequence (← readFlowItems true fuel)
    | some .flowMappingStart =>
      skip
      define name none
      return .mapping (← readFlowEntries true fuel)
    | some .blockSequenceStart =>
      if !inBlock then failure
      skip
      define name none
      return .sequence (← readBlockItems fuel)
    | some .blockMappingStart =>
      if !inBlock then failure
      skip
      define name none
      return .mapping (← readBlockEntries fuel)
    | token =>
      if indentless && token == some .blockEntry then
        define name none
        return .sequence (← readIndentlessItems fuel)
      else if name.isSome || tag.isSome then scalarNode name tag .plain []
      else failure

/-- Reads a node, unless one of the given tokens or the end comes next. -/
def readNodeUnless (stops : List Token) (inBlock indentless : Bool) : Nat → NodeReader Node
  | 0 => failure
  | fuel + 1 => do
    if ← seesAny stops then return .missing else readNode inBlock indentless fuel

/-- Reads the items of an indented sequence. -/
def readBlockItems : Nat → NodeReader (List Node)
  | 0 => failure
  | fuel + 1 => do
    match ← peek with
    | some .blockEntry =>
      skip
      let item ← readNodeUnless [.blockEntry, .blockEnd] true false fuel
      return item :: (← readBlockItems fuel)
    | some .blockEnd =>
      skip
      return []
    | _ => failure

/-- Reads the items of a sequence that is not indented. -/
def readIndentlessItems : Nat → NodeReader (List Node)
  | 0 => failure
  | fuel + 1 => do
    match ← peek with
    | some .blockEntry =>
      skip
      let item ← readNodeUnless [.blockEntry, .key, .value, .blockEnd] true false fuel
      return item :: (← readIndentlessItems fuel)
    | _ => return []

/-- Reads the entries of a block mapping. -/
def readBlockEntries : Nat → NodeReader (List (Node × Node))
  | 0 => failure
  | fuel + 1 => do
    match ← peek with
    | some .key =>
      skip
      let key ← readNodeUnless [.key, .value, .blockEnd] true true fuel
      let value ← readBlockValue fuel
      return (key, value) :: (← readBlockEntries fuel)
    | some .blockEnd =>
      skip
      return []
    | _ => failure

/-- Reads the value of a block mapping, which may be missing. -/
def readBlockValue : Nat → NodeReader Node
  | 0 => failure
  | fuel + 1 => do
    if (← peek) == some .value then
      skip
      readNodeUnless [.key, .value, .blockEnd] true true fuel
    else return .missing

/-- Reads the items of a flow sequence. An item may be a mapping of one entry without braces. -/
def readFlowItems (isFirst : Bool) : Nat → NodeReader (List Node)
  | 0 => failure
  | fuel + 1 => do
    if (← peek) == some .flowSequenceEnd then
      skip
      return []
    if !isFirst then
      if (← peek) != some .flowEntry then failure
      skip
    match ← peek with
    | some .flowSequenceEnd =>
      skip
      return []
    | some .key =>
      skip
      let entry ← readFlowPair fuel
      return .mapping [entry] :: (← readFlowItems false fuel)
    | _ =>
      let item ← readNode false false fuel
      return item :: (← readFlowItems false fuel)

/-- Reads an entry that is an item of a flow sequence. A token that cannot begin its key is passed
over with the key. -/
def readFlowPair : Nat → NodeReader (Node × Node)
  | 0 => failure
  | fuel + 1 => do
    let stops := [Token.value, .flowEntry, .flowSequenceEnd]
    let key ←
      if ← seesAny stops then
        skip
        pure Node.missing
      else readNode false false fuel
    if (← peek) == some .value then
      skip
      return (key, ← readNodeUnless [.flowEntry, .flowSequenceEnd] false false fuel)
    else return (key, .missing)

/-- Reads the entries of a flow mapping, in which a key may stand alone. -/
def readFlowEntries (isFirst : Bool) : Nat → NodeReader (List (Node × Node))
  | 0 => failure
  | fuel + 1 => do
    if (← peek) == some .flowMappingEnd then
      skip
      return []
    if !isFirst then
      if (← peek) != some .flowEntry then failure
      skip
    match ← peek with
    | some .flowMappingEnd =>
      skip
      return []
    | some .key =>
      skip
      let key ← readNodeUnless [.value, .flowEntry, .flowMappingEnd] false false fuel
      let value ←
        if (← peek) == some .value then
          skip
          readNodeUnless [.flowEntry, .flowMappingEnd] false false fuel
        else pure .missing
      return (key, value) :: (← readFlowEntries false fuel)
    | _ =>
      let key ← readNode false false fuel
      return (key, .missing) :: (← readFlowEntries false fuel)

end

/-- Reads the directives before a document. There is at most one version, 1.1 or 1.2, and one tag
directive for each handle. -/
def readDirectives (versioned : Bool) (handles : List (List Char × List UInt8)) :
    List Token → Option (List (List Char × List UInt8) × List Token)
  | .versionDirective major minor :: rest =>
    if versioned || major != 1 || (minor != 1 && minor != 2) then none
    else readDirectives true handles rest
  | .tagDirective handle stem :: rest =>
    if (handles.lookup handle).isSome then none
    else readDirectives versioned ((handle, stem) :: handles) rest
  | rest => some (handles, rest)

/-- The handles that need no directive. -/
def standardHandles : List (List Char × List UInt8) :=
  [(['!'], asciiBytes ['!']), ("!!".toList, asciiBytes "tag:yaml.org,2002:".toList)]

/-- Reads the content of a document after the mark at its start. -/
def readContent (fuel : Nat) : NodeReader Node := do
  match ← peek with
  | none | some (.versionDirective _ _) | some (.tagDirective _ _) | some .documentStart
  | some .documentEnd => return .missing
  | _ => readNode true false fuel

end NodeReader

/-- What a text holds: a node, and what the numbers of its aliases stand for. -/
structure Document where
  root : Node
  anchored : List (Nat × Option Node)

/-- The scalar that an alias stands for, where it does. Any other node stands for itself. -/
def Document.target (document : Document) : Node → Node
  | .alias number => ((document.anchored.lookup number).join).getD (.alias number)
  | node => node

/-- The only document of a text. There may be none, and it is an error if there are more. -/
def document? (text : List Char) : Option (Option Document) := do
  let tokens ← tokens? text
  if tokens.isEmpty then return none
  let (handles, rest) ← NodeReader.readDirectives false [] tokens
  let fuel := 4 * (tokens.length + 1)
  let source : NodeSource := ⟨rest, [], [], handles ++ NodeReader.standardHandles⟩
  let (node, after) ←
    match rest with
    | .documentStart :: rest =>
      (NodeReader.readContent fuel).run { source with tokens := rest }
    | _ =>
      if rest.length < tokens.length then none
      else (NodeReader.readNode true false fuel).run source
  if (after.tokens.dropWhile (· == .documentEnd)).isEmpty then return some ⟨node, after.anchored⟩
  else none

end UsageGrammar.Yaml
