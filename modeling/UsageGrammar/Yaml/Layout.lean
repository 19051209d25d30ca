import UsageGrammar.Data
import UsageGrammar.Yaml.Scalar

/-!
# Data as YAML

The block layout: each item and each entry begins a line, and an inner mapping is indented by two
spaces. A sequence is not indented under its key. What is empty stays on the line.
-/

namespace UsageGrammar.Data

open Yaml

/-- A node stands behind the colon of its key, or behind a mark of its own. -/
inductive Place where
  | key
  | mark
  deriving Repr, DecidableEq, Inhabited

namespace Place

/-- The indentation of the items of a sequence. -/
def itemIndent (indent : Nat) : Place → Nat
  | key => indent
  | mark => indent + 2

/-- What comes before the first line of an inner block: a line break behind a key, a space behind a
mark. -/
def enter (inner : Nat) : Place → List Char
  | key => '\n' :: margin inner
  | mark => [' ']

end Place

/-- A key up to its colon, and the place of its node. A key that does not fit on one line with its
node gets a mark of its own. -/
def yamlKey (indent : Nat) (key : String) : List Char × Place :=
  if fitsInlineKey key then (writeInlineKey key.toList ++ [':'], .key)
  else
    ('?' :: ' ' :: writeScalarLine (indent + 2) key.toList ++ margin indent ++ [':'], .mark)

mutual

/-- A node at its place in a block of the given indentation, with the line break that ends it. -/
def yamlNode (place : Place) (indent : Nat) : Data → List Char
  | null => " null\n".toList
  | bool truth => ' ' :: (jsonBool truth ++ ['\n'])
  | integer number => ' ' :: (jsonInteger number ++ ['\n'])
  | text word => ' ' :: writeScalarLine (indent + 2) word.toList
  | sequence [] => " []\n".toList
  | sequence (item :: items) =>
    let inner := place.itemIndent indent
    place.enter inner ++ '-' :: yamlNode .mark inner item ++ yamlItems inner items
  | mapping [] => " \x7b\x7d\n".toList
  | mapping ((key, item) :: entries) =>
    let inner := indent + 2
    place.enter inner ++ (yamlKey inner key).1 ++ yamlNode (yamlKey inner key).2 inner item ++
      yamlEntries inner entries

/-- Items on their lines. -/
def yamlItems (indent : Nat) : List Data → List Char
  | [] => []
  | item :: items => margin indent ++ '-' :: yamlNode .mark indent item ++ yamlItems indent items

/-- Entries on their lines. -/
def yamlEntries (indent : Nat) : List (String × Data) → List Char
  | [] => []
  | (key, item) :: entries =>
    margin indent ++ (yamlKey indent key).1 ++ yamlNode (yamlKey indent key).2 indent item ++
      yamlEntries indent entries

end

/-- Data as a YAML document. -/
def yaml : Data → List Char
  | sequence (item :: items) => yamlItems 0 (item :: items)
  | mapping (entry :: entries) => yamlEntries 0 (entry :: entries)
  | data => (yamlNode .mark 0 data).drop 1

/-- Data as a YAML document. -/
def toYaml (data : Data) : String :=
  String.ofList data.yaml

end UsageGrammar.Data
