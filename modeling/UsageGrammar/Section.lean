import UsageGrammar.Error
import UsageGrammar.Text.Blank
import UsageGrammar.Text.Lowercase

/-!
# Sections of a document

A section begins at a line that holds its label, in any mix of upper and lower case, and goes on
with the lines directly after it that are indented. The usage section reduces to one formal
expression, in which every further mention of the program starts a new alternative.
-/

namespace UsageGrammar

open Text

/-- A line that begins with a space or a tab. -/
def isIndented (line : List Char) : Bool :=
  match line with
  | [] => false
  | c :: _ => isSpaceOrTab c

/-- A text occurs in another one. -/
def occursIn (sought : List Char) : List Char → Bool
  | [] => sought.isEmpty
  | c :: text => sought.isPrefixOf (c :: text) || occursIn sought text

/-- The blocks of lines that a head opens and indented lines prolong. The flag says whether the
lines before belong to a block, whose indented lines open no block of their own. -/
def blocksAfter (isHead : List Char → Bool) : Bool → List (List Char) → List (List (List Char))
  | _, [] => []
  | inside, line :: rest =>
    if inside && isIndented line then blocksAfter isHead true rest
    else if isHead line then
      (line :: rest.takeWhile isIndented) :: blocksAfter isHead true rest
    else blocksAfter isHead false rest

/-- A line that holds a label, both lowercased. -/
def holdsLabel (label line : List Char) : Bool :=
  occursIn (lowercase label) (lowercase line)

/-- The text of a block of lines, without the blank characters around it. -/
def blockText (block : List (List Char)) : List Char :=
  trim (['\n'].intercalate block)

/-- The sections of a document that a label opens, as text. -/
def sectionsOf (label doc : String) : List String :=
  (blocksAfter (holdsLabel label.toList) false (lines doc.toList)).map fun block =>
    String.ofList (blockText block)

/-- The usage section, which has to be the only one. -/
def usageSection (doc : String) : Except GrammarError String :=
  match sectionsOf "usage:" doc with
  | [] => .error .missingUsage
  | [text] => .ok text
  | _ => .error .duplicateUsage

/-- What follows the first place where a label stands, in any mix of ASCII case. -/
def afterLabel? (label : List Char) : List Char → Option (List Char)
  | [] => if label.isEmpty then some [] else none
  | c :: text =>
    if (asciiLowercase label).isPrefixOf (asciiLowercase (c :: text)) then
      some ((c :: text).drop label.length)
    else afterLabel? label text

/-- What follows a label, or the whole text where the label is missing. -/
def afterLabel (label : String) (text : List Char) : List Char :=
  (afterLabel? label.toList text).getD text

/-- The expression that the text behind the label stands for. Its first word is the program; the
others form one group for each time that the program is named. -/
def expressionOf (body : List Char) : Except GrammarError String :=
  match (words body).map String.ofList with
  | [] => .error .emptyUsage
  | [_] => .ok "( )"
  | program :: rest =>
    let marked := rest.map fun word => if word = program then ") | (" else word
    .ok ("( " ++ " ".intercalate marked ++ " )")

/-- The expression that a usage section stands for. -/
def formalUsage (text : String) : Except GrammarError String :=
  expressionOf (afterLabel "usage:" text.toList)

end UsageGrammar
