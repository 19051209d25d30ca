import UsageGrammar.Text.Blank

/-!
# Words of a usage expression

Brackets, bars and ellipses are set apart first. After that a word is a run of characters that are
not blank, except that a placeholder `<…>` keeps the blanks that it holds, as long as it is closed
on the same line.
-/

namespace UsageGrammar.Expression

open Text

/-- The single characters that group words. -/
def isGrouping (c : Char) : Bool :=
  c == '[' || c == ']' || c == '(' || c == ')' || c == '|'

/-- Puts spaces around brackets, bars and ellipses. -/
def isolate : List Char → List Char
  | [] => []
  | '.' :: '.' :: '.' :: text => [' ', '.', '.', '.', ' '] ++ isolate text
  | c :: text => if isGrouping c then [' ', c, ' '] ++ isolate text else c :: isolate text

/-- The rest of a placeholder through its closing bracket, and the text after it. -/
def closePlaceholder? : List Char → Option (List Char × List Char)
  | [] => none
  | c :: text =>
    if c = '\n' then none
    else if c = '>' then some (['>'], text)
    else (closePlaceholder? text).map fun (inner, rest) => (c :: inner, rest)

/-- A word that ends with a placeholder, and the text after it. Of several opening brackets that
could begin the placeholder, the last one before a blank does. -/
def placeholderWord? : List Char → Option (List Char × List Char)
  | [] => none
  | c :: text =>
    if isBlank c then none
    else
      match placeholderWord? text with
      | some (word, rest) => some (c :: word, rest)
      | none =>
        if c = '<' then (closePlaceholder? text).map fun (inner, rest) => (c :: inner, rest)
        else none

/-- The first word of a text that does not start with a blank, and the text after it. -/
def firstWord (text : List Char) : List Char × List Char :=
  (placeholderWord? text).getD
    (text.takeWhile fun c => !isBlank c, text.dropWhile fun c => !isBlank c)

theorem closePlaceholder?_append {text inner rest : List Char}
    (closed : closePlaceholder? text = some (inner, rest)) : inner ++ rest = text := by
  induction text generalizing inner rest with
  | nil => simp [closePlaceholder?] at closed
  | cons c text ih =>
    simp only [closePlaceholder?] at closed
    split at closed
    · simp at closed
    · split at closed
      · next bracket =>
        obtain ⟨rfl, rfl⟩ := Prod.mk.inj (Option.some.inj closed)
        simp [bracket]
      · obtain ⟨⟨inner', rest'⟩, closed', same⟩ := Option.map_eq_some_iff.1 closed
        obtain ⟨rfl, rfl⟩ := Prod.mk.inj same
        simp [ih closed']

theorem placeholderWord?_append {text word rest : List Char}
    (found : placeholderWord? text = some (word, rest)) : word ++ rest = text ∧ word ≠ [] := by
  induction text generalizing word rest with
  | nil => simp [placeholderWord?] at found
  | cons c text ih =>
    simp only [placeholderWord?] at found
    split at found
    · simp at found
    · split at found
      · next later =>
        obtain ⟨rfl, rfl⟩ := Prod.mk.inj (Option.some.inj found)
        simp [(ih later).1]
      · split at found
        · obtain ⟨⟨inner, rest'⟩, closed, same⟩ := Option.map_eq_some_iff.1 found
          obtain ⟨rfl, rfl⟩ := Prod.mk.inj same
          simp [closePlaceholder?_append closed]
        · simp at found

/-- A first word loses nothing: with the text after it, it is the whole text. -/
theorem firstWord_append (text : List Char) : (firstWord text).1 ++ (firstWord text).2 = text := by
  rw [firstWord]
  cases found : placeholderWord? text with
  | none => simp
  | some split => exact (placeholderWord?_append found).1

theorem firstWord_ne_nil {c : Char} (visible : isBlank c = false) (text : List Char) :
    (firstWord (c :: text)).1 ≠ [] := by
  rw [firstWord]
  cases found : placeholderWord? (c :: text) with
  | none => simp [visible]
  | some split => exact (placeholderWord?_append found).2

theorem firstWord_rest_length {c : Char} {text : List Char} (visible : isBlank c = false) :
    (firstWord (c :: text)).2.length < (c :: text).length := by
  have whole := congrArg List.length (firstWord_append (c :: text))
  have some_word := List.length_pos_iff.2 (firstWord_ne_nil visible text)
  simp only [List.length_append] at whole
  omega

/-- The words of a text in which brackets, bars and ellipses stand apart. -/
def splitWords : List Char → List (List Char)
  | [] => []
  | c :: text =>
    if _blank : isBlank c then splitWords text
    else (firstWord (c :: text)).1 :: splitWords (firstWord (c :: text)).2
termination_by text => text.length
decreasing_by
  · simp
  · exact firstWord_rest_length (by simpa using _blank)

/-- The words of a usage expression. -/
def wordsOf (expression : String) : List String :=
  (splitWords (isolate expression.toList)).map String.ofList

end UsageGrammar.Expression
