import UsageGrammar.Proofs.TextLines
import UsageGrammar.Proofs.WrittenNumbers
import UsageGrammar.Value
import Mathlib.Data.List.Basic

/-!
# Rendered values

A value is told by its rendering, whatever its texts hold. The first character gives the shape. A
quoted text is read back character by character, up to the first quote that is not escaped, so a
text in a list cannot run into the next one. No rendering holds a line break.
-/

namespace UsageGrammar

namespace Text.Quoted

variable {c : Char} {text other rest rest' : List Char}

/-- The character that a mark behind a backslash stands for. -/
def unmarked (mark : Char) : Char :=
  if mark = '0' then Char.ofNat 0
  else if mark = 't' then '\t'
  else if mark = 'r' then '\r'
  else if mark = 'n' then '\n'
  else mark

/-- Reads one character from its written form. -/
def readChar? : List Char → Option (Char × List Char)
  | [] => none
  | '\\' :: 'u' :: '\x7b' :: text =>
    (natural? 16 (text.takeWhile (· ≠ '\x7d'))).map fun code =>
      (Char.ofNat code, (text.dropWhile (· ≠ '\x7d')).tail)
  | '\\' :: mark :: text => some (unmarked mark, text)
  | c :: text => some (c, text)

theorem ne_of_mem_hexadecimal {n : Nat} (member : c ∈ hexadecimal n) : c ≠ '\x7d' ∧ c ≠ '\n' := by
  have digits : ∀ digit < 16, Nat.digitChar digit ≠ '\x7d' ∧ Nat.digitChar digit ≠ '\n' := by
    decide
  obtain ⟨digit, below, rfl⟩ := exists_digit_of_mem_toDigits (by decide) member
  exact digits digit below

/-- A character is read back from its written form, whatever follows. -/
theorem readChar?_escape (c : Char) (rest : List Char) :
    readChar? (escape c ++ rest) = some (c, rest) := by
  unfold escape
  split_ifs with null tab carriage newline backslash quote hidden
  iterate 6
    · subst c
      rfl
  · have digits : ∀ d ∈ hexadecimal c.toNat, decide (d ≠ '\x7d') = true := fun d member =>
      decide_eq_true (ne_of_mem_hexadecimal member).1
    simp only [List.append_assoc, List.cons_append, List.nil_append, readChar?]
    rw [List.takeWhile_append_of_pos digits, List.dropWhile_append_of_pos digits]
    simp [hexadecimal, natural?_toDigits]
  · simp [readChar?, backslash]

/-- What follows a written character is not mistaken for a part of it. -/
theorem escape_append_inj {d : Char} (same : escape c ++ rest = escape d ++ rest') :
    c = d ∧ rest = rest' := by
  have read := readChar?_escape c rest
  rw [same, readChar?_escape] at read
  obtain ⟨rfl, rfl⟩ := Prod.mk.inj (Option.some.inj read)
  exact ⟨rfl, rfl⟩

theorem quote_cons_ne_escape_append : '"' :: rest ≠ escape c ++ rest' := by
  intro same
  have read := readChar?_escape c rest'
  rw [← same] at read
  obtain ⟨rfl, -⟩ := Prod.mk.inj (Option.some.inj read)
  cases same

theorem encode_append_inj (same : encode text ++ rest = encode other ++ rest') :
    text = other ∧ rest = rest' := by
  simp only [encode, List.cons_append, List.cons.injEq, true_and, List.append_assoc,
    List.nil_append] at same
  induction text generalizing other with
  | nil =>
      cases other with
      | nil => exact ⟨rfl, (List.cons.inj same).2⟩
      | cons d other => exact absurd (by simpa using same) quote_cons_ne_escape_append
  | cons c text ih =>
      cases other with
      | nil => exact absurd (by simpa using same.symm) quote_cons_ne_escape_append
      | cons d other =>
          simp only [List.flatMap_cons, List.append_assoc] at same
          obtain ⟨rfl, later⟩ := escape_append_inj same
          obtain ⟨rfl, rfl⟩ := ih later
          exact ⟨rfl, rfl⟩

theorem quote_injective : Function.Injective quote := by
  intro first second same
  have encoded : encode first.toList = encode second.toList := String.ofList_injective same
  exact String.toList_inj.mp (encode_append_inj (congrArg (· ++ []) encoded)).1

theorem newline_notMem_escape (c : Char) : '\n' ∉ escape c := by
  unfold escape
  split_ifs with null tab carriage newline backslash quote hidden
  iterate 6
    · decide
  · have digits : '\n' ∉ hexadecimal c.toNat := fun member => (ne_of_mem_hexadecimal member).2 rfl
    simpa using digits
  · simpa using Ne.symm newline

theorem newline_notMem_encode (text : List Char) : '\n' ∉ encode text := by
  simp [encode, newline_notMem_escape]

end Text.Quoted

namespace Value

open Text.Quoted

variable {items others : List String}

/-- The first character of a rendering, where one digit stands for all. -/
def shape : Value → Char
  | null => 'n'
  | bool true => 't'
  | bool false => 'f'
  | count _ => '0'
  | text _ => '"'
  | list _ => '['

/-- The shape that a first character tells. -/
def shapeOf (c : Char) : Char :=
  if Text.isDigit c then '0' else c

/-- The texts of a list behind the first, each after a comma. -/
def furtherTexts (items : List String) : List Char :=
  items.flatMap fun item => ',' :: ' ' :: encode item.toList

theorem toList_render_list (first : String) (items : List String) :
    (list (first :: items)).render.toList =
      '[' :: (encode first.toList ++ (furtherTexts items ++ [']'])) := by
  simp only [render, String.toList_append, String.toList_intercalate, List.map_cons,
    Text.intercalate_cons]
  simp [furtherTexts, quote, List.flatMap_map]

theorem map_shapeOf_head?_render (value : Value) :
    value.render.toList.head?.map shapeOf = some value.shape := by
  cases value with
  | null => rfl
  | bool truth => cases truth <;> rfl
  | count occurrences =>
      obtain ⟨first, rest, digits, digit⟩ := Text.exists_digit_cons_toDigits occurrences
      rw [render, Nat.toList_repr, digits, List.head?_cons, Option.map_some, shapeOf, if_pos digit,
        shape]
  | text word => simp [render, quote, encode, shapeOf, shape, Text.isDigit]
  | list items =>
      cases items with
      | nil => rfl
      | cons first items => rw [toList_render_list]; rfl

theorem shape_eq_of_render_eq {first second : Value} (same : first.render = second.render) :
    first.shape = second.shape := by
  have shapes := map_shapeOf_head?_render first
  rw [same, map_shapeOf_head?_render] at shapes
  exact (Option.some.inj shapes).symm

theorem eq_of_render_count_eq {n m : Nat} (same : (count n).render = (count m).render) : n = m := by
  have digits := congrArg String.toList same
  rw [render, render, Nat.toList_repr, Nat.toList_repr] at digits
  exact Text.toDigits_injective (by decide) (by decide) digits

/-- A bracket ends a list, since the texts of the list stand behind commas and inside quotes. -/
theorem furtherTexts_inj (same : furtherTexts items ++ [']'] = furtherTexts others ++ [']']) :
    items = others := by
  induction items generalizing others with
  | nil =>
      cases others with
      | nil => rfl
      | cons other others => cases (List.cons.inj same).1
  | cons item items ih =>
      cases others with
      | nil => cases (List.cons.inj same).1
      | cons other others =>
          simp only [furtherTexts, List.flatMap_cons, List.cons_append, List.append_assoc,
            List.cons.injEq, true_and] at same
          obtain ⟨texts, later⟩ := encode_append_inj same
          rw [String.toList_inj.mp texts, ih later]

theorem eq_of_render_list_eq (same : (list items).render = (list others).render) :
    items = others := by
  have same := congrArg String.toList same
  cases items with
  | nil =>
      cases others with
      | nil => rfl
      | cons other others =>
          rw [toList_render_list] at same
          cases (List.cons.inj (List.cons.inj same).2).1
  | cons item items =>
      cases others with
      | nil =>
          rw [toList_render_list] at same
          cases (List.cons.inj (List.cons.inj same).2).1
      | cons other others =>
          rw [toList_render_list, toList_render_list] at same
          obtain ⟨texts, later⟩ := encode_append_inj (List.cons.inj same).2
          rw [String.toList_inj.mp texts, furtherTexts_inj later]

/-- No two values look alike. -/
theorem render_injective : Function.Injective render := by
  intro first second same
  have shapes := shape_eq_of_render_eq same
  cases first with
  | null =>
      cases second with
      | null => rfl
      | bool truth => cases truth <;> cases shapes
      | count | text | list => cases shapes
  | bool truth =>
      cases second with
      | bool truth' => cases truth <;> cases truth' <;> first | rfl | cases shapes
      | null | count | text | list => cases truth <;> cases shapes
  | count occurrences =>
      cases second with
      | count occurrences' => rw [eq_of_render_count_eq same]
      | bool truth => cases truth <;> cases shapes
      | null | text | list => cases shapes
  | text word =>
      cases second with
      | text word' => rw [quote_injective same]
      | bool truth => cases truth <;> cases shapes
      | null | count | list => cases shapes
  | list items =>
      cases second with
      | list others => rw [eq_of_render_list_eq same]
      | bool truth => cases truth <;> cases shapes
      | null | count | text => cases shapes

theorem newline_notMem_render (value : Value) : '\n' ∉ value.render.toList := by
  cases value with
  | null => decide
  | bool truth => cases truth <;> decide
  | count occurrences =>
      rw [render, Nat.toList_repr]
      intro newline
      cases Text.isDigit_of_mem_toDigits newline
  | text word =>
      rw [render, quote, String.toList_ofList]
      exact newline_notMem_encode word.toList
  | list items =>
      cases items with
      | nil => decide
      | cons first items =>
          rw [toList_render_list]
          simp [furtherTexts, newline_notMem_encode]

end Value

end UsageGrammar
