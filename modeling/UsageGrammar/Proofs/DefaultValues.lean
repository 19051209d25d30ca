import UsageGrammar.Proofs.EntryParts
import UsageGrammar.Proofs.LabelSearch

/-!
# Default values

The first `[default:` of a description names the default value, which goes up to the closing
bracket. So a value is recovered as it is written, whatever surrounds it and on whichever line it
stands, and a description without it gives none. Nothing else about the option depends on the
description.
-/

namespace UsageGrammar

open Text

/-- A declaration without a description. -/
structure IsDeclaration (text : List Char) : Prop where
  dash : '-' ∈ text.head?
  last : ∃ c ∈ text.getLast?, isBlank c = false
  one_line : '\n' ∉ text
  no_tab : '\t' ∉ text
  single_spaces : ¬ [' ', ' '] <:+: text

/-- What separates a declaration from its description. -/
inductive IsColumnBreak : List Char → Prop
  | spaces {count : Nat} : 2 ≤ count → IsColumnBreak (List.replicate count ' ')
  | tab : IsColumnBreak ['\t']

/-- A value that can be written between brackets on one line. -/
structure IsValue (text : List Char) : Prop where
  unclosed : ']' ∉ text
  one_line : '\n' ∉ text
  first : ∀ c ∈ text.head?, isSpaceOrTab c = false
  last : ∀ c ∈ text.getLast?, isSpaceOrTab c = false

/-- What a default value is marked with, in lower case. -/
def defaultMark : List Char :=
  "[default:".toList

/-- The value at the start of a text, up to a closing bracket or the end of the line. -/
def valueAt (text : List Char) : String :=
  let value := text.takeWhile fun c => c != ']' && c != '\n'
  String.ofList (dropEndWhile isSpaceOrTab (value.dropWhile isSpaceOrTab))

theorem describedDefault_eq (description : List Char) :
    describedDefault description = (afterLabel? defaultMark description).map valueAt := rfl

variable {text declaration gap description before mark left value right : List Char}

section Column

namespace IsColumnBreak

theorem isSpaceOrTab (breaks : IsColumnBreak gap) : ∀ c ∈ gap, isSpaceOrTab c := by
  cases breaks with
  | spaces => simp [Text.isSpaceOrTab]
  | tab => simp [Text.isSpaceOrTab]

theorem isBlank (breaks : IsColumnBreak gap) : ∀ c ∈ gap, isBlank c := fun c member =>
  isBlank_of_isSpaceOrTab (breaks.isSpaceOrTab c member)

theorem one_line (breaks : IsColumnBreak gap) : '\n' ∉ gap := fun newline => by
  cases breaks.isSpaceOrTab _ newline

theorem splitColumn_append (breaks : IsColumnBreak gap) (text : List Char) :
    splitColumn (gap ++ text) = ([], text.dropWhile Text.isSpaceOrTab) := by
  have dropped : (gap ++ text).dropWhile Text.isSpaceOrTab = text.dropWhile Text.isSpaceOrTab :=
    List.dropWhile_append_of_pos breaks.isSpaceOrTab
  cases breaks with
  | @spaces count two_le =>
      obtain ⟨count, rfl⟩ := Nat.exists_eq_add_of_le' two_le
      rw [← dropped]
      simp [List.replicate_succ, splitColumn, isIndented, Text.isSpaceOrTab]
  | tab => simp [splitColumn]

end IsColumnBreak

namespace IsDeclaration

theorem visible_last (declares : IsDeclaration declaration) :
    ∀ c ∈ declaration.getLast?, isBlank c = false := by
  intro c ends
  obtain ⟨last, ends', visible⟩ := declares.last
  rwa [Option.some.inj (ends.symm.trans ends')]

theorem trim_append (declares : IsDeclaration declaration) (text : List Char) :
    trim (declaration ++ text) = declaration ++ dropEndWhile isBlank text :=
  Text.trim_append ⟨'-', declares.dash, rfl⟩ declares.last [] text

theorem splitColumn_append (declares : IsDeclaration declaration) (text : List Char) :
    splitColumn (declaration ++ text) =
      (declaration ++ (splitColumn text).1, (splitColumn text).2) :=
  UsageGrammar.splitColumn_append declares.no_tab declares.single_spaces declares.visible_last text

theorem splitColumn_eq_self (declares : IsDeclaration declaration) :
    splitColumn declaration = (declaration, []) := by
  simpa [splitColumn] using declares.splitColumn_append []

end IsDeclaration

end Column

section Value

theorem asciiLowercase_defaultMark : asciiLowercase defaultMark = defaultMark := by
  decide

theorem exists_defaultMark_eq : ∃ letters, defaultMark = '[' :: letters ∧ '[' ∉ letters :=
  ⟨"default:".toList, by decide, by decide⟩

theorem describedDefault_dropWhile (text : List Char) :
    describedDefault (text.dropWhile isSpaceOrTab) = describedDefault text := by
  induction text with
  | nil => rfl
  | cons c text ih =>
      by_cases space : isSpaceOrTab c
      · have other : ¬ asciiLowercase defaultMark <+: asciiLowercase (c :: text) := by
          obtain ⟨letters, bracket, -⟩ := exists_defaultMark_eq
          rw [asciiLowercase_defaultMark, bracket, asciiLowercase_cons, List.cons_prefix_cons]
          rcases isSpaceOrTab_iff.mp space with rfl | rfl <;>
            exact fun same => absurd same.1 (by decide)
        rw [List.dropWhile_cons_of_pos space, ih, describedDefault_eq, describedDefault_eq,
          afterLabel?_cons_of_not_start other]
      · rw [List.dropWhile_cons_of_neg space]

/-- A text without the mark names no default value, and neither does a part of it. -/
theorem describedDefault_eq_none (unmarked : ¬ defaultMark <:+: asciiLowercase text)
    (part : description <+: text) : describedDefault description = none := by
  have absent : afterLabel? defaultMark description = none := by
    obtain ⟨rest, rfl⟩ := part
    rw [afterLabel?_eq_none_iff, asciiLowercase_defaultMark]
    exact fun held => unmarked (held.trans (asciiLowercase_prefix_append description rest).isInfix)
  rw [describedDefault_eq, absent, Option.map_none]

theorem trimmed_value (spaces_left : ∀ c ∈ left, isSpaceOrTab c)
    (spaces_right : ∀ c ∈ right, isSpaceOrTab c) (isValue : IsValue value) :
    dropEndWhile isSpaceOrTab ((left ++ (value ++ right)).dropWhile isSpaceOrTab) = value := by
  rw [List.dropWhile_append_of_pos spaces_left]
  cases value with
  | nil => rw [List.nil_append, List.dropWhile_eq_nil_iff.mpr spaces_right]; rfl
  | cons c value =>
      have first : ¬ isSpaceOrTab c := by simp [isValue.first c rfl]
      have last := List.getLast?_eq_some_getLast (List.cons_ne_nil c value)
      rw [List.cons_append, List.dropWhile_cons_of_neg first, ← List.cons_append,
        dropEndWhile_append ⟨_, last, isValue.last _ last⟩, dropEndWhile_eq_nil spaces_right,
        List.append_nil]

theorem valueAt_append (unclosed : ']' ∉ text) (one_line : '\n' ∉ text) (after : List Char) :
    valueAt (text ++ ']' :: after) =
      String.ofList (dropEndWhile isSpaceOrTab (text.dropWhile isSpaceOrTab)) := by
  have passed : ∀ c ∈ text, (c != ']' && c != '\n') = true := by
    intro c member
    rw [Bool.and_eq_true, bne_iff_ne, bne_iff_ne]
    exact ⟨ne_of_mem_of_not_mem member unclosed, ne_of_mem_of_not_mem member one_line⟩
  rw [valueAt, List.takeWhile_append_of_pos passed]
  simp

theorem valueAt_closed (spaces_left : ∀ c ∈ left, isSpaceOrTab c)
    (spaces_right : ∀ c ∈ right, isSpaceOrTab c) (isValue : IsValue value) (after : List Char) :
    valueAt (left ++ (value ++ right) ++ ']' :: after) = String.ofList value := by
  have apart {c : Char} (other : ¬ isSpaceOrTab c) (outside : c ∉ value) :
      c ∉ left ++ (value ++ right) := by
    simp only [List.mem_append, not_or]
    exact ⟨fun member => other (spaces_left c member), outside,
      fun member => other (spaces_right c member)⟩
  have unclosed := apart (by decide) isValue.unclosed
  have one_line := apart (by decide) isValue.one_line
  rw [valueAt_append unclosed one_line, trimmed_value spaces_left spaces_right isValue]

theorem dropEndWhile_closed (text after : List Char) :
    dropEndWhile isBlank (text ++ ']' :: after) = text ++ ']' :: dropEndWhile isBlank after := by
  have closed : ∃ c ∈ (text ++ [']']).getLast?, isBlank c = false := ⟨']', by simp, rfl⟩
  simpa using dropEndWhile_append closed after

/-- The first mark names the default value. -/
theorem describedDefault_marked (unmarked : ¬ defaultMark <:+: asciiLowercase before)
    (same : asciiLowercase mark = defaultMark) (spaces_left : ∀ c ∈ left, isSpaceOrTab c)
    (spaces_right : ∀ c ∈ right, isSpaceOrTab c) (isValue : IsValue value) (after : List Char) :
    describedDefault (before ++ mark ++ (left ++ (value ++ right) ++ ']' :: after)) =
      some (String.ofList value) := by
  obtain ⟨letters, bracket, single⟩ := exists_defaultMark_eq
  rw [← asciiLowercase_defaultMark] at unmarked same bracket
  rw [describedDefault_eq, afterLabel?_append (afterLabel?_of_mark bracket single unmarked same),
    List.nil_append, Option.map_some, valueAt_closed spaces_left spaces_right isValue]

end Value

namespace OptionSpec

theorem ofEntry_declaration (declares : IsDeclaration declaration) :
    ofEntry declaration = { declaredOption declaration with default := none } := by
  have trimmed : trim declaration = declaration := by
    simpa [dropEndWhile] using declares.trim_append []
  rw [ofEntry_eq, declarationOf, descriptionOf, trimmed, splitLine_eq_self declares.one_line,
    declares.splitColumn_eq_self]
  rfl

/-- Behind a column break stands the description, which decides on the default value alone. A blank
description is trimmed away together with the column break. -/
theorem ofEntry_described (declares : IsDeclaration declaration) (breaks : IsColumnBreak gap)
    (description : List Char) :
    ofEntry (declaration ++ (gap ++ description)) = { ofEntry declaration with
      default := describedDefault (dropEndWhile isBlank description) } := by
  rw [ofEntry_declaration declares, ofEntry_eq, declarationOf, descriptionOf, declares.trim_append]
  by_cases nothing : dropEndWhile isBlank description = []
  · rw [dropEndWhile_append_of_eq_nil nothing, dropEndWhile_eq_nil breaks.isBlank, nothing,
      List.append_nil, splitLine_eq_self declares.one_line, declares.splitColumn_eq_self]
    rfl
  · rw [dropEndWhile_append_of_ne_nil nothing, splitLine_append declares.one_line,
      splitLine_append breaks.one_line, declares.splitColumn_append, breaks.splitColumn_append,
      rejoin_dropWhile, rejoin_splitLine, describedDefault_dropWhile, List.append_nil]

/-- A default value is recovered from a description as it is written, and the description changes
nothing else. Without a mark there is no default value. -/
theorem ofEntry_default (declares : IsDeclaration declaration) (breaks : IsColumnBreak gap)
    (unmarked : ¬ defaultMark <:+: asciiLowercase before) :
    (∀ mark left value right after, asciiLowercase mark = defaultMark →
      (∀ c ∈ left, isSpaceOrTab c) → (∀ c ∈ right, isSpaceOrTab c) → IsValue value →
      ofEntry (declaration ++ gap ++ before ++ mark ++ left ++ value ++ right ++ [']'] ++ after) =
        { ofEntry declaration with default := some (String.ofList value) }) ∧
    ofEntry (declaration ++ gap ++ before) = { ofEntry declaration with default := none } := by
  refine ⟨fun mark left value right after same spaces_left spaces_right isValue => ?_, ?_⟩
  · have regrouped :
        declaration ++ gap ++ before ++ mark ++ left ++ value ++ right ++ [']'] ++ after =
          declaration ++
            (gap ++ (before ++ mark ++ (left ++ (value ++ right)) ++ ']' :: after)) := by
      simp
    rw [regrouped, ofEntry_described declares breaks, dropEndWhile_closed,
      List.append_assoc (before ++ mark),
      describedDefault_marked unmarked same spaces_left spaces_right isValue]
  · rw [List.append_assoc, ofEntry_described declares breaks,
      describedDefault_eq_none unmarked (dropEndWhile_prefix_self _ _)]

/-- The value looks like another mark, and stands on a later line than the declaration. -/
theorem ofEntry_default_wrapped :
    (IsDeclaration "-o FILE, --output=FILE".toList ∧ IsColumnBreak ['\t'] ∧
      ¬ defaultMark <:+: asciiLowercase "Where to\n  write ".toList ∧
      asciiLowercase "[DeFault:".toList = defaultMark ∧ (∀ c ∈ [' ', '\t'], isSpaceOrTab c) ∧
      (∀ c ∈ [' '], isSpaceOrTab c) ∧ IsValue "[default: a, -b=c".toList) ∧
    ofEntry ("-o FILE, --output=FILE".toList ++ ['\t'] ++ "Where to\n  write ".toList ++
        "[DeFault:".toList ++ [' ', '\t'] ++ "[default: a, -b=c".toList ++ [' '] ++ [']'] ++
        " [default: x]\n".toList) =
      { ofEntry "-o FILE, --output=FILE".toList with
        default := some (String.ofList "[default: a, -b=c".toList) } ∧
    ofEntry ("-o FILE, --output=FILE".toList ++ ['\t'] ++ "Where to\n  write ".toList) =
      { ofEntry "-o FILE, --output=FILE".toList with default := none } := by
  have declares : IsDeclaration "-o FILE, --output=FILE".toList :=
    ⟨by decide +kernel, ⟨'E', by decide +kernel, rfl⟩, by decide +kernel, by decide +kernel,
      by decide +kernel⟩
  have unmarked : ¬ defaultMark <:+: asciiLowercase "Where to\n  write ".toList := by
    decide +kernel
  have same : asciiLowercase "[DeFault:".toList = defaultMark := by decide +kernel
  have spaces_left : ∀ c ∈ [' ', '\t'], isSpaceOrTab c := by simp [isSpaceOrTab]
  have spaces_right : ∀ c ∈ [' '], isSpaceOrTab c := by simp [isSpaceOrTab]
  have isValue : IsValue "[default: a, -b=c".toList :=
    ⟨by decide +kernel, by decide +kernel, by simp [isSpaceOrTab], by simp [isSpaceOrTab]⟩
  have both := ofEntry_default declares .tab unmarked
  have marked := both.1 _ _ _ _ " [default: x]\n".toList same spaces_left spaces_right isValue
  exact ⟨⟨declares, .tab, unmarked, same, spaces_left, spaces_right, isValue⟩, marked, both.2⟩

end OptionSpec

end UsageGrammar
