import UsageGrammar.Proofs.WordSplitting

/-!
# Words of a printed text

A name is cut off as one word if it is a run of ordinary characters, perhaps with a placeholder at
its end. A text of several parts has the words of its parts in their order, whether spaces, bars or
an ellipsis stand between them, because none of these reaches into a part.
-/

namespace UsageGrammar.Expression

open Text

/-- A character that does not separate words and has no part in a placeholder or an ellipsis. -/
structure IsOrdinary (c : Char) : Prop where
  visible : isBlank c = false
  ungrouped : isGrouping c = false
  ne_opening : c ≠ '<'
  ne_closing : c ≠ '>'
  ne_dot : c ≠ '.'

instance : DecidablePred IsOrdinary := fun c =>
  decidable_of_iff (isBlank c = false ∧ isGrouping c = false ∧ c ≠ '<' ∧ c ≠ '>' ∧ c ≠ '.')
    ⟨fun ⟨visible, ungrouped, opening, closing, dot⟩ => ⟨visible, ungrouped, opening, closing, dot⟩,
      fun ⟨visible, ungrouped, opening, closing, dot⟩ =>
        ⟨visible, ungrouped, opening, closing, dot⟩⟩

/-- A run of ordinary characters, or one that ends with a placeholder. -/
inductive SingleWord : List Char → Prop
  | run {text : List Char} : text ≠ [] → (∀ c ∈ text, IsOrdinary c) → SingleWord text
  | placeholder {text inner : List Char} : (∀ c ∈ text, IsOrdinary c) →
      (∀ c ∈ inner, IsOrdinary c) → SingleWord (text ++ '<' :: (inner ++ ['>']))

variable {text inner first second : List Char} {c : Char}

section Closed

theorem closesPlaceholders_of_forall_ne (none_opened : ∀ c ∈ text, c ≠ '<') :
    closesPlaceholders text := by
  induction text with
  | nil => rfl
  | cons c text ih =>
      refine closesPlaceholders_cons_iff.mpr ⟨fun opening => ?_, ?_⟩
      · exact absurd opening (none_opened c List.mem_cons_self)
      · exact ih fun other member => none_opened other (List.mem_cons_of_mem _ member)

theorem closesPlaceholders_append (closed : closesPlaceholders first)
    (closed' : closesPlaceholders second) : closesPlaceholders (first ++ second) := by
  induction first with
  | nil => exact closed'
  | cons c first ih =>
      obtain ⟨closing, closed⟩ := closesPlaceholders_cons_iff.mp closed
      exact closesPlaceholders_cons_iff.mpr
        ⟨fun opening => List.mem_append_left _ (closing opening), ih closed⟩

theorem SingleWord.closesPlaceholders (single : SingleWord text) : closesPlaceholders text := by
  cases single with
  | run _ ordinary =>
      exact closesPlaceholders_of_forall_ne fun c member => (ordinary c member).ne_opening
  | placeholder before within =>
      refine closesPlaceholders_append ?_ (closesPlaceholders_cons_iff.mpr ⟨fun _ => by simp, ?_⟩)
      · exact closesPlaceholders_of_forall_ne fun c member => (before c member).ne_opening
      · refine closesPlaceholders_append ?_ rfl
        exact closesPlaceholders_of_forall_ne fun c member => (within c member).ne_opening

end Closed

section FirstWord

theorem isolate_eq_self (apart : ∀ c ∈ text, isGrouping c = false ∧ c ≠ '.') :
    isolate text = text := by
  refine isolate_eq_self_iff.mpr fun token structural inside => ?_
  obtain ⟨c, rest, rfl⟩ := List.exists_cons_of_ne_nil structural.ne_nil
  obtain ⟨ungrouped, other⟩ := apart c (inside.subset List.mem_cons_self)
  exact structural.notMem ungrouped other List.mem_cons_self

theorem SingleWord.firstWord_eq (single : SingleWord text) : firstWord text = (text, []) := by
  cases single with
  | run _ ordinary =>
      have unopened : '<' ∉ text := fun member => (ordinary _ member).ne_opening rfl
      exact firstWord_run (fun c member => (ordinary c member).visible) (.inl unopened)
  | @placeholder text inner before within =>
      have same_line : '\n' ∉ inner := fun member => by cases (within _ member).visible
      have open_until : '>' ∉ inner := fun member => (within _ member).ne_closing rfl
      have last : placeholderWord? (inner ++ ['>']) = none := by
        refine placeholderWord?_eq_none (.inl ?_)
        simpa using fun member => (within _ member).ne_opening rfl
      have visible : ∀ c ∈ text, isBlank c = false := fun c member => (before c member).visible
      rw [firstWord, placeholderWord?_append_closing visible same_line open_until last,
        Option.getD_some]

end FirstWord

namespace SingleWord

theorem ne_nil (single : SingleWord text) : text ≠ [] := by
  cases single with
  | run some_char _ => exact some_char
  | placeholder => simp

/-- A single word holds nothing that could be cut. -/
theorem apart_of_mem (single : SingleWord text) (member : c ∈ text) :
    isBlank c = false ∧ isGrouping c = false ∧ c ≠ '.' := by
  cases single with
  | run _ ordinary =>
      have plain := ordinary c member
      exact ⟨plain.visible, plain.ungrouped, plain.ne_dot⟩
  | placeholder before within =>
      rcases List.mem_append.mp member with outside | member
      · exact ⟨(before c outside).visible, (before c outside).ungrouped, (before c outside).ne_dot⟩
      rcases List.mem_cons.mp member with rfl | member
      · decide
      rcases List.mem_append.mp member with inside | closing
      · exact ⟨(within c inside).visible, (within c inside).ungrouped, (within c inside).ne_dot⟩
      · rw [List.mem_singleton.mp closing]
        decide

theorem getLast?_ne_dot (single : SingleWord text) : text.getLast? ≠ some '.' :=
  fun last => (single.apart_of_mem (List.mem_of_getLast? last)).2.2 rfl

theorem wordsOf_eq {word : String} (single : SingleWord word.toList) : wordsOf word = [word] := by
  have isolated : isolate word.toList = word.toList :=
    isolate_eq_self fun c member => (single.apart_of_mem member).2
  obtain ⟨c, text, letters⟩ := List.exists_cons_of_ne_nil single.ne_nil
  have visible : isBlank c = false :=
    (single.apart_of_mem (letters ▸ List.mem_cons_self : c ∈ word.toList)).1
  have split : splitWords word.toList = [word.toList] := by
    rw [letters]
    exact splitWords_of_firstWord visible (letters ▸ single.firstWord_eq)
  rw [wordsOf, isolated, split, List.map_singleton, String.ofList_toList]

end SingleWord

section Joined

variable {inner : String} {texts : List String}

theorem closesPlaceholders_intercalate {separator : String}
    (separates : closesPlaceholders separator.toList)
    (closed : ∀ text ∈ texts, closesPlaceholders text.toList) :
    closesPlaceholders (separator.intercalate texts).toList := by
  induction texts with
  | nil => rfl
  | cons first others ih =>
      have first_closed := closed first List.mem_cons_self
      have others_closed := ih fun text member => closed text (List.mem_cons_of_mem _ member)
      cases others with
      | nil => simpa using first_closed
      | cons second others =>
          rw [String.intercalate_cons_cons, String.toList_append, String.toList_append]
          exact closesPlaceholders_append (closesPlaceholders_append first_closed separates)
            others_closed

/-- Texts between spaces keep their words. -/
theorem wordsOf_intercalate_space (closed : ∀ text ∈ texts, closesPlaceholders text.toList) :
    wordsOf (" ".intercalate texts) = texts.flatMap wordsOf := by
  induction texts with
  | nil => exact wordsOf_empty
  | cons first others ih =>
      have later := ih fun text member => closed text (List.mem_cons_of_mem _ member)
      cases others with
      | nil => simp
      | cons second others =>
          rw [String.intercalate_cons_cons, wordsOf_append (closed first List.mem_cons_self), later]
          rfl

/-- Texts between bars keep their words. -/
theorem wordsOf_intercalate_bar (closed : ∀ text ∈ texts, closesPlaceholders text.toList) :
    wordsOf (" | ".intercalate texts) = ["|"].intercalate (texts.map wordsOf) := by
  induction texts with
  | nil => exact wordsOf_empty
  | cons first others ih =>
      have later := ih fun text member => closed text (List.mem_cons_of_mem _ member)
      cases others with
      | nil => simp
      | cons second others =>
          rw [String.intercalate_cons_cons, wordsOf_bar (closed first List.mem_cons_self), later]
          simp [List.intercalate_cons_cons]

end Joined

end UsageGrammar.Expression
