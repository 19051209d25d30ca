import Mathlib.Data.List.DropRight
import UsageGrammar.Text.Blank

/-!
# Trimming around what is kept

Trimming stops at the first and at the last character that is not dropped. So a text that begins and
ends with such characters is left alone wherever it stands, and what is before and behind it is
trimmed on its own.
-/

namespace UsageGrammar.Text

variable {drops : Char → Bool} {text before after : List Char}

theorem dropEndWhile_append_of_ne_nil (kept : dropEndWhile drops after ≠ [])
    (text : List Char) : dropEndWhile drops (text ++ after) = text ++ dropEndWhile drops after := by
  have kept' : ¬ (after.reverse.dropWhile drops).isEmpty := by
    simpa [dropEndWhile, List.isEmpty_iff] using kept
  simp only [dropEndWhile, List.reverse_append, List.dropWhile_append, if_neg kept',
    List.reverse_reverse]

theorem dropEndWhile_append_of_eq_nil (dropped : dropEndWhile drops after = [])
    (text : List Char) : dropEndWhile drops (text ++ after) = dropEndWhile drops text := by
  have dropped' : (after.reverse.dropWhile drops).isEmpty := by
    simpa [dropEndWhile, List.isEmpty_iff] using dropped
  simp only [dropEndWhile, List.reverse_append, List.dropWhile_append, if_pos dropped']

theorem dropEndWhile_eq_self (kept : ∃ last ∈ text.getLast?, drops last = false) :
    dropEndWhile drops text = text := by
  obtain ⟨last, ends, keeps⟩ := kept
  obtain ⟨front, rfl⟩ := List.getLast?_eq_some_iff.mp ends
  exact List.rdropWhile_concat_neg drops front last (by simp [keeps])

theorem dropEndWhile_append (kept : ∃ last ∈ text.getLast?, drops last = false)
    (after : List Char) :
    dropEndWhile drops (text ++ after) = text ++ dropEndWhile drops after := by
  by_cases dropped : dropEndWhile drops after = []
  · rw [dropEndWhile_append_of_eq_nil dropped, dropEndWhile_eq_self kept, dropped, List.append_nil]
  · exact dropEndWhile_append_of_ne_nil dropped text

theorem dropEndWhile_eq_nil (dropped : ∀ c ∈ text, drops c) : dropEndWhile drops text = [] :=
  List.rdropWhile_eq_nil_iff.mpr dropped

theorem dropEndWhile_prefix_self (drops : Char → Bool) (text : List Char) :
    dropEndWhile drops text <+: text :=
  List.rdropWhile_prefix drops text

theorem trim_append (first : ∃ c ∈ text.head?, isBlank c = false)
    (last : ∃ c ∈ text.getLast?, isBlank c = false) (before after : List Char) :
    trim (before ++ (text ++ after)) =
      trimStart before ++ (text ++ dropEndWhile isBlank after) := by
  have start : trimStart (before ++ (text ++ after)) = trimStart before ++ (text ++ after) := by
    obtain ⟨c, begins, visible⟩ := first
    obtain ⟨rest, rfl⟩ := List.head?_eq_some_iff.mp begins
    simp only [trimStart, List.dropWhile_append]
    split
    · next dropped => simp [List.isEmpty_iff.mp dropped, visible]
    · rfl
  have ends : ∃ c ∈ (trimStart before ++ text).getLast?, isBlank c = false := by
    obtain ⟨c, ends, visible⟩ := last
    exact ⟨c, List.mem_getLast?_append_of_mem_getLast? ends, visible⟩
  rw [trim, start, ← List.append_assoc, dropEndWhile_append ends, List.append_assoc]

theorem trimStart_trimStart_append (text more : List Char) :
    trimStart (trimStart text ++ more) = trimStart (text ++ more) := by
  have split : text.takeWhile isBlank ++ trimStart text = text := List.takeWhile_append_dropWhile
  conv_rhs => rw [← split, List.append_assoc, trimStart,
    List.dropWhile_append_of_pos fun c => List.mem_takeWhile_imp]
  rfl

theorem trimStart_append (some_visible : trimStart text ≠ []) (more : List Char) :
    trimStart (text ++ more) = trimStart text ++ more := by
  rw [trimStart, List.dropWhile_append]
  exact if_neg (mt List.isEmpty_iff.mp some_visible)

theorem trim_subset (text : List Char) : trim text ⊆ text :=
  List.Subset.trans (dropEndWhile_prefix_self isBlank (trimStart text)).subset
    (List.dropWhile_suffix _).subset

theorem visible_last_trim (text : List Char) : ∀ c ∈ (trim text).getLast?, isBlank c = false := by
  intro c ends
  obtain ⟨some_left, rfl⟩ := List.mem_getLast?_eq_getLast ends
  exact Bool.eq_false_iff.mpr (List.rdropWhile_last_not isBlank (trimStart text) some_left)

/-- Behind a text with visible characters, only the end is trimmed. -/
theorem exists_trim_append (some_visible : trim text ≠ []) (more : List Char) :
    ∃ gap, (∀ c ∈ gap, isBlank c) ∧
      trim (text ++ more) = trim text ++ dropEndWhile isBlank (gap ++ more) := by
  have begins : trimStart text ≠ [] := by
    intro none_left
    rw [trim, none_left] at some_visible
    exact some_visible rfl
  have ends := List.getLast?_eq_some_getLast some_visible
  have last : ∃ c ∈ (trim text).getLast?, isBlank c = false :=
    ⟨_, ends, visible_last_trim text _ ends⟩
  have split : trim text ++ List.rtakeWhile isBlank (trimStart text) = trimStart text :=
    List.rdropWhile_append_rtakeWhile
  refine ⟨List.rtakeWhile isBlank (trimStart text), fun c => List.mem_rtakeWhile_imp, ?_⟩
  rw [← dropEndWhile_append last, ← List.append_assoc, split, ← trimStart_append begins]
  rfl

end UsageGrammar.Text
