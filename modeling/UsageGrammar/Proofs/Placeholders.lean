import Mathlib.Data.List.Basic
import UsageGrammar.Proofs.Lexemes

/-!
# Placeholders

A placeholder that is closed on its line stands in one word, whatever is written before and after
it. Its text is not left alone, however, since structure is set apart within a placeholder as well.
So a placeholder keeps its text exactly if it holds no bracket, bar or ellipsis.
-/

namespace UsageGrammar.Expression

open Text

variable {text front inner gap later : List Char}

theorem exists_placeholderWord? (visible : ∀ c ∈ front, isBlank c = false)
    (same_line : '\n' ∉ inner) (open_until : '>' ∉ inner) (later : List Char) :
    ∃ split, placeholderWord? (front ++ '<' :: (inner ++ '>' :: later)) = some split := by
  induction front with
  | nil =>
      rw [List.nil_append, placeholderWord?,
        closePlaceholder?_append_closing same_line open_until later]
      cases placeholderWord? (inner ++ '>' :: later) with
      | none => exact ⟨_, rfl⟩
      | some further => exact ⟨_, rfl⟩
  | cons c front ih =>
      obtain ⟨here, visible⟩ := List.forall_mem_cons.mp visible
      obtain ⟨⟨word, rest⟩, found⟩ := ih visible
      refine ⟨(c :: word, rest), ?_⟩
      rw [List.cons_append, placeholderWord?, found]
      simp [here]

/-- A first word that enters a placeholder does not end before a closing bracket. -/
theorem closing_mem_of_firstWord (same_line : '\n' ∉ inner) (open_until : '>' ∉ inner)
    (enters : (firstWord (front ++ '<' :: (inner ++ '>' :: later))).1 = front ++ '<' :: gap) :
    '>' ∈ gap := by
  rw [firstWord] at enters
  cases found : placeholderWord? (front ++ '<' :: (inner ++ '>' :: later)) with
  | some split =>
      rw [found, Option.getD_some] at enters
      obtain ⟨start, held, -, word⟩ := placeholderWord?_ends found
      have last : (front ++ '<' :: gap).getLast? = some '>' := by
        rw [← enters, word, ← List.cons_append, ← List.append_assoc, List.getLast?_concat]
      rw [List.getLast?_append, List.getLast?_cons] at last
      cases ends : gap.getLast? with
      | none => simp [ends] at last
      | some closing =>
          obtain rfl : closing = '>' := by simpa [ends] using last
          exact List.mem_of_getLast? ends
  | none =>
      rw [found, Option.getD_none] at enters
      have visible : ∀ c ∈ front, isBlank c = false := fun c member => by
        have taken := enters ▸ List.mem_append_left ('<' :: gap) member
        simpa using List.mem_takeWhile_imp taken
      obtain ⟨split, found'⟩ := exists_placeholderWord? visible same_line open_until later
      cases found.symm.trans found'

theorem append_closing_prefix {rest : List Char} (open_until : '>' ∉ inner) (closing : '>' ∈ gap)
    (split : gap ++ rest = inner ++ '>' :: later) : inner ++ ['>'] <+: gap := by
  rcases List.append_eq_append_iff.mp split with ⟨held, rfl, -⟩ | ⟨held, rfl, follows⟩
  · exact absurd (List.mem_append_left held closing) open_until
  · cases held with
    | nil => exact absurd (by simpa using closing) open_until
    | cons c held =>
        obtain ⟨rfl, -⟩ := List.cons.inj follows
        exact ⟨held, by simp⟩

/-- A placeholder in a text stands in one of its words. It opens behind the first word, or in it and
is then closed in it. -/
theorem exists_word_of_placeholder (same_line : '\n' ∉ inner) (open_until : '>' ∉ inner)
    (split : text = front ++ '<' :: (inner ++ '>' :: later)) :
    ∃ word ∈ splitWords text, '<' :: (inner ++ ['>']) <:+: word := by
  fun_induction splitWords text generalizing front with
  | case1 => simp at split
  | case2 c text blank ih =>
      cases front with
      | nil =>
          obtain ⟨rfl, -⟩ := List.cons.inj split
          cases blank
      | cons d front =>
          obtain ⟨rfl, rfl⟩ := List.cons.inj split
          exact ih rfl
  | case3 c text visible ih =>
      have later_word {before : List Char}
          (rest : (firstWord (c :: text)).2 = before ++ '<' :: (inner ++ '>' :: later)) :
          ∃ word ∈ (firstWord (c :: text)).1 :: splitWords (firstWord (c :: text)).2,
            '<' :: (inner ++ ['>']) <:+: word := by
        obtain ⟨word, member, holds⟩ := ih rest
        exact ⟨word, List.mem_cons_of_mem _ member, holds⟩
      have whole := (firstWord_append (c :: text)).trans split
      rcases List.append_eq_append_iff.mp whole with ⟨before, -, rest⟩ | ⟨gap, first, rest⟩
      · exact later_word rest
      · cases gap with
        | nil =>
            have follows : (firstWord (c :: text)).2 = [] ++ '<' :: (inner ++ '>' :: later) :=
              rest.symm
            exact later_word follows
        | cons d gap =>
            obtain ⟨rfl, follows⟩ := List.cons.inj rest
            have closing := closing_mem_of_firstWord same_line open_until (split ▸ first)
            obtain ⟨held, rfl⟩ := append_closing_prefix open_until closing follows.symm
            exact ⟨_, List.mem_cons_self, front, held, by simp [first]⟩

section Isolated

theorem isolate_placeholder (before inner after : List Char) :
    isolate (before ++ '<' :: (inner ++ '>' :: after)) =
      isolate before ++ '<' :: (isolate inner ++ '>' :: isolate after) := by
  rw [isolate_append fun _ => by simp, isolate_cons rfl (by decide),
    isolate_append fun _ => by simp, isolate_cons rfl (by decide)]

variable {before inner after : List Char}

/-- The words of a text hold its placeholders, with the structure in them set apart. -/
theorem exists_word_of_isolated_placeholder (same_line : '\n' ∉ inner) (open_until : '>' ∉ inner)
    (before after : List Char) :
    ∃ word ∈ splitWords (isolate (before ++ '<' :: (inner ++ '>' :: after))),
      '<' :: (isolate inner ++ ['>']) <:+: word := by
  have same_line' : '\n' ∉ isolate inner := mt (mem_isolate_iff (by decide)).mp same_line
  have open_until' : '>' ∉ isolate inner := mt (mem_isolate_iff (by decide)).mp open_until
  exact exists_word_of_placeholder same_line' open_until' (isolate_placeholder before inner after)

/-- Where nothing else opens a placeholder, only one that is isolated already is left as it is: on
both sides it is the text up to the first closing bracket. -/
theorem isolate_eq_self_of_infix (same_line : '\n' ∉ inner) (open_until : '>' ∉ inner)
    (unopened : ∀ part ∈ [before, inner, after], '<' ∉ part)
    (kept : '<' :: (inner ++ ['>']) <:+: isolate (before ++ '<' :: (inner ++ '>' :: after))) :
    isolate inner = inner := by
  obtain ⟨left, right, whole⟩ := kept
  have split : isolate before ++ '<' :: (isolate inner ++ '>' :: isolate after) =
      left ++ '<' :: (inner ++ '>' :: right) := by
    rw [← isolate_placeholder, ← whole]
    simp
  have unopened' : ∀ part ∈ [before, inner, after], '<' ∉ isolate part := fun part member =>
    mt (mem_isolate_iff (by decide)).mp (unopened part member)
  have unopened_later : '<' ∉ isolate inner ++ '>' :: isolate after := by
    simp [unopened']
  obtain ⟨-, -, behind⟩ :=
    (List.append_cons_inj_of_notMem (unopened' before (by simp)) unopened_later).mp split
  have closed := congrArg closePlaceholder? behind
  rw [closePlaceholder?_append_closing same_line open_until,
    closePlaceholder?_append_closing (mt (mem_isolate_iff (by decide)).mp same_line)
      (mt (mem_isolate_iff (by decide)).mp open_until)] at closed
  have same := (Prod.mk.inj (Option.some.inj closed)).1
  exact List.append_cancel_right same

end Isolated

/-- A placeholder that is closed on its line stands in one word, with the structure in it set apart.
If no other placeholder is opened, a word holds it as it is written exactly if there is no structure
in it. -/
theorem placeholder_kept_iff (before inner after : String) (same_line : '\n' ∉ inner.toList)
    (open_until : '>' ∉ inner.toList) :
    (∃ word ∈ wordsOf (before ++ "<" ++ inner ++ ">" ++ after),
      '<' :: (isolate inner.toList ++ ['>']) <:+: word.toList) ∧
    ('<' ∉ (before ++ inner ++ after).toList →
      ((∃ word ∈ wordsOf (before ++ "<" ++ inner ++ ">" ++ after),
        ("<" ++ inner ++ ">").toList <:+: word.toList) ↔
          ∀ token, IsStructure token → ¬ token <:+: inner.toList)) := by
  have source : (before ++ "<" ++ inner ++ ">" ++ after).toList =
      before.toList ++ '<' :: (inner.toList ++ '>' :: after.toList) := by simp
  have written : ("<" ++ inner ++ ">").toList = '<' :: (inner.toList ++ ['>']) := by simp
  have held : ∃ word ∈ wordsOf (before ++ "<" ++ inner ++ ">" ++ after),
      '<' :: (isolate inner.toList ++ ['>']) <:+: word.toList := by
    obtain ⟨word, member, holds⟩ :=
      exists_word_of_isolated_placeholder same_line open_until before.toList after.toList
    refine ⟨String.ofList word, ?_, by rwa [String.toList_ofList]⟩
    rw [wordsOf, source]
    exact List.mem_map_of_mem member
  refine ⟨held, fun single => ⟨fun kept => ?_, fun unstructured => ?_⟩⟩
  · obtain ⟨word, member, holds⟩ := kept
    have inside := (lexeme_of_mem_splitWords (toList_mem_of_mem_wordsOf member)).2
    have unopened : ∀ part ∈ [before.toList, inner.toList, after.toList], '<' ∉ part := by
      simpa using single
    rw [written] at holds
    rw [source] at inside
    have same := isolate_eq_self_of_infix same_line open_until unopened (holds.trans inside)
    exact isolate_eq_self_iff.mp same
  · rwa [isolate_eq_self_iff.mpr unstructured, ← written] at held

theorem placeholder_kept_iff_speed :
    ('\n' ∉ "km/h or kn".toList ∧ '>' ∉ "km/h or kn".toList) ∧
      ∃ word ∈ wordsOf ("[--speed=" ++ "<" ++ "km/h or kn" ++ ">" ++ "]..."),
        ("<" ++ "km/h or kn" ++ ">").toList <:+: word.toList := by
  have same_line : '\n' ∉ "km/h or kn".toList := by decide
  have open_until : '>' ∉ "km/h or kn".toList := by decide
  have isolated : isolate "km/h or kn".toList = "km/h or kn".toList := by decide
  have kept := (placeholder_kept_iff "[--speed=" "km/h or kn" "]..." same_line open_until).2
  exact ⟨⟨same_line, open_until⟩, (kept (by decide)).mpr (isolate_eq_self_iff.mp isolated)⟩

/-- A bar is set apart within a placeholder, although it does not become a word. -/
theorem not_placeholder_kept_bar :
    (∀ c ∈ ("" ++ "a|b" ++ "").toList, c ≠ '<' ∧ c ≠ '>' ∧ c ≠ '\n') ∧ "a|b" ≠ "" ∧
      wordsOf ("" ++ "<" ++ "a|b" ++ ">" ++ "") = ["<a | b>"] ∧
      ¬ ∃ word ∈ wordsOf ("" ++ "<" ++ "a|b" ++ ">" ++ ""),
        ("<" ++ "a|b" ++ ">").toList <:+: word.toList := by
  have words : wordsOf ("" ++ "<" ++ "a|b" ++ ">" ++ "") = ["<a | b>"] := by decide +kernel
  refine ⟨by simp, by simp, words, ?_⟩
  rw [words]
  decide +kernel

end UsageGrammar.Expression
