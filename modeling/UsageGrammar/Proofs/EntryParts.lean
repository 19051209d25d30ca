import UsageGrammar.Proofs.Trimming
import UsageGrammar.Registry.Entry

/-!
# Declaration and description of an entry

An entry is read in two parts. Its first line up to the column break is the declaration, which alone
decides on the forms and on whether a value is taken. What is left of the line, and the lines after
it, is the description, of which only the default value is used.
-/

namespace UsageGrammar

open Text

variable {text front more : List Char}

/-- A line with what continues it. -/
def rejoin (line : List Char) : Option (List Char) → List Char
  | some rest => line ++ '\n' :: rest
  | none => line

section FirstLine

theorem splitLine_append (one_line : '\n' ∉ front) (text : List Char) :
    splitLine (front ++ text) = (front ++ (splitLine text).1, (splitLine text).2) := by
  have passed : ∀ c ∈ front, (c != '\n') = true := by
    rintro c member
    exact bne_iff_ne.mpr fun same => one_line (same ▸ member)
  simp only [splitLine, List.dropWhile_append_of_pos passed, List.takeWhile_append_of_pos passed]
  split <;> rfl

theorem splitLine_eq_self (one_line : '\n' ∉ text) : splitLine text = (text, none) := by
  have none_more : splitLine [] = ([], none) := rfl
  simpa [none_more] using splitLine_append one_line []

theorem splitLine_fst (text : List Char) : (splitLine text).1 = text.takeWhile (· != '\n') := by
  rw [splitLine]
  split
  · next none_dropped =>
      have split := List.takeWhile_append_dropWhile (p := (· != '\n')) (l := text)
      rwa [none_dropped, List.append_nil, eq_comm] at split
  · rfl

theorem splitLine_fst_mono (part : front <+: text) :
    (splitLine front).1 <+: (splitLine text).1 := by
  obtain ⟨rest, rfl⟩ := part
  rw [splitLine_fst, splitLine_fst, List.takeWhile_append]
  split
  · exact (List.takeWhile_prefix _).trans (List.prefix_append _ _)
  · exact List.prefix_rfl

theorem splitLine_fst_append (ended : (splitLine more).1 = []) (text : List Char) :
    (splitLine (text ++ more)).1 <+: text := by
  rw [splitLine_fst] at ended ⊢
  rw [List.takeWhile_append, ended, List.append_nil]
  split
  · exact List.prefix_rfl
  · exact List.takeWhile_prefix _

theorem rejoin_splitLine (text : List Char) :
    rejoin (splitLine text).1 (splitLine text).2 = text := by
  induction text with
  | nil => rfl
  | cons c text ih =>
      by_cases newline : c = '\n'
      · subst newline
        rfl
      · have one_line : '\n' ∉ [c] := by simpa using Ne.symm newline
        have split := splitLine_append one_line text
        rw [List.singleton_append] at split
        rw [split]
        cases rest : (splitLine text).2 with
        | none =>
            rw [rest] at ih
            exact congrArg (c :: ·) ih
        | some more =>
            rw [rest] at ih
            exact congrArg (c :: ·) ih

theorem rejoin_dropWhile (line : List Char) (continuation : Option (List Char)) :
    rejoin (line.dropWhile isSpaceOrTab) continuation =
      (rejoin line continuation).dropWhile isSpaceOrTab := by
  cases continuation with
  | none => rfl
  | some rest =>
      rw [rejoin, rejoin, List.dropWhile_append]
      split
      · next dropped => rw [List.isEmpty_iff.mp dropped]; rfl
      · rfl

end FirstLine

section Column

/-- A column break does not begin within characters that end visibly and go on behind them. -/
theorem isIndented_append {c : Char} (last : ∀ d ∈ (c :: front).getLast?, isBlank d = false)
    (more : List Char) :
    (c == ' ' && isIndented (front ++ more)) = (c == ' ' && isIndented front) := by
  cases front with
  | nil =>
      have space : c ≠ ' ' := by
        rintro rfl
        cases last ' ' rfl
      rw [beq_eq_false_iff_ne.mpr space, Bool.false_and, Bool.false_and]
  | cons next front => rfl

theorem last_of_cons {c : Char} (last : ∀ d ∈ (c :: front).getLast?, isBlank d = false) :
    ∀ d ∈ front.getLast?, isBlank d = false := by
  intro d ends
  refine last d ?_
  rw [List.getLast?_cons, Option.mem_def.mp ends]
  rfl

/-- Without tabs and double spaces, characters that end visibly are read to their end. -/
theorem splitColumn_append (no_tab : '\t' ∉ front) (single_spaces : ¬ [' ', ' '] <:+: front)
    (last : ∀ d ∈ front.getLast?, isBlank d = false) (more : List Char) :
    splitColumn (front ++ more) = (front ++ (splitColumn more).1, (splitColumn more).2) := by
  induction front with
  | nil => rfl
  | cons c front ih =>
      obtain ⟨not_tab, no_tab⟩ := List.ne_and_not_mem_of_not_mem_cons no_tab
      obtain ⟨apart, single_spaces⟩ := not_or.mp (mt List.infix_cons_iff.mpr single_spaces)
      have unbroken : (c == ' ' && isIndented (front ++ more)) = false := by
        rw [isIndented_append last]
        cases front with
        | nil => simp [isIndented]
        | cons next front =>
            have next_not_tab := (List.ne_and_not_mem_of_not_mem_cons no_tab).1.symm
            have next_not_space (space : c = ' ') : next ≠ ' ' := by
              rintro rfl
              exact apart ⟨front, by rw [space]; rfl⟩
            simpa [isIndented, isSpaceOrTab, next_not_tab] using next_not_space
      rw [List.cons_append, splitColumn, unbroken, ih no_tab single_spaces (last_of_cons last)]
      simp [not_tab.symm]

theorem splitColumn_fst_prefix_self (text : List Char) : (splitColumn text).1 <+: text := by
  induction text with
  | nil => exact List.prefix_rfl
  | cons c text ih =>
      rw [splitColumn]
      split
      · exact List.nil_prefix
      · exact List.cons_prefix_cons.mpr ⟨rfl, ih⟩

/-- Behind a visible end, a column is prolonged by a part of what follows at most. -/
theorem exists_splitColumn_append (last : ∀ d ∈ front.getLast?, isBlank d = false)
    (more : List Char) :
    ∃ gap, gap <+: more ∧ (splitColumn (front ++ more)).1 = (splitColumn front).1 ++ gap := by
  induction front with
  | nil => exact ⟨_, splitColumn_fst_prefix_self more, rfl⟩
  | cons c front ih =>
      obtain ⟨gap, part, same⟩ := ih (last_of_cons last)
      rw [List.cons_append, splitColumn, splitColumn, isIndented_append last]
      split
      · exact ⟨[], List.nil_prefix, rfl⟩
      · exact ⟨gap, part, congrArg (c :: ·) same⟩

end Column

/-- The declaration of an entry. -/
def declarationOf (entry : List Char) : List Char :=
  (splitColumn (splitLine (trim entry)).1).1

/-- The description of an entry. -/
def descriptionOf (entry : List Char) : List Char :=
  rejoin (splitColumn (splitLine (trim entry)).1).2 (splitLine (trim entry)).2

theorem OptionSpec.ofEntry_eq (entry : List Char) :
    ofEntry entry = { declaredOption (declarationOf entry) with
      default := describedDefault (descriptionOf entry) } := by
  simp only [ofEntry, declarationOf, descriptionOf]
  rcases splitLine (trim entry) with ⟨firstLine, _ | rest⟩ <;> rfl

end UsageGrammar
