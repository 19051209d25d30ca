import UsageGrammar.Text.Blank

/-!
# The lines of a text

No line holds a newline. What is put before a text without a newline is put before its first line.
-/

namespace UsageGrammar.Text

variable {text front after line piece : List Char}

theorem eq_false_of_mem_splitOnP {separates : Char → Bool}
    (member : piece ∈ text.splitOnP separates) : ∀ c ∈ piece, separates c = false := by
  induction text generalizing piece with
  | nil =>
      rw [List.splitOnP_nil] at member
      simp [List.mem_singleton.mp member]
  | cons c text ih =>
      obtain ⟨first, pieces, split⟩ :=
        List.exists_cons_of_ne_nil (List.splitOnP_ne_nil separates text)
      rw [List.splitOnP_cons_eq_if_modifyHead] at member
      split at member
      · rcases List.mem_cons.mp member with rfl | later
        · simp
        · exact ih later
      · next other =>
          rw [split, List.modifyHead_cons] at member
          rcases List.mem_cons.mp member with rfl | later
          · have inside := ih (split ▸ List.mem_cons_self)
            exact List.forall_mem_cons.mpr ⟨by simpa using other, inside⟩
          · exact ih (split ▸ List.mem_cons_of_mem _ later)

theorem newline_notMem_of_mem_splitOn (member : piece ∈ text.splitOn '\n') : '\n' ∉ piece := by
  rw [List.splitOn_eq_splitOnP] at member
  exact fun newline => by cases eq_false_of_mem_splitOnP member _ newline

theorem splitOn_append (one_line : '\n' ∉ front) (after : List Char) :
    (front ++ after).splitOn '\n' = (after.splitOn '\n').modifyHead (front ++ ·) := by
  induction front with
  | nil =>
      obtain ⟨first, pieces, split⟩ :=
        List.exists_cons_of_ne_nil (List.splitOn_ne_nil '\n' after)
      rw [List.nil_append, split]
      rfl
  | cons c front ih =>
      obtain ⟨other, one_line⟩ := List.ne_and_not_mem_of_not_mem_cons one_line
      rw [List.cons_append, List.splitOn_cons_eq_if_modifyHead, ih one_line,
        if_neg (by simpa using other.symm), List.modifyHead_modifyHead]
      rfl

theorem dropReturn_prefix_self (line : List Char) : dropReturn line <+: line := by
  rw [dropReturn]
  split
  · exact List.dropLast_prefix line
  · exact List.prefix_rfl

theorem dropReturn_append (last : front.getLast? ≠ some '\r') (line : List Char) :
    dropReturn (front ++ line) = front ++ dropReturn line := by
  cases line with
  | nil => simp [dropReturn, last]
  | cons c line =>
      have ends : (front ++ c :: line).getLast? = (c :: line).getLast? := by
        rw [List.getLast?_append, List.getLast?_cons]
        rfl
      rw [dropReturn, dropReturn, ends, List.dropLast_append_of_ne_nil (by simp)]
      split <;> rfl

theorem newline_notMem_of_mem_lines (member : line ∈ lines text) : '\n' ∉ line := by
  have ended {line : List Char} (member : line ∈ (text.splitOn '\n').dropLast.map dropReturn) :
      '\n' ∉ line := by
    obtain ⟨piece, held, rfl⟩ := List.mem_map.mp member
    have inside := newline_notMem_of_mem_splitOn ((List.dropLast_sublist _).mem held)
    exact fun newline => inside ((dropReturn_prefix_self piece).subset newline)
  rw [lines] at member
  split at member
  · exact ended member
  · next rest last =>
      split at member
      · exact ended member
      · rcases List.mem_append.mp member with earlier | here
        · exact ended earlier
        · rw [List.mem_singleton.mp here]
          exact newline_notMem_of_mem_splitOn (List.mem_of_getLast? last)

/-- Lines that are written one after another, each with a newline at its end, are told apart. -/
theorem splitOn_flatMap_newline {written : List (List Char)}
    (one_line : ∀ line ∈ written, '\n' ∉ line) :
    (written.flatMap (· ++ ['\n'])).splitOn '\n' = written ++ [[]] := by
  induction written with
  | nil => rfl
  | cons line written ih =>
      obtain ⟨here, later⟩ := List.forall_mem_cons.mp one_line
      rw [List.flatMap_cons, List.append_assoc, List.singleton_append,
        List.splitOn_append_cons_self_of_not_mem here, ih later, List.cons_append]

theorem intercalate_cons (separator text : List Char) (others : List (List Char)) :
    separator.intercalate (text :: others) = text ++ others.flatMap (separator ++ ·) := by
  induction others generalizing text with
  | nil => simp
  | cons next others ih =>
      rw [List.intercalate_cons_cons, ih, List.flatMap_cons]
      simp

theorem intercalate_newline (line : List Char) (others : List (List Char)) :
    ['\n'].intercalate (line :: others) = line ++ others.flatMap ('\n' :: ·) :=
  intercalate_cons ['\n'] line others

/-- What is put before a text is put before its first line. -/
theorem lines_append (some_front : front ≠ []) (one_line : '\n' ∉ front)
    (last : front.getLast? ≠ some '\r') (after : List Char) :
    lines (front ++ after) =
      match lines after with
      | [] => [front]
      | line :: others => (front ++ line) :: others := by
  obtain ⟨piece, pieces, split⟩ :=
    List.exists_cons_of_ne_nil (List.splitOn_ne_nil '\n' after)
  simp only [lines, splitOn_append one_line, split, List.modifyHead_cons]
  cases pieces with
  | nil =>
      cases piece with
      | nil => simp [some_front]
      | cons c piece => simp
  | cons next pieces =>
      simp only [List.dropLast_cons_cons, List.map_cons, List.getLast?_cons_cons,
        dropReturn_append last]
      cases (next :: pieces).getLast? with
      | none => rfl
      | some rest => by_cases none_left : rest.isEmpty <;> simp [none_left]

end UsageGrammar.Text
