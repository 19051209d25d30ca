import UsageGrammar.Proofs.WordSplitting

/-!
# The words of any expression

Whatever an expression holds, its words keep all of its visible characters in their order. A word
is a run of visible characters, or ends with a placeholder. A bracket, a bar or an ellipsis is a
word of its own wherever it stands, unless an opening angle bracket stands before it in its word.
-/

namespace UsageGrammar.Expression

open Text

variable {text word before after token : List Char} {c : Char}

/-- A text with its blank characters removed. -/
def withoutBlanks (text : List Char) : List Char :=
  text.filter fun c => !isBlank c

/-- The two forms of a word: a run of visible characters, and one that ends with a placeholder. -/
inductive Lexeme : List Char → Prop
  | run {word : List Char} : word ≠ [] → (∀ c ∈ word, isBlank c = false) → Lexeme word
  | placeholder {start inner : List Char} : (∀ c ∈ start, isBlank c = false) →
      Lexeme (start ++ '<' :: (inner ++ ['>']))

namespace Lexeme

theorem visible_head? (lexeme : Lexeme word) : ∃ first ∈ word.head?, isBlank first = false := by
  cases lexeme with
  | run some_char visible =>
      obtain ⟨first, rest, rfl⟩ := List.exists_cons_of_ne_nil some_char
      exact ⟨first, rfl, visible first List.mem_cons_self⟩
  | @placeholder start inner visible =>
      cases start with
      | nil => exact ⟨'<', rfl, rfl⟩
      | cons first start => exact ⟨first, rfl, visible first List.mem_cons_self⟩

theorem visible_getLast? (lexeme : Lexeme word) :
    ∃ last ∈ word.getLast?, isBlank last = false := by
  cases lexeme with
  | run some_char visible =>
      have last := List.getLast?_eq_some_getLast some_char
      exact ⟨_, last, visible _ (List.getLast_mem some_char)⟩
  | @placeholder start inner visible =>
      refine ⟨'>', ?_, rfl⟩
      rw [← List.cons_append, ← List.append_assoc, List.getLast?_concat]
      rfl

/-- A blank in a word stands behind an opening angle bracket. -/
theorem opening_mem_of_blank (lexeme : Lexeme word) (split : word = before ++ c :: after)
    (blank : isBlank c) : '<' ∈ before := by
  cases lexeme with
  | run _ visible =>
      rw [visible c (split ▸ List.mem_append_right before List.mem_cons_self)] at blank
      cases blank
  | @placeholder start inner visible =>
      rcases List.append_eq_append_iff.mp split with ⟨gap, rfl, rest⟩ | ⟨gap, rfl, rest⟩
      · cases gap with
        | nil =>
            obtain ⟨rfl, -⟩ := List.cons.inj rest
            cases blank
        | cons opening gap =>
            obtain ⟨rfl, -⟩ := List.cons.inj rest
            exact List.mem_append_right start List.mem_cons_self
      · cases gap with
        | nil =>
            obtain ⟨rfl, -⟩ := List.cons.inj rest
            cases blank
        | cons first gap =>
            obtain ⟨rfl, -⟩ := List.cons.inj rest
            rw [visible c (List.mem_append_right before List.mem_cons_self)] at blank
            cases blank

end Lexeme

section Splitting

theorem closePlaceholder?_ends {inner rest : List Char}
    (closed : closePlaceholder? text = some (inner, rest)) : ∃ held, inner = held ++ ['>'] := by
  induction text generalizing inner with
  | nil => cases closed
  | cons c text ih =>
      rw [closePlaceholder?] at closed
      split at closed
      · cases closed
      · split at closed
        · obtain ⟨rfl, rfl⟩ := Prod.mk.inj (Option.some.inj closed)
          exact ⟨[], rfl⟩
        · obtain ⟨⟨inner', rest'⟩, later, same⟩ := Option.map_eq_some_iff.mp closed
          obtain ⟨rfl, rfl⟩ := Prod.mk.inj same
          obtain ⟨held, rfl⟩ := ih later
          exact ⟨c :: held, rfl⟩

theorem placeholderWord?_ends {rest : List Char}
    (found : placeholderWord? text = some (word, rest)) :
    ∃ start inner, (∀ c ∈ start, isBlank c = false) ∧ word = start ++ '<' :: (inner ++ ['>']) := by
  induction text generalizing word with
  | nil => cases found
  | cons c text ih =>
      rw [placeholderWord?] at found
      split at found
      · cases found
      · next here =>
          have here : isBlank c = false := by simpa using here
          split at found
          · next later =>
              obtain ⟨rfl, rfl⟩ := Prod.mk.inj (Option.some.inj found)
              obtain ⟨start, inner, visible, rfl⟩ := ih later
              exact ⟨c :: start, inner, List.forall_mem_cons.mpr ⟨here, visible⟩, rfl⟩
          · split at found
            · next opening =>
                obtain ⟨⟨inner, rest'⟩, closed, same⟩ := Option.map_eq_some_iff.mp found
                obtain ⟨rfl, rfl⟩ := Prod.mk.inj same
                obtain ⟨held, rfl⟩ := closePlaceholder?_ends closed
                exact ⟨[], held, by simp, by rw [opening, List.nil_append]⟩
            · cases found

theorem firstWord_lexeme (visible : isBlank c = false) (text : List Char) :
    Lexeme (firstWord (c :: text)).1 := by
  have some_char := firstWord_ne_nil visible text
  rw [firstWord] at some_char ⊢
  cases found : placeholderWord? (c :: text) with
  | some split =>
      obtain ⟨start, inner, visible, same⟩ := placeholderWord?_ends found
      exact same ▸ .placeholder visible
  | none =>
      rw [found] at some_char
      refine .run some_char fun d member => ?_
      simpa using List.mem_takeWhile_imp member

/-- Every word has one of the two forms, and stands in the text. -/
theorem lexeme_of_mem_splitWords (member : word ∈ splitWords text) :
    Lexeme word ∧ word <:+: text := by
  fun_induction splitWords text with
  | case1 => cases member
  | case2 c text blank ih =>
      obtain ⟨lexeme, inside⟩ := ih member
      exact ⟨lexeme, inside.trans (List.suffix_cons c text).isInfix⟩
  | case3 c text visible ih =>
      have whole := firstWord_append (c :: text)
      have first : (firstWord (c :: text)).1 <+: c :: text := ⟨_, whole⟩
      have rest : (firstWord (c :: text)).2 <:+ c :: text := ⟨_, whole⟩
      rcases List.mem_cons.mp member with rfl | later
      · exact ⟨firstWord_lexeme (by simpa using visible) text, first.isInfix⟩
      · obtain ⟨lexeme, inside⟩ := ih later
        exact ⟨lexeme, inside.trans rest.isInfix⟩

theorem withoutBlanks_flatten_splitWords (text : List Char) :
    withoutBlanks (splitWords text).flatten = withoutBlanks text := by
  fun_induction splitWords text with
  | case1 => rfl
  | case2 c text blank ih =>
      rw [ih, withoutBlanks, withoutBlanks, List.filter_cons_of_neg (by simpa using blank)]
  | case3 c text visible ih =>
      rw [withoutBlanks] at ih ⊢
      rw [List.flatten_cons, List.filter_append, ih, withoutBlanks, ← List.filter_append,
        firstWord_append, withoutBlanks]

theorem splitWords_run (some_char : text ≠ []) (visible : ∀ c ∈ text, isBlank c = false)
    (incomplete : '<' ∉ text ∨ '>' ∉ text) : splitWords text = [text] := by
  obtain ⟨c, rest, rfl⟩ := List.exists_cons_of_ne_nil some_char
  exact splitWords_of_firstWord (visible c List.mem_cons_self) (firstWord_run visible incomplete)

end Splitting

section Isolation

theorem withoutBlanks_isolate (text : List Char) :
    withoutBlanks (isolate text) = withoutBlanks text := by
  have space : isBlank ' ' = true := rfl
  fun_induction isolate text with
  | case1 => rfl
  | case2 text ih | case3 c text single grouping ih | case4 c text single plain ih =>
      simp only [withoutBlanks] at ih ⊢
      simp [List.filter_cons, space, ih]

namespace IsStructure

theorem eq_nil_of_split {piece : List Char} (enclosing : IsStructure piece)
    (structural : IsStructure token) (split : piece = before ++ (token ++ after)) :
    before = [] ∧ after = [] := by
  have lengths := congrArg List.length split
  simp only [List.length_append] at lengths
  cases structural with
  | @grouping c grouping =>
      cases enclosing with
      | grouping =>
          simp only [List.length_singleton] at lengths
          exact ⟨List.length_eq_zero_iff.mp (by omega), List.length_eq_zero_iff.mp (by omega)⟩
      | ellipsis =>
          have dot : c ∈ ['.', '.', '.'] := split ▸ List.mem_append_right before List.mem_cons_self
          obtain rfl : c = '.' := by simpa using dot
          cases grouping
  | ellipsis =>
      have short : piece.length ≤ 3 := by cases enclosing <;> simp
      simp only [List.length_cons, List.length_nil] at lengths
      exact ⟨List.length_eq_zero_iff.mp (by omega), List.length_eq_zero_iff.mp (by omega)⟩

theorem split_at_space {front rest : List Char} (structural : IsStructure token)
    (split : front ++ ' ' :: rest = before ++ (token ++ after)) :
    (∃ gap, front = before ++ (token ++ gap) ∧ after = gap ++ ' ' :: rest) ∨
      ∃ gap, before = front ++ ' ' :: gap ∧ rest = gap ++ (token ++ after) := by
  have unspaced : ' ' ∉ token := structural.notMem rfl (by decide)
  rcases List.append_eq_append_iff.mp split with ⟨gap, rfl, later⟩ | ⟨gap, rfl, later⟩
  · cases gap with
    | nil =>
        obtain ⟨first, others, rfl⟩ := List.exists_cons_of_ne_nil structural.ne_nil
        obtain ⟨rfl, -⟩ := List.cons.inj later
        exact absurd List.mem_cons_self unspaced
    | cons space gap =>
        obtain ⟨rfl, rfl⟩ := List.cons.inj later
        exact .inr ⟨gap, rfl, rfl⟩
  · rcases List.append_eq_append_iff.mp later with ⟨gap', rfl, rfl⟩ | ⟨gap', rfl, follows⟩
    · exact .inl ⟨gap', rfl, rfl⟩
    · cases gap' with
      | nil => exact .inl ⟨[], by simp, follows.symm⟩
      | cons space gap' =>
          obtain ⟨rfl, -⟩ := List.cons.inj follows
          exact absurd (List.mem_append_right gap List.mem_cons_self) unspaced

/-- Spaces stand around structure where they stand around a piece and in what follows it. -/
theorem spaces_around_piece {piece rest : List Char} (enclosing : IsStructure piece)
    (structural : IsStructure token)
    (later : ∀ {gap}, rest = gap ++ (token ++ after) →
      gap.getLast? = some ' ' ∧ after.head? = some ' ')
    (split : ' ' :: (piece ++ ' ' :: rest) = before ++ (token ++ after)) :
    before.getLast? = some ' ' ∧ after.head? = some ' ' := by
  have behind_space : [] ++ ' ' :: (piece ++ ' ' :: rest) = before ++ (token ++ after) := split
  rcases structural.split_at_space behind_space with ⟨gap, none, -⟩ | ⟨gap, rfl, follows⟩
  · simp [structural.ne_nil] at none
  · rcases structural.split_at_space follows with ⟨gap', inside, rfl⟩ | ⟨gap', rfl, further⟩
    · obtain ⟨rfl, rfl⟩ := enclosing.eq_nil_of_split structural inside
      exact ⟨rfl, rfl⟩
    · obtain ⟨last, first⟩ := later further
      exact ⟨by simp [List.getLast?_append, List.getLast?_cons, last], first⟩

end IsStructure

theorem exists_dot_of_isolate {rest : List Char} (dot : isolate text = '.' :: rest) :
    ∃ later, text = '.' :: later ∧ isolate later = rest := by
  fun_induction isolate text with
  | case1 | case2 | case3 => simp at dot
  | case4 c text single plain ih =>
      obtain ⟨rfl, rfl⟩ := List.cons.inj dot
      exact ⟨text, rfl, rfl⟩

/-- What is set apart has a space on either side. -/
theorem spaces_around (structural : IsStructure token)
    (split : isolate text = before ++ (token ++ after)) :
    before.getLast? = some ' ' ∧ after.head? = some ' ' := by
  fun_induction isolate text generalizing before with
  | case1 =>
      have empty := List.append_eq_nil_iff.mp (List.append_eq_nil_iff.mp split.symm).2
      exact absurd empty.1 structural.ne_nil
  | case2 text ih => exact IsStructure.ellipsis.spaces_around_piece structural ih split
  | case3 c text single grouping ih =>
      exact (IsStructure.grouping grouping).spaces_around_piece structural ih split
  | case4 c text single plain ih =>
      cases before with
      | nil =>
          cases structural with
          | grouping grouping =>
              obtain ⟨rfl, -⟩ := List.cons.inj split
              exact absurd grouping plain
          | ellipsis =>
              obtain ⟨rfl, dots⟩ := List.cons.inj split
              obtain ⟨second, rfl, dot⟩ := exists_dot_of_isolate dots
              obtain ⟨third, rfl, -⟩ := exists_dot_of_isolate dot
              exact (single third rfl rfl).elim
      | cons d before =>
          obtain ⟨rfl, follows⟩ := List.cons.inj split
          obtain ⟨last, first⟩ := ih follows
          exact ⟨by simp [List.getLast?_cons, last], first⟩

end Isolation

/-- Structure is a word of its own, or stands behind an opening angle bracket: the spaces around it
are not in the word, since a blank in a word needs an opening bracket. -/
theorem structure_alone (member : word ∈ splitWords (isolate text)) (structural : IsStructure token)
    (split : word = before ++ (token ++ after)) : word = token ∨ '<' ∈ before := by
  obtain ⟨lexeme, left, right, whole⟩ := lexeme_of_mem_splitWords member
  have placed : isolate text = (left ++ before) ++ (token ++ (after ++ right)) := by
    rw [← whole, split]
    simp only [List.append_assoc]
  obtain ⟨space_before, space_after⟩ := spaces_around structural placed
  by_cases opened : '<' ∈ before
  · exact .inr opened
  have first : before = [] := by
    rcases List.eq_nil_or_concat before with none | ⟨front, last, rfl⟩
    · exact none
    · rw [List.concat_eq_append, ← List.append_assoc, List.getLast?_concat] at space_before
      obtain rfl := Option.some.inj space_before
      have spaced : word = front ++ ' ' :: (token ++ after) := by simp [split]
      have opening := lexeme.opening_mem_of_blank spaced rfl
      exact absurd (by simp [opening]) opened
  have last : after = [] := by
    cases after with
    | nil => rfl
    | cons space after =>
        obtain rfl := Option.some.inj space_after
        have spaced : word = (before ++ token) ++ ' ' :: after := by simp [split]
        rcases List.mem_append.mp (lexeme.opening_mem_of_blank spaced rfl) with early | inside
        · exact absurd early opened
        · exact absurd inside (structural.notMem rfl (by decide))
  exact .inl (by simp [split, first, last])

theorem toList_mem_of_mem_wordsOf {source word : String} (member : word ∈ wordsOf source) :
    word.toList ∈ splitWords (isolate source.toList) := by
  obtain ⟨letters, split, rfl⟩ := List.mem_map.mp member
  rwa [String.toList_ofList]

/-- The words of an expression hold its visible characters in their order. No word is empty, or
begins or ends with a blank. A bracket, a bar or an ellipsis is a word of its own, unless an opening
angle bracket stands before it in its word. Nothing else is cut: a source of visible characters with
no structure and no closing angle bracket is one word. -/
theorem wordsOf_lossless (source : String) :
    withoutBlanks (String.join (wordsOf source)).toList = withoutBlanks source.toList ∧
      (∀ word ∈ wordsOf source, word ≠ "" ∧
        (∃ first ∈ word.toList.head?, isBlank first = false) ∧
        (∃ last ∈ word.toList.getLast?, isBlank last = false) ∧
        ∀ before token after, IsStructure token → word.toList = before ++ (token ++ after) →
          word.toList = token ∨ '<' ∈ before) ∧
      (source ≠ "" → (∀ c ∈ source.toList, isBlank c = false ∧ c ≠ '>') →
        (∀ token, IsStructure token → ¬ token <:+: source.toList) → wordsOf source = [source]) := by
  refine ⟨?_, fun word member => ?_, fun some_char ordinary unstructured => ?_⟩
  · have joined : (String.join (wordsOf source)).toList =
        (splitWords (isolate source.toList)).flatten := by
      simp [wordsOf, List.flatMap_map, List.flatMap_id']
    rw [joined, withoutBlanks_flatten_splitWords, withoutBlanks_isolate]
  · have member := toList_mem_of_mem_wordsOf member
    have lexeme := (lexeme_of_mem_splitWords member).1
    refine ⟨?_, lexeme.visible_head?, lexeme.visible_getLast?, fun before token after => ?_⟩
    · rintro rfl
      obtain ⟨first, none, -⟩ := lexeme.visible_head?
      cases none
    · exact structure_alone member
  · have letters : source.toList ≠ [] := by simpa using some_char
    have unclosed : '>' ∉ source.toList := fun member => (ordinary _ member).2 rfl
    rw [wordsOf, isolate_eq_self_iff.mpr unstructured,
      splitWords_run letters (fun c member => (ordinary c member).1) (.inr unclosed),
      List.map_singleton, String.ofList_toList]

end UsageGrammar.Expression
