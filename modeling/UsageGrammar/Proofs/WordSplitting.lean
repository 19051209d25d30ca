import Mathlib.Data.List.TakeWhile
import UsageGrammar.Expression.Words

/-!
# Splitting an expression into words

A blank ends every word except a placeholder that is still open. An expression whose placeholders
are closed therefore has the same words alone and before a blank, whatever follows the blank. So
expressions can be joined, and their words read one after another.
-/

namespace UsageGrammar.Expression

open Text

/-- A closing angle bracket stands somewhere after every opening one. -/
def closesPlaceholders : List Char → Bool
  | [] => true
  | c :: text => (c != '<' || text.contains '>') && closesPlaceholders text

/-- What gives an expression its structure: a bracket, a bar or an ellipsis. -/
inductive IsStructure : List Char → Prop
  | grouping {c : Char} : isGrouping c → IsStructure [c]
  | ellipsis : IsStructure ['.', '.', '.']

variable {text later : List Char} {c : Char}

theorem closesPlaceholders_cons_iff :
    closesPlaceholders (c :: text) ↔ (c = '<' → '>' ∈ text) ∧ closesPlaceholders text := by
  simp [closesPlaceholders, Decidable.imp_iff_not_or]

theorem closesPlaceholders_of_append {before after : List Char}
    (closed : closesPlaceholders (before ++ after)) : closesPlaceholders after := by
  induction before with
  | nil => exact closed
  | cons c before ih => exact ih (closesPlaceholders_cons_iff.mp closed).2

section Isolate

theorem isolate_cons (ungrouped : isGrouping c = false) (other : c ≠ '.') (text : List Char) :
    isolate (c :: text) = c :: isolate text := by
  rw [isolate, if_neg (by simp [ungrouped])]
  exact fun _ dot => absurd dot other

theorem apart_of_cons (apart : (c :: text).getLast? = some '.' → later.head? ≠ some '.')
    (last : text.getLast? = some '.') : later.head? ≠ some '.' := by
  refine apart ?_
  rw [List.getLast?_cons, last]
  rfl

theorem not_ellipsis_append
    (single : ∀ tail, c = '.' → text = '.' :: '.' :: tail → False)
    (apart : (c :: text).getLast? = some '.' → later.head? ≠ some '.') (rest : List Char)
    (dot : c = '.') : text ++ later ≠ '.' :: '.' :: rest := by
  intro whole
  rcases text with _ | ⟨second, _ | ⟨third, tail⟩⟩
  · exact apart (congrArg some dot) (congrArg List.head? whole)
  · obtain ⟨rfl, meets⟩ := List.cons.inj whole
    exact apart rfl (congrArg List.head? meets)
  · obtain ⟨rfl, rfl, -⟩ := by simpa using whole
    exact single tail dot rfl

/-- Setting brackets apart does not reach from one text into another, unless dots meet. -/
theorem isolate_append (apart : text.getLast? = some '.' → later.head? ≠ some '.') :
    isolate (text ++ later) = isolate text ++ isolate later := by
  fun_induction isolate text with
  | case1 => rfl
  | case2 text ih =>
      have rest_apart := apart_of_cons (apart_of_cons (apart_of_cons apart))
      simp [isolate, ih rest_apart]
  | case3 c text single grouping ih =>
      rw [List.cons_append, isolate, if_pos grouping, ih (apart_of_cons apart), List.append_assoc]
      exact not_ellipsis_append single apart
  | case4 c text single plain ih =>
      rw [List.cons_append, isolate, if_neg plain, ih (apart_of_cons apart)]
      · rfl
      · exact not_ellipsis_append single apart

namespace IsStructure

variable {token : List Char}

theorem ne_nil (structural : IsStructure token) : token ≠ [] := by
  cases structural <;> nofun

theorem notMem (structural : IsStructure token) (ungrouped : isGrouping c = false)
    (other : c ≠ '.') : c ∉ token := by
  intro member
  cases structural with
  | grouping grouping =>
      rw [← List.mem_singleton.mp member, ungrouped] at grouping
      cases grouping
  | ellipsis => exact other (by simpa using member)

end IsStructure

/-- A text is isolated already exactly if there is nothing in it to set apart. -/
theorem isolate_eq_self_iff :
    isolate text = text ↔ ∀ token, IsStructure token → ¬ token <:+: text := by
  fun_induction isolate text with
  | case1 => simpa using fun _ structural => structural.ne_nil
  | case2 text ih =>
      have ellipsis : ['.', '.', '.'] <:+: '.' :: '.' :: '.' :: text :=
        (List.prefix_append ['.', '.', '.'] text).isInfix
      exact iff_of_false (by simp) fun apart => apart _ .ellipsis ellipsis
  | case3 c text single grouping ih =>
      have spaced : ¬ [' ', c, ' '] ++ isolate text = c :: text := by
        intro same
        obtain ⟨rfl, -⟩ := List.cons.inj same
        cases grouping
      exact iff_of_false spaced fun apart =>
        apart _ (.grouping grouping) (List.prefix_append [c] text).isInfix
  | case4 c text single plain ih =>
      have not_first (token : List Char) (structural : IsStructure token) :
          ¬ token <+: c :: text := by
        rintro ⟨rest, whole⟩
        cases structural with
        | grouping grouping =>
            obtain ⟨rfl, -⟩ := List.cons.inj whole
            exact plain grouping
        | ellipsis =>
            obtain ⟨rfl, rfl⟩ := List.cons.inj whole
            exact single rest rfl rfl
      simp only [List.cons_inj_right, ih, List.infix_cons_iff, not_or]
      exact ⟨fun apart token structural => ⟨not_first token structural, apart token structural⟩,
        fun apart token structural => (apart token structural).2⟩

theorem mem_isolate_iff (other : c ≠ ' ') : c ∈ isolate text ↔ c ∈ text := by
  fun_induction isolate text with
  | case1 => rfl
  | case2 | case3 | case4 => grind

theorem closesPlaceholders_isolate (closed : closesPlaceholders text) :
    closesPlaceholders (isolate text) := by
  fun_induction isolate text with
  | case1 => rfl
  | case2 text ih =>
      have rest : closesPlaceholders text :=
        closesPlaceholders_of_append (show closesPlaceholders (['.', '.', '.'] ++ text) from closed)
      simpa [closesPlaceholders] using ih rest
  | case3 c text single grouping ih =>
      obtain ⟨-, closed⟩ := closesPlaceholders_cons_iff.mp closed
      have other : c ≠ '<' := by
        rintro rfl
        cases grouping
      simpa [closesPlaceholders, other] using ih closed
  | case4 c text single plain ih =>
      obtain ⟨closing, closed⟩ := closesPlaceholders_cons_iff.mp closed
      exact closesPlaceholders_cons_iff.mpr
        ⟨fun opening => (mem_isolate_iff (by decide)).mpr (closing opening), ih closed⟩

end Isolate

section FirstWord

theorem closePlaceholder?_of_mem (closing : '>' ∈ text) (later : List Char) :
    closePlaceholder? (text ++ later) =
      (closePlaceholder? text).map fun (inner, rest) => (inner, rest ++ later) := by
  induction text with
  | nil => cases closing
  | cons c text ih =>
      rw [List.cons_append, closePlaceholder?, closePlaceholder?]
      split
      · rfl
      · split
        · rfl
        · next other =>
            rw [ih ((List.mem_cons.mp closing).resolve_left (Ne.symm other)), Option.map_map,
              Option.map_map]
            rfl

/-- What closes a placeholder is the first closing bracket, if it stands on the same line. -/
theorem closePlaceholder?_append_closing (same_line : '\n' ∉ text) (open_until : '>' ∉ text)
    (later : List Char) :
    closePlaceholder? (text ++ '>' :: later) = some (text ++ ['>'], later) := by
  induction text with
  | nil => rfl
  | cons c text ih =>
      obtain ⟨here, same_line⟩ := List.ne_and_not_mem_of_not_mem_cons same_line
      obtain ⟨inside, open_until⟩ := List.ne_and_not_mem_of_not_mem_cons open_until
      rw [List.cons_append, closePlaceholder?, if_neg (Ne.symm here), if_neg (Ne.symm inside),
        ih same_line open_until]
      rfl

theorem closePlaceholder?_eq_none (unclosed : '>' ∉ text) : closePlaceholder? text = none := by
  induction text with
  | nil => rfl
  | cons c text ih =>
      obtain ⟨inside, unclosed⟩ := List.ne_and_not_mem_of_not_mem_cons unclosed
      rw [closePlaceholder?, if_neg (Ne.symm inside), ih unclosed]
      split <;> rfl

theorem placeholderWord?_eq_none (incomplete : '<' ∉ text ∨ '>' ∉ text) :
    placeholderWord? text = none := by
  induction text with
  | nil => rfl
  | cons c text ih =>
      have later : '<' ∉ text ∨ '>' ∉ text :=
        incomplete.imp List.not_mem_of_not_mem_cons List.not_mem_of_not_mem_cons
      rw [placeholderWord?, ih later]
      rcases incomplete with unopened | unclosed
      · simp [Ne.symm (List.ne_of_not_mem_cons unopened)]
      · simp [closePlaceholder?_eq_none (List.not_mem_of_not_mem_cons unclosed)]

/-- A word that ends with a placeholder is cut off behind it, whatever follows. -/
theorem placeholderWord?_append_closing {inner : List Char}
    (visible : ∀ c ∈ text, isBlank c = false) (same_line : '\n' ∉ inner)
    (open_until : '>' ∉ inner) (last : placeholderWord? (inner ++ '>' :: later) = none) :
    placeholderWord? (text ++ '<' :: (inner ++ '>' :: later)) =
      some (text ++ '<' :: (inner ++ ['>']), later) := by
  induction text with
  | nil =>
      rw [List.nil_append, placeholderWord?, last,
        closePlaceholder?_append_closing same_line open_until]
      rfl
  | cons c text ih =>
      obtain ⟨here, visible⟩ := List.forall_mem_cons.mp visible
      rw [List.cons_append, placeholderWord?, ih visible]
      simp [here]

theorem firstWord_run (visible : ∀ c ∈ text, isBlank c = false)
    (incomplete : '<' ∉ text ∨ '>' ∉ text) : firstWord text = (text, []) := by
  have shown : ∀ c ∈ text, (!isBlank c) = true := fun c member => by simp [visible c member]
  rw [firstWord, placeholderWord?_eq_none incomplete, Option.getD_none,
    List.takeWhile_eq_self_iff.mpr shown, List.dropWhile_eq_nil_iff.mpr shown]

theorem placeholderWord?_blank (blank : isBlank c) (closed : closesPlaceholders text)
    (later : List Char) :
    placeholderWord? (text ++ c :: later) =
      (placeholderWord? text).map fun (word, rest) => (word, rest ++ c :: later) := by
  induction text with
  | nil => simp [placeholderWord?, blank]
  | cons first text ih =>
      obtain ⟨closing, closed⟩ := closesPlaceholders_cons_iff.mp closed
      rw [List.cons_append, placeholderWord?, placeholderWord?, ih closed]
      split
      · rfl
      · cases placeholderWord? text with
        | some found => rfl
        | none =>
            dsimp only [Option.map_none]
            split
            · next opening =>
                rw [closePlaceholder?_of_mem (closing opening), Option.map_map, Option.map_map]
                rfl
            · rfl

theorem takeWhile_blank (blank : isBlank c) (text later : List Char) :
    (text ++ c :: later).takeWhile (fun c => !isBlank c) = text.takeWhile fun c => !isBlank c := by
  induction text with
  | nil => simp [blank]
  | cons first text ih => simp only [List.cons_append, List.takeWhile_cons, ih]

theorem dropWhile_blank (blank : isBlank c) (text later : List Char) :
    (text ++ c :: later).dropWhile (fun c => !isBlank c) =
      (text.dropWhile fun c => !isBlank c) ++ c :: later := by
  induction text with
  | nil => simp [blank]
  | cons first text ih =>
      simp only [List.cons_append, List.dropWhile_cons, ih]
      split <;> rfl

theorem firstWord_blank (blank : isBlank c) (closed : closesPlaceholders text)
    (later : List Char) :
    firstWord (text ++ c :: later) = ((firstWord text).1, (firstWord text).2 ++ c :: later) := by
  rw [firstWord, firstWord, placeholderWord?_blank blank closed]
  cases placeholderWord? text with
  | some found => rfl
  | none =>
      simp only [Option.map_none, Option.getD_none, takeWhile_blank blank, dropWhile_blank blank]

end FirstWord

theorem splitWords_of_firstWord (visible : isBlank c = false)
    (whole : firstWord (c :: text) = (c :: text, [])) : splitWords (c :: text) = [c :: text] := by
  rw [splitWords, dif_neg (by simp [visible]), whole, splitWords]

/-- A text whose placeholders are closed has its own words before a blank. -/
theorem splitWords_append (closed : closesPlaceholders text) (blank : isBlank c)
    (later : List Char) :
    splitWords (text ++ c :: later) = splitWords text ++ splitWords later := by
  fun_induction splitWords text with
  | case1 => simp [splitWords, blank]
  | case2 first text blank_first ih =>
      rw [List.cons_append, splitWords, dif_pos blank_first]
      exact ih (closesPlaceholders_cons_iff.mp closed).2
  | case3 first text visible ih =>
      have rest_closed : closesPlaceholders (firstWord (first :: text)).2 :=
        closesPlaceholders_of_append (by rwa [firstWord_append])
      rw [List.cons_append, splitWords, dif_neg visible, ← List.cons_append,
        firstWord_blank blank closed, ih rest_closed]
      rfl

variable {first : String} {texts : List String}

theorem wordsOf_empty : wordsOf "" = [] := by
  rw [wordsOf, String.toList_empty, isolate, splitWords]
  rfl

/-- Expressions that are joined by a space keep their words. -/
theorem wordsOf_append (closed : closesPlaceholders first.toList) (second : String) :
    wordsOf (first ++ " " ++ second) = wordsOf first ++ wordsOf second := by
  have joined : (first ++ " " ++ second).toList = first.toList ++ ' ' :: second.toList := by
    simp
  have isolated : isolate (first.toList ++ ' ' :: second.toList) =
      isolate first.toList ++ ' ' :: isolate second.toList := by
    rw [isolate_append fun _ => by simp, isolate_cons rfl (by decide)]
  rw [wordsOf, joined, isolated, splitWords_append (closesPlaceholders_isolate closed) rfl,
    List.map_append]
  rfl

/-- An ellipsis is a word of its own behind an expression that does not end with a dot. -/
theorem wordsOf_ellipsis (closed : closesPlaceholders first.toList)
    (last : first.toList.getLast? ≠ some '.') :
    wordsOf (first ++ "...") = wordsOf first ++ ["..."] := by
  have isolated : isolate (first ++ "...").toList =
      isolate first.toList ++ ' ' :: "... ".toList := by
    rw [String.toList_append, isolate_append fun dot => absurd dot last]
    rfl
  have ellipsis : splitWords "... ".toList = ["...".toList] := by decide +kernel
  rw [wordsOf, isolated, splitWords_append (closesPlaceholders_isolate closed) rfl, ellipsis,
    List.map_append]
  rfl

theorem wordsOf_bar (closed : closesPlaceholders first.toList) (second : String) :
    wordsOf (first ++ " | " ++ second) = wordsOf first ++ "|" :: wordsOf second := by
  have joined : first ++ " | " ++ second = first ++ " " ++ ("|" ++ " " ++ second) := by
    have separator : " | " = " " ++ "|" ++ " " := rfl
    simp only [separator, String.append_assoc]
  have bar : wordsOf "|" = ["|"] := by decide +kernel
  rw [joined, wordsOf_append closed, wordsOf_append rfl, bar]
  rfl

/-- Of several texts that are joined by spaces, those at the front keep their words. -/
theorem wordsOf_intercalate_append (closed : closesPlaceholders (" ".intercalate texts).toList)
    (others : List String) :
    wordsOf (" ".intercalate (texts ++ others)) =
      wordsOf (" ".intercalate texts) ++ wordsOf (" ".intercalate others) := by
  by_cases none_first : texts = []
  · subst none_first
    simp [wordsOf_empty]
  · by_cases none_second : others = []
    · subst none_second
      simp [wordsOf_empty]
    · rw [String.intercalate_append_of_ne_nil none_first none_second, wordsOf_append closed]

end UsageGrammar.Expression
