import UsageGrammar.Proofs.Compilation
import UsageGrammar.Proofs.Nesting
import UsageGrammar.Proofs.WordSplitting

/-!
# Alternatives of a usage section

Brackets are checked in the formal expression, where every alternative stands between brackets that
the usage section does not have. What is read of the whole is therefore properly nested, but an
alternative may close the bracket around it and leave another one open. It does so only if it closes
a bracket where none of its own is open.
-/

namespace UsageGrammar

/-- The alternatives of a usage section: the words from one mention of the program to the next. -/
def alternativesOf (text : String) : List String :=
  match (Text.words (afterLabel "usage:" text.toList)).map String.ofList with
  | [] => []
  | program :: rest => (rest.splitOn program).map (" ".intercalate ·)

namespace Expression

section Scan

/-- Goes on with a scan where more brackets are open and more words follow. -/
def Nesting.followedBy (outer : List Bracket) (more : List String) : Nesting → Nesting
  | leaves opened => nestingOf (opened ++ outer) more
  | stray words => nestingOf outer (words ++ more)
  | crossed innermost => .crossed innermost

theorem nestingOf_append (inner outer : List Bracket) (words more : List String) :
    nestingOf (inner ++ outer) (words ++ more) =
      (nestingOf inner words).followedBy outer more := by
  fun_induction nestingOf inner words with
  | case1 => rfl
  | case2 inner word words bracket opens ih =>
      rw [← ih]
      simp only [List.cons_append, nestingOf, opens]
  | case3 => rfl
  | case4 word words opens bracket outside closes ih =>
      rw [← ih]
      simp only [List.cons_append, nestingOf, opens, closes, if_true]
  | case5 word words bracket closes opens innermost outside other =>
      simp only [List.cons_append, nestingOf, opens, closes, if_neg other, Nesting.followedBy]
  | case6 inner word words opens closes ih =>
      rw [← ih]
      simp only [List.cons_append, nestingOf, opens, closes]

/-- The word opens or closes a bracket. -/
def isBracket (word : String) : Bool :=
  (Bracket.openedBy? word).isSome || (Bracket.closedBy? word).isSome

/-- Whether a scan goes through depends on the brackets alone. -/
theorem nestingOf_filter_eq_leaves_iff {opened left : List Bracket} {words : List String} :
    nestingOf opened (words.filter isBracket) = .leaves left ↔
      nestingOf opened words = .leaves left := by
  fun_induction nestingOf opened words with
  | case1 => rfl
  | case2 opened word words bracket opens ih =>
      rw [← ih]
      simp [isBracket, opens, nestingOf]
  | case3 word words bracket closes opens =>
      simp [isBracket, opens, closes, nestingOf]
  | case4 word words opens bracket outside closes ih =>
      rw [← ih]
      simp [isBracket, opens, closes, nestingOf]
  | case5 word words bracket closes opens innermost outside other =>
      simp [isBracket, opens, closes, nestingOf, other]
  | case6 opened word words opens closes ih =>
      rw [← ih]
      simp [isBracket, opens, closes]

end Scan

section Enclosed

/-- All brackets of the words are closed in their order. -/
def Nested (words : List String) : Prop :=
  nestingOf [] words = .leaves []

/-- Some word closes a bracket where none is open. -/
def Strays (words : List String) : Prop :=
  ∃ from_there, nestingOf [] words = .stray from_there

instance : DecidablePred Nested := fun words =>
  inferInstanceAs (Decidable (nestingOf [] words = .leaves []))

instance : DecidablePred Strays := fun words =>
  match scanned : nestingOf [] words with
  | .stray from_there => .isTrue ⟨from_there, scanned⟩
  | .leaves _ | .crossed _ => .isFalse fun ⟨_, stray⟩ => by cases scanned.symm.trans stray

variable {outer left : List Bracket} {words more : List String}

theorem Nested.not_strays (nested : Nested words) : ¬ Strays words := by
  rintro ⟨from_there, stray⟩
  cases nested.symm.trans stray

/-- The end of a round bracket around words that close no bracket but their own. It closes the
bracket around them if they are nested, and otherwise one of theirs. -/
theorem exists_outer_of_enclosed (closed : ¬ Strays words)
    (scanned : nestingOf (.round :: outer) (words ++ ")" :: more) = .leaves left) :
    ∃ outer', nestingOf outer' more = .leaves left ∧ outer.length ≤ outer'.length ∧
      (outer'.length = outer.length → Nested words) := by
  have split := nestingOf_append [] (.round :: outer) words (")" :: more)
  rw [List.nil_append, scanned] at split
  cases inside : nestingOf [] words with
  | stray from_there => exact absurd ⟨from_there, inside⟩ closed
  | crossed innermost => rw [inside] at split; cases split
  | leaves opened =>
      rw [inside] at split
      cases opened with
      | nil =>
          refine ⟨outer, ?_, Nat.le_refl _, fun _ => inside⟩
          exact (nestingOf_closer .round).symm.trans split.symm
      | cons innermost opened =>
          cases innermost with
          | round =>
              refine ⟨opened ++ .round :: outer, ?_, ?_, fun same => ?_⟩
              · exact (nestingOf_closer .round).symm.trans split.symm
              · simp only [List.length_append, List.length_cons]
                omega
              · simp only [List.length_append, List.length_cons] at same
                omega
          | square =>
              have crossed : nestingOf (.square :: (opened ++ .round :: outer))
                  (Bracket.round.closer :: more) = .crossed .square :=
                nestingOf_closer_of_ne (by decide)
              cases split.trans crossed

/-- The words of alternatives, each between round brackets of its own, with bars in between. -/
def enclosed (alternatives : List (List String)) : List String :=
  "(" :: [")", "|", "("].intercalate alternatives ++ [")"]

theorem length_le_of_enclosed {alternatives : List (List String)} (some_words : alternatives ≠ [])
    (closed : ∀ words ∈ alternatives, ¬ Strays words)
    (scanned : nestingOf (.round :: outer) ([")", "|", "("].intercalate alternatives ++ [")"]) =
      .leaves left) :
    outer.length ≤ left.length ∧
      (left.length = outer.length → ∀ words ∈ alternatives, Nested words) := by
  induction alternatives generalizing outer with
  | nil => contradiction
  | cons words others ih =>
      have first_closed := closed words List.mem_cons_self
      cases others with
      | nil =>
          rw [List.intercalate_singleton] at scanned
          obtain ⟨outer', ended, least, nested⟩ := exists_outer_of_enclosed first_closed scanned
          obtain rfl : outer' = left := Nesting.leaves.inj ended
          exact ⟨least, fun same other member => List.mem_singleton.mp member ▸ nested same⟩
      | cons second others =>
          rw [List.intercalate_cons_cons, List.append_assoc, List.append_assoc] at scanned
          obtain ⟨outer', ended, least, nested⟩ := exists_outer_of_enclosed first_closed scanned
          obtain ⟨least', nested'⟩ := ih (List.cons_ne_nil _ _)
            (fun other member => closed other (List.mem_cons_of_mem _ member)) ended
          refine ⟨Nat.le_trans least least', fun same other member => ?_⟩
          rcases List.mem_cons.mp member with rfl | later
          · exact nested (by omega)
          · exact nested' (by omega) other later

/-- Alternatives that close no bracket but their own are nested if they are nested together. -/
theorem nested_of_enclosed {alternatives : List (List String)}
    (closed : ∀ words ∈ alternatives, ¬ Strays words) (nested : Nested (enclosed alternatives)) :
    ∀ words ∈ alternatives, Nested words := by
  by_cases none_listed : alternatives = []
  · simp [none_listed]
  · exact (length_le_of_enclosed none_listed closed nested).2 rfl

end Enclosed

end Expression

section Formal

open Expression

theorem map_mark_eq (program mark : String) (words : List String) :
    (words.map fun word => if word = program then mark else word) =
      [mark].intercalate (words.splitOn program) := by
  induction words with
  | nil => rfl
  | cons word words ih =>
      obtain ⟨group, groups, split⟩ :=
        List.exists_cons_of_ne_nil (List.splitOn_ne_nil program words)
      rw [List.map_cons, ih, List.splitOn_cons_eq_if_modifyHead, split]
      by_cases mention : word = program
      · simp [mention, List.intercalate_cons_cons]
      · cases groups <;> simp [mention, List.intercalate_cons_cons]

/-- Groups whose placeholders are closed keep their words among the brackets between them. -/
theorem wordsOf_marked {groups : List (List String)}
    (closed : ∀ group ∈ groups, closesPlaceholders (" ".intercalate group).toList)
    (others : List String) :
    wordsOf (" ".intercalate ([") | ("].intercalate groups ++ others)) =
      [")", "|", "("].intercalate (groups.map fun group => wordsOf (" ".intercalate group)) ++
        wordsOf (" ".intercalate others) := by
  induction groups with
  | nil => rfl
  | cons group groups ih =>
      have first_closed := closed group List.mem_cons_self
      cases groups with
      | nil =>
          rw [List.intercalate_singleton, List.map_singleton, List.intercalate_singleton]
          exact wordsOf_intercalate_append first_closed others
      | cons second groups =>
          have later := ih fun other member => closed other (List.mem_cons_of_mem _ member)
          have mark : wordsOf (" ".intercalate [") | ("]) = [")", "|", "("] := by decide +kernel
          rw [List.intercalate_cons_cons, List.append_assoc, List.append_assoc,
            wordsOf_intercalate_append first_closed, wordsOf_intercalate_append (by decide), mark,
            later]
          simp only [List.map_cons, List.intercalate_cons_cons, List.append_assoc]

theorem wordsOf_formalUsage {text formal : String} (reduced : formalUsage text = .ok formal)
    (closed : ∀ alternative ∈ alternativesOf text, closesPlaceholders alternative.toList) :
    wordsOf formal = enclosed ((alternativesOf text).map wordsOf) := by
  unfold formalUsage expressionOf at reduced
  unfold alternativesOf at closed ⊢
  split at reduced
  · cases reduced
  · next program same =>
      obtain rfl := Except.ok.inj reduced
      have pair : wordsOf "( )" = ["(", ")"] := by decide +kernel
      rw [same, pair]
      simp [List.splitOn_nil, wordsOf_empty, enclosed]
  · next program rest some_words same =>
      obtain rfl := Except.ok.inj reduced
      simp only [same, List.mem_map, forall_exists_index, and_imp, forall_apply_eq_imp_iff₂,
        List.map_map] at closed ⊢
      have joined : "( " ++ " ".intercalate
          (rest.map fun word => if word = program then ") | (" else word) ++ " )" =
            " ".intercalate (["("] ++ ([") | ("].intercalate (rest.splitOn program) ++ [")"])) := by
        have marked : [") | ("].intercalate (rest.splitOn program) ≠ [] := by
          rw [← map_mark_eq]
          simpa using some_words
        rw [map_mark_eq, String.intercalate_append_of_ne_nil (by simp) (by simp),
          String.intercalate_append_of_ne_nil marked (by simp)]
        simp [← String.toList_inj]
      have opening : wordsOf (" ".intercalate ["("]) = ["("] := by decide +kernel
      have closing : wordsOf (" ".intercalate [")"]) = [")"] := by decide +kernel
      rw [joined, wordsOf_intercalate_append (by decide), wordsOf_marked closed, opening, closing]
      rfl

end Formal

namespace Usage

open Expression

variable {doc : String} {usage : Usage}

/-- Where every placeholder is closed in its alternative and no option takes a bracket as its value,
all alternatives of a usage are nested unless one closes a bracket where none of its own is open. -/
theorem alternatives_nested_iff (described : ofDoc doc = .ok usage)
    (closed : ∀ alternative ∈ alternativesOf usage.text, closesPlaceholders alternative.toList)
    (kept : (wordsRead (.ofDoc doc) (wordsOf usage.formal)).filter isBracket =
      (wordsOf usage.formal).filter isBracket) :
    (∀ alternative ∈ alternativesOf usage.text, Nested (wordsOf alternative)) ↔
      ∀ alternative ∈ alternativesOf usage.text, ¬ Strays (wordsOf alternative) := by
  have compiled := compiled_of_ofDoc described
  obtain ⟨unresolved, result, -⟩ := compiled.pattern
  have whole : Nested (wordsOf usage.formal) := by
    rw [Nested, ← nestingOf_filter_eq_leaves_iff, ← kept, nestingOf_filter_eq_leaves_iff]
    exact nestingOf_wordsRead_of_compile result
  rw [wordsOf_formalUsage compiled.formal closed] at whole
  constructor
  · exact fun nested alternative listed => (nested alternative listed).not_strays
  · intro own alternative listed
    refine nested_of_enclosed (fun words member => ?_) whole _ (List.mem_map_of_mem listed)
    obtain ⟨other, listed, rfl⟩ := List.mem_map.mp member
    exact own other listed

theorem exists_ofDoc {text formal : String}
    (evaluated : (ofDoc doc).toOption.map (fun usage => (usage.text, usage.formal)) =
      some (text, formal)) :
    ∃ usage, ofDoc doc = .ok usage ∧ usage.text = text ∧ usage.formal = formal := by
  cases described : ofDoc doc with
  | error error => simp [described, Except.toOption] at evaluated
  | ok usage =>
      simp only [described, Except.toOption, Option.map_some, Option.some.injEq,
        Prod.mk.injEq] at evaluated
      exact ⟨usage, rfl, evaluated⟩

/-- A usage with two alternatives, each with brackets of its own. -/
def twoLines : String :=
  "usage: prog (a)\n       prog [b]"

theorem alternatives_nested_iff_twoLines :
    ∃ usage, ofDoc twoLines = .ok usage ∧
      (∀ alternative ∈ alternativesOf usage.text, closesPlaceholders alternative.toList) ∧
      (wordsRead (.ofDoc twoLines) (wordsOf usage.formal)).filter isBracket =
        (wordsOf usage.formal).filter isBracket ∧
      alternativesOf usage.text = ["(a)", "[b]"] ∧
      (∀ alternative ∈ alternativesOf usage.text, ¬ Strays (wordsOf alternative)) ∧
      ∀ alternative ∈ alternativesOf usage.text, Nested (wordsOf alternative) := by
  obtain ⟨usage, described, text, formal⟩ : ∃ usage, ofDoc twoLines = .ok usage ∧
      usage.text = twoLines ∧ usage.formal = "( (a) ) | ( [b] )" :=
    exists_ofDoc (by decide +kernel)
  have alternatives : alternativesOf usage.text = ["(a)", "[b]"] := by
    rw [text]
    decide +kernel
  have closed : ∀ alternative ∈ alternativesOf usage.text,
      closesPlaceholders alternative.toList := by
    rw [alternatives]
    decide
  have kept : (wordsRead (.ofDoc twoLines) (wordsOf usage.formal)).filter isBracket =
      (wordsOf usage.formal).filter isBracket := by
    rw [formal]
    decide +kernel
  have own : ∀ alternative ∈ alternativesOf usage.text, ¬ Strays (wordsOf alternative) := by
    rw [alternatives]
    decide +kernel
  exact ⟨usage, described, closed, kept, alternatives, own,
    (alternatives_nested_iff described closed kept).mpr own⟩

/-- A usage whose only alternative closes the bracket around it and opens another one. -/
def strayDoc : String :=
  "usage: prog ) ("

theorem strayDoc_compiles :
    ∃ usage, ofDoc strayDoc = .ok usage ∧ alternativesOf usage.text = [") ("] ∧
      ¬ Nested (wordsOf ") (") := by
  obtain ⟨usage, described, text, -⟩ : ∃ usage, ofDoc strayDoc = .ok usage ∧
      usage.text = strayDoc ∧ usage.formal = "( ) ( )" :=
    exists_ofDoc (by decide +kernel)
  refine ⟨usage, described, ?_, ?_⟩
  · rw [text]
    decide +kernel
  · decide +kernel

end Usage

end UsageGrammar
