import UsageGrammar.Proofs.LeafKinds
import UsageGrammar.Proofs.WordSplitting

/-!
# Branches of an expression

An expression without option words is read in the same way by itself and as a branch among others:
its steps do not depend on the sequences before it or the words after it. Expressions that are
joined by bars are therefore read as the sequences that they are read as apart. All of these are
empty only for an expression of nothing but bars.
-/

namespace UsageGrammar

namespace Expression

section Optionless

/-- No word begins with a dash, except the two words of dashes that are commands. -/
def Optionless (words : List String) : Prop :=
  ∀ word ∈ words, word.toList.head? = some '-' → word = "-" ∨ word = "--"

variable {word : String} {words following : List String}

theorem Symbol.dash_of_isOption (option : (ofWord word).isOption) :
    word.toList.head? = some '-' := by
  have means := means_ofWord word
  generalize ofWord word = symbol at option means
  cases means with
  | @fixed symbol same =>
      cases symbol with
      | long | short => cases same
      | opening | closing | bar | shortcut | argument | command => cases option
  | long shape | short shape =>
      by_contra undashed
      rw [WordShape.ofWord_of_undashed undashed] at shape
      cases shape
  | argument | command => cases option

theorem Optionless.resolves_nothing (optionless : Optionless (word :: words))
    (registry : Registry) (following : List String) :
    optionWord? registry word following = none := by
  refine optionWord?_eq_none rfl ?_
  by_contra option
  have option : (Symbol.ofWord word).isOption := by simpa using option
  rcases optionless word List.mem_cons_self (Symbol.dash_of_isOption option) with rfl | rfl <;>
    revert option <;> decide

theorem Optionless.of_subset (optionless : Optionless words) (subset : following ⊆ words) :
    Optionless following :=
  fun other member => optionless other (subset member)

end Optionless

section Context

/-- The choice with sequences before its own. -/
def Choice.behind (choice : Choice) (earlier : List (List Pattern)) : Choice :=
  ⟨earlier ++ choice.earlier, choice.current⟩

/-- The open brackets and the inside of the innermost, with sequences before those that stand
outside all brackets. -/
def levelsBehind (earlier : List (List Pattern)) :
    List (Bracket × Choice) → Choice → List (Bracket × Choice) × Choice
  | [], choice => ([], choice.behind earlier)
  | (bracket, outer) :: stack, choice =>
    let levels := levelsBehind earlier stack outer
    ((bracket, levels.2) :: levels.1, choice)

variable {earlier : List (List Pattern)} {rest : List String}

theorem levelsBehind_push (stack : List (Bracket × Choice)) (choice : Choice)
    (atom : List Pattern) :
    levelsBehind earlier stack (choice.push atom) =
      ((levelsBehind earlier stack choice).1, (levelsBehind earlier stack choice).2.push atom) := by
  cases stack <;> rfl

theorem levelsBehind_bar (stack : List (Bracket × Choice)) (choice : Choice) :
    levelsBehind earlier stack choice.bar =
      ((levelsBehind earlier stack choice).1, (levelsBehind earlier stack choice).2.bar) := by
  cases stack with
  | nil => simp [levelsBehind, Choice.behind, Choice.bar]
  | cons level stack => rfl

theorem takeEllipsis_append (apart : rest.head? ≠ some "...") (atom : List Pattern)
    (following : List String) :
    takeEllipsis atom (following ++ rest) =
      ((takeEllipsis atom following).1, (takeEllipsis atom following).2 ++ rest) := by
  cases following with
  | nil =>
      cases rest with
      | nil => rfl
      | cons word rest => simp [takeEllipsis, show word ≠ "..." by simpa using apart]
  | cons word following =>
      simp only [List.cons_append, takeEllipsis]
      split
      · split <;> rfl
      · rfl

namespace Position

/-- The position with sequences before those outside all brackets, and with more words. -/
def within (position : Position) (earlier : List (List Pattern)) (rest : List String) : Position :=
  ⟨(levelsBehind earlier position.stack position.choice).1,
    (levelsBehind earlier position.stack position.choice).2, position.registry,
    position.words ++ rest⟩

variable {before after : Position} {atoms : List Pattern}

theorem within_afterAtom (apart : rest.head? ≠ some "...") (stack : List (Bracket × Choice))
    (choice : Choice) (registry : Registry) (atom : List Pattern) (following : List String) :
    (afterAtom stack choice registry atom following).within earlier rest =
      afterAtom (levelsBehind earlier stack choice).1 (levelsBehind earlier stack choice).2 registry
        atom (following ++ rest) := by
  simp only [afterAtom, within, levelsBehind_push, takeEllipsis_append apart]

/-- A step that reads no option word is the same step among other words and sequences. -/
theorem Step.within (step : Step before atoms after) (optionless : Optionless before.words)
    (earlier : List (List Pattern)) (apart : rest.head? ≠ some "...") :
    Step (before.within earlier rest) atoms (after.within earlier rest) := by
  cases step with
  | opening meaning => exact .opening meaning
  | closing meaning =>
      rw [within_afterAtom apart]
      exact .closing meaning
  | bar meaning =>
      simp only [Position.within, levelsBehind_bar]
      exact .bar meaning
  | leaf reads =>
      rw [within_afterAtom apart]
      exact .leaf reads
  | options resolved _ => cases (optionless.resolves_nothing ..).symm.trans resolved

/-- What a step does that reads no option word. -/
structure ReadsWords (before : Position) (atoms : List Pattern) (after : Position) : Prop where
  words : after.words ⊆ before.words
  registry : after.registry = before.registry
  leaves : ∀ slot ∈ atoms.flatMap Pattern.leafSlots, slot.kind.leafKind ≠ .option

theorem Step.readsWords (step : Step before atoms after) (optionless : Optionless before.words) :
    ReadsWords before atoms after := by
  cases step with
  | opening | bar => exact ⟨List.subset_cons_self .., rfl, nofun⟩
  | closing => exact ⟨List.subset_cons_of_subset _ (takeEllipsis_subset ..), rfl, nofun⟩
  | leaf reads =>
      refine ⟨List.subset_cons_of_subset _ (takeEllipsis_subset ..), rfl, fun slot member => ?_⟩
      cases reads with
      | shortcut => cases member
      | argument | command =>
          obtain rfl := List.mem_singleton.mp member
          nofun
  | options resolved _ => cases (optionless.resolves_nothing ..).symm.trans resolved

theorem Path.readsWords (path : Path before atoms after) (optionless : Optionless before.words) :
    ReadsWords before atoms after := by
  induction path with
  | nil => exact ⟨List.Subset.refl _, rfl, nofun⟩
  | cons step _ ih =>
      have first := step.readsWords optionless
      have rest := ih (optionless.of_subset first.words)
      refine ⟨List.Subset.trans rest.words first.words, rest.registry.trans first.registry, ?_⟩
      intro slot member
      rw [List.flatMap_append] at member
      exact (List.mem_append.mp member).elim (first.leaves slot) (rest.leaves slot)

/-- What is read without option words is read in the same way among other words and sequences. -/
theorem Path.within (path : Path before atoms after) (optionless : Optionless before.words)
    (earlier : List (List Pattern)) (apart : rest.head? ≠ some "...") :
    Path (before.within earlier rest) atoms (after.within earlier rest) := by
  induction path with
  | nil => exact .nil
  | cons step _ ih =>
      have later := optionless.of_subset (step.readsWords optionless).words
      exact .cons (step.within optionless earlier apart) (ih later)

end Position

end Context

section Blank

/-- An expression of nothing but bars. -/
def Blank (expression : String) : Prop :=
  ∀ word ∈ wordsOf expression, word = "|"

theorem takeEllipsis_ne_nil {atom : List Pattern} (some_atom : atom ≠ [])
    (following : List String) : (takeEllipsis atom following).1 ≠ [] := by
  cases following with
  | nil => exact some_atom
  | cons word following =>
      simp only [takeEllipsis]
      split
      · split <;> simp
      · exact some_atom

namespace Position

/-- No bracket is open, and all sequences are empty. -/
structure Fresh (position : Position) : Prop where
  stack : position.stack = []
  empty : ∀ sequence ∈ position.choice.sequences, sequence = []

variable {before after : Position} {atoms : List Pattern}

theorem not_fresh_afterAtom {stack : List (Bracket × Choice)} {choice : Choice}
    {registry : Registry} {atom : List Pattern} {following : List String} (some_atom : atom ≠ []) :
    ¬ (afterAtom stack choice registry atom following).Fresh := by
  rintro ⟨-, empty⟩
  have last := empty (choice.current ++ (takeEllipsis atom following).1)
    (List.mem_append_right _ (List.mem_singleton_self _))
  exact takeEllipsis_ne_nil some_atom following (List.append_eq_nil_iff.mp last).2

theorem Step.fresh_before (step : Step before atoms after) (optionless : Optionless before.words)
    (fresh : after.Fresh) : before.Fresh ∧ before.words = "|" :: after.words := by
  cases step with
  | opening => cases fresh.stack
  | closing => exact absurd fresh (not_fresh_afterAtom (List.cons_ne_nil _ _))
  | bar meaning =>
      refine ⟨⟨fresh.stack, fun sequence member => fresh.empty sequence ?_⟩, ?_⟩
      · rw [Choice.sequences_bar]
        exact List.mem_append_left _ member
      · rw [Symbol.ofWord_eq_bar_iff.mp meaning]
  | leaf => exact absurd fresh (not_fresh_afterAtom (List.cons_ne_nil _ _))
  | options resolved _ => cases (optionless.resolves_nothing ..).symm.trans resolved

theorem Step.fresh_after (step : Step before atoms after) (optionless : Optionless before.words)
    (fresh : before.Fresh) (bars : ∀ word ∈ before.words, word = "|") : after.Fresh := by
  have meaning {word : String} (first : word ∈ before.words) : Symbol.ofWord word = .bar :=
    Symbol.ofWord_eq_bar_iff.mpr (bars word first)
  cases step with
  | opening meaning' => cases meaning'.symm.trans (meaning List.mem_cons_self)
  | closing => cases fresh.stack
  | bar =>
      refine ⟨fresh.stack, fun sequence member => ?_⟩
      rw [Choice.sequences_bar] at member
      exact (List.mem_append.mp member).elim (fresh.empty sequence) List.mem_singleton.mp
  | leaf reads =>
      cases reads with
      | shortcut meaning' | argument meaning' | command meaning' =>
          cases meaning'.symm.trans (meaning List.mem_cons_self)
  | options resolved _ => cases (optionless.resolves_nothing ..).symm.trans resolved

theorem Path.bars_of_fresh (path : Path before atoms after) (optionless : Optionless before.words)
    (ended : after.words = []) (fresh : after.Fresh) :
    before.Fresh ∧ ∀ word ∈ before.words, word = "|" := by
  induction path with
  | nil => exact ⟨fresh, by simp [ended]⟩
  | cons step _ ih =>
      have later := optionless.of_subset (step.readsWords optionless).words
      obtain ⟨middle_fresh, bars⟩ := ih later ended fresh
      obtain ⟨before_fresh, words⟩ := step.fresh_before optionless middle_fresh
      refine ⟨before_fresh, fun word member => ?_⟩
      rw [words] at member
      exact (List.mem_cons.mp member).elim id (bars word)

theorem Path.fresh_of_bars (path : Path before atoms after) (optionless : Optionless before.words)
    (fresh : before.Fresh) (bars : ∀ word ∈ before.words, word = "|") : after.Fresh := by
  induction path with
  | nil => exact fresh
  | cons step _ ih =>
      have within := (step.readsWords optionless).words
      exact ih (optionless.of_subset within) (step.fresh_after optionless fresh bars)
        fun word member => bars word (within member)

end Position

/-- The sequences that an expression without option words is read as. -/
def Reads (expression : String) (choice : Choice) : Prop :=
  ∃ atoms, (Position.start .empty (wordsOf expression)).Path atoms ⟨[], choice, .empty, []⟩

variable {expression : String} {choice : Choice}

/-- An expression is blank exactly if all its sequences are empty. -/
theorem Reads.blank_iff (reads : Reads expression choice)
    (optionless : Optionless (wordsOf expression)) :
    Blank expression ↔ ∀ sequence ∈ choice.sequences, sequence = [] := by
  obtain ⟨atoms, path⟩ := reads
  constructor
  · intro bars
    exact (path.fresh_of_bars optionless ⟨rfl, by simp [Position.start, Choice.sequences,
      Choice.empty]⟩ bars).empty
  · intro empty
    exact (path.bars_of_fresh optionless rfl ⟨rfl, empty⟩).2

theorem Reads.compile_eq (reads : Reads expression choice) :
    (compile .empty expression).result = .ok (.required choice.patterns) := by
  obtain ⟨atoms, path⟩ := reads
  rw [compile_eq_start, path.compile_eq]
  simp [Position.compile, compileWords, Except.map]

theorem exists_reads {part : Pattern} (optionless : Optionless (wordsOf expression))
    (compiled : (compile .empty expression).result = .ok part) :
    ∃ choice, Reads expression choice := by
  obtain ⟨atoms, choice, known, path, -⟩ := exists_path_of_compile compiled
  obtain rfl : known = .empty := (path.readsWords optionless).registry
  exact ⟨choice, atoms, path⟩

end Blank

section Joined

variable {earlier : List (List Pattern)} {rest : List String}

/-- An expression is read as its sequences, whatever stands before it and after it. -/
theorem Reads.exists_path (reads : Reads expression choice)
    (optionless : Optionless (wordsOf expression)) (earlier : List (List Pattern))
    (apart : rest.head? ≠ some "...") :
    ∃ atoms, Position.Path ⟨[], ⟨earlier, []⟩, .empty, wordsOf expression ++ rest⟩ atoms
      ⟨[], choice.behind earlier, .empty, rest⟩ := by
  obtain ⟨atoms, path⟩ := reads
  have among := path.within optionless earlier apart
  simp only [Position.within, Position.start, levelsBehind, Choice.behind, Choice.empty,
    List.append_nil, List.nil_append] at among
  exact ⟨atoms, among⟩

theorem Choice.sequences_behind (choice : Choice) (earlier : List (List Pattern)) :
    (choice.behind earlier).sequences = earlier ++ choice.sequences :=
  List.append_assoc ..

/-- Expressions that are joined by bars are read as their sequences one after another. -/
theorem exists_path_joined {expressions : List String} {choices : String → Choice}
    (some_expression : expressions ≠ [])
    (closed : ∀ expression ∈ expressions, closesPlaceholders expression.toList)
    (optionless : ∀ expression ∈ expressions, Optionless (wordsOf expression))
    (reads : ∀ expression ∈ expressions, Reads expression (choices expression))
    (earlier : List (List Pattern)) :
    ∃ atoms choice,
      Position.Path ⟨[], ⟨earlier, []⟩, .empty, wordsOf (" | ".intercalate expressions)⟩ atoms
        ⟨[], choice, .empty, []⟩ ∧
      choice.sequences =
        earlier ++ expressions.flatMap fun expression => (choices expression).sequences := by
  induction expressions generalizing earlier with
  | nil => contradiction
  | cons first others ih =>
      have first_reads := reads first List.mem_cons_self
      have first_optionless := optionless first List.mem_cons_self
      cases others with
      | nil =>
          obtain ⟨atoms, path⟩ := first_reads.exists_path first_optionless earlier
            (show ([] : List String).head? ≠ some "..." by nofun)
          refine ⟨atoms, _, by simpa using path, ?_⟩
          rw [Choice.sequences_behind, List.flatMap_singleton]
      | cons second others =>
          have words : wordsOf (" | ".intercalate (first :: second :: others)) =
              wordsOf first ++ "|" :: wordsOf (" | ".intercalate (second :: others)) := by
            rw [String.intercalate_cons_cons, wordsOf_bar (closed first List.mem_cons_self)]
          have apart : ("|" :: wordsOf (" | ".intercalate (second :: others))).head? ≠
              some "..." := by simp
          obtain ⟨atoms, path⟩ := first_reads.exists_path first_optionless earlier apart
          obtain ⟨later, choice, remaining, sequences⟩ := ih (List.cons_ne_nil _ _)
            (fun other member => closed other (List.mem_cons_of_mem _ member))
            (fun other member => optionless other (List.mem_cons_of_mem _ member))
            (fun other member => reads other (List.mem_cons_of_mem _ member))
            ((choices first).behind earlier).sequences
          rw [words]
          refine ⟨_, choice, path.append (.cons (.bar (by decide)) remaining), ?_⟩
          rw [sequences, Choice.sequences_behind, List.append_assoc]
          rfl

end Joined

end Expression

end UsageGrammar
