import Mathlib.Tactic.Choose
import UsageGrammar.Proofs.Branches
import UsageGrammar.Proofs.Completion

/-!
# Joined expressions

Expressions without option words that are joined by bars compile if each of them does. A name means
the same in all of them, so the joined expression accepts what one of them accepts by itself. Only a
blank expression does not count: an empty sequence is no branch where another one is not empty.
-/

namespace UsageGrammar

namespace Expression

variable {expression : String} {choice : Choice}

theorem leafSlots_required_patterns (choice : Choice) :
    (Pattern.required choice.patterns).leafSlots =
      choice.sequences.flatMap (·.flatMap Pattern.leafSlots) := by
  rw [Pattern.leafSlots_concatenates.required,
    Choice.flatMap_patterns Pattern.leafSlots_concatenates, Choice.shown, Choice.sequences]
  simp

theorem Reads.leafKind_ne_option (reads : Reads expression choice)
    (optionless : Optionless (wordsOf expression)) :
    ∀ slot ∈ (Pattern.required choice.patterns).leafSlots, slot.kind.leafKind ≠ .option := by
  obtain ⟨atoms, path⟩ := reads
  rw [Pattern.leafSlots_concatenates.required,
    path.flatMap_patterns Pattern.leafSlots_concatenates]
  exact (path.readsWords optionless).leaves

theorem kindsAgree_of_written {pattern : Pattern}
    (written : ∀ slot ∈ pattern.leafSlots, slot.Written)
    (plain : ∀ slot ∈ pattern.leafSlots, slot.kind.leafKind ≠ .option) : pattern.KindsAgree :=
  fun leaf asked other asked' named => (SlotKind.alike_iff _ _).mpr
    ((written leaf asked).leafKind_eq (written other asked') (plain leaf asked) (plain other asked')
      named)

/-- Expressions without option words, each with what it is read as, and what they are read as when
they are joined by bars. -/
structure Joins (expressions : List String) (choices : String → Choice) (choice : Choice) :
    Prop where
  optionless {expression : String} : expression ∈ expressions → Optionless (wordsOf expression)
  reads {expression : String} : expression ∈ expressions → Reads expression (choices expression)
  joined : Reads (" | ".intercalate expressions) choice
  sequences : choice.sequences =
    expressions.flatMap fun expression => (choices expression).sequences

theorem exists_joins {expressions : List String} (some_expression : expressions ≠ [])
    (closed : ∀ expression ∈ expressions, closesPlaceholders expression.toList)
    (optionless : ∀ expression ∈ expressions, Optionless (wordsOf expression))
    (compiles : ∀ expression ∈ expressions,
      ∃ part, (compile .empty expression).result = .ok part) :
    ∃ choices choice, Joins expressions choices choice := by
  have read : ∀ expression, ∃ choice, expression ∈ expressions → Reads expression choice := by
    intro expression
    by_cases listed : expression ∈ expressions
    · obtain ⟨part, compiled⟩ := compiles expression listed
      obtain ⟨choice, reads⟩ := exists_reads (optionless expression listed) compiled
      exact ⟨choice, fun _ => reads⟩
    · exact ⟨.empty, fun member => absurd member listed⟩
  choose choices reads using read
  obtain ⟨atoms, choice, path, sequences⟩ :=
    exists_path_joined some_expression closed optionless reads []
  exact ⟨choices, choice, fun listed => optionless _ listed, fun listed => reads _ listed,
    ⟨atoms, path⟩, sequences⟩

namespace Joins

variable {expressions : List String} {choices : String → Choice}
  (joins : Joins expressions choices choice)

include joins

theorem mem_sequences_iff {sequence : List Pattern} : sequence ∈ choice.sequences ↔
    ∃ expression ∈ expressions, sequence ∈ (choices expression).sequences := by
  rw [joins.sequences, List.mem_flatMap]

theorem mem_leafSlots_iff {slot : Slot} : slot ∈ (Pattern.required choice.patterns).leafSlots ↔
    ∃ expression ∈ expressions,
      slot ∈ (Pattern.required (choices expression).patterns).leafSlots := by
  simp only [leafSlots_required_patterns, joins.sequences, List.flatMap_assoc, List.mem_flatMap]

theorem kindsAgree : (Pattern.required choice.patterns).KindsAgree := by
  refine kindsAgree_of_written (written_of_compile joins.joined.compile_eq) fun slot member => ?_
  obtain ⟨expression, listed, member⟩ := joins.mem_leafSlots_iff.mp member
  exact (joins.reads listed).leafKind_ne_option (joins.optionless listed) slot member

theorem blank_iff {expression : String} (listed : expression ∈ expressions) :
    Blank expression ↔ ∀ sequence ∈ (choices expression).sequences, sequence = [] :=
  (joins.reads listed).blank_iff (joins.optionless listed)

theorem all_blank_iff : (∀ expression ∈ expressions, Blank expression) ↔
    ∀ sequence ∈ choice.sequences, sequence = [] := by
  constructor
  · intro blank sequence member
    obtain ⟨expression, listed, member⟩ := joins.mem_sequences_iff.mp member
    exact (joins.blank_iff listed).mp (blank expression listed) sequence member
  · intro empty expression listed
    exact (joins.blank_iff listed).mpr fun sequence member =>
      empty sequence (joins.mem_sequences_iff.mpr ⟨expression, listed, member⟩)

variable (tokens : List Token)

/-- The whole accepts what one of its sequences takes in its grammar. -/
theorem isAccepted_iff :
    ((Grammar.ofPattern (.required choice.patterns)).matchTokens tokens).isAccepted ↔
      ∃ sequence ∈ choice.sequences,
        (sequence ≠ [] ∨ ∀ expression ∈ expressions, Blank expression) ∧
          (Grammar.ofPattern (.required choice.patterns)).Completes tokens
            (.required sequence) := by
  rw [Grammar.isAccepted_iff_completes joins.kindsAgree (List.Subset.refl _),
    Choice.completes_patterns_iff, joins.all_blank_iff]

/-- A part accepts what one of its sequences takes in the grammar of the whole. -/
theorem part_isAccepted_iff {expression : String} (listed : expression ∈ expressions) :
    ((Grammar.ofPattern (.required (choices expression).patterns)).matchTokens
        tokens).isAccepted ↔
      ∃ sequence ∈ (choices expression).sequences, (sequence ≠ [] ∨ Blank expression) ∧
        (Grammar.ofPattern (.required choice.patterns)).Completes tokens (.required sequence) := by
  have within : (Pattern.required (choices expression).patterns).leafSlots ⊆
      (Pattern.required choice.patterns).leafSlots := fun slot member =>
    joins.mem_leafSlots_iff.mpr ⟨expression, listed, member⟩
  rw [Grammar.isAccepted_iff_completes joins.kindsAgree within, Choice.completes_patterns_iff,
    joins.blank_iff listed]

end Joins

/-- Expressions without option words that are joined by bars compile if each of them does, and the
whole accepts what one of them accepts by itself. A blank one counts only if all are blank. -/
theorem accepts_joined_iff {expressions : List String} (some_expression : expressions ≠ [])
    (closed : ∀ expression ∈ expressions, closesPlaceholders expression.toList)
    (optionless : ∀ expression ∈ expressions, Optionless (wordsOf expression))
    (compiles : ∀ expression ∈ expressions,
      ∃ part, (compile .empty expression).result = .ok part) :
    ∃ whole, (compile .empty (" | ".intercalate expressions)).result = .ok whole ∧
      ∀ tokens, ((Grammar.ofPattern whole).matchTokens tokens).isAccepted ↔
        ∃ expression ∈ expressions,
          (¬ Blank expression ∨ ∀ other ∈ expressions, Blank other) ∧
            ∃ part, (compile .empty expression).result = .ok part ∧
              ((Grammar.ofPattern part).matchTokens tokens).isAccepted := by
  obtain ⟨choices, choice, joins⟩ := exists_joins some_expression closed optionless compiles
  refine ⟨_, joins.joined.compile_eq, fun tokens => ?_⟩
  rw [joins.isAccepted_iff]
  constructor
  · rintro ⟨sequence, member, counts, completes⟩
    obtain ⟨expression, listed, member⟩ := joins.mem_sequences_iff.mp member
    refine ⟨expression, listed, ?_, _, (joins.reads listed).compile_eq, ?_⟩
    · exact counts.imp_left fun some_atoms blank =>
        some_atoms ((joins.blank_iff listed).mp blank sequence member)
    · exact (joins.part_isAccepted_iff tokens listed).mpr
        ⟨sequence, member, counts.imp_right fun blank => blank expression listed, completes⟩
  · rintro ⟨expression, listed, counts, part, compiled, accepted⟩
    obtain rfl := Except.ok.inj ((joins.reads listed).compile_eq.symm.trans compiled)
    obtain ⟨sequence, member, counts', completes⟩ :=
      (joins.part_isAccepted_iff tokens listed).mp accepted
    refine ⟨sequence, joins.mem_sequences_iff.mpr ⟨expression, listed, member⟩, ?_, completes⟩
    rcases counts with visible | blank
    · exact .inl (counts'.resolve_right visible)
    · exact .inr blank

theorem compile_go :
    (compile .empty "go <x>").result = .ok (.required [.command "go", .argument "<x>"]) := by
  have words : wordsOf "go <x>" = ["go", "<x>"] := by decide +kernel
  have command : Symbol.ofWord "go" = .command := by decide +kernel
  have argument : Symbol.ofWord "<x>" = .argument := by decide +kernel
  rw [compile, words]
  simp [compileWords, command, argument, takeEllipsis, Choice.empty, Choice.push,
    Choice.patterns, Except.map]

theorem compile_stop :
    (compile .empty "stop").result = .ok (.required [.command "stop"]) := by
  have words : wordsOf "stop" = ["stop"] := by decide +kernel
  have command : Symbol.ofWord "stop" = .command := by decide +kernel
  rw [compile, words]
  simp [compileWords, command, takeEllipsis, Choice.empty, Choice.push, Choice.patterns,
    Except.map]

/-- Of two expressions the second accepts its command, so the whole accepts it. -/
theorem accepts_joined_iff_stop :
    (∀ expression ∈ ["go <x>", "stop"], closesPlaceholders expression.toList) ∧
      (∀ expression ∈ ["go <x>", "stop"], Optionless (wordsOf expression)) ∧
      ∃ whole, (compile .empty "go <x> | stop").result = .ok whole ∧
        ((Grammar.ofPattern whole).matchTokens [.argument "stop"]).isAccepted := by
  have closed : ∀ expression ∈ ["go <x>", "stop"], closesPlaceholders expression.toList := by
    decide
  have optionless : ∀ expression ∈ ["go <x>", "stop"], Optionless (wordsOf expression) := by
    unfold Optionless
    decide +kernel
  have compiles : ∀ expression ∈ ["go <x>", "stop"],
      ∃ part, (compile .empty expression).result = .ok part := by
    intro expression listed
    rcases List.mem_pair.mp listed with rfl | rfl
    · exact ⟨_, compile_go⟩
    · exact ⟨_, compile_stop⟩
  obtain ⟨whole, compiled, accepts⟩ :=
    accepts_joined_iff (List.cons_ne_nil _ _) closed optionless compiles
  have visible : ¬ Blank "stop" := by
    unfold Blank
    decide +kernel
  refine ⟨closed, optionless, whole, compiled, (accepts _).mpr ?_⟩
  exact ⟨"stop", by simp, .inl visible, _, compile_stop, by decide +kernel⟩

/-- An empty alternative accepts the empty vector by itself, but not beside a command. -/
theorem joined_blank_refuses :
    (compile .empty (" | ".intercalate ["a", ""])).result = .ok (.required [.command "a"]) ∧
      (compile .empty "").result = .ok (.required []) ∧
      ((Grammar.ofPattern (.required [])).matchTokens []).isAccepted ∧
      ¬ ((Grammar.ofPattern (.required [.command "a"])).matchTokens []).isAccepted := by
  have words : wordsOf (" | ".intercalate ["a", ""]) = ["a", "|"] := by decide +kernel
  have command : Symbol.ofWord "a" = .command := by decide +kernel
  have bar : Symbol.ofWord "|" = .bar := by decide
  refine ⟨?_, ?_, by decide +kernel, by decide +kernel⟩
  · rw [compile, words]
    simp [compileWords, command, bar, takeEllipsis, Choice.empty, Choice.push, Choice.bar,
      Choice.patterns, Choice.branch, Except.map]
  · rw [compile, wordsOf_empty]
    simp [compileWords, Choice.empty, Choice.patterns, Except.map]

end Expression

end UsageGrammar
