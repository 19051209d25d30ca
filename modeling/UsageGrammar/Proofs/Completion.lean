import UsageGrammar.Proofs.Alternation
import UsageGrammar.Proofs.Reading

/-!
# Completion

A pattern completes a vector if it takes all of it. Whether it does can be seen in the grammar of
any larger pattern. A choice completes what one of its branches completes, so the sequences of an
expression can be judged one by one; an empty sequence counts only where there are no others.
-/

namespace UsageGrammar

namespace Grammar

/-- A pattern takes all tokens in a grammar with slots for its leaves. -/
def Completes (grammar : Grammar) (tokens : List Token) (pattern : Pattern) : Prop :=
  ∃ reached, grammar.matchNode (.start grammar tokens) (pattern.toNode grammar.names.idxOf) =
    some reached ∧ reached.leftover = []

variable {grammar : Grammar} {tokens : List Token} {part whole : Pattern}

/-- The grammar of a pattern accepts what the pattern completes, in its own grammar or in that of
a larger pattern. -/
theorem isAccepted_iff_completes (agree : whole.KindsAgree)
    (within : part.leafSlots ⊆ whole.leafSlots) (tokens : List Token) :
    ((ofPattern part).matchTokens tokens).isAccepted ↔ (ofPattern whole).Completes tokens part := by
  have leftover := (ofPattern_servedBy agree within).leftover_eq
    (fun leaf asked => name_mem_names asked)
    (show (MatchState.start (ofPattern part) tokens).leftover =
      (MatchState.start (ofPattern whole) tokens).leftover from rfl)
  rw [MatchOutcome.isAccepted_iff, Completes, ← Option.map_eq_some_iff, ← leftover,
    Option.map_eq_some_iff]
  refine exists_congr fun state => ?_
  rw [matchTokens_eq_accepted_iff, root_ofPattern]

theorem completes_required_nil : grammar.Completes tokens (.required []) ↔ tokens = [] := by
  constructor
  · rintro ⟨reached, fits, empty⟩
    obtain rfl := Option.some.inj fits
    exact empty
  · rintro rfl
    exact ⟨_, rfl, rfl⟩

theorem completes_required_singleton {pattern : Pattern} :
    grammar.Completes tokens (.required [pattern]) ↔ grammar.Completes tokens pattern := by
  simp only [Completes, Pattern.toNode, Pattern.toNodes, matchNode,
    Matcher.matchNode_required_singleton]

theorem completes_either_iff {branches : List Pattern} :
    grammar.Completes tokens (.either branches) ↔
      ∃ branch ∈ branches, grammar.Completes tokens branch := by
  simp only [Completes, Pattern.toNode, Pattern.toNodes_eq_map]
  constructor
  · rintro ⟨chosen, choice, empty⟩
    obtain ⟨earlier, node, later, split, decides⟩ := Matcher.exists_decides choice
    have member : node ∈ branches.map (Pattern.toNode grammar.names.idxOf) :=
      split ▸ List.mem_append_right _ List.mem_cons_self
    obtain ⟨branch, listed, rfl⟩ := List.mem_map.mp member
    exact ⟨branch, listed, chosen, decides.fits, empty⟩
  · rintro ⟨branch, listed, reached, fits, empty⟩
    obtain ⟨chosen, choice, least⟩ :=
      Matcher.exists_matchClosest_le (List.mem_map_of_mem listed) fits
    exact ⟨chosen, choice, by simpa [matcher, empty] using least⟩

end Grammar

namespace Expression.Choice

variable {grammar : Grammar} {tokens : List Token}

theorem branch_eq_nil_iff {sequence : List Pattern} : branch sequence = [] ↔ sequence = [] := by
  unfold branch
  split <;> simp_all

/-- The branch of a sequence completes what the sequence completes, unless it is empty. -/
theorem exists_mem_branch_iff {sequence : List Pattern} :
    (∃ pattern ∈ branch sequence, grammar.Completes tokens pattern) ↔
      sequence ≠ [] ∧ grammar.Completes tokens (.required sequence) := by
  unfold branch
  split
  · simp
  · simp [Grammar.completes_required_singleton]
  · next some_atoms _ =>
      rw [and_iff_right some_atoms]
      simp

theorem completes_patterns_iff_exists_branch {choice : Choice} (several : choice.earlier ≠ []) :
    grammar.Completes tokens (.required choice.patterns) ↔
      (choice.sequences.flatMap branch = [] ∧ tokens = []) ∨
        ∃ pattern ∈ choice.sequences.flatMap branch, grammar.Completes tokens pattern := by
  obtain ⟨earlier, current⟩ := choice
  obtain ⟨first, rest, rfl⟩ := List.exists_cons_of_ne_nil several
  simp only [patterns, sequences]
  split
  · next none_left =>
      rw [none_left]
      simp [Grammar.completes_required_nil]
  · next single =>
      rw [single]
      simp [Grammar.completes_required_singleton]
  · next some_left _ =>
      rw [Grammar.completes_required_singleton, Grammar.completes_either_iff]
      exact (or_iff_right fun empty => some_left empty.1).symm

/-- A choice completes what one of its sequences completes. An empty sequence counts only if all
are empty. -/
theorem completes_patterns_iff (choice : Choice) :
    grammar.Completes tokens (.required choice.patterns) ↔
      ∃ sequence ∈ choice.sequences,
        (sequence ≠ [] ∨ ∀ other ∈ choice.sequences, other = []) ∧
          grammar.Completes tokens (.required sequence) := by
  by_cases single : choice.earlier = []
  · simp only [patterns, sequences, single, List.nil_append, List.mem_singleton, exists_eq_left,
      forall_eq]
    exact (and_iff_right (Classical.em _).symm).symm
  · have all_empty : choice.sequences.flatMap branch = [] ↔
        ∀ other ∈ choice.sequences, other = [] := by
      simp only [List.flatMap_eq_nil_iff, branch_eq_nil_iff]
    rw [completes_patterns_iff_exists_branch single, all_empty]
    constructor
    · rintro (⟨empty, rfl⟩ | ⟨pattern, member, completes⟩)
      · have last : choice.current ∈ choice.sequences := by simp [sequences]
        refine ⟨choice.current, last, .inr empty, ?_⟩
        rw [empty _ last]
        exact Grammar.completes_required_nil.mpr rfl
      · obtain ⟨sequence, listed, branched⟩ := List.mem_flatMap.mp member
        obtain ⟨some_atoms, completes⟩ := exists_mem_branch_iff.mp ⟨pattern, branched, completes⟩
        exact ⟨sequence, listed, .inl some_atoms, completes⟩
    · rintro ⟨sequence, listed, some_atoms | empty, completes⟩
      · obtain ⟨pattern, branched, completes⟩ := exists_mem_branch_iff.mpr ⟨some_atoms, completes⟩
        exact .inr ⟨pattern, List.mem_flatMap.mpr ⟨sequence, listed, branched⟩, completes⟩
      · rw [empty sequence listed] at completes
        exact .inl ⟨empty, Grammar.completes_required_nil.mp completes⟩

end Expression.Choice

end UsageGrammar
