import UsageGrammar.Proofs.Renumbering

/-!
# Alternation

A choice is decided for the first of the branches that leave the least. If one of them leaves
nothing, so does the choice. A usage text with several lines therefore accepts what one of its
lines accepts by itself, although the lines share slots that neither of them has alone.
-/

namespace UsageGrammar

namespace Matcher

variable {σ : Type} {matcher : Matcher σ} {state : σ}

theorem exists_closer_le_left (first : σ) (second : Option σ) :
    ∃ chosen, matcher.closer (some first) second = some chosen ∧
      matcher.remaining chosen ≤ matcher.remaining first := by
  cases second with
  | none => exact ⟨first, rfl, Nat.le_refl _⟩
  | some second =>
      simp only [closer]
      split
      · next less => exact ⟨second, rfl, Nat.le_of_lt less⟩
      · exact ⟨first, rfl, Nat.le_refl _⟩

theorem exists_closer_le_right (first : Option σ) (second : σ) :
    ∃ chosen, matcher.closer first (some second) = some chosen ∧
      matcher.remaining chosen ≤ matcher.remaining second := by
  cases first with
  | none => exact ⟨second, rfl, Nat.le_refl _⟩
  | some first =>
      simp only [closer]
      split
      · exact ⟨second, rfl, Nat.le_refl _⟩
      · next most => exact ⟨first, rfl, Nat.le_of_not_lt most⟩

theorem exists_matchClosest_le {branches : List Node} {branch : Node} {reached : σ}
    (member : branch ∈ branches) (fits : matcher.matchNode state branch = some reached) :
    ∃ chosen, matcher.matchClosest state branches = some chosen ∧
      matcher.remaining chosen ≤ matcher.remaining reached := by
  induction branches with
  | nil => cases member
  | cons first branches ih =>
      rw [matchClosest]
      rcases List.mem_cons.mp member with rfl | later
      · rw [fits]
        exact exists_closer_le_left ..
      · obtain ⟨best, chosen, at_most⟩ := ih later
        rw [chosen]
        obtain ⟨closest, closer, least⟩ := exists_closer_le_right (matcher.matchNode state first) best
        exact ⟨closest, closer, Nat.le_trans least at_most⟩

/-- A choice is decided for a branch: every branch before it leaves more, and every branch after
it at least as much. -/
structure Decides (matcher : Matcher σ) (state : σ) (earlier : List Node) (branch : Node)
    (later : List Node) (chosen : σ) : Prop where
  fits : matcher.matchNode state branch = some chosen
  earlier {other : Node} {reached : σ} : other ∈ earlier →
    matcher.matchNode state other = some reached →
      matcher.remaining chosen < matcher.remaining reached
  later {other : Node} {reached : σ} : other ∈ later →
    matcher.matchNode state other = some reached →
      matcher.remaining chosen ≤ matcher.remaining reached

theorem Decides.cons {earlier later : List Node} {branch first : Node} {chosen : σ}
    (decides : matcher.Decides state earlier branch later chosen)
    (worse : ∀ reached, matcher.matchNode state first = some reached →
      matcher.remaining chosen < matcher.remaining reached) :
    matcher.Decides state (first :: earlier) branch later chosen := by
  refine ⟨decides.fits, fun member fits => ?_, decides.later⟩
  rcases List.mem_cons.mp member with rfl | member
  · exact worse _ fits
  · exact decides.earlier member fits

/-- A choice that fits is decided for one of its branches. A later branch wins only if it leaves
less, so ties go to the first. -/
theorem exists_decides {branches : List Node} {chosen : σ}
    (choice : matcher.matchClosest state branches = some chosen) :
    ∃ earlier branch later, branches = earlier ++ branch :: later ∧
      matcher.Decides state earlier branch later chosen := by
  induction branches with
  | nil => cases choice
  | cons first branches ih =>
      rw [matchClosest] at choice
      cases fits : matcher.matchNode state first with
      | none =>
          rw [fits] at choice
          obtain ⟨earlier, branch, later, rfl, decides⟩ := ih choice
          exact ⟨first :: earlier, branch, later, rfl, decides.cons (by simp [fits])⟩
      | some reached =>
          cases best : matcher.matchClosest state branches with
          | none =>
              rw [fits, best] at choice
              obtain rfl := Option.some.inj choice
              refine ⟨[], first, branches, rfl, fits, nofun, fun member fits' => ?_⟩
              obtain ⟨other, chosen, -⟩ := exists_matchClosest_le member fits'
              cases best.symm.trans chosen
          | some candidate =>
              simp only [fits, best, closer] at choice
              split at choice
              · next less =>
                  obtain rfl := Option.some.inj choice
                  obtain ⟨earlier, branch, later, rfl, decides⟩ := ih best
                  refine ⟨first :: earlier, branch, later, rfl, decides.cons ?_⟩
                  rintro other fits'
                  exact Option.some.inj (fits.symm.trans fits') ▸ less
              · next most =>
                  obtain rfl := Option.some.inj choice
                  refine ⟨[], first, branches, rfl, fits, nofun, fun member fits' => ?_⟩
                  obtain ⟨other, chosen, least⟩ := exists_matchClosest_le member fits'
                  obtain rfl := Option.some.inj (best.symm.trans chosen)
                  exact Nat.le_trans (Nat.le_of_not_lt most) least

theorem matchNode_required_singleton (node : Node) :
    matcher.matchNode state (.required [node]) = matcher.matchNode state node := by
  rw [matchNode, matchAll]
  cases matcher.matchNode state node <;> rfl

end Matcher

namespace Pattern

theorem leafSlots_required_singleton (pattern : Pattern) :
    (required [pattern]).leafSlots = pattern.leafSlots :=
  List.append_nil _

theorem leafSlots_subset_of_mem {pattern : Pattern} {patterns : List Pattern}
    (member : pattern ∈ patterns) : pattern.leafSlots ⊆ leafSlotsOfAll patterns := by
  induction patterns with
  | nil => cases member
  | cons first patterns ih =>
      rcases List.mem_cons.mp member with rfl | later
      · exact List.subset_append_left _ _
      · exact List.Subset.trans (ih later) (List.subset_append_right _ _)

theorem toNodes_eq_map (index : String → Nat) (patterns : List Pattern) :
    toNodes index patterns = patterns.map (toNode index) := by
  induction patterns with
  | nil => rfl
  | cons pattern patterns ih => rw [toNodes, ih, List.map_cons]

end Pattern

namespace Grammar

variable {tokens : List Token} {lines : List Pattern} {line : Pattern}

theorem matchTokens_eq_accepted_iff_of_root {grammar : Grammar} {node : Node} {state : MatchState}
    (root : grammar.root = .required [node]) :
    grammar.matchTokens tokens = .accepted state ↔
      grammar.matchNode (.start grammar tokens) node = some state ∧ state.leftover = [] := by
  rw [matchTokens_eq_accepted_iff, root, matchNode, Matcher.matchNode_required_singleton,
    matchNode]

/-- The grammar of all lines serves the grammar of one of them. -/
theorem line_servedBy (agree : (Pattern.either lines).KindsAgree) (member : line ∈ lines) :
    (ofPattern (.required [line])).ServedBy (ofPattern (.required [.either lines])) := by
  refine ofPattern_servedBy ?_ ?_
  · simpa only [Pattern.KindsAgree, Pattern.leafSlots_required_singleton] using agree
  · rw [Pattern.leafSlots_required_singleton, Pattern.leafSlots_required_singleton]
    exact Pattern.leafSlots_subset_of_mem member

theorem line_isAccepted_iff (agree : (Pattern.either lines).KindsAgree) (member : line ∈ lines)
    (tokens : List Token) :
    let combined := ofPattern (.required [.either lines])
    ((ofPattern (.required [line])).matchTokens tokens).isAccepted ↔
      ∃ reached, combined.matchNode (.start combined tokens)
        (line.toNode combined.names.idxOf) = some reached ∧ reached.leftover = [] := by
  intro combined
  have named : ∀ leaf ∈ line.leafSlots, leaf.name ∈ (ofPattern (.required [line])).names := by
    intro leaf asked
    exact name_mem_names (by rwa [Pattern.leafSlots_required_singleton])
  have same : (MatchState.start (ofPattern (.required [line])) tokens).leftover =
      (MatchState.start combined tokens).leftover := rfl
  have root : (ofPattern (.required [line])).root =
      .required [line.toNode (ofPattern (.required [line])).names.idxOf] := root_ofPattern _
  have leaves := (line_servedBy agree member).leftover_eq named same
  rw [MatchOutcome.isAccepted_iff, ← Option.map_eq_some_iff, ← leaves, Option.map_eq_some_iff]
  exact exists_congr fun state => matchTokens_eq_accepted_iff_of_root root

/-- The node of a line takes all tokens to a state that leaves nothing, and the node of no earlier
line does. -/
structure FirstComplete (grammar : Grammar) (tokens : List Token) (earlier : List Pattern)
    (line : Pattern) (state : MatchState) : Prop where
  fits : grammar.matchNode (.start grammar tokens) (line.toNode grammar.names.idxOf) = some state
  complete : state.leftover = []
  first : ∀ other ∈ earlier, ∀ reached,
    grammar.matchNode (.start grammar tokens) (other.toNode grammar.names.idxOf) = some reached →
      reached.leftover ≠ []

theorem root_ofPattern_lines (lines : List Pattern) :
    (ofPattern (.required [.either lines])).root = .required [.either
      (lines.map (Pattern.toNode (ofPattern (.required [.either lines])).names.idxOf))] := by
  rw [← Pattern.toNodes_eq_map]
  exact root_ofPattern _

/-- A vector that several lines accept is decided for the first that leaves nothing. -/
theorem exists_firstComplete {state : MatchState}
    (accepted : (ofPattern (.required [.either lines])).matchTokens tokens = .accepted state) :
    ∃ earlier line later, lines = earlier ++ line :: later ∧
      (ofPattern (.required [.either lines])).FirstComplete tokens earlier line state := by
  obtain ⟨choice, empty⟩ :=
    (matchTokens_eq_accepted_iff_of_root (root_ofPattern_lines lines)).mp accepted
  obtain ⟨earlier, branch, later, split, decides⟩ := Matcher.exists_decides choice
  obtain ⟨before, rest, whole, rfl, rest_eq⟩ := List.map_eq_append_iff.mp split
  obtain ⟨line, after, rfl, rfl, -⟩ := List.map_eq_cons_iff.mp rest_eq
  refine ⟨before, line, after, whole, decides.fits, empty, fun other member reached fits left => ?_⟩
  have less := decides.earlier (List.mem_map_of_mem member) fits
  simp [matcher, left] at less

/-- A usage with several lines accepts exactly what one of its lines accepts, and its state is that
of the first line that leaves nothing. -/
theorem matchTokens_lines (lines : List Pattern) (agree : (Pattern.either lines).KindsAgree)
    (tokens : List Token) :
    let combined := ofPattern (.required [.either lines])
    combined.root =
        .required [.either (lines.map (Pattern.toNode combined.names.idxOf))] ∧
      ((combined.matchTokens tokens).isAccepted ↔
        ∃ line ∈ lines, ((ofPattern (.required [line])).matchTokens tokens).isAccepted) ∧
      ∀ state, combined.matchTokens tokens = .accepted state →
        ∃ earlier line later, lines = earlier ++ line :: later ∧
          combined.FirstComplete tokens earlier line state := by
  refine ⟨root_ofPattern_lines lines, ⟨fun accepted => ?_, ?_⟩, fun _ => exists_firstComplete⟩
  · obtain ⟨state, accepted⟩ := MatchOutcome.isAccepted_iff.mp accepted
    obtain ⟨earlier, line, later, split, decided⟩ := exists_firstComplete accepted
    have member : line ∈ lines := split ▸ List.mem_append_right _ List.mem_cons_self
    exact ⟨line, member, (line_isAccepted_iff agree member tokens).mpr
      ⟨state, decided.fits, decided.complete⟩⟩
  · rintro ⟨line, member, accepted⟩
    obtain ⟨reached, fits, empty⟩ := (line_isAccepted_iff agree member tokens).mp accepted
    obtain ⟨chosen, choice, least⟩ :=
      Matcher.exists_matchClosest_le (List.mem_map_of_mem member) fits
    refine MatchOutcome.isAccepted_iff.mpr
      ⟨chosen, (matchTokens_eq_accepted_iff_of_root (root_ofPattern_lines lines)).mpr
        ⟨choice, ?_⟩⟩
    simpa [matcher, empty] using least

/-- One name or two. The name collects in the grammar of both lines, but not in the first alone. -/
def oneOrTwo : List Pattern :=
  [.argument "<x>", .required [.argument "<x>", .argument "<x>"]]

/-- Two names are accepted, so one of the lines accepts them, and the first such line decides. -/
theorem matchTokens_lines_oneOrTwo :
    (Pattern.either oneOrTwo).KindsAgree ∧
      let combined := ofPattern (.required [.either oneOrTwo])
      combined.matchTokens [.argument "a", .argument "b"] =
          .accepted ⟨[], [some (.list ["a", "b"])]⟩ ∧
        (∃ line ∈ oneOrTwo, ((ofPattern (.required [line])).matchTokens
          [.argument "a", .argument "b"]).isAccepted) ∧
        ∃ earlier line later, oneOrTwo = earlier ++ line :: later ∧
          combined.FirstComplete [.argument "a", .argument "b"] earlier line
            ⟨[], [some (.list ["a", "b"])]⟩ := by
  have agree : (Pattern.either oneOrTwo).KindsAgree := by decide
  have accepted : (ofPattern (.required [.either oneOrTwo])).matchTokens
      [.argument "a", .argument "b"] = .accepted ⟨[], [some (.list ["a", "b"])]⟩ := by
    cbv
  obtain ⟨-, union, decided⟩ :=
    matchTokens_lines oneOrTwo agree [.argument "a", .argument "b"]
  exact ⟨agree, accepted, union.mp (MatchOutcome.isAccepted_iff.mpr ⟨_, accepted⟩),
    decided _ accepted⟩

end Grammar

end UsageGrammar
