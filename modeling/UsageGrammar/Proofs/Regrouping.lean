import UsageGrammar.Proofs.Fitting

/-!
# Redundant grouping

A group inside a group of its own kind changes nothing, and neither does a repetition inside a
repetition. The laws of repetition rest on progress: a leaf that fits consumes something, so a node
that consumes nothing leaves the very same state. A repetition therefore ends where its node fails
or stands still.
-/

namespace UsageGrammar

namespace Matcher

variable {σ : Type} {matcher : Matcher σ} {state : σ}

theorem matchAll_append (first second : List Node) :
    matcher.matchAll state (first ++ second) =
      (matcher.matchAll state first).bind fun next => matcher.matchAll next second := by
  induction first generalizing state with
  | nil => rfl
  | cons child first ih =>
      rw [List.cons_append, matchAll, matchAll]
      cases matcher.matchNode state child with
      | none => rfl
      | some next => exact ih

theorem matchEach_append (first second : List Node) :
    matcher.matchEach state (first ++ second) =
      matcher.matchEach (matcher.matchEach state first) second := by
  induction first generalizing state with
  | nil => rfl
  | cons child first ih => exact ih

theorem closer_none (candidate : Option σ) : matcher.closer candidate none = candidate := by
  cases candidate <;> rfl

/-- The first of those that leave the least does not depend on how the candidates are grouped. -/
theorem closer_assoc (first second third : Option σ) :
    matcher.closer (matcher.closer first second) third =
      matcher.closer first (matcher.closer second third) := by
  cases first with
  | none => rfl
  | some first =>
      cases second with
      | none => rfl
      | some second =>
          cases third with
          | none => rw [closer_none, closer_none]
          | some third =>
              by_cases second_wins : matcher.remaining second < matcher.remaining first
              · by_cases third_wins : matcher.remaining third < matcher.remaining second
                · have least : matcher.remaining third < matcher.remaining first := by omega
                  simp [closer, second_wins, third_wins, least]
                · simp [closer, second_wins, third_wins]
              · by_cases third_wins : matcher.remaining third < matcher.remaining second
                · simp [closer, second_wins, third_wins]
                · have first_wins : ¬ matcher.remaining third < matcher.remaining first := by omega
                  simp [closer, second_wins, third_wins, first_wins]

theorem matchClosest_append (first second : List Node) :
    matcher.matchClosest state (first ++ second) =
      matcher.closer (matcher.matchClosest state first) (matcher.matchClosest state second) := by
  induction first with
  | nil => rfl
  | cons child first ih => rw [List.cons_append, matchClosest, matchClosest, ih, closer_assoc]

section Nested

variable (before inner after : List Node)

theorem matchNode_required_nested :
    matcher.matchNode state (.required (before ++ .required inner :: after)) =
      matcher.matchNode state (.required (before ++ inner ++ after)) := by
  simp only [matchNode, List.append_assoc, matchAll_append]
  congr 1
  funext next
  rw [matchAll, matchNode]
  cases matcher.matchAll next inner <;> rfl

theorem matchNode_optional_nested :
    matcher.matchNode state (.optional (before ++ .optional inner :: after)) =
      matcher.matchNode state (.optional (before ++ inner ++ after)) := by
  simp only [matchNode, List.append_assoc, matchEach_append]
  rfl

theorem matchNode_either_nested :
    matcher.matchNode state (.either (before ++ .either inner :: after)) =
      matcher.matchNode state (.either (before ++ inner ++ after)) := by
  simp only [matchNode, List.append_assoc, matchClosest_append]
  rfl

end Nested

/-- A step that succeeds leaves less, or else the very same state. -/
def Progressive (matcher : Matcher σ) (step : σ → Option σ) : Prop :=
  ∀ {state next}, step state = some next →
    next = state ∨ matcher.remaining next < matcher.remaining state

/-- A step goes nowhere from a state: it fails, or changes nothing. -/
def Settled (step : σ → Option σ) (state : σ) : Prop :=
  step state = none ∨ step state = some state

/-- Where every leaf consumes something, a node consumes something or changes nothing. -/
theorem matchNode_progressive
    (leaf : ∀ {slot state next}, matcher.leaf slot state = some next →
      matcher.remaining next < matcher.remaining state) (node : Node) :
    matcher.Progressive fun state => matcher.matchNode state node := by
  intro state next fits
  refine matchNode_preserves
    (fun reached => reached = state ∨ matcher.remaining reached < matcher.remaining state)
    (fun {slot reached further} earlier once => Or.inr ?_) (Or.inl rfl) fits
  rcases earlier with rfl | less
  · exact leaf once
  · exact Nat.lt_trans (leaf once) less

section Repetition

variable {step : σ → Option σ}

theorem Settled.repeatStep_eq (settled : Settled step state) :
    matcher.repeatStep step state = step state := by
  rw [repeatStep]
  rcases settled with failed | still
  · rw [failed]
  · simp [still]

theorem repeatStep_eq_none_iff : matcher.repeatStep step state = none ↔ step state = none := by
  rw [repeatStep]
  cases step state with
  | none => simp
  | some next =>
      dsimp only
      split <;> simp

theorem settled_of_repeatStep (progressive : matcher.Progressive step) {final : σ}
    (repeated : matcher.repeatStep step state = some final) : Settled step final := by
  fun_induction matcher.repeatStep step state generalizing final with
  | case1 state failed => cases repeated
  | case2 state next once progress ih =>
      obtain rfl := Option.some.inj repeated
      cases later : matcher.repeatStep step next with
      | some last => exact ih later
      | none => exact .inl (repeatStep_eq_none_iff.mp later)
  | case3 state next once stuck =>
      obtain rfl := Option.some.inj repeated
      obtain rfl := (progressive once).resolve_right stuck
      exact .inr once

theorem repeatStep_repeatStep (progressive : matcher.Progressive step) :
    matcher.repeatStep (matcher.repeatStep step) state = matcher.repeatStep step state := by
  rw [repeatStep]
  cases repeated : matcher.repeatStep step state with
  | none => rfl
  | some final =>
      have settled := settled_of_repeatStep progressive repeated
      have again : Settled (matcher.repeatStep step) final := by
        rw [Settled, settled.repeatStep_eq]
        exact settled
      have ended : (matcher.repeatStep (matcher.repeatStep step) final).getD final = final := by
        rw [again.repeatStep_eq]
        rcases again with failed | still
        · rw [failed, Option.getD_none]
        · rw [still, Option.getD_some]
      simp only [ended, ite_self]

/-- A step that may be passed over can be repeated, or its repetition passed over. -/
theorem repeatStep_getD :
    matcher.repeatStep (fun state => some ((step state).getD state)) state =
      some ((matcher.repeatStep step state).getD state) := by
  fun_induction matcher.repeatStep step state with
  | case1 state failed => simp [repeatStep, failed]
  | case2 state next once progress ih =>
      rw [repeatStep]
      simp [once, progress, ih]
  | case3 state next once stuck =>
      rw [repeatStep]
      simp [once, stuck]

end Repetition

end Matcher

namespace Grammar

theorem length_of_matchSlot {grammar : Grammar} {slot : Nat} {state next : MatchState}
    (fits : grammar.matchSlot slot state = some next) :
    state.leftover.length = next.leftover.length + 1 := by
  obtain ⟨declared, value, -, taken, -⟩ := matchSlot_eq_some fits
  obtain ⟨before, token, after, whole, left, -⟩ := taken.split
  simp only [whole, left, List.length_append, List.length_cons]
  omega

/-- A node that consumes no token leaves the state as it is. -/
theorem matcher_progressive (grammar : Grammar) (node : Node) :
    grammar.matcher.Progressive fun state => grammar.matchNode state node := by
  apply Matcher.matchNode_progressive
  intro slot state next once
  have one := length_of_matchSlot once
  change next.leftover.length < state.leftover.length
  omega

/-- Redundant grouping and repetition do not change a match, and a repetition ends where its node
fails or stands still. -/
theorem matchNode_regrouped (grammar : Grammar) (state : MatchState)
    (before inner after : List Node) (node : Node) :
    (grammar.matchNode state (.required (before ++ .required inner :: after)) =
        grammar.matchNode state (.required (before ++ inner ++ after)) ∧
      grammar.matchNode state (.optional (before ++ .optional inner :: after)) =
        grammar.matchNode state (.optional (before ++ inner ++ after)) ∧
      grammar.matchNode state (.either (before ++ .either inner :: after)) =
        grammar.matchNode state (.either (before ++ inner ++ after))) ∧
    (grammar.matchNode state (.repeatable (.repeatable node)) =
        grammar.matchNode state (.repeatable node) ∧
      grammar.matchNode state (.optional [.repeatable node]) =
        grammar.matchNode state (.repeatable (.optional [node]))) ∧
    ∀ final, grammar.matchNode state (.repeatable node) = some final →
      grammar.matchNode final node = none ∨ grammar.matchNode final node = some final := by
  refine ⟨⟨?_, ?_, ?_⟩, ⟨?_, ?_⟩, ?_⟩
  · exact Matcher.matchNode_required_nested before inner after
  · exact Matcher.matchNode_optional_nested before inner after
  · exact Matcher.matchNode_either_nested before inner after
  · exact Matcher.repeatStep_repeatStep (grammar.matcher_progressive node)
  · exact Matcher.repeatStep_getD.symm
  · intro final repeated
    exact Matcher.settled_of_repeatStep (grammar.matcher_progressive node) repeated

end Grammar

end UsageGrammar
