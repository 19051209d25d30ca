import UsageGrammar.Proofs.Consumption
import UsageGrammar.Proofs.Simulation

/-!
# Traces

A trace records which slot took which value, one record for each token consumed. It is kept by a
matcher of its own, which walks the nodes of a grammar as the matcher of states does. The bindings
of a match are the values of its trace, accumulated slot by slot.
-/

namespace UsageGrammar

/-- A value taken by a leaf of a slot. -/
structure Capture where
  slot : Nat
  value : Value
  deriving Repr, DecidableEq

namespace Capture

/-- The values taken by the leaves of a slot, in order. -/
def valuesAt (slot : Nat) (captures : List Capture) : List Value :=
  (captures.filter fun capture => capture.slot = slot).map value

theorem valuesAt_cons (slot : Nat) (capture : Capture) (captures : List Capture) :
    valuesAt slot (capture :: captures) =
      if capture.slot = slot then capture.value :: valuesAt slot captures
      else valuesAt slot captures := by
  by_cases here : capture.slot = slot <;> simp [valuesAt, here]

theorem valuesAt_concat (slot : Nat) (captures : List Capture) (last : Capture) :
    valuesAt slot (captures ++ [last]) =
      if last.slot = slot then valuesAt slot captures ++ [last.value]
      else valuesAt slot captures := by
  by_cases here : last.slot = slot <;> simp [valuesAt, here]

end Capture

/-- The tokens not consumed so far, and what the leaves took so far. -/
structure Trace where
  leftover : List Token
  captures : List Capture
  deriving Repr, DecidableEq

/-- The binding of a slot after several more values. -/
def Slot.accumulateAll (slot : Slot) (bound : Option Value) (values : List Value) : Option Value :=
  values.foldl (fun bound value => some (slot.accumulate bound value)) bound

namespace Grammar

/-- Leaves consume tokens and record what they took. -/
def tracer (grammar : Grammar) : Matcher Trace where
  leaf slot trace :=
    match grammar.slots[slot]? with
    | none => none
    | some declared =>
      (declared.take? trace.leftover).map fun (value, leftover) =>
        ⟨leftover, trace.captures ++ [⟨slot, value⟩]⟩
  remaining trace := trace.leftover.length

/-- Everything that the leaf of a slot can do to a trace. -/
theorem tracer_leaf_eq_some {grammar : Grammar} {slot : Nat} {trace next : Trace}
    (fits : grammar.tracer.leaf slot trace = some next) :
    ∃ declared value, grammar.slots[slot]? = some declared ∧
      declared.Takes trace.leftover next.leftover value ∧
      next.captures = trace.captures ++ [⟨slot, value⟩] := by
  simp only [tracer] at fits
  split at fits
  · cases fits
  · next declared found =>
      obtain ⟨⟨value, leftover⟩, taken, rfl⟩ := Option.map_eq_some_iff.mp fits
      exact ⟨declared, value, found, Slot.takes_of_take? taken, rfl⟩

/-- Adds a captured value to the binding of its slot. -/
def record (grammar : Grammar) (bindings : List (Option Value)) (capture : Capture) :
    List (Option Value) :=
  match grammar.slots[capture.slot]? with
  | none => bindings
  | some declared =>
    bindings.modify capture.slot fun bound => some (declared.accumulate bound capture.value)

/-- Adds captured values to the bindings, one after another. -/
def replay (grammar : Grammar) (bindings : List (Option Value)) (captures : List Capture) :
    List (Option Value) :=
  captures.foldl grammar.record bindings

theorem tracer_simulates (grammar : Grammar) (bindings : List (Option Value)) :
    Matcher.Simulates grammar.tracer grammar.matcher fun trace state =>
      state = ⟨trace.leftover, grammar.replay bindings trace.captures⟩ := by
  refine ⟨?_, ?_⟩
  · rintro slot trace _ rfl
    simp only [tracer, matcher, matchSlot]
    cases found : grammar.slots[slot]? with
    | none => exact .none
    | some declared =>
        cases taken : declared.take? trace.leftover with
        | none => simp [taken]
        | some result => simp [taken, replay, record, List.foldl_append, found]
  · rintro trace trace' _ _ rfl rfl
    exact Iff.rfl

/-- A match consumes as its trace does, and binds what its trace captures. -/
theorem matchNode_eq_replay (grammar : Grammar) (tokens : List Token)
    (bindings : List (Option Value)) (node : Node) :
    grammar.matchNode ⟨tokens, bindings⟩ node =
      (grammar.tracer.matchNode ⟨tokens, []⟩ node).map fun trace =>
        ⟨trace.leftover, grammar.replay bindings trace.captures⟩ := by
  have start : (⟨tokens, bindings⟩ : MatchState) = ⟨tokens, grammar.replay bindings []⟩ := rfl
  have related : Option.Rel _ (grammar.tracer.matchNode ⟨tokens, []⟩ node)
      (grammar.matchNode ⟨tokens, bindings⟩ node) :=
    (grammar.tracer_simulates bindings).matchNode start node
  generalize grammar.tracer.matchNode ⟨tokens, []⟩ node = traced at related ⊢
  generalize grammar.matchNode ⟨tokens, bindings⟩ node = matched at related ⊢
  cases related with
  | none => rfl
  | some same => rw [same]; rfl

/-- What the leaves took when all tokens were matched against the grammar, nothing if it does not
fit. -/
def captures (grammar : Grammar) (tokens : List Token) : List Capture :=
  ((grammar.tracer.matchNode ⟨tokens, []⟩ grammar.root).map Trace.captures).getD []

/-- An accepted vector is consumed entirely, and its bindings are its captured values. -/
theorem traced_of_accepted {grammar : Grammar} {tokens : List Token} {state : MatchState}
    (accepted : grammar.matchTokens tokens = .accepted state) :
    grammar.tracer.matchNode ⟨tokens, []⟩ grammar.root = some ⟨[], grammar.captures tokens⟩ ∧
      state.bindings =
        grammar.replay (List.replicate grammar.size none) (grammar.captures tokens) := by
  simp only [matchTokens, MatchState.start, matchNode_eq_replay, captures] at accepted ⊢
  cases traced : grammar.tracer.matchNode ⟨tokens, []⟩ grammar.root with
  | none => simp [traced] at accepted
  | some trace =>
      simp only [traced, Option.map_some] at accepted
      split at accepted
      · next empty =>
          obtain rfl := MatchOutcome.accepted.inj accepted
          obtain ⟨leftover, captures⟩ := trace
          obtain rfl := List.isEmpty_iff.mp empty
          exact ⟨rfl, rfl⟩
      · cases accepted

theorem replay_length (grammar : Grammar) (bindings : List (Option Value))
    (captures : List Capture) : (grammar.replay bindings captures).length = bindings.length := by
  induction captures generalizing bindings with
  | nil => rfl
  | cons capture captures ih =>
      change (grammar.replay (grammar.record bindings capture) captures).length = _
      rw [ih]
      unfold record
      split
      · rfl
      · exact List.length_modify ..

theorem bindings_length_of_accepted {grammar : Grammar} {tokens : List Token} {state : MatchState}
    (accepted : grammar.matchTokens tokens = .accepted state) :
    state.bindings.length = grammar.slots.length := by
  rw [(traced_of_accepted accepted).2, replay_length]
  exact List.length_replicate

/-- A slot is bound to its own values, whatever the other slots took. -/
theorem replay_getElem? {grammar : Grammar} {slot : Nat} {declared : Slot}
    (found : grammar.slots[slot]? = some declared) (bindings : List (Option Value))
    (captures : List Capture) :
    (grammar.replay bindings captures)[slot]? =
      bindings[slot]?.map fun bound =>
        declared.accumulateAll bound (Capture.valuesAt slot captures) := by
  induction captures generalizing bindings with
  | nil => simp [replay, Slot.accumulateAll, Capture.valuesAt]
  | cons capture captures ih =>
      change (grammar.replay (grammar.record bindings capture) captures)[slot]? = _
      rw [ih, Capture.valuesAt_cons]
      by_cases here : capture.slot = slot
      · simp [record, here, found, Slot.accumulateAll, List.getElem?_modify_eq, Function.comp_def]
      · have kept : (grammar.record bindings capture)[slot]? = bindings[slot]? := by
          unfold record
          split
          · rfl
          · rw [List.getElem?_modify_ne _ _ here]
        simp [kept, here]

theorem binding?_of_accepted {grammar : Grammar} {tokens : List Token} {state : MatchState}
    {slot : Nat} {declared : Slot} (found : grammar.slots[slot]? = some declared)
    (accepted : grammar.matchTokens tokens = .accepted state) :
    state.binding? slot =
      declared.accumulateAll none (Capture.valuesAt slot (grammar.captures tokens)) := by
  have inside : slot < grammar.size := (List.getElem?_eq_some_iff.mp found).1
  have start : (List.replicate grammar.size (none : Option Value))[slot]? = some none := by
    simp [inside]
  rw [MatchState.binding?, (traced_of_accepted accepted).2, replay_getElem? found, start]
  rfl

end Grammar

end UsageGrammar
