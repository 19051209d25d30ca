import UsageGrammar.Proofs.Accounting
import UsageGrammar.Proofs.LeafKinds
import UsageGrammar.Proofs.OccurrenceBounds
import UsageGrammar.Proofs.Regrouping

/-!
# What a match leaves alone

Matching a node is a path of steps, each of which is made by a leaf of the node. A leaf takes one
token from the front of a stream and binds its own slot, so a path only takes tokens away, keeps
the order of those that are left, and does not touch the slots of other leaves. A path without a
step changes nothing, and a node that does not fit changes nothing either.
-/

namespace UsageGrammar

namespace Node

/-- The slots that the leaves of a node refer to. -/
def slots (node : Node) : List Nat :=
  node.leaves.map Prod.snd

/-- The slots that the leaves of several nodes refer to. -/
def slotsOfAll (children : List Node) : List Nat :=
  (leavesOfAll children).map Prod.snd

theorem slotsOfAll_cons (child : Node) (children : List Node) :
    slotsOfAll (child :: children) = child.slots ++ slotsOfAll children := by
  rw [slotsOfAll, leavesOfAll, List.map_append]
  rfl

end Node

namespace Matcher

variable {σ : Type} {matcher : Matcher σ} {slots others : List Nat} {before middle after : σ}

/-- A leaf of one of the slots takes a state to the next. -/
def LeafStep (matcher : Matcher σ) (slots : List Nat) (before after : σ) : Prop :=
  ∃ slot ∈ slots, matcher.leaf slot before = some after

/-- Leaves of the slots take a state to another, one after the other. -/
def LeafPath (matcher : Matcher σ) (slots : List Nat) : σ → σ → Prop :=
  Relation.ReflTransGen (matcher.LeafStep slots)

namespace LeafPath

theorem mono (subset : slots ⊆ others) (path : matcher.LeafPath slots before after) :
    matcher.LeafPath others before after := by
  refine Relation.ReflTransGen.mono ?_ _ _ path
  rintro before after ⟨slot, member, once⟩
  exact ⟨slot, subset member, once⟩

theorem append (first : matcher.LeafPath slots before middle)
    (later : matcher.LeafPath others middle after) :
    matcher.LeafPath (slots ++ others) before after :=
  Relation.ReflTransGen.trans (first.mono (List.subset_append_left slots others))
    (later.mono (List.subset_append_right slots others))

theorem passedOver {next : Option σ}
    (fits : ∀ after, next = some after → matcher.LeafPath slots before after) :
    matcher.LeafPath slots before (next.getD before) := by
  cases next with
  | none => exact .refl
  | some after => exact fits after rfl

end LeafPath

mutual

/-- A node is matched by its leaves, one after the other. -/
theorem matchNode_leafPath : ∀ (node : Node) {before after : σ},
    matcher.matchNode before node = some after → matcher.LeafPath node.slots before after
  | .option slot, _, _, fits | .argument slot, _, _, fits | .command slot, _, _, fits =>
      .single ⟨slot, List.mem_singleton_self slot, fits⟩
  | .required children, _, _, fits => matchAll_leafPath children fits
  | .optional children, before, _, fits | .shortcut children, before, _, fits => by
      obtain rfl := Option.some.inj fits
      exact matchEach_leafPath children before
  | .either children, _, _, fits => matchClosest_leafPath children fits
  | .repeatable child, _, _, fits => by
      refine (repeatStep_transGen fits).to_reflTransGen.lift' id fun _ _ once => ?_
      exact matchNode_leafPath child once

theorem matchAll_leafPath : ∀ (children : List Node) {before after : σ},
    matcher.matchAll before children = some after →
      matcher.LeafPath (Node.slotsOfAll children) before after
  | [], before, _, fits => by
      obtain rfl := Option.some.inj fits
      exact .refl
  | child :: children, before, after, fits => by
      rw [matchAll] at fits
      rw [Node.slotsOfAll_cons]
      split at fits
      · cases fits
      · next middle once =>
          exact (matchNode_leafPath child once).append (matchAll_leafPath children fits)

theorem matchEach_leafPath : ∀ (children : List Node) (before : σ),
    matcher.LeafPath (Node.slotsOfAll children) before (matcher.matchEach before children)
  | [], _ => .refl
  | child :: children, before => by
      rw [matchEach, Node.slotsOfAll_cons]
      exact (LeafPath.passedOver fun _ once => matchNode_leafPath child once).append
        (matchEach_leafPath children _)

theorem matchClosest_leafPath : ∀ (children : List Node) {before after : σ},
    matcher.matchClosest before children = some after →
      matcher.LeafPath (Node.slotsOfAll children) before after
  | [], _, _, fits => by cases fits
  | child :: children, _, _, fits => by
      rw [Node.slotsOfAll_cons]
      rcases closer_eq_some fits with first | later
      · exact (matchNode_leafPath child first).mono (List.subset_append_left ..)
      · exact (matchClosest_leafPath children later).mono (List.subset_append_right ..)

end

end Matcher

namespace MatchState

/-- What stays as it was when leaves of some slots take one state to another: tokens are only taken
away, arguments and the options of each name from the front, and no binding is lost or touched but
those of the slots. Where no token is taken, nothing happens. -/
structure Frames (slots : List Nat) (before after : MatchState) : Prop where
  leftover : after.leftover.Sublist before.leftover
  words : Token.words after.leftover <:+ Token.words before.leftover
  values (name : String) :
    Token.valuesOf name after.leftover <:+ Token.valuesOf name before.leftover
  size : after.bindings.length = before.bindings.length
  untouched {slot : Nat} : slot ∉ slots → after.bindings[slot]? = before.bindings[slot]?
  bound {slot : Nat} : (before.binding? slot).isSome → (after.binding? slot).isSome
  progress : after = before ∨ after.leftover.length < before.leftover.length

namespace Frames

variable {slots : List Nat} {before middle after : MatchState}

theorem refl (slots : List Nat) (state : MatchState) : Frames slots state state :=
  ⟨List.Sublist.refl _, List.suffix_refl _, fun _ => List.suffix_refl _, rfl, fun _ => rfl, id,
    .inl rfl⟩

theorem trans (first : Frames slots before middle) (second : Frames slots middle after) :
    Frames slots before after where
  leftover := second.leftover.trans first.leftover
  words := second.words.trans first.words
  values name := (second.values name).trans (first.values name)
  size := second.size.trans first.size
  untouched other := (second.untouched other).trans (first.untouched other)
  bound earlier := second.bound (first.bound earlier)
  progress := by
    rcases first.progress with rfl | less
    · exact second.progress
    · exact .inr (Nat.lt_of_le_of_lt second.leftover.length_le less)

theorem eq_of_length_eq (frames : Frames slots before after)
    (same : after.leftover.length = before.leftover.length) : after = before :=
  frames.progress.resolve_right (Nat.not_lt_of_le (Nat.le_of_eq same.symm))

end Frames

end MatchState

namespace Grammar

variable {grammar : Grammar} {slots : List Nat} {before after : MatchState}

theorem matchSlot_frames {slot : Nat} (member : slot ∈ slots)
    (fits : grammar.matchSlot slot before = some after) : before.Frames slots after := by
  have shorter := length_of_matchSlot fits
  obtain ⟨declared, value, -, taken, bindings⟩ := matchSlot_eq_some fits
  obtain ⟨front, token, back, whole, left, -⟩ := taken.split
  have leftover : after.leftover.Sublist before.leftover := by
    rw [whole, left]
    exact (List.sublist_cons_self token back).append_left front
  have streams : Token.words after.leftover <:+ Token.words before.leftover ∧
      ∀ name, Token.valuesOf name after.leftover <:+ Token.valuesOf name before.leftover := by
    rcases taken.cases_stream with ⟨-, own, words, others⟩ | ⟨word, -, -, -, words, values⟩
    · refine ⟨words ▸ List.suffix_refl _, fun name => ?_⟩
      by_cases here : declared.name = name
      · rw [← here, own]
        exact List.suffix_cons ..
      · exact others name here ▸ List.suffix_refl _
    · exact ⟨words ▸ List.suffix_cons .., fun name => values name ▸ List.suffix_refl _⟩
  refine ⟨leftover, streams.1, streams.2, ?_, fun other => ?_, fun {other} earlier => ?_,
    .inr (by omega)⟩
  · rw [bindings, List.length_modify]
  · rw [bindings, List.getElem?_modify_ne]
    rintro rfl
    exact other member
  · rw [MatchState.binding?, bindings, List.getElem?_modify]
    rw [MatchState.binding?] at earlier
    cases bound : before.bindings[other]? with
    | none => simp [bound] at earlier
    | some value' =>
        by_cases here : slot = other
        · simp [here]
        · simpa [here, bound] using earlier

/-- Leaves of some slots, one after the other, change these slots only. -/
theorem leafPath_frames (path : grammar.matcher.LeafPath slots before after) :
    before.Frames slots after := by
  induction path with
  | refl => exact .refl slots before
  | tail _ step ih =>
      obtain ⟨slot, member, once⟩ := step
      exact ih.trans (matchSlot_frames member once)

/-- Matching a node takes tokens away in their order, arguments and the options of each name from
the front. It keeps one binding for each slot, touches none but those of its own leaves, and loses
none. If it takes no token it changes nothing, and it changes nothing if it fails. -/
theorem attempt_frames {node : Node} {state next : MatchState} {fits : Bool}
    (complete : state.bindings.length = grammar.size)
    (attempted : grammar.attempt node state = (fits, next)) :
    (fits = true →
      state.Frames node.slots next ∧ next.bindings.length = grammar.size ∧
        (next.leftover.length = state.leftover.length → next = state)) ∧
      (fits = false → next = state) := by
  unfold attempt at attempted
  cases once : grammar.matchNode state node with
  | none =>
      rw [once] at attempted
      obtain ⟨rfl, rfl⟩ := Prod.mk.inj attempted
      exact ⟨nofun, fun _ => rfl⟩
  | some after =>
      rw [once] at attempted
      obtain ⟨rfl, rfl⟩ := Prod.mk.inj attempted
      have frames := leafPath_frames (Matcher.matchNode_leafPath node once)
      exact ⟨fun _ => ⟨frames, frames.size.trans complete, frames.eq_of_length_eq⟩, nofun⟩

/-- In the middle of a transfer: the command has been taken, and one `-v` has been counted. -/
def transferState : MatchState where
  leftover := [.argument "a", .invalid "-x", .flag "-v", .argument "b"]
  bindings := [some (.bool true), none, none, none, some (.count 1)]

/-- The same transfer after its sources have been collected. -/
def collectedState : MatchState where
  leftover := [.invalid "-x", .flag "-v"]
  bindings := [some (.bool true), some (.list ["a", "b"]), none, none, some (.count 1)]

/-- The sources are collected around the word that was not understood. A second command does not
fit, so the `-v` before it is not taken. -/
theorem attempt_frames_transfer :
    transferState.bindings.length = (ofPattern transferUsage).size ∧
      (ofPattern transferUsage).attempt (.repeatable (.argument 1)) transferState =
        (true, collectedState) ∧
      transferState.Frames [1] collectedState ∧
      (ofPattern transferUsage).attempt (.required [.option 4, .command 0]) transferState =
        (false, transferState) := by
  have complete : transferState.bindings.length = (ofPattern transferUsage).size := by cbv
  have collected : (ofPattern transferUsage).attempt (.repeatable (.argument 1)) transferState =
      (true, collectedState) := by
    cbv
  obtain ⟨frames, -, -⟩ := (attempt_frames complete collected).1 rfl
  refine ⟨complete, collected, frames, ?_⟩
  cbv

end Grammar

end UsageGrammar
