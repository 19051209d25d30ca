import UsageGrammar.Proofs.SlotTable
import UsageGrammar.Proofs.Trace
import Mathlib.Data.ENat.Lattice

/-!
# Bounds on occurrences

A pattern says how often a name has to occur and how often it may. The main theorem is that the
leaves of a slot consume no fewer and no more tokens of an accepted vector. A repetition has no
upper bound, a choice without branches fits nothing and has no lower one.
-/

namespace UsageGrammar

namespace Pattern

mutual

/-- The least number of times that a name occurs in a match of the pattern. -/
noncomputable def fewest (name : String) : Pattern → ℕ∞
  | option spec => occurrence name spec.name
  | argument leaf | command leaf => occurrence name leaf
  | required children => fewestTogether name children
  | optional _ | shortcut _ => 0
  | either children => fewestApart name children
  | repeatable child => fewest name child

/-- The least number of times that a name occurs when all of several patterns match. -/
noncomputable def fewestTogether (name : String) : List Pattern → ℕ∞
  | [] => 0
  | child :: children => fewest name child + fewestTogether name children

/-- The least number of times that a name occurs when one of several patterns matches. -/
noncomputable def fewestApart (name : String) : List Pattern → ℕ∞
  | [] => ⊤
  | child :: children => min (fewest name child) (fewestApart name children)

end

mutual

/-- The greatest number of times that a name occurs in a match of the pattern. -/
noncomputable def most (name : String) : Pattern → ℕ∞
  | option spec => occurrence name spec.name
  | argument leaf | command leaf => occurrence name leaf
  | required children | optional children => mostTogether name children
  | either children => mostApart name children
  | repeatable child => if most name child = 0 then 0 else ⊤
  | shortcut specs => (specs.map fun spec => (occurrence name spec.name : ℕ∞)).sum

/-- The greatest number of times that a name occurs when all of several patterns match. -/
noncomputable def mostTogether (name : String) : List Pattern → ℕ∞
  | [] => 0
  | child :: children => most name child + mostTogether name children

/-- The greatest number of times that a name occurs when one of several patterns matches. -/
noncomputable def mostApart (name : String) : List Pattern → ℕ∞
  | [] => 0
  | child :: children => max (most name child) (mostApart name children)

end

end Pattern

/-- The number of values that the leaves of a slot took. -/
def Trace.taken (trace : Trace) (slot : Nat) : Nat :=
  (Capture.valuesAt slot trace.captures).length

/-- The leaves of a slot take at least `low` and at most `high` values between two traces. -/
structure Advances (slot : Nat) (low high : ℕ∞) (before after : Trace) : Prop where
  least : before.taken slot + low ≤ after.taken slot
  greatest : (after.taken slot : ℕ∞) ≤ before.taken slot + high

namespace Advances

variable {slot : Nat} {low high low' high' : ℕ∞} {before middle after : Trace}

theorem refl (slot : Nat) (trace : Trace) : Advances slot 0 0 trace trace :=
  ⟨by simp, by simp⟩

theorem trans (first : Advances slot low high before middle)
    (second : Advances slot low' high' middle after) :
    Advances slot (low + low') (high + high') before after := by
  constructor
  · calc
      before.taken slot + (low + low') = before.taken slot + low + low' := (add_assoc ..).symm
      _ ≤ middle.taken slot + low' := by gcongr; exact first.least
      _ ≤ after.taken slot := second.least
  · calc
      (after.taken slot : ℕ∞) ≤ middle.taken slot + high' := second.greatest
      _ ≤ before.taken slot + high + high' := by gcongr; exact first.greatest
      _ = before.taken slot + (high + high') := add_assoc ..

theorem weaken (advances : Advances slot low high before after) (lower : low' ≤ low)
    (higher : high ≤ high') : Advances slot low' high' before after := by
  constructor
  · exact le_trans (by gcongr) advances.least
  · exact advances.greatest.trans (by gcongr)

theorem passedOver {next : Option Trace}
    (fits : ∀ after, next = some after → Advances slot low high before after) :
    Advances slot 0 high before (next.getD before) := by
  cases next with
  | none => exact (refl slot before).weaken le_rfl zero_le
  | some after => exact (fits after rfl).weaken zero_le le_rfl

theorem iterate {step : Trace → Trace → Prop}
    (steps : ∀ {before after}, step before after → Advances slot low high before after)
    (path : Relation.TransGen step before after) :
    Advances slot low (if high = 0 then 0 else ⊤) before after := by
  have once {before after : Trace} (taken : step before after) :
      Advances slot low (if high = 0 then 0 else ⊤) before after := by
    refine (steps taken).weaken le_rfl ?_
    split
    · next none => exact none.le
    · exact le_top
  induction path with
  | single taken => exact once taken
  | tail _ taken ih =>
      refine (ih.trans (once taken)).weaken le_self_add ?_
      split <;> simp

end Advances

section Bounds

variable {grammar : Grammar} {index : String → Nat} {slot : Nat} {name : String}

theorem leaf_advances (refers : ∀ leaf, index leaf = slot ↔ leaf = name) {leaf : String}
    {before after : Trace} (fits : grammar.tracer.leaf (index leaf) before = some after) :
    Advances slot (Pattern.occurrence name leaf) (Pattern.occurrence name leaf) before after := by
  obtain ⟨declared, value, _, _, captured⟩ := Grammar.tracer_leaf_eq_some fits
  have grown : after.taken slot = before.taken slot + Pattern.occurrence name leaf := by
    rw [Trace.taken, captured, Capture.valuesAt_concat, Pattern.occurrence]
    simp only [refers]
    split
    · exact List.length_append
    · rfl
  constructor <;> simp [grown]

/-- Each option of a shortcut is taken once or not at all. -/
theorem matchEach_options_advances (refers : ∀ leaf, index leaf = slot ↔ leaf = name)
    (specs : List OptionSpec) (before : Trace) :
    Advances slot 0 (specs.map fun spec => (Pattern.occurrence name spec.name : ℕ∞)).sum before
      (grammar.tracer.matchEach before (specs.map fun spec => .option (index spec.name))) := by
  induction specs generalizing before with
  | nil => exact .refl slot before
  | cons spec specs ih =>
      rw [List.map_cons, List.map_cons, List.sum_cons, Matcher.matchEach, ← zero_add (0 : ℕ∞)]
      exact (Advances.passedOver fun _ fits => leaf_advances refers fits).trans (ih _)

mutual

/-- A node takes as many values for a slot as its pattern says that the name occurs. -/
theorem matchNode_advances (refers : ∀ leaf, index leaf = slot ↔ leaf = name) :
    ∀ (pattern : Pattern) {before after : Trace},
      grammar.tracer.matchNode before (pattern.toNode index) = some after →
      Advances slot (pattern.fewest name) (pattern.most name) before after
  | .option _, _, _, fits | .argument _, _, _, fits | .command _, _, _, fits =>
      leaf_advances refers fits
  | .required children, _, _, fits => matchAll_advances refers children fits
  | .optional children, before, _, fits => by
      obtain rfl := Option.some.inj fits
      exact matchEach_advances refers children before
  | .either children, _, _, fits => matchClosest_advances refers children fits
  | .repeatable child, _, _, fits =>
      Advances.iterate (matchNode_advances refers child) (Matcher.repeatStep_transGen fits)
  | .shortcut specs, before, _, fits => by
      obtain rfl := Option.some.inj fits
      exact matchEach_options_advances refers specs before

theorem matchAll_advances (refers : ∀ leaf, index leaf = slot ↔ leaf = name) :
    ∀ (children : List Pattern) {before after : Trace},
      grammar.tracer.matchAll before (Pattern.toNodes index children) = some after →
      Advances slot (Pattern.fewestTogether name children) (Pattern.mostTogether name children)
        before after
  | [], before, _, fits => by
      obtain rfl := Option.some.inj fits
      exact .refl slot before
  | child :: children, before, after, fits => by
      rw [Pattern.toNodes, Matcher.matchAll] at fits
      split at fits
      · cases fits
      · next middle head =>
          exact (matchNode_advances refers child head).trans
            (matchAll_advances refers children fits)

theorem matchEach_advances (refers : ∀ leaf, index leaf = slot ↔ leaf = name) :
    ∀ (children : List Pattern) (before : Trace),
      Advances slot 0 (Pattern.mostTogether name children) before
        (grammar.tracer.matchEach before (Pattern.toNodes index children))
  | [], before => .refl slot before
  | child :: children, before => by
      rw [Pattern.toNodes, Matcher.matchEach, Pattern.mostTogether, ← zero_add (0 : ℕ∞)]
      exact (Advances.passedOver fun _ fits => matchNode_advances refers child fits).trans
        (matchEach_advances refers children _)

theorem matchClosest_advances (refers : ∀ leaf, index leaf = slot ↔ leaf = name) :
    ∀ (children : List Pattern) {before after : Trace},
      grammar.tracer.matchClosest before (Pattern.toNodes index children) = some after →
      Advances slot (Pattern.fewestApart name children) (Pattern.mostApart name children)
        before after
  | [], _, _, fits => by cases fits
  | child :: children, before, after, fits => by
      rcases Matcher.closer_eq_some fits with head | later
      · exact (matchNode_advances refers child head).weaken (min_le_left ..) (le_max_left ..)
      · exact (matchClosest_advances refers children later).weaken (min_le_right ..)
          (le_max_right ..)

end

end Bounds

namespace Pattern

variable {name : String}

theorem sum_occurrence (specs : List OptionSpec) :
    (specs.map fun spec => (occurrence name spec.name : ℕ∞)).sum =
      (specs.map OptionSpec.name).count name := by
  induction specs with
  | nil => rfl
  | cons spec specs ih =>
      rw [List.map_cons, List.sum_cons, ih, List.map_cons, List.count_cons, Nat.cast_add, add_comm]
      simp [occurrence]

mutual

/-- A name that is not taken to repeat cannot be repeated. -/
theorem most_le_occurrences : ∀ pattern : Pattern,
    pattern.occurrences name ≤ 1 → pattern.most name ≤ pattern.occurrences name
  | option _, _ | argument _, _ | command _, _ => le_rfl
  | required children, single | optional children, single =>
      mostTogether_le_occurrencesTogether children single
  | either children, single => mostApart_le_occurrencesApart children single
  | repeatable child, single => by
      rw [occurrences] at single
      have absent : child.occurrences name = 0 := by omega
      have none_below := most_le_occurrences child (by omega)
      rw [absent, Nat.cast_zero, nonpos_iff_eq_zero] at none_below
      simp [most, none_below]
  | shortcut specs, _ => by
      rw [most, occurrences, sum_occurrence]

theorem mostTogether_le_occurrencesTogether : ∀ children : List Pattern,
    occurrencesTogether name children ≤ 1 →
      mostTogether name children ≤ occurrencesTogether name children
  | [], _ => le_rfl
  | child :: children, single => by
      rw [occurrencesTogether] at single
      have head := most_le_occurrences child (by omega)
      have later := mostTogether_le_occurrencesTogether children (by omega)
      rw [mostTogether, occurrencesTogether, Nat.cast_add]
      exact add_le_add head later

theorem mostApart_le_occurrencesApart : ∀ children : List Pattern,
    occurrencesApart name children ≤ 1 →
      mostApart name children ≤ occurrencesApart name children
  | [], _ => le_rfl
  | child :: children, single => by
      rw [occurrencesApart] at single
      have head := most_le_occurrences child (by omega)
      have later := mostApart_le_occurrencesApart children (by omega)
      rw [mostApart, occurrencesApart]
      refine max_le (head.trans ?_) (later.trans ?_)
      · exact_mod_cast le_max_left ..
      · exact_mod_cast le_max_right ..

end

end Pattern

namespace Grammar

/-- The number of tokens that the leaves of a slot consume when all tokens are matched. -/
def consumedBy (grammar : Grammar) (tokens : List Token) (slot : Nat) : Nat :=
  (Capture.valuesAt slot (grammar.captures tokens)).length

theorem accepted_advances {pattern : Pattern} {tokens : List Token} {state : MatchState}
    (accepted : (ofPattern pattern).matchTokens tokens = .accepted state) {index : Nat}
    {slot : Slot} (found : (ofPattern pattern).slots[index]? = some slot) :
    Advances index (pattern.fewest slot.name) (pattern.most slot.name) ⟨tokens, []⟩
      ⟨[], (ofPattern pattern).captures tokens⟩ := by
  have traced := (traced_of_accepted accepted).1
  rw [root_ofPattern] at traced
  exact matchNode_advances (idxOf_names_iff (names_nodup pattern) found) pattern traced

theorem consumedBy_le_one {pattern : Pattern} {tokens : List Token} {state : MatchState}
    (accepted : (ofPattern pattern).matchTokens tokens = .accepted state) {index : Nat}
    {slot : Slot} (found : (ofPattern pattern).slots[index]? = some slot)
    (single : pattern.occurrences slot.name ≤ 1) :
    (ofPattern pattern).consumedBy tokens index ≤ 1 := by
  have bounded := (accepted_advances accepted found).greatest
  have limit : (pattern.most slot.name : ℕ∞) ≤ 1 :=
    (Pattern.most_le_occurrences pattern single).trans (by exact_mod_cast single)
  have total : ((ofPattern pattern).consumedBy tokens index : ℕ∞) ≤ 1 := by
    simpa [Trace.taken, consumedBy, Capture.valuesAt] using bounded.trans (add_le_add_right limit _)
  exact_mod_cast total

/-- An accepted vector neither lacks an occurrence that the pattern requires nor has one more than
it allows. -/
theorem consumedBy_mem_bounds {pattern : Pattern} {tokens : List Token} {state : MatchState}
    (accepted : (ofPattern pattern).matchTokens tokens = .accepted state) {index : Nat}
    {slot : Slot} (found : (ofPattern pattern).slots[index]? = some slot) :
    pattern.fewest slot.name ≤ (ofPattern pattern).consumedBy tokens index ∧
      ((ofPattern pattern).consumedBy tokens index : ℕ∞) ≤ pattern.most slot.name := by
  have advances := accepted_advances accepted found
  constructor
  · simpa [Trace.taken, consumedBy, Capture.valuesAt] using advances.least
  · simpa [Trace.taken, consumedBy, Capture.valuesAt] using advances.greatest

/-- `prog ( copy <source>... | move <source> <target> ) [ -v... ]` -/
def transferUsage : Pattern :=
  .required [
    .either [
      .required [.command "copy", .repeatable (.argument "<source>")],
      .required [.command "move", .argument "<source>", .argument "<target>"]],
    .optional [.repeatable (.option (.flag (some "-v") none))]]

/-- `copy -v a -v b` -/
def transferTokens : List Token :=
  [.argument "copy", .flag "-v", .argument "a", .flag "-v", .argument "b"]

theorem transfer_accepted : (ofPattern transferUsage).matchTokens transferTokens =
    .accepted ⟨[], [some (.bool true), some (.list ["a", "b"]), none, none, some (.count 2)]⟩ := by
  cbv

/-- The two sources of a copy are as many as the usage allows. -/
theorem consumedBy_mem_bounds_transfer :
    (ofPattern transferUsage).matchTokens transferTokens =
        .accepted ⟨[], [some (.bool true), some (.list ["a", "b"]), none, none,
          some (.count 2)]⟩ ∧
      (ofPattern transferUsage).slots[1]? = some ⟨"<source>", .argument, .list []⟩ ∧
      transferUsage.fewest "<source>" ≤ (ofPattern transferUsage).consumedBy transferTokens 1 ∧
      ((ofPattern transferUsage).consumedBy transferTokens 1 : ℕ∞) ≤
        transferUsage.most "<source>" := by
  have found : (ofPattern transferUsage).slots[1]? = some ⟨"<source>", .argument, .list []⟩ := by
    cbv
  have bounds := consumedBy_mem_bounds transfer_accepted found
  dsimp only at bounds
  exact ⟨transfer_accepted, found, bounds⟩

end Grammar

end UsageGrammar
