import UsageGrammar.Grammar.Match
import UsageGrammar.Proofs.SlotTable
import UsageGrammar.Proofs.Simulation

/-!
# Renumbering of slots

The number of a slot matters to the leaves that bear it and to nothing else. A pattern therefore
consumes the same tokens in every grammar that has, for the name of each of its leaves, a slot of
the same kind. What is bound may differ, since the same name can accumulate in one grammar and not
in the other.
-/

namespace UsageGrammar

namespace Matcher

variable {σ : Type}

/-- The matcher whose leaves act for slots of other numbers. -/
def renumber (matcher : Matcher σ) (number : Nat → Nat) : Matcher σ where
  leaf slot := matcher.leaf (number slot)
  remaining := matcher.remaining

section Renumber

variable (matcher : Matcher σ) {number : Nat → Nat} {index index' : String → Nat}

theorem repeatStep_renumber (step : σ → Option σ) (state : σ) :
    (matcher.renumber number).repeatStep step state = matcher.repeatStep step state := by
  fun_induction matcher.repeatStep step state with
  | case1 state failed => rw [repeatStep, failed]
  | case2 state next once progress ih =>
      rw [repeatStep, once]
      dsimp only
      rw [ih]
      exact if_pos progress
  | case3 state next once stuck =>
      rw [repeatStep, once]
      exact if_neg stuck

theorem matchEach_options_renumber (specs : List OptionSpec) (state : σ)
    (named : ∀ spec ∈ specs, number (index spec.name) = index' spec.name) :
    (matcher.renumber number).matchEach state
        (specs.map fun spec => .option (index spec.name)) =
      matcher.matchEach state (specs.map fun spec => .option (index' spec.name)) := by
  induction specs generalizing state with
  | nil => rfl
  | cons spec specs ih =>
      have head : (matcher.renumber number).leaf (index spec.name) state =
          matcher.leaf (index' spec.name) state :=
        congrArg (matcher.leaf · state) (named spec List.mem_cons_self)
      rw [List.map_cons, List.map_cons, matchEach, matchEach, matchNode, matchNode, head]
      exact ih _ fun spec member => named spec (List.mem_cons_of_mem _ member)

mutual

/-- A pattern is matched in the same way under any numbering of its names. -/
theorem matchNode_renumber : ∀ (pattern : Pattern) (state : σ),
    (∀ leaf ∈ pattern.leafSlots, number (index leaf.name) = index' leaf.name) →
    (matcher.renumber number).matchNode state (pattern.toNode index) =
      matcher.matchNode state (pattern.toNode index')
  | .option spec, state, named => by
      exact congrArg (matcher.leaf · state) (named (.ofOption spec) List.mem_cons_self)
  | .argument name, state, named => by
      exact congrArg (matcher.leaf · state) (named (.ofArgument name) List.mem_cons_self)
  | .command name, state, named => by
      exact congrArg (matcher.leaf · state) (named (.ofCommand name) List.mem_cons_self)
  | .required children, state, named => matchAll_renumber children state named
  | .optional children, state, named => congrArg some (matchEach_renumber children state named)
  | .either children, state, named => matchClosest_renumber children state named
  | .repeatable child, state, named => by
      have step : (fun state => (matcher.renumber number).matchNode state (child.toNode index)) =
          fun state => matcher.matchNode state (child.toNode index') :=
        funext fun state => matchNode_renumber child state named
      rw [Pattern.toNode, Pattern.toNode, matchNode, matchNode, step, repeatStep_renumber]
  | .shortcut specs, state, named => by
      refine congrArg some (matchEach_options_renumber matcher specs state fun spec member => ?_)
      exact named (.ofOption spec) (List.mem_map_of_mem member)

theorem matchAll_renumber : ∀ (children : List Pattern) (state : σ),
    (∀ leaf ∈ Pattern.leafSlotsOfAll children, number (index leaf.name) = index' leaf.name) →
    (matcher.renumber number).matchAll state (Pattern.toNodes index children) =
      matcher.matchAll state (Pattern.toNodes index' children)
  | [], _, _ => rfl
  | child :: children, state, named => by
      have head := matchNode_renumber child state fun leaf member =>
        named leaf (List.mem_append_left _ member)
      rw [Pattern.toNodes, Pattern.toNodes, matchAll, matchAll, head]
      cases matcher.matchNode state (child.toNode index') with
      | none => rfl
      | some next =>
          exact matchAll_renumber children next fun leaf member =>
            named leaf (List.mem_append_right _ member)

theorem matchEach_renumber : ∀ (children : List Pattern) (state : σ),
    (∀ leaf ∈ Pattern.leafSlotsOfAll children, number (index leaf.name) = index' leaf.name) →
    (matcher.renumber number).matchEach state (Pattern.toNodes index children) =
      matcher.matchEach state (Pattern.toNodes index' children)
  | [], _, _ => rfl
  | child :: children, state, named => by
      have head := matchNode_renumber child state fun leaf member =>
        named leaf (List.mem_append_left _ member)
      rw [Pattern.toNodes, Pattern.toNodes, matchEach, matchEach, head]
      exact matchEach_renumber children _ fun leaf member =>
        named leaf (List.mem_append_right _ member)

theorem matchClosest_renumber : ∀ (children : List Pattern) (state : σ),
    (∀ leaf ∈ Pattern.leafSlotsOfAll children, number (index leaf.name) = index' leaf.name) →
    (matcher.renumber number).matchClosest state (Pattern.toNodes index children) =
      matcher.matchClosest state (Pattern.toNodes index' children)
  | [], _, _ => rfl
  | child :: children, state, named => by
      have head := matchNode_renumber child state fun leaf member =>
        named leaf (List.mem_append_left _ member)
      have later := matchClosest_renumber children state fun leaf member =>
        named leaf (List.mem_append_right _ member)
      rw [Pattern.toNodes, Pattern.toNodes, matchClosest, matchClosest, head, later]
      rfl

end

end Renumber

end Matcher

namespace SlotKind

/-- Both kinds are of options, both of arguments, or both of commands. -/
def alike : SlotKind → SlotKind → Bool
  | .option _, .option _ | .argument, .argument | .command, .command => true
  | _, _ => false

end SlotKind

theorem Slot.take?_eq_of_alike {slot other : Slot} (named : slot.name = other.name)
    (alike : slot.kind.alike other.kind) : slot.take? = other.take? := by
  obtain ⟨name, kind, default⟩ := slot
  obtain ⟨name', kind', default'⟩ := other
  obtain rfl : name = name' := named
  funext tokens
  cases kind <;> cases kind' <;> first | rfl | cases alike

/-- Leaves of one name are of one kind. -/
def Pattern.KindsAgree (pattern : Pattern) : Prop :=
  ∀ leaf ∈ pattern.leafSlots, ∀ other ∈ pattern.leafSlots,
    leaf.name = other.name → leaf.kind.alike other.kind

instance (pattern : Pattern) : Decidable pattern.KindsAgree :=
  inferInstanceAs (Decidable (∀ leaf ∈ pattern.leafSlots, ∀ other ∈ pattern.leafSlots,
    leaf.name = other.name → leaf.kind.alike other.kind))

namespace Grammar

/-- The number that a slot of one grammar has in another one, found by its name. -/
def numberIn (grammar other : Grammar) (slot : Nat) : Nat :=
  match grammar.names[slot]? with
  | some name => other.names.idxOf name
  | none => other.size

/-- Another grammar has, under the name of each slot, a slot that takes the same tokens. -/
def ServedBy (grammar other : Grammar) : Prop :=
  ∀ slot ∈ grammar.slots, ∃ declared,
    other.slots[other.names.idxOf slot.name]? = some declared ∧ declared.take? = slot.take?

variable {grammar other : Grammar}

theorem numberIn_idxOf {name : String} (named : name ∈ grammar.names) :
    grammar.numberIn other (grammar.names.idxOf name) = other.names.idxOf name := by
  rw [numberIn, List.getElem?_idxOf named]

theorem ServedBy.simulates (served : grammar.ServedBy other) :
    Matcher.Simulates grammar.matcher (other.matcher.renumber (grammar.numberIn other))
      fun left right => left.leftover = right.leftover := by
  constructor
  · rintro slot ⟨tokens, bindings⟩ ⟨_, bindings'⟩ rfl
    cases found : grammar.slots[slot]? with
    | none =>
        have outside : other.slots[grammar.numberIn other slot]? = none := by
          simp [numberIn, names, found, size]
        simp only [matcher, Matcher.renumber, matchSlot, found, outside]
        exact .none
    | some declared =>
        obtain ⟨server, found', takes⟩ := served declared (List.mem_of_getElem? found)
        have number : grammar.numberIn other slot = other.names.idxOf declared.name := by
          rw [numberIn, names_getElem? found]
        simp only [matcher, Matcher.renumber, matchSlot, found, number, found', takes]
        cases declared.take? tokens with
        | none => exact .none
        | some taken => exact .some rfl
  · rintro left left' right right' same same'
    change left'.leftover.length < left.leftover.length ↔
      right'.leftover.length < right.leftover.length
    rw [same, same']

/-- A pattern leaves the same tokens in both grammars. -/
theorem ServedBy.leftover_eq (served : grammar.ServedBy other) {pattern : Pattern}
    (named : ∀ leaf ∈ pattern.leafSlots, leaf.name ∈ grammar.names) {left right : MatchState}
    (same : left.leftover = right.leftover) :
    (grammar.matchNode left (pattern.toNode grammar.names.idxOf)).map MatchState.leftover =
      (other.matchNode right (pattern.toNode other.names.idxOf)).map MatchState.leftover := by
  have related := served.simulates.matchNode same (pattern.toNode grammar.names.idxOf)
  have renumbered : (other.matcher.renumber (grammar.numberIn other)).matchNode right
      (pattern.toNode grammar.names.idxOf) =
        other.matcher.matchNode right (pattern.toNode other.names.idxOf) :=
    Matcher.matchNode_renumber other.matcher pattern right fun leaf member =>
      numberIn_idxOf (named leaf member)
  rw [renumbered] at related
  simp only [matchNode]
  generalize grammar.matcher.matchNode left (pattern.toNode grammar.names.idxOf) = first,
    other.matcher.matchNode right (pattern.toNode other.names.idxOf) = second at related
  cases related with
  | none => rfl
  | some same => exact congrArg some same

/-- The grammar of a pattern serves that of any pattern with no other leaves. -/
theorem ofPattern_servedBy {part whole : Pattern} (agree : whole.KindsAgree)
    (within : part.leafSlots ⊆ whole.leafSlots) : (ofPattern part).ServedBy (ofPattern whole) := by
  intro slot member
  obtain ⟨leaf, asked, rfl⟩ := exists_leafSlot member
  have shared := within asked
  rw [Pattern.typeRepetition_name]
  obtain ⟨server, found, named⟩ := exists_slot_of_name (name_mem_names shared)
  obtain ⟨original, asked', rfl⟩ := exists_leafSlot (List.mem_of_getElem? found)
  rw [Pattern.typeRepetition_name] at named
  refine ⟨_, found, Slot.take?_eq_of_alike (by simpa using named) ?_⟩
  simpa using agree original asked' leaf shared named

end Grammar

end UsageGrammar
