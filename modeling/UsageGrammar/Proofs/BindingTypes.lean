import UsageGrammar.Proofs.BoundValues
import UsageGrammar.Proofs.Refusal

/-!
# Types of bindings

After a match every slot of the grammar is bound, and its value has the type that the slot
announces. Where values accumulate, the accumulation fixes the type. Where one value is kept, it is
the default, a word, or the value that was read for an option; the option that was read and the
option of the slot are the same, because an accepted vector names known options only.
-/

namespace UsageGrammar

namespace Slot

/-- The values of the type that a slot announces. -/
inductive Announces (slot : Slot) : Value → Prop
  | count {occurrences : Nat} : slot.accumulation = .count → Announces slot (.count occurrences)
  | list {items : List String} : slot.accumulation = .list → Announces slot (.list items)
  | truth {truth : Bool} : slot.accumulation = .scalar → slot.collectsValues = false →
      Announces slot (.bool truth)
  | text {word : String} : slot.accumulation = .scalar → slot.collectsValues = true →
      Announces slot (.text word)
  | null : slot.accumulation = .scalar → slot.collectsValues = true → Announces slot .null

variable {slot : Slot}

section Defaults

theorem OfLeaf.announces_default (leaf : slot.OfLeaf) : slot.Announces slot.default := by
  cases leaf with
  | option spec =>
      obtain ⟨short, long, takesValue, default⟩ := spec
      cases takesValue with
      | false => exact .truth rfl rfl
      | true =>
          cases default with
          | none => exact .null rfl rfl
          | some word => exact .text rfl rfl
  | argument name => exact .null rfl rfl
  | command name => exact .truth rfl rfl

theorem announces_default_of_accumulates (accumulates : slot.accumulation ≠ .scalar) :
    slot.Announces slot.default := by
  cases default : slot.default with
  | count occurrences => exact .count (by simp [accumulation, default])
  | list items => exact .list (by simp [accumulation, default])
  | null | bool truth | text word => exact absurd (by simp [accumulation, default]) accumulates

end Defaults

section Occurrences

variable (scalar : slot.accumulation = .scalar)

include scalar

theorem announces_valueOfWord (takes : slot.TakesWords) (word : String) :
    slot.Announces (slot.valueOfWord word) := by
  rcases takes with argument | command
  · rw [valueOfWord, argument]
    exact .text scalar (by rw [collectsValues, argument])
  · rw [valueOfWord, command]
    exact .truth scalar (by rw [collectsValues, command])

/-- An occurrence in an argument vector has the type that the slot of its option announces. -/
theorem announces_of_gives {spec : OptionSpec} {value : Value} (kind : slot.kind = .option spec)
    (gives : Reading.arguments.Gives spec value) : slot.Announces value := by
  have collects : slot.collectsValues = spec.takesValue := by rw [collectsValues, kind]
  cases takes : spec.takesValue with
  | false =>
      obtain rfl : value = .bool true := by simpa [Reading.Gives, takes] using gives
      exact .truth scalar (collects.trans takes)
  | true =>
      obtain ⟨word, rfl⟩ : ∃ word, value = .text word := by
        simpa [Reading.Gives, takes] using gives
      exact .text scalar (collects.trans takes)

end Occurrences

theorem HoldsValues.announces {values : List Value} {bound : Option Value}
    (holds : slot.HoldsValues values bound) (default : slot.Announces slot.default)
    (each : slot.accumulation = .scalar → ∀ value ∈ values, slot.Announces value) :
    slot.Announces (bound.getD slot.default) := by
  by_cases empty : values = []
  · rw [holds.unbound empty]
    exact default
  · cases kept : slot.accumulation with
    | count =>
        rw [holds.counted empty kept]
        exact .count kept
    | list =>
        rw [holds.collected empty kept]
        exact .list kept
    | scalar =>
        obtain ⟨value, rfl, rfl⟩ := holds.single empty kept
        exact each kept value List.mem_cons_self

end Slot

namespace Grammar

variable {pattern : Pattern} {slot : Slot}

theorem announces_default (member : slot ∈ (ofPattern pattern).slots) :
    slot.Announces slot.default := by
  obtain ⟨leaf, asked, rfl⟩ := exists_leafSlot member
  have leaf := Pattern.ofLeaf_of_mem_leafSlots pattern asked
  unfold Pattern.typeRepetition
  split
  · refine Slot.announces_default_of_accumulates ?_
    rw [Slot.repeatedDefault_accumulation]
    split <;> nofun
  · exact leaf.announces_default

theorem announces_of_mem_captures {tokens : List Token} {state : MatchState} {index : Nat}
    (accepted : (ofPattern pattern).matchTokens tokens = .accepted state)
    (found : (ofPattern pattern).slots[index]? = some slot)
    (typed : ∀ spec value, slot.kind = .option spec → .option slot.name value ∈ tokens →
      Reading.arguments.Gives spec value)
    (scalar : slot.accumulation = .scalar) {value : Value}
    (member : value ∈ Capture.valuesAt index ((ofPattern pattern).captures tokens)) :
    slot.Announces value := by
  have traced := (traced_of_accepted accepted).1
  by_cases takes : slot.TakesWords
  · obtain ⟨assigned, accounts⟩ := exists_accountsFor traced
    rw [accounts.captured found takes] at member
    obtain ⟨word, -, rfl⟩ := List.mem_map.mp member
    exact Slot.announces_valueOfWord scalar takes word
  · obtain ⟨spec, kind⟩ : ∃ spec, slot.kind = .option spec := by
      cases kind : slot.kind with
      | option spec => exact ⟨spec, rfl⟩
      | argument => exact absurd (.inl kind) takes
      | command => exact absurd (.inr kind) takes
    have values := valuesOf_eq_captured (names_nodup pattern) found kind traced
    have typed_value : value ∈ Token.valuesOf slot.name tokens :=
      values ▸ List.mem_append_left _ member
    obtain ⟨token, typed_token, selected⟩ := List.mem_filterMap.mp typed_value
    rw [Slot.option_of_valueOf? selected] at typed_token
    exact Slot.announces_of_gives scalar kind (typed spec value kind typed_token)

end Grammar

namespace Usage

variable {doc : String} {usage : Usage} {state : MatchState}

section Keys

variable (complete : state.bindings.length = usage.grammar.slots.length)

include complete

theorem bindingsOf_names :
    ((usage.grammar.slots.zip state.bindings).map fun (slot, bound) =>
      (slot.name, bound.getD slot.default)).map Prod.fst = usage.grammar.names := by
  have slots : (usage.grammar.slots.zip state.bindings).map Prod.fst = usage.grammar.slots :=
    List.map_fst_zip (Nat.le_of_eq complete.symm)
  calc
    _ = ((usage.grammar.slots.zip state.bindings).map Prod.fst).map Slot.name := by
      simp only [List.map_map, Function.comp_def]
    _ = usage.grammar.names := by rw [slots, Grammar.names]

theorem get?_bindingsOf (distinct : usage.grammar.names.Nodup) {index : Nat} {slot : Slot}
    (found : usage.grammar.slots[index]? = some slot) :
    (usage.bindingsOf state).get? slot.name =
      some ((state.binding? index).getD slot.default) := by
  rw [bindingsOf]
  refine Bindings.get?_ofList_of_mem (by rwa [bindingsOf_names complete]) ?_
  have inside : index < state.bindings.length :=
    complete ▸ (List.getElem?_eq_some_iff.mp found).1
  obtain ⟨bound, bound_at⟩ : ∃ bound, state.bindings[index]? = some bound :=
    ⟨_, List.getElem?_eq_getElem inside⟩
  have paired : (usage.grammar.slots.zip state.bindings)[index]? = some (slot, bound) :=
    List.getElem?_zip_eq_some.mpr ⟨found, bound_at⟩
  rw [MatchState.binding?, bound_at]
  exact List.mem_map_of_mem (List.mem_of_getElem? paired)

end Keys

/-- An occurrence of an option in an accepted vector gives a value of the option of the slot, since
two options of one registry that share a name are the same declaration. -/
theorem Compiled.gives_of_accepted (compiled : Compiled doc usage)
    (distinct : (usage.registry.specs.map OptionSpec.name).Nodup)
    (plain : ∀ spec ∈ usage.registry.specs, spec.name ≠ "--") {optionsFirst : Bool}
    {argv : List String}
    (accepted : usage.grammar.matchTokens (tokenize optionsFirst usage.registry argv).tokens =
      .accepted state) {slot : Slot} (declared : slot ∈ usage.grammar.slots) (spec : OptionSpec)
    (value : Value) (kind : slot.kind = .option spec)
    (member : .option slot.name value ∈ (tokenize optionsFirst usage.registry argv).tokens) :
    Reading.arguments.Gives spec value := by
  obtain ⟨met, reports⟩ := exists_tokenize_reports optionsFirst usage.registry argv
  obtain ⟨flag, encountered, same⟩ := reports.met_of_mem member
  obtain ⟨named, rfl⟩ := Token.option.inj same
  obtain ⟨name, known⟩ := compiled.mem_registry declared kind
  have resolved : flag.spec ∈ usage.registry.specs :=
    compiled.registry_eq_of_accepted plain accepted ▸ reports.path.mem encountered
  obtain rfl : flag.spec = spec :=
    List.inj_on_of_nodup_map distinct resolved known (named.trans name)
  exact reports.path.gives encountered

/-- After a match exactly the names of the slots are bound, each to a value of the type that its
slot announces. -/
theorem parse_binds_announced (described : ofDoc doc = .ok usage)
    (distinct : (usage.registry.specs.map OptionSpec.name).Nodup)
    (plain : ∀ spec ∈ usage.registry.specs, spec.name ≠ "--") (options : ParseOptions)
    (argv : List String) (matched : (usage.parse options argv).IsMatch) :
    (∀ name, (usage.parse options argv).bindings.contains name ↔ name ∈ usage.grammar.names) ∧
      ∀ slot ∈ usage.grammar.slots, ∃ value,
        (usage.parse options argv).get? slot.name = some value ∧ slot.Announces value := by
  have compiled := compiled_of_ofDoc described
  obtain ⟨state, accepted, response⟩ := (usage.parse_answers options argv).exists_accepted matched
  have complete := Grammar.bindings_length_of_accepted accepted
  rw [response]
  constructor
  · intro name
    rw [← bindingsOf_names complete]
    exact Bindings.contains_ofList ..
  · intro slot declared
    obtain ⟨index, found⟩ := List.getElem?_of_mem declared
    have typed := compiled.gives_of_accepted distinct plain accepted declared
    have table := compiled.grammar
    refine ⟨(state.binding? index).getD slot.default, ?_, ?_⟩
    · exact get?_bindingsOf complete (table ▸ Grammar.names_nodup usage.pattern) found
    · rw [table] at accepted found declared
      refine (Grammar.holdsValues_of_accepted accepted found).announces
        (Grammar.announces_default declared) fun scalar value member => ?_
      exact Grammar.announces_of_mem_captures accepted found typed scalar member

/-- The speed and the name are texts, and the flag is counted. -/
theorem parse_binds_announced_ship :
    ofDoc shipDoc = .ok shipUsage ∧
      (shipUsage.registry.specs.map OptionSpec.name).Nodup ∧
      (∀ spec ∈ shipUsage.registry.specs, spec.name ≠ "--") ∧
      (shipUsage.parse {} ["-vv", "--a", "7", "y"]).IsMatch ∧
      (∀ name, (shipUsage.parse {} ["-vv", "--a", "7", "y"]).bindings.contains name ↔
        name ∈ shipUsage.grammar.names) ∧
      ∀ slot ∈ shipUsage.grammar.slots, ∃ value,
        (shipUsage.parse {} ["-vv", "--a", "7", "y"]).get? slot.name = some value ∧
          slot.Announces value := by
  have tokenized : tokenize false shipUsage.registry ["-vv", "--a", "7", "y"] =
      ⟨[.flag "-v", .flag "-v", .option "--at" (.text "7"), .argument "y"], [],
        shipUsage.registry⟩ := by
    cbv
  have unasked : shipUsage.requested? {}
      (tokenize false shipUsage.registry ["-vv", "--a", "7", "y"]).tokens = none := by
    rw [tokenized]
    decide +kernel
  have accepted : shipUsage.grammar.matchTokens
      (tokenize false shipUsage.registry ["-vv", "--a", "7", "y"]).tokens =
        .accepted ⟨[], [some (.text "7"), some (.count 2), some (.text "y")]⟩ := by
    rw [tokenized]
    cbv
  have distinct : (shipUsage.registry.specs.map OptionSpec.name).Nodup := by decide +kernel
  have matched := (shipUsage.parse_answers {} ["-vv", "--a", "7", "y"]).isMatch_of_accepted
    unasked accepted
  have described := compiled_ship.ofDoc_eq
  exact ⟨described, distinct, ship_plain, matched,
    parse_binds_announced described distinct ship_plain {} ["-vv", "--a", "7", "y"] matched⟩

end Usage

end UsageGrammar
