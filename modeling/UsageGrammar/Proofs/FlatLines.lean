import UsageGrammar.Proofs.Alternation
import UsageGrammar.Proofs.BareConsumption

/-!
# Flat lines

A flat line is a sequence of commands, arguments and options, of groups of optional options, and at
its end perhaps of an argument that repeats. If its options are all different and leaves of one name
are of one kind, then it accepts exactly the vectors that a reader of the line would expect: known
options, each at most once, none missing that is required, and the right words in their order,
wherever the options stand among them.
-/

namespace UsageGrammar

namespace Pattern

/-- The names of the options of a pattern, those of shortcuts included. -/
def optionNames (pattern : Pattern) : List String :=
  pattern.leafSlots.filterMap Slot.optionName?

theorem optionNames_required (children : List Pattern) :
    (required children).optionNames = children.flatMap optionNames := by
  rw [optionNames, leafSlots, leafSlotsOfAll_eq, List.filterMap_flatMap]
  rfl

theorem name_mem_flatMap_optionNames {spec : OptionSpec} {patterns : List Pattern}
    (member : .option spec ∈ patterns) : spec.name ∈ patterns.flatMap optionNames :=
  List.mem_flatMap_of_mem member List.mem_cons_self

theorem leafSlotsOfAll_options (specs : List OptionSpec) :
    leafSlotsOfAll (specs.map .option) = specs.map .ofOption := by
  induction specs with
  | nil => rfl
  | cons spec specs ih => exact congrArg (Slot.ofOption spec :: ·) ih

theorem toNodes_options (index : String → Nat) (specs : List OptionSpec) :
    toNodes index (specs.map .option) = specs.map fun spec => .option (index spec.name) := by
  rw [toNodes_eq_map, List.map_map]
  rfl

/-- An option by itself, or a shortcut for several. -/
inductive IsFlags : Pattern → Prop
  | option (spec : OptionSpec) : IsFlags (option spec)
  | shortcut (specs : List OptionSpec) : IsFlags (shortcut specs)

/-- What stands in a flat line. -/
inductive IsFlatItem : Pattern → Prop
  | command (name : String) : IsFlatItem (command name)
  | argument (name : String) : IsFlatItem (argument name)
  | option (spec : OptionSpec) : IsFlatItem (option spec)
  | shortcut (specs : List OptionSpec) : IsFlatItem (shortcut specs)
  | optional {children : List Pattern} : (∀ child ∈ children, child.IsFlags) →
      IsFlatItem (optional children)

/-- Commands and arguments take a word. -/
def takesWord : Pattern → Bool
  | command _ | argument _ => true
  | _ => false

/-- There is a word for each of some commands and arguments, and at the place of a command it is
its name. -/
def Expects (takers : List Pattern) (words : List String) : Prop :=
  takers.length ≤ words.length ∧
    ∀ (place : Nat) (name : String), takers[place]? = some (.command name) →
      words[place]? = some name

theorem expects_nil (words : List String) : Expects [] words :=
  ⟨Nat.zero_le _, by simp⟩

theorem expects_argument_iff {name : String} {words : List String} :
    Expects [.argument name] words ↔ words ≠ [] := by
  simp [Expects, List.getElem?_singleton, Nat.one_le_iff_ne_zero]

theorem expects_command_iff {name : String} {words : List String} :
    Expects [.command name] words ↔ words.head? = some name := by
  cases words with
  | nil => simp [Expects]
  | cons word words => simp [Expects, List.getElem?_singleton]

theorem expects_append_iff {first second : List Pattern} {words : List String} :
    Expects (first ++ second) words ↔
      Expects first words ∧ Expects second (words.drop first.length) := by
  constructor
  · rintro ⟨enough, named⟩
    rw [List.length_append] at enough
    refine ⟨⟨by omega, fun place name found => ?_⟩, ?_, fun place name found => ?_⟩
    · have inside : place < first.length := (List.getElem?_eq_some_iff.mp found).1
      exact named place name (by rwa [List.getElem?_append_left inside])
    · rw [List.length_drop]
      omega
    · rw [List.getElem?_drop]
      apply named
      rw [List.getElem?_append_right (by omega), Nat.add_sub_cancel_left]
      exact found
  · rintro ⟨⟨enough, named⟩, enough', named'⟩
    rw [List.length_drop] at enough'
    refine ⟨by rw [List.length_append]; omega, fun place name found => ?_⟩
    by_cases inside : place < first.length
    · rw [List.getElem?_append_left inside] at found
      exact named place name found
    · rw [List.getElem?_append_right (by omega)] at found
      have later := named' _ name found
      rwa [List.getElem?_drop, Nat.add_sub_cancel' (by omega)] at later

/-- What stands at the end of a flat line. -/
inductive Ending where
  | plain
  | oneOrMore (name : String)
  | anyNumber (name : String)

namespace Ending

/-- The argument at the end that repeats, if any. -/
def patterns : Ending → List Pattern
  | plain => []
  | oneOrMore name => [.repeatable (.argument name)]
  | anyNumber name => [.optional [.repeatable (.argument name)]]

/-- An ending allows a number of words where some are expected before it. -/
def Allows (ending : Ending) (expected given : Nat) : Prop :=
  match ending with
  | plain => given = expected
  | oneOrMore _ => expected < given
  | anyNumber _ => expected ≤ given

variable {ending : Ending} {expected given : Nat}

theorem Allows.le (allows : ending.Allows expected given) : expected ≤ given := by
  cases ending with
  | plain => exact Nat.le_of_eq allows.symm
  | oneOrMore => exact Nat.le_of_lt allows
  | anyNumber => exact allows

theorem allows_sub_iff (enough : expected ≤ given) :
    ending.Allows 0 (given - expected) ↔ ending.Allows expected given := by
  cases ending <;> simp only [Allows] <;> omega

end Ending

/-- Tokens hold what the parts of a flat line cannot do without. -/
structure Provided (items : List Pattern) (tokens : List Token) : Prop where
  given {spec : OptionSpec} : .option spec ∈ items → Token.valuesOf spec.name tokens ≠ []
  expected : Expects (items.filter takesWord) (Token.words tokens)

variable {first second : List Pattern} {tokens middle rest : List Token}

theorem Provided.left (provided : Provided (first ++ second) tokens) : Provided first tokens := by
  refine ⟨fun member => provided.given (List.mem_append_left _ member), ?_⟩
  have expected := provided.expected
  rw [List.filter_append, expects_append_iff] at expected
  exact expected.1

theorem provided_append_iff
    (consumed : Consumed (first.filter takesWord).length (first.flatMap optionNames) tokens middle)
    (separate : (first.flatMap optionNames).Disjoint (second.flatMap optionNames)) :
    Provided (first ++ second) tokens ↔ Provided first tokens ∧ Provided second middle := by
  have kept {spec : OptionSpec} (member : .option spec ∈ second) :
      Token.valuesOf spec.name middle = Token.valuesOf spec.name tokens := by
    rw [consumed.values, if_neg fun early => separate early (name_mem_flatMap_optionNames member)]
  constructor
  · intro provided
    refine ⟨provided.left, fun member => ?_, ?_⟩
    · rw [kept member]
      exact provided.given (List.mem_append_right _ member)
    · have expected := provided.expected
      rw [List.filter_append, expects_append_iff, ← consumed.words] at expected
      exact expected.2
  · rintro ⟨early, late⟩
    refine ⟨fun member => ?_, ?_⟩
    · rcases List.mem_append.mp member with member | member
      · exact early.given member
      · rw [← kept member]
        exact late.given member
    · rw [List.filter_append, expects_append_iff, ← consumed.words]
      exact ⟨early.expected, late.expected⟩

/-- What can come of matching the parts of a flat line: they fit if they are provided for, and then
take their words and options. -/
inductive Outcome (items : List Pattern) (tokens : List Token) : Option (List Token) → Prop
  | refused : ¬ Provided items tokens → Outcome items tokens none
  | consumed {rest : List Token} : Provided items tokens →
      Consumed (items.filter takesWord).length (items.flatMap optionNames) tokens rest →
        Outcome items tokens (some rest)

namespace Outcome

variable {item : Pattern}

theorem of_passed (wordless : item.takesWord = false) (several : ∀ spec, item ≠ .option spec)
    (passed : Consumed 0 item.optionNames tokens rest) : Outcome [item] tokens (some rest) := by
  refine .consumed ⟨fun member => ?_, ?_⟩ ?_
  · exact absurd (List.mem_singleton.mp member).symm (several _)
  · simpa [wordless] using expects_nil _
  · simpa [wordless] using passed

theorem of_option (spec : OptionSpec) (tokens : List Token) :
    Outcome [.option spec] tokens
      ((takeFirst (Token.valueOf? spec.name) tokens).map Prod.snd) := by
  have passed := Consumed.passOption spec.name tokens
  have given {items : List Pattern} (provided : Provided items tokens)
      (member : .option spec ∈ items) : takeFirst (Token.valueOf? spec.name) tokens ≠ none := by
    rw [Ne, takeFirst_eq_none_iff]
    exact provided.given member
  cases found : takeFirst (Token.valueOf? spec.name) tokens with
  | none => exact .refused fun provided => given provided List.mem_cons_self found
  | some taken =>
      rw [found] at passed
      refine .consumed ⟨fun member => ?_, expects_nil _⟩ passed
      obtain ⟨⟩ := List.mem_singleton.mp member
      rw [valuesOf_of_takeFirst found]
      nofun

theorem of_word {slot : Slot} (takes : item.takesWord) (wordy : slot.optionName? = none)
    (names : item.optionNames = [])
    (fails : slot.take? tokens = none ↔ ¬ Expects [item] (Token.words tokens)) :
    Outcome [item] tokens ((slot.take? tokens).map Prod.snd) := by
  have alone : [item].filter takesWord = [item] := by simp [takes]
  cases taken : slot.take? tokens with
  | none => exact .refused fun provided => fails.mp taken (alone ▸ provided.expected)
  | some result =>
      have expected : Expects [item] (Token.words tokens) := by
        by_contra unexpected
        rw [fails.mpr unexpected] at taken
        cases taken
      refine .consumed ⟨fun member => ?_, alone.symm ▸ expected⟩ ?_
      · obtain rfl := List.mem_singleton.mp member
        cases takes
      · simpa [alone, names] using (Slot.takes_of_take? taken).consumed_word wordy

theorem refused_append (head : Outcome first tokens none) :
    Outcome (first ++ second) tokens none := by
  cases head with
  | refused lacking => exact .refused fun provided => lacking provided.left

theorem append {outcome : Option (List Token)} (head : Outcome first tokens (some middle))
    (later : Outcome second middle outcome)
    (separate : (first.flatMap optionNames).Disjoint (second.flatMap optionNames)) :
    Outcome (first ++ second) tokens outcome := by
  cases head with
  | consumed provided consumed =>
      cases later with
      | refused lacking =>
          exact .refused fun all => lacking ((provided_append_iff consumed separate).mp all).2
      | consumed provided' consumed' =>
          refine .consumed ((provided_append_iff consumed separate).mpr ⟨provided, provided'⟩) ?_
          rw [List.filter_append, List.length_append, List.flatMap_append]
          exact consumed.trans consumed' separate

end Outcome

end Pattern

namespace Grammar

variable {grammar : Grammar} {index : String → Nat} {item : Pattern} {items : List Pattern}
  {tokens rest : List Token}

open Pattern

/-- A node that may be passed over takes one value of each of its options that occurs. -/
def Passes (grammar : Grammar) (index : String → Nat) (pattern : Pattern) : Prop :=
  ∀ tokens, Consumed 0 pattern.optionNames tokens
    ((grammar.consumer.matchNode tokens (pattern.toNode index)).getD tokens)

theorem consumed_matchEach (passes : ∀ item ∈ items, grammar.Passes index item)
    (distinct : (items.flatMap optionNames).Nodup) (tokens : List Token) :
    Consumed 0 (items.flatMap optionNames) tokens
      (grammar.consumer.matchEach tokens (toNodes index items)) := by
  induction items generalizing tokens with
  | nil => exact .refl tokens
  | cons item items ih =>
      obtain ⟨head, later⟩ := List.forall_mem_cons.mp passes
      rw [List.flatMap_cons] at distinct ⊢
      obtain ⟨-, distinct, separate⟩ := List.nodup_append'.mp distinct
      exact (head tokens).trans (ih later distinct _) separate

namespace Serves

theorem matchNode_option {spec : OptionSpec}
    (serves : grammar.Serves index (Pattern.option spec).leafSlots) :
    grammar.consumer.matchNode tokens ((Pattern.option spec).toNode index) =
      (takeFirst (Token.valueOf? spec.name) tokens).map Prod.snd :=
  serves (.ofOption spec) List.mem_cons_self tokens

theorem passes_option {spec : OptionSpec}
    (serves : grammar.Serves index (Pattern.option spec).leafSlots) :
    grammar.Passes index (.option spec) := by
  intro tokens
  rw [serves.matchNode_option]
  exact .passOption spec.name tokens

theorem passes_shortcut {specs : List OptionSpec}
    (serves : grammar.Serves index (Pattern.shortcut specs).leafSlots)
    (distinct : (Pattern.shortcut specs).optionNames.Nodup) :
    grammar.Passes index (.shortcut specs) := by
  intro tokens
  have each : ∀ item ∈ specs.map Pattern.option, grammar.Passes index item := by
    intro item member
    obtain ⟨spec, listed, rfl⟩ := List.mem_map.mp member
    refine passes_option (serves.of_subset ?_)
    exact List.cons_subset.mpr ⟨List.mem_map_of_mem listed, List.nil_subset _⟩
  have names : (specs.map Pattern.option).flatMap optionNames =
      (Pattern.shortcut specs).optionNames := by
    rw [← optionNames_required, optionNames, leafSlots, leafSlotsOfAll_options]
    rfl
  have consumed := consumed_matchEach each (names ▸ distinct) tokens
  rwa [names, toNodes_options] at consumed

theorem passes_optional {children : List Pattern} (flags : ∀ child ∈ children, child.IsFlags)
    (serves : grammar.Serves index (Pattern.optional children).leafSlots)
    (distinct : (Pattern.optional children).optionNames.Nodup) :
    grammar.Passes index (.optional children) := by
  intro tokens
  have names : (Pattern.optional children).optionNames = children.flatMap optionNames :=
    optionNames_required children
  rw [names] at distinct ⊢
  refine consumed_matchEach (fun child member => ?_) distinct tokens
  have served := serves.of_subset (leafSlots_subset_of_mem member)
  cases flags child member with
  | option spec => exact served.passes_option
  | shortcut specs => exact served.passes_shortcut ((List.nodup_flatMap.mp distinct).1 _ member)

theorem outcome_item (flat : item.IsFlatItem) (serves : grammar.Serves index item.leafSlots)
    (distinct : item.optionNames.Nodup) (tokens : List Token) :
    Outcome [item] tokens (grammar.consumer.matchNode tokens (item.toNode index)) := by
  cases flat with
  | command name =>
      have leaf : grammar.consumer.matchNode tokens ((Pattern.command name).toNode index) =
          ((Slot.ofCommand name).take? tokens).map Prod.snd := serves _ List.mem_cons_self tokens
      rw [leaf]
      refine .of_word rfl rfl rfl ?_
      rw [Slot.take?_ofCommand_eq_none_iff, expects_command_iff]
  | argument name =>
      rw [toNode, serves.matchNode_argument]
      refine .of_word rfl rfl rfl ?_
      rw [expects_argument_iff, not_not]
      exact Option.map_eq_none_iff.trans takeFirst_eq_none_iff
  | option spec =>
      rw [serves.matchNode_option]
      exact .of_option spec tokens
  | shortcut specs => exact .of_passed rfl nofun (serves.passes_shortcut distinct tokens)
  | optional flags => exact .of_passed rfl nofun (serves.passes_optional flags distinct tokens)

/-- What can come of matching the parts of a flat line one after another. What a part leaves still
provides for the later ones, as their options differ. -/
theorem outcome_items (flat : ∀ item ∈ items, item.IsFlatItem)
    (serves : grammar.Serves index (leafSlotsOfAll items))
    (distinct : (items.flatMap optionNames).Nodup) (tokens : List Token) :
    Outcome items tokens (grammar.consumer.matchAll tokens (toNodes index items)) := by
  induction items generalizing tokens with
  | nil => exact .consumed ⟨nofun, expects_nil _⟩ (.refl tokens)
  | cons item items ih =>
      obtain ⟨first, others⟩ := List.forall_mem_cons.mp flat
      rw [List.flatMap_cons] at distinct
      obtain ⟨alone, distinct, separate⟩ := List.nodup_append'.mp distinct
      have head := outcome_item first (serves.of_subset (List.subset_append_left ..)) alone tokens
      rw [toNodes, Matcher.matchAll]
      cases fits : grammar.consumer.matchNode tokens (item.toNode index) with
      | none => exact (fits ▸ head).refused_append
      | some middle =>
          rw [fits] at head
          refine head.append (ih others (serves.of_subset ?_) distinct middle) ?_
          · exact List.subset_append_right ..
          · simpa using separate

/-- The end of a flat line consumes everything if there are only words, and as many as it
allows. -/
theorem matchAll_ending_eq_nil_iff {ending : Ending}
    (serves : grammar.Serves index (leafSlotsOfAll ending.patterns)) :
    grammar.consumer.matchAll tokens (toNodes index ending.patterns) = some [] ↔
      ending.Allows 0 (Token.words tokens).length ∧ Token.OnlyWords tokens := by
  cases ending with
  | plain =>
      change some tokens = some [] ↔ _ = 0 ∧ _
      rw [Option.some_inj, Token.eq_nil_iff_onlyWords, List.length_eq_zero_iff]
  | oneOrMore name =>
      have argument : grammar.Serves index (Pattern.argument name).leafSlots := serves
      have consumed := argument.consumed_repeated_getD tokens
      have none_iff : grammar.consumer.matchNode tokens (.repeatable (.argument (index name))) =
          none ↔ Token.words tokens = [] := argument.repeated_eq_none_iff
      change grammar.consumer.matchNode tokens (.required [.repeatable (.argument (index name))]) =
        some [] ↔ 0 < _ ∧ _
      rw [Matcher.matchNode_required_singleton, ← consumed.eq_nil_iff, List.length_pos_iff, Ne,
        ← none_iff]
      cases grammar.consumer.matchNode tokens (.repeatable (.argument (index name))) <;> simp
  | anyNumber name =>
      have argument : grammar.Serves index (Pattern.argument name).leafSlots := serves
      change some _ = some [] ↔ 0 ≤ _ ∧ _
      rw [Option.some_inj, and_iff_right (Nat.zero_le _),
        ← (argument.consumed_repeated_getD tokens).eq_nil_iff]
      rfl

end Serves

end Grammar

namespace Pattern

variable {items : List Pattern} {ending : Ending} {tokens rest : List Token}

/-- The pattern of a flat line. -/
def flatLine (items : List Pattern) (ending : Ending) : Pattern :=
  .required (items ++ ending.patterns)

theorem optionNames_flatLine (items : List Pattern) (ending : Ending) :
    (flatLine items ending).optionNames = items.flatMap optionNames := by
  rw [flatLine, optionNames_required, List.flatMap_append]
  cases ending <;> exact List.append_nil _

/-- Tokens are what a reader of a flat line would expect. -/
structure Invokes (items : List Pattern) (ending : Ending) (tokens : List Token) : Prop where
  understood (word : String) : .invalid word ∉ tokens
  known {name : String} {value : Value} : .option name value ∈ tokens →
    name ∈ (flatLine items ending).optionNames
  once (name : String) : (Token.valuesOf name tokens).length ≤ 1
  given {spec : OptionSpec} : .option spec ∈ items → ∃ value, .option spec.name value ∈ tokens
  enough : ending.Allows (items.filter takesWord).length (Token.words tokens).length
  named {place : Nat} {name : String} : (items.filter takesWord)[place]? = some (.command name) →
    (Token.words tokens)[place]? = some name

theorem Invokes.provided (invokes : Invokes items ending tokens) : Provided items tokens := by
  refine ⟨fun member => ?_, invokes.enough.le, fun place name => invokes.named⟩
  obtain ⟨value, occurs⟩ := invokes.given member
  exact List.ne_nil_of_mem (Token.mem_valuesOf.mpr occurs)

theorem invokes_iff_ending (provided : Provided items tokens)
    (consumed : Consumed (items.filter takesWord).length (items.flatMap optionNames) tokens rest) :
    Invokes items ending tokens ↔
      ending.Allows 0 (Token.words rest).length ∧ Token.OnlyWords rest := by
  rw [consumed.words, List.length_drop, Ending.allows_sub_iff provided.expected.1,
    consumed.onlyWords_iff, ← optionNames_flatLine items ending]
  constructor
  · intro invokes
    exact ⟨invokes.enough, invokes.understood, fun _ _ => invokes.known, invokes.once⟩
  · rintro ⟨enough, understood, known, once⟩
    refine ⟨understood, known _ _, once, fun member => ?_, enough, provided.expected.2 _ _⟩
    obtain ⟨value, occurs⟩ := List.exists_mem_of_ne_nil _ (provided.given member)
    exact ⟨value, Token.mem_valuesOf.mp occurs⟩

end Pattern

namespace Grammar

open Pattern

variable {items : List Pattern} {ending : Ending} {tokens : List Token}

/-- Where leaves consume what they ask for, a flat line consumes all of a vector if it is as
expected. -/
theorem Serves.matchNode_flatLine_eq_nil_iff {grammar : Grammar} {index : String → Nat}
    (serves : grammar.Serves index (flatLine items ending).leafSlots)
    (flat : ∀ item ∈ items, item.IsFlatItem)
    (distinct : (flatLine items ending).optionNames.Nodup) :
    grammar.consumer.matchNode tokens ((flatLine items ending).toNode index) = some [] ↔
      Invokes items ending tokens := by
  have slots : (flatLine items ending).leafSlots =
      leafSlotsOfAll items ++ leafSlotsOfAll ending.patterns := by
    rw [flatLine, leafSlots, leafSlotsOfAll_eq, List.flatMap_append, leafSlotsOfAll_eq,
      leafSlotsOfAll_eq]
  rw [slots] at serves
  rw [optionNames_flatLine] at distinct
  rw [flatLine, toNode, toNodes_eq_map, List.map_append, ← toNodes_eq_map, ← toNodes_eq_map,
    Matcher.matchNode, Matcher.matchAll_append]
  have outcome := (serves.of_subset (List.subset_append_left ..)).outcome_items flat distinct tokens
  generalize grammar.consumer.matchAll tokens (toNodes index items) = left at outcome ⊢
  cases outcome with
  | refused lacking =>
      rw [Option.bind_none]
      exact iff_of_false (Option.some_ne_none _).symm fun invokes => lacking invokes.provided
  | consumed provided consumed =>
      rw [Option.bind_some, invokes_iff_ending provided consumed]
      exact (serves.of_subset (List.subset_append_right ..)).matchAll_ending_eq_nil_iff

/-- A flat line whose options are all different accepts exactly the vectors that a reader of the
line would expect. -/
theorem matchTokens_flatLine (flat : ∀ item ∈ items, item.IsFlatItem)
    (distinct : (flatLine items ending).optionNames.Nodup)
    (agree : (flatLine items ending).KindsAgree) (tokens : List Token) :
    ((ofPattern (flatLine items ending)).matchTokens tokens).isAccepted ↔
      Invokes items ending tokens := by
  rw [isAccepted_iff_consumer, root_ofPattern]
  exact (ofPattern_serves agree).matchNode_flatLine_eq_nil_iff flat distinct

/-- The items of `ship [-v] <port> --speed=<kn> [<cargo>...]`, where `-v` is a declared option. -/
def shipItems : List Pattern :=
  [.command "ship", .optional [.shortcut [.flag (some "-v") none]], .argument "<port>",
    .option (.valued none (some "--speed"))]

/-- The words may be mixed with the options, and the repeated argument has one word here. -/
theorem matchTokens_flatLine_ship :
    (∀ item ∈ shipItems, item.IsFlatItem) ∧
      (flatLine shipItems (.anyNumber "<cargo>")).optionNames.Nodup ∧
      (flatLine shipItems (.anyNumber "<cargo>")).KindsAgree ∧
      let tokens := [.argument "ship", .option "--speed" (.text "9"), .argument "Oslo", .flag "-v",
        .argument "tea"]
      ((ofPattern (flatLine shipItems (.anyNumber "<cargo>"))).matchTokens tokens).isAccepted ∧
        Invokes shipItems (.anyNumber "<cargo>") tokens := by
  have flat : ∀ item ∈ shipItems, item.IsFlatItem := by
    simp only [shipItems, List.forall_mem_cons, List.not_mem_nil, false_imp_iff, implies_true,
      and_true]
    refine ⟨.command _, .optional fun child member => ?_, .argument _, .option _⟩
    obtain rfl := List.mem_singleton.mp member
    exact .shortcut _
  have distinct : (flatLine shipItems (.anyNumber "<cargo>")).optionNames.Nodup := by decide
  have agree : (flatLine shipItems (.anyNumber "<cargo>")).KindsAgree := by decide
  have accepted : ((ofPattern (flatLine shipItems (.anyNumber "<cargo>"))).matchTokens
      [.argument "ship", .option "--speed" (.text "9"), .argument "Oslo", .flag "-v",
        .argument "tea"]).isAccepted := by
    cbv
  exact ⟨flat, distinct, agree, accepted, (matchTokens_flatLine flat distinct agree _).mp accepted⟩

end Grammar

end UsageGrammar
