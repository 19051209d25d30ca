import UsageGrammar.Proofs.Reading
import UsageGrammar.Proofs.SlotTable
import UsageGrammar.Proofs.Tokenization
import UsageGrammar.Usage

/-!
# Compilation

While words are compiled, every option that is met is put into the pattern at its place, so the
options of a compiled expression are those that were met, in order. Together with the declared
options, which fill the shortcuts, they are all known to the registry of the document: an option
slot of its grammar always holds an option of that registry.
-/

namespace UsageGrammar

theorem Pattern.options_concatenates : Pattern.Concatenates Pattern.options where
  required := Pattern.optionsOfAll_eq
  optional := Pattern.optionsOfAll_eq
  either := Pattern.optionsOfAll_eq
  repeatable _ := rfl

namespace Expression

theorem flatMap_options_flagPatterns (flags : List ResolvedFlag) :
    (flagPatterns flags).flatMap Pattern.options = flags.map ResolvedFlag.spec := by
  induction flags with
  | nil => rfl
  | cons flag flags ih => exact congrArg (flag.spec :: ·) ih

theorem begins_of_symbol_eq_long {word : String} (long : Symbol.ofWord word = .long) :
    Registry.begins "--" word := by
  have means := Symbol.means_ofWord word
  rw [long] at means
  cases means with
  | fixed same => cases same
  | long shape => exact WordShape.begins_of_ofWord_eq_long shape

/-- What an option word reports of the registry that it is resolved against. -/
theorem exists_optionWord?_reports {registry : Registry} {word : String}
    {following : List String} {resolution : Resolution}
    (resolved : optionWord? registry word following = some resolution) :
    ∃ met, Registry.Reports .usage registry met resolution := by
  unfold optionWord? at resolved
  split at resolved
  · next long =>
      obtain rfl := Option.some.inj resolved
      exact registry.exists_resolveLong_reports .usage (begins_of_symbol_eq_long long) following
  · obtain rfl := Option.some.inj resolved
    exact registry.exists_resolveShort_reports .usage word following
  · cases resolved

namespace Position

variable {before after : Position} {atoms : List Pattern} {met : List ResolvedFlag}

/-- Reading meets options, and those of the leaves that it reads are the ones that it meets. -/
structure Collects (before : Position) (atoms : List Pattern) (met : List ResolvedFlag)
    (after : Position) : Prop where
  path : before.registry.MeetsAll .usage met after.registry
  options : atoms.flatMap Pattern.options = met.map ResolvedFlag.spec

theorem Step.exists_collects (step : Step before atoms after) :
    ∃ met, Collects before atoms met after := by
  cases step with
  | opening | closing | bar => exact ⟨[], .nil, rfl⟩
  | leaf reads => exact ⟨[], .nil, by cases reads <;> rfl⟩
  | @options stack choice registry word following resolution flags resolved result =>
      obtain ⟨met, reports⟩ := exists_optionWord?_reports resolved
      obtain rfl : flags = met := by
        rcases reports.result with same | ⟨error, failed⟩
        · exact Except.ok.inj (result.symm.trans same)
        · cases result.symm.trans failed
      exact ⟨flags, reports.path, flatMap_options_flagPatterns flags⟩

/-- Reading loses no option that it meets and adds none. -/
theorem Path.exists_collects (path : Path before atoms after) :
    ∃ met, Collects before atoms met after := by
  induction path with
  | nil => exact ⟨[], .nil, rfl⟩
  | cons step _ ih =>
      obtain ⟨first, collects⟩ := step.exists_collects
      obtain ⟨later, collects'⟩ := ih
      refine ⟨first ++ later, collects.path.append collects'.path, ?_⟩
      rw [List.flatMap_append, List.map_append, collects.options, collects'.options]

end Position

/-- The options of a compiled expression are those that were met in it, from left to right. -/
theorem exists_compile_meets (registry : Registry) (expression : String) :
    ∃ met, registry.MeetsAll .usage met (compile registry expression).registry ∧
      ∀ pattern, (compile registry expression).result = .ok pattern →
        pattern.options = met.map ResolvedFlag.spec := by
  obtain ⟨atoms, last, path, ends⟩ := (Position.start registry (wordsOf expression)).exists_path
  obtain ⟨met, collects⟩ := path.exists_collects
  rw [compile_eq_start]
  generalize (Position.start registry (wordsOf expression)).compile = outcome at ends
  cases ends with
  | complete =>
      refine ⟨met, collects.path, fun pattern compiled => ?_⟩
      obtain rfl := Except.ok.inj compiled
      rw [Pattern.options_concatenates.required,
        path.flatMap_patterns Pattern.options_concatenates, collects.options]
  | unclosed | stray | crossed => exact ⟨met, collects.path, nofun⟩
  | refused resolved failed =>
      obtain ⟨later, reports⟩ := exists_optionWord?_reports resolved
      exact ⟨met ++ later, collects.path.append reports.path, nofun⟩

end Expression

namespace Pattern

mutual

theorem mem_leafSlots_fillShortcuts {specs : List OptionSpec} {slot : Slot} : ∀ pattern : Pattern,
    slot ∈ (pattern.fillShortcuts specs).leafSlots →
      (slot ∈ pattern.leafSlots ∧ ∀ spec, slot.kind = .option spec → spec ∈ pattern.options) ∨
        ∃ spec ∈ specs, slot = .ofOption spec
  | option held, member => by
      refine .inl ⟨member, fun spec kind => ?_⟩
      obtain rfl := List.mem_singleton.mp member
      exact SlotKind.option.inj kind ▸ List.mem_cons_self
  | argument _, member | command _, member => by
      refine .inl ⟨member, fun spec kind => ?_⟩
      obtain rfl := List.mem_singleton.mp member
      cases kind
  | required children, member | optional children, member | either children, member =>
      mem_leafSlotsOfAll_fillAllShortcuts children member
  | repeatable child, member => mem_leafSlots_fillShortcuts child member
  | shortcut _, member => by
      obtain ⟨spec, filled, rfl⟩ := List.mem_map.mp member
      exact .inr ⟨spec, filled, rfl⟩

theorem mem_leafSlotsOfAll_fillAllShortcuts {specs : List OptionSpec} {slot : Slot} :
    ∀ children : List Pattern, slot ∈ leafSlotsOfAll (fillAllShortcuts specs children) →
      (slot ∈ leafSlotsOfAll children ∧
          ∀ spec, slot.kind = .option spec → spec ∈ optionsOfAll children) ∨
        ∃ spec ∈ specs, slot = .ofOption spec
  | [], member => by cases member
  | child :: children, member => by
      rcases List.mem_append.mp member with head | later
      · refine (mem_leafSlots_fillShortcuts child head).imp_left fun ⟨leaf, holds⟩ => ?_
        exact ⟨List.mem_append_left _ leaf, fun spec kind =>
          List.mem_append_left _ (holds spec kind)⟩
      · refine (mem_leafSlotsOfAll_fillAllShortcuts children later).imp_left fun ⟨leaf, holds⟩ => ?_
        exact ⟨List.mem_append_right _ leaf, fun spec kind =>
          List.mem_append_right _ (holds spec kind)⟩

end

theorem mem_of_mem_unmentioned {spec : OptionSpec} {mentioned : List String}
    {specs : List OptionSpec} (member : spec ∈ unmentioned mentioned specs) : spec ∈ specs := by
  induction specs generalizing mentioned with
  | nil => exact member
  | cons first specs ih =>
      simp only [unmentioned] at member
      split at member
      · exact List.mem_cons_of_mem _ (ih member)
      · rcases List.mem_cons.mp member with rfl | later
        · exact List.mem_cons_self
        · exact List.mem_cons_of_mem _ (ih later)

end Pattern

section Declarations

theorem OptionSpec.Dashed.declare {spec : OptionSpec} (dashed : spec.Dashed) (word : List Char) :
    (spec.declare word).Dashed := by
  unfold OptionSpec.declare
  split
  · refine ⟨fun same => ?_, dashed.short⟩
    obtain rfl := Option.some.inj same
    simp [Registry.begins]
  · next rest single =>
      refine ⟨dashed.long, fun same begun => ?_⟩
      obtain rfl := Option.some.inj same
      obtain ⟨tail, whole⟩ := List.isPrefixOf_iff_prefix.mp begun
      exact absurd (by simpa using whole.symm) (single tail)
  · exact ⟨dashed.long, dashed.short⟩

theorem declaredOption_dashed (declaration : List Char) : (declaredOption declaration).Dashed := by
  have declared (words : List (List Char)) {spec : OptionSpec} (dashed : spec.Dashed) :
      (words.foldl OptionSpec.declare spec).Dashed := by
    induction words generalizing spec with
    | nil => exact dashed
    | cons word words ih => exact ih (dashed.declare word)
  exact declared _ ⟨nofun, nofun⟩

theorem OptionSpec.ofEntry_dashed (entry : List Char) : (ofEntry entry).Dashed := by
  have dashed := declaredOption_dashed (splitColumn (splitLine (Text.trim entry)).1).1
  exact ⟨dashed.long, dashed.short⟩

theorem Registry.ofDoc_dashed (doc : String) : ∀ spec ∈ (ofDoc doc).specs, spec.Dashed := by
  intro spec member
  obtain ⟨_, entry, -, rfl⟩ := exists_entry_of_mem_ofDoc member
  exact OptionSpec.ofEntry_dashed entry

end Declarations

namespace Usage

/-- How the parts of a compiled document come about. -/
structure Compiled (doc : String) (usage : Usage) : Prop where
  source : usage.doc = doc
  text : usageSection doc = .ok usage.text
  formal : formalUsage usage.text = .ok usage.formal
  pattern : ∃ unresolved,
    (Expression.compile (.ofDoc doc) usage.formal).result = .ok unresolved ∧
      usage.pattern = unresolved.resolveShortcuts (.ofDoc doc)
  grammar : usage.grammar = .ofPattern usage.pattern
  registry : usage.registry = (Expression.compile (.ofDoc doc) usage.formal).registry

variable {doc : String} {usage : Usage}

theorem compiled_of_ofDoc (described : ofDoc doc = .ok usage) : Compiled doc usage := by
  unfold ofDoc at described
  split at described
  · cases described
  · next text found =>
      split at described
      · cases described
      · next formal reduced =>
          dsimp only at described
          split at described
          · cases described
          · next unresolved result =>
              obtain rfl := Except.ok.inj described
              exact ⟨rfl, found, reduced, ⟨unresolved, result, rfl⟩, rfl, rfl⟩

namespace Compiled

theorem ofDoc_eq (compiled : Compiled doc usage) : ofDoc doc = .ok usage := by
  obtain ⟨source, text, formal, ⟨unresolved, result, resolved⟩, grammar, registry⟩ := compiled
  obtain ⟨_, _, _, _, _, _⟩ := usage
  dsimp only at *
  subst source resolved grammar registry
  simp only [ofDoc, text, formal, result]

theorem dashed (compiled : Compiled doc usage) : ∀ spec ∈ usage.registry.specs, spec.Dashed := by
  obtain ⟨met, meets, -⟩ := Expression.exists_compile_meets (.ofDoc doc) usage.formal
  rw [compiled.registry]
  exact meets.forall_specs Registry.IsNew.dashed (Registry.ofDoc_dashed doc)

theorem mem_registry_of_leaf (compiled : Compiled doc usage) {leaf : Slot} {spec : OptionSpec}
    (member : leaf ∈ usage.pattern.leafSlots) (kind : leaf.kind = .option spec) :
    leaf = .ofOption spec ∧ spec ∈ usage.registry.specs := by
  obtain ⟨unresolved, result, resolved⟩ := compiled.pattern
  obtain ⟨met, meets, options⟩ := Expression.exists_compile_meets (.ofDoc doc) usage.formal
  have same : leaf = .ofOption spec := by
    cases Pattern.ofLeaf_of_mem_leafSlots _ member with
    | option held => rw [← SlotKind.option.inj kind]
    | argument | command => cases kind
  refine ⟨same, ?_⟩
  rw [resolved] at member
  rw [compiled.registry]
  rcases Pattern.mem_leafSlots_fillShortcuts unresolved member with ⟨-, holds⟩ | declared
  · have held := holds spec kind
    rw [options unresolved result] at held
    obtain ⟨flag, encountered, rfl⟩ := List.mem_map.mp held
    exact meets.mem encountered
  · obtain ⟨filled, declared, rfl⟩ := declared
    obtain rfl := SlotKind.option.inj kind
    exact meets.subset (Pattern.mem_of_mem_unmentioned declared)

/-- The slot of an option holds an option of the registry. -/
theorem mem_registry (compiled : Compiled doc usage) {slot : Slot} {spec : OptionSpec}
    (member : slot ∈ usage.grammar.slots) (kind : slot.kind = .option spec) :
    slot.name = spec.name ∧ spec ∈ usage.registry.specs := by
  rw [compiled.grammar] at member
  obtain ⟨leaf, asked, rfl⟩ := Grammar.exists_leafSlot member
  rw [Pattern.typeRepetition_kind] at kind
  obtain ⟨rfl, known⟩ := compiled.mem_registry_of_leaf asked kind
  exact ⟨Pattern.typeRepetition_name .., known⟩

end Compiled

/-- A usage with a declared default, a flag that repeats and an argument. -/
def shipDoc : String :=
  "usage: ship [--at=N] [-v]... <x>\noptions: --at=N  [default: 1]"

def shipPattern : Pattern :=
  .required [.required [.optional [.option ⟨none, some "--at", true, some "1"⟩],
    .repeatable (.optional [.option (.flag (some "-v") none)]), .argument "<x>"]]

def shipUsage : Usage where
  doc := shipDoc
  text := "usage: ship [--at=N] [-v]... <x>"
  formal := "( [--at=N] [-v]... <x> )"
  pattern := shipPattern
  grammar := .ofPattern shipPattern
  registry := ⟨[⟨none, some "--at", true, some "1"⟩, .flag (some "-v") none]⟩

/-- The declared option keeps its default, and the flag becomes known. -/
theorem compiled_ship : Compiled shipDoc shipUsage := by
  have declared : Registry.ofDoc shipDoc = ⟨[⟨none, some "--at", true, some "1"⟩]⟩ := by
    decide +kernel
  have words : Expression.wordsOf shipUsage.formal =
      ["(", "[", "--at=N", "]", "[", "-v", "]", "...", "<x>", ")"] := by
    decide +kernel
  have compiled : Expression.compile ⟨[⟨none, some "--at", true, some "1"⟩]⟩ shipUsage.formal =
      ⟨.ok shipPattern, shipUsage.registry⟩ := by
    rw [Expression.compile, words]
    simp [Expression.compileWords, Expression.Symbol.ofWord, WordShape.ofWord,
      Expression.isArgumentName, Expression.takeEllipsis, Expression.Choice.empty,
      Expression.Choice.push, Expression.Choice.patterns, Expression.Bracket.group,
      Expression.flagPatterns, ResolvedFlag.of, Resolution.after, Registry.resolveLong,
      Registry.resolveShort, Registry.resolveCluster, Registry.findLong, Registry.findShort,
      Registry.byLong, Registry.byShort, Registry.register, splitAssignment, OptionSpec.flag,
      Except.map, shipPattern, shipUsage]
  refine ⟨rfl, by decide +kernel, by decide +kernel, ⟨shipPattern, ?_, ?_⟩, rfl, ?_⟩
  · rw [declared, compiled]
  · simp only [Pattern.resolveShortcuts, shipUsage, shipPattern, Pattern.fillShortcuts,
      Pattern.fillAllShortcuts]
  · rw [declared, compiled]

theorem ship_plain : ∀ spec ∈ shipUsage.registry.specs, spec.name ≠ "--" := by
  decide +kernel

end Usage

end UsageGrammar
