import UsageGrammar.Proofs.Compilation
import UsageGrammar.Proofs.Declarations
import UsageGrammar.Proofs.Reading
import UsageGrammar.Proofs.Renumbering

/-!
# Kinds of leaves

A leaf is matched by the kind of its slot, and the slot of a name takes the kind of the first leaf
of that name. Every leaf keeps its own kind exactly if leaves of one name are of one kind. A word
of a usage text has a single meaning, and the name of an option begins with a dash, so a name can
belong to leaves of two kinds only if it is that of an option and one of the two words of dashes
that are commands.
-/

namespace UsageGrammar

/-- What a leaf is to consume. -/
inductive LeafKind where
  | option
  | argument
  | command
  deriving Repr, DecidableEq, Inhabited

namespace SlotKind

/-- The kind of the leaves that a slot is made for. -/
def leafKind : SlotKind → LeafKind
  | option _ => .option
  | argument => .argument
  | command => .command

theorem alike_iff (kind other : SlotKind) : kind.alike other ↔ kind.leafKind = other.leafKind := by
  cases kind <;> cases other <;> simp [alike, leafKind]

end SlotKind

namespace Node

mutual

/-- The leaves of a node from left to right: what each is, and the slot it refers to. -/
def leaves : Node → List (LeafKind × Nat)
  | option slot => [(.option, slot)]
  | argument slot => [(.argument, slot)]
  | command slot => [(.command, slot)]
  | required children | optional children | either children | shortcut children =>
    leavesOfAll children
  | repeatable child => child.leaves

/-- The leaves of several nodes, from left to right. -/
def leavesOfAll : List Node → List (LeafKind × Nat)
  | [] => []
  | child :: children => child.leaves ++ leavesOfAll children

end

end Node

namespace Pattern

variable (index : String → Nat)

/-- The leaf of a node that stands for the leaf of a pattern. -/
def leafOf (slot : Slot) : LeafKind × Nat :=
  (slot.kind.leafKind, index slot.name)

theorem leavesOfAll_options (specs : List OptionSpec) :
    Node.leavesOfAll (specs.map fun spec => .option (index spec.name)) =
      (specs.map Slot.ofOption).map (leafOf index) := by
  induction specs with
  | nil => rfl
  | cons spec specs ih => exact congrArg ((.option, index spec.name) :: ·) ih

mutual

theorem leaves_toNode : ∀ pattern : Pattern,
    (pattern.toNode index).leaves = pattern.leafSlots.map (leafOf index)
  | option _ | argument _ | command _ => rfl
  | required children | optional children | either children => leavesOfAll_toNodes children
  | repeatable child => leaves_toNode child
  | shortcut specs => leavesOfAll_options index specs

theorem leavesOfAll_toNodes : ∀ children : List Pattern,
    Node.leavesOfAll (toNodes index children) = (leafSlotsOfAll children).map (leafOf index)
  | [] => rfl
  | child :: children => by
      rw [toNodes, Node.leavesOfAll, leafSlotsOfAll, List.map_append, leaves_toNode child,
        leavesOfAll_toNodes children]

end

end Pattern

namespace Grammar

/-- Every leaf refers to a slot that is made for leaves of its kind. -/
def LeavesKeepKind (grammar : Grammar) : Prop :=
  ∀ leaf ∈ grammar.root.leaves, ∃ slot, grammar.slots[leaf.2]? = some slot ∧
    slot.kind.leafKind = leaf.1

variable {pattern : Pattern}

theorem mem_leaves_ofPattern {leaf : LeafKind × Nat} :
    leaf ∈ (ofPattern pattern).root.leaves ↔
      ∃ asked ∈ pattern.leafSlots,
        (asked.kind.leafKind, (ofPattern pattern).names.idxOf asked.name) = leaf := by
  rw [root_ofPattern, Pattern.leaves_toNode, List.mem_map]
  rfl

theorem exists_slot_of_leaf {asked : Slot} (member : asked ∈ pattern.leafSlots) :
    ∃ slot, (ofPattern pattern).slots[(ofPattern pattern).names.idxOf asked.name]? = some slot ∧
      slot.name = asked.name ∧
      ∃ first ∈ pattern.leafSlots, first.name = asked.name ∧ slot.kind = first.kind := by
  obtain ⟨slot, found, named⟩ := exists_slot_of_name (name_mem_names member)
  obtain ⟨first, first_asked, rfl⟩ := exists_leafSlot (List.mem_of_getElem? found)
  rw [Pattern.typeRepetition_name] at named
  exact ⟨_, found, by rw [Pattern.typeRepetition_name, named], first, first_asked, named,
    Pattern.typeRepetition_kind ..⟩

/-- Every leaf keeps its kind exactly if leaves of one name are of one kind. -/
theorem leavesKeepKind_iff : (ofPattern pattern).LeavesKeepKind ↔ pattern.KindsAgree := by
  constructor
  · intro keep leaf asked other asked' named
    rw [SlotKind.alike_iff]
    obtain ⟨slot, found, kind⟩ := keep _ (mem_leaves_ofPattern.mpr ⟨leaf, asked, rfl⟩)
    obtain ⟨slot', found', kind'⟩ := keep _ (mem_leaves_ofPattern.mpr ⟨other, asked', rfl⟩)
    dsimp only at found found' kind kind'
    rw [named] at found
    obtain rfl := Option.some.inj (found.symm.trans found')
    exact kind.symm.trans kind'
  · intro agree leaf member
    obtain ⟨asked, written, rfl⟩ := mem_leaves_ofPattern.mp member
    obtain ⟨slot, found, -, first, first_asked, named, kind⟩ := exists_slot_of_leaf written
    refine ⟨slot, found, ?_⟩
    rw [kind]
    exact (SlotKind.alike_iff _ _).mp (agree first first_asked asked written named)

end Grammar

/-- The slot of a leaf that a usage text can ask for: a word is an argument or a command by its
own look. -/
inductive Slot.Written : Slot → Prop
  | option (spec : OptionSpec) : Written (.ofOption spec)
  | argument {word : String} : Expression.Symbol.ofWord word = .argument →
      Written (.ofArgument word)
  | command {word : String} : Expression.Symbol.ofWord word = .command →
      Written (.ofCommand word)

namespace Expression

open Pattern

theorem ReadsAs.written {word : String} {atom : Pattern} (reads : ReadsAs word atom) :
    ∀ slot ∈ atom.leafSlots, slot.Written := by
  intro slot member
  cases reads with
  | shortcut => cases member
  | argument meaning => exact List.mem_singleton.mp member ▸ .argument meaning
  | command meaning => exact List.mem_singleton.mp member ▸ .command meaning

theorem written_of_mem_flagPatterns {flags : List ResolvedFlag} {slot : Slot}
    (member : slot ∈ (flagPatterns flags).flatMap leafSlots) : slot.Written := by
  obtain ⟨atom, read, asked⟩ := List.mem_flatMap.mp member
  obtain ⟨flag, -, rfl⟩ := List.mem_map.mp read
  exact List.mem_singleton.mp asked ▸ .option flag.spec

namespace Position

variable {before after : Position} {atoms : List Pattern}

theorem Step.written (step : Step before atoms after) :
    ∀ slot ∈ atoms.flatMap leafSlots, slot.Written := by
  intro slot member
  cases step with
  | opening | closing | bar => cases member
  | leaf reads => exact reads.written slot (by simpa using member)
  | options => exact written_of_mem_flagPatterns member

theorem Path.written (path : Path before atoms after) :
    ∀ slot ∈ atoms.flatMap leafSlots, slot.Written := by
  induction path with
  | nil => nofun
  | cons step _ ih =>
      intro slot member
      rw [List.flatMap_append] at member
      exact (List.mem_append.mp member).elim (step.written slot) (ih slot)

end Position

theorem written_of_compile {registry : Registry} {expression : String} {pattern : Pattern}
    (compiled : (compile registry expression).result = .ok pattern) :
    ∀ slot ∈ pattern.leafSlots, slot.Written := by
  obtain ⟨atoms, choice, known, path, rfl⟩ := exists_path_of_compile compiled
  rw [leafSlots_concatenates.required, path.flatMap_patterns leafSlots_concatenates]
  exact path.written

end Expression

theorem WordShape.ofWord_of_dash {word : String} (dash : word.toList.head? = some '-') :
    ofWord word = .long ∨ ofWord word = .short ∨ word = "-" ∨ word = "--" := by
  have means := means_ofWord word
  generalize ofWord word = shape at means ⊢
  cases means with
  | terminator dashes => exact .inr (.inr (.inr dashes))
  | long => exact .inl rfl
  | short => exact .inr (.inl rfl)
  | dash single => exact .inr (.inr (.inl single))
  | undashed undashed => exact absurd dash undashed

namespace Expression.Symbol

theorem ofWord_of_dash {word : String} (dash : word.toList.head? = some '-') :
    ofWord word = .long ∨ ofWord word = .short ∨
      (ofWord word = .command ∧ (word = "-" ∨ word = "--")) := by
  have other {fixed : String} (differs : fixed.toList.head? ≠ some '-') : word ≠ fixed :=
    fun same => differs (same ▸ dash)
  rcases WordShape.ofWord_of_dash dash with long | short | command
  · left
    unfold ofWord
    iterate 6 rw [if_neg (other (by decide))]
    simp only [long]
  · right; left
    unfold ofWord
    iterate 6 rw [if_neg (other (by decide))]
    simp only [short]
  · refine .inr (.inr ⟨?_, command⟩)
    rcases command with rfl | rfl <;> decide

end Expression.Symbol

namespace Slot.Written

variable {slot other : Slot}

/-- Of two leaves of one name and of different kinds, one is an option and the other a command, and
the name is one of two words of dashes. -/
theorem eq_command_of_option {spec : OptionSpec} (named : spec.DashNamed) (written : slot.Written)
    (same : slot.name = spec.name) (different : slot.kind.leafKind ≠ .option) :
    slot = .ofCommand spec.name ∧ (spec.name = "-" ∨ spec.name = "--") := by
  cases written with
  | option => exact absurd rfl different
  | @argument word meaning =>
      obtain rfl : word = spec.name := same
      rcases Expression.Symbol.ofWord_of_dash named with long | short | ⟨command, -⟩
      · cases long.symm.trans meaning
      · cases short.symm.trans meaning
      · cases command.symm.trans meaning
  | @command word meaning =>
      obtain rfl : word = spec.name := same
      rcases Expression.Symbol.ofWord_of_dash named with long | short | ⟨-, dashes⟩
      · cases long.symm.trans meaning
      · cases short.symm.trans meaning
      · exact ⟨rfl, dashes⟩

theorem leafKind_eq (written : slot.Written) (written' : other.Written)
    (word : slot.kind.leafKind ≠ .option) (word' : other.kind.leafKind ≠ .option)
    (same : slot.name = other.name) : slot.kind.leafKind = other.kind.leafKind := by
  cases written with
  | option => exact absurd rfl word
  | @argument name meaning =>
      cases written' with
      | option => exact absurd rfl word'
      | argument => rfl
      | @command name' meaning' =>
          obtain rfl : name = name' := same
          cases meaning.symm.trans meaning'
  | @command name meaning =>
      cases written' with
      | option => exact absurd rfl word'
      | command => rfl
      | @argument name' meaning' =>
          obtain rfl : name = name' := same
          cases meaning.symm.trans meaning'

end Slot.Written

theorem Registry.IsNew.dashNamed {registry : Registry} {spec : OptionSpec}
    (new : registry.IsNew spec) : spec.DashNamed := by
  cases new with
  | @long form takesValue dashes _ =>
      obtain ⟨rest, whole⟩ := List.isPrefixOf_iff_prefix.mp dashes
      change form.toList.head? = some '-'
      rw [← whole]
      rfl
  | short => simp [OptionSpec.DashNamed, OptionSpec.name]

/-- An option and a command of the pattern share a name, which is one of two words of dashes. -/
def Pattern.SharesDashes (pattern : Pattern) : Prop :=
  ∃ name, (name = "-" ∨ name = "--") ∧ Slot.ofCommand name ∈ pattern.leafSlots ∧
    ∃ spec, spec.name = name ∧ Slot.ofOption spec ∈ pattern.leafSlots

namespace Usage

variable {doc : String} {usage : Usage}

theorem Compiled.written (compiled : Compiled doc usage) :
    ∀ slot ∈ usage.pattern.leafSlots, slot.Written := by
  obtain ⟨unresolved, result, resolved⟩ := compiled.pattern
  rw [resolved]
  intro slot member
  rcases Pattern.mem_leafSlots_fillShortcuts unresolved member with ⟨leaf, -⟩ | ⟨spec, -, rfl⟩
  · exact Expression.written_of_compile result slot leaf
  · exact .option spec

theorem Compiled.dashNamed (compiled : Compiled doc usage) :
    ∀ spec ∈ usage.registry.specs, spec.DashNamed := by
  obtain ⟨met, meets, -⟩ := Expression.exists_compile_meets (.ofDoc doc) usage.formal
  rw [compiled.registry]
  exact meets.forall_specs Registry.IsNew.dashNamed (Registry.ofDoc_dashNamed doc)

/-- Two leaves of one name that are of different kinds share one of two words of dashes. -/
theorem Compiled.sharesDashes (compiled : Compiled doc usage) {leaf other : Slot}
    (member : leaf ∈ usage.pattern.leafSlots) (member' : other ∈ usage.pattern.leafSlots)
    (same : leaf.name = other.name) (different : leaf.kind.leafKind ≠ other.kind.leafKind) :
    (leaf.name = "-" ∨ leaf.name = "--") ∧ usage.pattern.SharesDashes := by
  have shares {option command : Slot} {spec : OptionSpec}
      (asked : option ∈ usage.pattern.leafSlots) (kind : option.kind = .option spec)
      (asked' : command ∈ usage.pattern.leafSlots) (same : command.name = option.name)
      (different : command.kind.leafKind ≠ .option) :
      (option.name = "-" ∨ option.name = "--") ∧ usage.pattern.SharesDashes := by
    obtain ⟨rfl, known⟩ := compiled.mem_registry_of_leaf asked kind
    obtain ⟨rfl, dashes⟩ := (compiled.written _ asked').eq_command_of_option
      (compiled.dashNamed spec known) same different
    exact ⟨dashes, spec.name, dashes, asked', spec, rfl, asked⟩
  cases kind : leaf.kind with
  | option spec =>
      refine shares member kind member' same.symm fun option => different ?_
      rw [option, kind]
      rfl
  | argument | command =>
      cases kind' : other.kind with
      | option spec =>
          rw [same]
          exact shares member' kind' member same (by rw [kind]; nofun)
      | argument | command =>
          refine absurd ?_ different
          exact (compiled.written _ member).leafKind_eq (compiled.written _ member')
            (by rw [kind]; nofun) (by rw [kind']; nofun) same

/-- A leaf keeps its kind unless its name is one of two words of dashes, and all leaves do exactly
if no option shares such a name with a command. -/
theorem leavesKeepKind_iff_not_sharesDashes (described : ofDoc doc = .ok usage) :
    (∀ leaf ∈ usage.grammar.root.leaves, ∃ slot, usage.grammar.slots[leaf.2]? = some slot ∧
      (slot.name ≠ "-" → slot.name ≠ "--" → slot.kind.leafKind = leaf.1)) ∧
      (usage.grammar.LeavesKeepKind ↔ ¬ usage.pattern.SharesDashes) := by
  have compiled := compiled_of_ofDoc described
  rw [compiled.grammar]
  refine ⟨fun leaf member => ?_, ?_⟩
  · obtain ⟨asked, written, rfl⟩ := Grammar.mem_leaves_ofPattern.mp member
    obtain ⟨slot, found, named, first, first_asked, named', kind⟩ :=
      Grammar.exists_slot_of_leaf written
    refine ⟨slot, found, fun single double => ?_⟩
    rw [kind]
    by_contra different
    obtain ⟨dashes, -⟩ := compiled.sharesDashes first_asked written named' different
    rw [named', ← named] at dashes
    exact dashes.elim single double
  · rw [Grammar.leavesKeepKind_iff]
    constructor
    · rintro agree ⟨name, -, command, spec, named, option⟩
      exact nomatch agree _ option _ command named
    · intro separate leaf asked other asked' named
      rw [SlotKind.alike_iff]
      by_contra different
      exact separate (compiled.sharesDashes asked asked' named different).2

/-- The options of the ship have names of their own, so every leaf keeps its kind. -/
theorem leavesKeepKind_ship :
    ofDoc shipDoc = .ok shipUsage ∧ shipUsage.grammar.LeavesKeepKind := by
  have described : ofDoc shipDoc = .ok shipUsage := compiled_ship.ofDoc_eq
  refine ⟨described, (leavesKeepKind_iff_not_sharesDashes described).2.mpr ?_⟩
  rintro ⟨name, -, command, -⟩
  simp [shipUsage, shipPattern, Pattern.leafSlots, Pattern.leafSlotsOfAll, Slot.ofCommand,
    Slot.ofOption, Slot.ofArgument] at command

/-- A usage that allows the terminator, and an options section that declares it as an option. -/
def terminatorDoc : String :=
  "usage: prog [options] [--]\noptions: --  End."

def terminatorPattern : Pattern :=
  .required [.required [.optional [.shortcut [⟨none, some "--", false, none⟩]],
    .optional [.command "--"]]]

def terminatorUsage : Usage where
  doc := terminatorDoc
  text := "usage: prog [options] [--]"
  formal := "( [options] [--] )"
  pattern := terminatorPattern
  grammar := .ofPattern terminatorPattern
  registry := ⟨[⟨none, some "--", false, none⟩]⟩

theorem compiled_terminator : Compiled terminatorDoc terminatorUsage := by
  have declared : Registry.ofDoc terminatorDoc = ⟨[⟨none, some "--", false, none⟩]⟩ := by
    decide +kernel
  have words : Expression.wordsOf terminatorUsage.formal =
      ["(", "[", "options", "]", "[", "--", "]", ")"] := by
    decide +kernel
  have compiled : Expression.compile ⟨[⟨none, some "--", false, none⟩]⟩ terminatorUsage.formal =
      ⟨.ok (.required [.required [.optional [.shortcut []], .optional [.command "--"]]]),
        terminatorUsage.registry⟩ := by
    have opening_round : Expression.Symbol.ofWord "(" = .opening .round := by decide
    have closing_round : Expression.Symbol.ofWord ")" = .closing .round := by decide
    have opening_square : Expression.Symbol.ofWord "[" = .opening .square := by decide
    have closing_square : Expression.Symbol.ofWord "]" = .closing .square := by decide
    have shortcut : Expression.Symbol.ofWord "options" = .shortcut := by decide
    have terminator : Expression.Symbol.ofWord "--" = .command := by decide
    rw [Expression.compile, words]
    simp [Expression.compileWords, opening_round, closing_round, opening_square, closing_square,
      shortcut, terminator, Expression.takeEllipsis, Expression.Choice.empty,
      Expression.Choice.push, Expression.Choice.patterns, Expression.Bracket.group, Except.map,
      terminatorUsage]
  refine ⟨rfl, by decide +kernel, by decide +kernel,
    ⟨.required [.required [.optional [.shortcut []], .optional [.command "--"]]], ?_, ?_⟩, rfl, ?_⟩
  · rw [declared, compiled]
  · rw [declared]
    rfl
  · rw [declared, compiled]

/-- The declared option takes the slot of the terminator, which then cannot be matched. -/
theorem not_leavesKeepKind_terminator :
    ofDoc terminatorDoc = .ok terminatorUsage ∧ ¬ terminatorUsage.grammar.LeavesKeepKind ∧
      ¬ (terminatorUsage.grammar.matchTokens [.argument "--"]).isAccepted := by
  refine ⟨compiled_terminator.ofDoc_eq, fun keep => ?_, by decide +kernel⟩
  have agree := Grammar.leavesKeepKind_iff.mp keep
  exact nomatch agree (.ofOption ⟨none, some "--", false, none⟩) (by decide +kernel)
    (.ofCommand "--") (by decide +kernel) rfl

end Usage

end UsageGrammar
