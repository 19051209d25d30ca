import Mathlib.Order.Bounds.Basic
import UsageGrammar.Proofs.Reading
import UsageGrammar.Proofs.SlotTable

/-!
# Ways of matching

A pattern can be expanded into the ways of matching it: every choice takes one of its branches,
every repetition runs twice, and all else goes together. There may be exponentially many of them,
but how often a name can occur is found without them, from the leaves up. The main theorem is that
the two agree. A slot therefore accumulates exactly if its name occurs twice in one way of matching.
-/

namespace UsageGrammar

namespace Pattern

/-- Every one of some ways together with every one of other ways. -/
def combinations (firsts seconds : List (List String)) : List (List String) :=
  firsts.flatMap fun first => seconds.map (first ++ ·)

mutual

/-- The names of the leaves in each way of matching a pattern. -/
def ways : Pattern → List (List String)
  | option spec => [[spec.name]]
  | argument name => [[name]]
  | command name => [[name]]
  | required children | optional children => waysTogether children
  | either children => waysApart children
  | repeatable child => combinations child.ways child.ways
  | shortcut specs => [specs.map OptionSpec.name]

/-- The names of the leaves in each way of matching all of several patterns. -/
def waysTogether : List Pattern → List (List String)
  | [] => [[]]
  | child :: children => combinations child.ways (waysTogether children)

/-- The names of the leaves in each way of matching one of several patterns. -/
def waysApart : List Pattern → List (List String)
  | [] => []
  | child :: children => child.ways ++ waysApart children

end

/-- Every choice has a branch. -/
inductive Branching : Pattern → Prop
  | option (spec : OptionSpec) : Branching (option spec)
  | argument (name : String) : Branching (argument name)
  | command (name : String) : Branching (command name)
  | required {children : List Pattern} : (∀ child ∈ children, Branching child) →
      Branching (required children)
  | optional {children : List Pattern} : (∀ child ∈ children, Branching child) →
      Branching (optional children)
  | either {children : List Pattern} : children ≠ [] → (∀ child ∈ children, Branching child) →
      Branching (either children)
  | repeatable {child : Pattern} : Branching child → Branching (repeatable child)
  | shortcut (specs : List OptionSpec) : Branching (shortcut specs)

/-- The numbers of times that a name occurs in ways of matching. -/
def counts (name : String) (ways : List (List String)) : Set Nat :=
  {count | ∃ way ∈ ways, way.count name = count}

section Counts

variable {name : String} {firsts seconds : List (List String)} {most most' : Nat}
  {pattern : Pattern} {children : List Pattern}

theorem mem_combinations {way : List String} :
    way ∈ combinations firsts seconds ↔
      ∃ first ∈ firsts, ∃ second ∈ seconds, first ++ second = way := by
  simp [combinations]

theorem isGreatest_counts_single (way : List String) :
    IsGreatest (counts name [way]) (way.count name) := by
  constructor
  · exact ⟨way, List.mem_singleton_self way, rfl⟩
  · rintro count ⟨other, member, rfl⟩
    rw [List.mem_singleton.mp member]

theorem isGreatest_counts_leaf (leaf : String) :
    IsGreatest (counts name [[leaf]]) (occurrence name leaf) := by
  have once : [leaf].count name = occurrence name leaf := by
    simp [occurrence, List.count_singleton]
  rw [← once]
  exact isGreatest_counts_single [leaf]

theorem isGreatest_counts_combinations (first : IsGreatest (counts name firsts) most)
    (second : IsGreatest (counts name seconds) most') :
    IsGreatest (counts name (combinations firsts seconds)) (most + most') := by
  obtain ⟨⟨way, member, counted⟩, bound⟩ := first
  obtain ⟨⟨way', member', counted'⟩, bound'⟩ := second
  constructor
  · refine ⟨way ++ way', mem_combinations.mpr ⟨way, member, way', member', rfl⟩, ?_⟩
    rw [List.count_append, counted, counted']
  · rintro count ⟨combined, among, rfl⟩
    obtain ⟨left, left_among, right, right_among, rfl⟩ := mem_combinations.mp among
    rw [List.count_append]
    exact Nat.add_le_add (bound ⟨left, left_among, rfl⟩) (bound' ⟨right, right_among, rfl⟩)

theorem counts_append :
    counts name (firsts ++ seconds) = counts name firsts ∪ counts name seconds := by
  ext count
  simp [counts, or_and_right, exists_or]

theorem isGreatest_counts_together
    (each : ∀ child ∈ children, IsGreatest (counts name child.ways) (child.occurrences name)) :
    IsGreatest (counts name (waysTogether children)) (occurrencesTogether name children) := by
  induction children with
  | nil => exact isGreatest_counts_single []
  | cons child children ih =>
      obtain ⟨head, later⟩ := List.forall_mem_cons.mp each
      exact isGreatest_counts_combinations head (ih later)

/-- A choice without branches has no way of matching, so a branch is needed. -/
theorem isGreatest_counts_apart (some_branch : children ≠ [])
    (each : ∀ child ∈ children, IsGreatest (counts name child.ways) (child.occurrences name)) :
    IsGreatest (counts name (waysApart children)) (occurrencesApart name children) := by
  induction children with
  | nil => exact absurd rfl some_branch
  | cons child children ih =>
      obtain ⟨head, later⟩ := List.forall_mem_cons.mp each
      rw [waysApart, occurrencesApart]
      cases children with
      | nil => simpa [waysApart, occurrencesApart] using head
      | cons next children =>
          rw [counts_append]
          exact head.union (ih (List.cons_ne_nil next children) later)

/-- What is found from the leaves up is the greatest number over all ways of matching. -/
theorem Branching.isGreatest_counts (branching : pattern.Branching) :
    IsGreatest (counts name pattern.ways) (pattern.occurrences name) := by
  induction branching with
  | option spec => exact isGreatest_counts_leaf spec.name
  | argument leaf | command leaf => exact isGreatest_counts_leaf leaf
  | required _ ih => exact isGreatest_counts_together ih
  | optional _ ih => exact isGreatest_counts_together ih
  | either some_branch _ ih => exact isGreatest_counts_apart some_branch ih
  | repeatable _ ih =>
      rw [ways, occurrences, Nat.two_mul]
      exact isGreatest_counts_combinations ih ih
  | shortcut specs => exact isGreatest_counts_single _

end Counts

end Pattern

namespace Expression

variable {atom : List Pattern} {choice : Choice}

theorem takeEllipsis_branching (branching : ∀ pattern ∈ atom, pattern.Branching)
    (following : List String) :
    ∀ pattern ∈ (takeEllipsis atom following).1, pattern.Branching := by
  cases following with
  | nil => exact branching
  | cons word following =>
      simp only [takeEllipsis]
      split
      · split
        · next single =>
            intro pattern member
            obtain rfl := List.mem_singleton.mp member
            exact .repeatable (branching single List.mem_cons_self)
        · intro pattern member
          obtain rfl := List.mem_singleton.mp member
          exact .repeatable (.required branching)
      · exact branching

namespace Choice

/-- Every choice in what has been read has a branch. -/
structure Branching (choice : Choice) : Prop where
  earlier : ∀ sequence ∈ choice.earlier, ∀ pattern ∈ sequence, pattern.Branching
  current : ∀ pattern ∈ choice.current, pattern.Branching

theorem empty_branching : empty.Branching :=
  ⟨nofun, nofun⟩

namespace Branching

theorem push (branching : choice.Branching)
    (atom_branching : ∀ pattern ∈ atom, pattern.Branching) : (choice.push atom).Branching :=
  ⟨branching.earlier, List.forall_mem_append.mpr ⟨branching.current, atom_branching⟩⟩

theorem bar (branching : choice.Branching) : choice.bar.Branching := by
  refine ⟨List.forall_mem_append.mpr ⟨branching.earlier, ?_⟩, nofun⟩
  simpa using branching.current

theorem patterns (branching : choice.Branching) :
    ∀ pattern ∈ choice.patterns, pattern.Branching := by
  have grouped : ∀ pattern ∈ (choice.earlier ++ [choice.current]).flatMap branch,
      pattern.Branching := by
    intro pattern member
    obtain ⟨sequence, among, inside⟩ := List.mem_flatMap.mp member
    have all : ∀ pattern ∈ sequence, pattern.Branching := by
      rcases List.mem_append.mp among with earlier | last
      · exact branching.earlier sequence earlier
      · exact List.mem_singleton.mp last ▸ branching.current
    unfold branch at inside
    split at inside
    · cases inside
    · exact all pattern inside
    · exact List.mem_singleton.mp inside ▸ .required all
  unfold Choice.patterns
  split
  · exact branching.current
  · split
    · exact nofun
    · next single => exact single ▸ grouped
    · next no_branch _ =>
        intro pattern member
        rw [List.mem_singleton.mp member]
        exact .either no_branch grouped

end Branching

end Choice

namespace Position

/-- Every choice in what has been read at any level has a branch. -/
structure Branching (position : Position) : Prop where
  choice : position.choice.Branching
  stack : ∀ level ∈ position.stack, level.2.Branching

variable {before after : Position} {atoms : List Pattern}

theorem afterAtom_branching {stack : List (Bracket × Choice)}
    (stack_branching : ∀ level ∈ stack, level.2.Branching) (branching : choice.Branching)
    (atom_branching : ∀ pattern ∈ atom, pattern.Branching) (registry : Registry)
    (following : List String) : (afterAtom stack choice registry atom following).Branching :=
  ⟨branching.push (takeEllipsis_branching atom_branching following), stack_branching⟩

theorem Step.branching (step : Step before atoms after) (branching : before.Branching) :
    after.Branching := by
  obtain ⟨choice_branching, stack_branching⟩ := branching
  cases step with
  | opening =>
      exact ⟨Choice.empty_branching, List.forall_mem_cons.mpr ⟨choice_branching, stack_branching⟩⟩
  | @closing stack outer choice registry word following bracket =>
      obtain ⟨outer_branching, others⟩ := List.forall_mem_cons.mp stack_branching
      refine afterAtom_branching others outer_branching ?_ registry following
      simp only [List.forall_mem_singleton]
      cases bracket with
      | round => exact .required choice_branching.patterns
      | square => exact .optional choice_branching.patterns
  | bar => exact ⟨choice_branching.bar, stack_branching⟩
  | leaf reads =>
      refine afterAtom_branching stack_branching choice_branching ?_ _ _
      simp only [List.forall_mem_singleton]
      cases reads with
      | shortcut => exact .shortcut []
      | argument => exact .argument _
      | command => exact .command _
  | options =>
      refine afterAtom_branching stack_branching choice_branching ?_ _ _
      intro pattern member
      obtain ⟨flag, -, rfl⟩ := List.mem_map.mp member
      exact .option flag.spec

theorem Path.branching (path : Path before atoms after) (branching : before.Branching) :
    after.Branching := by
  induction path with
  | nil => exact branching
  | cons step _ ih => exact ih (step.branching branching)

end Position

theorem branching_of_compile {registry : Registry} {expression : String} {pattern : Pattern}
    (compiled : (compile registry expression).result = .ok pattern) : pattern.Branching := by
  obtain ⟨atoms, choice, known, path, rfl⟩ := exists_path_of_compile compiled
  have start : (Position.start registry (wordsOf expression)).Branching :=
    ⟨Choice.empty_branching, nofun⟩
  exact .required (path.branching start).choice.patterns

end Expression

theorem Slot.accumulation_ne_scalar_iff {slot : Slot} :
    slot.accumulation ≠ .scalar ↔
      (∃ occurrences, slot.default = .count occurrences) ∨ ∃ items, slot.default = .list items := by
  unfold accumulation
  split
  · next occurrences counted => simp [counted]
  · next items listed => simp [listed]
  · next not_counted not_listed =>
      refine iff_of_false (absurd rfl) ?_
      rintro (⟨occurrences, counted⟩ | ⟨items, listed⟩)
      · exact not_counted occurrences counted
      · exact not_listed items listed

/-- A slot accumulates exactly if its name can occur twice. -/
theorem Grammar.accumulates_iff {pattern : Pattern} {slot : Slot}
    (member : slot ∈ (ofPattern pattern).slots) :
    slot.accumulation ≠ .scalar ↔ 1 < pattern.occurrences slot.name := by
  obtain ⟨index, found⟩ := List.getElem?_of_mem member
  rw [accumulation_ofPattern found]
  split
  · next several => simpa [several] using by split <;> exact nofun
  · next few => simp [few]

/-- Every choice of a compiled expression has a branch. Where that is so, how often a name can occur
is the greatest number of times that it occurs in one way of matching, and the default of a slot is
a count or a list exactly if its name occurs twice in one of them. -/
theorem Pattern.occurrences_isGreatest (pattern : Pattern) :
    (∀ registry expression, (Expression.compile registry expression).result = .ok pattern →
        pattern.Branching) ∧
      (pattern.Branching →
        (∀ name, IsGreatest {count | ∃ way ∈ pattern.ways, way.count name = count}
            (pattern.occurrences name)) ∧
          ∀ slot ∈ (Grammar.ofPattern pattern).slots,
            ((∃ occurrences, slot.default = .count occurrences) ∨
                ∃ items, slot.default = .list items) ↔
              ∃ way ∈ pattern.ways, 2 ≤ way.count slot.name) := by
  refine ⟨fun _ _ compiled => Expression.branching_of_compile compiled, fun branching =>
    ⟨fun name => branching.isGreatest_counts, fun slot member => ?_⟩⟩
  have greatest : IsGreatest (counts slot.name pattern.ways) (pattern.occurrences slot.name) :=
    branching.isGreatest_counts
  rw [← Slot.accumulation_ne_scalar_iff, Grammar.accumulates_iff member]
  constructor
  · intro several
    obtain ⟨way, among, most⟩ := greatest.1
    exact ⟨way, among, by omega⟩
  · rintro ⟨way, among, twice⟩
    exact lt_of_lt_of_le twice (greatest.2 ⟨way, among, rfl⟩)

/-- `prog ( <stop> <stop> | <stop> home ) [ -v... ]` -/
def routeUsage : Pattern :=
  .required [
    .either [
      .required [.argument "<stop>", .argument "<stop>"],
      .required [.argument "<stop>", .command "home"]],
    .optional [.repeatable (.option (.flag (some "-v") none))]]

/-- The stop is collected because of one branch, and no branch has two homes. -/
theorem Pattern.occurrences_isGreatest_route :
    routeUsage.Branching ∧
      IsGreatest {count | ∃ way ∈ routeUsage.ways, way.count "<stop>" = count} 2 ∧
      (∃ way ∈ routeUsage.ways, 2 ≤ way.count "<stop>") ∧
      ¬ ∃ way ∈ routeUsage.ways, 2 ≤ way.count "home" := by
  have two_stops : (required [.argument "<stop>", .argument "<stop>"]).Branching :=
    .required (by simp [Branching.argument])
  have one_stop : (required [.argument "<stop>", .command "home"]).Branching :=
    .required (by simp [Branching.argument, Branching.command])
  have flags : (optional [.repeatable (.option (.flag (some "-v") none))]).Branching :=
    .optional (by simp [Branching.repeatable, Branching.option])
  have choice := Branching.either (List.cons_ne_nil _ _)
    (List.forall_mem_cons.mpr ⟨two_stops, List.forall_mem_singleton.mpr one_stop⟩)
  have branching : routeUsage.Branching :=
    .required (List.forall_mem_cons.mpr ⟨choice, List.forall_mem_singleton.mpr flags⟩)
  have stop : ⟨"<stop>", .argument, .list []⟩ ∈ (Grammar.ofPattern routeUsage).slots := by
    decide +kernel
  have home : ⟨"home", .command, .bool false⟩ ∈ (Grammar.ofPattern routeUsage).slots := by
    decide +kernel
  obtain ⟨greatest, accumulates⟩ := (occurrences_isGreatest routeUsage).2 branching
  refine ⟨branching, greatest "<stop>", (accumulates _ stop).mp (.inr ⟨[], rfl⟩), fun twice => ?_⟩
  rcases (accumulates _ home).mpr twice with ⟨occurrences, counted⟩ | ⟨items, listed⟩
  · cases counted
  · cases listed

end UsageGrammar
