import Mathlib.Data.List.TakeWhile
import UsageGrammar.Proofs.Compilation
import UsageGrammar.Proofs.Nesting

/-!
# Expressions of flags

Where no known option takes a value, no two share a form, and no value is written after a long
form, every option word resolves, and it takes no other word along. The brackets then decide what
compiling comes to, and no word is lost: every word but a bracket, a bar, an ellipsis or a shortcut
gives leaves of its own.
-/

namespace UsageGrammar

/-- The options have no form in common. -/
structure OptionSpec.Apart (spec other : OptionSpec) : Prop where
  short : spec.short = other.short → spec.short = none
  long : spec.long = other.long → spec.long = none

namespace Registry

/-- All options are flags, and no two of them share a form. -/
structure Plain (registry : Registry) : Prop where
  flags : ∀ spec ∈ registry.specs, spec.takesValue = false
  apart : registry.specs.Pairwise OptionSpec.Apart

/-- The options that the short forms of a cluster stand for. -/
def byCluster (registry : Registry) (cluster : List Char) : List OptionSpec :=
  cluster.flatMap fun c => registry.byShort (String.ofList ['-', c])

section Plain

variable {registry known : Registry} {spec other : OptionSpec} {form : String}

theorem filter_eq_singleton_of_pairwise {α : Type} {related : α → α → Prop} {elements : List α}
    {selects : α → Bool} {chosen : α} (pairwise : elements.Pairwise related)
    (clash : ∀ first second, selects first → selects second → ¬ related first second)
    (member : chosen ∈ elements) (selected : selects chosen) :
    elements.filter selects = [chosen] := by
  have found : chosen ∈ elements.filter selects := List.mem_filter.mpr ⟨member, selected⟩
  have apart := pairwise.filter selects
  have all : ∀ element ∈ elements.filter selects, selects element := fun element member =>
    (List.mem_filter.mp member).2
  generalize elements.filter selects = kept at found apart all
  cases kept with
  | nil => cases found
  | cons first rest =>
      cases rest with
      | nil => rw [List.mem_singleton.mp found]
      | cons second rest =>
          have related := (List.pairwise_cons.mp apart).1 second List.mem_cons_self
          exact absurd related (clash first second (all _ (by simp)) (all _ (by simp)))

namespace Plain

section Field

-- Long and short forms are looked up in the same way.
variable {field : OptionSpec → Option String}
  (apart : ∀ {first second : OptionSpec}, first.Apart second →
    field first = field second → field first = none)

include apart

theorem filter_eq_of_mem (plain : registry.Plain) (member : spec ∈ registry.specs)
    (has : field spec = some form) : registry.specs.filter (field · == some form) = [spec] := by
  refine filter_eq_singleton_of_pairwise plain.apart (fun first second has has' related => ?_)
    member (by simp [has])
  simp only [beq_iff_eq] at has has'
  cases has.symm.trans (apart related (has.trans has'.symm))

theorem filter_cases (plain : registry.Plain) (form : String) :
    registry.specs.filter (field · == some form) = [] ∨
      ∃ spec ∈ registry.specs, field spec = some form ∧
        registry.specs.filter (field · == some form) = [spec] := by
  cases found : registry.specs.filter (field · == some form) with
  | nil => exact .inl rfl
  | cons spec rest =>
      have first : spec ∈ registry.specs.filter (field · == some form) := by simp [found]
      obtain ⟨member, has⟩ := List.mem_filter.mp first
      have has : field spec = some form := by simpa using has
      exact .inr ⟨spec, member, has, found ▸ filter_eq_of_mem apart plain member has⟩

end Field

theorem byLong_eq_of_mem (plain : registry.Plain) (member : spec ∈ registry.specs)
    (long : spec.long = some form) : registry.byLong form = [spec] :=
  filter_eq_of_mem OptionSpec.Apart.long plain member long

theorem byShort_eq_of_mem (plain : registry.Plain) (member : spec ∈ registry.specs)
    (short : spec.short = some form) : registry.byShort form = [spec] :=
  filter_eq_of_mem OptionSpec.Apart.short plain member short

theorem byLong_cases (plain : registry.Plain) (form : String) :
    registry.byLong form = [] ∨
      ∃ spec ∈ registry.specs, spec.long = some form ∧ registry.byLong form = [spec] :=
  filter_cases OptionSpec.Apart.long plain form

theorem byShort_cases (plain : registry.Plain) (form : String) :
    registry.byShort form = [] ∨
      ∃ spec ∈ registry.specs, spec.short = some form ∧ registry.byShort form = [spec] :=
  filter_cases OptionSpec.Apart.short plain form

theorem register (plain : registry.Plain) (new : registry.IsNew spec)
    (flag : spec.takesValue = false) : (registry.register spec).Plain := by
  constructor
  · intro other member
    rcases List.mem_append.mp member with old | last
    · exact plain.flags other old
    · exact List.mem_singleton.mp last ▸ flag
  · refine List.pairwise_append.mpr ⟨plain.apart, List.pairwise_singleton .., ?_⟩
    intro other member last same
    obtain rfl := List.mem_singleton.mp same
    cases new with
    | @long form takesValue dashes unknown =>
        refine ⟨id, fun shared => ?_⟩
        have found : other ∈ registry.byLong form := List.mem_filter.mpr ⟨member, by simp [shared]⟩
        rw [unknown] at found
        cases found
    | @short c unknown =>
        refine ⟨fun shared => ?_, id⟩
        have found : other ∈ registry.byShort (String.ofList ['-', c]) :=
          List.mem_filter.mpr ⟨member, by simp [shared]⟩
        rw [unknown] at found
        cases found

end Plain

end Plain

/-- An option word resolves without the words after it. What it resolves to can be looked up in
every plain registry that knows at least as much as the one it leaves. -/
structure Settles (registry : Registry) (following : List String)
    (lookup : Registry → List OptionSpec) (flags : List ResolvedFlag) (resolution : Resolution) :
    Prop where
  result : resolution.result = .ok flags
  following : resolution.following = following
  plain : resolution.registry.Plain
  grows : registry.specs ⊆ resolution.registry.specs
  lookup {known : Registry} : known.Plain → resolution.registry.specs ⊆ known.specs →
    lookup known = flags.map ResolvedFlag.spec

section Resolution

variable {registry middle : Registry} {following : List String} {word : String}

theorem splitAssignment_of_bare (bare : '=' ∉ word.toList) :
    splitAssignment word = (word, none) := by
  have unassigned : word.toList.dropWhile (· != '=') = [] := by
    refine List.dropWhile_eq_nil_iff.mpr fun c member => ?_
    simp only [bne_iff_ne]
    rintro rfl
    exact bare member
  rw [splitAssignment, unassigned]

theorem Plain.exists_resolveLong_settles (plain : registry.Plain) (dashes : begins "--" word)
    (bare : '=' ∉ word.toList) (following : List String) :
    ∃ flags, registry.Settles following (·.byLong word) flags
      (registry.resolveLong .usage word following) := by
  simp only [resolveLong, splitAssignment_of_bare bare]
  rcases plain.byLong_cases word with unknown | ⟨spec, member, long, only⟩
  · have found : registry.findLong .usage word = .ok none := by simp [findLong, unknown]
    have new : registry.IsNew ⟨none, some word, false, none⟩ := .long _ dashes unknown
    rw [found]
    refine ⟨_, rfl, rfl, plain.register new rfl, List.subset_append_left _ _, ?_⟩
    intro known known_plain within
    have member := within (List.mem_append_right _ (List.mem_singleton_self _))
    exact known_plain.byLong_eq_of_mem member rfl
  · have found : registry.findLong .usage word = .ok (some spec) := by simp [findLong, only]
    rw [found]
    simp only [plain.flags spec member]
    exact ⟨_, rfl, rfl, plain, List.Subset.refl _, fun known within =>
      known.byLong_eq_of_mem (within member) long⟩

theorem Settles.after {resolution : Resolution} {lookup : Registry → List OptionSpec}
    {flags : List ResolvedFlag} {flag : ResolvedFlag} {form : String}
    (settles : middle.Settles following lookup flags resolution)
    (grows : registry.specs ⊆ middle.specs) (member : flag.spec ∈ middle.specs)
    (short : flag.spec.short = some form) :
    registry.Settles following (fun known => known.byShort form ++ lookup known) (flag :: flags)
      (resolution.after flag) := by
  refine ⟨?_, settles.following, settles.plain, List.Subset.trans grows settles.grows,
    fun known within => ?_⟩
  · rw [Resolution.after, settles.result]
    rfl
  · rw [known.byShort_eq_of_mem (within (settles.grows member)) short,
      settles.lookup known within]
    rfl

/-- A cluster settles, one short form after another. -/
theorem Plain.exists_resolveCluster_settles (plain : registry.Plain) (following : List String)
    (cluster : List Char) :
    ∃ flags, registry.Settles following (·.byCluster cluster) flags
      (registry.resolveCluster .usage following cluster) := by
  induction cluster generalizing registry with
  | nil => exact ⟨[], rfl, rfl, plain, List.Subset.refl _, fun _ _ => rfl⟩
  | cons c cluster ih =>
      simp only [resolveCluster]
      rcases plain.byShort_cases (String.ofList ['-', c]) with unknown | ⟨spec, member, short, only⟩
      · have found : registry.findShort (String.ofList ['-', c]) = .ok none := by
          rw [findShort, unknown]
        have new : registry.IsNew (.flag (some (String.ofList ['-', c])) none) := .short unknown
        obtain ⟨flags, settles⟩ := ih (plain.register new rfl)
        rw [found]
        exact ⟨_, settles.after (List.subset_append_left _ _)
          (List.mem_append_right _ (List.mem_singleton_self _)) rfl⟩
      · have found : registry.findShort (String.ofList ['-', c]) = .ok (some spec) := by
          rw [findShort, only]
        obtain ⟨flags, settles⟩ := ih plain
        rw [found]
        simp only [plain.flags spec member, Bool.false_eq_true, if_false]
        exact ⟨_, settles.after (List.Subset.refl _) member short⟩

end Resolution

/-- The options that an option word stands for. -/
def optionsOf (registry : Registry) (word : String) : List OptionSpec :=
  match Expression.Symbol.ofWord word with
  | .long => registry.byLong word
  | .short => registry.byCluster (word.toList.dropWhile (· == '-'))
  | _ => []

/-- An option word that gives no value settles. -/
theorem Plain.exists_optionWord?_settles {registry : Registry} {word : String}
    {following : List String} {resolution : Resolution} (plain : registry.Plain)
    (bare : begins "--" word → '=' ∉ word.toList)
    (resolved : Expression.optionWord? registry word following = some resolution) :
    ∃ flags, registry.Settles following (·.optionsOf word) flags resolution := by
  unfold Expression.optionWord? at resolved
  split at resolved
  · next long =>
      obtain rfl := Option.some.inj resolved
      have dashes := Expression.begins_of_symbol_eq_long long
      simpa only [optionsOf, long] using
        plain.exists_resolveLong_settles dashes (bare dashes) following
  · next short =>
      obtain rfl := Option.some.inj resolved
      simpa only [optionsOf, short, resolveShort] using
        plain.exists_resolveCluster_settles following _
  · cases resolved

end Registry

namespace Expression

/-- The names of the leaves that a word of an expression gives. -/
def leafNamesOf (registry : Registry) (word : String) : List String :=
  match Symbol.ofWord word with
  | .opening _ | .closing _ | .bar | .shortcut => []
  | .argument | .command => [word]
  | .long | .short => (registry.optionsOf word).map OptionSpec.name

/-- Names other than that of the ellipsis, which is a word of its own only where it follows no
atom. -/
def proper (names : List String) : List String :=
  names.filter (· ≠ "...")

theorem proper_append (names others : List String) :
    proper (names ++ others) = proper names ++ proper others :=
  List.filter_append ..

/-- No word that begins with two dashes has a value. -/
def Bare (words : List String) : Prop :=
  ∀ word ∈ words, Registry.begins "--" word → '=' ∉ word.toList

theorem proper_takeEllipsis (registry : Registry) (atom : List Pattern) (following : List String) :
    proper ((takeEllipsis atom following).2.flatMap (leafNamesOf registry)) =
      proper (following.flatMap (leafNamesOf registry)) := by
  cases following with
  | nil => rfl
  | cons word following =>
      simp only [takeEllipsis]
      split
      · next ellipsis =>
          subst ellipsis
          have meaning : Symbol.ofWord "..." = .command := by decide
          have none_proper : proper (leafNamesOf registry "...") = [] := by
            simp [leafNamesOf, meaning, proper]
          rw [List.flatMap_cons, proper_append, none_proper]
          split <;> rfl
      · rfl

theorem flatMap_leafNames_flagPatterns (flags : List ResolvedFlag) :
    (flagPatterns flags).flatMap Pattern.leafNames = flags.map fun flag => flag.spec.name := by
  induction flags with
  | nil => rfl
  | cons flag flags ih => exact congrArg (flag.spec.name :: ·) ih

/-- Where no option takes a value, every word is read by itself. -/
theorem wordsRead_eq {registry : Registry} {words : List String} (plain : registry.Plain)
    (bare : Bare words) : wordsRead registry words = words := by
  induction words generalizing registry with
  | nil => rw [wordsRead]
  | cons word following ih =>
      have bare' : Bare following := fun other member => bare other (List.mem_cons_of_mem _ member)
      cases resolved : optionWord? registry word following with
      | none => rw [wordsRead_cons_of_none resolved, ih plain bare']
      | some resolution =>
          obtain ⟨flags, settles⟩ :=
            plain.exists_optionWord?_settles (bare word List.mem_cons_self) resolved
          rw [wordsRead_cons_of_some resolved, settles.following, ih settles.plain bare']

namespace Position

/-- The options known at a position are plain flags, and no word that is left gives a value. -/
structure Plain (position : Position) : Prop where
  registry : position.registry.Plain
  bare : Bare position.words

variable {before after : Position} {atoms : List Pattern}

/-- A step of plain reading leaves plain reading, and the leaves that it reads have the names that
its words give. -/
structure Names (before : Position) (atoms : List Pattern) (after : Position) : Prop where
  plain : after.Plain
  grows : before.registry.specs ⊆ after.registry.specs
  names {known : Registry} : known.Plain → after.registry.specs ⊆ known.specs →
    proper (before.words.flatMap (leafNamesOf known)) =
      proper (atoms.flatMap Pattern.leafNames) ++ proper (after.words.flatMap (leafNamesOf known))

/-- An atom is plainly read if its leaves have the names that its word gives. -/
theorem names_afterAtom {stack stack' : List (Bracket × Choice)} {choice choice' : Choice}
    {registry registry' : Registry} {word : String} {following : List String}
    {atom : List Pattern} (plain : registry'.Plain) (bare : Bare (word :: following))
    (grows : registry.specs ⊆ registry'.specs)
    (same : ∀ {known : Registry}, known.Plain → registry'.specs ⊆ known.specs →
      leafNamesOf known word = atoms.flatMap Pattern.leafNames) :
    Names ⟨stack, choice, registry, word :: following⟩ atoms
      (afterAtom stack' choice' registry' atom following) := by
  refine ⟨⟨plain, fun other member => ?_⟩, grows, fun known within => ?_⟩
  · exact bare other (List.mem_cons_of_mem _ (takeEllipsis_subset _ _ member))
  · rw [List.flatMap_cons, proper_append, same known within]
    exact congrArg _ (proper_takeEllipsis ..).symm

theorem Step.names (step : Step before atoms after) (plain : before.Plain) :
    Names before atoms after := by
  obtain ⟨known_plain, bare⟩ := plain
  cases step with
  | opening meaning | bar meaning =>
      refine ⟨⟨known_plain, fun other member => bare other (List.mem_cons_of_mem _ member)⟩,
        List.Subset.refl _, fun _ _ => ?_⟩
      simp [leafNamesOf, meaning, proper]
  | closing meaning =>
      exact names_afterAtom known_plain bare (List.Subset.refl _) fun _ _ => by
        simp [leafNamesOf, meaning]
  | leaf reads =>
      refine names_afterAtom known_plain bare (List.Subset.refl _) fun _ _ => ?_
      cases reads with
      | shortcut meaning | argument meaning | command meaning =>
          simp [leafNamesOf, meaning, Pattern.leafNames]
  | options resolved result =>
      obtain ⟨flags, settles⟩ :=
        known_plain.exists_optionWord?_settles (bare _ List.mem_cons_self) resolved
      obtain rfl := Except.ok.inj (settles.result.symm.trans result)
      rw [settles.following]
      refine names_afterAtom settles.plain bare settles.grows fun known within => ?_
      have looked_up := settles.lookup known within
      rcases symbol_of_optionWord? resolved with meaning | meaning <;>
        simp only [leafNamesOf, meaning, looked_up, flatMap_leafNames_flagPatterns,
          List.map_map] <;>
        rfl

theorem Path.names (path : Path before atoms after) (plain : before.Plain) :
    Names before atoms after := by
  induction path with
  | nil => exact ⟨plain, List.Subset.refl _, fun _ _ => rfl⟩
  | cons step later ih =>
      have first := step.names plain
      have rest := ih first.plain
      refine ⟨rest.plain, List.Subset.trans first.grows rest.grows, fun known within => ?_⟩
      rw [first.names known (List.Subset.trans rest.grows within), rest.names known within,
        List.flatMap_append, proper_append, List.append_assoc]

/-- Plain reading does not end at an option word. -/
theorem Plain.not_refused {stack : List (Bracket × Choice)} {choice : Choice} {registry : Registry}
    {word : String} {following : List String} {resolution : Resolution} {error : FlagError}
    (plain : Plain ⟨stack, choice, registry, word :: following⟩)
    (resolved : optionWord? registry word following = some resolution) :
    resolution.result ≠ .error error := by
  obtain ⟨flags, settles⟩ :=
    plain.registry.exists_optionWord?_settles (plain.bare word List.mem_cons_self) resolved
  rw [settles.result]
  nofun

end Position

variable {registry : Registry} {expression : String}

/-- The brackets decide what an expression of flags compiles to. Properly nested, it compiles, and
all its words give leaves, each in its place; otherwise it fails where the scan fails. -/
theorem compile_eq_of_nesting (plain : registry.Plain) (bare : Bare (wordsOf expression)) :
    match nestingOf [] (wordsOf expression) with
    | .stray words => (compile registry expression).result = .error (.unexpectedEnding words)
    | .crossed innermost | .leaves (innermost :: _) =>
      (compile registry expression).result = .error (.unmatched innermost.opener)
    | .leaves [] => ∃ pattern, (compile registry expression).result = .ok pattern ∧
      proper pattern.leafNames = proper ((wordsOf expression).flatMap
        (leafNamesOf (compile registry expression).registry)) := by
  obtain ⟨atoms, last, path, ends⟩ := (Position.start registry (wordsOf expression)).exists_path
  have names := path.names ⟨plain, bare⟩
  have nesting := path.nesting_eq
  simp only [Position.nesting, Position.start, Position.opened, wordsRead_eq plain bare,
    wordsRead_eq names.plain.registry names.plain.bare, List.map_nil] at nesting
  rw [nesting, compile_eq_start]
  generalize (Position.start registry (wordsOf expression)).compile = outcome at ends
  cases ends with
  | @complete choice known =>
      refine ⟨_, rfl, ?_⟩
      rw [Pattern.leafNames_concatenates.required,
        path.flatMap_patterns Pattern.leafNames_concatenates]
      exact ((names.names names.plain.registry (List.Subset.refl _)).trans (List.append_nil _)).symm
  | unclosed => rfl
  | stray meaning =>
      rw [Symbol.ofWord_eq_closing_iff.mp meaning]
      simp only [List.map_nil, nestingOf_closer_of_nil]
      rfl
  | crossed meaning other =>
      rw [Symbol.ofWord_eq_closing_iff.mp meaning]
      simp only [List.map_cons, nestingOf_closer_of_ne other]
      rfl
  | refused resolved failed => exact absurd failed (names.plain.not_refused resolved)

/-- A registry with one flag of two forms. -/
def verboseFlag : Registry :=
  ⟨[.flag (some "-v") (some "--verbose")]⟩

/-- A cluster with a known and a new flag, a choice, an ellipsis and a shortcut: the names of the
leaves stand in the order of the words. -/
theorem compile_eq_of_nesting_verbose :
    verboseFlag.Plain ∧ Bare (wordsOf "(-vq | [--verbose] <x>...) options") ∧
      ∃ pattern, (compile verboseFlag "(-vq | [--verbose] <x>...) options").result = .ok pattern ∧
        proper pattern.leafNames = ["--verbose", "-q", "--verbose", "<x>"] := by
  have plain : verboseFlag.Plain := ⟨by decide, List.pairwise_singleton ..⟩
  have bare : Bare (wordsOf "(-vq | [--verbose] <x>...) options") := by
    unfold Bare
    decide +kernel
  have nested : nestingOf [] (wordsOf "(-vq | [--verbose] <x>...) options") = .leaves [] := by
    decide +kernel
  have names : proper ((wordsOf "(-vq | [--verbose] <x>...) options").flatMap (leafNamesOf
      (compile verboseFlag "(-vq | [--verbose] <x>...) options").registry)) =
        ["--verbose", "-q", "--verbose", "<x>"] := by
    decide +kernel
  have compiled := compile_eq_of_nesting plain bare
  rw [nested, names] at compiled
  exact ⟨plain, bare, compiled⟩

end Expression

end UsageGrammar
