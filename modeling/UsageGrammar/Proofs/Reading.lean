import UsageGrammar.Expression
import UsageGrammar.Grammar.OfPattern

/-!
# Reading an expression

An expression is read in steps. A step opens or closes a bracket, begins a new branch, or reads an
atom together with the ellipsis that may follow it. Compiling is to follow the steps until the words
are used up or one of them cannot be read. What a compiled pattern shows of its leaves is therefore
what the atoms show, in the order in which they were read.
-/

namespace UsageGrammar

namespace Expression

/-- The word that closes a bracket. -/
def Bracket.closer : Bracket → String
  | round => ")"
  | square => "]"

namespace Symbol

variable {word fixed : String} {bracket : Bracket}

/-- The only word with a meaning, where there is only one. -/
def word? : Symbol → Option String
  | opening bracket => some bracket.opener
  | closing bracket => some bracket.closer
  | bar => some "|"
  | shortcut => some "options"
  | long | short | argument | command => none

/-- The word stands for options. -/
def isOption : Symbol → Bool
  | long | short => true
  | _ => false

/-- What a word can mean: six words have a meaning of their own, and the shape of any other decides
whether it is an option. -/
inductive Means (word : String) : Symbol → Prop
  | fixed {symbol : Symbol} : symbol.word? = some word → Means word symbol
  | long : WordShape.ofWord word = .long → Means word long
  | short : WordShape.ofWord word = .short → Means word short
  | argument : isArgumentName word → Means word argument
  | command : ¬ isArgumentName word → Means word command

theorem means_ofWord (word : String) : Means word (ofWord word) := by
  unfold ofWord
  iterate 6
    split
    · next same => exact .fixed (same ▸ rfl)
  split
  · next shape => exact .long shape
  · next shape => exact .short shape
  · split
    · next name => exact .argument name
    · next plain => exact .command plain

theorem eq_of_word?_ofWord (only : (ofWord word).word? = some fixed) : word = fixed := by
  have means := means_ofWord word
  generalize ofWord word = symbol at only means
  cases means with
  | fixed same => exact Option.some.inj (same.symm.trans only)
  | long | short | argument | command => cases only

theorem ofWord_eq_opening_iff : ofWord word = .opening bracket ↔ word = bracket.opener := by
  refine ⟨fun meaning => eq_of_word?_ofWord (by rw [meaning]; rfl), ?_⟩
  rintro rfl
  cases bracket <;> decide

theorem ofWord_eq_closing_iff : ofWord word = .closing bracket ↔ word = bracket.closer := by
  refine ⟨fun meaning => eq_of_word?_ofWord (by rw [meaning]; rfl), ?_⟩
  rintro rfl
  cases bracket <;> decide

theorem ofWord_eq_bar_iff : ofWord word = .bar ↔ word = "|" := by
  refine ⟨fun meaning => eq_of_word?_ofWord (by rw [meaning]; rfl), ?_⟩
  rintro rfl
  decide

end Symbol

theorem takeEllipsis_subset (atom : List Pattern) (following : List String) :
    (takeEllipsis atom following).2 ⊆ following := by
  cases following with
  | nil => exact List.Subset.refl _
  | cons word following =>
      simp only [takeEllipsis]
      split
      · split <;> exact List.subset_cons_self ..
      · exact List.Subset.refl _

/-- What an option word resolves to; other words are no option words. -/
def optionWord? (registry : Registry) (word : String) (following : List String) :
    Option Resolution :=
  match Symbol.ofWord word with
  | .long => some (registry.resolveLong .usage word following)
  | .short => some (registry.resolveShort .usage word following)
  | _ => none

section OptionWord

variable {registry : Registry} {word : String} {following : List String}

theorem optionWord?_eq_none {symbol : Symbol} (meaning : Symbol.ofWord word = symbol)
    (plain : symbol.isOption = false) : optionWord? registry word following = none := by
  subst meaning
  unfold optionWord?
  split
  · next long => simp [long, Symbol.isOption] at plain
  · next short => simp [short, Symbol.isOption] at plain
  · rfl

theorem symbol_of_optionWord? {resolution : Resolution}
    (resolved : optionWord? registry word following = some resolution) :
    Symbol.ofWord word = .long ∨ Symbol.ofWord word = .short := by
  unfold optionWord? at resolved
  split at resolved
  · next long => exact .inl long
  · next short => exact .inr short
  · cases resolved

end OptionWord

/-- A word that stands for a pattern by itself. -/
inductive ReadsAs : String → Pattern → Prop
  | shortcut {word : String} : Symbol.ofWord word = .shortcut → ReadsAs word (.shortcut [])
  | argument {word : String} : Symbol.ofWord word = .argument → ReadsAs word (.argument word)
  | command {word : String} : Symbol.ofWord word = .command → ReadsAs word (.command word)

/-- How far an expression has been read: the open brackets with what stood before them, what stands
inside the innermost, the known options, and the words that are left. -/
structure Position where
  stack : List (Bracket × Choice)
  choice : Choice
  registry : Registry
  words : List String

namespace Position

/-- Compiles the words that are left. -/
def compile (position : Position) : Compiled (List Pattern) :=
  compileWords position.stack position.choice position.registry position.words

/-- The open brackets, the innermost first. -/
def opened (position : Position) : List Bracket :=
  position.stack.map Prod.fst

/-- The position after an atom and the ellipsis that may follow it. -/
def afterAtom (stack : List (Bracket × Choice)) (choice : Choice) (registry : Registry)
    (atom : List Pattern) (following : List String) : Position :=
  ⟨stack, choice.push (takeEllipsis atom following).1, registry,
    (takeEllipsis atom following).2⟩

/-- A step, with the leaves that it reads. -/
inductive Step : Position → List Pattern → Position → Prop
  | opening {stack choice registry word following} {bracket : Bracket} :
      Symbol.ofWord word = .opening bracket →
      Step ⟨stack, choice, registry, word :: following⟩ []
        ⟨(bracket, choice) :: stack, .empty, registry, following⟩
  | closing {stack outer choice registry word following} {bracket : Bracket} :
      Symbol.ofWord word = .closing bracket →
      Step ⟨(bracket, outer) :: stack, choice, registry, word :: following⟩ []
        (afterAtom stack outer registry [bracket.group choice.patterns] following)
  | bar {stack choice registry word following} :
      Symbol.ofWord word = .bar →
      Step ⟨stack, choice, registry, word :: following⟩ [] ⟨stack, choice.bar, registry, following⟩
  | leaf {stack choice registry word following} {atom : Pattern} :
      ReadsAs word atom →
      Step ⟨stack, choice, registry, word :: following⟩ [atom]
        (afterAtom stack choice registry [atom] following)
  | options {stack choice registry word following} {resolution : Resolution}
      {flags : List ResolvedFlag} :
      optionWord? registry word following = some resolution → resolution.result = .ok flags →
      Step ⟨stack, choice, registry, word :: following⟩ (flagPatterns flags)
        (afterAtom stack choice resolution.registry (flagPatterns flags) resolution.following)

/-- A position from which no step leads on, with what comes of the reading. -/
inductive Ends : Position → Compiled (List Pattern) → Prop
  | complete {choice registry} :
      Ends ⟨[], choice, registry, []⟩ ⟨.ok choice.patterns, registry⟩
  | unclosed {stack outer choice registry} {bracket : Bracket} :
      Ends ⟨(bracket, outer) :: stack, choice, registry, []⟩
        ⟨.error (.unmatched bracket.opener), registry⟩
  | stray {choice registry word following} {bracket : Bracket} :
      Symbol.ofWord word = .closing bracket →
      Ends ⟨[], choice, registry, word :: following⟩
        ⟨.error (.unexpectedEnding (word :: following)), registry⟩
  | crossed {stack outer choice registry word following} {opened bracket : Bracket} :
      Symbol.ofWord word = .closing bracket → opened ≠ bracket →
      Ends ⟨(opened, outer) :: stack, choice, registry, word :: following⟩
        ⟨.error (.unmatched opened.opener), registry⟩
  | refused {stack choice registry word following} {resolution : Resolution}
      {error : FlagError} :
      optionWord? registry word following = some resolution → resolution.result = .error error →
      Ends ⟨stack, choice, registry, word :: following⟩
        ⟨.error (.flag error), resolution.registry⟩

/-- Steps one after another, with all leaves that they read. -/
inductive Path : Position → List Pattern → Position → Prop
  | nil {position : Position} : Path position [] position
  | cons {before middle after : Position} {atoms later : List Pattern} :
      Step before atoms middle → Path middle later after → Path before (atoms ++ later) after

variable {before middle after : Position} {atoms later : List Pattern}

theorem Step.compile_eq (step : Step before atoms after) : before.compile = after.compile := by
  cases step with
  | opening meaning | bar meaning => simp only [compile, compileWords, meaning]
  | closing meaning => simp only [compile, compileWords, meaning, if_pos, afterAtom]
  | leaf reads => cases reads <;> simp only [compile, compileWords, afterAtom, *]
  | @options stack choice registry word following resolution flags resolved result =>
      unfold optionWord? at resolved
      split at resolved
      · next meaning =>
          obtain rfl := Option.some.inj resolved
          simp only [compile, compileWords, meaning, result, afterAtom]
      · next meaning =>
          obtain rfl := Option.some.inj resolved
          simp only [compile, compileWords, meaning, result, afterAtom]
      · cases resolved

namespace Path

theorem single (step : Step before atoms after) : Path before atoms after := by
  simpa using Path.cons step .nil

theorem append (first : Path before atoms middle) (second : Path middle later after) :
    Path before (atoms ++ later) after := by
  induction first with
  | nil => exact second
  | cons step _ ih => simpa [List.append_assoc] using Path.cons step (ih second)

theorem compile_eq (path : Path before atoms after) : before.compile = after.compile := by
  induction path with
  | nil => rfl
  | cons step _ ih => exact step.compile_eq.trans ih

end Path

/-- Compiling follows the steps to a position where the reading ends. -/
theorem exists_path (position : Position) :
    ∃ atoms last, Path position atoms last ∧ last.Ends position.compile := by
  obtain ⟨stack, choice, registry, words⟩ := position
  simp only [compile]
  fun_induction compileWords stack choice registry words with
  | case1 choice registry => exact ⟨[], _, .nil, .complete⟩
  | case2 choice registry bracket outer stack => exact ⟨[], _, .nil, .unclosed⟩
  | case3 stack choice registry word following bracket meaning ih =>
      obtain ⟨atoms, last, path, ends⟩ := ih
      exact ⟨_, last, .cons (.opening meaning) path, ends⟩
  | case4 choice registry word following bracket meaning =>
      exact ⟨[], _, .nil, .stray meaning⟩
  | case5 choice registry word following bracket outer stack meaning taken ih =>
      obtain ⟨atoms, last, path, ends⟩ := ih
      exact ⟨_, last, .cons (.closing meaning) path, ends⟩
  | case6 choice registry word following bracket meaning opened outer stack different =>
      exact ⟨[], _, .nil, .crossed meaning different⟩
  | case7 stack choice registry word following meaning ih =>
      obtain ⟨atoms, last, path, ends⟩ := ih
      exact ⟨_, last, .cons (.bar meaning) path, ends⟩
  | case8 stack choice registry word following meaning taken ih =>
      obtain ⟨atoms, last, path, ends⟩ := ih
      exact ⟨_, last, .cons (.leaf (.shortcut meaning)) path, ends⟩
  | case9 stack choice registry word following meaning taken ih =>
      obtain ⟨atoms, last, path, ends⟩ := ih
      exact ⟨_, last, .cons (.leaf (.argument meaning)) path, ends⟩
  | case10 stack choice registry word following meaning taken ih =>
      obtain ⟨atoms, last, path, ends⟩ := ih
      exact ⟨_, last, .cons (.leaf (.command meaning)) path, ends⟩
  | case11 stack choice registry word following meaning resolution error failed
  | case13 stack choice registry word following meaning resolution error failed =>
      exact ⟨[], _, .nil, .refused (by simp only [optionWord?, meaning]; rfl) failed⟩
  | case12 stack choice registry word following meaning resolution flags result taken ih
  | case14 stack choice registry word following meaning resolution flags result taken ih =>
      obtain ⟨atoms, last, path, ends⟩ := ih
      exact ⟨_, last, .cons (.options (by simp only [optionWord?, meaning]; rfl) result) path, ends⟩

end Position

end Expression

/-- A node shows what its children show, from left to right. -/
structure Pattern.Concatenates {α : Type} (view : Pattern → List α) : Prop where
  required (children : List Pattern) : view (.required children) = children.flatMap view
  optional (children : List Pattern) : view (.optional children) = children.flatMap view
  either (children : List Pattern) : view (.either children) = children.flatMap view
  repeatable (child : Pattern) : view (.repeatable child) = view child

namespace Pattern

theorem leafSlotsOfAll_eq (children : List Pattern) :
    leafSlotsOfAll children = children.flatMap leafSlots := by
  induction children with
  | nil => rfl
  | cons child children ih => simp [leafSlotsOfAll, ih]

theorem leafSlots_concatenates : Concatenates leafSlots where
  required := leafSlotsOfAll_eq
  optional := leafSlotsOfAll_eq
  either := leafSlotsOfAll_eq
  repeatable _ := rfl

theorem leafNames_concatenates : Concatenates leafNames where
  required := leafNamesOfAll_eq
  optional := leafNamesOfAll_eq
  either := leafNamesOfAll_eq
  repeatable _ := rfl

end Pattern

namespace Expression

variable {α : Type} {view : Pattern → List α}

theorem flatMap_takeEllipsis (concatenates : Pattern.Concatenates view) (atom : List Pattern)
    (following : List String) :
    (takeEllipsis atom following).1.flatMap view = atom.flatMap view := by
  cases following with
  | nil => rfl
  | cons word following =>
      simp only [takeEllipsis]
      split
      · split <;> simp [concatenates.repeatable, concatenates.required]
      · rfl

theorem Bracket.view_group (concatenates : Pattern.Concatenates view) (bracket : Bracket)
    (patterns : List Pattern) : view (bracket.group patterns) = patterns.flatMap view := by
  cases bracket
  · exact concatenates.required patterns
  · exact concatenates.optional patterns

namespace Choice

/-- The sequences of a choice, from left to right. -/
def sequences (choice : Choice) : List (List Pattern) :=
  choice.earlier ++ [choice.current]

theorem sequences_bar (choice : Choice) : choice.bar.sequences = choice.sequences ++ [[]] := rfl

/-- What the sequences of a choice show, from left to right. -/
def shown (view : Pattern → List α) (choice : Choice) : List α :=
  choice.earlier.flatMap (·.flatMap view) ++ choice.current.flatMap view

@[simp]
theorem shown_push (choice : Choice) (atom : List Pattern) :
    (choice.push atom).shown view = choice.shown view ++ atom.flatMap view := by
  simp [shown, push]

@[simp]
theorem shown_bar (choice : Choice) : choice.bar.shown view = choice.shown view := by
  simp [shown, bar]

theorem flatMap_branch (concatenates : Pattern.Concatenates view) (sequence : List Pattern) :
    (branch sequence).flatMap view = sequence.flatMap view := by
  unfold branch
  split <;> simp [concatenates.required]

theorem flatMap_patterns (concatenates : Pattern.Concatenates view) (choice : Choice) :
    choice.patterns.flatMap view = choice.shown view := by
  unfold patterns shown
  split
  · next none_earlier => simp [none_earlier]
  · have all : ((choice.earlier ++ [choice.current]).flatMap branch).flatMap view =
        choice.earlier.flatMap (·.flatMap view) ++ choice.current.flatMap view := by
      simp [List.flatMap_assoc, flatMap_branch concatenates]
    split
    · next same => rw [← all, same]
    · next same => rw [← all, same]
    · simpa [concatenates.either] using all

end Choice

namespace Position

/-- What has been read shows: first what stands before the open brackets, then what stands inside
the innermost. -/
def openShown (view : Pattern → List α) : List (Bracket × Choice) → Choice → List α
  | [], choice => choice.shown view
  | (_, outer) :: stack, choice => openShown view stack outer ++ choice.shown view

/-- What has been read at a position shows. -/
def shown (view : Pattern → List α) (position : Position) : List α :=
  openShown view position.stack position.choice

theorem openShown_push (stack : List (Bracket × Choice)) (choice : Choice)
    (atom : List Pattern) :
    openShown view stack (choice.push atom) = openShown view stack choice ++ atom.flatMap view := by
  cases stack <;> simp [openShown]

theorem shown_afterAtom (concatenates : Pattern.Concatenates view)
    (stack : List (Bracket × Choice)) (choice : Choice) (registry : Registry)
    (atom : List Pattern) (following : List String) :
    (afterAtom stack choice registry atom following).shown view =
      openShown view stack choice ++ atom.flatMap view := by
  simp only [afterAtom, shown]
  rw [openShown_push, flatMap_takeEllipsis concatenates]

variable {before after last : Position} {atoms : List Pattern}

/-- A step adds what its leaves show. -/
theorem Step.shown_eq (concatenates : Pattern.Concatenates view) (step : Step before atoms after) :
    after.shown view = before.shown view ++ atoms.flatMap view := by
  cases step with
  | opening => simp [shown, openShown, Choice.shown, Choice.empty]
  | closing =>
      rw [shown_afterAtom concatenates]
      simp [shown, openShown, Bracket.view_group concatenates, Choice.flatMap_patterns concatenates]
  | @bar stack choice => cases stack <;> simp [shown, openShown]
  | leaf => exact shown_afterAtom concatenates ..
  | options => exact shown_afterAtom concatenates ..

theorem Path.shown_eq (concatenates : Pattern.Concatenates view) (path : Path before atoms after) :
    after.shown view = before.shown view ++ atoms.flatMap view := by
  induction path with
  | nil => simp
  | cons step _ ih => simp [ih, step.shown_eq concatenates]

/-- The position before anything has been read. -/
def start (registry : Registry) (words : List String) : Position :=
  ⟨[], .empty, registry, words⟩

/-- A complete reading shows what its leaves show, in the order in which they were read. -/
theorem Path.flatMap_patterns (concatenates : Pattern.Concatenates view) {registry known : Registry}
    {words : List String} {choice : Choice}
    (path : (start registry words).Path atoms ⟨[], choice, known, []⟩) :
    choice.patterns.flatMap view = atoms.flatMap view := by
  rw [Choice.flatMap_patterns concatenates]
  exact path.shown_eq concatenates

end Position

theorem compile_eq_start (registry : Registry) (expression : String) :
    compile registry expression =
      ⟨(Position.start registry (wordsOf expression)).compile.result.map .required,
        (Position.start registry (wordsOf expression)).compile.registry⟩ := rfl

theorem exists_path_of_compile {registry : Registry} {expression : String} {pattern : Pattern}
    (compiled : (compile registry expression).result = .ok pattern) :
    ∃ atoms choice known,
      (Position.start registry (wordsOf expression)).Path atoms ⟨[], choice, known, []⟩ ∧
        pattern = .required choice.patterns := by
  obtain ⟨atoms, last, path, ends⟩ := (Position.start registry (wordsOf expression)).exists_path
  rw [compile_eq_start] at compiled
  generalize (Position.start registry (wordsOf expression)).compile = outcome at ends compiled
  cases ends with
  | complete => exact ⟨atoms, _, _, path, (Except.ok.inj compiled).symm⟩
  | unclosed | stray | crossed | refused => cases compiled

end Expression

end UsageGrammar
