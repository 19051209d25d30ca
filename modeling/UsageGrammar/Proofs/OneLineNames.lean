import UsageGrammar.Proofs.Compilation
import UsageGrammar.Proofs.FollowingWords
import UsageGrammar.Proofs.Lexemes
import UsageGrammar.Proofs.TextLines

/-!
# Names on one line

A name of a grammar holds no line break, although a usage section may go over several lines. The
words of the section are joined by spaces before they are read as an expression, and a declared
form is a word of its declaration. From there on a name is only ever cut out of a word.
-/

namespace UsageGrammar

open Text

/-- A text without a line break. -/
def Text.OneLine (text : String) : Prop :=
  '\n' ∉ text.toList

instance : DecidablePred OneLine := fun text =>
  inferInstanceAs (Decidable ('\n' ∉ text.toList))

namespace Text.OneLine

variable {text : String}

theorem of_subset {part : String} (whole : OneLine text) (within : part.toList ⊆ text.toList) :
    OneLine part :=
  fun newline => whole (within newline)

theorem append {first second : String} (front : OneLine first) (back : OneLine second) :
    OneLine (first ++ second) := by
  simp only [OneLine, String.toList_append, List.mem_append, not_or]
  exact ⟨front, back⟩

theorem of_mem_words {letters word : List Char} (member : word ∈ words letters) :
    OneLine (String.ofList word) := by
  rw [OneLine, String.toList_ofList]
  exact fun newline => by cases eq_false_of_mem_splitOnP (List.mem_of_mem_filter member) _ newline

theorem joined {texts : List String} (each : ∀ text ∈ texts, OneLine text) :
    OneLine (" ".intercalate texts) := by
  cases texts with
  | nil => exact List.not_mem_nil
  | cons first texts =>
      simp only [OneLine, List.forall_mem_cons] at each
      simpa [OneLine, String.toList_intercalate, intercalate_cons] using each

theorem of_mem_wordsOf {word : String} (whole : OneLine text)
    (member : word ∈ Expression.wordsOf text) : OneLine word := by
  have inside :=
    (Expression.lexeme_of_mem_splitWords (Expression.toList_mem_of_mem_wordsOf member)).2
  exact fun newline => whole
    ((Expression.mem_isolate_iff (by decide)).mp (inside.subset newline))

end Text.OneLine

/-- However many lines a usage section has, its expression is on one. -/
theorem expressionOf_oneLine {body : List Char} {formal : String}
    (reduced : expressionOf body = .ok formal) : OneLine formal := by
  unfold expressionOf at reduced
  split at reduced
  · cases reduced
  · obtain rfl := Except.ok.inj reduced
    decide
  · next program rest _ same =>
      obtain rfl := Except.ok.inj reduced
      have each : ∀ word ∈ rest, OneLine word := by
        intro word member
        obtain ⟨letters, listed, rfl⟩ :=
          List.mem_map.mp (same ▸ List.mem_cons_of_mem program member)
        exact .of_mem_words listed
      refine .append (.append (by decide) (.joined fun text member => ?_)) (by decide)
      obtain ⟨word, listed, rfl⟩ := List.mem_map.mp member
      split
      · decide
      · exact each word listed

/-- The forms of an option stand on one line. -/
structure OptionSpec.OneLine (spec : OptionSpec) : Prop where
  long : ∀ form, spec.long = some form → Text.OneLine form
  short : ∀ form, spec.short = some form → Text.OneLine form

namespace OptionSpec.OneLine

variable {spec : OptionSpec}

theorem of_long {form : String} (oneLine : Text.OneLine form) (takesValue : Bool) :
    OptionSpec.OneLine ⟨none, some form, takesValue, none⟩ :=
  ⟨fun _ same => Option.some.inj same ▸ oneLine, fun _ same => (by cases same)⟩

theorem of_short {form : String} (oneLine : Text.OneLine form) :
    OptionSpec.OneLine (.flag (some form) none) :=
  ⟨fun _ same => (by cases same), fun _ same => Option.some.inj same ▸ oneLine⟩

theorem name (oneLine : spec.OneLine) : Text.OneLine spec.name := by
  rcases spec.name_cases with long | ⟨-, short⟩ | unnamed
  · exact oneLine.long _ long
  · exact oneLine.short _ short
  · rw [unnamed]
    exact List.not_mem_nil

theorem declare (oneLine : spec.OneLine) {word : List Char}
    (oneLine' : Text.OneLine (String.ofList word)) : (spec.declare word).OneLine := by
  unfold OptionSpec.declare
  split
  · exact ⟨fun form same => Option.some.inj same ▸ oneLine', oneLine.short⟩
  · exact ⟨oneLine.long, fun form same => Option.some.inj same ▸ oneLine'⟩
  · exact ⟨oneLine.long, oneLine.short⟩

end OptionSpec.OneLine

theorem declaredOption_oneLine (declaration : List Char) : (declaredOption declaration).OneLine := by
  have declared {words : List (List Char)} (each : ∀ word ∈ words, OneLine (String.ofList word))
      {spec : OptionSpec} (oneLine : spec.OneLine) :
      (words.foldl OptionSpec.declare spec).OneLine := by
    induction words generalizing spec with
    | nil => exact oneLine
    | cons word words ih =>
        obtain ⟨here, later⟩ := List.forall_mem_cons.mp each
        exact ih later (oneLine.declare here)
  exact declared (fun word member => .of_mem_words member) ⟨nofun, nofun⟩

namespace Registry

variable {registry : Registry} {reading : Reading} {word : String} {following : List String}

/-- All known options have their forms on one line. -/
def OneLine (registry : Registry) : Prop :=
  ∀ spec ∈ registry.specs, spec.OneLine

theorem ofDoc_oneLine (doc : String) : (ofDoc doc).OneLine := by
  intro spec member
  obtain ⟨_, entry, -, rfl⟩ := exists_entry_of_mem_ofDoc member
  have oneLine := declaredOption_oneLine (splitColumn (splitLine (trim entry)).1).1
  exact ⟨oneLine.long, oneLine.short⟩

theorem OneLine.register (oneLine : registry.OneLine) {spec : OptionSpec}
    (oneLine' : spec.OneLine) : (registry.register spec).OneLine := by
  intro known member
  rcases List.mem_append.mp member with earlier | last
  · exact oneLine known earlier
  · exact List.mem_singleton.mp last ▸ oneLine'

theorem splitAssignment_subset (word : String) :
    (splitAssignment word).1.toList ⊆ word.toList := by
  unfold splitAssignment
  split
  · exact List.Subset.refl _
  · rw [String.toList_ofList]
    exact (List.takeWhile_prefix _).subset

theorem OneLine.resolveLong (oneLine : registry.OneLine) (oneLine' : Text.OneLine word) :
    (registry.resolveLong reading word following).registry.OneLine := by
  have form := oneLine'.of_subset (splitAssignment_subset word)
  simp only [Registry.resolveLong]
  split
  · exact oneLine
  · exact oneLine.register (.of_long form _)
  · split
    · exact oneLine
    · split <;> exact oneLine
    · exact oneLine

theorem OneLine.resolveCluster (oneLine : registry.OneLine) {cluster : List Char}
    (oneLine' : '\n' ∉ cluster) :
    (registry.resolveCluster reading following cluster).registry.OneLine := by
  induction cluster generalizing registry with
  | nil => exact oneLine
  | cons c cluster ih =>
      obtain ⟨here, later⟩ := not_or.mp (mt List.mem_cons.mpr oneLine')
      simp only [Registry.resolveCluster]
      split
      · exact oneLine
      · have form : Text.OneLine (String.ofList ['-', c]) := by
          simpa [Text.OneLine] using here
        exact ih (oneLine.register (.of_short form)) later
      · split
        · split
          · split <;> exact oneLine
          · exact oneLine
        · exact ih oneLine later

theorem OneLine.resolveShort (oneLine : registry.OneLine) (oneLine' : Text.OneLine word) :
    (registry.resolveShort reading word following).registry.OneLine :=
  oneLine.resolveCluster fun newline => oneLine' ((List.dropWhile_suffix _).subset newline)

end Registry

namespace Expression

variable {registry : Registry} {word : String} {following : List String}
  {resolution : Resolution}

theorem optionWord?_oneLine (resolved : optionWord? registry word following = some resolution)
    (oneLine : registry.OneLine) (oneLine' : OneLine word) : resolution.registry.OneLine := by
  unfold optionWord? at resolved
  split at resolved
  · exact Option.some.inj resolved ▸ oneLine.resolveLong oneLine'
  · exact Option.some.inj resolved ▸ oneLine.resolveShort oneLine'
  · cases resolved

theorem optionWord?_following_subset
    (resolved : optionWord? registry word following = some resolution) :
    resolution.following ⊆ following := by
  unfold optionWord? at resolved
  split at resolved
  · exact Option.some.inj resolved ▸ ((registry.resolveLong_uses .usage word).suffix _).subset
  · exact Option.some.inj resolved ▸ ((registry.resolveShort_uses .usage word).suffix _).subset
  · cases resolved

namespace Position

/-- The words that are left and the known options are on one line. -/
structure OneLine (position : Position) : Prop where
  words : ∀ word ∈ position.words, Text.OneLine word
  registry : position.registry.OneLine

variable {before after : Position} {atoms : List Pattern}

theorem OneLine.afterAtom {stack : List (Bracket × Choice)} {choice : Choice}
    {registry : Registry} {atom : List Pattern} {following : List String}
    (oneLine : registry.OneLine) (words : ∀ word ∈ following, Text.OneLine word) :
    OneLine (afterAtom stack choice registry atom following) :=
  ⟨fun word left => words word (takeEllipsis_subset atom following left), oneLine⟩

/-- A step leaves words of those before it, and registers at most what a word spells. -/
theorem Step.oneLine (step : Step before atoms after) (oneLine : before.OneLine) :
    after.OneLine := by
  obtain ⟨words, registry⟩ := oneLine
  cases step with
  | opening | bar => exact ⟨(List.forall_mem_cons.mp words).2, registry⟩
  | closing | leaf => exact .afterAtom registry (List.forall_mem_cons.mp words).2
  | options resolved =>
      obtain ⟨here, later⟩ := List.forall_mem_cons.mp words
      refine .afterAtom (optionWord?_oneLine resolved registry here) fun word left => ?_
      exact later word (optionWord?_following_subset resolved left)

theorem Step.options_subset (step : Step before atoms after) :
    atoms.flatMap Pattern.options ⊆ after.registry.specs := by
  obtain ⟨met, collects⟩ := step.exists_collects
  rw [collects.options]
  intro spec member
  obtain ⟨flag, encountered, rfl⟩ := List.mem_map.mp member
  exact collects.path.mem encountered

/-- The leaves that a step reads are named on one line. -/
theorem Step.oneLine_names (step : Step before atoms after) (oneLine : before.OneLine) :
    ∀ slot ∈ atoms.flatMap Pattern.leafSlots, Text.OneLine slot.name := by
  have known := step.options_subset
  have oneLine' := (step.oneLine oneLine).registry
  intro slot member
  cases step with
  | opening | closing | bar => cases member
  | leaf reads =>
      have here := (List.forall_mem_cons.mp oneLine.words).1
      cases reads with
      | shortcut => cases member
      | argument | command => exact List.mem_singleton.mp member ▸ here
  | options =>
      obtain ⟨atom, read, asked⟩ := List.mem_flatMap.mp member
      obtain ⟨flag, resolved, rfl⟩ := List.mem_map.mp read
      obtain rfl := List.mem_singleton.mp asked
      rw [flatMap_options_flagPatterns] at known
      exact (oneLine' _ (known (List.mem_map_of_mem resolved))).name

theorem Path.oneLine_names (path : Path before atoms after) (oneLine : before.OneLine) :
    ∀ slot ∈ atoms.flatMap Pattern.leafSlots, Text.OneLine slot.name := by
  induction path with
  | nil => nofun
  | cons step _ ih =>
      intro slot member
      rw [List.flatMap_append] at member
      exact (List.mem_append.mp member).elim (step.oneLine_names oneLine slot)
        (ih (step.oneLine oneLine) slot)

end Position

theorem oneLine_names_of_compile {expression : String} {pattern : Pattern}
    (compiled : (compile registry expression).result = .ok pattern) (oneLine : registry.OneLine)
    (oneLine' : OneLine expression) : ∀ slot ∈ pattern.leafSlots, OneLine slot.name := by
  obtain ⟨atoms, choice, known, path, rfl⟩ := exists_path_of_compile compiled
  rw [Pattern.leafSlots_concatenates.required,
    path.flatMap_patterns Pattern.leafSlots_concatenates]
  exact path.oneLine_names ⟨fun word => oneLine'.of_mem_wordsOf, oneLine⟩

end Expression

namespace Usage

variable {doc : String} {usage : Usage}

/-- The names of a compiled document stand on one line. -/
theorem Compiled.oneLine_names (compiled : Compiled doc usage) :
    ∀ name ∈ usage.grammar.names, OneLine name := by
  obtain ⟨unresolved, result, resolved⟩ := compiled.pattern
  intro name named
  obtain ⟨slot, member, rfl⟩ := List.mem_map.mp named
  rw [compiled.grammar] at member
  obtain ⟨leaf, asked, rfl⟩ := Grammar.exists_leafSlot member
  rw [Pattern.typeRepetition_name]
  rw [resolved] at asked
  rcases Pattern.mem_leafSlots_fillShortcuts unresolved asked with ⟨written, -⟩ | ⟨spec, filled, rfl⟩
  · exact Expression.oneLine_names_of_compile result (Registry.ofDoc_oneLine doc)
      (expressionOf_oneLine compiled.formal) leaf written
  · exact (Registry.ofDoc_oneLine doc spec (Pattern.mem_of_mem_unmentioned filled)).name

end Usage

end UsageGrammar
