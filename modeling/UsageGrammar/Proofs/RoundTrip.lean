import UsageGrammar.Proofs.PlainNames

/-!
# Round trip

A printed pattern compiles to the pattern again, except that a choice comes back inside a bracket of
its own and a shortcut comes back optional and not filled. For this the names have to be words
that the notation leaves alone, and each option has to be known by a form of its own. The notation
of such a pattern is read as one atom wherever it stands, which is shown for each kind of pattern
from its parts.
-/

namespace UsageGrammar

open Expression

namespace Pattern

/-- The pattern is a repetition. -/
def isRepeatable : Pattern → Bool
  | repeatable _ => true
  | _ => false

/-- The notation of a pattern tells its names, its options and its structure. -/
inductive Legible (registry : Registry) : Pattern → Prop
  | option {spec : OptionSpec} : registry.Spells spec → Legible registry (option spec)
  | placeholder {word : String} : PlainWord word →
      Legible registry (argument ("<" ++ word ++ ">"))
  | capital {word : String} : PlainWord word → isCapital word →
      Legible registry (argument word)
  | command {word : String} : PlainWord word → ¬ isCapital word → word ≠ "options" →
      Legible registry (command word)
  | required {children : List Pattern} : (∀ child ∈ children, Legible registry child) →
      Legible registry (required children)
  | optional {children : List Pattern} : (∀ child ∈ children, Legible registry child) →
      Legible registry (optional children)
  | either {children : List Pattern} : 2 ≤ children.length →
      (∀ child ∈ children, Legible registry child) → Legible registry (either children)
  | repeatable {child : Pattern} : child.isRepeatable = false → Legible registry child →
      Legible registry (repeatable child)
  | shortcut (specs : List OptionSpec) : Legible registry (shortcut specs)

mutual

/-- The pattern that the notation of a pattern is read as: a choice is put in a bracket, and a
shortcut is optional and not filled. -/
def reread : Pattern → Pattern
  | option spec => option spec
  | argument name => argument name
  | command name => command name
  | required children => required (rereadAll children)
  | optional children => optional (rereadAll children)
  | either children => required [either (rereadAll children)]
  | repeatable child => repeatable child.reread
  | shortcut _ => optional [shortcut []]

/-- Each of several patterns as its notation is read. -/
def rereadAll : List Pattern → List Pattern
  | [] => []
  | child :: children => child.reread :: rereadAll children

end

theorem rereadAll_eq (children : List Pattern) : rereadAll children = children.map reread := by
  induction children with
  | nil => rfl
  | cons child children ih => simp [rereadAll, ih]

end Pattern

/-- A text in a bracket, with a space at either side. -/
def Expression.Bracket.enclose (bracket : Bracket) (inner : String) : String :=
  bracket.opener ++ " " ++ inner ++ " " ++ bracket.closer

namespace Expression.Bracket

variable {inner : String}

theorem closesPlaceholders_enclose (bracket : Bracket)
    (closed : closesPlaceholders inner.toList) :
    closesPlaceholders (bracket.enclose inner).toList := by
  simp only [enclose, String.toList_append]
  have opening : closesPlaceholders (bracket.opener.toList ++ " ".toList) := by
    cases bracket <;> decide
  have closing : closesPlaceholders bracket.closer.toList := by
    cases bracket <;> decide
  have through := closesPlaceholders_append opening closed
  exact closesPlaceholders_append (closesPlaceholders_append through (by decide)) closing

theorem getLast?_enclose (bracket : Bracket) (inner : String) :
    (bracket.enclose inner).toList.getLast? ≠ some '.' := by
  rw [enclose, String.toList_append, List.getLast?_append]
  cases bracket <;> simp [closer]

theorem opener_ne_ellipsis (bracket : Bracket) : bracket.opener ≠ "..." := by
  cases bracket <;> decide

theorem closer_ne_ellipsis (bracket : Bracket) : bracket.closer ≠ "..." := by
  cases bracket <;> decide

theorem wordsOf_enclose (bracket : Bracket) (closed : closesPlaceholders inner.toList) :
    wordsOf (bracket.enclose inner) = bracket.opener :: (wordsOf inner ++ [bracket.closer]) := by
  have whole : bracket.enclose inner =
      bracket.opener ++ " " ++ (inner ++ " " ++ bracket.closer) := by
    simp [enclose, ← String.toList_inj]
  have opener_closed : closesPlaceholders bracket.opener.toList := by
    cases bracket <;> decide
  have opener_words : wordsOf bracket.opener = [bracket.opener] := by
    cases bracket <;> decide +kernel
  have closer_words : wordsOf bracket.closer = [bracket.closer] := by
    cases bracket <;> decide +kernel
  rw [whole, wordsOf_append opener_closed, wordsOf_append closed, opener_words, closer_words]
  rfl

end Expression.Bracket

namespace Pattern

theorem render_group (bracket : Bracket) (children : List Pattern) :
    (bracket.group children).render = bracket.enclose (" ".intercalate (children.map render)) := by
  cases bracket <;>
    simp [Bracket.group, render, renderAll_eq, Bracket.enclose, Bracket.opener, Bracket.closer,
      ← String.toList_inj]

theorem render_either (children : List Pattern) :
    (either children).render = Bracket.round.enclose (" | ".intercalate (children.map render)) := by
  simp [render, renderAll_eq, Bracket.enclose, Bracket.opener, Bracket.closer,
    ← String.toList_inj]

theorem reread_group (bracket : Bracket) (children : List Pattern) :
    (bracket.group children).reread = bracket.group (children.map reread) := by
  cases bracket <;> rw [← rereadAll_eq] <;> simp [Bracket.group, reread]

end Pattern

theorem Expression.Choice.patterns_eq_either {choice : Choice} {branches : List Pattern}
    (several : 2 ≤ branches.length) (sequences : choice.sequences = branches.map ([·])) :
    choice.patterns = [.either branches] := by
  have bars : choice.earlier ≠ [] := by
    intro none_earlier
    have lengths := congrArg List.length sequences
    simp [Choice.sequences, none_earlier] at lengths
    omega
  have all : choice.sequences.flatMap branch = branches := by
    rw [sequences, List.flatMap_map]
    exact List.flatMap_singleton' _
  unfold Choice.patterns
  split
  · next none_earlier => exact absurd none_earlier bars
  · rw [← Choice.sequences, all]
    split
    · simp at several
    · simp at several
    · rfl

/-- The notation of a pattern is read as one atom wherever it stands. Only behind a repetition an
ellipsis would be read as an atom of its own. -/
structure Pattern.ReadsBack (registry : Registry) (pattern : Pattern) : Prop where
  closed : closesPlaceholders pattern.render.toList
  last : pattern.isRepeatable = false → pattern.render.toList.getLast? ≠ some '.'
  head (rest : List String) : (wordsOf pattern.render ++ rest).head? ≠ some "..."
  path (stack : List (Bracket × Choice)) (choice : Choice) (rest : List String) :
    (pattern.isRepeatable → rest.head? ≠ some "...") →
    ∃ atoms, Position.Path ⟨stack, choice, registry, wordsOf pattern.render ++ rest⟩ atoms
      (.afterAtom stack choice registry [pattern.reread] rest)

namespace Pattern.ReadsBack

variable {registry : Registry} {pattern child : Pattern} {children : List Pattern}
  {rest : List String}

theorem of_leaf (single : SingleWord pattern.render.toList)
    (step : ∀ stack choice rest, ∃ atoms,
      Position.Step ⟨stack, choice, registry, pattern.render :: rest⟩ atoms
        (.afterAtom stack choice registry [pattern.reread] rest)) :
    ReadsBack registry pattern := by
  have words := single.wordsOf_eq
  refine ⟨single.closesPlaceholders, fun _ => single.getLast?_ne_dot, fun rest => ?_,
    fun stack choice rest _ => ?_⟩
  · rw [words]
    intro same
    have ellipsis : pattern.render = "..." := Option.some.inj same
    rw [ellipsis] at single
    exact single.getLast?_ne_dot (by decide)
  · obtain ⟨atoms, step⟩ := step stack choice rest
    rw [words]
    exact ⟨atoms, .single step⟩

theorem of_name {word : String} (single : SingleWord word.toList) (printed : pattern.render = word)
    (reads : ReadsAs word pattern.reread) : ReadsBack registry pattern := by
  refine of_leaf (printed ▸ single) fun stack choice rest => ?_
  rw [printed]
  exact ⟨_, .leaf reads⟩

/-- What stands in a bracket is read by itself, and the bracket is then one atom. -/
theorem of_group (bracket : Bracket) {inner : List String}
    (closed : closesPlaceholders pattern.render.toList)
    (last : pattern.render.toList.getLast? ≠ some '.')
    (words : wordsOf pattern.render = bracket.opener :: (inner ++ [bracket.closer]))
    (inside : ∀ stack rest, rest.head? ≠ some "..." → ∃ atoms choice,
      Position.Path ⟨stack, .empty, registry, inner ++ rest⟩ atoms
        ⟨stack, choice, registry, rest⟩ ∧ bracket.group choice.patterns = pattern.reread) :
    ReadsBack registry pattern := by
  have opening : Symbol.ofWord bracket.opener = .opening bracket :=
    Symbol.ofWord_eq_opening_iff.mpr rfl
  have closing : Symbol.ofWord bracket.closer = .closing bracket :=
    Symbol.ofWord_eq_closing_iff.mpr rfl
  refine ⟨closed, fun _ => last, fun rest => ?_, fun stack choice rest _ => ?_⟩
  · rw [words]
    exact fun same => bracket.opener_ne_ellipsis (Option.some.inj same)
  · have apart : (bracket.closer :: rest).head? ≠ some "..." :=
      fun same => bracket.closer_ne_ellipsis (Option.some.inj same)
    obtain ⟨atoms, within, path, group⟩ :=
      inside ((bracket, choice) :: stack) (bracket.closer :: rest) apart
    have whole : wordsOf pattern.render ++ rest =
        bracket.opener :: (inner ++ bracket.closer :: rest) := by
      rw [words, List.cons_append, List.append_assoc]
      rfl
    rw [whole, ← group]
    exact ⟨_, .cons (.opening opening) (path.append (.single (.closing closing)))⟩

theorem takeEllipsis_eq_self (apart : rest.head? ≠ some "...") (atom : List Pattern) :
    takeEllipsis atom rest = (atom, rest) := by
  cases rest with
  | nil => rfl
  | cons word rest => exact if_neg fun same => apart (congrArg some same)

/-- Patterns in a row are read one after another. -/
theorem exists_path_row (readsBack : ∀ child ∈ children, ReadsBack registry child)
    (stack : List (Bracket × Choice)) (choice : Choice) (apart : rest.head? ≠ some "...") :
    ∃ atoms, Position.Path
      ⟨stack, choice, registry, children.flatMap (wordsOf ·.render) ++ rest⟩ atoms
      ⟨stack, choice.push (children.map reread), registry, rest⟩ := by
  induction children generalizing choice with
  | nil => exact ⟨[], by simpa [Choice.push] using Position.Path.nil⟩
  | cons first others ih =>
      have others_back : ∀ child ∈ others, ReadsBack registry child :=
        fun child member => readsBack child (List.mem_cons_of_mem _ member)
      have later_apart : (others.flatMap (wordsOf ·.render) ++ rest).head? ≠ some "..." := by
        cases others with
        | nil => exact apart
        | cons second others =>
            rw [List.flatMap_cons, List.append_assoc]
            exact (others_back second List.mem_cons_self).head _
      obtain ⟨atoms, path⟩ := (readsBack first List.mem_cons_self).path stack choice _
        fun _ => later_apart
      obtain ⟨later, remaining⟩ := ih others_back (choice.push [first.reread])
      rw [Position.afterAtom, takeEllipsis_eq_self later_apart] at path
      rw [List.flatMap_cons, List.append_assoc]
      have pushed : (choice.push [first.reread]).push (others.map reread) =
          choice.push ((first :: others).map reread) := by
        simp [Choice.push]
      rw [pushed] at remaining
      exact ⟨_, path.append remaining⟩

theorem exists_path_branches (readsBack : ∀ child ∈ children, ReadsBack registry child)
    (some_child : children ≠ []) (stack : List (Bracket × Choice))
    (earlier : List (List Pattern)) (apart : rest.head? ≠ some "...") :
    ∃ atoms choice, Position.Path
      ⟨stack, ⟨earlier, []⟩, registry,
        ["|"].intercalate (children.map (wordsOf ·.render)) ++ rest⟩ atoms
      ⟨stack, choice, registry, rest⟩ ∧
      choice.sequences = earlier ++ children.map fun child => [child.reread] := by
  induction children generalizing earlier with
  | nil => contradiction
  | cons first others ih =>
      have first_back := readsBack first List.mem_cons_self
      cases others with
      | nil =>
          obtain ⟨atoms, path⟩ := first_back.path stack ⟨earlier, []⟩ rest fun _ => apart
          rw [Position.afterAtom, takeEllipsis_eq_self apart] at path
          exact ⟨atoms, _, by simpa using path, rfl⟩
      | cons second others =>
          have bar_apart (words : List String) : ("|" :: words).head? ≠ some "..." := by
            simp
          have bar : Symbol.ofWord "|" = .bar := Symbol.ofWord_eq_bar_iff.mpr rfl
          obtain ⟨atoms, path⟩ := first_back.path stack ⟨earlier, []⟩ _ fun _ => bar_apart _
          rw [Position.afterAtom, takeEllipsis_eq_self (bar_apart _)] at path
          obtain ⟨later, choice, remaining, sequences⟩ :=
            ih (fun child member => readsBack child (List.mem_cons_of_mem _ member))
              (List.cons_ne_nil _ _) (earlier ++ [[first.reread]])
          have whole : ["|"].intercalate ((first :: second :: others).map (wordsOf ·.render)) ++
              rest = wordsOf first.render ++
                "|" :: (["|"].intercalate ((second :: others).map (wordsOf ·.render)) ++ rest) := by
            simp [List.intercalate_cons_cons]
          rw [whole]
          refine ⟨_, choice, path.append (.cons (.bar bar) remaining), ?_⟩
          rw [sequences, List.append_assoc]
          rfl

theorem closesPlaceholders_of_mem (readsBack : ∀ child ∈ children, ReadsBack registry child) :
    ∀ text ∈ children.map render, closesPlaceholders text.toList := by
  intro text member
  obtain ⟨child, listed, rfl⟩ := List.mem_map.mp member
  exact (readsBack child listed).closed

/-- A row of patterns in a bracket is read back from its patterns. -/
theorem group (bracket : Bracket) (readsBack : ∀ child ∈ children, ReadsBack registry child) :
    ReadsBack registry (bracket.group children) := by
  have printed := render_group bracket children
  have texts_closed := closesPlaceholders_of_mem readsBack
  have closed : closesPlaceholders (" ".intercalate (children.map render)).toList :=
    closesPlaceholders_intercalate (by decide) texts_closed
  have words : wordsOf (" ".intercalate (children.map render)) =
      children.flatMap (wordsOf ·.render) := by
    rw [wordsOf_intercalate_space texts_closed, List.flatMap_map]
  refine of_group bracket (printed ▸ bracket.closesPlaceholders_enclose closed)
    (printed ▸ bracket.getLast?_enclose _) (printed ▸ bracket.wordsOf_enclose closed) ?_
  intro stack rest apart
  obtain ⟨atoms, path⟩ := exists_path_row readsBack stack .empty apart
  rw [words]
  exact ⟨atoms, _, path, (reread_group bracket children).symm⟩

theorem either (several : 2 ≤ children.length)
    (readsBack : ∀ child ∈ children, ReadsBack registry child) :
    ReadsBack registry (.either children) := by
  have some_child : children ≠ [] := by
    rintro rfl
    simp at several
  have texts_closed := closesPlaceholders_of_mem readsBack
  have printed := render_either children
  have closed : closesPlaceholders (" | ".intercalate (children.map render)).toList :=
    closesPlaceholders_intercalate (by decide) texts_closed
  have words : wordsOf (" | ".intercalate (children.map render)) =
      ["|"].intercalate (children.map (wordsOf ·.render)) := by
    rw [wordsOf_intercalate_bar texts_closed, List.map_map]
    rfl
  refine of_group .round (printed ▸ Bracket.round.closesPlaceholders_enclose closed)
    (printed ▸ Bracket.round.getLast?_enclose _) (printed ▸ Bracket.round.wordsOf_enclose closed) ?_
  intro stack rest apart
  obtain ⟨atoms, choice, path, sequences⟩ :=
    exists_path_branches readsBack some_child stack [] apart
  have branches : choice.patterns = [.either (children.map reread)] := by
    refine Choice.patterns_eq_either (by simpa using several) ?_
    rw [sequences, List.map_map]
    rfl
  rw [words]
  refine ⟨atoms, choice, path, ?_⟩
  rw [branches, reread, rereadAll_eq]
  rfl

/-- The ellipsis of a repetition is read together with the atom in front of it. -/
theorem repeatable (single : child.isRepeatable = false) (readsBack : ReadsBack registry child) :
    ReadsBack registry (.repeatable child) := by
  have printed : (Pattern.repeatable child).render = child.render ++ "..." := by rw [render]
  have words : wordsOf (Pattern.repeatable child).render = wordsOf child.render ++ ["..."] := by
    rw [printed, wordsOf_ellipsis readsBack.closed (readsBack.last single)]
  refine ⟨?_, fun twice => ?_, fun rest => ?_, fun stack choice rest apart => ?_⟩
  · rw [printed, String.toList_append]
    exact closesPlaceholders_append readsBack.closed rfl
  · cases twice
  · rw [words, List.append_assoc]
    exact readsBack.head _
  · have alone : ¬ child.isRepeatable := by simp [single]
    obtain ⟨atoms, path⟩ := readsBack.path stack choice ("..." :: rest) fun twice =>
      absurd twice alone
    have taken : Position.afterAtom stack choice registry [child.reread] ("..." :: rest) =
        Position.afterAtom stack choice registry [(Pattern.repeatable child).reread] rest := by
      rw [Position.afterAtom, Position.afterAtom, takeEllipsis_eq_self (apart rfl), reread]
      rfl
    rw [words, List.append_assoc, ← taken]
    exact ⟨atoms, path⟩

theorem shortcut (specs : List OptionSpec) : ReadsBack registry (.shortcut specs) := by
  have words : wordsOf (Pattern.shortcut specs).render =
      Bracket.square.opener :: (["options"] ++ [Bracket.square.closer]) := by
    rw [render]
    decide +kernel
  refine of_group .square (by rw [render]; decide) (by rw [render]; decide) words ?_
  intro stack rest apart
  have reads : ReadsAs "options" (.shortcut []) := .shortcut (by decide)
  have step : Position.Step ⟨stack, .empty, registry, "options" :: rest⟩ [.shortcut []]
      (Position.afterAtom stack .empty registry [.shortcut []] rest) := .leaf reads
  rw [Position.afterAtom, takeEllipsis_eq_self apart] at step
  refine ⟨_, _, .single step, ?_⟩
  rw [reread]
  rfl

end Pattern.ReadsBack

namespace Pattern.Legible

variable {registry : Registry} {pattern : Pattern}

/-- The notation of a legible pattern is read as one atom. -/
theorem readsBack (legible : Legible registry pattern) : ReadsBack registry pattern := by
  induction legible with
  | @option spec spells =>
      refine .of_leaf spells.singleWord fun stack choice rest => ?_
      exact ⟨_, .options (spells.optionWord?_eq rest) rfl⟩
  | @placeholder word plain =>
      obtain ⟨single, meaning⟩ := plain.placeholder
      exact .of_name single (by rw [render]) (by rw [reread]; exact .argument meaning)
  | @capital word plain capital =>
      have other : word ≠ "options" := by
        rintro rfl
        exact absurd capital (by decide)
      have meaning : Symbol.ofWord word = .argument := by
        rw [plain.symbol_eq other, if_pos capital]
      exact .of_name plain.singleWord (by rw [render]) (by rw [reread]; exact .argument meaning)
  | @command word plain small other =>
      have meaning : Symbol.ofWord word = .command := by
        rw [plain.symbol_eq other, if_neg small]
      exact .of_name plain.singleWord (by rw [render]) (by rw [reread]; exact .command meaning)
  | required _ ih => exact .group .round ih
  | optional _ ih => exact .group .square ih
  | either several _ ih => exact .either several ih
  | repeatable single _ ih => exact .repeatable single ih
  | shortcut specs => exact .shortcut specs

end Pattern.Legible

namespace Expression

/-- A legible pattern compiles from its notation to what the notation is read as, with nothing new
in the registry. -/
theorem compile_render {registry : Registry} {pattern : Pattern}
    (legible : pattern.Legible registry) :
    compile registry pattern.render = ⟨.ok (.required [pattern.reread]), registry⟩ := by
  obtain ⟨atoms, path⟩ := legible.readsBack.path [] .empty [] (by simp)
  have read := path.compile_eq
  rw [List.append_nil] at read
  have ends : (Position.afterAtom [] .empty registry [pattern.reread] []).compile =
      ⟨.ok [pattern.reread], registry⟩ := by
    simp [Position.afterAtom, takeEllipsis, Position.compile, compileWords, Choice.push,
      Choice.empty, Choice.patterns]
  have whole : (Position.start registry (wordsOf pattern.render)).compile =
      ⟨.ok [pattern.reread], registry⟩ := read.trans ends
  rw [compile_eq_start, whole]
  rfl

/-- An option with two forms and a value. -/
def speed : OptionSpec :=
  ⟨some "-s", some "--speed", true, some "10"⟩

/-- An option with a short form only. -/
def quiet : OptionSpec :=
  .flag (some "-q") none

/-- A pattern of every kind. -/
def voyage : Pattern :=
  .required [.command "sail", .repeatable (.either [.option speed, .option quiet]),
    .optional [.argument "<ship>", .argument "PORT"], .shortcut [quiet]]

/-- The repeated choice comes back in a bracket, and the shortcut is no longer filled. -/
theorem compile_render_voyage :
    voyage.Legible ⟨[speed, quiet]⟩ ∧
      voyage.render = "( sail ( --speed=<arg> | -q )... [ <ship> PORT ] [options] )" ∧
      compile ⟨[speed, quiet]⟩ voyage.render =
        ⟨.ok (.required [.required [.command "sail",
          .repeatable (.required [.either [.option speed, .option quiet]]),
          .optional [.argument "<ship>", .argument "PORT"], .optional [.shortcut []]]]),
        ⟨[speed, quiet]⟩⟩ := by
  have speed_word : PlainWord "speed" := by decide
  have quiet_letter : IsOrdinary 'q' := by decide
  have ship_word : PlainWord "ship" := by decide
  have speed_legible : (Pattern.option speed).Legible ⟨[speed, quiet]⟩ :=
    .option (.long speed_word rfl (by decide))
  have quiet_legible : (Pattern.option quiet).Legible ⟨[speed, quiet]⟩ :=
    .option (.short quiet_letter (by decide) (by decide) rfl rfl (by decide))
  have choice_legible :
      (Pattern.either [.option speed, .option quiet]).Legible ⟨[speed, quiet]⟩ :=
    .either (by decide) (by simp [speed_legible, quiet_legible])
  have ship_legible : (Pattern.argument "<ship>").Legible ⟨[speed, quiet]⟩ :=
    .placeholder ship_word
  have port_legible : (Pattern.argument "PORT").Legible ⟨[speed, quiet]⟩ :=
    .capital (by decide) (by decide)
  have sail_legible : (Pattern.command "sail").Legible ⟨[speed, quiet]⟩ :=
    .command (by decide) (by decide) (by decide)
  have legible : voyage.Legible ⟨[speed, quiet]⟩ := by
    refine .required ?_
    simp [sail_legible, Pattern.Legible.repeatable rfl choice_legible,
      Pattern.Legible.shortcut, Pattern.Legible.optional, ship_legible, port_legible]
  refine ⟨legible, ?_, ?_⟩
  · simp [voyage, Pattern.render, Pattern.renderAll, speed, quiet, OptionSpec.flag,
      OptionSpec.name]
  · rw [compile_render legible]
    simp [voyage, Pattern.reread, Pattern.rereadAll]

end Expression

end UsageGrammar
