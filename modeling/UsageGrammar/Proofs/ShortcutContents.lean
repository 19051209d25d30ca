import UsageGrammar.Pattern.Shortcut
import Mathlib.Data.List.Nodup

/-!
# What a shortcut stands for

Resolving the shortcuts of a pattern puts one and the same list into all of them and changes nothing
else. The list holds the declared options that the pattern does not mention, the first of each name,
in the order of their declaration. Options in a shortcut are not mentions, so a pattern that is
resolved stays as it is.
-/

namespace UsageGrammar.Pattern

/-- The second pattern is the first with the contents of every shortcut replaced. -/
inductive FilledWith (specs : List OptionSpec) : Pattern → Pattern → Prop
  | option (spec : OptionSpec) : FilledWith specs (option spec) (option spec)
  | argument (name : String) : FilledWith specs (argument name) (argument name)
  | command (name : String) : FilledWith specs (command name) (command name)
  | required {children filled : List Pattern} :
      List.Forall₂ (FilledWith specs) children filled →
        FilledWith specs (required children) (required filled)
  | optional {children filled : List Pattern} :
      List.Forall₂ (FilledWith specs) children filled →
        FilledWith specs (optional children) (optional filled)
  | either {children filled : List Pattern} :
      List.Forall₂ (FilledWith specs) children filled →
        FilledWith specs (either children) (either filled)
  | repeatable {child filled : Pattern} : FilledWith specs child filled →
      FilledWith specs (repeatable child) (repeatable filled)
  | shortcut (before : List OptionSpec) : FilledWith specs (shortcut before) (shortcut specs)

section Fill

variable (specs : List OptionSpec)

mutual

theorem fillShortcuts_filledWith : ∀ pattern : Pattern,
    FilledWith specs pattern (pattern.fillShortcuts specs)
  | .option spec => .option spec
  | .argument name => .argument name
  | .command name => .command name
  | .required children => .required (fillAllShortcuts_filledWith children)
  | .optional children => .optional (fillAllShortcuts_filledWith children)
  | .either children => .either (fillAllShortcuts_filledWith children)
  | .repeatable child => .repeatable (fillShortcuts_filledWith child)
  | .shortcut before => .shortcut before

theorem fillAllShortcuts_filledWith : ∀ children : List Pattern,
    List.Forall₂ (FilledWith specs) children (fillAllShortcuts specs children)
  | [] => .nil
  | child :: children =>
      .cons (fillShortcuts_filledWith child) (fillAllShortcuts_filledWith children)

end

mutual

/-- The options of a shortcut do not count as mentioned. -/
theorem options_fillShortcuts : ∀ pattern : Pattern,
    (pattern.fillShortcuts specs).options = pattern.options
  | option _ | argument _ | command _ | shortcut _ => rfl
  | required children | optional children | either children =>
      optionsOfAll_fillAllShortcuts children
  | repeatable child => options_fillShortcuts child

theorem optionsOfAll_fillAllShortcuts : ∀ children : List Pattern,
    optionsOfAll (fillAllShortcuts specs children) = optionsOfAll children
  | [] => rfl
  | child :: children => by
      rw [fillAllShortcuts, optionsOfAll, options_fillShortcuts child,
        optionsOfAll_fillAllShortcuts children, optionsOfAll]

end

mutual

theorem fillShortcuts_fillShortcuts (others : List OptionSpec) : ∀ pattern : Pattern,
    (pattern.fillShortcuts others).fillShortcuts specs = pattern.fillShortcuts specs
  | option _ | argument _ | command _ | shortcut _ => rfl
  | .required children => congrArg required (fillAllShortcuts_fillAllShortcuts others children)
  | .optional children => congrArg optional (fillAllShortcuts_fillAllShortcuts others children)
  | .either children => congrArg either (fillAllShortcuts_fillAllShortcuts others children)
  | .repeatable child => congrArg repeatable (fillShortcuts_fillShortcuts others child)

theorem fillAllShortcuts_fillAllShortcuts (others : List OptionSpec) : ∀ children : List Pattern,
    fillAllShortcuts specs (fillAllShortcuts others children) = fillAllShortcuts specs children
  | [] => rfl
  | child :: children =>
      congrArg₂ List.cons (fillShortcuts_fillShortcuts others child)
        (fillAllShortcuts_fillAllShortcuts others children)

end

end Fill

section Unmentioned

variable {spec : OptionSpec} {mentioned : List String} {specs : List OptionSpec}

/-- Each option of the list is the first of its name, and its name is not mentioned. -/
theorem first_of_mem_unmentioned (member : spec ∈ unmentioned mentioned specs) :
    spec.name ∉ mentioned ∧ specs.find? (·.name == spec.name) = some spec := by
  induction specs generalizing mentioned with
  | nil => cases member
  | cons first specs ih =>
      have passed (other : first.name ≠ spec.name)
          (later : specs.find? (·.name == spec.name) = some spec) :
          (first :: specs).find? (·.name == spec.name) = some spec := by
        rwa [List.find?_cons_of_neg (by simpa using other)]
      rw [unmentioned] at member
      split at member
      · next known =>
          obtain ⟨unknown, later⟩ := ih member
          refine ⟨unknown, passed (fun same => unknown (same ▸ ?_)) later⟩
          simpa using known
      · next unknown =>
          rcases List.mem_cons.mp member with rfl | member
          · exact ⟨by simpa using unknown, by simp⟩
          · obtain ⟨other, later⟩ := ih member
            obtain ⟨other, unknown⟩ := List.ne_and_not_mem_of_not_mem_cons other
            exact ⟨unknown, passed (Ne.symm other) later⟩

theorem nodup_unmentioned (mentioned : List String) (specs : List OptionSpec) :
    ((unmentioned mentioned specs).map OptionSpec.name).Nodup := by
  induction specs generalizing mentioned with
  | nil => exact List.nodup_nil
  | cons first specs ih =>
      rw [unmentioned]
      split
      · exact ih mentioned
      · refine List.nodup_cons.mpr ⟨fun again => ?_, ih _⟩
        obtain ⟨spec, later, same⟩ := List.mem_map.mp again
        exact (first_of_mem_unmentioned later).1 (same ▸ List.mem_cons_self)

/-- The names are those that are not mentioned, each where it first occurs. -/
theorem map_name_unmentioned (mentioned : List String) (specs : List OptionSpec) :
    (unmentioned mentioned specs).map OptionSpec.name =
      ((specs.map OptionSpec.name).filter (· ∉ mentioned)).eraseDups := by
  induction specs generalizing mentioned with
  | nil => rfl
  | cons first specs ih =>
      rw [unmentioned, List.map_cons]
      split
      · next known =>
          have known : first.name ∈ mentioned := by simpa using known
          rw [ih, List.filter_cons_of_neg (by simpa using known)]
      · next unknown =>
          have unknown : first.name ∉ mentioned := by simpa using unknown
          rw [List.map_cons, ih, List.filter_cons_of_pos (by simpa using unknown),
            List.eraseDups_cons, List.filter_filter]
          congr 3
          funext name
          rw [Bool.eq_iff_iff]
          simp

end Unmentioned

/-- Resolving the shortcuts of a pattern fills all of them with one list and changes nothing else.
The list holds the declared options that the pattern does not mention, the first of each name, in
their order. Resolving once more changes nothing. -/
theorem resolveShortcuts_filledWith (declared : Registry) (pattern : Pattern) :
    ∃ specs, FilledWith specs pattern (pattern.resolveShortcuts declared) ∧
      (specs.map OptionSpec.name).Nodup ∧
      specs.map OptionSpec.name = ((declared.specs.map OptionSpec.name).filter
        (· ∉ pattern.options.map OptionSpec.name)).eraseDups ∧
      (∀ spec ∈ specs, declared.get? spec.name = some spec) ∧
      (pattern.resolveShortcuts declared).resolveShortcuts declared =
        pattern.resolveShortcuts declared := by
  refine ⟨unmentioned (pattern.options.map OptionSpec.name) declared.specs,
    fillShortcuts_filledWith _ pattern, nodup_unmentioned _ _, map_name_unmentioned _ _,
    fun spec member => (first_of_mem_unmentioned member).2, ?_⟩
  rw [resolveShortcuts, resolveShortcuts, options_fillShortcuts, fillShortcuts_fillShortcuts]

end UsageGrammar.Pattern
