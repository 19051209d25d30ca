import UsageGrammar.Proofs.PlainNames

/-!
# Abbreviations

In an argument vector a long form may be cut short as long as only one option remains that it can
stand for. Writing more of the form then changes nothing, up to the whole of it. A beginning that is
no long form itself is refused as ambiguous exactly if several options remain.
-/

namespace UsageGrammar

/-- A long form as a word, with the value that is given to it. -/
def assigned (form : String) : Option String → String
  | none => form
  | some value => form ++ "=" ++ value

namespace Registry

variable {registry : Registry} {spec : OptionSpec} {form start longer long : String}
  {given : Option String}

theorem splitAssignment_assigned (unassigned : '=' ∉ form.toList) (given : Option String) :
    splitAssignment (assigned form given) = (form, given) := by
  cases given with
  | none => exact splitAssignment_of_bare unassigned
  | some value => exact splitAssignment_append unassigned value

theorem begins_refl (text : String) : begins text text :=
  List.isPrefixOf_iff_prefix.mpr List.prefix_rfl

theorem begins_trans (first : begins start longer) (second : begins longer long) :
    begins start long := by
  rw [begins, List.isPrefixOf_iff_prefix] at *
  exact first.trans second

theorem not_mem_of_begins {c : Char} (begun : begins start long) (absent : c ∉ long.toList) :
    c ∉ start.toList := fun member =>
  absent ((List.isPrefixOf_iff_prefix.mp begun).subset member)

section Lookup

theorem byLongBeginning_eq_filter (begun : begins start longer) :
    registry.byLongBeginning longer =
      (registry.byLongBeginning start).filter (·.long.any (begins longer)) := by
  rw [byLongBeginning, byLongBeginning, List.filter_filter]
  refine List.filter_congr fun other _ => ?_
  cases other.long with
  | none => rfl
  | some long =>
      cases further : begins longer long with
      | false => simp [further]
      | true => simp [further, begins_trans begun further]

theorem byLongBeginning_longer (only : registry.byLongBeginning start = [spec])
    (has : spec.long = some long) (begun : begins start longer) (further : begins longer long) :
    registry.byLongBeginning longer = [spec] := by
  rw [byLongBeginning_eq_filter begun, only]
  simp [has, further]

/-- What only one option can stand for means that option, whether it is the whole long form or a
beginning of it. -/
theorem findLong_of_byLongBeginning (only : registry.byLongBeginning form = [spec]) :
    registry.findLong .arguments form = .ok (some spec) := by
  have exact_form : registry.byLong form = [spec].filter (·.long == some form) := by
    rw [byLong_eq_filter_byLongBeginning (begins_refl form), only]
  cases complete : spec.long == some form with
  | true =>
      have known : registry.byLong form = [spec] := by simp [exact_form, complete]
      rw [findLong, known]
  | false =>
      have unknown : registry.byLong form = [] := by simp [exact_form, complete]
      simp only [findLong, unknown, only]

theorem findLong_of_several (unknown : registry.byLong form = [])
    (several : 2 ≤ (registry.byLongBeginning form).length) :
    registry.findLong .arguments form = .error (.notUniquePrefix form
      ((registry.byLongBeginning form).filterMap OptionSpec.long)) := by
  simp only [findLong, unknown]
  split
  · next none_begins => simp [none_begins] at several
  · next only => simp [only] at several
  · rfl

end Lookup

section Resolution

theorem takeArgument_eq_error {following : List String} {error : FlagError}
    (failed : takeArgument form following = .error error) : error = .missingArgument form := by
  cases following with
  | nil => exact (Except.error.inj failed).symm
  | cons word following =>
      simp only [takeArgument] at failed
      split at failed
      · exact (Except.error.inj failed).symm
      · cases failed

theorem resolveLong_of_findLong (unassigned : '=' ∉ form.toList)
    (found : registry.findLong .arguments form = .ok (some spec)) (given : Option String)
    (following : List String) :
    (∃ value, (registry.resolveLong .arguments (assigned form given) following).result =
        .ok [⟨spec, value⟩]) ∨
      (registry.resolveLong .arguments (assigned form given) following).result =
        .error (.unexpectedArgument spec.name) ∨
      (registry.resolveLong .arguments (assigned form given) following).result =
        .error (.missingArgument spec.name) := by
  simp only [resolveLong, splitAssignment_assigned unassigned, found]
  split
  · exact .inr (.inl rfl)
  · split
    · next failed =>
        obtain rfl := takeArgument_eq_error failed
        exact .inr (.inr rfl)
    · exact .inl ⟨_, rfl⟩
  · exact .inl ⟨_, rfl⟩

theorem resolveLong_eq_of_findLong (unassigned : '=' ∉ start.toList)
    (longer_unassigned : '=' ∉ longer.toList)
    (found : registry.findLong .arguments start = .ok (some spec))
    (longer_found : registry.findLong .arguments longer = .ok (some spec)) (given : Option String)
    (following : List String) :
    registry.resolveLong .arguments (assigned start given) following =
      registry.resolveLong .arguments (assigned longer given) following := by
  simp only [resolveLong, splitAssignment_assigned unassigned,
    splitAssignment_assigned longer_unassigned, found, longer_found]

/-- An abbreviation is refused as such exactly if it leaves several options. -/
theorem resolveLong_eq_notUniquePrefix_iff (unassigned : '=' ∉ start.toList)
    (unknown : registry.byLong start = []) (given : Option String) (following : List String) :
    (∃ form candidates, (registry.resolveLong .arguments (assigned start given) following).result =
        .error (.notUniquePrefix form candidates)) ↔
      2 ≤ (registry.byLongBeginning start).length := by
  constructor
  · rintro ⟨form, candidates, refused⟩
    by_contra few
    cases remaining : registry.byLongBeginning start with
    | nil =>
        have found : registry.findLong .arguments start = .ok none := by
          simp only [findLong, unknown, remaining]
        simp only [resolveLong, splitAssignment_assigned unassigned, found] at refused
        cases refused
    | cons spec others =>
        obtain rfl : others = [] := by simpa [remaining] using few
        rcases resolveLong_of_findLong unassigned (findLong_of_byLongBeginning remaining) given
          following with ⟨value, result⟩ | result | result
        · cases refused.symm.trans result
        · cases refused.symm.trans result
        · cases refused.symm.trans result
  · intro several
    have found := findLong_of_several unknown several
    refine ⟨start, (registry.byLongBeginning start).filterMap OptionSpec.long, ?_⟩
    simp only [resolveLong, splitAssignment_assigned unassigned, found]

end Resolution

/-- Where a beginning of a long form leaves one option, every longer beginning is read in the same
way, with a value and without: either gives the option, or both fail alike. A beginning that is no
long form is refused as ambiguous exactly if it leaves several options. -/
theorem resolveLong_abbreviations (registry : Registry) :
    (∀ (spec : OptionSpec) (start longer long : String), spec.long = some long →
      '=' ∉ long.toList → begins start longer → begins longer long →
      registry.byLongBeginning start = [spec] → ∀ given following,
        registry.resolveLong .arguments (assigned start given) following =
            registry.resolveLong .arguments (assigned longer given) following ∧
          ∀ flags, (registry.resolveLong .arguments (assigned start given) following).result =
            .ok flags → flags.map ResolvedFlag.spec = [spec]) ∧
      ∀ start : String, '=' ∉ start.toList → registry.byLong start = [] → ∀ given following,
        ((∃ form candidates,
            (registry.resolveLong .arguments (assigned start given) following).result =
              .error (.notUniquePrefix form candidates)) ↔
          2 ≤ (registry.byLongBeginning start).length) := by
  refine ⟨fun spec start longer long has bare begun further only given following => ?_,
    fun start unassigned unknown => resolveLong_eq_notUniquePrefix_iff unassigned unknown⟩
  have longer_only := byLongBeginning_longer only has begun further
  have longer_bare := not_mem_of_begins further bare
  have start_bare := not_mem_of_begins begun longer_bare
  have found := findLong_of_byLongBeginning only
  have longer_found := findLong_of_byLongBeginning longer_only
  refine ⟨resolveLong_eq_of_findLong start_bare longer_bare found longer_found given following,
    fun flags resolved => ?_⟩
  rcases resolveLong_of_findLong start_bare found given following with
    ⟨value, result⟩ | result | result
  · obtain rfl := Except.ok.inj (result.symm.trans resolved)
    rfl
  · cases result.symm.trans resolved
  · cases result.symm.trans resolved

/-- `--verbose`, `--version` and `--output <arg>` -/
def verbosityRegistry : Registry :=
  ⟨[.flag none (some "--verbose"), .flag none (some "--version"),
    .valued none (some "--output")]⟩

/-- One letter is enough for the output, and four are not enough for the version. -/
theorem resolveLong_abbreviations_output :
    verbosityRegistry.byLongBeginning "--o" = [.valued none (some "--output")] ∧
      verbosityRegistry.resolveLong .arguments "--o=a=b" ["x"] =
        verbosityRegistry.resolveLong .arguments "--outp=a=b" ["x"] ∧
      verbosityRegistry.byLong "--ver" = [] ∧
      ∃ form candidates, (verbosityRegistry.resolveLong .arguments "--ver" ["x"]).result =
        .error (.notUniquePrefix form candidates) := by
  have only : verbosityRegistry.byLongBeginning "--o" = [.valued none (some "--output")] := by
    decide +kernel
  have unknown : verbosityRegistry.byLong "--ver" = [] := by decide +kernel
  have several : 2 ≤ (verbosityRegistry.byLongBeginning "--ver").length := by decide +kernel
  obtain ⟨longer, ambiguous⟩ := resolveLong_abbreviations verbosityRegistry
  have same := longer _ "--o" "--outp" "--output" rfl (by decide) (by decide) (by decide) only
    (some "a=b") ["x"]
  have refused := (ambiguous "--ver" (by decide) unknown none ["x"]).mpr several
  exact ⟨only, same.1, unknown, refused⟩

end Registry

end UsageGrammar
