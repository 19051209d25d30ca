import UsageGrammar.Proofs.Compilation

/-!
# Growth of a registry

Compiling an expression and reading a vector add options to a registry and change nothing else,
whether they succeed or fail. An option that is added has a single form, and it stays the only
option with that form. More generally, an option that can be looked up by one of its forms can be
looked up by it ever after, so a vector is read with the options that the expression was compiled
with.
-/

namespace UsageGrammar

namespace Registry

variable {before middle after registry : Registry} {reading : Reading} {spec : OptionSpec}
  {flag : ResolvedFlag} {flags : List ResolvedFlag}

/-- One of the forms of an option stands for it and for no other. -/
def Identifies (registry : Registry) (spec : OptionSpec) : Prop :=
  (∃ form, spec.long = some form ∧ registry.byLong form = [spec]) ∨
    ∃ form, spec.short = some form ∧ registry.byShort form = [spec]

/-- An option has exactly one form, which no other option has, and it has no default. -/
structure IsFresh (registry : Registry) (spec : OptionSpec) : Prop where
  singleForm : spec.short.isSome ≠ spec.long.isSome
  identified : registry.Identifies spec
  default : spec.default = none

/-- A registry keeps its options and has fresh ones after them. -/
def Grows (before after : Registry) : Prop :=
  ∃ added, after.specs = before.specs ++ added ∧ ∀ spec ∈ added, after.IsFresh spec

theorem byLong_register (registry : Registry) (spec : OptionSpec) (form : String) :
    (registry.register spec).byLong form =
      registry.byLong form ++ if spec.long = some form then [spec] else [] := by
  simp [byLong, register, List.filter_cons]

theorem byShort_register (registry : Registry) (spec : OptionSpec) (form : String) :
    (registry.register spec).byShort form =
      registry.byShort form ++ if spec.short = some form then [spec] else [] := by
  simp [byShort, register, List.filter_cons]

theorem Resolves.identifies (resolves : registry.Resolves spec) : registry.Identifies spec := by
  rcases resolves with ⟨form, only⟩ | ⟨form, only⟩
  · exact .inl ⟨form, (byLong_eq_singleton only).2, only⟩
  · exact .inr ⟨form, (byShort_eq_singleton only).2, only⟩

theorem IsNew.isFresh (new : registry.IsNew spec) : (registry.register spec).IsFresh spec := by
  cases new with
  | @long form takesValue dashes unknown =>
      refine ⟨Bool.false_ne_true, .inl ⟨form, rfl, ?_⟩, rfl⟩
      rw [byLong_register, unknown]
      exact if_pos rfl
  | @short c unknown =>
      refine ⟨Bool.false_ne_true.symm, .inr ⟨_, rfl, ?_⟩, rfl⟩
      rw [byShort_register, unknown]
      exact if_pos rfl

/-- A form that stands for an option is none of a new one. -/
theorem IsNew.long_ne {form : String} (isNew : registry.IsNew spec)
    (known : registry.byLong form ≠ []) : spec.long ≠ some form := by
  rintro same
  cases isNew with
  | long _ _ unknown => exact known (Option.some.inj same ▸ unknown)
  | short => cases same

theorem IsNew.short_ne {form : String} (isNew : registry.IsNew spec)
    (known : registry.byShort form ≠ []) : spec.short ≠ some form := by
  rintro same
  cases isNew with
  | long => cases same
  | short unknown => exact known (Option.some.inj same ▸ unknown)

theorem Meets.byLong_eq {form : String} (meets : Meets reading before flag after)
    (known : before.byLong form ≠ []) : after.byLong form = before.byLong form := by
  cases meets with
  | known => rfl
  | new isNew => rw [byLong_register, if_neg (isNew.long_ne known), List.append_nil]

theorem Meets.byShort_eq {form : String} (meets : Meets reading before flag after)
    (known : before.byShort form ≠ []) : after.byShort form = before.byShort form := by
  cases meets with
  | known => rfl
  | new isNew => rw [byShort_register, if_neg (isNew.short_ne known), List.append_nil]

/-- An option that is met can be looked up afterwards. -/
theorem Meets.identifies_met (meets : Meets reading before flag after) :
    after.Identifies flag.spec := by
  cases meets with
  | known resolves => exact resolves.identifies
  | new isNew => exact isNew.isFresh.identified

namespace MeetsAll

theorem byLong_eq {form : String} (meets : MeetsAll reading before flags after)
    (known : before.byLong form ≠ []) : after.byLong form = before.byLong form := by
  induction meets with
  | nil => rfl
  | cons meets _ ih =>
      have kept := meets.byLong_eq known
      rw [ih (kept ▸ known), kept]

theorem byShort_eq {form : String} (meets : MeetsAll reading before flags after)
    (known : before.byShort form ≠ []) : after.byShort form = before.byShort form := by
  induction meets with
  | nil => rfl
  | cons meets _ ih =>
      have kept := meets.byShort_eq known
      rw [ih (kept ▸ known), kept]

theorem identifies (meets : MeetsAll reading before flags after)
    (identified : before.Identifies spec) : after.Identifies spec := by
  rcases identified with ⟨form, has, only⟩ | ⟨form, has, only⟩
  · exact .inl ⟨form, has, by rw [meets.byLong_eq (by simp [only]), only]⟩
  · exact .inr ⟨form, has, by rw [meets.byShort_eq (by simp [only]), only]⟩

/-- All options that are met can be looked up in the end. -/
theorem identifies_of_mem (meets : MeetsAll reading before flags after)
    (member : flag ∈ flags) : after.Identifies flag.spec := by
  induction meets with
  | nil => cases member
  | cons meets later ih =>
      rcases List.mem_cons.mp member with rfl | member
      · exact later.identifies meets.identifies_met
      · exact ih member

/-- Meeting options adds those that are new, and they stay fresh. -/
theorem grows (meets : MeetsAll reading before flags after) : before.Grows after := by
  induction meets with
  | nil => exact ⟨[], (List.append_nil _).symm, nofun⟩
  | @cons before middle after flag flags meets later ih =>
      obtain ⟨added, specs, fresh⟩ := ih
      cases meets with
      | known => exact ⟨added, specs, fresh⟩
      | new isNew =>
          have whole : after.specs = before.specs ++ flag.spec :: added := by
            rw [specs, register, List.append_assoc]
            rfl
          refine ⟨flag.spec :: added, whole, fun spec member => ?_⟩
          rcases List.mem_cons.mp member with rfl | member
          · have first := isNew.isFresh
            exact ⟨first.singleForm, later.identifies first.identified, first.default⟩
          · exact fresh spec member

end MeetsAll

end Registry

namespace Expression

/-- Compiling and reading only add fresh options, and an option of a compiled expression can be
looked up by one of its forms, before a vector is read and after it. -/
theorem compile_and_tokenize_grow (registry : Registry) (expression : String)
    (optionsFirst : Bool) (argv : List String) :
    registry.Grows (compile registry expression).registry ∧
      registry.Grows (tokenize optionsFirst registry argv).registry ∧
      ∀ pattern, (compile registry expression).result = .ok pattern →
        ∀ spec ∈ pattern.options,
          spec ∈ (compile registry expression).registry.specs ∧
            (compile registry expression).registry.Identifies spec ∧
            (tokenize optionsFirst (compile registry expression).registry argv).registry.Identifies
              spec := by
  obtain ⟨met, meets, options⟩ := exists_compile_meets registry expression
  obtain ⟨typed, reports⟩ := exists_tokenize_reports optionsFirst registry argv
  refine ⟨meets.grows, reports.path.grows, fun pattern compiled spec member => ?_⟩
  rw [options pattern compiled] at member
  obtain ⟨flag, encountered, rfl⟩ := List.mem_map.mp member
  obtain ⟨_, later⟩ :=
    exists_tokenize_reports optionsFirst (compile registry expression).registry argv
  have identified := meets.identifies_of_mem encountered
  exact ⟨meets.mem encountered, identified, later.path.identifies identified⟩

/-- Reading a vector with a flag that is new leaves the option of the expression as it was. -/
theorem compile_and_tokenize_grow_speed :
    (compile .empty "--at=N").result =
        .ok (.required [.option ⟨none, some "--at", true, none⟩]) ∧
      (tokenize false (compile .empty "--at=N").registry ["-w", "y"]).registry.Identifies
        ⟨none, some "--at", true, none⟩ := by
  have words : wordsOf "--at=N" = ["--at=N"] := by decide +kernel
  have meaning : Symbol.ofWord "--at=N" = .long := by decide +kernel
  have parts : splitAssignment "--at=N" = ("--at", some "N") := by decide +kernel
  have compiled : (compile .empty "--at=N").result =
      .ok (.required [.option ⟨none, some "--at", true, none⟩]) := by
    rw [compile, words]
    simp [compileWords, meaning, Registry.resolveLong, parts, Registry.findLong,
      Registry.byLong, Registry.empty, OptionSpec.flag, ResolvedFlag.of, flagPatterns,
      takeEllipsis, Choice.push, Choice.empty,
      Choice.patterns, Except.map]
  obtain ⟨-, -, looked_up⟩ := compile_and_tokenize_grow .empty "--at=N" false ["-w", "y"]
  exact ⟨compiled, (looked_up _ compiled _ List.mem_cons_self).2.2⟩

end Expression

end UsageGrammar
