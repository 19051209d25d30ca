import UsageGrammar.Flag

/-!
# Discovery of options

Reading an option word meets options one after another. Each of them either is known to the
registry by a form that no other option has, or is new and becomes known with the one form that it
was met with. This holds of words that resolve and of words that fail halfway, so a registry only
grows, and what it learns is fresh.
-/

namespace UsageGrammar

/-- The values that an occurrence of an option can have: none in a usage expression, otherwise a
text if the option takes a value, and the truth that it occurs if it takes none. -/
def Reading.Gives (reading : Reading) (spec : OptionSpec) (value : Value) : Prop :=
  match reading with
  | .usage => value = .null
  | .arguments => if spec.takesValue then ∃ word, value = .text word else value = .bool true

theorem ResolvedFlag.of_gives (reading : Reading) {spec : OptionSpec} {given : Option String}
    (fits : spec.takesValue = given.isSome) :
    reading.Gives spec (ResolvedFlag.of reading spec given).value := by
  cases reading with
  | usage => rfl
  | arguments =>
      cases given with
      | none => simp [Reading.Gives, ResolvedFlag.of, fits]
      | some word => simp [Reading.Gives, ResolvedFlag.of, fits]

/-- The long form begins with two dashes. The short form does not, unless it is nothing else. -/
structure OptionSpec.Dashed (spec : OptionSpec) : Prop where
  long {form : String} : spec.long = some form → Registry.begins "--" form
  short {form : String} : spec.short = some form → Registry.begins "--" form → form = "--"

namespace Registry

variable {registry before middle after : Registry} {reading : Reading} {spec : OptionSpec}
  {flag : ResolvedFlag} {flags : List ResolvedFlag}

/-- An option is the only one that a form stands for. -/
def Resolves (registry : Registry) (spec : OptionSpec) : Prop :=
  (∃ form, registry.byLong form = [spec]) ∨ ∃ form, registry.byShort form = [spec]

/-- An option with a single form that no option of the registry has. -/
inductive IsNew (registry : Registry) : OptionSpec → Prop
  | long {form : String} (takesValue : Bool) : begins "--" form → registry.byLong form = [] →
      IsNew registry ⟨none, some form, takesValue, none⟩
  | short {c : Char} : registry.byShort (String.ofList ['-', c]) = [] →
      IsNew registry ⟨some (String.ofList ['-', c]), none, false, none⟩

/-- The registry after one occurrence of an option. -/
inductive Meets (reading : Reading) (registry : Registry) : ResolvedFlag → Registry → Prop
  | known {flag : ResolvedFlag} : registry.Resolves flag.spec →
      reading.Gives flag.spec flag.value → Meets reading registry flag registry
  | new {flag : ResolvedFlag} : registry.IsNew flag.spec →
      reading.Gives flag.spec flag.value →
      Meets reading registry flag (registry.register flag.spec)

/-- The registry after several occurrences of options. -/
inductive MeetsAll (reading : Reading) : Registry → List ResolvedFlag → Registry → Prop
  | nil {registry : Registry} : MeetsAll reading registry [] registry
  | cons {before middle after : Registry} {flag : ResolvedFlag} {flags : List ResolvedFlag} :
      Meets reading before flag middle → MeetsAll reading middle flags after →
      MeetsAll reading before (flag :: flags) after

theorem byLong_eq_singleton {form : String} (only : registry.byLong form = [spec]) :
    spec ∈ registry.specs ∧ spec.long = some form := by
  have member : spec ∈ registry.byLong form := only ▸ List.mem_singleton_self spec
  simpa [byLong] using member

theorem byShort_eq_singleton {form : String} (only : registry.byShort form = [spec]) :
    spec ∈ registry.specs ∧ spec.short = some form := by
  have member : spec ∈ registry.byShort form := only ▸ List.mem_singleton_self spec
  simpa [byShort] using member

theorem Resolves.mem (resolves : registry.Resolves spec) : spec ∈ registry.specs := by
  rcases resolves with ⟨form, only⟩ | ⟨form, only⟩
  · exact (byLong_eq_singleton only).1
  · exact (byShort_eq_singleton only).1

section New

theorem IsNew.dashed (new : registry.IsNew spec) : spec.Dashed := by
  cases new with
  | @long form takesValue dashes unknown =>
      refine ⟨fun same => ?_, nofun⟩
      exact Option.some.inj same ▸ dashes
  | @short c unknown =>
      refine ⟨nofun, fun same begun => ?_⟩
      obtain rfl := Option.some.inj same
      obtain rfl : '-' = c := by simpa [begins] using begun
      rfl

/-- Where options are dashed and none is called `--`, a new option has a new name. -/
theorem IsNew.name_ne (new : registry.IsNew spec) {known : OptionSpec}
    (member : known ∈ registry.specs) (dashed : known.Dashed) (plain : known.name ≠ "--") :
    known.name ≠ spec.name := by
  intro same
  cases new with
  | @long form _ dashes unknown =>
      obtain rfl : known.name = form := same
      rcases known.name_cases with long | ⟨-, short⟩ | unnamed
      · have found : known ∈ registry.byLong known.name := by simp [byLong, member, long]
        rw [unknown] at found
        cases found
      · exact plain (dashed.short short dashes)
      · simp [unnamed, begins] at dashes
  | @short c unknown =>
      have name : known.name = String.ofList ['-', c] := same
      rcases known.name_cases with long | ⟨-, short⟩ | unnamed
      · obtain rfl : '-' = c := by simpa [name, begins] using dashed.long long
        exact plain name
      · have found : known ∈ registry.byShort (String.ofList ['-', c]) := by
          simp [byShort, member, short, name]
        rw [unknown] at found
        cases found
      · simp [unnamed, ← String.toList_inj] at name

end New

theorem Meets.gives (meets : Meets reading before flag after) :
    reading.Gives flag.spec flag.value := by
  cases meets with
  | known _ gives => exact gives
  | new _ gives => exact gives

theorem Meets.subset (meets : Meets reading before flag after) : before.specs ⊆ after.specs := by
  cases meets with
  | known => exact List.Subset.refl _
  | new => exact List.subset_append_left _ _

theorem Meets.mem (meets : Meets reading before flag after) : flag.spec ∈ after.specs := by
  cases meets with
  | known resolves => exact resolves.mem
  | new => exact List.mem_append_right _ (List.mem_singleton_self _)

namespace MeetsAll

theorem single (meets : Meets reading before flag after) :
    MeetsAll reading before [flag] after :=
  .cons meets .nil

theorem append {others : List ResolvedFlag} (first : MeetsAll reading before flags middle)
    (second : MeetsAll reading middle others after) :
    MeetsAll reading before (flags ++ others) after := by
  induction first with
  | nil => exact second
  | cons meets _ ih => exact .cons meets (ih second)

theorem subset (meets : MeetsAll reading before flags after) : before.specs ⊆ after.specs := by
  induction meets with
  | nil => exact List.Subset.refl _
  | cons meets _ ih => exact List.Subset.trans meets.subset ih

theorem mem (meets : MeetsAll reading before flags after) {flag : ResolvedFlag}
    (member : flag ∈ flags) : flag.spec ∈ after.specs := by
  induction meets with
  | nil => cases member
  | cons meets later ih =>
      rcases List.mem_cons.mp member with rfl | member
      · exact later.subset meets.mem
      · exact ih member

theorem gives (meets : MeetsAll reading before flags after) {flag : ResolvedFlag}
    (member : flag ∈ flags) : reading.Gives flag.spec flag.value := by
  induction meets with
  | nil => cases member
  | cons meets later ih =>
      rcases List.mem_cons.mp member with rfl | member
      · exact meets.gives
      · exact ih member

/-- A property that new options have holds of all options if it held of those known before. -/
theorem forall_specs {holds : OptionSpec → Prop}
    (fresh : ∀ {registry : Registry} {spec}, registry.IsNew spec → holds spec)
    (meets : MeetsAll reading before flags after) (start : ∀ spec ∈ before.specs, holds spec) :
    ∀ spec ∈ after.specs, holds spec := by
  induction meets with
  | nil => exact start
  | cons meets _ ih =>
      refine ih ?_
      cases meets with
      | known => exact start
      | new new =>
          intro spec member
          rcases List.mem_append.mp member with member | member
          · exact start spec member
          · exact List.mem_singleton.mp member ▸ fresh new

theorem eq_of_not_isNew (meets : MeetsAll reading before flags after)
    (known : ∀ flag ∈ flags, ¬ before.IsNew flag.spec) : after = before := by
  induction meets with
  | nil => rfl
  | cons meets _ ih =>
      cases meets with
      | known => exact ih fun flag member => known flag (List.mem_cons_of_mem _ member)
      | new new => exact absurd new (known _ List.mem_cons_self)

end MeetsAll

/-- A resolution gives what was met since a registry, unless it failed after that. -/
structure Reports (reading : Reading) (registry : Registry) (met : List ResolvedFlag)
    (resolution : Resolution) : Prop where
  path : MeetsAll reading registry met resolution.registry
  result : resolution.result = .ok met ∨ ∃ error, resolution.result = .error error

namespace Reports

variable {following : List String}

theorem failed (error : FlagError) :
    Reports reading registry [] ⟨.error error, following, registry⟩ :=
  ⟨.nil, .inr ⟨error, rfl⟩⟩

theorem known {given : Option String} (resolves : registry.Resolves spec)
    (fits : spec.takesValue = given.isSome) :
    Reports reading registry [.of reading spec given]
      ⟨.ok [.of reading spec given], following, registry⟩ :=
  ⟨.single (.known resolves (ResolvedFlag.of_gives reading fits)), .inl rfl⟩

theorem preceded {resolution : Resolution} (reports : Reports reading middle flags resolution)
    (meets : Meets reading before flag middle) :
    Reports reading before (flag :: flags) (resolution.after flag) := by
  refine ⟨.cons meets reports.path, ?_⟩
  rcases reports.result with result | ⟨error, result⟩
  · exact .inl (by rw [Resolution.after, result]; rfl)
  · exact .inr ⟨error, by rw [Resolution.after, result]; rfl⟩

end Reports

section Resolution

theorem findShort_eq_none {form : String} (found : registry.findShort form = .ok none) :
    registry.byShort form = [] := by
  unfold findShort at found
  split at found
  · assumption
  · cases found
  · cases found

theorem findShort_eq_some {form : String} (found : registry.findShort form = .ok (some spec)) :
    registry.Resolves spec := by
  unfold findShort at found
  split at found
  · cases found
  · next only =>
      obtain rfl := Option.some.inj (Except.ok.inj found)
      exact .inr ⟨form, only⟩
  · cases found

theorem findLong_eq_none {form : String} (found : registry.findLong reading form = .ok none) :
    registry.byLong form = [] := by
  unfold findLong at found
  split at found
  · cases found
  · assumption
  · cases found

theorem byLong_eq_filter_byLongBeginning {form full : String} (begun : begins form full) :
    registry.byLong full = (registry.byLongBeginning form).filter (·.long == some full) := by
  rw [byLong, byLongBeginning, List.filter_filter]
  refine List.filter_congr fun other _ => ?_
  cases same : other.long == some full with
  | false => simp
  | true => simp [eq_of_beq same, begun]

theorem resolves_of_byLongBeginning {form : String}
    (only : registry.byLongBeginning form = [spec]) : registry.Resolves spec := by
  have member : spec ∈ registry.byLongBeginning form := only ▸ List.mem_singleton_self spec
  obtain ⟨known, begun⟩ := List.mem_filter.mp member
  obtain ⟨full, long, begun⟩ : ∃ full, spec.long = some full ∧ begins form full := by
    cases long : spec.long with
    | none => simp [long] at begun
    | some full => exact ⟨full, rfl, by simpa [long] using begun⟩
  refine .inl ⟨full, ?_⟩
  rw [byLong_eq_filter_byLongBeginning begun, only]
  simp [long]

theorem findLong_eq_some {form : String}
    (found : registry.findLong reading form = .ok (some spec)) : registry.Resolves spec := by
  unfold findLong at found
  split at found
  · next only =>
      obtain rfl := Option.some.inj (Except.ok.inj found)
      exact .inl ⟨form, only⟩
  · split at found
    · cases found
    · split at found
      · cases found
      · next only =>
          obtain rfl := Option.some.inj (Except.ok.inj found)
          exact resolves_of_byLongBeginning only
      · cases found
  · cases found

theorem begins_splitAssignment {word : String} (dashes : begins "--" word) :
    begins "--" (splitAssignment word).1 := by
  unfold splitAssignment
  split
  · exact dashes
  · obtain ⟨rest, whole⟩ := List.isPrefixOf_iff_prefix.mp dashes
    simp [begins, ← whole]

/-- What a long word reports of the registry that it is resolved against. -/
theorem exists_resolveLong_reports (registry : Registry) (reading : Reading) {word : String}
    (dashes : begins "--" word) (following : List String) :
    ∃ met, Reports reading registry met (registry.resolveLong reading word following) := by
  have form_dashes := begins_splitAssignment dashes
  simp only [resolveLong]
  generalize splitAssignment word = parts at form_dashes
  obtain ⟨form, given⟩ := parts
  split
  · exact ⟨[], .failed _⟩
  · next found =>
      have new : registry.IsNew ⟨none, some form, given.isSome, none⟩ :=
        .long _ form_dashes (findLong_eq_none found)
      exact ⟨_, .single (.new new (ResolvedFlag.of_gives reading rfl)), .inl rfl⟩
  · next spec found =>
      have resolves := findLong_eq_some found
      split
      · exact ⟨[], .failed _⟩
      · next takes absent =>
          split
          · exact ⟨[], .failed _⟩
          · exact ⟨_, .known resolves takes⟩
      · next mismatched missing =>
          refine ⟨_, .known resolves ?_⟩
          cases takes : spec.takesValue <;> cases given <;> simp_all

/-- What the short forms of a cluster report, up to the first that fails. -/
theorem exists_resolveCluster_reports (registry : Registry) (reading : Reading)
    (following : List String) (cluster : List Char) :
    ∃ met, Reports reading registry met
      (registry.resolveCluster reading following cluster) := by
  induction cluster generalizing registry with
  | nil => exact ⟨[], .nil, .inl rfl⟩
  | cons c cluster ih =>
      simp only [resolveCluster]
      split
      · exact ⟨[], .failed _⟩
      · next found =>
          have new : registry.IsNew (.flag (some (String.ofList ['-', c])) none) :=
            .short (findShort_eq_none found)
          obtain ⟨met, reports⟩ := ih (registry.register _)
          exact ⟨_, reports.preceded (.new new (ResolvedFlag.of_gives reading rfl))⟩
      · next spec found =>
          have resolves := findShort_eq_some found
          split
          · next takes =>
              split
              · split
                · exact ⟨[], .failed _⟩
                · exact ⟨_, .known resolves takes⟩
              · exact ⟨_, .known resolves takes⟩
          · next flag =>
              obtain ⟨met, reports⟩ := ih registry
              have gives : reading.Gives spec (ResolvedFlag.of reading spec none).value :=
                ResolvedFlag.of_gives reading (by simpa using flag)
              exact ⟨_, reports.preceded (.known resolves gives)⟩

theorem exists_resolveShort_reports (registry : Registry) (reading : Reading) (word : String)
    (following : List String) :
    ∃ met, Reports reading registry met (registry.resolveShort reading word following) :=
  registry.exists_resolveCluster_reports reading following _

end Resolution

end Registry

end UsageGrammar
