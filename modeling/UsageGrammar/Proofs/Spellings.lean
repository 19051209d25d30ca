import UsageGrammar.Proofs.Continuation
import UsageGrammar.Proofs.PlainNames
import UsageGrammar.Proofs.RegistryGrowth

/-!
# Spellings of options

An option can be written in several ways. Its value stands in the next word or in the same word, and
either form of the option may be used. Flags stand together behind one dash or apart. Wherever the
options stand in a vector, all ways of writing them are read alike.
-/

namespace UsageGrammar

/-- A word of a dash and short forms. -/
def clusterOf (letters : List Char) : String :=
  String.ofList ('-' :: letters)

/-- The ways to write an option with its value. -/
def spellings (short long value : String) : List (List String) :=
  [[short, value], [short ++ value], [long, value], [long ++ "=" ++ value]]

/-- A token before those of a vector. -/
def Tokenized.cons (token : Token) (rest : Tokenized) : Tokenized :=
  { rest with tokens := token :: rest.tokens }

section Cluster

variable {c : Char} {cluster : List Char}

theorem WordShape.ofWord_clusterOf (other : c ≠ '-') :
    ofWord (clusterOf (c :: cluster)) = .short :=
  ofWord_short (String.toList_ofList ..) other

theorem tokenize_clusterOf {registry : Registry} (other : c ≠ '-') (following : List String) :
    tokenize false registry (clusterOf (c :: cluster) :: following) =
      (tokenize false (registry.resolveCluster .arguments following (c :: cluster)).registry
        (registry.resolveCluster .arguments following (c :: cluster)).following).after
        (clusterOf (c :: cluster))
        (registry.resolveCluster .arguments following (c :: cluster)).result := by
  have letters : (clusterOf (c :: cluster)).toList.dropWhile (· == '-') = c :: cluster := by
    simp [clusterOf, other]
  rw [tokenize_short (WordShape.ofWord_clusterOf other), Registry.resolveShort, letters]

end Cluster

section Value

namespace Registry

/-- An option that takes a value has a short form of one character and a long form, and no other
option has either of them. -/
structure HasForms (registry : Registry) (spec : OptionSpec) (c : Char) (letters : String) :
    Prop where
  takesValue : spec.takesValue
  undashed : c ≠ '-'
  short : registry.byShort (clusterOf [c]) = [spec]
  named : letters ≠ ""
  unassigned : '=' ∉ letters.toList
  long : registry.byLong ("--" ++ letters) = [spec]

variable {registry after : Registry} {spec : OptionSpec} {c : Char} {cluster : List Char}
  {word form letters value : String}

namespace HasForms

theorem of_meets {met : List ResolvedFlag} (forms : registry.HasForms spec c letters)
    (meets : registry.MeetsAll .arguments met after) : after.HasForms spec c letters where
  takesValue := forms.takesValue
  undashed := forms.undashed
  short := by rw [meets.byShort_eq (by simp [forms.short]), forms.short]
  named := forms.named
  unassigned := forms.unassigned
  long := by rw [meets.byLong_eq (by simp [forms.long]), forms.long]

theorem findShort_eq (forms : registry.HasForms spec c letters) :
    registry.findShort (clusterOf [c]) = .ok (some spec) := by
  rw [findShort, forms.short]

theorem findLong_eq (forms : registry.HasForms spec c letters) :
    registry.findLong .arguments ("--" ++ letters) = .ok (some spec) := by
  rw [findLong, forms.long]

end HasForms

theorem resolveLong_next (takes : spec.takesValue)
    (found : registry.findLong .arguments form = .ok (some spec))
    (parts : splitAssignment word = (form, none)) (ordinary : value ≠ "--")
    (following : List String) :
    registry.resolveLong .arguments word (value :: following) =
      ⟨.ok [⟨spec, .text value⟩], following, registry⟩ := by
  simp only [resolveLong, parts, found, takes, takeArgument, if_neg ordinary, ResolvedFlag.of]

theorem resolveLong_assigned (takes : spec.takesValue)
    (found : registry.findLong .arguments form = .ok (some spec))
    (parts : splitAssignment word = (form, some value)) (following : List String) :
    registry.resolveLong .arguments word following =
      ⟨.ok [⟨spec, .text value⟩], following, registry⟩ := by
  simp only [resolveLong, parts, found, takes, ResolvedFlag.of]

theorem resolveCluster_next (takes : spec.takesValue)
    (found : registry.findShort (clusterOf [c]) = .ok (some spec)) (ordinary : value ≠ "--")
    (following : List String) :
    registry.resolveCluster .arguments (value :: following) [c] =
      ⟨.ok [⟨spec, .text value⟩], following, registry⟩ := by
  rw [clusterOf] at found
  simp only [resolveCluster, found, takes, if_true, List.isEmpty_nil, takeArgument,
    if_neg ordinary, ResolvedFlag.of]

theorem resolveCluster_joined (takes : spec.takesValue)
    (found : registry.findShort (clusterOf [c]) = .ok (some spec)) (given : cluster ≠ [])
    (following : List String) :
    registry.resolveCluster .arguments following (c :: cluster) =
      ⟨.ok [⟨spec, .text (String.ofList cluster)⟩], following, registry⟩ := by
  rw [clusterOf] at found
  have some_left : cluster.isEmpty = false := by simpa using given
  simp only [resolveCluster, found, takes, if_true, some_left, Bool.false_eq_true, if_false,
    ResolvedFlag.of]

end Registry

variable {registry : Registry} {spec : OptionSpec} {c : Char} {letters value : String}
  {before spelling : List String}

/-- An option with its value is one token, however it is written. -/
theorem tokenize_spelling (forms : registry.HasForms spec c letters) (given : value ≠ "")
    (ordinary : value ≠ "--")
    (spelled : spelling ∈ spellings (clusterOf [c]) ("--" ++ letters) value)
    (after : List String) :
    tokenize false registry (spelling ++ after) =
      (tokenize false registry after).cons (.option spec.name (.text value)) := by
  have takes := forms.takesValue
  have undashed := forms.undashed
  have unassigned : '=' ∉ ("--" ++ letters).toList := by simpa using forms.unassigned
  obtain ⟨d, rest, named⟩ :=
    List.exists_cons_of_ne_nil (mt String.toList_eq_nil_iff.mp forms.named)
  simp only [spellings, List.mem_cons, List.not_mem_nil, or_false] at spelled
  rcases spelled with rfl | rfl | rfl | rfl
  · have resolved := Registry.resolveCluster_next takes forms.findShort_eq ordinary after
    rw [List.cons_append, List.singleton_append, tokenize_clusterOf undashed, resolved]
    rfl
  · have whole : clusterOf [c] ++ value = clusterOf (c :: value.toList) := by
      simp [clusterOf, ← String.toList_inj]
    have resolved := Registry.resolveCluster_joined takes forms.findShort_eq
      (mt String.toList_eq_nil_iff.mp given) after
    rw [List.singleton_append, whole, tokenize_clusterOf undashed, resolved,
      String.ofList_toList]
    rfl
  · have form : ("--" ++ letters).toList = '-' :: '-' :: d :: rest := by simp [named]
    have resolved := Registry.resolveLong_next takes forms.findLong_eq
      (Registry.splitAssignment_of_bare unassigned) ordinary after
    rw [List.cons_append, List.singleton_append, tokenize_long (WordShape.ofWord_long form),
      resolved]
    rfl
  · have form : ("--" ++ letters ++ "=" ++ value).toList =
        '-' :: '-' :: d :: (rest ++ '=' :: value.toList) := by simp [named]
    have resolved := Registry.resolveLong_assigned takes forms.findLong_eq
      (splitAssignment_append unassigned value) after
    rw [List.singleton_append, tokenize_long (WordShape.ofWord_long form), resolved]
    rfl

/-- All ways to write an option with its value are read alike, whatever stands before it and after
it. -/
theorem tokenize_spellings (forms : registry.HasForms spec c letters) (given : value ≠ "")
    (ordinary : value ≠ "--") (unterminated : "--" ∉ before)
    (supplied : (tokenize false registry before).Supplied) (after : List String) :
    ∀ spelling ∈ spellings (clusterOf [c]) ("--" ++ letters) value,
      tokenize false registry (before ++ spelling ++ after) =
        (tokenize false registry before).andThen fun known =>
          (tokenize false known after).cons (.option spec.name (.text value)) := by
  intro spelling spelled
  obtain ⟨met, reports⟩ := exists_tokenize_reports false registry before
  have read := tokenize_spelling (forms.of_meets reports.path) given ordinary spelled after
  rw [List.append_assoc, tokenize_append unterminated supplied, Tokenized.andThen, read]
  rfl

/-- `-v, --verbose` and `-o, --output <arg>` -/
def toolRegistry : Registry :=
  ⟨[.flag (some "-v") (some "--verbose"), .valued (some "-o") (some "--output")]⟩

theorem toolRegistry_hasForms :
    toolRegistry.HasForms (.valued (some "-o") (some "--output")) 'o' "output" where
  takesValue := rfl
  undashed := by decide
  short := by decide +kernel
  named := by decide
  unassigned := by decide
  long := by decide +kernel

/-- The value looks like an option, and an option that is not known stands before it. -/
theorem tokenize_spellings_output :
    toolRegistry.HasForms (.valued (some "-o") (some "--output")) 'o' "output" ∧
      tokenize false toolRegistry ["-x", "in"] = ⟨[.flag "-x", .argument "in"], [],
        toolRegistry.register (.flag (some "-x") none)⟩ ∧
      ∀ spelling ∈ [["-o", "-v=1"], ["-o-v=1"], ["--output", "-v=1"], ["--output=-v=1"]],
        tokenize false toolRegistry (["-x", "in"] ++ spelling ++ ["-v"]) =
          ⟨[.flag "-x", .argument "in", .option "--output" (.text "-v=1"), .flag "--verbose"], [],
            toolRegistry.register (.flag (some "-x") none)⟩ := by
  have before : tokenize false toolRegistry ["-x", "in"] = ⟨[.flag "-x", .argument "in"], [],
      toolRegistry.register (.flag (some "-x") none)⟩ := by cbv
  have after : tokenize false (toolRegistry.register (.flag (some "-x") none)) ["-v"] =
      ⟨[.flag "--verbose"], [], toolRegistry.register (.flag (some "-x") none)⟩ := by cbv
  have supplied : (tokenize false toolRegistry ["-x", "in"]).Supplied :=
    Tokenized.supplied_of_sound (by rw [before])
  refine ⟨toolRegistry_hasForms, before, fun spelling spelled => ?_⟩
  rw [tokenize_spellings toolRegistry_hasForms (by decide) (by decide) (by decide) supplied ["-v"]
    spelling spelled, before, Tokenized.andThen, after]
  rfl

end Value

section Flags

variable {registry before after later : Registry} {reading : Reading} {spec : OptionSpec}
  {flag : ResolvedFlag} {flags : List ResolvedFlag} {c d : Char} {cluster : List Char}

namespace Registry

theorem IsNew.takesValue_of_short {form : String} (isNew : registry.IsNew spec)
    (short : spec.short = some form) : spec.takesValue = false := by
  cases isNew with
  | long => cases short
  | short => rfl

/-- The short form of a character is that of no option or of one flag. -/
structure ReadsAsFlag (registry : Registry) (c : Char) : Prop where
  single : (registry.byShort (clusterOf [c])).length ≤ 1
  flag : ∀ spec ∈ registry.byShort (clusterOf [c]), spec.takesValue = false

/-- The short form of a character is read as one occurrence of a flag, and then the rest of its
cluster. -/
structure SplitsOff (registry : Registry) (c : Char) (flag : ResolvedFlag) (later : Registry) :
    Prop where
  meets : Meets .arguments registry flag later
  resolveCluster_eq (following : List String) (cluster : List Char) :
    registry.resolveCluster .arguments following (c :: cluster) =
      (later.resolveCluster .arguments following cluster).after flag

namespace ReadsAsFlag

theorem register (readsAsFlag : registry.ReadsAsFlag c) (isNew : registry.IsNew spec) :
    (registry.register spec).ReadsAsFlag c := by
  by_cases same : spec.short = some (clusterOf [c])
  · have unknown : registry.byShort (clusterOf [c]) = [] := by
      by_contra known
      exact isNew.short_ne known same
    have only : (registry.register spec).byShort (clusterOf [c]) = [spec] := by
      rw [byShort_register, unknown, if_pos same]
      rfl
    constructor
    · simp [only]
    · simpa [only] using isNew.takesValue_of_short same
  · have kept : (registry.register spec).byShort (clusterOf [c]) =
        registry.byShort (clusterOf [c]) := by
      rw [byShort_register, if_neg same, List.append_nil]
    constructor
    · rw [kept]
      exact readsAsFlag.single
    · rw [kept]
      exact readsAsFlag.flag

theorem of_meets (readsAsFlag : before.ReadsAsFlag c) (meets : Meets reading before flag after) :
    after.ReadsAsFlag c := by
  cases meets with
  | known => exact readsAsFlag
  | new isNew => exact readsAsFlag.register isNew

theorem of_meetsAll (readsAsFlag : before.ReadsAsFlag c)
    (meets : MeetsAll reading before flags after) : after.ReadsAsFlag c := by
  induction meets with
  | nil => exact readsAsFlag
  | cons meets _ ih => exact ih (readsAsFlag.of_meets meets)

theorem exists_splitsOff (readsAsFlag : registry.ReadsAsFlag c) :
    ∃ flag later, registry.SplitsOff c flag later := by
  have at_most_one := readsAsFlag.single
  have all_flags := readsAsFlag.flag
  cases known : registry.byShort (clusterOf [c]) with
  | nil =>
      have found : registry.findShort (clusterOf [c]) = .ok none := by rw [findShort, known]
      rw [clusterOf] at found
      refine ⟨.of .arguments (.flag (some (clusterOf [c])) none) none, registry.register _,
        .new (.short known) (ResolvedFlag.of_gives .arguments rfl), ?_⟩
      intro following cluster
      simp only [resolveCluster, found]
      rfl
  | cons spec others =>
      obtain rfl : others = [] := by simpa [known] using at_most_one
      have takes : spec.takesValue = false := all_flags spec (by simp [known])
      have found : registry.findShort (clusterOf [c]) = .ok (some spec) := by
        rw [findShort, known]
      rw [clusterOf] at found
      refine ⟨.of .arguments spec none, registry,
        .known (.inr ⟨_, known⟩) (ResolvedFlag.of_gives .arguments takes), ?_⟩
      intro following cluster
      simp only [resolveCluster, found, takes, Bool.false_eq_true, if_false]

end ReadsAsFlag

end Registry

/-- A flag by itself is one token. -/
theorem tokenize_flag (splits : registry.SplitsOff c flag later) (undashed : c ≠ '-')
    (following : List String) :
    tokenize false registry (clusterOf [c] :: following) =
      (tokenize false later following).cons flag.toToken := by
  rw [tokenize_clusterOf undashed, splits.resolveCluster_eq, Registry.resolveCluster]
  rfl

/-- A flag at the head of a cluster can be taken off it, unless the cluster fails. -/
theorem tokenize_cluster_cons (splits : registry.SplitsOff c flag later) (undashed : c ≠ '-')
    (other_undashed : d ≠ '-') {following : List String}
    (sound : (tokenize false registry (clusterOf (c :: d :: cluster) :: following)).errors = []) :
    tokenize false registry (clusterOf (c :: d :: cluster) :: following) =
      (tokenize false later (clusterOf (d :: cluster) :: following)).cons flag.toToken := by
  rw [tokenize_clusterOf undashed, splits.resolveCluster_eq] at sound ⊢
  rw [tokenize_clusterOf other_undashed]
  generalize later.resolveCluster .arguments following (d :: cluster) = resolution at sound ⊢
  obtain ⟨result, remaining, known⟩ := resolution
  cases result with
  | error error => cases sound
  | ok flags => rfl

theorem exists_cons_of_undashed {letters rest : List Char} (undashed : '-' ∉ letters)
    (nonempty : rest ≠ []) (rest_undashed : rest.head? ≠ some '-') :
    ∃ d cluster, letters ++ rest = d :: cluster ∧ d ≠ '-' := by
  cases letters with
  | nil =>
      obtain ⟨d, cluster, rfl⟩ := List.exists_cons_of_ne_nil nonempty
      exact ⟨d, cluster, rfl, by simpa using rest_undashed⟩
  | cons d letters =>
      refine ⟨d, letters ++ rest, rfl, ?_⟩
      rintro rfl
      exact undashed List.mem_cons_self

/-- The flags at the head of a cluster can be taken off it one by one, unless the cluster fails. -/
theorem tokenize_flags_apart {letters rest : List Char} (undashed : '-' ∉ letters)
    (readAsFlags : ∀ c ∈ letters, registry.ReadsAsFlag c) (nonempty : rest ≠ [])
    (rest_undashed : rest.head? ≠ some '-') {following : List String}
    (sound : (tokenize false registry (clusterOf (letters ++ rest) :: following)).errors = []) :
    tokenize false registry (letters.map (clusterOf [·]) ++ clusterOf rest :: following) =
      tokenize false registry (clusterOf (letters ++ rest) :: following) := by
  induction letters generalizing registry with
  | nil => rfl
  | cons c letters ih =>
      obtain ⟨c_undashed, others_undashed⟩ := not_or.mp (mt List.mem_cons.mpr undashed)
      obtain ⟨first, others⟩ := List.forall_mem_cons.mp readAsFlags
      obtain ⟨flag, later, splits⟩ := first.exists_splitsOff
      obtain ⟨d, cluster, remaining, d_undashed⟩ :=
        exists_cons_of_undashed others_undashed nonempty rest_undashed
      rw [List.cons_append, remaining] at sound ⊢
      have taken_off := tokenize_cluster_cons splits (Ne.symm c_undashed) d_undashed sound
      rw [taken_off] at sound ⊢
      rw [List.map_cons, List.cons_append, tokenize_flag splits (Ne.symm c_undashed), ← remaining]
      have later_flags : ∀ c ∈ letters, later.ReadsAsFlag c := fun c member =>
        (others c member).of_meets splits.meets
      rw [ih others_undashed later_flags (remaining ▸ sound)]

/-- Flags behind one dash mean the same as the flags apart, wherever they stand, unless a word is
not understood. -/
theorem tokenize_cluster_apart {letters rest : List Char} {before following : List String}
    (undashed : '-' ∉ letters) (readAsFlags : ∀ c ∈ letters, registry.ReadsAsFlag c)
    (nonempty : rest ≠ []) (rest_undashed : rest.head? ≠ some '-') (unterminated : "--" ∉ before)
    (supplied : (tokenize false registry before).Supplied)
    (sound : (tokenize false registry
      (before ++ clusterOf (letters ++ rest) :: following)).errors = []) :
    tokenize false registry
        (before ++ (letters.map (clusterOf [·]) ++ clusterOf rest :: following)) =
      tokenize false registry (before ++ clusterOf (letters ++ rest) :: following) := by
  obtain ⟨met, reports⟩ := exists_tokenize_reports false registry before
  rw [tokenize_append unterminated supplied] at sound
  have later_flags : ∀ c ∈ letters,
      (tokenize false registry before).registry.ReadsAsFlag c := fun c member =>
    (readAsFlags c member).of_meetsAll reports.path
  have later_sound := (List.append_eq_nil_iff.mp sound).2
  rw [tokenize_append unterminated supplied, tokenize_append unterminated supplied,
    Tokenized.andThen, Tokenized.andThen,
    tokenize_flags_apart undashed later_flags nonempty rest_undashed later_sound]

/-- The cluster has a flag twice, one that is not known, and at its end an option with its value. -/
theorem tokenize_cluster_apart_output :
    (∀ c ∈ ['v', 'x', 'v'], toolRegistry.ReadsAsFlag c) ∧
      (tokenize false toolRegistry ("in" :: "-vxvoout" :: ["--"])).errors = [] ∧
      tokenize false toolRegistry ["in", "-v", "-x", "-v", "-oout", "--"] =
        tokenize false toolRegistry ["in", "-vxvoout", "--"] := by
  have readAsFlags : ∀ c ∈ ['v', 'x', 'v'], toolRegistry.ReadsAsFlag c := by
    intro c member
    simp only [List.mem_cons, List.not_mem_nil, or_false] at member
    rcases member with rfl | rfl | rfl
    · exact ⟨by decide +kernel, by decide +kernel⟩
    · exact ⟨by decide +kernel, by decide +kernel⟩
    · exact ⟨by decide +kernel, by decide +kernel⟩
  have sound : (tokenize false toolRegistry
      (["in"] ++ clusterOf (['v', 'x', 'v'] ++ ['o', 'o', 'u', 't']) :: ["--"])).errors = [] := by
    cbv
  have supplied : (tokenize false toolRegistry ["in"]).Supplied :=
    Tokenized.supplied_of_sound (by cbv)
  exact ⟨readAsFlags, sound, tokenize_cluster_apart (by decide) readAsFlags (by decide) (by decide)
    (by decide) supplied sound⟩

end Flags

end UsageGrammar
