import UsageGrammar.Argv

/-!
# The words after an option word

An option word leaves the words after it alone, or it takes the first of them as its value. This is
all that its resolution makes of them: what remains is an end of them, and a terminator has the
effect of an end. An option word that resolves gives at least one option.
-/

namespace UsageGrammar

/-- A cluster is a dash and at least one character, the first of which is no dash. -/
theorem WordShape.exists_cluster_of_short {word : String} (short : ofWord word = .short) :
    ∃ c cluster, word.toList = '-' :: c :: cluster ∧ c ≠ '-' := by
  have means := means_ofWord word
  rw [short] at means
  cases means with
  | short letters other => exact ⟨_, _, letters, other⟩

theorem takeArgument_eq_ok {form word : String} {following rest : List String}
    (taken : takeArgument form following = .ok (word, rest)) :
    following = word :: rest ∧ word ≠ "--" := by
  cases following with
  | nil => cases taken
  | cons next following =>
      simp only [takeArgument] at taken
      split at taken
      · cases taken
      · next other =>
          obtain ⟨rfl, rfl⟩ := Prod.mk.inj (Except.ok.inj taken)
          exact ⟨rfl, other⟩

namespace Resolution

/-- Takes the next word as a value, on which the occurrences depend. -/
def takingValue (form : String) (flags : String → List ResolvedFlag) (registry : Registry)
    (following : List String) : Resolution :=
  match takeArgument form following with
  | .error error => ⟨.error error, following, registry⟩
  | .ok (word, rest) => ⟨.ok (flags word), rest, registry⟩

/-- The words after an option word have no part in its resolution, or the next one is its value. -/
inductive Uses (resolve : List String → Resolution) : Prop
  | nothing (result : Except FlagError (List ResolvedFlag)) (registry : Registry) :
      (∀ following, resolve following = ⟨result, following, registry⟩) → Uses resolve
  | value (form : String) (flags : String → List ResolvedFlag) (registry : Registry) :
      (∀ following, resolve following = takingValue form flags registry following) → Uses resolve

variable {resolve : List String → Resolution}

theorem takingValue_after (form : String) (flags : String → List ResolvedFlag)
    (registry : Registry) (following : List String) (flag : ResolvedFlag) :
    (takingValue form flags registry following).after flag =
      takingValue form (fun word => flag :: flags word) registry following := by
  unfold takingValue
  cases takeArgument form following <;> rfl

theorem Uses.after (uses : Uses resolve) (flag : ResolvedFlag) :
    Uses fun following => (resolve following).after flag := by
  cases uses with
  | nothing result registry same =>
      refine .nothing (result.map (flag :: ·)) registry fun following => ?_
      rw [same]
      rfl
  | value form flags registry same =>
      refine .value form (fun word => flag :: flags word) registry fun following => ?_
      rw [same, takingValue_after]

/-- What is left of the words after an option word is the end of them. -/
theorem Uses.suffix (uses : Uses resolve) (following : List String) :
    (resolve following).following <:+ following := by
  cases uses with
  | nothing _ _ same => simp only [same, List.suffix_refl]
  | value _ _ _ same =>
      rw [same, takingValue]
      split
      · exact List.suffix_refl _
      · next word rest taken =>
          obtain ⟨rfl, -⟩ := takeArgument_eq_ok taken
          exact List.suffix_cons ..

/-- The terminator is no value, so it has the effect of an end. -/
theorem Uses.append_terminator (uses : Uses resolve) (following after : List String) :
    resolve (following ++ "--" :: after) =
      { resolve following with following := (resolve following).following ++ "--" :: after } := by
  cases uses with
  | nothing _ _ same => rw [same, same]
  | value _ _ _ same =>
      rw [same, same]
      cases following with
      | nil => rfl
      | cons word following =>
          simp only [List.cons_append, takingValue, takeArgument]
          by_cases terminator : word = "--"
          · simp [terminator]
          · simp [terminator]

theorem after_ne_nil (flag : ResolvedFlag) (resolution : Resolution) :
    (resolution.after flag).result ≠ .ok [] := by
  unfold after
  cases resolution.result with
  | error error => exact nofun
  | ok flags => exact fun same => by cases same

end Resolution

namespace Registry

theorem resolveLong_uses (registry : Registry) (reading : Reading) (word : String) :
    Resolution.Uses fun following => registry.resolveLong reading word following := by
  simp only [resolveLong]
  generalize splitAssignment word = parts
  obtain ⟨form, given⟩ := parts
  split
  · exact .nothing _ _ fun _ => rfl
  · exact .nothing _ _ fun _ => rfl
  · next spec found =>
      split
      · exact .nothing _ _ fun _ => rfl
      · exact .value spec.name (fun value => [.of reading spec (some value)]) registry fun _ => rfl
      · exact .nothing _ _ fun _ => rfl

theorem resolveCluster_uses (registry : Registry) (reading : Reading) (cluster : List Char) :
    Resolution.Uses fun following => registry.resolveCluster reading following cluster := by
  induction cluster generalizing registry with
  | nil => exact .nothing (.ok []) registry fun _ => rfl
  | cons c cluster ih =>
      simp only [resolveCluster]
      split
      · exact .nothing _ _ fun _ => rfl
      · exact (ih _).after _
      · next spec found =>
          split
          · split
            · exact .value _ (fun value => [.of reading spec (some value)]) registry fun _ => rfl
            · exact .nothing _ _ fun _ => rfl
          · exact (ih registry).after _

theorem resolveShort_uses (registry : Registry) (reading : Reading) (word : String) :
    Resolution.Uses (registry.resolveShort reading word) :=
  registry.resolveCluster_uses reading _

theorem resolveLong_ne_nil (registry : Registry) (reading : Reading) (word : String)
    (following : List String) : (registry.resolveLong reading word following).result ≠ .ok [] := by
  intro none_resolved
  simp only [resolveLong] at none_resolved
  split at none_resolved
  · cases none_resolved
  · cases none_resolved
  · split at none_resolved
    · cases none_resolved
    · split at none_resolved <;> cases none_resolved
    · cases none_resolved

theorem resolveCluster_ne_nil (registry : Registry) (reading : Reading) (following : List String)
    (c : Char) (cluster : List Char) :
    (registry.resolveCluster reading following (c :: cluster)).result ≠ .ok [] := by
  intro none_resolved
  simp only [resolveCluster] at none_resolved
  split at none_resolved
  · cases none_resolved
  · exact Resolution.after_ne_nil _ _ none_resolved
  · split at none_resolved
    · split at none_resolved
      · split at none_resolved <;> cases none_resolved
      · cases none_resolved
    · exact Resolution.after_ne_nil _ _ none_resolved

theorem resolveShort_ne_nil {word : String} (short : WordShape.ofWord word = .short)
    (registry : Registry) (reading : Reading) (following : List String) :
    (registry.resolveShort reading word following).result ≠ .ok [] := by
  obtain ⟨c, cluster, letters, other⟩ := WordShape.exists_cluster_of_short short
  have undashed : word.toList.dropWhile (· == '-') = c :: cluster := by
    simp [letters, other]
  rw [resolveShort, undashed]
  exact registry.resolveCluster_ne_nil reading following c cluster

end Registry

end UsageGrammar
