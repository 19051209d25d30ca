import UsageGrammar.Error
import UsageGrammar.Registry
import UsageGrammar.Token

/-!
# Option words

An option word is a long form, with an optional value after an equals sign, or a cluster of short
forms behind one dash. It is resolved against a registry. Usage expressions and argument vectors
are read by one rule, but only an argument vector gives values and may abbreviate long forms. An
option that is not known is registered as it is met.
-/

namespace UsageGrammar

/-- Where an option word stands. -/
inductive Reading where
  | usage
  | arguments
  deriving Repr, DecidableEq, Inhabited

/-- One occurrence of an option. -/
structure ResolvedFlag where
  spec : OptionSpec
  value : Value
  deriving Repr, DecidableEq, Inhabited

namespace ResolvedFlag

/-- An occurrence with the text that was given to it. In a usage expression it has no value. -/
def of (reading : Reading) (spec : OptionSpec) (given : Option String) : ResolvedFlag :=
  ⟨spec,
    match reading, given with
    | .usage, _ => .null
    | .arguments, some word => .text word
    | .arguments, none => .bool true⟩

/-- The token of an occurrence, under the name of the option. -/
def toToken (flag : ResolvedFlag) : Token :=
  .option flag.spec.name flag.value

end ResolvedFlag

/-- What comes of an option word: its occurrences or an error, the words after it that were not
taken, and the registry with the options that were new. -/
structure Resolution where
  result : Except FlagError (List ResolvedFlag)
  following : List String
  registry : Registry

namespace Resolution

/-- The same resolution with one more occurrence before the others. -/
def after (flag : ResolvedFlag) (resolution : Resolution) : Resolution :=
  { resolution with result := resolution.result.map (flag :: ·) }

end Resolution

/-- The next word as the value of an option. The terminator is no value. -/
def takeArgument (form : String) : List String → Except FlagError (String × List String)
  | [] => .error (.missingArgument form)
  | word :: following =>
    if word = "--" then .error (.missingArgument form) else .ok (word, following)

/-- A long word without its value, and the value after the first equals sign. -/
def splitAssignment (word : String) : String × Option String :=
  match word.toList.dropWhile (· != '=') with
  | [] => (word, none)
  | _ :: value => (String.ofList (word.toList.takeWhile (· != '=')), some (String.ofList value))

namespace Registry

/-- The option that a long form means, if one is known. Only an argument vector may abbreviate. -/
def findLong (registry : Registry) (reading : Reading) (form : String) :
    Except FlagError (Option OptionSpec) :=
  match registry.byLong form with
  | [spec] => .ok (some spec)
  | [] =>
    match reading with
    | .usage => .ok none
    | .arguments =>
      match registry.byLongBeginning form with
      | [] => .ok none
      | [spec] => .ok (some spec)
      | specs => .error (.notUniquePrefix form (specs.filterMap OptionSpec.long))
  | specs => .error (.ambiguousLong form specs.length)

/-- The option that a short form means, if one is known. -/
def findShort (registry : Registry) (form : String) : Except FlagError (Option OptionSpec) :=
  match registry.byShort form with
  | [] => .ok none
  | [spec] => .ok (some spec)
  | specs => .error (.ambiguousShort form specs.length)

/-- Resolves a long word. A new option takes a value when it is met with one. -/
def resolveLong (registry : Registry) (reading : Reading) (word : String)
    (following : List String) : Resolution :=
  let (form, given) := splitAssignment word
  match registry.findLong reading form with
  | .error error => ⟨.error error, following, registry⟩
  | .ok none =>
    let spec := { OptionSpec.flag none (some form) with takesValue := given.isSome }
    ⟨.ok [.of reading spec given], following, registry.register spec⟩
  | .ok (some spec) =>
    match spec.takesValue, given with
    | false, some _ => ⟨.error (.unexpectedArgument spec.name), following, registry⟩
    | true, none =>
      match takeArgument spec.name following with
      | .error error => ⟨.error error, following, registry⟩
      | .ok (word, rest) => ⟨.ok [.of reading spec (some word)], rest, registry⟩
    | _, _ => ⟨.ok [.of reading spec given], following, registry⟩

/-- Resolves the short forms of a cluster. An option with a value takes the rest of the cluster,
or the next word where nothing is left of it. -/
def resolveCluster (registry : Registry) (reading : Reading) (following : List String) :
    List Char → Resolution
  | [] => ⟨.ok [], following, registry⟩
  | c :: cluster =>
    let form := String.ofList ['-', c]
    match registry.findShort form with
    | .error error => ⟨.error error, following, registry⟩
    | .ok none =>
      let spec := OptionSpec.flag (some form) none
      (resolveCluster (registry.register spec) reading following cluster).after
        (.of reading spec none)
    | .ok (some spec) =>
      if spec.takesValue then
        if cluster.isEmpty then
          match takeArgument form following with
          | .error error => ⟨.error error, following, registry⟩
          | .ok (word, rest) => ⟨.ok [.of reading spec (some word)], rest, registry⟩
        else ⟨.ok [.of reading spec (some (String.ofList cluster))], following, registry⟩
      else
        (resolveCluster registry reading following cluster).after (.of reading spec none)

/-- Resolves a short word, that is, the cluster behind its dashes. -/
def resolveShort (registry : Registry) (reading : Reading) (word : String)
    (following : List String) : Resolution :=
  registry.resolveCluster reading following (word.toList.dropWhile (· == '-'))

theorem takeArgument_length {form word : String} {following rest : List String}
    (taken : takeArgument form following = .ok (word, rest)) : rest.length ≤ following.length := by
  cases following with
  | nil => simp [takeArgument] at taken
  | cons head tail =>
    simp only [takeArgument] at taken
    split at taken
    · simp at taken
    · obtain ⟨rfl, rfl⟩ := Prod.mk.inj (Except.ok.inj taken)
      simp

/-- A long word takes words only from what follows it. -/
theorem resolveLong_length (registry : Registry) (reading : Reading) (word : String)
    (following : List String) :
    (registry.resolveLong reading word following).following.length ≤ following.length := by
  simp only [resolveLong]
  split
  · exact Nat.le_refl _
  · exact Nat.le_refl _
  · split
    · exact Nat.le_refl _
    · split
      · exact Nat.le_refl _
      · next taken => exact takeArgument_length taken
    · exact Nat.le_refl _

theorem resolveCluster_length (registry : Registry) (reading : Reading) (following : List String)
    (cluster : List Char) :
    (registry.resolveCluster reading following cluster).following.length ≤ following.length := by
  induction cluster generalizing registry with
  | nil => exact Nat.le_refl _
  | cons c cluster ih =>
    simp only [resolveCluster]
    split
    · exact Nat.le_refl _
    · exact ih _
    · split
      · split
        · split
          · exact Nat.le_refl _
          · next taken => exact takeArgument_length taken
        · exact Nat.le_refl _
      · exact ih _

theorem resolveShort_length (registry : Registry) (reading : Reading) (word : String)
    (following : List String) :
    (registry.resolveShort reading word following).following.length ≤ following.length :=
  registry.resolveCluster_length reading following _

end Registry

end UsageGrammar
