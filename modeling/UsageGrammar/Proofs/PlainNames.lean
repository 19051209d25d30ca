import UsageGrammar.Proofs.FlagExpressions
import UsageGrammar.Proofs.PrintedWords

/-!
# Plain names

A plain word is cut off as one word and tells by its letters whether it is an argument or a command.
An option that is spelled with a plain word is printed as one word, with a placeholder behind an
equals sign where it takes a value. The registry resolves that word to the option again, takes
nothing of what follows, and learns nothing.
-/

namespace UsageGrammar

open Expression

/-- A word without blanks, brackets, bars, angle brackets, equals signs and dots, and without a dash
in front. -/
structure PlainWord (word : String) : Prop where
  nonempty : word ≠ ""
  ordinary : ∀ c ∈ word.toList, IsOrdinary c
  unassigned : '=' ∉ word.toList
  undashed : word.toList.head? ≠ some '-'

instance : DecidablePred PlainWord := fun word =>
  decidable_of_iff (word ≠ "" ∧ word.toList.all (fun c => decide (IsOrdinary c)) = true ∧
      '=' ∉ word.toList ∧ word.toList.head? ≠ some '-')
    ⟨fun ⟨nonempty, ordinary, unassigned, undashed⟩ =>
      ⟨nonempty, by simpa using ordinary, unassigned, undashed⟩,
      fun ⟨nonempty, ordinary, unassigned, undashed⟩ =>
        ⟨nonempty, by simpa using ordinary, unassigned, undashed⟩⟩

/-- A word with an uppercase letter and without a lowercase letter. -/
def isCapital (word : String) : Bool :=
  word.toList.any Text.isUppercase && !word.toList.any Text.isLowercase

/-- The name of an option is a plain form, which no other option of the registry has. -/
inductive Registry.Spells (registry : Registry) (spec : OptionSpec) : Prop
  | long {word : String} : PlainWord word → spec.long = some ("--" ++ word) →
      registry.byLong ("--" ++ word) = [spec] → Spells registry spec
  | short {c : Char} : IsOrdinary c → c ≠ '=' → c ≠ '-' → spec.long = none →
      spec.short = some (String.ofList ['-', c]) →
      registry.byShort (String.ofList ['-', c]) = [spec] → Spells registry spec

section Words

variable {word : String} {c : Char}

theorem WordShape.ofWord_long {rest : List Char} (letters : word.toList = '-' :: '-' :: c :: rest) :
    ofWord word = .long := by
  rw [ofWord, letters]
  rfl

theorem WordShape.ofWord_short {rest : List Char} (letters : word.toList = '-' :: c :: rest)
    (other : c ≠ '-') : ofWord word = .short := by
  rw [ofWord, letters]
  split
  · next same => exact absurd (List.cons.inj (List.cons.inj same).2).1 other
  · next same => exact absurd (List.cons.inj (List.cons.inj same).2).1 other
  · next same => cases same
  · rfl
  · next dashless => exact absurd rfl (dashless _)

theorem ne_options_of_dash {rest : List Char} (letters : word.toList = '-' :: rest) :
    word ≠ "options" := by
  rintro rfl
  cases letters

theorem Expression.SingleWord.symbol_eq (single : SingleWord word.toList)
    (other : word ≠ "options") :
    Symbol.ofWord word =
      match WordShape.ofWord word with
      | .long => .long
      | .short => .short
      | _ => if isArgumentName word then .argument else .command := by
  have ne_grouping (c : Char) (grouping : isGrouping c = true) : word ≠ String.ofList [c] := by
    rintro rfl
    have apart := single.apart_of_mem (c := c) (by simp)
    rw [grouping] at apart
    cases apart.2.1
  unfold Symbol.ofWord
  rewrite [if_neg (ne_grouping '(' rfl), if_neg (ne_grouping '[' rfl), if_neg (ne_grouping ')' rfl),
    if_neg (ne_grouping ']' rfl), if_neg (ne_grouping '|' rfl), if_neg other]
  rfl

namespace PlainWord

theorem singleWord (plain : PlainWord word) : SingleWord word.toList :=
  .run (by simpa using plain.nonempty) plain.ordinary

theorem isArgumentName_eq (plain : PlainWord word) : isArgumentName word = isCapital word := by
  have head : word.toList.head? ≠ some '<' := fun opening =>
    (plain.ordinary '<' (List.mem_of_head? opening)).ne_opening rfl
  simp [isArgumentName, isCapital, head]

/-- A plain word stands for an argument or a command, as its letters tell. -/
theorem symbol_eq (plain : PlainWord word) (other : word ≠ "options") :
    Symbol.ofWord word = if isCapital word then .argument else .command := by
  rw [plain.singleWord.symbol_eq other, WordShape.ofWord_of_undashed plain.undashed,
    plain.isArgumentName_eq]

theorem placeholder (plain : PlainWord word) :
    SingleWord ("<" ++ word ++ ">").toList ∧ Symbol.ofWord ("<" ++ word ++ ">") = .argument := by
  have letters : ("<" ++ word ++ ">").toList = [] ++ '<' :: (word.toList ++ ['>']) := by simp
  have single : SingleWord ("<" ++ word ++ ">").toList := by
    rw [letters]
    exact .placeholder (by simp) plain.ordinary
  have other : "<" ++ word ++ ">" ≠ "options" := by
    intro same
    rw [same] at letters
    cases letters
  have undashed : WordShape.ofWord ("<" ++ word ++ ">") = .plain :=
    WordShape.ofWord_of_undashed (by simp [letters])
  have opening : ("<" ++ word ++ ">").toList.head? = some '<' := by simp [letters]
  have closing : ("<" ++ word ++ ">").toList.getLast? = some '>' := by
    simp [letters, List.getLast?_cons]
  have name : isArgumentName ("<" ++ word ++ ">") = true := by
    simp only [isArgumentName, opening, closing, beq_self_eq_true, Bool.and_self, Bool.true_or]
  rw [single.symbol_eq other, undashed, name]
  exact ⟨single, rfl⟩

end PlainWord

end Words

section OptionWords

variable {registry : Registry} {spec : OptionSpec} {word form : String} {c : Char}

theorem splitAssignment_append (unassigned : '=' ∉ form.toList) (value : String) :
    splitAssignment (form ++ "=" ++ value) = (form, some value) := by
  have letters : (form ++ "=" ++ value).toList = form.toList ++ '=' :: value.toList := by simp
  have other : ∀ c ∈ form.toList, (c != '=') = true := by
    intro c member
    simp only [bne_iff_ne]
    rintro rfl
    exact unassigned member
  have before : (form.toList ++ '=' :: value.toList).takeWhile (· != '=') = form.toList := by
    rw [List.takeWhile_append_of_pos other]
    simp
  have after : (form.toList ++ '=' :: value.toList).dropWhile (· != '=') =
      '=' :: value.toList := by
    rw [List.dropWhile_append_of_pos other]
    simp
  rw [splitAssignment, letters, after, before]
  simp

/-- What is printed of an option: its name, and a placeholder for its value. -/
theorem Pattern.render_option (spec : OptionSpec) :
    (Pattern.option spec).render = if spec.takesValue then spec.name ++ "=<arg>" else spec.name := by
  rw [Pattern.render]

namespace Registry

theorem resolveLong_of_byLong (only : registry.byLong form = [spec])
    (unassigned : '=' ∉ form.toList) (following : List String) :
    registry.resolveLong .usage (if spec.takesValue then form ++ "=<arg>" else form) following =
      ⟨.ok [⟨spec, .null⟩], following, registry⟩ := by
  have found : registry.findLong .usage form = .ok (some spec) := by rw [findLong, only]
  cases takes : spec.takesValue with
  | true =>
      have parts : splitAssignment (form ++ "=<arg>") = (form, some "<arg>") := by
        have whole : form ++ "=<arg>" = form ++ "=" ++ "<arg>" := by simp [← String.toList_inj]
        rw [whole, splitAssignment_append unassigned]
      simp only [if_true, resolveLong, parts, found, takes, ResolvedFlag.of]
  | false =>
      have parts : splitAssignment form = (form, none) := splitAssignment_of_bare unassigned
      simp only [Bool.false_eq_true, if_false, resolveLong, parts, found, takes, ResolvedFlag.of]

theorem resolveShort_of_byShort (only : registry.byShort (String.ofList ['-', c]) = [spec])
    (other : c ≠ '-') (following : List String) :
    registry.resolveShort .usage
        (if spec.takesValue then String.ofList ['-', c] ++ "=<arg>" else String.ofList ['-', c])
        following =
      ⟨.ok [⟨spec, .null⟩], following, registry⟩ := by
  have found : registry.findShort (String.ofList ['-', c]) = .ok (some spec) := by
    rw [findShort, only]
  cases takes : spec.takesValue with
  | true =>
      have cluster : (String.ofList ['-', c] ++ "=<arg>").toList.dropWhile (· == '-') =
          [c, '=', '<', 'a', 'r', 'g', '>'] := by simp [other]
      simp only [if_true, resolveShort, cluster, resolveCluster, found, takes, ResolvedFlag.of]
      rfl
  | false =>
      have cluster : (String.ofList ['-', c]).toList.dropWhile (· == '-') = [c] := by
        simp [other]
      simp only [Bool.false_eq_true, if_false, resolveShort, cluster, resolveCluster, found, takes,
        ResolvedFlag.of]
      rfl

end Registry

namespace Registry.Spells

theorem name_ordinary (spells : registry.Spells spec) :
    spec.name ≠ "" ∧ ∀ c ∈ spec.name.toList, IsOrdinary c := by
  have dash : IsOrdinary '-' := by decide
  cases spells with
  | @long word plain has only =>
      have name : spec.name = "--" ++ word := OptionSpec.name_of_long has
      have letters : spec.name.toList = '-' :: '-' :: word.toList := by simp [name]
      refine ⟨by simp [name], fun c member => ?_⟩
      simp only [letters, List.mem_cons] at member
      rcases member with rfl | rfl | inside
      · exact dash
      · exact dash
      · exact plain.ordinary c inside
  | @short c ordinary _ _ has_none has only =>
      have name : spec.name = String.ofList ['-', c] := OptionSpec.name_of_short has_none has
      refine ⟨by simp [name], fun d member => ?_⟩
      simp only [name, String.toList_ofList, List.mem_cons, List.not_mem_nil, or_false] at member
      rcases member with rfl | rfl
      · exact dash
      · exact ordinary

theorem singleWord (spells : registry.Spells spec) :
    SingleWord (Pattern.option spec).render.toList := by
  obtain ⟨some_name, ordinary⟩ := spells.name_ordinary
  rw [Pattern.render_option]
  split
  · have value : PlainWord "arg" := by decide
    have letters : (spec.name ++ "=<arg>").toList =
        (spec.name.toList ++ ['=']) ++ '<' :: ("arg".toList ++ ['>']) := by simp
    rw [letters]
    refine .placeholder (fun c member => ?_) value.ordinary
    rcases List.mem_append.mp member with inside | equals
    · exact ordinary c inside
    · rw [List.mem_singleton.mp equals]
      decide
  · exact .run (by simpa using some_name) ordinary

/-- A printed option is resolved to the option, whatever follows it. -/
theorem optionWord?_eq (spells : registry.Spells spec) (following : List String) :
    optionWord? registry (Pattern.option spec).render following =
      some ⟨.ok [⟨spec, .null⟩], following, registry⟩ := by
  have single := spells.singleWord
  obtain ⟨suffix, printed⟩ : ∃ suffix, (Pattern.option spec).render = spec.name ++ suffix := by
    rw [Pattern.render_option]
    split
    · exact ⟨_, rfl⟩
    · exact ⟨"", by simp⟩
  cases spells with
  | @long word plain has only =>
      have name : spec.name = "--" ++ word := OptionSpec.name_of_long has
      obtain ⟨c, rest, letters⟩ := List.exists_cons_of_ne_nil plain.singleWord.ne_nil
      have printed_letters : (Pattern.option spec).render.toList =
          '-' :: '-' :: c :: (rest ++ suffix.toList) := by simp [printed, name, letters]
      have meaning : Symbol.ofWord (Pattern.option spec).render = .long := by
        rw [single.symbol_eq (ne_options_of_dash printed_letters),
          WordShape.ofWord_long printed_letters]
      have unassigned : '=' ∉ ("--" ++ word).toList := by simpa using plain.unassigned
      rw [optionWord?, meaning, Pattern.render_option, name,
        resolveLong_of_byLong only unassigned]
  | @short c ordinary _ undashed has_none has only =>
      have name : spec.name = String.ofList ['-', c] := OptionSpec.name_of_short has_none has
      have printed_letters : (Pattern.option spec).render.toList = '-' :: c :: suffix.toList := by
        simp [printed, name]
      have meaning : Symbol.ofWord (Pattern.option spec).render = .short := by
        rw [single.symbol_eq (ne_options_of_dash printed_letters),
          WordShape.ofWord_short printed_letters undashed]
      rw [optionWord?, meaning, Pattern.render_option, name, resolveShort_of_byShort only undashed]

end Registry.Spells

end OptionWords

end UsageGrammar
