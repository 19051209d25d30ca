import UsageGrammar.Registry.Entry

/-!
# Declared options

An entry of an options section begins with a dash, and so does the first word of its declaration.
Later words only add a form with a dash or the placeholder of a value, so the name of a declared
option begins with a dash.
-/

namespace UsageGrammar

open Text

section Beginnings

variable {c : Char}

theorem Text.exists_words_of_visible (visible : isBlank c = false) (text : List Char) :
    ∃ rest others, words (c :: text) = (c :: rest) :: others := by
  obtain ⟨first, pieces, split⟩ :=
    List.exists_cons_of_ne_nil (List.splitOnP_ne_nil isBlank text)
  refine ⟨first, pieces.filter fun word => !word.isEmpty, ?_⟩
  rw [words, List.splitOnP_cons_eq_if_modifyHead, split]
  simp [visible]

theorem Text.exists_trim_of_visible (visible : isBlank c = false) (text : List Char) :
    ∃ rest, trim (c :: text) = c :: rest := by
  have start : trimStart (c :: text) = c :: text := by simp [trimStart, visible]
  simp only [trim, start, dropEndWhile, List.reverse_cons, List.dropWhile_append]
  split <;> simp [visible]

theorem exists_splitLine_of_visible (visible : isBlank c = false) (text : List Char) :
    ∃ rest, (splitLine (c :: text)).1 = c :: rest := by
  have inside : c ≠ '\n' := by
    rintro rfl
    cases visible
  unfold splitLine
  split
  · exact ⟨text, rfl⟩
  · exact ⟨text.takeWhile (· != '\n'), by simp [inside]⟩

theorem exists_splitColumn_of_visible (visible : isBlank c = false) (text : List Char) :
    ∃ rest, (splitColumn (c :: text)).1 = c :: rest := by
  have tab : c ≠ '\t' := by
    rintro rfl
    cases visible
  have space : c ≠ ' ' := by
    rintro rfl
    cases visible
  exact ⟨(splitColumn text).1, by simp [splitColumn, tab, space]⟩

end Beginnings

namespace OptionSpec

/-- The name of the option begins with a dash. -/
def DashNamed (spec : OptionSpec) : Prop :=
  spec.name.toList.head? = some '-'

theorem DashNamed.declare {spec : OptionSpec} (named : spec.DashNamed) (word : List Char) :
    (spec.declare word).DashNamed := by
  obtain ⟨short, long, takesValue, default⟩ := spec
  unfold OptionSpec.declare
  split
  · simp [DashNamed, name]
  · cases long with
    | none => simp [DashNamed, name]
    | some form => exact named
  · exact named

theorem declare_dashNamed (word : List Char) :
    ((flag none none).declare ('-' :: word)).DashNamed := by
  unfold OptionSpec.declare
  split
  · next same => simp [DashNamed, name, same]
  · next same => simp [DashNamed, name, same, flag]
  · next other => exact absurd rfl (other word)

end OptionSpec

theorem declaredOption_dashNamed (declaration : List Char) :
    (declaredOption ('-' :: declaration)).DashNamed := by
  have declared (words : List (List Char)) {spec : OptionSpec} (named : spec.DashNamed) :
      (words.foldl OptionSpec.declare spec).DashNamed := by
    induction words generalizing spec with
    | nil => exact named
    | cons word words ih => exact ih (named.declare word)
  obtain ⟨rest, others, split⟩ := exists_words_of_visible (c := '-') (by decide)
    (declaration.map fun c => if c == ',' || c == '=' then ' ' else c)
  have spaced : ('-' :: declaration).map (fun c => if c == ',' || c == '=' then ' ' else c) =
      '-' :: declaration.map fun c => if c == ',' || c == '=' then ' ' else c := rfl
  simp only [declaredOption]
  rw [spaced, split, List.foldl_cons]
  exact declared others (OptionSpec.declare_dashNamed rest)

theorem OptionSpec.ofEntry_dashNamed (text : List Char) : (ofEntry ('-' :: text)).DashNamed := by
  obtain ⟨trimmed, trim⟩ := exists_trim_of_visible (c := '-') (by decide) text
  obtain ⟨line, split⟩ := exists_splitLine_of_visible (c := '-') (by decide) trimmed
  obtain ⟨declaration, column⟩ := exists_splitColumn_of_visible (c := '-') (by decide) line
  have named := declaredOption_dashNamed declaration
  simp only [ofEntry, trim, split, column]
  exact named

theorem exists_trimStart_of_startsEntry {line : List Char} (starts : startsEntry line) :
    ∃ text, trimStart line = '-' :: text := by
  unfold startsEntry at starts
  split at starts
  · next dash => exact ⟨_, dash⟩
  · cases starts

theorem exists_eq_dash_cons_of_mem_entriesOf {lines : List (List Char)} {entry : List Char}
    (member : entry ∈ entriesOf lines) : ∃ text, entry = '-' :: text := by
  induction lines with
  | nil => cases member
  | cons line lines ih =>
      simp only [entriesOf] at member
      split at member
      · next starts =>
          rcases List.mem_cons.mp member with rfl | later
          · obtain ⟨text, dash⟩ := exists_trimStart_of_startsEntry starts
            exact ⟨_, by rw [dash, List.intercalate_cons_cons_left]⟩
          · exact ih later
      · exact ih member

/-- The name of every declared option begins with a dash. -/
theorem Registry.ofDoc_dashNamed (doc : String) : ∀ spec ∈ (ofDoc doc).specs, spec.DashNamed := by
  intro spec member
  obtain ⟨_, entry, listed, rfl⟩ := exists_entry_of_mem_ofDoc member
  obtain ⟨text, rfl⟩ := exists_eq_dash_cons_of_mem_entriesOf listed
  exact OptionSpec.ofEntry_dashNamed text

end UsageGrammar
