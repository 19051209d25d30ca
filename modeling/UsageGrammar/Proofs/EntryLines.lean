import UsageGrammar.Proofs.Declarations
import UsageGrammar.Proofs.EntryParts
import UsageGrammar.Proofs.LabelSearch

/-!
# Options and entry lines

Every entry line of the options sections declares one option, in the order of the document. The
forms of the option are read from that line alone, and its default value from the line and those
after it, up to the next entry line or the end of the section.
-/

namespace UsageGrammar

open Text

/-- An entry line, and lines after it on which no entry starts. -/
structure EntryBlock where
  line : List Char
  starts : startsEntry line
  continuation : List (List Char)
  continues : ∀ next ∈ continuation, startsEntry next = false

namespace EntryBlock

def lines (block : EntryBlock) : List (List Char) :=
  block.line :: block.continuation

/-- The option of a block: all but the default value are those of the entry line on its own. -/
def option (block : EntryBlock) : OptionSpec :=
  { OptionSpec.ofEntry block.line with
    default := (OptionSpec.ofEntry (['\n'].intercalate block.lines)).default }

end EntryBlock

/-- Blocks that take all lines from the first entry line on. -/
def TakesEntries (source : List (List Char)) (blocks : List EntryBlock) : Prop :=
  ∃ preamble, (∀ line ∈ preamble, startsEntry line = false) ∧
    source = preamble ++ blocks.flatMap EntryBlock.lines

/-- The lines of a text, the first one from behind the label on. -/
def linesBehind (label : String) (text : List Char) : List (List Char) :=
  match lines text with
  | [] => []
  | line :: others => afterLabel label line :: others

variable {text gap line rest : List Char} {source : List (List Char)} {blocks : List EntryBlock}

section Words

theorem words_append_blank {c : Char} (blank : isBlank c) (text rest : List Char) :
    words (text ++ c :: rest) = words text ++ words rest := by
  rw [words, List.splitOnP_append_cons text rest blank, List.filter_append]
  rfl

theorem words_blanks (blank : ∀ c ∈ text, isBlank c) : words text = [] := by
  induction text with
  | nil => rfl
  | cons c text ih =>
      obtain ⟨here, blank⟩ := List.forall_mem_cons.mp blank
      exact (words_append_blank here [] text).trans (ih blank)

theorem words_append_blanks (blank : ∀ c ∈ gap, isBlank c) (text : List Char) :
    words (text ++ gap) = words text := by
  cases gap with
  | nil => rw [List.append_nil]
  | cons c gap =>
      obtain ⟨here, blank⟩ := List.forall_mem_cons.mp blank
      rw [words_append_blank here, words_blanks blank, List.append_nil]

theorem declaredOption_append (blank : ∀ c ∈ gap, isBlank c) (declaration : List Char) :
    declaredOption (declaration ++ gap) = declaredOption declaration := by
  have spaced : ∀ c ∈ gap.map fun c => if c == ',' || c == '=' then ' ' else c, isBlank c := by
    intro c member
    obtain ⟨d, held, rfl⟩ := List.mem_map.mp member
    split
    · rfl
    · exact blank d held
  rw [declaredOption, declaredOption, List.map_append, words_append_blanks spaced]

end Words

section EntryLine

theorem trim_ne_nil_of_startsEntry (starts : startsEntry line) : trim line ≠ [] := by
  obtain ⟨text, dash⟩ := exists_trimStart_of_startsEntry starts
  intro nothing
  rw [trim, dash] at nothing
  exact absurd (List.rdropWhile_eq_nil_iff.mp nothing '-' List.mem_cons_self) (by decide)

theorem OptionSpec.ofEntry_trimStart_append (line rest : List Char) :
    ofEntry (trimStart line ++ rest) = ofEntry (line ++ rest) := by
  rw [ofEntry, ofEntry, trim, trim, trimStart_trimStart_append]

/-- The lines below an entry line do not take part in its declaration, since the line itself goes on
with blank characters at most. -/
theorem declaredOption_below (starts : startsEntry line) (one_line : '\n' ∉ line)
    (below : (splitLine rest).1 = []) :
    declaredOption (declarationOf (line ++ rest)) = declaredOption (declarationOf line) := by
  obtain ⟨gap, blank, trimmed⟩ := exists_trim_append (trim_ne_nil_of_startsEntry starts) rest
  have one_line' : '\n' ∉ trim line := fun newline => one_line (trim_subset line newline)
  have first : (splitLine (dropEndWhile isBlank (gap ++ rest))).1 <+: gap :=
    (splitLine_fst_mono (dropEndWhile_prefix_self _ _)).trans (splitLine_fst_append below gap)
  obtain ⟨gap', part, column⟩ := exists_splitColumn_append (visible_last_trim line)
    (splitLine (dropEndWhile isBlank (gap ++ rest))).1
  have blank' : ∀ c ∈ gap', isBlank c := fun c member => blank c ((part.trans first).subset member)
  rw [declarationOf, declarationOf, trimmed, splitLine_append one_line',
    splitLine_eq_self one_line', column, declaredOption_append blank']

/-- Joined into one text, the lines of a block stand for its option. -/
theorem EntryBlock.ofEntry_eq_option (block : EntryBlock) (one_line : '\n' ∉ block.line) :
    OptionSpec.ofEntry (['\n'].intercalate (trimStart block.line :: block.continuation)) =
      block.option := by
  have below : (splitLine (block.continuation.flatMap ('\n' :: ·))).1 = [] := by
    cases block.continuation <;> rfl
  rw [option, lines, intercalate_newline, intercalate_newline, OptionSpec.ofEntry_trimStart_append,
    OptionSpec.ofEntry_eq (block.line ++ _), declaredOption_below block.starts one_line below,
    OptionSpec.ofEntry_eq block.line]

end EntryLine

section Blocks

theorem entriesOf_append (before : ∀ line ∈ source, startsEntry line = false)
    (others : List (List Char)) : entriesOf (source ++ others) = entriesOf others := by
  induction source with
  | nil => rfl
  | cons line source ih =>
      obtain ⟨here, before⟩ := List.forall_mem_cons.mp before
      rw [List.cons_append, entriesOf, here, ih before]
      rfl

theorem EntryBlock.takeWhile_continuation (block : EntryBlock) (blocks : List EntryBlock) :
    (block.continuation ++ blocks.flatMap lines).takeWhile (fun next => !startsEntry next) =
      block.continuation := by
  rw [List.takeWhile_append_of_pos (by simpa using block.continues)]
  cases blocks with
  | nil => simp
  | cons next blocks => simp [lines, next.starts]

namespace TakesEntries

theorem map_line (takes : TakesEntries source blocks) :
    blocks.map EntryBlock.line = source.filter startsEntry := by
  obtain ⟨preamble, before, rfl⟩ := takes
  have dropped {lines : List (List Char)} (none_starts : ∀ line ∈ lines, startsEntry line = false) :
      lines.filter startsEntry = [] :=
    List.filter_eq_nil_iff.mpr fun line member => by simp [none_starts line member]
  rw [List.filter_append, dropped before, List.nil_append]
  induction blocks with
  | nil => rfl
  | cons block blocks ih =>
      rw [List.map_cons, List.flatMap_cons, EntryBlock.lines, List.cons_append,
        List.filter_cons_of_pos block.starts, List.filter_append, dropped block.continues, ih]
      rfl

theorem entriesOf_eq (takes : TakesEntries source blocks) :
    entriesOf source = blocks.map fun block =>
      ['\n'].intercalate (trimStart block.line :: block.continuation) := by
  obtain ⟨preamble, before, rfl⟩ := takes
  rw [entriesOf_append before]
  induction blocks with
  | nil => rfl
  | cons block blocks ih =>
      rw [List.flatMap_cons, EntryBlock.lines, List.cons_append, entriesOf, if_pos block.starts,
        EntryBlock.takeWhile_continuation, entriesOf_append block.continues, ih]
      rfl

end TakesEntries

theorem exists_takesEntries (source : List (List Char)) : ∃ blocks, TakesEntries source blocks := by
  induction source with
  | nil => exact ⟨[], [], by simp, rfl⟩
  | cons line source ih =>
      obtain ⟨blocks, preamble, before, rfl⟩ := ih
      by_cases starts : startsEntry line
      · exact ⟨⟨line, starts, preamble, before⟩ :: blocks, [], by simp, rfl⟩
      · exact ⟨blocks, line :: preamble, by simpa [starts] using before, rfl⟩

end Blocks

section Label

variable {label : String} {after : List Char}

/-- The lines of a text from behind the label on are the lines of what follows the label. Where
nothing follows it, the rest of its line is left, which is empty. The label ends with a visible
character, so no line break reaches into it. -/
theorem OpensWith.linesBehind_eq (opens : OpensWith label.toList text after)
    (plain : IsLabel label.toList) : linesBehind label text = lines after ∨
      linesBehind label text = [[]] ∧ lines after = [] := by
  obtain ⟨before, mark, rfl, same, one_line⟩ := opens.place
  have found := opens.found
  rw [← List.append_assoc] at found ⊢
  have here := afterLabel?_front found
  have visible := visible_of_mark plain same
  have some_mark := mark_ne_nil plain same
  have no_return : (before ++ mark).getLast? ≠ some '\r' := by
    rw [List.getLast?_append_of_ne_nil before some_mark]
    intro ends
    cases visible '\r' (List.mem_of_getLast? ends)
  have split := lines_append (by simp [some_mark]) one_line no_return after
  cases behind : lines after with
  | nil =>
      rw [behind] at split
      refine .inr ⟨?_, rfl⟩
      simp only [linesBehind, split, afterLabel, here, Option.getD_some]
  | cons line others =>
      rw [behind] at split
      refine .inl ?_
      simp only [linesBehind, split, afterLabel, afterLabel?_append here, List.nil_append,
        Option.getD_some]

theorem OpensWith.entriesOf_linesBehind (opens : OpensWith label.toList text after)
    (plain : IsLabel label.toList) :
    entriesOf (linesBehind label text) = entriesOf (lines after) := by
  rcases opens.linesBehind_eq plain with same | ⟨same, nothing⟩
  · rw [same]
  · rw [same, nothing]
    rfl

theorem OpensWith.newline_notMem_of_mem_linesBehind (opens : OpensWith label.toList text after)
    (plain : IsLabel label.toList) (member : line ∈ linesBehind label text) : '\n' ∉ line := by
  rcases opens.linesBehind_eq plain with same | ⟨same, -⟩
  · exact newline_notMem_of_mem_lines (same ▸ member)
  · rw [same] at member
    simp [List.mem_singleton.mp member]

/-- The options of a section are those of the blocks that its lines are divided into. -/
theorem OpensWith.optionsIn_eq (opens : OpensWith label.toList text after)
    (plain : IsLabel label.toList) (takes : TakesEntries (linesBehind label text) blocks) :
    optionsIn after = blocks.map EntryBlock.option := by
  rw [optionsIn, ← opens.entriesOf_linesBehind plain, takes.entriesOf_eq, List.map_map]
  refine List.map_congr_left fun block member => ?_
  have listed : block.line ∈ (linesBehind label text).filter startsEntry :=
    takes.map_line ▸ List.mem_map_of_mem member
  exact block.ofEntry_eq_option
    (opens.newline_notMem_of_mem_linesBehind plain (List.mem_of_mem_filter listed))

end Label

/-- The options sections are divided into blocks, one for each entry line. Every block declares one
option, in the order of the document, and the name of the option begins with a dash. -/
theorem Registry.ofDoc_blocks (doc : String) : ∃ blocks : List (List EntryBlock),
    List.Forall₂ (fun text blocks => TakesEntries (linesBehind "options:" text.toList) blocks)
      (sectionsOf "options:" doc) blocks ∧
    blocks.flatten.map EntryBlock.line =
      ((sectionsOf "options:" doc).flatMap fun text =>
        linesBehind "options:" text.toList).filter startsEntry ∧
    (Registry.ofDoc doc).specs = blocks.flatten.map EntryBlock.option ∧
    ∀ spec ∈ (Registry.ofDoc doc).specs, spec.DashNamed := by
  choose divide takes using fun text : String =>
    exists_takesEntries (linesBehind "options:" text.toList)
  refine ⟨(sectionsOf "options:" doc).map divide, ?_, ?_, ?_, ofDoc_dashNamed doc⟩
  · exact List.forall₂_map_right_iff.mpr (List.forall₂_same.mpr fun text _ => takes text)
  · rw [← List.flatMap_def, List.map_flatMap, List.filter_flatMap]
    exact List.flatMap_congr fun text _ => (takes text).map_line
  · rw [specs_ofDoc, ← List.flatMap_def, List.map_flatMap]
    refine List.flatMap_congr fun text member => ?_
    obtain ⟨after, opens⟩ := exists_opensWith isLabel_options member
    rw [opens.afterLabel_eq, opens.optionsIn_eq isLabel_options (takes text)]

end UsageGrammar
