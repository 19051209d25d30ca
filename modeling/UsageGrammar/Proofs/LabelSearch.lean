import Mathlib.Data.List.Forall2
import UsageGrammar.Proofs.LowercaseImages
import UsageGrammar.Proofs.SectionRanges
import UsageGrammar.Proofs.TextLines
import UsageGrammar.Proofs.Trimming
import UsageGrammar.Registry.Entry

/-!
# The label of a section

A section is found by its label in the full lower case of a line, and is then read from behind the
label, which is looked for in the ASCII lower case of the section. The second search succeeds on
what the first one finds, and stops within the first line. So a section is never read from its
start, and neither the label nor what stands before it is taken for a program or an option.
-/

namespace UsageGrammar

open Text

section Search

variable {label text front after : List Char} {c : Char}

theorem asciiLowercase_prefix_append (text more : List Char) :
    asciiLowercase text <+: asciiLowercase (text ++ more) := by
  rw [asciiLowercase_append]
  exact List.prefix_append _ _

theorem afterLabel?_cons_of_start (start : asciiLowercase label <+: asciiLowercase (c :: text)) :
    afterLabel? label (c :: text) = some ((c :: text).drop label.length) := by
  rw [afterLabel?, if_pos (List.isPrefixOf_iff_prefix.mpr start)]

theorem afterLabel?_cons_of_not_start
    (other : ¬ asciiLowercase label <+: asciiLowercase (c :: text)) :
    afterLabel? label (c :: text) = afterLabel? label text := by
  rw [afterLabel?, if_neg (mt List.isPrefixOf_iff_prefix.mp other)]

theorem afterLabel?_nil (found : afterLabel? label [] = some after) : label = [] ∧ after = [] := by
  rw [afterLabel?] at found
  split at found
  · next none_left =>
      cases found
      exact ⟨List.isEmpty_iff.mp none_left, rfl⟩
  · cases found

/-- What the search finds is the label, in any mix of ASCII case. -/
theorem exists_mark_of_afterLabel? (found : afterLabel? label text = some after) :
    ∃ before mark, text = before ++ (mark ++ after) ∧
      asciiLowercase mark = asciiLowercase label := by
  induction text with
  | nil =>
      obtain ⟨rfl, rfl⟩ := afterLabel?_nil found
      exact ⟨[], [], rfl, rfl⟩
  | cons c text ih =>
      by_cases start : asciiLowercase label <+: asciiLowercase (c :: text)
      · rw [afterLabel?_cons_of_start start] at found
        cases found
        have taken := List.prefix_iff_eq_take.mp start
        refine ⟨[], (c :: text).take label.length, (List.take_append_drop _ _).symm, ?_⟩
        rw [taken, length_asciiLowercase, asciiLowercase, asciiLowercase, List.map_take]
      · rw [afterLabel?_cons_of_not_start start] at found
        obtain ⟨before, mark, rfl, same⟩ := ih found
        exact ⟨c :: before, mark, rfl, same⟩

theorem length_of_afterLabel? (found : afterLabel? label text = some after) :
    label.length + after.length ≤ text.length := by
  obtain ⟨before, mark, rfl, same⟩ := exists_mark_of_afterLabel? found
  have width : mark.length = label.length := by simpa using congrArg List.length same
  simp only [List.length_append, width]
  omega

/-- The search fails exactly where the label does not stand. -/
theorem afterLabel?_eq_none_iff :
    afterLabel? label text = none ↔ ¬ asciiLowercase label <:+: asciiLowercase text := by
  induction text with
  | nil => simp [afterLabel?, asciiLowercase]
  | cons c text ih =>
      by_cases start : asciiLowercase label <+: asciiLowercase (c :: text)
      · rw [afterLabel?_cons_of_start start]
        exact iff_of_false nofun fun absent => absent start.isInfix
      · rw [afterLabel?_cons_of_not_start start, ih, asciiLowercase_cons, List.infix_cons_iff,
          ← asciiLowercase_cons, or_iff_right start]

/-- What follows does not change the place that the search finds. -/
theorem afterLabel?_append (found : afterLabel? label text = some after) (more : List Char) :
    afterLabel? label (text ++ more) = some (after ++ more) := by
  induction text with
  | nil =>
      obtain ⟨rfl, rfl⟩ := afterLabel?_nil found
      cases more <;> rfl
  | cons c text ih =>
      have fits : label.length ≤ (c :: text).length :=
        Nat.le_of_add_right_le (length_of_afterLabel? found)
      have whole : asciiLowercase (c :: text) <+: asciiLowercase (c :: (text ++ more)) :=
        asciiLowercase_prefix_append (c :: text) more
      by_cases start : asciiLowercase label <+: asciiLowercase (c :: text)
      · rw [afterLabel?_cons_of_start start] at found
        cases found
        rw [List.cons_append, afterLabel?_cons_of_start (start.trans whole), ← List.cons_append,
          List.drop_append_of_le_length fits]
      · have start' : ¬ asciiLowercase label <+: asciiLowercase (c :: (text ++ more)) :=
          fun start' => start (List.prefix_of_prefix_length_le start' whole (by simpa using fits))
        rw [afterLabel?_cons_of_not_start start] at found
        rw [List.cons_append, afterLabel?_cons_of_not_start start', ih found]

theorem afterLabel?_front (found : afterLabel? label (front ++ after) = some after) :
    afterLabel? label front = some [] := by
  induction front with
  | nil =>
      have length := length_of_afterLabel? found
      rw [List.nil_append] at length
      obtain rfl : label = [] := List.length_eq_zero_iff.mp (by omega)
      rfl
  | cons c front ih =>
      have whole : asciiLowercase (c :: front) <+: asciiLowercase (c :: (front ++ after)) :=
        asciiLowercase_prefix_append (c :: front) after
      rw [List.cons_append] at found
      by_cases start : asciiLowercase label <+: asciiLowercase (c :: (front ++ after))
      · rw [afterLabel?_cons_of_start start] at found
        have width : label.length = (c :: front).length := by
          have fits := start.length_le
          have rest := congrArg List.length (Option.some.inj found)
          simp only [length_asciiLowercase, List.length_cons, List.length_append,
            List.length_drop] at fits rest ⊢
          omega
        have start' := List.prefix_of_prefix_length_le start whole (by simp [width])
        rw [afterLabel?_cons_of_start start', width, List.drop_length]
      · rw [afterLabel?_cons_of_not_start start] at found
        rw [afterLabel?_cons_of_not_start (mt (·.trans whole) start), ih found]

/-- A label that does not stand in some text does not begin there and end behind it, unless its
first character comes again in it. -/
theorem not_prefix_of_absent {c first : Char} {others before mark : List Char}
    (begins : asciiLowercase label = first :: others) (single : first ∉ others)
    (absent : ¬ asciiLowercase label <:+: asciiLowercase (c :: before))
    (same : asciiLowercase mark = asciiLowercase label) :
    ¬ asciiLowercase label <+: asciiLowercase (c :: (before ++ mark)) := by
  intro start
  rw [← List.cons_append, asciiLowercase_append, same] at start
  rcases List.prefix_or_prefix_of_prefix start (List.prefix_append _ _) with
    inside | ⟨rest, split⟩
  · exact absent inside.isInfix
  · have start_rest : rest <+: first :: others := by
      rwa [← begins, ← List.prefix_append_right_inj (asciiLowercase (c :: before)), split]
    rw [begins, asciiLowercase_cons, List.cons_append] at split
    obtain ⟨-, rfl⟩ := List.cons.inj split
    cases rest with
    | nil => exact absent (by rw [begins, ← split, List.append_nil]; exact List.infix_rfl)
    | cons d rest =>
        obtain ⟨rfl, -⟩ := List.cons_prefix_cons.mp start_rest
        exact single (List.mem_append_right _ List.mem_cons_self)

/-- Behind text that does not hold it, the label is found where it stands. -/
theorem afterLabel?_of_mark {first : Char} {others before mark : List Char}
    (begins : asciiLowercase label = first :: others) (single : first ∉ others)
    (absent : ¬ asciiLowercase label <:+: asciiLowercase before)
    (same : asciiLowercase mark = asciiLowercase label) :
    afterLabel? label (before ++ mark) = some [] := by
  have width : mark.length = label.length := by simpa using congrArg List.length same
  induction before with
  | nil =>
      obtain ⟨c, mark, rfl⟩ : ∃ c rest, mark = c :: rest := by
        refine List.exists_cons_of_ne_nil ?_
        rintro rfl
        cases same.trans begins
      rw [List.nil_append, afterLabel?_cons_of_start (same ▸ List.prefix_rfl), ← width,
        List.drop_length]
  | cons c before ih =>
      have absent_rest : ¬ asciiLowercase label <:+: asciiLowercase before :=
        fun held => absent (held.trans (List.suffix_cons _ _).isInfix)
      rw [List.cons_append,
        afterLabel?_cons_of_not_start (not_prefix_of_absent begins single absent same),
        ih absent_rest]

end Search

/-- A section whose label is found in its first line: `after` is what follows it. -/
structure OpensWith (label text after : List Char) : Prop where
  found : afterLabel? label text = some after
  place : ∃ before mark, text = before ++ (mark ++ after) ∧ asciiLowercase mark = label ∧
    '\n' ∉ before ++ mark

section Sections

variable {isHead : List Char → Bool} {inside : Bool} {source block : List (List Char)}
variable {label line : List Char}

theorem exists_head_of_mem_blocksAfter (member : block ∈ blocksAfter isHead inside source) :
    ∃ line body, block = line :: body ∧ isHead line ∧ line ∈ source := by
  fun_induction blocksAfter isHead inside source with
  | case1 => cases member
  | case2 inside line rest _ ih | case4 inside line rest _ _ ih =>
      obtain ⟨head, body, same, holds, held⟩ := ih member
      exact ⟨head, body, same, holds, List.mem_cons_of_mem _ held⟩
  | case3 inside line rest _ holds ih =>
      rcases List.mem_cons.mp member with rfl | later
      · exact ⟨line, _, rfl, holds, List.mem_cons_self⟩
      · obtain ⟨head, body, same, holds, held⟩ := ih later
        exact ⟨head, body, same, holds, List.mem_cons_of_mem _ held⟩

theorem isBlank_toLower {c : Char} (blank : isBlank c) : isBlank c.toLower := by
  rw [toLower_eq_self]
  · exact blank
  · rintro ⟨first_le, le_last⟩
    simp only [isBlank, Bool.or_eq_true, Bool.and_eq_true, decide_eq_true_eq, beq_iff_eq] at blank
    omega

theorem exists_mark_of_holdsLabel (plain : IsLabel label) (holds : holdsLabel label line) :
    ∃ before mark behind, line = before ++ (mark ++ behind) ∧ asciiLowercase mark = label := by
  obtain ⟨behind, found⟩ : ∃ behind, afterLabel? label line = some behind := by
    refine Option.ne_none_iff_exists'.mp fun absent => ?_
    rw [afterLabel?_eq_none_iff, plain.asciiLowercase_eq] at absent
    exact absent (infix_of_holdsLabel plain holds)
  obtain ⟨before, mark, split, same⟩ := exists_mark_of_afterLabel? found
  exact ⟨before, mark, behind, split, same.trans plain.asciiLowercase_eq⟩

theorem mark_ne_nil (plain : IsLabel label) {mark : List Char}
    (same : asciiLowercase mark = label) : mark ≠ [] := by
  rintro rfl
  exact plain.ne_nil same.symm

theorem visible_of_mark (plain : IsLabel label) {mark : List Char}
    (same : asciiLowercase mark = label) : ∀ c ∈ mark, isBlank c = false := by
  intro c member
  by_contra blank
  have image : c.toLower ∈ label := same ▸ List.mem_map_of_mem member
  have blank' := isBlank_toLower (by simpa using blank)
  rw [plain.visible _ image] at blank'
  cases blank'

theorem exists_opensWith_append (plain : IsLabel label) {before mark : List Char}
    (same : asciiLowercase mark = label) (one_line : '\n' ∉ before ++ mark) (more : List Char) :
    ∃ after, OpensWith label (before ++ mark ++ more) after := by
  obtain ⟨behind, found⟩ : ∃ behind, afterLabel? label (before ++ mark) = some behind := by
    refine Option.ne_none_iff_exists'.mp fun absent => ?_
    rw [afterLabel?_eq_none_iff, plain.asciiLowercase_eq, asciiLowercase_append, same] at absent
    exact absent (List.suffix_append _ _).isInfix
  obtain ⟨first, label', split, same'⟩ := exists_mark_of_afterLabel? found
  refine ⟨behind ++ more, afterLabel?_append found more, first, label', ?_, ?_, ?_⟩
  · rw [split, List.append_assoc, List.append_assoc]
  · exact same'.trans plain.asciiLowercase_eq
  · rw [split, ← List.append_assoc] at one_line
    exact fun newline => one_line (List.mem_append_left behind newline)

theorem exists_opensWith_blockText (plain : IsLabel label) (holds : holdsLabel label line)
    (one_line : '\n' ∉ line) (body : List (List Char)) :
    ∃ after, OpensWith label (blockText (line :: body)) after := by
  obtain ⟨before, mark, behind, rfl, same⟩ := exists_mark_of_holdsLabel plain holds
  have visible := visible_of_mark plain same
  have some_mark := mark_ne_nil plain same
  have trimmed : blockText ((before ++ (mark ++ behind)) :: body) =
      trimStart before ++ mark ++
        dropEndWhile isBlank (behind ++ body.flatMap ('\n' :: ·)) := by
    rw [blockText, intercalate_newline, List.append_assoc, List.append_assoc, List.append_assoc]
    refine trim_append ?_ ?_ before (behind ++ body.flatMap ('\n' :: ·))
    · exact ⟨_, List.head?_eq_some_head some_mark, visible _ (List.head_mem some_mark)⟩
    · exact ⟨_, List.getLast?_eq_some_getLast some_mark, visible _ (List.getLast_mem some_mark)⟩
  have kept : trimStart before ⊆ before := (List.dropWhile_suffix _).subset
  have front_line : '\n' ∉ trimStart before ++ mark := by
    simp only [List.mem_append, not_or] at one_line ⊢
    exact ⟨fun newline => one_line.1 (kept newline), one_line.2.1⟩
  rw [trimmed]
  exact exists_opensWith_append plain same front_line _

/-- Every section opens with its label. -/
theorem exists_opensWith {label doc text : String} (plain : IsLabel label.toList)
    (member : text ∈ sectionsOf label doc) :
    ∃ after, OpensWith label.toList text.toList after := by
  obtain ⟨block, held, rfl⟩ := List.mem_map.mp member
  obtain ⟨line, body, rfl, holds, inside⟩ := exists_head_of_mem_blocksAfter held
  rw [String.toList_ofList]
  exact exists_opensWith_blockText plain holds (newline_notMem_of_mem_lines inside) body

end Sections

theorem isLabel_usage : IsLabel "usage:".toList :=
  isLabel_of_all (by decide +kernel) (by decide +kernel) (by decide +kernel) (by decide +kernel)
    (by decide +kernel)

theorem isLabel_options : IsLabel "options:".toList :=
  isLabel_of_all (by decide +kernel) (by decide +kernel) (by decide +kernel) (by decide +kernel)
    (by decide +kernel)

theorem OpensWith.afterLabel_eq {label : String} {text after : List Char}
    (opens : OpensWith label.toList text after) : afterLabel label text = after := by
  rw [afterLabel, opens.found, Option.getD_some]

theorem mem_sectionsOf_of_usageSection {doc text : String} (found : usageSection doc = .ok text) :
    text ∈ sectionsOf "usage:" doc := by
  rw [usageSection] at found
  split at found
  · cases found
  · next only =>
      cases found
      exact only ▸ List.mem_singleton_self text
  · cases found

/-- The label by which a section is found is found again in its first line. So the usage expression
and the options of a document are read from what follows the labels. -/
theorem sections_openWith (doc : String) :
    (∀ label ∈ ["usage:", "options:"], ∀ text ∈ sectionsOf label doc,
      ∃ after, OpensWith label.toList text.toList after) ∧
    (∀ text, usageSection doc = .ok text →
      ∃ after, OpensWith "usage:".toList text.toList after ∧
        formalUsage text = expressionOf after) ∧
    ∃ bodies,
      List.Forall₂ (fun text after => OpensWith "options:".toList text.toList after)
        (sectionsOf "options:" doc) bodies ∧
      (Registry.ofDoc doc).specs = bodies.flatMap optionsIn := by
  have usage {text : String} (member : text ∈ sectionsOf "usage:" doc) :=
    exists_opensWith isLabel_usage member
  have options {text : String} (member : text ∈ sectionsOf "options:" doc) :=
    exists_opensWith isLabel_options member
  refine ⟨?_, fun text found => ?_, ?_⟩
  · simp only [List.forall_mem_cons]
    exact ⟨fun text => usage, fun text => options, by simp⟩
  · obtain ⟨after, opens⟩ := usage (mem_sectionsOf_of_usageSection found)
    exact ⟨after, opens, by rw [formalUsage, opens.afterLabel_eq]⟩
  · refine ⟨(sectionsOf "options:" doc).map fun text => afterLabel "options:" text.toList, ?_, ?_⟩
    · rw [List.forall₂_map_right_iff, List.forall₂_same]
      intro text member
      obtain ⟨after, opens⟩ := options member
      rwa [opens.afterLabel_eq]
    · rw [Registry.specs_ofDoc, List.flatMap_map]

/-- Titles stand before the labels, and one line only looks like a label. -/
def titledDoc : String :=
  "Fleet USAGE: ship\nOPTİONS: -x\nAll OPTIONS: -y"

theorem sections_openWith_titled :
    (("options:" ∈ ["usage:", "options:"] ∧
        "All OPTIONS: -y" ∈ sectionsOf "options:" titledDoc) ∧
      usageSection titledDoc = .ok "Fleet USAGE: ship") ∧
    (∃ after, OpensWith "options:".toList "All OPTIONS: -y".toList after) ∧
    ∃ after, OpensWith "usage:".toList "Fleet USAGE: ship".toList after ∧
      formalUsage "Fleet USAGE: ship" = expressionOf after := by
  have label : "options:" ∈ ["usage:", "options:"] := by simp
  have options : "All OPTIONS: -y" ∈ sectionsOf "options:" titledDoc := by
    decide +kernel
  have usage : usageSection titledDoc = .ok "Fleet USAGE: ship" := by
    decide +kernel
  exact ⟨⟨⟨label, options⟩, usage⟩,
    (sections_openWith titledDoc).1 "options:" label _ options,
    (sections_openWith titledDoc).2.1 _ usage⟩

end UsageGrammar
