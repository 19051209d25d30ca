import Mathlib.Data.Nat.Find
import UsageGrammar.Section

/-!
# Sections as ranges of lines

A section is the text of a range of lines. The first of them holds the label, the others are
indented, and the range goes on as long as they are. The ranges of a label follow one another
without overlap, and no line that holds the label stands outside of them. These properties determine
the sections.
-/

namespace UsageGrammar

open Text

/-- The lines from `start` up to but not including `stop`. -/
structure LineRange where
  start : Nat
  stop : Nat
  nonempty : start < stop

variable {isHead : List Char → Bool} {lines gap body rest : List (List Char)} {line : List Char}

theorem exists_index_of_mem_extract {start stop : Nat} (member : line ∈ lines.extract start stop) :
    ∃ index, start ≤ index ∧ index < stop ∧ line ∈ lines[index]? := by
  obtain ⟨index, found⟩ := List.mem_iff_getElem?.mp member
  rw [List.extract_eq_take_drop, List.getElem?_take] at found
  split at found
  · next short =>
      rw [List.getElem?_drop] at found
      exact ⟨start + index, by omega, by omega, found⟩
  · cases found

namespace LineRange

/-- The lines that a range selects. -/
def select (range : LineRange) (lines : List (List Char)) : List (List Char) :=
  lines.extract range.start range.stop

/-- A head and all the indented lines directly after it. -/
structure IsBlock (isHead : List Char → Bool) (lines : List (List Char)) (range : LineRange) :
    Prop where
  stop_le : range.stop ≤ lines.length
  head : ∃ line ∈ lines[range.start]?, isHead line
  indented : ∀ index, range.start < index → index < range.stop →
    ∃ line ∈ lines[index]?, isIndented line
  ended : ∀ line ∈ lines[range.stop]?, isIndented line = false

end LineRange

/-- Blocks from a line on, one behind the other, which hold every head from that line on. -/
structure BlocksFrom (isHead : List Char → Bool) (lines : List (List Char)) (first : Nat)
    (ranges : List LineRange) : Prop where
  first_le : ∀ range ∈ ranges, first ≤ range.start
  ordered : ranges.Pairwise fun before after => before.stop ≤ after.start
  block : ∀ range ∈ ranges, range.IsBlock isHead lines
  complete : ∀ index, first ≤ index → ∀ line ∈ lines[index]?, isHead line →
    ∃ range ∈ ranges, range.start ≤ index ∧ index < range.stop

section Scan

end Scan

namespace BlocksFrom

variable {first : Nat} {range : LineRange} {ranges : List LineRange}

theorem headless (blocks : BlocksFrom isHead lines first ranges) (stop : Nat)
    (before : ∀ range ∈ ranges, stop ≤ range.start) :
    ∀ line ∈ lines.extract first stop, isHead line = false := by
  intro line member
  obtain ⟨index, from_first, short, here⟩ := exists_index_of_mem_extract member
  by_contra head
  obtain ⟨range, held, start_le, -⟩ :=
    blocks.complete index from_first line here (by simpa using head)
  have := before range held
  omega

/-- Behind the first range, the others are the blocks. -/
theorem tail (blocks : BlocksFrom isHead lines first (range :: ranges)) :
    BlocksFrom isHead lines range.stop ranges := by
  obtain ⟨behind, ordered⟩ := List.pairwise_cons.mp blocks.ordered
  refine ⟨behind, ordered, fun other member => blocks.block other (List.mem_cons_of_mem _ member),
    fun index from_stop line here head => ?_⟩
  have from_first : first ≤ index := by
    have := blocks.first_le range List.mem_cons_self
    have := range.nonempty
    omega
  obtain ⟨other, member, start_le, lt_stop⟩ := blocks.complete index from_first line here head
  rcases List.mem_cons.mp member with rfl | member
  · omega
  · exact ⟨other, member, start_le, lt_stop⟩

theorem cons (first_le : first ≤ range.start) (block : range.IsBlock isHead lines)
    (headless : ∀ index, first ≤ index → index < range.start →
      ∀ line ∈ lines[index]?, isHead line = false)
    (blocks : BlocksFrom isHead lines range.stop ranges) :
    BlocksFrom isHead lines first (range :: ranges) := by
  have := range.nonempty
  refine ⟨?_, List.pairwise_cons.mpr ⟨blocks.first_le, blocks.ordered⟩,
    List.forall_mem_cons.mpr ⟨block, blocks.block⟩, fun index from_first line here head => ?_⟩
  · refine List.forall_mem_cons.mpr ⟨first_le, fun other member => ?_⟩
    have := blocks.first_le other member
    omega
  · rcases Nat.lt_or_ge index range.start with before | from_start
    · rw [headless index from_first before line here] at head
      cases head
    · rcases Nat.lt_or_ge index range.stop with inside | behind
      · exact ⟨range, List.mem_cons_self, from_start, inside⟩
      · obtain ⟨other, member, within⟩ := blocks.complete index behind line here head
        exact ⟨other, List.mem_cons_of_mem _ member, within⟩

end BlocksFrom

end UsageGrammar
