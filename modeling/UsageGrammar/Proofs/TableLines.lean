import UsageGrammar.Output
import UsageGrammar.Proofs.BindingTypes
import UsageGrammar.Proofs.OneLineNames
import UsageGrammar.Proofs.RenderedValues

/-!
# The lines of a table

The table of a match has one line for each slot, whatever the arguments hold: the names stand on one
line, and so do the values. All matches of a document bind the same names, so their tables differ
in the values only, and these can be read off them.
-/

namespace UsageGrammar

open Text

namespace Bindings

variable {first second : Bindings} {entries : List (String × Value)}

/-- The names that are bound, in their order. -/
def names (bindings : Bindings) : List String :=
  bindings.entries.map Prod.fst

theorem names_sorted (bindings : Bindings) : bindings.names.Pairwise (· < ·) :=
  List.pairwise_map.mpr bindings.sorted

theorem names_nodup (bindings : Bindings) : bindings.names.Nodup :=
  bindings.names_sorted.imp String.ne_of_lt

theorem contains_iff_mem_names (bindings : Bindings) (name : String) :
    bindings.contains name ↔ name ∈ bindings.names := by
  rw [contains, get?, List.lookup_isSome_iff, names, List.mem_map]
  simp only [beq_iff_eq]
  exact exists_congr fun entry => and_congr_right fun _ => eq_comm

theorem names_ofList_perm (distinct : (entries.map Prod.fst).Nodup) :
    (ofList entries).names.Perm (entries.map Prod.fst) :=
  (List.perm_ext_iff_of_nodup (names_nodup _) distinct).mpr fun name => by
    rw [← contains_iff_mem_names, contains_ofList]

/-- The order of the names is determined by what the names are. -/
theorem names_eq_of_perm (same : first.names.Perm second.names) : first.names = second.names :=
  same.eq_of_pairwise (fun _ _ _ _ before after => absurd after (String.lt_asymm before))
    first.names_sorted second.names_sorted

end Bindings

namespace Table

variable {first second : Bindings} {width : Nat}

/-- The line of an entry, without its newline. -/
def line (width : Nat) (entry : String × Value) : List Char :=
  (padded width entry.1 ++ "  " ++ entry.2.render).toList

/-- The lines of bindings. -/
def linesOf (bindings : Bindings) : List (List Char) :=
  bindings.entries.map (line (columnWidth bindings.names))

theorem toList_ofBindings (bindings : Bindings) :
    (ofBindings bindings).toList = (linesOf bindings).flatMap (· ++ ['\n']) := by
  simp [ofBindings, linesOf, Bindings.names, line, List.flatMap_map]

theorem newline_notMem_line {entry : String × Value} (oneLine : OneLine entry.1) :
    '\n' ∉ line width entry := by
  have value := entry.2.newline_notMem_render
  simp only [OneLine] at oneLine
  simp [line, padded, oneLine, value]

/-- The name and the line of an entry determine its value. -/
theorem named_line_injective (width : Nat) :
    Function.Injective fun entry : String × Value => (entry.1, line width entry) := by
  rintro ⟨name, value⟩ ⟨name', value'⟩ same
  obtain ⟨rfl, lines⟩ := Prod.mk.inj same
  simp only [line, String.toList_append, List.append_assoc] at lines
  have rendered := List.append_cancel_left (List.append_cancel_left lines)
  rw [Value.render_injective (String.toList_inj.mp rendered)]

theorem newline_notMem_of_mem_linesOf {bindings : Bindings}
    (oneLine : ∀ name ∈ bindings.names, OneLine name) :
    ∀ line ∈ linesOf bindings, '\n' ∉ line := by
  intro written member
  obtain ⟨entry, listed, rfl⟩ := List.mem_map.mp member
  exact newline_notMem_line (oneLine entry.1 (List.mem_map_of_mem listed))

/-- Bindings of the same names, all on one line, are told apart by their tables. -/
theorem eq_of_ofBindings_eq (names : first.names = second.names)
    (oneLine : ∀ name ∈ first.names, OneLine name) (same : ofBindings first = ofBindings second) :
    first = second := by
  have written := congrArg String.toList same
  rw [toList_ofBindings, toList_ofBindings] at written
  have split := congrArg (List.splitOn '\n') written
  rw [splitOn_flatMap_newline (newline_notMem_of_mem_linesOf oneLine),
    splitOn_flatMap_newline (newline_notMem_of_mem_linesOf (names ▸ oneLine))] at split
  have lines : linesOf first = linesOf second := List.append_cancel_right split
  simp only [linesOf, ← names] at lines
  refine Bindings.ext (List.map_injective_iff.mpr
    (named_line_injective (columnWidth first.names)) ?_)
  calc
    first.entries.map (fun entry => (entry.1, line (columnWidth first.names) entry)) =
        first.names.zip (first.entries.map (line (columnWidth first.names))) := by
      rw [Bindings.names, List.zip_map']
    _ = second.names.zip (second.entries.map (line (columnWidth first.names))) := by
      rw [names, ← names, lines]
    _ = second.entries.map (fun entry => (entry.1, line (columnWidth first.names) entry)) := by
      rw [Bindings.names, List.zip_map']

end Table

namespace Usage

variable {doc : String} {usage : Usage} {options options' : ParseOptions}
  {argv argv' : List String}

theorem names_perm_of_isMatch (described : ofDoc doc = .ok usage)
    (matched : (usage.parse options argv).IsMatch) :
    (usage.parse options argv).bindings.names.Perm usage.grammar.names := by
  obtain ⟨state, accepted, response⟩ := (usage.parse_answers options argv).exists_accepted matched
  have complete := Grammar.bindings_length_of_accepted accepted
  have distinct : usage.grammar.names.Nodup :=
    (compiled_of_ofDoc described).grammar ▸ Grammar.names_nodup usage.pattern
  rw [← bindingsOf_names complete] at distinct ⊢
  rw [response]
  exact Bindings.names_ofList_perm distinct

/-- Whatever the arguments hold, the table of a match has one line for each slot, ended by the only
newline in it, and no other match of the document with other bindings has the same table. -/
theorem table_unambiguous (described : ofDoc doc = .ok usage)
    (matched : (usage.parse options argv).IsMatch)
    (matched' : (usage.parse options' argv').IsMatch) :
    (∃ lines : List (List Char), lines.length = usage.grammar.size ∧
      (∀ line ∈ lines, '\n' ∉ line) ∧
      ((usage.parse options argv).bindings.format .table).toList = lines.flatMap (· ++ ['\n'])) ∧
    ((usage.parse options argv).bindings.format .table =
        (usage.parse options' argv').bindings.format .table →
      (usage.parse options argv).bindings = (usage.parse options' argv').bindings) := by
  have bound := names_perm_of_isMatch described matched
  have bound' := names_perm_of_isMatch described matched'
  have oneLine : ∀ name ∈ (usage.parse options argv).bindings.names, OneLine name :=
    fun name member => (compiled_of_ofDoc described).oneLine_names name (bound.subset member)
  refine ⟨⟨Table.linesOf (usage.parse options argv).bindings, ?_,
    Table.newline_notMem_of_mem_linesOf oneLine, Table.toList_ofBindings _⟩, fun same => ?_⟩
  · have count := bound.length_eq
    simpa [Table.linesOf, Bindings.names, Grammar.names, Grammar.size] using count
  · exact Table.eq_of_ofBindings_eq (Bindings.names_eq_of_perm (bound.trans bound'.symm)) oneLine
      same

theorem parse_eq_matched {state : MatchState}
    (unasked : usage.requested? options
      (tokenize options.optionsFirst usage.registry argv).tokens = none)
    (accepted : usage.grammar.matchTokens
      (tokenize options.optionsFirst usage.registry argv).tokens = .accepted state) :
    usage.parse options argv = .matched (usage.bindingsOf state) := by
  simp only [parse, unasked, accepted]

/-- An argument that imitates a line of the table adds none. -/
theorem table_unambiguous_ship :
    ofDoc shipDoc = .ok shipUsage ∧
      (shipUsage.parse {} ["y\"\n--at  \"7"]).IsMatch ∧
      (shipUsage.parse {} ["--a", "7", "y"]).IsMatch ∧
      (∃ lines : List (List Char), lines.length = shipUsage.grammar.size ∧
        (∀ line ∈ lines, '\n' ∉ line) ∧
        ((shipUsage.parse {} ["y\"\n--at  \"7"]).bindings.format .table).toList =
          lines.flatMap (· ++ ['\n'])) ∧
      (shipUsage.parse {} ["y\"\n--at  \"7"]).bindings.format .table ≠
        (shipUsage.parse {} ["--a", "7", "y"]).bindings.format .table := by
  have described := compiled_ship.ofDoc_eq
  have tokenized : tokenize false shipUsage.registry ["y\"\n--at  \"7"] =
      ⟨[.argument "y\"\n--at  \"7"], [], shipUsage.registry⟩ := by
    cbv
  have tokenized' : tokenize false shipUsage.registry ["--a", "7", "y"] =
      ⟨[.option "--at" (.text "7"), .argument "y"], [], shipUsage.registry⟩ := by
    cbv
  have answer : shipUsage.parse {} ["y\"\n--at  \"7"] =
      .matched (shipUsage.bindingsOf ⟨[], [none, none, some (.text "y\"\n--at  \"7")]⟩) :=
    parse_eq_matched (by rw [tokenized]; decide +kernel) (by rw [tokenized]; cbv)
  have answer' : shipUsage.parse {} ["--a", "7", "y"] =
      .matched (shipUsage.bindingsOf ⟨[], [some (.text "7"), none, some (.text "y")]⟩) :=
    parse_eq_matched (by rw [tokenized']; decide +kernel) (by rw [tokenized']; cbv)
  have matched := answer ▸ Response.matched_isMatch _
  have matched' := answer' ▸ Response.matched_isMatch _
  obtain ⟨lines, told_apart⟩ := table_unambiguous described matched matched'
  refine ⟨described, matched, matched', lines, fun same => ?_⟩
  have values := congrArg (Bindings.get? · "<x>") (told_apart same)
  rw [answer, answer'] at values
  exact absurd values (by decide +kernel)

end Usage

end UsageGrammar
