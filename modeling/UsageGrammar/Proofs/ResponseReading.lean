import UsageGrammar.Decoding
import UsageGrammar.Output
import UsageGrammar.Proofs.JsonReading

/-!
# Reading responses back

A response that is printed as JSON is read back as itself. A value carries no tag, yet its five
shapes are five shapes of JSON, so none of them is taken for another. Bindings are printed in the
order of their names, in which inserting them one after another builds them again.
-/

namespace UsageGrammar

namespace Value

/-- A count has at most 64 bits. -/
def FitsWidth (value : Value) : Prop :=
  ∀ occurrences, value = .count occurrences → occurrences < 0x10000000000000000

theorem toTree_toData_list (items : List String) :
    (list items).toData.toTree = .array (items.map fun word => .text (some word)) := by
  have trees : Data.treesOf (items.map .text) = items.map fun word => .text (some word) := by
    induction items with
    | nil => rfl
    | cons word items ih => rw [List.map_cons, Data.treesOf, ih]; rfl
  rw [toData, Data.toTree, trees]

theorem mapM_text? (items : List String) :
    (items.map fun word => Json.Tree.text (some word)).mapM Json.Tree.text? = some items := by
  induction items with
  | nil => rfl
  | cons word items ih => rw [List.map_cons, List.mapM_cons, ih]; rfl

/-- A value is told by its shape alone. -/
theorem ofJson?_toData {value : Value} (fits : value.FitsWidth) :
    ofJson? value.toData.toTree = some value := by
  cases value with
  | null => rfl
  | bool truth => rfl
  | count occurrences =>
      have bounded : (0 : Int) ≤ occurrences ∧ (occurrences : Int) < 0x10000000000000000 :=
        ⟨Int.natCast_nonneg _, Int.ofNat_lt.mpr (fits occurrences rfl)⟩
      rw [toData, Data.toTree, ofJson?, if_pos bounded, Int.toNat_natCast]
  | text word => rfl
  | list items =>
      rw [toTree_toData_list, ofJson?, mapM_text?]
      rfl

end Value

namespace Bindings

variable {entries front : List (String × Value)} {name : String} {value : Value}

theorem insertEntry_eq_concat (last : ∀ entry ∈ entries, entry.1 < name) :
    insertEntry name value entries = entries ++ [(name, value)] := by
  induction entries with
  | nil => rfl
  | cons entry entries ih =>
      obtain ⟨before, later⟩ := List.forall_mem_cons.mp last
      rw [insertEntry, if_neg (String.lt_asymm before), if_neg (String.ne_of_lt before).symm,
        ih later]
      rfl

/-- Inserting entries in the order of their names builds them up. -/
theorem foldl_insert_entries (bindings : Bindings)
    (sorted : (bindings.entries ++ entries).Pairwise NamedBefore) :
    (entries.foldl (fun bindings entry => bindings.insert entry.1 entry.2) bindings).entries =
      bindings.entries ++ entries := by
  induction entries generalizing bindings with
  | nil => simp
  | cons entry entries ih =>
      obtain ⟨-, -, across⟩ := List.pairwise_append.mp sorted
      have put : (bindings.insert entry.1 entry.2).entries = bindings.entries ++ [entry] :=
        insertEntry_eq_concat fun other member => across other member entry List.mem_cons_self
      rw [List.foldl_cons, ih, put, List.append_assoc]
      · rfl
      · rw [put]
        simpa using sorted

theorem ofList_entries (bindings : Bindings) : ofList bindings.entries = bindings :=
  ext (foldl_insert_entries empty bindings.sorted)

/-- All counts have at most 64 bits. -/
def FitsWidth (bindings : Bindings) : Prop :=
  ∀ entry ∈ bindings.entries, entry.2.FitsWidth

theorem mapM_entryOfJson? (fits : ∀ entry ∈ entries, entry.2.FitsWidth) :
    (Data.membersOf (entries.map fun (name, value) => (name, value.toData))).mapM entryOfJson? =
      some entries := by
  induction entries with
  | nil => rfl
  | cons entry entries ih =>
      obtain ⟨here, later⟩ := List.forall_mem_cons.mp fits
      have entry_read : entryOfJson? (some entry.1, entry.2.toData.toTree) = some entry := by
        simp [entryOfJson?, Value.ofJson?_toData here]
      rw [List.map_cons, Data.membersOf, List.mapM_cons, entry_read, ih later]
      rfl

theorem ofJson?_toData {bindings : Bindings} (fits : bindings.FitsWidth) :
    ofJson? bindings.toData.toTree = some bindings := by
  rw [toData, Data.toTree, ofJson?, mapM_entryOfJson? fits, Option.map_some, ofList_entries]

end Bindings

theorem optionalText?_ofText? (word : Option String) :
    (Data.ofText? word).toTree.optionalText? = some word := by
  cases word <;> rfl

theorem int32?_integer {number : Int} (fits : -0x80000000 ≤ number ∧ number < 0x80000000) :
    (Json.Tree.integer number).int32? = some number :=
  if_pos fits

namespace Response

/-- All counts have at most 64 bits, and the status is an integer of 32 bits with sign. -/
structure FitsWidth (response : Response) : Prop where
  bindings : response.bindings.FitsWidth
  status : -0x80000000 ≤ response.errorStatus ∧ response.errorStatus < 0x80000000

theorem ofJson?_toData {response : Response} (fits : response.FitsWidth) :
    ofJson? response.toData.toTree = some response := by
  have fields : recordFields? ["success", "bindings", "error_status", "error_message", "output"]
      false response.toData.toTree =
      some [some (.bool response.success), some response.bindings.toData.toTree,
        some (.integer response.errorStatus), some (Data.ofText? response.errorMessage).toTree,
        some (Data.ofText? response.output).toTree] := by
    rfl
  simp [ofJson?, fields, requiredField?, defaultField?, optionalText?_ofText?, Json.Tree.bool?,
    Bindings.ofJson?_toData fits.bindings, int32?_integer fits.status]

/-- A response that is printed as JSON is read back as itself, and so is a value: none is taken for
a value of another shape. -/
theorem ofJson?_format {response : Response} (fits : response.FitsWidth) :
    (Json.read? (response.format .json)).bind ofJson? = some response ∧
      ∀ value : Value, value.FitsWidth →
        (Json.read? value.toData.toPrettyJson).bind Value.ofJson? = some value := by
  refine ⟨?_, fun value width => ?_⟩
  · rw [format, OutputFormat.write, Json.read?_toPrettyJson, Option.bind_some,
      ofJson?_toData fits]
  · rw [Json.read?_toPrettyJson, Option.bind_some, Value.ofJson?_toData width]

/-- A response with a value of every shape, a negative status, and a message that is escaped. -/
def everyShape : Response where
  success := false
  bindings := ⟨[("--force", .bool true), ("-v", .count 0xFFFFFFFFFFFFFFFF),
    ("<file>", .list ["", "null", "naïve"]), ("<name>", .text "1"), ("<path>", .null)],
    by unfold NamedBefore; decide⟩
  errorStatus := -0x80000000
  errorMessage := some "\"\\\t\x00𝄞"
  output := some ""

theorem ofJson?_format_everyShape :
    everyShape.FitsWidth ∧
      (Json.read? (everyShape.format .json)).bind ofJson? = some everyShape := by
  have fits : everyShape.FitsWidth :=
    ⟨by simp [Bindings.FitsWidth, Value.FitsWidth, everyShape], by decide⟩
  exact ⟨fits, (ofJson?_format fits).1⟩

end Response

end UsageGrammar
