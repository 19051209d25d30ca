import UsageGrammar.Json.Tree
import UsageGrammar.Proofs.JsonTokens
import UsageGrammar.Proofs.TextLines

/-!
# Reading printed JSON

Indented JSON is read back as a tree of the shape of its data. Data determines its tokens and its
tree. The printed text is cut into these tokens, because everything that stands behind a number is
a comma, a line break or the end, and reading the tokens puts the tree into whatever brackets are
open.
-/

namespace UsageGrammar

namespace Data

mutual

/-- The tree that data is read back as. -/
def toTree : Data → Json.Tree
  | null => .null
  | bool truth => .bool truth
  | integer number => .integer number
  | text word => .text (some word)
  | sequence items => .array (treesOf items)
  | mapping entries => .object (membersOf entries)

/-- The trees of several items. -/
def treesOf : List Data → List Json.Tree
  | [] => []
  | item :: items => item.toTree :: treesOf items

/-- The members of an object with the given entries. -/
def membersOf : List (String × Data) → List (Option String × Json.Tree)
  | [] => []
  | (key, item) :: entries => (some key, item.toTree) :: membersOf entries

end

mutual

/-- The tokens that data is written with. -/
def tokens : Data → List Json.Token
  | null => [.null]
  | bool truth => [.bool truth]
  | integer number => [.integer number]
  | text word => [.text (some word)]
  | sequence [] => [.openArray, .closeArray]
  | sequence (item :: items) => .openArray :: (item.tokens ++ (furtherItems items ++ [.closeArray]))
  | mapping [] => [.openObject, .closeObject]
  | mapping ((key, item) :: entries) =>
    .openObject :: .text (some key) :: .colon ::
      (item.tokens ++ (furtherEntries entries ++ [.closeObject]))

/-- The tokens of items that follow another one. -/
def furtherItems : List Data → List Json.Token
  | [] => []
  | item :: items => .comma :: (item.tokens ++ furtherItems items)

/-- The tokens of entries that follow another one. -/
def furtherEntries : List (String × Data) → List Json.Token
  | [] => []
  | (key, item) :: entries =>
    .comma :: .text (some key) :: .colon :: (item.tokens ++ furtherEntries entries)

end

end Data

namespace Json

variable {rest : List Char}

section Trees

mutual

/-- The tokens of data are read as its tree, whatever brackets are open and whatever follows. -/
theorem readValue_tokens : ∀ (data : Data) (mayEnd : Bool) (stack : List Frame)
    (rest : List Token), readValue mayEnd stack (data.tokens ++ rest) = readRest stack data.toTree rest
  | .null, _, _, _ | .bool _, _, _, _ | .integer _, _, _, _ | .text _, _, _, _ => rfl
  | .sequence [], _, _, _ => rfl
  | .sequence (item :: items), _, stack, rest => by
      rw [Data.tokens]
      simp only [List.cons_append, List.append_assoc, List.nil_append, readValue]
      rw [readValue_tokens item, readRest_furtherItems items]
      rfl
  | .mapping [], _, _, _ => rfl
  | .mapping ((key, item) :: entries), _, stack, rest => by
      rw [Data.tokens]
      simp only [List.cons_append, List.append_assoc, List.nil_append, readValue, readFirstMember]
      rw [readValue_tokens item, readRest_furtherEntries entries]
      rfl

theorem readRest_furtherItems : ∀ (items : List Data) (done : List Tree) (value : Tree)
    (stack : List Frame) (rest : List Token),
    readRest (.array done :: stack) value (Data.furtherItems items ++ .closeArray :: rest) =
      readRest stack (.array (done ++ value :: Data.treesOf items)) rest
  | [], _, _, _, _ => rfl
  | item :: items, done, value, stack, rest => by
      rw [Data.furtherItems, List.cons_append, List.append_assoc, readRest,
        readValue_tokens item, readRest_furtherItems items, Data.treesOf]
      simp

theorem readRest_furtherEntries : ∀ (entries : List (String × Data))
    (done : List (Option String × Tree)) (key : Option String) (value : Tree)
    (stack : List Frame) (rest : List Token),
    readRest (.object done key :: stack) value
        (Data.furtherEntries entries ++ .closeObject :: rest) =
      readRest stack (.object (done ++ (key, value) :: Data.membersOf entries)) rest
  | [], _, _, _, _, _ => rfl
  | (next, item) :: entries, done, key, value, stack, rest => by
      rw [Data.furtherEntries, List.cons_append, List.cons_append, List.cons_append,
        List.append_assoc, readRest, readValue_tokens item, readRest_furtherEntries entries,
        Data.membersOf]
      simp

end

end Trees

section Layout

namespace EndsNumber

theorem nil : EndsNumber [] :=
  nofun

theorem indentation (depth : Nat) (text : List Char) :
    EndsNumber (Data.indentation depth ++ text) := by
  rintro c ⟨⟩
  decide

theorem further {α : Type} (print : α → List Char) (items : List α) (ends : EndsNumber rest) :
    EndsNumber (items.flatMap (fun item => ',' :: print item) ++ rest) := by
  cases items with
  | nil => exact ends
  | cons item items =>
      rintro c ⟨⟩
      decide

end EndsNumber

theorem intercalate_comma {α : Type} (print : α → List Char) (item : α) (items : List α) :
    [','].intercalate ((item :: items).map print) =
      print item ++ items.flatMap fun item => ',' :: print item := by
  rw [List.map_cons, Text.intercalate_cons, List.flatMap_map]
  rfl

theorem prettyItems_eq_map (depth : Nat) (items : List Data) :
    Data.prettyItems depth items =
      items.map fun item => Data.indentation depth ++ item.pretty depth := by
  induction items with
  | nil => rfl
  | cons item items ih => rw [Data.prettyItems, ih, List.map_cons]

theorem prettyEntries_eq_map (depth : Nat) (entries : List (String × Data)) :
    Data.prettyEntries depth entries = entries.map fun entry =>
      Data.indentation depth ++ (Data.jsonText entry.1 ++ ':' :: ' ' :: entry.2.pretty depth) := by
  induction entries with
  | nil => rfl
  | cons entry entries ih => rw [Data.prettyEntries, ih, List.map_cons, List.append_assoc]

mutual

/-- Indented data is cut into its tokens. -/
theorem tokens?_pretty : ∀ (data : Data) (depth : Nat) {rest : List Char}, EndsNumber rest →
    tokens? (data.pretty depth ++ rest) = (tokens? rest).map (data.tokens ++ ·)
  | .null, _, rest, _ => tokens?_null rest
  | .bool truth, _, rest, _ => tokens?_jsonBool truth rest
  | .integer number, _, _, ends => tokens?_jsonInteger ends number
  | .text word, _, rest, _ => tokens?_jsonText word rest
  | .sequence [], _, rest, _ => by
      rw [Data.pretty, List.cons_append, List.cons_append, tokens?_of_firstToken? rfl rfl,
        tokens?_of_firstToken? rfl rfl, Option.map_map]
      rfl
  | .sequence (item :: items), depth, rest, _ => by
      have ends := EndsNumber.indentation depth (']' :: rest)
      rw [Data.pretty, prettyItems_eq_map, intercalate_comma]
      simp only [List.cons_append, List.append_assoc, List.nil_append]
      rw [tokens?_of_firstToken? rfl rfl, tokens?_indentation,
        tokens?_pretty item _ (ends.further _ items), tokens?_furtherItems items _ ends,
        tokens?_indentation, tokens?_of_firstToken? rfl rfl]
      simp [Option.map_map, Function.comp_def, Data.tokens]
  | .mapping [], _, rest, _ => by
      rw [Data.pretty, List.cons_append, List.cons_append, tokens?_of_firstToken? rfl rfl,
        tokens?_of_firstToken? rfl rfl, Option.map_map]
      rfl
  | .mapping ((key, item) :: entries), depth, rest, _ => by
      have ends := EndsNumber.indentation depth ('\x7d' :: rest)
      rw [Data.pretty, prettyEntries_eq_map, intercalate_comma]
      simp only [List.cons_append, List.append_assoc, List.nil_append]
      rw [tokens?_of_firstToken? rfl rfl, tokens?_indentation, tokens?_jsonText,
        tokens?_of_firstToken? rfl rfl, tokens?_space rfl,
        tokens?_pretty item _ (ends.further _ entries), tokens?_furtherEntries entries _ ends,
        tokens?_indentation, tokens?_of_firstToken? rfl rfl]
      simp [Option.map_map, Function.comp_def, Data.tokens]

theorem tokens?_furtherItems : ∀ (items : List Data) (depth : Nat) {rest : List Char},
    EndsNumber rest →
    tokens? ((items.flatMap fun item => ',' :: (Data.indentation depth ++ item.pretty depth)) ++
      rest) = (tokens? rest).map (Data.furtherItems items ++ ·)
  | [], _, rest, _ => by simp [Data.furtherItems]
  | item :: items, depth, rest, ends => by
      rw [List.flatMap_cons]
      simp only [List.cons_append, List.append_assoc]
      rw [tokens?_of_firstToken? rfl rfl, tokens?_indentation,
        tokens?_pretty item _ (ends.further _ items), tokens?_furtherItems items _ ends]
      simp [Option.map_map, Function.comp_def, Data.furtherItems]

theorem tokens?_furtherEntries : ∀ (entries : List (String × Data)) (depth : Nat)
    {rest : List Char}, EndsNumber rest →
    tokens? ((entries.flatMap fun entry => ',' :: (Data.indentation depth ++
      (Data.jsonText entry.1 ++ ':' :: ' ' :: entry.2.pretty depth))) ++ rest) =
      (tokens? rest).map (Data.furtherEntries entries ++ ·)
  | [], _, rest, _ => by simp [Data.furtherEntries]
  | (key, item) :: entries, depth, rest, ends => by
      rw [List.flatMap_cons]
      simp only [List.cons_append, List.append_assoc]
      rw [tokens?_of_firstToken? rfl rfl, tokens?_indentation, tokens?_jsonText,
        tokens?_of_firstToken? rfl rfl, tokens?_space rfl,
        tokens?_pretty item _ (ends.further _ entries), tokens?_furtherEntries entries _ ends]
      simp [Option.map_map, Function.comp_def, Data.furtherEntries]

end

theorem read?_toPrettyJson (data : Data) : read? data.toPrettyJson = some data.toTree := by
  have cut := tokens?_pretty data 0 EndsNumber.nil
  rw [List.append_nil] at cut
  rw [read?, Data.toPrettyJson, String.toList_ofList, cut]
  have tree := readValue_tokens data false [] []
  simpa [tokens?, readRest] using tree

end Layout

end Json

end UsageGrammar
