import UsageGrammar.Value

/-!
# Bindings

Bindings map names to values. They are kept in the order of the names, so that two of them with
the same entries are equal, and an entry that is inserted again keeps its place.
-/

namespace UsageGrammar

/-- Two entries in the order of their names. -/
def NamedBefore (first second : String × Value) : Prop :=
  first.1 < second.1

/-- A finite map from names to values, in the order of the names. -/
structure Bindings where
  entries : List (String × Value)
  sorted : entries.Pairwise NamedBefore

namespace Bindings

@[ext]
theorem ext {first second : Bindings} (same : first.entries = second.entries) : first = second := by
  cases first
  cases second
  cases same
  rfl

/-- No name is bound. -/
def empty : Bindings :=
  ⟨[], List.Pairwise.nil⟩

/-- Puts an entry at its place; the entry of the same name gives way. -/
def insertEntry (name : String) (value : Value) : List (String × Value) → List (String × Value)
  | [] => [(name, value)]
  | entry :: entries =>
    if name < entry.1 then (name, value) :: entry :: entries
    else if name = entry.1 then (name, value) :: entries
    else entry :: insertEntry name value entries

theorem mem_insertEntry {name : String} {value : Value} {entries : List (String × Value)}
    {entry : String × Value} (member : entry ∈ insertEntry name value entries) :
    entry = (name, value) ∨ entry ∈ entries := by
  induction entries with
  | nil => simpa [insertEntry] using member
  | cons head tail ih =>
    simp only [insertEntry] at member
    split at member
    · simpa using member
    · split at member
      · rcases List.mem_cons.1 member with rfl | member
        · exact Or.inl rfl
        · exact Or.inr (List.mem_cons_of_mem _ member)
      · rcases List.mem_cons.1 member with rfl | member
        · exact Or.inr List.mem_cons_self
        · exact (ih member).imp id (List.mem_cons_of_mem _)

theorem insertEntry_sorted (name : String) (value : Value) {entries : List (String × Value)}
    (sorted : entries.Pairwise NamedBefore) :
    (insertEntry name value entries).Pairwise NamedBefore := by
  induction entries with
  | nil => exact List.pairwise_singleton _ _
  | cons head tail ih =>
    obtain ⟨head_before, tail_sorted⟩ := List.pairwise_cons.1 sorted
    simp only [insertEntry]
    split
    · next before =>
      refine List.pairwise_cons.2 ⟨fun entry member => ?_, sorted⟩
      rcases List.mem_cons.1 member with rfl | member
      · exact before
      · exact String.lt_trans before (head_before entry member)
    · split
      · next same =>
        refine List.pairwise_cons.2 ⟨fun entry member => ?_, tail_sorted⟩
        exact same ▸ head_before entry member
      · next not_before different =>
        refine List.pairwise_cons.2 ⟨fun entry member => ?_, ih tail_sorted⟩
        rcases mem_insertEntry member with rfl | member
        · have at_most : head.1 ≤ name := String.not_lt.1 not_before
          exact String.not_le.1 fun reverse =>
            different (String.le_antisymm reverse at_most)
        · exact head_before entry member

/-- Binds a name, whether or not it was bound before. -/
def insert (bindings : Bindings) (name : String) (value : Value) : Bindings :=
  ⟨insertEntry name value bindings.entries, insertEntry_sorted name value bindings.sorted⟩

/-- The value of a name. -/
def get? (bindings : Bindings) (name : String) : Option Value :=
  bindings.entries.lookup name

theorem lookup_cons (key name : String) (value : Value) (entries : List (String × Value)) :
    ((key, value) :: entries).lookup name =
      if name = key then some value else entries.lookup name := by
  by_cases same : name = key
  · simp [same]
  · rw [List.lookup_cons, beq_eq_false_iff_ne.2 same]
    simp [same]

theorem lookup_insertEntry (name other : String) (value : Value)
    (entries : List (String × Value)) :
    (insertEntry name value entries).lookup other =
      if other = name then some value else entries.lookup other := by
  induction entries with
  | nil => exact lookup_cons name other value []
  | cons head tail ih =>
    obtain ⟨key, old⟩ := head
    simp only [insertEntry]
    split
    · exact lookup_cons name other value _
    · split
      · next same => simp only [lookup_cons, same]; split <;> rfl
      · next different =>
        rw [lookup_cons, ih, lookup_cons]
        by_cases at_key : other = key
        · have absent : other ≠ name := fun same => different (same ▸ at_key)
          rw [if_pos at_key, if_neg absent, if_pos at_key]
        · simp [at_key]

theorem get?_insert (bindings : Bindings) (name other : String) (value : Value) :
    (bindings.insert name value).get? other =
      if other = name then some value else bindings.get? other :=
  lookup_insertEntry name other value bindings.entries

/-- The bindings of a list of entries; of two with one name the later counts. -/
def ofList (entries : List (String × Value)) : Bindings :=
  entries.foldl (fun bindings entry => bindings.insert entry.1 entry.2) empty

/-- The last entry of a name is the one that counts. -/
theorem get?_ofList (entries : List (String × Value)) (name : String) :
    (ofList entries).get? name = entries.reverse.lookup name := by
  have inserted (bindings : Bindings) :
      (entries.foldl (fun bindings entry => bindings.insert entry.1 entry.2) bindings).get? name =
        (entries.reverse.lookup name).or (bindings.get? name) := by
    induction entries generalizing bindings with
    | nil => rfl
    | cons entry entries ih =>
      obtain ⟨key, value⟩ := entry
      rw [List.foldl_cons, ih, get?_insert, List.reverse_cons, List.lookup_append, lookup_cons]
      by_cases same : name = key <;> simp [same]
  exact (inserted empty).trans (Option.or_none)

theorem get?_ofList_of_mem {entries : List (String × Value)}
    (distinct : (entries.map Prod.fst).Nodup) {name : String} {value : Value}
    (member : (name, value) ∈ entries) : (ofList entries).get? name = some value := by
  rw [get?_ofList, List.lookup_eq_some_iff]
  obtain ⟨before, after, rfl⟩ := List.append_of_mem member
  refine ⟨after.reverse, before.reverse, by simp, fun entry later => ?_⟩
  simp only [List.map_append, List.map_cons, List.nodup_append, List.nodup_cons] at distinct
  have absent := distinct.2.1.1
  refine bne_iff_ne.2 fun same => absent ?_
  exact same ▸ List.mem_map_of_mem (List.mem_reverse.1 later)

/-- The entries in the order of their names. -/
def toList (bindings : Bindings) : List (String × Value) :=
  bindings.entries

/-- The number of bound names. -/
def size (bindings : Bindings) : Nat :=
  bindings.entries.length

/-- A name is bound. -/
def contains (bindings : Bindings) (name : String) : Bool :=
  (bindings.get? name).isSome

theorem contains_ofList (entries : List (String × Value)) (name : String) :
    (ofList entries).contains name ↔ name ∈ entries.map Prod.fst := by
  rw [contains, get?_ofList, List.lookup_isSome_iff, List.mem_map]
  simp only [List.mem_reverse, beq_iff_eq]
  exact exists_congr fun entry => and_congr_right fun _ => eq_comm

/-- The truth value of a name, false where there is none. -/
def getBool (bindings : Bindings) (name : String) : Bool :=
  ((bindings.get? name).bind Value.toBool?).getD false

/-- The count of a name, zero where there is none. -/
def getCount (bindings : Bindings) (name : String) : Nat :=
  ((bindings.get? name).bind Value.toCount?).getD 0

/-- The text of a name. -/
def getText? (bindings : Bindings) (name : String) : Option String :=
  (bindings.get? name).bind Value.toText?

/-- The texts of a name; a single text counts as a list of one. -/
def getItems (bindings : Bindings) (name : String) : List String :=
  ((bindings.get? name).map Value.contribution).getD []

end Bindings

end UsageGrammar
