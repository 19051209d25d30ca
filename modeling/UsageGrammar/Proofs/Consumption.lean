import UsageGrammar.Grammar.Match
import UsageGrammar.Proofs.Simulation

/-!
# Consumption of tokens

Tokens form independent streams: the words of the arguments, and for each name the values of the
options of that name. A leaf takes the first token of one stream and leaves every other stream as
it is. A relation between the tokens of two states that taking keeps is therefore kept by every
node.
-/

namespace UsageGrammar

namespace Token

/-- The words of the arguments, in order. -/
def words (tokens : List Token) : List String :=
  tokens.filterMap argument?

/-- The values of the options of a name, in order. -/
def valuesOf (name : String) (tokens : List Token) : List Value :=
  tokens.filterMap (valueOf? name)

/-- The word that could not be understood. -/
def invalid? : Token → Option String
  | invalid word => some word
  | _ => none

/-- The words that could not be understood, in order. -/
def invalids (tokens : List Token) : List String :=
  tokens.filterMap invalid?

end Token

section TakeFirst

variable {α β : Type} {select : Token → Option α} {other : Token → Option β}
  {tokens rest : List Token} {value : α}

theorem takeFirst_eq_none_iff : takeFirst select tokens = none ↔ tokens.filterMap select = [] := by
  induction tokens with
  | nil => simp [takeFirst]
  | cons token tokens ih =>
      cases selected : select token with
      | none => simp [takeFirst, selected, ih]
      | some value => simp [takeFirst, selected]

theorem takeFirst_split (found : takeFirst select tokens = some (value, rest)) :
    ∃ before token after, tokens = before ++ token :: after ∧ rest = before ++ after ∧
      before.filterMap select = [] ∧ select token = some value := by
  induction tokens generalizing rest with
  | nil => cases found
  | cons head tail ih =>
      cases selected : select head with
      | some first =>
          simp only [takeFirst, selected, Option.some.injEq, Prod.mk.injEq] at found
          obtain ⟨rfl, rfl⟩ := found
          exact ⟨[], head, tail, rfl, rfl, rfl, selected⟩
      | none =>
          simp only [takeFirst, selected, Option.map_eq_some_iff] at found
          obtain ⟨⟨first, others⟩, later, same⟩ := found
          obtain ⟨rfl, rfl⟩ := Prod.mk.inj same
          obtain ⟨before, token, after, rfl, rfl, unselected, taken⟩ := ih later
          exact ⟨head :: before, token, after, rfl, rfl, by simp [selected, unselected], taken⟩

theorem filterMap_of_takeFirst (found : takeFirst select tokens = some (value, rest)) :
    tokens.filterMap select = value :: rest.filterMap select := by
  obtain ⟨before, token, after, rfl, rfl, unselected, taken⟩ := takeFirst_split found
  simp [List.filterMap_append, unselected, taken]

theorem filterMap_other_of_takeFirst (found : takeFirst select tokens = some (value, rest))
    (disjoint : ∀ token value, select token = some value → other token = none) :
    tokens.filterMap other = rest.filterMap other := by
  obtain ⟨before, token, after, rfl, rfl, _, taken⟩ := takeFirst_split found
  simp [List.filterMap_append, disjoint token value taken]

end TakeFirst

section Streams

variable {tokens rest : List Token} {name : String}

theorem words_of_takeFirst {word : String}
    (found : takeFirst Token.argument? tokens = some (word, rest)) :
    Token.words tokens = word :: Token.words rest :=
  filterMap_of_takeFirst found

theorem valuesOf_of_takeFirst {value : Value}
    (found : takeFirst (Token.valueOf? name) tokens = some (value, rest)) :
    Token.valuesOf name tokens = value :: Token.valuesOf name rest :=
  filterMap_of_takeFirst found

theorem words_of_takeFirst_option {value : Value}
    (found : takeFirst (Token.valueOf? name) tokens = some (value, rest)) :
    Token.words tokens = Token.words rest := by
  refine filterMap_other_of_takeFirst found fun token value selected => ?_
  cases token <;> simp_all [Token.valueOf?, Token.argument?]

theorem valuesOf_of_takeFirst_argument {word : String}
    (found : takeFirst Token.argument? tokens = some (word, rest)) :
    Token.valuesOf name tokens = Token.valuesOf name rest := by
  refine filterMap_other_of_takeFirst found fun token word selected => ?_
  cases token <;> simp_all [Token.valueOf?, Token.argument?]

theorem valuesOf_of_takeFirst_other {other : String} {value : Value} (different : name ≠ other)
    (found : takeFirst (Token.valueOf? name) tokens = some (value, rest)) :
    Token.valuesOf other tokens = Token.valuesOf other rest := by
  refine filterMap_other_of_takeFirst found fun token value selected => ?_
  cases token <;> grind [Token.valueOf?]

theorem invalids_of_takeFirst_option {value : Value}
    (found : takeFirst (Token.valueOf? name) tokens = some (value, rest)) :
    Token.invalids tokens = Token.invalids rest := by
  refine filterMap_other_of_takeFirst found fun token value selected => ?_
  cases token <;> simp_all [Token.valueOf?, Token.invalid?]

theorem invalids_of_takeFirst_argument {word : String}
    (found : takeFirst Token.argument? tokens = some (word, rest)) :
    Token.invalids tokens = Token.invalids rest := by
  refine filterMap_other_of_takeFirst found fun token word selected => ?_
  cases token <;> simp_all [Token.argument?, Token.invalid?]

end Streams

namespace Slot

/-- A leaf of the slot takes a value from tokens and leaves the rest. -/
inductive Takes (slot : Slot) (tokens rest : List Token) : Value → Prop
  | option {spec : OptionSpec} {value : Value} : slot.kind = .option spec →
      takeFirst (Token.valueOf? slot.name) tokens = some (value, rest) →
      Takes slot tokens rest value
  | argument {word : String} : slot.kind = .argument →
      takeFirst Token.argument? tokens = some (word, rest) → Takes slot tokens rest (.text word)
  | command : slot.kind = .command →
      takeFirst Token.argument? tokens = some (slot.name, rest) →
      Takes slot tokens rest (.bool true)

theorem takes_of_take? {slot : Slot} {tokens rest : List Token} {value : Value}
    (taken : slot.take? tokens = some (value, rest)) : slot.Takes tokens rest value := by
  unfold take? at taken
  split at taken
  · next spec kind => exact .option kind taken
  · next kind =>
      obtain ⟨⟨word, others⟩, found, same⟩ := Option.map_eq_some_iff.mp taken
      obtain ⟨rfl, rfl⟩ := Prod.mk.inj same
      exact .argument kind found
  · next kind =>
      split at taken
      · next word others found =>
          split at taken
          · next named =>
              obtain ⟨rfl, rfl⟩ := Prod.mk.inj (Option.some.inj taken)
              exact .command kind (named ▸ found)
          · cases taken
      · cases taken

end Slot

section Related

variable {related : List Token → List Token → Prop} {tokens others : List Token}

/-- A slot takes the same from both if arguments and its own options are taken alike. -/
theorem Slot.take?_related {slot : Slot}
    (words : Option.Rel (fun left right => left.1 = right.1 ∧ related left.2 right.2)
      (takeFirst Token.argument? tokens) (takeFirst Token.argument? others))
    (values : ∀ spec, slot.kind = .option spec →
      Option.Rel (fun left right => left.1 = right.1 ∧ related left.2 right.2)
        (takeFirst (Token.valueOf? slot.name) tokens)
        (takeFirst (Token.valueOf? slot.name) others)) :
    Option.Rel (fun left right => left.1 = right.1 ∧ related left.2 right.2)
      (slot.take? tokens) (slot.take? others) := by
  unfold take?
  generalize takeFirst Token.argument? tokens = first,
    takeFirst Token.argument? others = second at words ⊢
  cases kind : slot.kind with
  | option spec => exact values spec kind
  | argument =>
      cases words with
      | none => exact .none
      | some alike => exact .some ⟨congrArg Value.text alike.1, alike.2⟩
  | command =>
      cases words with
      | none => exact .none
      | @some taken taken' alike =>
          obtain ⟨word, rest⟩ := taken
          obtain ⟨word', rest'⟩ := taken'
          obtain ⟨rfl, alike⟩ := alike
          by_cases named : word = slot.name
          · simpa [named] using alike
          · simp [named]

/-- States with related tokens and the same bindings are matched alike, if slots take the same from
related tokens and related tokens agree on which of two are fewer. -/
theorem Grammar.matcher_simulates {grammar : Grammar}
    (takes : ∀ slot ∈ grammar.slots, ∀ {tokens others}, related tokens others →
      Option.Rel (fun left right => left.1 = right.1 ∧ related left.2 right.2)
        (slot.take? tokens) (slot.take? others))
    (length : ∀ {tokens tokens' others others'}, related tokens others → related tokens' others' →
      (tokens'.length < tokens.length ↔ others'.length < others.length)) :
    Matcher.Simulates grammar.matcher grammar.matcher fun left right =>
      related left.leftover right.leftover ∧ left.bindings = right.bindings := by
  constructor
  · rintro slot ⟨tokens, bindings⟩ ⟨others, _⟩ ⟨alike, rfl⟩
    simp only [matcher, matchSlot]
    cases found : grammar.slots[slot]? with
    | none => exact .none
    | some declared =>
        dsimp only
        have taken := takes declared (List.mem_of_getElem? found) alike
        generalize declared.take? tokens = first, declared.take? others = second at taken
        cases taken with
        | none => exact .none
        | some both => exact .some ⟨both.2, by rw [both.1]⟩
  · rintro left left' right right' ⟨alike, _⟩ ⟨alike', _⟩
    exact length alike alike'

end Related

end UsageGrammar
