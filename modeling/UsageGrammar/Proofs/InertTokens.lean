import UsageGrammar.Proofs.Fitting

/-!
# Inert tokens

A word that could not be understood, or an option that no slot is named for, is passed over by
every leaf. Wherever it stands, every node does to the other tokens what it does without it, and
leaves it where it was among them. Such a token therefore cannot be part of an accepted vector.
-/

namespace UsageGrammar

/-- Tokens that a leaf cannot pass over in favour of one another. -/
inductive Stream where
  | arguments
  | options (name : String)
  | invalids
  deriving DecidableEq

namespace Token

/-- The stream of a token. -/
def stream : Token → Stream
  | option name _ => .options name
  | argument _ => .arguments
  | invalid _ => .invalids

/-- The tokens of a stream, in order. -/
def ofStream (stream : Stream) (tokens : List Token) : List Token :=
  tokens.filter (·.stream = stream)

end Token

/-- A selection accepts the tokens of one stream. -/
def Selects {α : Type} (select : Token → Option α) (stream : Stream) : Prop :=
  ∀ token, (∃ value, select token = some value) ↔ token.stream = stream

theorem selects_argument? : Selects Token.argument? .arguments := by
  intro token
  cases token <;> simp [Token.argument?, Token.stream]

theorem selects_valueOf? (name : String) : Selects (Token.valueOf? name) (.options name) := by
  intro token
  cases token <;> simp [Token.valueOf?, Token.stream]

section TakeFirst

variable {α : Type} {select : Token → Option α} {stream : Stream} {tokens rest : List Token}
  {value : α}

theorem Selects.ofStream_eq_nil_iff (selects : Selects select stream) :
    Token.ofStream stream tokens = [] ↔ takeFirst select tokens = none := by
  rw [takeFirst_eq_none_iff, List.filterMap_eq_nil_iff, Token.ofStream, List.filter_eq_nil_iff]
  refine forall₂_congr fun token _ => ?_
  rw [decide_eq_true_eq, ← selects token, Option.eq_none_iff_forall_ne_some, not_exists]

theorem sublist_of_takeFirst (found : takeFirst select tokens = some (value, rest)) :
    rest.Sublist tokens := by
  obtain ⟨before, token, after, rfl, rfl, -, -⟩ := takeFirst_split found
  exact (List.sublist_cons_self token after).append_left before

theorem Selects.ofStream_other (selects : Selects select stream)
    (found : takeFirst select tokens = some (value, rest)) {other : Stream}
    (different : stream ≠ other) : Token.ofStream other rest = Token.ofStream other tokens := by
  obtain ⟨before, token, after, rfl, rfl, -, taken⟩ := takeFirst_split found
  have elsewhere : token.stream ≠ other := (selects token).mp ⟨value, taken⟩ ▸ different
  simp [Token.ofStream, elsewhere]

theorem takeFirst_append (first second : List Token) :
    takeFirst select (first ++ second) =
      match takeFirst select first with
      | some (value, rest) => some (value, rest ++ second)
      | none => (takeFirst select second).map fun (value, rest) => (value, first ++ rest) := by
  induction first with
  | nil => cases found : takeFirst select second <;> simp [takeFirst, found]
  | cons token first ih =>
      rw [List.cons_append, takeFirst, takeFirst]
      cases select token with
      | some value => rfl
      | none =>
          rw [ih]
          cases takeFirst select first with
          | some taken => rfl
          | none => cases takeFirst select second <;> rfl

end TakeFirst

/-- What is left of two parts of a vector, one before the other: no token of the second part is
taken from a stream that still has one in the first. -/
structure PartsLeft (before after left right : List Token) : Prop where
  first : left.Sublist before
  second : right.Sublist after
  inOrder (stream : Stream) : Token.ofStream stream left = [] ∨
    Token.ofStream stream right = Token.ofStream stream after

namespace PartsLeft

variable {before after left right rest : List Token} {α : Type} {select : Token → Option α}
  {stream : Stream} {value : α}

theorem refl (before after : List Token) : PartsLeft before after before after :=
  ⟨.refl _, .refl _, fun _ => .inr rfl⟩

theorem take_first (parts : PartsLeft before after left right) (selects : Selects select stream)
    (found : takeFirst select left = some (value, rest)) : PartsLeft before after rest right := by
  refine ⟨(sublist_of_takeFirst found).trans parts.first, parts.second, fun other => ?_⟩
  by_cases same : stream = other
  · subst same
    have some_left : Token.ofStream stream left ≠ [] := by
      rw [Ne, selects.ofStream_eq_nil_iff, found]
      nofun
    exact .inr ((parts.inOrder stream).resolve_left some_left)
  · rw [selects.ofStream_other found same]
    exact parts.inOrder other

theorem take_second (parts : PartsLeft before after left right) (selects : Selects select stream)
    (none_before : takeFirst select left = none)
    (found : takeFirst select right = some (value, rest)) : PartsLeft before after left rest := by
  refine ⟨parts.first, (sublist_of_takeFirst found).trans parts.second, fun other => ?_⟩
  by_cases same : stream = other
  · subst same
    exact .inl (selects.ofStream_eq_nil_iff.mpr none_before)
  · rw [selects.ofStream_other found same]
    exact parts.inOrder other

end PartsLeft

/-- The second list is the first with one more token, which stands between what is left of two
parts. -/
inductive Inserted (token : Token) (before after : List Token) : List Token → List Token → Prop
  | between {left right : List Token} : PartsLeft before after left right →
      Inserted token before after (left ++ right) (left ++ token :: right)

namespace Inserted

variable {token : Token} {before after tokens others : List Token}

theorem length_eq (inserted : Inserted token before after tokens others) :
    others.length = tokens.length + 1 := by
  cases inserted with
  | between parts =>
      simp only [List.length_append, List.length_cons]
      omega

theorem takeFirst_related {α : Type} {select : Token → Option α} {stream : Stream}
    (selects : Selects select stream) (elsewhere : token.stream ≠ stream)
    (inserted : Inserted token before after tokens others) :
    Option.Rel (fun plain more => plain.1 = more.1 ∧ Inserted token before after plain.2 more.2)
      (takeFirst select tokens) (takeFirst select others) := by
  have passed : select token = none := by
    refine Option.eq_none_iff_forall_ne_some.mpr fun value taken => elsewhere ?_
    exact (selects token).mp ⟨value, taken⟩
  cases inserted with
  | @between left right parts =>
      have skipped : takeFirst select (token :: right) =
          (takeFirst select right).map fun (value, rest) => (value, token :: rest) := by
        rw [takeFirst, passed]
      rw [takeFirst_append, takeFirst_append, skipped]
      cases found : takeFirst select left with
      | some taken => exact .some ⟨rfl, .between (parts.take_first selects found)⟩
      | none =>
          cases found' : takeFirst select right with
          | none => exact .none
          | some taken => exact .some ⟨rfl, .between (parts.take_second selects found found')⟩

end Inserted

namespace Grammar

variable {grammar : Grammar} {token : Token}

/-- No leaf of the grammar can take the token. -/
inductive Inert (grammar : Grammar) : Token → Prop
  | invalid (word : String) : Inert grammar (.invalid word)
  | option {name : String} (value : Value) :
      (∀ slot ∈ grammar.slots, ∀ spec, slot.kind = .option spec → slot.name ≠ name) →
        Inert grammar (.option name value)

theorem Inert.stream_ne_arguments (inert : grammar.Inert token) : token.stream ≠ .arguments := by
  cases inert <;> simp [Token.stream]

theorem Inert.stream_ne_options (inert : grammar.Inert token) {slot : Slot} {spec : OptionSpec}
    (declared : slot ∈ grammar.slots) (kind : slot.kind = .option spec) :
    token.stream ≠ .options slot.name := by
  cases inert with
  | invalid => simp [Token.stream]
  | option _ absent => simpa [Token.stream] using (absent slot declared spec kind).symm

theorem Inert.not_suits (inert : grammar.Inert token) {slot : Slot}
    (declared : slot ∈ grammar.slots) : ¬ slot.Suits token := by
  intro suits
  cases suits with
  | option kind => exact inert.stream_ne_options declared kind rfl
  | argument | command => exact inert.stream_ne_arguments rfl

/-- Leaves treat a state alike with an inert token and without it. -/
theorem Inert.simulates (inert : grammar.Inert token) (before after : List Token) :
    Matcher.Simulates grammar.matcher grammar.matcher fun plain more =>
      Inserted token before after plain.leftover more.leftover ∧
        plain.bindings = more.bindings := by
  apply matcher_simulates
  · intro slot declared tokens others inserted
    apply Slot.take?_related
    · exact inserted.takeFirst_related selects_argument? inert.stream_ne_arguments
    · intro spec kind
      exact inserted.takeFirst_related (selects_valueOf? slot.name)
        (inert.stream_ne_options declared kind)
  · intro tokens tokens' others others' inserted inserted'
    rw [inserted.length_eq, inserted'.length_eq]
    omega

/-- An inert token makes no difference to a match, wherever it stands: a node fits with it exactly
if it fits without it, binds the same, and leaves the same tokens, with the inert one between those
that stood before it and those that stood after it. No vector with an inert token is accepted. -/
theorem matchNode_inserted (inert : grammar.Inert token) :
    (∀ (node : Node) (before after : List Token) (bindings : List (Option Value)),
      Option.Rel (fun plain more => Inserted token before after plain.leftover more.leftover ∧
          plain.bindings = more.bindings)
        (grammar.matchNode ⟨before ++ after, bindings⟩ node)
        (grammar.matchNode ⟨before ++ token :: after, bindings⟩ node)) ∧
      ∀ tokens, token ∈ tokens → ¬ (grammar.matchTokens tokens).isAccepted := by
  constructor
  · intro node before after bindings
    have start : Inserted token before after (before ++ after) (before ++ token :: after) ∧
        bindings = bindings := ⟨.between (.refl before after), rfl⟩
    exact (inert.simulates before after).matchNode start node
  · intro tokens member accepted
    obtain ⟨state, accepted⟩ := MatchOutcome.isAccepted_iff.mp accepted
    obtain ⟨slot, declared, suits⟩ := exists_suits_of_accepted accepted member
    exact inert.not_suits declared suits

/-- The slots of `[-v]... <file>...`. -/
def fileSlots : List Slot :=
  [⟨"-v", .option (.flag (some "-v") none), .count 0⟩, ⟨"<file>", .argument, .list []⟩]

/-- An unknown option in the middle of a vector stays, and everything around it is consumed. -/
theorem matchNode_inserted_quiet :
    let node := Node.required [.optional [.repeatable (.option 0)], .repeatable (.argument 1)]
    let grammar : Grammar := ⟨node, fileSlots⟩
    grammar.Inert (.flag "-q") ∧
      Option.Rel (fun plain more => Inserted (.flag "-q") [.flag "-v", .argument "a"]
          [.flag "-v", .argument "b"] plain.leftover more.leftover ∧
          plain.bindings = more.bindings)
        (grammar.matchNode
          ⟨[.flag "-v", .argument "a", .flag "-v", .argument "b"], [none, none]⟩ node)
        (grammar.matchNode
          ⟨[.flag "-v", .argument "a", .flag "-q", .flag "-v", .argument "b"], [none, none]⟩
          node) ∧
      grammar.matchNode ⟨[.flag "-v", .argument "a", .flag "-v", .argument "b"], [none, none]⟩
        node = some ⟨[], [some (.count 2), some (.list ["a", "b"])]⟩ ∧
      ¬ (grammar.matchTokens
        [.flag "-v", .argument "a", .flag "-q", .flag "-v", .argument "b"]).isAccepted := by
  intro node grammar
  have inert : grammar.Inert (.flag "-q") := by
    refine .option _ fun slot declared spec kind => ?_
    obtain rfl | rfl : slot = _ ∨ slot = _ := by simpa [grammar, fileSlots] using declared
    · decide
    · cases kind
  obtain ⟨related, refused⟩ := matchNode_inserted inert
  refine ⟨inert, related node [_, _] [_, _] _, by cbv, refused _ ?_⟩
  decide

end Grammar

end UsageGrammar
