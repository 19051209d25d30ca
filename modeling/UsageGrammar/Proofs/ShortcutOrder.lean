import UsageGrammar.Proofs.BareConsumption
import UsageGrammar.Proofs.Trace

/-!
# The order of the options in a shortcut

A shortcut tries each of its options once. An option erases the first token of its name and binds
its own slot, so two options of different names can be tried in either order. A shortcut therefore
does the same in whatever order its options are declared, and of each of them it takes the first
value.
-/

namespace UsageGrammar

section TakeFirst

variable {α : Type} {select : Token → Option α} {tokens rest : List Token} {value : α}

theorem eraseP_of_takeFirst_eq_none (missing : takeFirst select tokens = none) :
    tokens.eraseP (fun token => (select token).isSome) = tokens := by
  have unselected := List.filterMap_eq_nil_iff.mp (takeFirst_eq_none_iff.mp missing)
  refine List.eraseP_of_forall_not fun token member => ?_
  simp [unselected token member]

theorem eraseP_of_takeFirst (found : takeFirst select tokens = some (value, rest)) :
    tokens.eraseP (fun token => (select token).isSome) = rest := by
  obtain ⟨before, token, after, rfl, rfl, unselected, taken⟩ := takeFirst_split found
  have passed := List.filterMap_eq_nil_iff.mp unselected
  rw [List.eraseP_append_right _ fun other member => by simp [passed other member]]
  simp [taken]

end TakeFirst

namespace Token

variable {name other : String}

/-- The token is an option of the given name. -/
def isNamed (name : String) (token : Token) : Bool :=
  (valueOf? name token).isSome

theorem not_isNamed_of_ne (different : name ≠ other) (token : Token) :
    ¬ isNamed name token ∨ ¬ isNamed other token := by
  cases token with
  | option actual value =>
      by_cases named : actual = name
      · exact .inr (by simp [isNamed, valueOf?, named, different])
      · exact .inl (by simp [isNamed, valueOf?, named])
  | argument word | invalid word => exact .inl (by simp [isNamed, valueOf?])

theorem consumed_eraseP (name : String) (tokens : List Token) :
    Consumed 0 [name] tokens (tokens.eraseP (isNamed name)) := by
  have passed := Consumed.passOption name tokens
  cases found : takeFirst (valueOf? name) tokens with
  | none =>
      rw [found] at passed
      exact (eraseP_of_takeFirst_eq_none found).symm ▸ passed
  | some taken =>
      rw [found] at passed
      exact (eraseP_of_takeFirst found).symm ▸ passed

end Token

namespace Grammar

variable {grammar : Grammar} {state : MatchState} {slot other : Nat} {slots others : List Nat}
  {declared declared' : Slot} {spec spec' : OptionSpec}

/-- The state after a slot was tried: as its leaf leaves it, or unchanged where the leaf does not
fit. -/
def offer (grammar : Grammar) (state : MatchState) (slot : Nat) : MatchState :=
  (grammar.matchSlot slot state).getD state

/-- A shortcut always fits, and tries its slots one after another. -/
theorem matchNode_shortcut (slots : List Nat) (state : MatchState) :
    grammar.matchNode state (.shortcut (slots.map .option)) =
      some (slots.foldl grammar.offer state) := by
  refine congrArg some ?_
  induction slots generalizing state with
  | nil => rfl
  | cons slot slots ih => exact ih (grammar.offer state slot)

theorem offer_eq (found : grammar.slots[slot]? = some declared)
    (kind : declared.kind = .option spec) :
    grammar.offer state slot =
      ⟨state.leftover.eraseP (Token.isNamed declared.name),
        state.bindings.modify slot fun bound =>
          declared.accumulateAll bound ((Token.valuesOf declared.name state.leftover).take 1)⟩ := by
  have takes : declared.take? state.leftover =
      takeFirst (Token.valueOf? declared.name) state.leftover := by
    simp only [Slot.take?, kind]
  simp only [offer, matchSlot, found, takes]
  cases taken : takeFirst (Token.valueOf? declared.name) state.leftover with
  | none =>
      have absent : Token.valuesOf declared.name state.leftover = [] :=
        takeFirst_eq_none_iff.mp taken
      have kept : state.leftover.eraseP (Token.isNamed declared.name) = state.leftover :=
        eraseP_of_takeFirst_eq_none taken
      rw [absent, kept]
      exact congrArg (MatchState.mk state.leftover) (List.modify_id slot state.bindings).symm
  | some result =>
      obtain ⟨value, rest⟩ := result
      have left : state.leftover.eraseP (Token.isNamed declared.name) = rest :=
        eraseP_of_takeFirst taken
      rw [valuesOf_of_takeFirst taken, left]
      rfl

/-- Options of different names can be tried in either order. -/
theorem offer_comm (found : grammar.slots[slot]? = some declared)
    (kind : declared.kind = .option spec) (found' : grammar.slots[other]? = some declared')
    (kind' : declared'.kind = .option spec') (different : declared.name ≠ declared'.name) :
    grammar.offer (grammar.offer state slot) other =
      grammar.offer (grammar.offer state other) slot := by
  have apart : slot ≠ other := by
    rintro rfl
    exact different (congrArg Slot.name (Option.some.inj (found.symm.trans found')))
  have values := (Token.consumed_eraseP declared.name state.leftover).values declared'.name
  have values' := (Token.consumed_eraseP declared'.name state.leftover).values declared.name
  rw [if_neg (by simpa using different.symm)] at values
  rw [if_neg (by simpa using different)] at values'
  simp only [offer_eq found kind, offer_eq found' kind', values, values']
  rw [List.eraseP_comm fun token _ => Token.not_isNamed_of_ne different token,
    List.modify_modify_ne _ _ _ apart]

/-- The index is that of the slot of an option. -/
def IsOptionSlot (grammar : Grammar) (slot : Nat) : Prop :=
  ∃ declared spec, grammar.slots[slot]? = some declared ∧ declared.kind = .option spec

theorem nameAt_eq (found : grammar.slots[slot]? = some declared) :
    grammar.nameAt slot = declared.name := by
  simp [nameAt, found]

theorem foldl_offer_eq_of_perm (options : ∀ slot ∈ slots, grammar.IsOptionSlot slot)
    (distinct : (slots.map grammar.nameAt).Nodup) (rearranged : slots.Perm others)
    (state : MatchState) :
    slots.foldl grammar.offer state = others.foldl grammar.offer state := by
  refine rearranged.foldl_eq' (fun slot member other member' state => ?_) state
  obtain ⟨declared, spec, found, kind⟩ := options slot member
  obtain ⟨declared', spec', found', kind'⟩ := options other member'
  by_cases same : slot = other
  · rw [same]
  · refine offer_comm found kind found' kind' fun named => same ?_
    apply List.inj_on_of_nodup_map distinct member member'
    rw [nameAt_eq found, nameAt_eq found', named]

/-- Of each name one value is taken, if it has any. -/
theorem consumed_foldl_offer (options : ∀ slot ∈ slots, grammar.IsOptionSlot slot)
    (distinct : (slots.map grammar.nameAt).Nodup) (state : MatchState) :
    Consumed 0 (slots.map grammar.nameAt) state.leftover
      (slots.foldl grammar.offer state).leftover := by
  induction slots generalizing state with
  | nil => exact .refl state.leftover
  | cons slot slots ih =>
      obtain ⟨⟨declared, spec, found, kind⟩, options⟩ := List.forall_mem_cons.mp options
      obtain ⟨fresh, distinct⟩ := List.nodup_cons.mp distinct
      have once : Consumed 0 [grammar.nameAt slot] state.leftover
          (grammar.offer state slot).leftover := by
        rw [offer_eq found kind, nameAt_eq found]
        exact Token.consumed_eraseP declared.name state.leftover
      exact once.trans (ih options distinct _) (List.singleton_disjoint.mpr fresh)

theorem binding?_foldl_offer_of_notMem (options : ∀ slot ∈ slots, grammar.IsOptionSlot slot)
    (elsewhere : other ∉ slots) (state : MatchState) :
    (slots.foldl grammar.offer state).binding? other = state.binding? other := by
  induction slots generalizing state with
  | nil => rfl
  | cons slot slots ih =>
      obtain ⟨⟨declared, spec, found, kind⟩, options⟩ := List.forall_mem_cons.mp options
      obtain ⟨apart, elsewhere⟩ := List.ne_and_not_mem_of_not_mem_cons elsewhere
      rw [List.foldl_cons, ih options elsewhere, offer_eq found kind, MatchState.binding?,
        List.getElem?_modify_ne _ _ (Ne.symm apart)]
      rfl

/-- The slot of an option binds the first value of its name: it may be tried first, and those after
it leave its binding alone. -/
theorem binding?_foldl_offer_of_mem (options : ∀ slot ∈ slots, grammar.IsOptionSlot slot)
    (distinct : (slots.map grammar.nameAt).Nodup) (member : slot ∈ slots)
    (found : grammar.slots[slot]? = some declared)
    (sized : state.bindings.length = grammar.size) :
    (slots.foldl grammar.offer state).binding? slot =
      declared.accumulateAll (state.binding? slot)
        ((Token.valuesOf declared.name state.leftover).take 1) := by
  have first : slots.Perm (slot :: slots.erase slot) := List.perm_cons_erase member
  have others_options : ∀ other ∈ slots.erase slot, grammar.IsOptionSlot other :=
    fun other kept => options other (List.mem_of_mem_erase kept)
  have absent : slot ∉ slots.erase slot := (List.Nodup.of_map _ distinct).not_mem_erase
  have inside : slot < state.bindings.length := sized ▸ (List.getElem?_eq_some_iff.mp found).1
  obtain ⟨_, spec, found', kind⟩ := options slot member
  obtain rfl := Option.some.inj (found'.symm.trans found)
  rw [foldl_offer_eq_of_perm options distinct first, List.foldl_cons,
    binding?_foldl_offer_of_notMem others_options absent, offer_eq found kind]
  simp [MatchState.binding?, inside]

/-- The order in which the options of a shortcut are declared makes no difference, if their names
are distinct. The shortcut fits, takes one value of each option that occurs, and binds it. -/
theorem matchNode_shortcut_perm (sized : state.bindings.length = grammar.size)
    (options : ∀ slot ∈ slots, grammar.IsOptionSlot slot)
    (distinct : (slots.map grammar.nameAt).Nodup) (rearranged : slots.Perm others) :
    ∃ final, grammar.matchNode state (.shortcut (slots.map .option)) = some final ∧
      grammar.matchNode state (.shortcut (others.map .option)) = some final ∧
      Consumed 0 (slots.map grammar.nameAt) state.leftover final.leftover ∧
      (∀ slot ∉ slots, final.binding? slot = state.binding? slot) ∧
      ∀ slot ∈ slots, ∀ declared, grammar.slots[slot]? = some declared →
        final.binding? slot = declared.accumulateAll (state.binding? slot)
          ((Token.valuesOf declared.name state.leftover).take 1) := by
  refine ⟨slots.foldl grammar.offer state, matchNode_shortcut slots state, ?_,
    consumed_foldl_offer options distinct state, fun slot elsewhere => ?_,
    fun slot member declared found => ?_⟩
  · rw [matchNode_shortcut, foldl_offer_eq_of_perm options distinct rearranged]
  · exact binding?_foldl_offer_of_notMem options elsewhere state
  · exact binding?_foldl_offer_of_mem options distinct member found sized

/-- The slots of a `-v` that is counted, an `-o` with a value and a `-q`. -/
def quietSlots : List Slot :=
  [⟨"-v", .option (.flag (some "-v") none), .count 0⟩,
    ⟨"-o", .option (.valued (some "-o") none), .null⟩,
    ⟨"-q", .option (.flag (some "-q") none), .bool false⟩]

/-- Of three options two occur, and in either order the first value of each is taken. -/
theorem matchNode_shortcut_perm_quiet :
    let grammar : Grammar := ⟨.shortcut [.option 0, .option 1, .option 2], quietSlots⟩
    let state : MatchState :=
      ⟨[.option "-o" (.text "a"), .flag "-v", .argument "x", .flag "-v",
        .option "-o" (.text "b")], [some (.count 1), none, none]⟩
    let final : MatchState :=
      ⟨[.argument "x", .flag "-v", .option "-o" (.text "b")],
        [some (.count 2), some (.text "a"), none]⟩
    state.bindings.length = grammar.size ∧ (∀ slot ∈ [0, 1, 2], grammar.IsOptionSlot slot) ∧
      ([0, 1, 2].map grammar.nameAt).Nodup ∧ [0, 1, 2].Perm [2, 0, 1] ∧
      grammar.matchNode state (.shortcut [.option 0, .option 1, .option 2]) = some final ∧
      grammar.matchNode state (.shortcut [.option 2, .option 0, .option 1]) = some final := by
  intro grammar state final
  have options : ∀ slot ∈ [0, 1, 2], grammar.IsOptionSlot slot := by
    simp [IsOptionSlot, grammar, quietSlots]
  have distinct : ([0, 1, 2].map grammar.nameAt).Nodup := by decide
  have rearranged : [0, 1, 2].Perm [2, 0, 1] := by decide
  have sized : state.bindings.length = grammar.size := rfl
  obtain ⟨reached, first, second, -⟩ := matchNode_shortcut_perm sized options distinct rearranged
  have computed : grammar.matchNode state (.shortcut [.option 0, .option 1, .option 2]) =
      some final := by cbv
  obtain rfl := Option.some.inj (first.symm.trans computed)
  exact ⟨sized, options, distinct, rearranged, computed, second⟩

end Grammar

end UsageGrammar
