import UsageGrammar.Proofs.Discovery
import UsageGrammar.Proofs.Reading

/-!
# Nesting of brackets

A scan of the brackets alone foretells what an expression compiles to. Where no option takes a
value, compiling succeeds exactly if the brackets are properly nested, and otherwise fails at the
bracket at which the scan fails. An option that takes a value can take a bracket along, so in
general the scan is of the words that are left to read.
-/

namespace UsageGrammar

namespace Expression

/-- The bracket that a word opens. -/
def Bracket.openedBy? (word : String) : Option Bracket :=
  if word = "(" then some round else if word = "[" then some square else none

/-- The bracket that a word closes. -/
def Bracket.closedBy? (word : String) : Option Bracket :=
  if word = ")" then some round else if word = "]" then some square else none

/-- What a scan of the brackets comes to. -/
inductive Nesting where
  /-- All words are scanned, and these brackets are open, the innermost first. -/
  | leaves (opened : List Bracket)
  /-- The first of these words closes a bracket, but none is open. -/
  | stray (words : List String)
  /-- The innermost open bracket meets the end of another one. -/
  | crossed (opened : Bracket)
  deriving Repr, DecidableEq, Inhabited

/-- Scans the brackets of words, with a stack of those that are open. -/
def nestingOf (opened : List Bracket) : List String → Nesting
  | [] => .leaves opened
  | word :: words =>
    match Bracket.openedBy? word, Bracket.closedBy? word with
    | some bracket, _ => nestingOf (bracket :: opened) words
    | none, some bracket =>
      match opened with
      | [] => .stray (word :: words)
      | innermost :: outer =>
        if innermost = bracket then nestingOf outer words else .crossed innermost
    | none, none => nestingOf opened words

section Scan

variable {opened : List Bracket} {word : String} {words : List String} {bracket : Bracket}

theorem Bracket.openedBy?_opener (bracket : Bracket) : openedBy? bracket.opener = some bracket := by
  cases bracket <;> decide

theorem Bracket.openedBy?_closer (bracket : Bracket) : openedBy? bracket.closer = none := by
  cases bracket <;> decide

theorem Bracket.closedBy?_closer (bracket : Bracket) : closedBy? bracket.closer = some bracket := by
  cases bracket <;> decide

theorem Bracket.eq_opener_of_openedBy? (opens : openedBy? word = some bracket) :
    word = bracket.opener := by
  unfold openedBy? at opens
  split at opens
  · next same => exact Option.some.inj opens ▸ same
  · split at opens
    · next same => exact Option.some.inj opens ▸ same
    · cases opens

theorem Bracket.eq_closer_of_closedBy? (closes : closedBy? word = some bracket) :
    word = bracket.closer := by
  unfold closedBy? at closes
  split at closes
  · next same => exact Option.some.inj closes ▸ same
  · split at closes
    · next same => exact Option.some.inj closes ▸ same
    · cases closes

theorem nestingOf_opener (bracket : Bracket) :
    nestingOf opened (bracket.opener :: words) = nestingOf (bracket :: opened) words := by
  simp only [nestingOf, Bracket.openedBy?_opener]

theorem nestingOf_closer (bracket : Bracket) :
    nestingOf (bracket :: opened) (bracket.closer :: words) = nestingOf opened words := by
  simp only [nestingOf, Bracket.openedBy?_closer, Bracket.closedBy?_closer, if_true]

theorem nestingOf_closer_of_nil (bracket : Bracket) :
    nestingOf [] (bracket.closer :: words) = .stray (bracket.closer :: words) := by
  simp only [nestingOf, Bracket.openedBy?_closer, Bracket.closedBy?_closer]

theorem nestingOf_closer_of_ne {innermost : Bracket} (other : innermost ≠ bracket) :
    nestingOf (innermost :: opened) (bracket.closer :: words) = .crossed innermost := by
  simp only [nestingOf, Bracket.openedBy?_closer, Bracket.closedBy?_closer, if_neg other]

theorem nestingOf_other (opens : Bracket.openedBy? word = none)
    (closes : Bracket.closedBy? word = none) :
    nestingOf opened (word :: words) = nestingOf opened words := by
  simp only [nestingOf, opens, closes]

/-- The word opens or closes a bracket. -/
def Symbol.isBracket : Symbol → Bool
  | opening _ | closing _ => true
  | _ => false

theorem nestingOf_cons {symbol : Symbol} (meaning : Symbol.ofWord word = symbol)
    (other : symbol.isBracket = false) :
    nestingOf opened (word :: words) = nestingOf opened words := by
  subst meaning
  apply nestingOf_other
  · refine Option.eq_none_iff_forall_ne_some.mpr fun bracket found => ?_
    rw [Symbol.ofWord_eq_opening_iff.mpr (Bracket.eq_opener_of_openedBy? found)] at other
    cases other
  · refine Option.eq_none_iff_forall_ne_some.mpr fun bracket found => ?_
    rw [Symbol.ofWord_eq_closing_iff.mpr (Bracket.eq_closer_of_closedBy? found)] at other
    cases other

end Scan

section Read

theorem optionWord?_length {registry : Registry} {word : String} {following : List String}
    {resolution : Resolution} (resolved : optionWord? registry word following = some resolution) :
    resolution.following.length ≤ following.length := by
  unfold optionWord? at resolved
  split at resolved
  · obtain rfl := Option.some.inj resolved
    exact registry.resolveLong_length .usage word following
  · obtain rfl := Option.some.inj resolved
    exact registry.resolveShort_length .usage word following
  · cases resolved

/-- The words that are read by themselves: all but those that options take as their values. -/
def wordsRead (registry : Registry) : List String → List String
  | [] => []
  | word :: following =>
    match _resolved : optionWord? registry word following with
    | none => word :: wordsRead registry following
    | some resolution => word :: wordsRead resolution.registry resolution.following
termination_by words => words.length
decreasing_by
  · simp
  · exact Nat.lt_succ_of_le (optionWord?_length _resolved)

variable {registry : Registry} {word : String} {following : List String}

theorem wordsRead_cons_of_none (plain : optionWord? registry word following = none) :
    wordsRead registry (word :: following) = word :: wordsRead registry following := by
  rw [wordsRead]
  split
  · rfl
  · next resolved => cases plain.symm.trans resolved

theorem wordsRead_cons_of_some {resolution : Resolution}
    (resolved : optionWord? registry word following = some resolution) :
    wordsRead registry (word :: following) =
      word :: wordsRead resolution.registry resolution.following := by
  rw [wordsRead]
  split
  · next plain => cases resolved.symm.trans plain
  · next resolution' resolved' =>
      obtain rfl := Option.some.inj (resolved.symm.trans resolved')
      rfl

theorem wordsRead_cons {symbol : Symbol} (meaning : Symbol.ofWord word = symbol)
    (plain : symbol.isOption = false) :
    wordsRead registry (word :: following) = word :: wordsRead registry following :=
  wordsRead_cons_of_none (optionWord?_eq_none meaning plain)

theorem nestingOf_takeEllipsis (opened : List Bracket) (registry : Registry)
    (atom : List Pattern) (following : List String) :
    nestingOf opened (wordsRead registry (takeEllipsis atom following).2) =
      nestingOf opened (wordsRead registry following) := by
  cases following with
  | nil => rfl
  | cons word following =>
      simp only [takeEllipsis]
      split
      · next ellipsis =>
          subst ellipsis
          have meaning : Symbol.ofWord "..." = .command := by decide
          rw [wordsRead_cons meaning rfl, nestingOf_cons meaning rfl]
          split <;> rfl
      · rfl

end Read

namespace Position

/-- What the scan of the words that are left to read comes to. -/
def nesting (position : Position) : Nesting :=
  nestingOf position.opened (wordsRead position.registry position.words)

variable {before after : Position} {atoms : List Pattern}

/-- Reading agrees with the scan of the brackets at each step. -/
theorem Step.nesting_eq (step : Step before atoms after) : before.nesting = after.nesting := by
  simp only [nesting, opened]
  cases step with
  | @opening stack choice registry word following bracket meaning =>
      rw [wordsRead_cons meaning rfl, Symbol.ofWord_eq_opening_iff.mp meaning, nestingOf_opener]
      rfl
  | @closing stack outer choice registry word following bracket meaning =>
      rw [wordsRead_cons meaning rfl, Symbol.ofWord_eq_closing_iff.mp meaning, List.map_cons,
        nestingOf_closer]
      exact (nestingOf_takeEllipsis ..).symm
  | bar meaning => rw [wordsRead_cons meaning rfl, nestingOf_cons meaning rfl]
  | leaf reads =>
      cases reads with
      | shortcut meaning | argument meaning | command meaning =>
          rw [wordsRead_cons meaning rfl, nestingOf_cons meaning rfl]
          exact (nestingOf_takeEllipsis ..).symm
  | options resolved result =>
      rw [wordsRead_cons_of_some resolved]
      rcases symbol_of_optionWord? resolved with meaning | meaning <;>
        exact (nestingOf_cons meaning rfl).trans (nestingOf_takeEllipsis ..).symm

theorem Path.nesting_eq (path : Path before atoms after) : before.nesting = after.nesting := by
  induction path with
  | nil => rfl
  | cons step _ ih => exact step.nesting_eq.trans ih

end Position

/-- The brackets that are read of an expression that compiles are properly nested. -/
theorem nestingOf_wordsRead_of_compile {registry : Registry} {expression : String}
    {pattern : Pattern} (compiled : (compile registry expression).result = .ok pattern) :
    nestingOf [] (wordsRead registry (wordsOf expression)) = .leaves [] := by
  obtain ⟨atoms, choice, known, path, -⟩ := exists_path_of_compile compiled
  have same := path.nesting_eq
  simpa [Position.nesting, Position.opened, Position.start, wordsRead, nestingOf] using same

end Expression

end UsageGrammar
