import UsageGrammar.Section

/-!
# Lower case and ASCII

Full lowercasing changes many characters that ASCII lowercasing leaves alone, but hardly any of its
images is an ASCII character: only the Kelvin sign becomes `k`, and `İ` becomes `i` with a combining
dot behind it. A label that holds no `k` and does not end with `i` therefore occurs in the full
lower case of a text only where it occurs in the ASCII lower case.
-/

namespace UsageGrammar.Text

section AsciiLowercase

variable (c : Char) (text more : List Char)

@[simp]
theorem asciiLowercase_cons : asciiLowercase (c :: text) = c.toLower :: asciiLowercase text := rfl

@[simp]
theorem asciiLowercase_append :
    asciiLowercase (text ++ more) = asciiLowercase text ++ asciiLowercase more :=
  List.map_append

@[simp]
theorem length_asciiLowercase : (asciiLowercase text).length = text.length :=
  List.length_map _

end AsciiLowercase

section Images

variable {c : Char}

theorem toNat_toLower (first_le : 0x41 ≤ c.toNat) (le_last : c.toNat ≤ 0x5A) :
    c.toLower.toNat = c.toNat + 32 := by
  have upper : c.val ≥ 'A'.val ∧ c.val ≤ 'Z'.val := by
    simp only [UInt32.le_iff_toNat_le, ge_iff_le]
    exact ⟨first_le, le_last⟩
  have image : c.toLower.val = c.val + 32 := congrArg Char.val (dif_pos upper)
  calc c.toLower.toNat
      = (c.val + 32).toNat := congrArg UInt32.toNat image
    _ = (c.toNat + 32) % 2 ^ 32 := UInt32.toNat_add c.val 32
    _ = c.toNat + 32 := Nat.mod_eq_of_lt (by omega)

theorem toLower_eq_self (other : ¬ (0x41 ≤ c.toNat ∧ c.toNat ≤ 0x5A)) : c.toLower = c := by
  have other' : ¬ (c.val ≥ 'A'.val ∧ c.val ≤ 'Z'.val) := by
    simp only [UInt32.le_iff_toNat_le, ge_iff_le]
    exact other
  exact dif_neg other'

theorem toNat_ofNat {code : Nat} (valid : code.isValidChar) : (Char.ofNat code).toNat = code := by
  rw [Char.ofNat, dif_pos valid]
  rfl

/-- The first shift is that of the ASCII capitals. Of the others, only that of the Kelvin sign leads
into ASCII. -/
theorem caseShifts_eq : ∃ others, caseShifts = ⟨⟨0x41, 0x5A, 1⟩, 32⟩ :: others ∧
    ∀ shift ∈ others, shift = ⟨⟨0x212A, 0x212A, 1⟩, -8383⟩ ∨
      128 ≤ shift.range.first + shift.offset ∧ (shift.range.last + shift.offset < 0xD800 ∨
        0xDFFF < shift.range.first + shift.offset ∧
          shift.range.last + shift.offset < 0x110000) :=
  ⟨caseShifts.tail, rfl, by decide +kernel⟩

theorem contains_iff {range : CodeRange} {code : Nat} :
    range.contains code ↔ range.first ≤ code ∧ code ≤ range.last ∧
      (code - range.first) % range.step = 0 := by
  simp [CodeRange.contains, and_assoc]

/-- An image in ASCII other than `k` is the ASCII lower case of its character. -/
theorem exists_image (c : Char) (other : c ≠ 'İ') : ∃ image, lowercaseChar c = [image] ∧
    (image.toNat < 128 → image ≠ 'k' → image = c.toLower) := by
  obtain ⟨others, all, apart⟩ := caseShifts_eq
  rw [lowercaseChar, if_neg other, all]
  split
  · next shift found =>
      refine ⟨_, rfl, fun ascii not_k => ?_⟩
      have held := List.find?_some found
      obtain ⟨first_le, le_last, -⟩ := contains_iff.mp held
      rcases List.mem_cons.mp (List.mem_of_find?_eq_some found) with rfl | member
      · have valid : (c.toNat + 32).isValidChar := .inl (by dsimp only at le_last; omega)
        exact Char.toNat_inj.mp
          ((toNat_ofNat valid).trans (toNat_toLower first_le le_last).symm)
      · rcases apart shift member with rfl | ⟨outside, valid⟩
        · have kelvin : c.toNat = 0x212A := by
            dsimp only at first_le le_last
            omega
          rw [kelvin] at not_k
          exact absurd rfl not_k
        · have valid : (c.toNat + shift.offset).toNat.isValidChar := by
            rcases valid with low | ⟨high, low⟩
            · exact .inl (by omega)
            · exact .inr ⟨by omega, by omega⟩
          rw [toNat_ofNat valid] at ascii
          omega
  · next none_found =>
      refine ⟨c, rfl, fun _ _ => (toLower_eq_self fun capital => ?_).symm⟩
      refine List.find?_eq_none.mp none_found _ List.mem_cons_self (contains_iff.mpr ?_)
      exact ⟨capital.1, capital.2, Nat.mod_one _⟩

/-- One character is lowercased to one character, or to `i` and a combining dot, with which no label
begins. -/
theorem lowercaseAfter_cons (before : List Char) (c : Char) (text : List Char) :
    (∃ image, lowercaseAfter before (c :: text) = image :: lowercaseAfter (c :: before) text ∧
      (image.toNat < 128 → image ≠ 'k' → image = c.toLower)) ∨
    lowercaseAfter before (c :: text) =
      'i' :: Char.ofNat 0x307 :: lowercaseAfter (c :: before) text := by
  by_cases sigma : c = 'Σ'
  · refine .inl ⟨if meetsCased before && !meetsCased text then 'ς' else 'σ', ?_, ?_⟩
    · rw [lowercaseAfter, if_pos sigma]
      rfl
    · split <;> exact fun ascii => absurd ascii (by decide)
  · by_cases dotted : c = 'İ'
    · refine .inr ?_
      rw [lowercaseAfter, if_neg sigma, lowercaseChar, if_pos dotted]
      rfl
    · obtain ⟨image, same, ascii⟩ := exists_image c dotted
      refine .inl ⟨image, ?_, ascii⟩
      rw [lowercaseAfter, if_neg sigma, same]
      rfl

end Images

/-- A label on which both ways to lowercase a text agree: it is in lower case, and none of its
visible characters is the image of one outside ASCII. -/
structure IsLabel (label : List Char) : Prop where
  ne_nil : label ≠ []
  lowercase_eq : lowercase label = label
  asciiLowercase_eq : asciiLowercase label = label
  visible : ∀ c ∈ label, isBlank c = false
  ascii : ∀ c ∈ label, c.toNat < 128 ∧ c ≠ 'k'
  last : label.getLast? ≠ some 'i'

theorem isLabel_of_all {label : List Char} (ne_nil : label ≠ [])
    (lowercase_eq : lowercase label = label) (asciiLowercase_eq : asciiLowercase label = label)
    (last : label.getLast? ≠ some 'i')
    (all : label.all fun c => !isBlank c && decide (c.toNat < 128) && c != 'k') :
    IsLabel label := by
  have each : ∀ c ∈ label, (isBlank c = false ∧ c.toNat < 128) ∧ c ≠ 'k' := by
    simpa using all
  exact ⟨ne_nil, lowercase_eq, asciiLowercase_eq, fun c member => (each c member).1.1,
    fun c member => ⟨(each c member).1.2, (each c member).2⟩, last⟩

section Occurrences

variable {label text : List Char}

theorem prefix_of_prefix_lowercaseAfter (ascii : ∀ c ∈ label, c.toNat < 128 ∧ c ≠ 'k')
    (last : label.getLast? ≠ some 'i') (before : List Char)
    (start : label <+: lowercaseAfter before text) : label <+: asciiLowercase text := by
  induction text generalizing label before with
  | nil => exact start
  | cons c text ih =>
      cases label with
      | nil => exact List.nil_prefix
      | cons a label =>
          obtain ⟨⟨here, not_k⟩, ascii_rest⟩ := List.forall_mem_cons.mp ascii
          rcases lowercaseAfter_cons before c text with ⟨image, same, single⟩ | dotted
          · rw [same] at start
            obtain ⟨rfl, start_rest⟩ := List.cons_prefix_cons.mp start
            have last_rest : label.getLast? ≠ some 'i' := by
              intro ends
              rw [List.getLast?_cons, ends] at last
              exact last rfl
            exact List.cons_prefix_cons.mpr
              ⟨single here not_k, ih ascii_rest last_rest _ start_rest⟩
          · rw [dotted] at start
            obtain ⟨rfl, start_rest⟩ := List.cons_prefix_cons.mp start
            cases label with
            | nil => exact absurd rfl last
            | cons b label =>
                obtain ⟨rfl, -⟩ := List.cons_prefix_cons.mp start_rest
                exact absurd (ascii_rest _ List.mem_cons_self).1 (by decide)

theorem infix_of_infix_lowercaseAfter (plain : IsLabel label) (before : List Char)
    (held : label <:+: lowercaseAfter before text) : label <:+: asciiLowercase text := by
  induction text generalizing before with
  | nil => exact held
  | cons c text ih =>
      have here (start : label <+: lowercaseAfter before (c :: text)) :
          label <:+: asciiLowercase (c :: text) :=
        (prefix_of_prefix_lowercaseAfter plain.ascii plain.last before start).isInfix
      have later (held : label <:+: lowercaseAfter (c :: before) text) :
          label <:+: asciiLowercase (c :: text) :=
        (ih _ held).trans (List.suffix_cons _ _).isInfix
      rcases lowercaseAfter_cons before c text with ⟨image, same, -⟩ | dotted
      · rw [same] at held here
        exact (List.infix_cons_iff.mp held).elim here later
      · rw [dotted] at held here
        refine (List.infix_cons_iff.mp held).elim here fun held => ?_
        refine (List.infix_cons_iff.mp held).elim (fun start => ?_) later
        obtain ⟨a, rest, rfl⟩ := List.exists_cons_of_ne_nil plain.ne_nil
        obtain ⟨rfl, -⟩ := List.cons_prefix_cons.mp start
        exact absurd (plain.ascii _ List.mem_cons_self).1 (by decide)

end Occurrences

theorem occursIn_iff {sought text : List Char} : occursIn sought text ↔ sought <:+: text := by
  induction text with
  | nil => simp [occursIn]
  | cons c text ih => simp [occursIn, ih, List.infix_cons_iff]

/-- A line that holds a label in full lower case holds it in ASCII lower case. -/
theorem infix_of_holdsLabel {label line : List Char} (plain : IsLabel label)
    (holds : holdsLabel label line) : label <:+: asciiLowercase line := by
  rw [holdsLabel, plain.lowercase_eq, occursIn_iff] at holds
  exact infix_of_infix_lowercaseAfter plain [] holds

end UsageGrammar.Text
