import PostSieve.Text.Decimal

/-! Written numbers: the digits that write a number, and reading them back. -/

namespace PostSieve

theorem decimalValue_eq_ofDigitChars (digits : List Char) :
    decimalValue digits = Nat.ofDigitChars 10 digits 0 := rfl

theorem toList_toString (n : Nat) : (toString n).toList = Nat.toDigits 10 n := by
  rw [Nat.toString_eq_repr, Nat.toList_repr]

/-- A written number is one digit or more. -/
theorem toList_toString_ne_nil (n : Nat) : (toString n).toList ≠ [] := by
  rw [toList_toString]
  exact Nat.toDigits_ne_nil

theorem isDigit_of_mem_toString {n : Nat} {c : Char} (h : c ∈ (toString n).toList) :
    c.isDigit = true := by
  rw [toList_toString] at h
  exact Nat.isDigit_of_mem_toDigits (by decide) (by decide) h

theorem decimalValue_toString (n : Nat) : decimalValue (toString n).toList = n := by
  rw [toList_toString, decimalValue_eq_ofDigitChars, Nat.ofDigitChars_ten_toDigits]

theorem toDigits_head?_ne_zero {n : Nat} (h : 0 < n) : (Nat.toDigits 10 n).head? ≠ some '0' := by
  induction n using Nat.strongRecOn with
  | ind n ih =>
    by_cases hLt : n < 10
    · rw [Nat.toDigits_of_lt_base hLt]
      have hDigit : n = 1 ∨ n = 2 ∨ n = 3 ∨ n = 4 ∨ n = 5 ∨ n = 6 ∨ n = 7 ∨ n = 8 ∨ n = 9 := by
        omega
      rcases hDigit with rfl | rfl | rfl | rfl | rfl | rfl | rfl | rfl | rfl <;> decide
    · have hHead := ih (n / 10) (by omega) (by omega)
      rw [Nat.toDigits_of_base_le (by decide) (by omega)]
      obtain ⟨c, digits, hDigits⟩ := List.exists_cons_of_ne_nil (@Nat.toDigits_ne_nil (n / 10) 10)
      rw [hDigits] at hHead ⊢
      exact hHead

/-- Only zero is written with a zero in front. -/
theorem toString_zero_cons {n : Nat} {rest : List Char} (h : (toString n).toList = '0' :: rest) :
    rest = [] := by
  rcases Nat.eq_zero_or_pos n with rfl | hPos
  · cases h
    rfl
  · rw [toList_toString] at h
    exact absurd (by rw [h]; rfl) (toDigits_head?_ne_zero hPos)

/-! ### Leading zeros -/

theorem toList_padded (width n : Nat) : (padded width n).toList =
    List.replicate (width - (toString n).toList.length) '0' ++ (toString n).toList :=
  String.toList_ofList

theorem toList_padded_ne_nil (width n : Nat) : (padded width n).toList ≠ [] := by
  rw [toList_padded]
  exact List.append_ne_nil_of_right_ne_nil _ (toList_toString_ne_nil n)

theorem isDigit_of_mem_padded {width n : Nat} {c : Char} (h : c ∈ (padded width n).toList) :
    c.isDigit = true := by
  rw [toList_padded, List.mem_append] at h
  rcases h with hZero | hDigit
  · rw [List.eq_of_mem_replicate hZero]
    rfl
  · exact isDigit_of_mem_toString hDigit

theorem decimalValue_padded (width n : Nat) : decimalValue (padded width n).toList = n := by
  rw [toList_padded, decimalValue_eq_ofDigitChars, Nat.ofDigitChars_append,
    Nat.ofDigitChars_replicate_zero, Nat.mul_zero]
  exact decimalValue_toString n

theorem length_padded {width n : Nat} (hWidth : 0 < width) (h : n < Nat.pow 10 width) :
    (padded width n).toList.length = width := by
  have hLength : (toString n).toList.length ≤ width := by
    rw [toList_toString]
    exact (Nat.length_toDigits_le_iff (by decide) hWidth).mpr h
  rw [toList_padded, List.length_append, List.length_replicate]
  omega

/-! ### Reading numbers back -/

/-- Whether a text is one digit or more that write a number. -/
def WritesWord (text : List Char) (n : UInt64) : Prop :=
  text ≠ [] ∧ (∀ c ∈ text, c.isDigit = true) ∧ decimalValue text = n.toNat

/-- As `WritesWord`, with a plus sign allowed in front. -/
def WritesSignedWord (text : List Char) (n : UInt64) : Prop :=
  ∃ digits, (text = digits ∨ text = '+' :: digits) ∧ WritesWord digits n

theorem readWord64?_eq_some {text : List Char} {n : UInt64} :
    readWord64? text = some n ↔ WritesWord text n := by
  unfold readWord64? WritesWord
  rw [← List.all_eq_true]
  constructor
  · intro h
    split at h
    · rename_i hFits
      cases h
      exact ⟨hFits.1, hFits.2.1, (UInt64.toNat_ofNat_of_lt' hFits.2.2).symm⟩
    · cases h
  · rintro ⟨hNe, hDigits, hValue⟩
    rw [hValue, if_pos ⟨hNe, hDigits, n.toNat_lt⟩, UInt64.ofNat_toNat]

theorem readWord32?_eq_some {text : List Char} {n : UInt32} : readWord32? text = some n ↔
    text ≠ [] ∧ (∀ c ∈ text, c.isDigit = true) ∧ decimalValue text = n.toNat := by
  unfold readWord32?
  rw [← List.all_eq_true]
  constructor
  · intro h
    split at h
    · rename_i hFits
      cases h
      exact ⟨hFits.1, hFits.2.1, (UInt32.toNat_ofNat_of_lt' hFits.2.2).symm⟩
    · cases h
  · rintro ⟨hNe, hDigits, hValue⟩
    rw [hValue, if_pos ⟨hNe, hDigits, n.toNat_lt⟩, UInt32.ofNat_toNat]

theorem readSignedWord64?_eq_some {text : List Char} {n : UInt64} :
    readSignedWord64? text = some n ↔ WritesSignedWord text n := by
  -- A plus sign is no digit, so that what stands behind one is all that can be the digits.
  have hPlus {digits : List Char} : ¬ WritesWord ('+' :: digits) n := fun h =>
    absurd (h.2.1 '+' List.mem_cons_self) (by decide)
  unfold readSignedWord64?
  split
  · rename_i digits
    rw [readWord64?_eq_some]
    constructor
    · exact fun h => ⟨digits, .inr rfl, h⟩
    · rintro ⟨digits', rfl | hEq, h⟩
      · exact absurd h hPlus
      · rwa [(List.cons.inj hEq).2]
  · rename_i hNoPlus
    rw [readWord64?_eq_some]
    constructor
    · exact fun h => ⟨text, .inl rfl, h⟩
    · rintro ⟨digits, rfl | rfl, h⟩
      · exact h
      · exact absurd rfl (hNoPlus digits)

/-- What is written for a count or an id is that number. -/
theorem writesSignedWord_toString (n : UInt64) : WritesSignedWord (toString n.toNat).toList n :=
  ⟨_, .inl rfl, toList_toString_ne_nil _, fun _ => isDigit_of_mem_toString,
    decimalValue_toString _⟩

end PostSieve
