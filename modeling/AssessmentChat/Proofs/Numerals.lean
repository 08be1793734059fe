import AssessmentChat.Proofs.JsonText
import AssessmentChat.Text.Number

namespace AssessmentChat

/-!
# Numerals

A numeral is what a person may type for a natural number: one decimal digit or more,
leading zeros included, with or without a plus sign in front.  A text is read as a
number below a limit exactly if it is a numeral of that number.
-/

/-- The numerals of a number. -/
inductive IsNumeral : List Char → Nat → Prop where
  | plain
      {digits : List Char} :
      digits ≠ [] →
      (∀ digit ∈ digits, digit.isDigit = true) →
      IsNumeral digits (decimalValue digits)
  | signed
      {digits : List Char} :
      digits ≠ [] →
      (∀ digit ∈ digits, digit.isDigit = true) →
      IsNumeral ('+' :: digits) (decimalValue digits)

namespace IsNumeral

variable
  {characters : List Char}
  {number : Nat}

/-- A plus sign is no digit, so it is clear what a numeral is without it. -/
theorem withoutPlus_of_digits
    {digits : List Char}
    (allDigits : ∀ digit ∈ digits, digit.isDigit = true) :
    withoutPlus digits = digits := by
  unfold withoutPlus
  split
  next rest =>
    have isDigit := allDigits '+' List.mem_cons_self
    cases isDigit
  next =>
    rfl

/-- A plus sign is all that can be dropped. -/
theorem eq_withoutPlus
    (characters : List Char) :
    characters = '+' :: withoutPlus characters ∨
      characters = withoutPlus characters := by
  unfold withoutPlus
  split
  · exact .inl rfl
  · exact .inr rfl

theorem iff_withoutPlus :
    IsNumeral characters number ↔
      withoutPlus characters ≠ [] ∧
        (∀ digit ∈ withoutPlus characters, digit.isDigit = true) ∧
        number = decimalValue (withoutPlus characters) := by
  constructor
  · intro numeral
    cases numeral with
    | plain nonempty allDigits =>
        rw [withoutPlus_of_digits allDigits]
        exact ⟨nonempty, allDigits, rfl⟩
    | signed nonempty allDigits =>
        exact ⟨nonempty, allDigits, rfl⟩
  · rintro ⟨nonempty, allDigits, rfl⟩
    have signed := IsNumeral.signed nonempty allDigits
    have plain := IsNumeral.plain nonempty allDigits
    have same := eq_withoutPlus characters
    generalize withoutPlus characters = digits at signed plain same
    rcases same with rfl | rfl
    · exact signed
    · exact plain

/-- The usual digits of a number are a numeral of it. -/
theorem toString
    (number : Nat) :
    IsNumeral (toString number).toList number := by
  have digits : (ToString.toString number).toList = Nat.toDigits 10 number :=
    Nat.toList_repr
  have some := @Nat.length_toDigits_pos 10 number
  have numeral :
      IsNumeral (Nat.toDigits 10 number)
        (decimalValue (Nat.toDigits 10 number)) :=
    .plain (List.ne_nil_of_length_pos some) (isDigit_of_mem_toDigits number)
  rw [digits]
  rwa [decimalValue_toDigits] at numeral

end IsNumeral

/-- Exactly the numerals of numbers below the limit are read. -/
theorem naturalBelow?_eq_some
    {limit number : Nat}
    {text : String} :
    naturalBelow? limit text = some number ↔
      IsNumeral text.toList number ∧ number < limit := by
  rw [IsNumeral.iff_withoutPlus, naturalBelow?]
  constructor
  · intro read
    split at read
    next accepted =>
      cases read
      simpa [and_assoc] using accepted
    next =>
      cases read
  · rintro ⟨⟨nonempty, allDigits, rfl⟩, below⟩
    simpa [nonempty, below] using allDigits

end AssessmentChat
