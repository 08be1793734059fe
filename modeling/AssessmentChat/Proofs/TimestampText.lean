import AssessmentChat.Proofs.CalendarDays
import AssessmentChat.Proofs.JsonText

namespace AssessmentChat

/-!
# Moments are read back from their texts

Every moment that is read has a year of the calendar and, if it is a leap second, stands
at the end of its minute.  The text of such a moment is read part by part: a number ends
where no digit follows.
-/

/-! ## Digits in a text -/

/-- Whether a text ends, or goes on with something else than a digit. -/
def EndsDigits (text : List Char) : Prop :=
  ∀ first ∈ text.head?, first.isDigit = false

@[simp]
theorem endsDigits_cons
    {first : Char}
    {rest : List Char} :
    EndsDigits (first :: rest) ↔ first.isDigit = false := by
  simp [EndsDigits]

theorem isBlank_of_isDigit
    {character : Char}
    (isDigit : character.isDigit = true) :
    isBlank character = false := by
  have least : 48 ≤ character.toNat := by
    simp only [Char.isDigit, Bool.and_eq_true, decide_eq_true_eq] at isDigit
    exact isDigit.1
  have greatest : character.toNat ≤ 57 := by
    simp only [Char.isDigit, Bool.and_eq_true, decide_eq_true_eq] at isDigit
    exact isDigit.2
  simp [isBlank, blankRanges]
  omega

/-- Digits at the beginning are not trimmed away. -/
theorem trimStart_digits
    {digits : List Char}
    (some : digits ≠ [])
    (allDigits : ∀ digit ∈ digits, digit.isDigit = true)
    (rest : List Char) :
    trimStart (digits ++ rest) = digits ++ rest := by
  cases digits with
  | nil =>
      exact absurd rfl some
  | cons first others =>
      have notBlank := isBlank_of_isDigit (allDigits first (by simp))
      rw [trimStart, List.cons_append, List.dropWhile_cons_of_neg]
      simp [notBlank]

/-- So many digits denote a number below that power of ten. -/
theorem decimalValue_lt
    {digits : List Char}
    (allDigits : ∀ digit ∈ digits, digit.isDigit = true) :
    decimalValue digits < Nat.pow 10 digits.length := by
  suffices bound :
      ∀ value,
        digits.foldl
            (fun value digit => 10 * value + (digit.toNat - '0'.toNat))
            value <
          (value + 1) * Nat.pow 10 digits.length by
    simpa [decimalValue] using bound 0
  induction digits with
  | nil =>
      simp
  | cons first others inductionHypothesis =>
      intro value
      have later :=
        inductionHypothesis
          (fun digit among => allDigits digit (by simp [among]))
          (10 * value + (first.toNat - '0'.toNat))
      have digitValue : first.toNat - '0'.toNat < 10 := by
        have isDigit := allDigits first (by simp)
        simp only [Char.isDigit, Bool.and_eq_true, decide_eq_true_eq] at isDigit
        have greatest : first.toNat ≤ 57 := isDigit.2
        have zero : '0'.toNat = 48 := rfl
        omega
      have longer :
          Nat.pow 10 (others.length + 1) =
            10 * Nat.pow 10 others.length :=
        Nat.pow_succ'
      rw [List.foldl_cons, List.length_cons, longer]
      refine Nat.lt_of_lt_of_le later ?_
      rw [← Nat.mul_assoc]
      exact Nat.mul_le_mul_right _ (by omega)

/-- Zeros in front leave the value of digits. -/
theorem decimalValue_replicate_zero
    (count : Nat)
    (digits : List Char) :
    decimalValue (List.replicate count '0' ++ digits) =
      decimalValue digits := by
  induction count with
  | zero =>
      rfl
  | succ count inductionHypothesis =>
      exact inductionHypothesis

namespace Timestamp

/-- Digits are read up to where they end. -/
theorem digits?_append
    {width : Nat}
    {digits rest : List Char}
    (some : digits ≠ [])
    (allDigits : ∀ digit ∈ digits, digit.isDigit = true)
    (within : digits.length ≤ width)
    (ends : EndsDigits rest) :
    digits? width (digits ++ rest) = .some (digits, rest) := by
  have taken :
      ((digits ++ rest).take width).takeWhile Char.isDigit = digits := by
    rw [List.take_append, List.take_of_length_le within,
      List.takeWhile_append_of_pos allDigits]
    suffices (rest.take (width - digits.length)).takeWhile Char.isDigit = []
      by rw [this, List.append_nil]
    cases rest with
    | nil =>
        simp
    | cons first others =>
        have notDigit := ends first rfl
        cases width - digits.length <;> simp [notDigit]
  simp [digits?, taken, some]

/-! ## Padded numbers -/

/-- The characters of a padded number. -/
def paddedDigits (width value : Nat) : List Char :=
  (padded width value).toList

/-- A padded number is its digits with zeros in front. -/
theorem paddedDigits_eq
    (width value : Nat) :
    paddedDigits width value =
      List.replicate (width - (Nat.toDigits 10 value).length) '0' ++
        Nat.toDigits 10 value := by
  have spelled : (toString value).toList = Nat.toDigits 10 value :=
    Nat.toList_repr
  have size : (toString value).length = (Nat.toDigits 10 value).length := by
    rw [← String.length_toList, spelled]
  rw [paddedDigits, padded, String.toList_append, String.toList_ofList,
    spelled, size]

theorem paddedDigits_ne_nil
    (width value : Nat) :
    paddedDigits width value ≠ [] := by
  have some := @Nat.length_toDigits_pos 10 value
  rw [paddedDigits_eq]
  intro nothing
  simp only [List.append_eq_nil_iff] at nothing
  simp [nothing.2] at some

/-- A padded number has digits only. -/
theorem isDigit_of_mem_paddedDigits
    (width value : Nat) :
    ∀ digit ∈ paddedDigits width value, digit.isDigit = true := by
  rw [paddedDigits_eq]
  intro digit among
  rcases List.mem_append.mp among with isZero | ofNumber
  · rw [List.eq_of_mem_replicate isZero]
    rfl
  · exact isDigit_of_mem_toDigits value digit ofNumber

/-- A padded number has its own value. -/
theorem decimalValue_paddedDigits
    (width value : Nat) :
    decimalValue (paddedDigits width value) = value := by
  rw [paddedDigits_eq, decimalValue_replicate_zero, decimalValue_toDigits]

/-- A number that is short enough is padded to the width. -/
theorem length_paddedDigits
    {width value : Nat}
    (positive : 0 < width)
    (below : value < Nat.pow 10 width) :
    (paddedDigits width value).length = width := by
  have atMost : (Nat.toDigits 10 value).length ≤ width :=
    (Nat.length_toDigits_le_iff (by decide) positive).mpr below
  rw [paddedDigits_eq, List.length_append, List.length_replicate]
  omega

/-! ## Parts of a text -/

/-- A padded number is read as that number. -/
theorem component?_padded
    {least greatest value : Nat}
    (bounds : least ≤ value ∧ value ≤ greatest)
    (short : value < 100)
    {rest : List Char}
    (ends : EndsDigits rest) :
    component? least greatest (paddedDigits 2 value ++ rest) =
      some (value, rest) := by
  have allDigits := isDigit_of_mem_paddedDigits 2 value
  have notEmpty := paddedDigits_ne_nil 2 value
  have size := @length_paddedDigits 2 value (by decide) short
  rw [component?, trimStart_digits notEmpty allDigits,
    digits?_append notEmpty allDigits (Nat.le_of_eq size) ends]
  simp [decimalValue_paddedDigits, bounds]

/-- A year is read as that year. -/
theorem year?_writeYear
    (year : Int)
    {rest : List Char}
    (ends : EndsDigits rest) :
    year? ((writeYear year).toList ++ rest) = some (year, rest) := by
  have allDigits := isDigit_of_mem_paddedDigits 4 year.natAbs
  have notEmpty := paddedDigits_ne_nil 4 year.natAbs
  have signed :
      digits? (paddedDigits 4 year.natAbs ++ rest).length
          (paddedDigits 4 year.natAbs ++ rest) =
        some (paddedDigits 4 year.natAbs, rest) :=
    digits?_append notEmpty allDigits (by simp) ends
  unfold writeYear
  split
  next ordinary =>
    have same : year.toNat = year.natAbs := by
      omega
    have short : year.natAbs < 10000 := by
      omega
    have size := @length_paddedDigits 4 year.natAbs (by decide) short
    have unsigned :=
      digits?_append notEmpty allDigits (Nat.le_of_eq size) ends
    rw [same]
    change year? (paddedDigits 4 year.natAbs ++ rest) = _
    rw [year?, trimStart_digits notEmpty allDigits]
    cases digits : paddedDigits 4 year.natAbs with
    | nil =>
        exact absurd digits notEmpty
    | cons first others =>
        rw [digits] at allDigits unsigned
        have isDigit := allDigits first (by simp)
        have value := decimalValue_paddedDigits 4 year.natAbs
        rw [digits] at value
        split
        next same =>
          cases same
          cases isDigit
        next same =>
          cases same
          cases isDigit
        next =>
          have sameYear : (decimalValue (first :: others) : Int) = year := by
            omega
          rw [unsigned]
          change
            some ((decimalValue (first :: others) : Int), rest) =
              some (year, rest)
          rw [sameYear]
  next extraordinary =>
    split
    next negative =>
      rw [String.toList_append]
      change year? ('-' :: (paddedDigits 4 year.natAbs ++ rest)) = _
      have unblanked :
          trimStart ('-' :: (paddedDigits 4 year.natAbs ++ rest)) =
            '-' :: (paddedDigits 4 year.natAbs ++ rest) :=
        rfl
      have sameYear : -(year.natAbs : Int) = year := by
        omega
      rw [year?, unblanked]
      refine Option.bind_eq_some_iff.mpr ⟨_, signed, ?_⟩
      simp only [decimalValue_paddedDigits, sameYear]
      rfl
    next positive =>
      rw [String.toList_append]
      change year? ('+' :: (paddedDigits 4 year.natAbs ++ rest)) = _
      have unblanked :
          trimStart ('+' :: (paddedDigits 4 year.natAbs ++ rest)) =
            '+' :: (paddedDigits 4 year.natAbs ++ rest) :=
        rfl
      have sameYear : (year.natAbs : Int) = year := by
        omega
      rw [year?, unblanked]
      refine Option.bind_eq_some_iff.mpr ⟨_, signed, ?_⟩
      simp only [decimalValue_paddedDigits, sameYear]
      rfl

/-- A fraction is read from as many digits as it was written in. -/
theorem fraction?_padded
    {width value : Nat}
    (positive : 0 < width)
    (within : width ≤ 9)
    (below : value < Nat.pow 10 width)
    {rest : List Char}
    (ends : EndsDigits rest) :
    fraction? ('.' :: (paddedDigits width value ++ rest)) =
      some (value * Nat.pow 10 (9 - width), rest) := by
  have allDigits := isDigit_of_mem_paddedDigits width value
  have notEmpty := paddedDigits_ne_nil width value
  have size := length_paddedDigits positive below
  have left : rest.dropWhile Char.isDigit = rest := by
    cases rest with
    | nil => rfl
    | cons first others => simp [ends first rfl]
  simp [fraction?, digits?_append notEmpty allDigits (size ▸ within) ends,
    decimalValue_paddedDigits, size, left]

/-- A fraction is read as that fraction. -/
theorem fraction?_writeFraction
    {nanoseconds : Nat}
    (below : nanoseconds < nanosecondsPerSecond) :
    fraction? ((writeFraction nanoseconds).toList ++ ['Z']) =
      some (nanoseconds, ['Z']) := by
  have ends : EndsDigits ['Z'] :=
    endsDigits_cons.mpr rfl
  have same {value : Nat} (whole : value = nanoseconds) :
      some (value, ['Z']) = some (nanoseconds, ['Z']) := by
    rw [whole]
  unfold nanosecondsPerSecond at below
  unfold writeFraction
  split
  next nothing =>
    exact same nothing.symm
  next =>
    split
    next milliseconds =>
      have short : nanoseconds / 1000000 < 1000 := by
        omega
      have whole : nanoseconds / 1000000 * 1000000 = nanoseconds := by
        omega
      rw [String.toList_append]
      exact (fraction?_padded (by decide) (by decide) short ends).trans
        (same whole)
    next =>
      split
      next microseconds =>
        have short : nanoseconds / 1000 < 1000000 := by
          omega
        have whole : nanoseconds / 1000 * 1000 = nanoseconds := by
          omega
        rw [String.toList_append]
        exact (fraction?_padded (by decide) (by decide) short ends).trans
          (same whole)
      next =>
        rw [String.toList_append]
        exact (fraction?_padded (by decide) (by decide) below ends).trans
          (same (Nat.mul_one nanoseconds))

/-- What follows the digits of the seconds is no digit. -/
theorem endsDigits_writeFraction
    (nanoseconds : Nat) :
    EndsDigits ((writeFraction nanoseconds).toList ++ ['Z']) := by
  unfold writeFraction
  split
  next =>
    exact endsDigits_cons.mpr rfl
  next =>
    split
    next =>
      rw [String.toList_append]
      exact endsDigits_cons.mpr rfl
    next =>
      split <;>
      · rw [String.toList_append]
        exact endsDigits_cons.mpr rfl

/-- A separator is read where it is expected. -/
theorem separator?_cons
    {expected : Char}
    (notBlank : isBlank expected = false)
    (rest : List Char) :
    separator? expected (expected :: rest) = some rest := by
  simp [separator?, trimStart, notBlank]

/-! ## Moments -/

/-- A moment that a text can name. -/
structure IsNameable (moment : Timestamp) : Prop where
  /-- A leap second stands at the end of its minute. -/
  nanoseconds :
    moment.nanoseconds < nanosecondsPerSecond ∨
      moment.nanoseconds < 2 * nanosecondsPerSecond ∧
        moment.seconds % 60 = 59
  firstYear : firstYear ≤ (dateOfDays (moment.seconds.fdiv 86400)).1
  lastYear : (dateOfDays (moment.seconds.fdiv 86400)).1 ≤ lastYear

/-- The second of its day in which a moment lies. -/
def secondOfDay (moment : Timestamp) : Nat :=
  (moment.seconds % 86400).toNat

/-- One for a leap second, and nothing for any other. -/
def leap (moment : Timestamp) : Nat :=
  moment.nanoseconds / nanosecondsPerSecond

/-- What the text of a moment consists of. -/
theorem toList_write
    {moment : Timestamp}
    {year : Int}
    {month day : Nat}
    (date : dateOfDays (moment.seconds / 86400) = (year, month, day)) :
    moment.write.toList =
      (writeYear year).toList ++ '-' :: (paddedDigits 2 month ++ '-' ::
        (paddedDigits 2 day ++ 'T' ::
          (paddedDigits 2 (moment.secondOfDay / 3600) ++ ':' ::
            (paddedDigits 2 (moment.secondOfDay / 60 % 60) ++ ':' ::
              (paddedDigits 2 (moment.secondOfDay % 60 + moment.leap) ++
                ((writeFraction
                      (moment.nanoseconds % nanosecondsPerSecond)).toList ++
                  ['Z'])))))) := by
  simp [Timestamp.write, Int.fdiv_eq_ediv_of_nonneg,
    Int.fmod_eq_emod_of_nonneg, date, String.toList_append, paddedDigits,
    secondOfDay, leap]

/-- A moment is within its day. -/
theorem secondOfDay_lt
    (moment : Timestamp) :
    moment.secondOfDay < 86400 := by
  unfold secondOfDay
  omega

namespace IsNameable

variable {moment : Timestamp}

/-- A leap second is the last one of its minute. -/
theorem leap_cases
    (nameable : moment.IsNameable) :
    moment.leap = 0 ∨ moment.leap = 1 ∧ moment.secondOfDay % 60 = 59 := by
  have clock := nameable.nanoseconds
  unfold leap secondOfDay
  unfold nanosecondsPerSecond at clock ⊢
  omega

/-- The seconds are counted back from the day and from the hour, minute and second. -/
theorem seconds_eq
    (nameable : moment.IsNameable) :
    moment.seconds / 86400 * 86400 +
              ((moment.secondOfDay / 3600 : Nat) : Int) * 3600 +
            ((moment.secondOfDay / 60 % 60 : Nat) : Int) * 60 +
          ((min (moment.secondOfDay % 60 + moment.leap) 59 : Nat) : Int) -
        0 =
      moment.seconds := by
  have clock := nameable.leap_cases
  unfold secondOfDay at clock ⊢
  omega

/-- The nanoseconds are those of the fraction, and those of a leap second. -/
theorem nanoseconds_eq
    (nameable : moment.IsNameable) :
    moment.nanoseconds % nanosecondsPerSecond +
        (if moment.secondOfDay % 60 + moment.leap = 60 then
            nanosecondsPerSecond
          else 0) =
      moment.nanoseconds := by
  have clock := nameable.leap_cases
  unfold leap nanosecondsPerSecond at clock ⊢
  split <;> omega

end IsNameable

/-- The text of a moment is read as that moment. -/
theorem read?_write
    {moment : Timestamp}
    (nameable : moment.IsNameable) :
    read? moment.write = some moment := by
  obtain ⟨year, month, day, date, monthBounds, dayBounds, sameDay⟩ :=
    dateOfDays_spec (moment.seconds / 86400)
  have dayAtMost := daysInMonth_le year month
  have clock := nameable.leap_cases
  have secondBelow := moment.secondOfDay_lt
  have monthRead := @component?_padded 1 12 month monthBounds (by omega)
  have dayRead := @component?_padded 1 31 day (by omega) (by omega)
  have hourRead :=
    @component?_padded 0 23 (moment.secondOfDay / 3600) (by omega) (by omega)
  have minuteRead :=
    @component?_padded 0 59 (moment.secondOfDay / 60 % 60) (by omega)
      (by omega)
  have secondRead :=
    @component?_padded 0 60 (moment.secondOfDay % 60 + moment.leap)
      (by omega) (by omega)
  have fractionRead :=
    @fraction?_writeFraction (moment.nanoseconds % nanosecondsPerSecond)
      (Nat.mod_lt _ (by decide))
  have zoneRead : zone? (trimStart ['Z']) = some (0, []) := rfl
  have dash := separator?_cons (rfl : isBlank '-' = false)
  have colon := separator?_cons (rfl : isBlank ':' = false)
  have dashEnds (rest : List Char) : EndsDigits ('-' :: rest) :=
    endsDigits_cons.mpr rfl
  have colonEnds (rest : List Char) : EndsDigits (':' :: rest) :=
    endsDigits_cons.mpr rfl
  have letterEnds (rest : List Char) : EndsDigits ('T' :: rest) :=
    endsDigits_cons.mpr rfl
  have firstYear := nameable.firstYear
  have lastYear := nameable.lastYear
  rw [Int.fdiv_eq_ediv_of_nonneg _ (by decide), date] at firstYear lastYear
  rw [read?, toList_write date]
  refine Option.bind_eq_some_iff.mpr
    ⟨_, year?_writeYear year (dashEnds _), ?_⟩
  refine Option.bind_eq_some_iff.mpr ⟨_, dash _, ?_⟩
  refine Option.bind_eq_some_iff.mpr ⟨_, monthRead (dashEnds _), ?_⟩
  refine Option.bind_eq_some_iff.mpr ⟨_, dash _, ?_⟩
  refine Option.bind_eq_some_iff.mpr ⟨_, dayRead (letterEnds _), ?_⟩
  refine Option.bind_eq_some_iff.mpr ⟨_, rfl, ?_⟩
  refine Option.bind_eq_some_iff.mpr ⟨_, hourRead (colonEnds _), ?_⟩
  refine Option.bind_eq_some_iff.mpr ⟨_, colon _, ?_⟩
  refine Option.bind_eq_some_iff.mpr ⟨_, minuteRead (colonEnds _), ?_⟩
  refine Option.bind_eq_some_iff.mpr ⟨_, colon _, ?_⟩
  refine Option.bind_eq_some_iff.mpr
    ⟨_, secondRead (endsDigits_writeFraction _), ?_⟩
  refine Option.bind_eq_some_iff.mpr ⟨_, fractionRead, ?_⟩
  refine Option.bind_eq_some_iff.mpr ⟨_, zoneRead, ?_⟩
  simp only [sameDay, nameable.seconds_eq, nameable.nanoseconds_eq]
  rw [Int.fdiv_eq_ediv_of_nonneg _ (by decide), date]
  simp [trimStart, firstYear, lastYear, dayBounds.2]

/-! ## What is read -/

/-- Digits are read up to the width. -/
theorem length_of_digits?
    {width : Nat}
    {text digits rest : List Char}
    (read : digits? width text = some (digits, rest)) :
    digits.length ≤ width ∧ ∀ digit ∈ digits, digit.isDigit = true := by
  simp only [digits?] at read
  split at read
  next => cases read
  next =>
    cases read
    constructor
    · exact Nat.le_trans (List.takeWhile_sublist _).length_le
        (List.length_take_le width text)
    · exact List.all_eq_true.mp List.all_takeWhile

/-- A fraction that is read is less than a second. -/
theorem lt_of_fraction?
    {text rest : List Char}
    {fraction : Nat}
    (read : fraction? text = some (fraction, rest)) :
    fraction < nanosecondsPerSecond := by
  unfold fraction? at read
  split at read
  next =>
    obtain ⟨⟨digits, after⟩, digitsRead, same⟩ :=
      Option.bind_eq_some_iff.mp read
    cases same
    obtain ⟨within, allDigits⟩ := length_of_digits? digitsRead
    have below := decimalValue_lt allDigits
    have scale :
        Nat.pow 10 digits.length * Nat.pow 10 (9 - digits.length) =
          Nat.pow 10 9 :=
      (Nat.pow_add 10 digits.length (9 - digits.length)).symm.trans
        (congrArg (Nat.pow 10) (Nat.add_sub_cancel' within))
    have scaled :
        decimalValue digits * Nat.pow 10 (9 - digits.length) <
          Nat.pow 10 digits.length * Nat.pow 10 (9 - digits.length) :=
      Nat.mul_lt_mul_of_pos_right below (Nat.pow_pos (by decide))
    rw [scale] at scaled
    exact scaled
  next =>
    cases read
    decide

/-- Two digits count in whole units. -/
theorem pair?_multiple
    {greatestTens : Char}
    {unit value : Int}
    {text rest : List Char}
    (read : pair? greatestTens unit text = some (value, rest)) :
    ∃ count : Nat, value = unit * count := by
  unfold pair? at read
  split at read
  next =>
    split at read
    next =>
      cases read
      exact ⟨_, rfl⟩
    next =>
      cases read
  next =>
    cases read

/-- Reading goes on in the same way after either sign. -/
theorem exists_sign
    {plus minus : Prop}
    [Decidable plus]
    [Decidable minus]
    {goOn : Bool → Option α}
    {result : α}
    (read :
      (if plus then some true >>= goOn
        else if minus then some false >>= goOn
        else none >>= goOn) =
        some result) :
    ∃ positive, goOn positive = some result := by
  split at read
  next =>
    exact ⟨true, read⟩
  next =>
    split at read
    next =>
      exact ⟨false, read⟩
    next =>
      cases read

/-- An offset that is read is a whole number of minutes. -/
theorem offset?_minutes
    {text rest : List Char}
    {offset : Int}
    (read : offset? text = some (offset, rest)) :
    offset % 60 = 0 := by
  unfold offset? at read
  split at read
  next =>
    cases read
    rfl
  next =>
    cases read
    rfl
  next =>
    obtain ⟨positive, read⟩ := exists_sign read
    obtain ⟨⟨hours, after⟩, hoursRead, read⟩ :=
      Option.bind_eq_some_iff.mp read
    obtain ⟨⟨minutes, after⟩, minutesRead, read⟩ :=
      Option.bind_eq_some_iff.mp read
    obtain ⟨hourCount, rfl⟩ := pair?_multiple hoursRead
    obtain ⟨minuteCount, rfl⟩ := pair?_multiple minutesRead
    simp only at read
    split at read
    next =>
      cases read
      split <;> omega
    next =>
      cases read
  next =>
    cases read

/-- A zone is a number of whole minutes away. -/
theorem zone?_minutes
    {text rest : List Char}
    {offset : Int}
    (read : zone? text = some (offset, rest)) :
    offset % 60 = 0 := by
  unfold zone? at read
  split at read
  next =>
    split at read
    next =>
      cases read
      rfl
    next =>
      exact offset?_minutes read
  next =>
    exact offset?_minutes read

/-- A moment that is read from a text is one that a text can name. -/
theorem isNameable_of_read?
    {text : String}
    {moment : Timestamp}
    (read : read? text = some moment) :
    moment.IsNameable := by
  obtain ⟨⟨year, rest⟩, -, read⟩ := Option.bind_eq_some_iff.mp read
  obtain ⟨rest, -, read⟩ := Option.bind_eq_some_iff.mp read
  obtain ⟨⟨month, rest⟩, -, read⟩ := Option.bind_eq_some_iff.mp read
  obtain ⟨rest, -, read⟩ := Option.bind_eq_some_iff.mp read
  obtain ⟨⟨day, rest⟩, -, read⟩ := Option.bind_eq_some_iff.mp read
  obtain ⟨rest, -, read⟩ := Option.bind_eq_some_iff.mp read
  obtain ⟨⟨hour, rest⟩, -, read⟩ := Option.bind_eq_some_iff.mp read
  obtain ⟨rest, -, read⟩ := Option.bind_eq_some_iff.mp read
  obtain ⟨⟨minute, rest⟩, -, read⟩ := Option.bind_eq_some_iff.mp read
  obtain ⟨rest, -, read⟩ := Option.bind_eq_some_iff.mp read
  obtain ⟨⟨second, rest⟩, -, read⟩ := Option.bind_eq_some_iff.mp read
  obtain ⟨⟨fraction, rest⟩, fractionRead, read⟩ :=
    Option.bind_eq_some_iff.mp read
  obtain ⟨⟨offset, rest⟩, offsetRead, read⟩ :=
    Option.bind_eq_some_iff.mp read
  have fractionBelow := lt_of_fraction? fractionRead
  have wholeMinutes := zone?_minutes offsetRead
  simp only at read
  split at read
  next =>
    split at read
    next within =>
      cases read
      simp only [Bool.and_eq_true, decide_eq_true_eq] at within
      refine ⟨?_, within.1, within.2⟩
      by_cases isLeap : second = 60
      · refine .inr ⟨?_, ?_⟩
        · simp only [isLeap, if_true]
          omega
        · simp only
          omega
      · refine .inl ?_
        simpa [isLeap] using fractionBelow
    next =>
      cases read
  next =>
    cases read

/-- A leap second in local time stays one in universal time. -/
example :
    (read? "2016-12-31 23:59:60.5+00:30").map write =
      some "2016-12-31T23:29:60.500Z" := by
  decide +kernel

end Timestamp

end AssessmentChat
