import AssessmentChat.Text.Base64
import Mathlib.Data.List.Basic
import Mathlib.Data.List.TakeWhile

namespace AssessmentChat.Base64

/-!
# Bytes and their texts

Reading a text succeeds exactly if writing some bytes produces it, and then those bytes
are read.  Each group is seen through the number that its digits spell and that its bytes
make up.  A text is taken apart from its front, group by group, and only the last group
can have pads.
-/

/-! ## Digits -/

theorem digitValue?_digit
    {value : Nat}
    (small : value < 64) :
    digitValue? (digit value) = some value := by
  have all : ∀ value < 64, digitValue? (digit value) = some value := by
    decide
  exact all value small

/-- Every digit is the digit of its value. -/
theorem eq_digit
    {symbol : UInt8}
    {value : Nat}
    (valued : digitValue? symbol = some value) :
    value < 64 ∧ symbol = digit value := by
  have all :
      ∀ number < 256,
        ∀ value ∈ digitValue? (.ofNat number),
          value < 64 ∧ UInt8.ofNat number = digit value := by
    decide +kernel
  have here := all symbol.toNat symbol.toNat_lt value
  rw [UInt8.ofNat_toNat] at here
  exact here valued

theorem isDigit_iff
    {symbol : UInt8} :
    isDigit symbol = true ↔ ∃ value < 64, symbol = digit value := by
  rw [isDigit, Option.isSome_iff_exists]
  constructor
  · rintro ⟨value, valued⟩
    exact ⟨value, eq_digit valued⟩
  · rintro ⟨value, small, rfl⟩
    exact ⟨value, digitValue?_digit small⟩

theorem isDigit_digit
    {value : Nat}
    (small : value < 64) :
    isDigit (digit value) = true :=
  isDigit_iff.mpr ⟨value, small, rfl⟩

/-- Only pads and digits are written, all of them letters of one byte. -/
theorem toNat_lt_of_isDigit
    {symbol : UInt8}
    (written : isDigit symbol = true ∨ symbol = pad) :
    symbol.toNat < 128 := by
  rcases written with isDigit | rfl
  · obtain ⟨value, small, rfl⟩ := isDigit_iff.mp isDigit
    have all : ∀ value < 64, (digit value).toNat < 128 := by decide
    exact all value small
  · decide

/-- Digits alone are the digits of some numbers. -/
theorem exists_map_digit
    {symbols : List UInt8}
    (areDigits : ∀ symbol ∈ symbols, isDigit symbol = true) :
    ∃ values : List Nat,
      (∀ value ∈ values, value < 64) ∧ symbols = values.map digit := by
  induction symbols with
  | nil =>
      exact ⟨[], by simp, rfl⟩
  | cons symbol rest inductionHypothesis =>
      obtain ⟨first, others⟩ := List.forall_mem_cons.mp areDigits
      obtain ⟨value, small, rfl⟩ := isDigit_iff.mp first
      obtain ⟨values, allSmall, rfl⟩ := inductionHypothesis others
      exact ⟨value :: values, List.forall_mem_cons.mpr ⟨small, allSmall⟩,
        rfl⟩

theorem isDigit_of_mem_map_digit
    {values : List Nat}
    (small : ∀ value ∈ values, value < 64)
    {symbol : UInt8}
    (member : symbol ∈ values.map digit) :
    isDigit symbol = true := by
  obtain ⟨value, listed, rfl⟩ := List.mem_map.mp member
  exact isDigit_digit (small value listed)

/-- The number that values of six bits make up. -/
def joined (values : List Nat) : Nat :=
  values.foldl (fun bits value => bits * 64 + value) 0

/-- The number that digits spell is made up of their values. -/
theorem bitsOf_map_digit
    {values : List Nat}
    (small : ∀ value ∈ values, value < 64) :
    bitsOf (values.map digit) = joined values := by
  rw [bitsOf, joined, List.foldl_map]
  suffices
      ∀ start,
        values.foldl
            (fun bits value => bits * 64 + (digitValue? (digit value)).getD 0)
            start =
          values.foldl (fun bits value => bits * 64 + value) start from
    this 0
  intro start
  induction values generalizing start with
  | nil =>
      rfl
  | cons value rest inductionHypothesis =>
      obtain ⟨first, others⟩ := List.forall_mem_cons.mp small
      simpa [digitValue?_digit first] using inductionHypothesis others _

/-! ## One group -/

section Groups

variable
  {offset : Nat}
  {symbols bytes : List UInt8}
  {values : List Nat}

theorem firstForeign?_eq_none
    (offset : Nat) :
    firstForeign? offset symbols = none ↔
      ∀ symbol ∈ symbols, isDigit symbol = true := by
  rw [firstForeign?, Option.map_eq_none_iff, List.head?_eq_none_iff,
    List.dropWhile_eq_nil_iff]

/-- Three bytes are those of the number that they make up. -/
theorem threeBytes_bits
    (first second third : UInt8) :
    threeBytes ((first.toNat * 256 + second.toNat) * 256 + third.toNat) =
      [first, second, third] := by
  have firstSmall := first.toNat_lt
  have secondSmall := second.toNat_lt
  have thirdSmall := third.toNat_lt
  simp only [threeBytes, List.cons.injEq, and_true, ← UInt8.toNat_inj,
    UInt8.toNat_ofNat']
  omega

/-- Four digits are those of the bytes that they spell. -/
theorem digitsOfThree_threeBytes
    {one two three four : Nat}
    (small : ∀ value ∈ [one, two, three, four], value < 64) :
    ∃ first second third,
      threeBytes (bitsOf ([one, two, three, four].map digit)) =
          [first, second, third] ∧
        digitsOfThree first second third =
          [one, two, three, four].map digit := by
  refine ⟨_, _, _, rfl, ?_⟩
  rw [bitsOf_map_digit small]
  simp only [List.forall_mem_cons] at small
  obtain ⟨oneSmall, twoSmall, threeSmall, fourSmall, -⟩ := small
  simp only [digitsOfThree, joined, List.map_cons, List.map_nil,
    List.foldl_cons, List.foldl_nil, UInt8.toNat_ofNat', List.cons.injEq,
    and_true]
  refine ⟨congrArg digit ?_, congrArg digit ?_, congrArg digit ?_,
    congrArg digit ?_⟩ <;> omega

/-- The digits of three bytes are digits, and they spell the number of the bytes. -/
theorem digitsOfThree_eq_map
    (first second third : UInt8) :
    ∃ values : List Nat,
      digitsOfThree first second third = values.map digit ∧
        (∀ value ∈ values, value < 64) ∧
        joined values =
          (first.toNat * 256 + second.toNat) * 256 + third.toNat := by
  have firstSmall := first.toNat_lt
  have secondSmall := second.toNat_lt
  have thirdSmall := third.toNat_lt
  refine ⟨[_, _, _, _], rfl, ?_, ?_⟩
  · simp only [List.mem_cons, List.not_mem_nil, or_false,
      forall_eq_or_imp, forall_eq]
    omega
  · simp only [joined, List.foldl_cons, List.foldl_nil]
    omega

/-- Three bytes are spelled by their digits. -/
theorem fullGroup_digitsOfThree
    (offset : Nat)
    (first second third : UInt8) :
    fullGroup offset (digitsOfThree first second third) =
      .ok [first, second, third] := by
  obtain ⟨values, same, small, bits⟩ :=
    digitsOfThree_eq_map first second third
  have noForeign :=
    (firstForeign?_eq_none offset).mpr fun _ =>
      isDigit_of_mem_map_digit small
  rw [fullGroup, same, noForeign]
  rw [bitsOf_map_digit small, bits, threeBytes_bits]

/-- A full group is read only if it is the digits of three bytes. -/
theorem eq_digitsOfThree_of_fullGroup
    {one two three four : UInt8}
    (read : fullGroup offset [one, two, three, four] = .ok bytes) :
    ∃ first second third,
      bytes = [first, second, third] ∧
        [one, two, three, four] = digitsOfThree first second third := by
  unfold fullGroup at read
  split at read
  next =>
    cases read
  next noForeign =>
    obtain ⟨values, small, same⟩ :=
      exists_map_digit ((firstForeign?_eq_none offset).mp noForeign)
    have length : values.length = 4 := by
      simpa using (congrArg List.length same).symm
    obtain ⟨_, _, _, _, rfl⟩ := List.length_eq_four.mp length
    obtain ⟨first, second, third, bits, digits⟩ :=
      digitsOfThree_threeBytes small
    rw [same, bits] at read
    cases read
    exact ⟨first, second, third, rfl, same.trans digits.symm⟩

/-! ## The last group -/

/-- Digits that pads fill up to four symbols. -/
def filledUp (values : List Nat) : List UInt8 :=
  values.map digit ++ List.replicate (4 - values.length) pad

theorem isDigit_or_pad
    (small : ∀ value ∈ values, value < 64)
    {symbol : UInt8}
    (member : symbol ∈ filledUp values) :
    isDigit symbol = true ∨ symbol = pad := by
  rcases List.mem_append.mp member with spelled | padding
  · exact .inl (isDigit_of_mem_map_digit small spelled)
  · exact .inr (List.eq_of_mem_replicate padding)

/-- What is read of digits that are filled up. -/
theorem lastGroup_filledUp
    (offset : Nat)
    (small : ∀ value ∈ values, value < 64)
    (length : values.length = 2 ∨ values.length = 3) :
    lastGroup offset (filledUp values) =
      let spare := if values.length = 2 then 16 else 4
      let place := if values.length = 2 then 65536 else 256
      if joined values % spare ≠ 0 then
        .error (.spareBits ((values.map digit).getLastD pad)
          (offset + values.length - 1))
      else
        .ok ((threeBytes (joined values / spare * place)).take
          (values.length - 1)) := by
  have areDigits (symbol : UInt8) (member : symbol ∈ values.map digit) :
      isDigit symbol = true :=
    isDigit_of_mem_map_digit small member
  have padded :
      ∃ more,
        List.replicate (4 - values.length) pad = pad :: more ∧
          ∀ symbol ∈ more, symbol = pad := by
    refine ⟨List.replicate (4 - values.length - 1) pad, ?_, ?_⟩
    · rw [← List.replicate_succ]
      congr 1
      omega
    · exact fun _ => List.eq_of_mem_replicate
  obtain ⟨more, shape, arePads⟩ := padded
  have spelled :
      (filledUp values).takeWhile isDigit = values.map digit := by
    rw [filledUp, List.takeWhile_append_of_pos areDigits, shape,
      List.takeWhile_cons_of_neg (by decide), List.append_nil]
  have after :
      (filledUp values).dropWhile isDigit = pad :: more := by
    rw [filledUp, List.dropWhile_append_of_pos areDigits, shape,
      List.dropWhile_cons_of_neg (by decide)]
  have filled : (filledUp values).length = 4 := by
    rw [filledUp, List.length_append, List.length_map,
      List.length_replicate]
    omega
  have foreign :
      firstForeign? offset (filledUp values) =
        some (.symbol pad (offset + values.length)) := by
    simp [firstForeign?, spelled, after]
  have enough : 2 ≤ values.length := by omega
  have onlyPads : (pad :: more).all (· = pad) = true := by
    simpa using arePads
  unfold lastGroup
  simp only [spelled, after, foreign, filled, List.length_map, enough,
    onlyPads, bitsOf_map_digit small]
  rfl

/-- A last group that is read has four symbols with digits first, or no pads. -/
theorem lastGroup_shape
    (read : lastGroup offset symbols = .ok bytes)
    (foreign : firstForeign? offset symbols ≠ none) :
    2 ≤ (symbols.takeWhile isDigit).length ∧
      (∀ symbol ∈ symbols.dropWhile isDigit, symbol = pad) ∧
      symbols.length = 4 := by
  unfold lastGroup at read
  cases found : firstForeign? offset symbols with
  | none =>
      exact absurd found foreign
  | some flaw =>
      simp only [found] at read
      split at read
      next =>
        cases read
      next filled =>
        split at read
        next =>
          cases read
        next length =>
          simp only [Bool.not_eq_true, Bool.not_eq_false', Bool.and_eq_true,
            decide_eq_true_eq, List.all_eq_true, ge_iff_le] at filled
          obtain ⟨enough, arePads⟩ := filled
          exact ⟨enough, arePads, not_not.mp length⟩

/-- Only digits that are filled up make a last group with something else than digits. -/
theorem eq_filledUp_of_lastGroup
    (read : lastGroup offset symbols = .ok bytes)
    (foreign : firstForeign? offset symbols ≠ none) :
    ∃ values,
      symbols = filledUp values ∧
        (∀ value ∈ values, value < 64) ∧
        (values.length = 2 ∨ values.length = 3) := by
  obtain ⟨enough, arePads, length⟩ := lastGroup_shape read foreign
  have halves := List.takeWhile_append_dropWhile (p := isDigit) (l := symbols)
  obtain ⟨values, small, spelled⟩ :=
    exists_map_digit fun symbol (member : symbol ∈ symbols.takeWhile isDigit) =>
      List.mem_takeWhile_imp member
  have some : symbols.dropWhile isDigit ≠ [] := by
    intro none
    refine foreign ((firstForeign?_eq_none offset).mpr ?_)
    exact List.dropWhile_eq_nil_iff.mp none
  have lengths := congrArg List.length halves
  rw [List.length_append, length, spelled, List.length_map] at lengths
  rw [spelled, List.length_map] at enough
  have more := List.length_pos_iff.mpr some
  have padding :
      symbols.dropWhile isDigit = List.replicate (4 - values.length) pad :=
    List.eq_replicate_iff.mpr ⟨by omega, arePads⟩
  refine ⟨values, ?_, small, by omega⟩
  rw [filledUp, ← spelled, ← padding, halves]

/-- Two digits that are filled up are read as one byte. -/
theorem lastGroup_two
    {one two : Nat}
    (small : ∀ value ∈ [one, two], value < 64) :
    lastGroup offset (filledUp [one, two]) = .ok bytes ↔
      (one * 64 + two) % 16 = 0 ∧
        [UInt8.ofNat ((one * 64 + two) / 16)] = bytes := by
  have spelled :
      (threeBytes ((one * 64 + two) / 16 * 65536)).take 1 =
        [.ofNat ((one * 64 + two) / 16)] := by
    rw [threeBytes, Nat.mul_div_cancel _ (by decide)]
    rfl
  rw [lastGroup_filledUp offset small (.inl rfl)]
  by_cases spare : (one * 64 + two) % 16 = 0
  · simp [joined, spare, spelled]
  · simp [joined, spare]

/-- Three digits that are filled up are read as two bytes. -/
theorem lastGroup_three
    {one two three : Nat}
    (small : ∀ value ∈ [one, two, three], value < 64) :
    lastGroup offset (filledUp [one, two, three]) = .ok bytes ↔
      ((one * 64 + two) * 64 + three) % 4 = 0 ∧
        [UInt8.ofNat (((one * 64 + two) * 64 + three) / 4 / 256),
          .ofNat (((one * 64 + two) * 64 + three) / 4)] = bytes := by
  have spelled :
      (threeBytes (((one * 64 + two) * 64 + three) / 4 * 256)).take 2 =
        [.ofNat (((one * 64 + two) * 64 + three) / 4 / 256),
          .ofNat (((one * 64 + two) * 64 + three) / 4)] := by
    rw [threeBytes, Nat.mul_div_cancel _ (by decide),
      show 65536 = 256 * 256 from rfl,
      Nat.mul_div_mul_right _ _ (by decide)]
    rfl
  rw [lastGroup_filledUp offset small (.inr rfl)]
  by_cases spare : ((one * 64 + two) * 64 + three) % 4 = 0
  · simp [joined, spare, spelled]
  · simp [joined, spare]

/-- The digits of one byte are two digits, filled up. -/
theorem digitsOfOne_eq_filledUp
    (first : UInt8) :
    ∃ one two,
      digitsOfOne first = filledUp [one, two] ∧
        (∀ value ∈ [one, two], value < 64) ∧
        one * 64 + two = first.toNat * 16 := by
  have firstSmall := first.toNat_lt
  refine ⟨_, _, rfl, ?_, by omega⟩
  simp only [List.mem_cons, List.not_mem_nil, or_false, forall_eq_or_imp,
    forall_eq]
  omega

/-- The digits of two bytes are three digits, filled up. -/
theorem digitsOfTwo_eq_filledUp
    (first second : UInt8) :
    ∃ one two three,
      digitsOfTwo first second = filledUp [one, two, three] ∧
        (∀ value ∈ [one, two, three], value < 64) ∧
        (one * 64 + two) * 64 + three =
          (first.toNat * 256 + second.toNat) * 4 := by
  have firstSmall := first.toNat_lt
  have secondSmall := second.toNat_lt
  refine ⟨_, _, _, rfl, ?_, by omega⟩
  simp only [List.mem_cons, List.not_mem_nil, or_false, forall_eq_or_imp,
    forall_eq]
  omega

theorem lastGroup_digitsOfOne
    (offset : Nat)
    (first : UInt8) :
    lastGroup offset (digitsOfOne first) = .ok [first] := by
  obtain ⟨one, two, same, small, bits⟩ := digitsOfOne_eq_filledUp first
  have firstSmall := first.toNat_lt
  rw [same, lastGroup_two small, bits]
  refine ⟨by omega, ?_⟩
  simp only [List.cons.injEq, and_true, ← UInt8.toNat_inj,
    UInt8.toNat_ofNat']
  omega

theorem lastGroup_digitsOfTwo
    (offset : Nat)
    (first second : UInt8) :
    lastGroup offset (digitsOfTwo first second) = .ok [first, second] := by
  obtain ⟨one, two, three, same, small, bits⟩ :=
    digitsOfTwo_eq_filledUp first second
  have firstSmall := first.toNat_lt
  have secondSmall := second.toNat_lt
  rw [same, lastGroup_three small, bits]
  refine ⟨by omega, ?_⟩
  simp only [List.cons.injEq, and_true, ← UInt8.toNat_inj,
    UInt8.toNat_ofNat']
  omega

theorem lastGroup_digitsOfThree
    (offset : Nat)
    (first second third : UInt8) :
    lastGroup offset (digitsOfThree first second third) =
      .ok [first, second, third] := by
  obtain ⟨values, same, small, bits⟩ :=
    digitsOfThree_eq_map first second third
  have noForeign :
      firstForeign? offset (digitsOfThree first second third) = none := by
    rw [same]
    exact (firstForeign?_eq_none offset).mpr fun _ =>
      isDigit_of_mem_map_digit small
  have spelled :
      threeBytes (bitsOf (digitsOfThree first second third)) =
        [first, second, third] := by
    rw [same, bitsOf_map_digit small, bits, threeBytes_bits]
  unfold lastGroup
  simp only [noForeign]
  exact congrArg Except.ok spelled

/-- Digits that are filled up are read only if they are those of their bytes. -/
theorem eq_digits_of_filledUp
    (small : ∀ value ∈ values, value < 64)
    (length : values.length = 2 ∨ values.length = 3)
    (read : lastGroup offset (filledUp values) = .ok bytes) :
    filledUp values = digits bytes := by
  rcases length with length | length
  · obtain ⟨one, two, rfl⟩ := List.length_eq_two.mp length
    obtain ⟨noSpare, rfl⟩ := (lastGroup_two small).mp read
    simp only [List.forall_mem_cons] at small
    have whole :
        (UInt8.ofNat ((one * 64 + two) / 16)).toNat * 16 =
          one * 64 + two := by
      rw [UInt8.toNat_ofNat']
      omega
    have high : (one * 64 + two) / 64 = one := by omega
    have low : (one * 64 + two) % 64 = two := by omega
    change filledUp [one, two] = digitsOfOne _
    simp only [digitsOfOne, whole, high, low]
    rfl
  · obtain ⟨one, two, three, rfl⟩ := List.length_eq_three.mp length
    obtain ⟨noSpare, rfl⟩ := (lastGroup_three small).mp read
    simp only [List.forall_mem_cons] at small
    generalize bits :
      (one * 64 + two) * 64 + three = number at noSpare
    have whole :
        ((UInt8.ofNat (number / 4 / 256)).toNat * 256 +
          (UInt8.ofNat (number / 4)).toNat) * 4 = number := by
      simp only [UInt8.toNat_ofNat']
      omega
    have high : number / 4096 = one := by omega
    have middle : number / 64 % 64 = two := by omega
    have low : number % 64 = three := by omega
    change filledUp [one, two, three] = digitsOfTwo _ _
    simp only [digitsOfTwo, whole, high, middle, low]
    rfl

/-- A last group is read only if it is the digits of its bytes. -/
theorem eq_digits_of_lastGroup
    (read : lastGroup offset symbols = .ok bytes) :
    symbols = digits bytes := by
  by_cases noForeign : firstForeign? offset symbols = none
  · obtain ⟨values, small, rfl⟩ :=
      exists_map_digit ((firstForeign?_eq_none offset).mp noForeign)
    unfold lastGroup at read
    simp only [noForeign] at read
    split at read
    next empty =>
      cases read
      exact empty
    next =>
      cases read
    next one two three four group =>
      have length : values.length = 4 := by
        simpa using congrArg List.length group
      obtain ⟨_, _, _, _, rfl⟩ := List.length_eq_four.mp length
      obtain ⟨first, second, third, spelled, same⟩ :=
        digitsOfThree_threeBytes small
      rw [spelled] at read
      cases read
      exact same.symm
    next =>
      cases read
  · obtain ⟨values, rfl, small, length⟩ :=
      eq_filledUp_of_lastGroup read noForeign
    exact eq_digits_of_filledUp small length read

end Groups

/-! ## All groups -/

section Everything

theorem encodeAfter_eq :
    ∀ written bytes : List UInt8,
      encodeAfter written bytes = written.reverse ++ digits bytes
  | written, first :: second :: third :: rest => by
      rw [digits, encodeAfter, encodeAfter, encodeAfter_eq _ rest,
        encodeAfter_eq _ rest]
      simp
  | written, [first, second] => by
      simp [digits, encodeAfter]
  | written, [first] => by
      simp [digits, encodeAfter]
  | written, [] => by
      simp [digits, encodeAfter]

theorem digits_three
    (first second third : UInt8)
    (rest : List UInt8) :
    digits (first :: second :: third :: rest) =
      digitsOfThree first second third ++ digits rest := by
  rw [digits, encodeAfter, encodeAfter_eq]
  simp

/-- Bytes have digits. -/
theorem digits_ne_nil
    {bytes : List UInt8}
    (some : bytes ≠ []) :
    digits bytes ≠ [] := by
  rcases bytes with _ | ⟨first, _ | ⟨second, _ | ⟨third, rest⟩⟩⟩
  · exact absurd rfl some
  · simp [digits, encodeAfter, digitsOfOne]
  · simp [digits, encodeAfter, digitsOfTwo]
  · simp [digits_three, digitsOfThree]

/-- Digits make up whole groups of four. -/
theorem length_digits_mod :
    ∀ bytes : List UInt8, (digits bytes).length % 4 = 0
  | first :: second :: third :: rest => by
      have others := length_digits_mod rest
      rw [digits_three, List.length_append,
        show (digitsOfThree first second third).length = 4 from rfl]
      omega
  | [first, second] => by simp [digits, encodeAfter, digitsOfTwo]
  | [first] => by simp [digits, encodeAfter, digitsOfOne]
  | [] => by simp [digits, encodeAfter]

theorem decodeAfter_of_lastGroup
    {offset : Nat}
    {symbols bytes : List UInt8}
    (last : lastGroup offset symbols = .ok bytes)
    (short : symbols.length ≤ 4)
    (read : List UInt8) :
    decodeAfter offset read symbols = .ok (read.reverse ++ bytes) := by
  unfold decodeAfter
  split
  next =>
    simp only [List.length_cons] at short
    omega
  next =>
    rw [last]
    rfl

/-- A group that symbols follow is read on its own. -/
theorem decodeAfter_of_fullGroup
    {offset : Nat}
    {first second third fourth : UInt8}
    {rest bytes : List UInt8}
    (group : fullGroup offset [first, second, third, fourth] = .ok bytes)
    (goesOn : rest ≠ [])
    (read : List UInt8) :
    decodeAfter offset read (first :: second :: third :: fourth :: rest) =
      decodeAfter (offset + 4) (bytes.reverse ++ read) rest := by
  obtain ⟨next, others, rfl⟩ := List.exists_cons_of_ne_nil goesOn
  rw [decodeAfter, group]

/-- The digits of bytes are read as those bytes. -/
theorem decodeAfter_digits :
    ∀ (offset : Nat) (read bytes : List UInt8),
      decodeAfter offset read (digits bytes) = .ok (read.reverse ++ bytes)
  | offset, read, first :: second :: third :: rest => by
      rw [digits_three]
      cases rest with
      | nil =>
          have noMore : digits [] = [] := rfl
          rw [noMore, List.append_nil]
          exact decodeAfter_of_lastGroup
            (lastGroup_digitsOfThree offset first second third)
            (Nat.le_refl 4) read
      | cons next others =>
          have onward :=
            decodeAfter_digits (offset + 4)
              ([first, second, third].reverse ++ read) (next :: others)
          refine (decodeAfter_of_fullGroup
            (fullGroup_digitsOfThree offset first second third)
            (digits_ne_nil (List.cons_ne_nil next others)) read).trans ?_
          simpa using onward
  | offset, read, [first, second] => by
      exact decodeAfter_of_lastGroup
        (lastGroup_digitsOfTwo offset first second) (Nat.le_refl 4) read
  | offset, read, [first] => by
      exact decodeAfter_of_lastGroup
        (lastGroup_digitsOfOne offset first) (Nat.le_refl 4) read
  | offset, read, [] => by
      simp [digits, encodeAfter, decodeAfter, lastGroup, firstForeign?,
        Except.map]

/-- Only the digits of bytes are read. -/
theorem eq_digits_of_decodeAfter
    {offset : Nat}
    {read symbols everything : List UInt8}
    (decoded : decodeAfter offset read symbols = .ok everything) :
    ∃ bytes,
      everything = read.reverse ++ bytes ∧ symbols = digits bytes := by
  fun_induction decodeAfter offset read symbols with
  | case1 offset read first second third fourth next rest group full
      inductionHypothesis =>
      obtain ⟨bytes, rfl, others⟩ := inductionHypothesis decoded
      obtain ⟨one, two, three, rfl, digits⟩ :=
        eq_digitsOfThree_of_fullGroup full
      refine ⟨one :: two :: three :: bytes, by simp, ?_⟩
      rw [digits_three, ← others, ← digits]
      rfl
  | case2 =>
      cases decoded
  | case3 offset read symbols =>
      cases last : lastGroup offset symbols with
      | error flaw =>
          rw [last] at decoded
          cases decoded
      | ok bytes =>
          rw [last] at decoded
          cases decoded
          exact ⟨bytes, rfl, eq_digits_of_lastGroup last⟩

/-- Symbols are read exactly if they are the digits of the bytes that are read. -/
theorem bytesOf_eq_ok
    {symbols bytes : List UInt8} :
    bytesOf symbols = .ok bytes ↔ symbols = digits bytes := by
  constructor
  · intro read
    unfold bytesOf at read
    split at read
    next =>
      split at read
      next =>
        cases read
      next =>
        obtain ⟨found, rfl, same⟩ := eq_digits_of_decodeAfter read
        exact same
    next none =>
      cases read
      exact List.getLast?_eq_none_iff.mp none
  · rintro rfl
    have whole := length_digits_mod bytes
    have decoded := decodeAfter_digits 0 [] bytes
    unfold bytesOf
    split
    next =>
      rw [if_neg (by omega)]
      exact decoded
    next none =>
      have nothing := List.getLast?_eq_none_iff.mp none
      cases bytes with
      | nil =>
          rfl
      | cons first rest =>
          exact absurd nothing (digits_ne_nil (List.cons_ne_nil first rest))

/-! ## Texts -/

/-- Nothing but digits and pads is written. -/
theorem toNat_lt_of_mem_digits :
    ∀ (bytes : List UInt8) (symbol : UInt8),
      symbol ∈ digits bytes → symbol.toNat < 128
  | first :: second :: third :: rest, symbol, member => by
      rw [digits_three] at member
      rcases List.mem_append.mp member with here | later
      · obtain ⟨values, same, small, -⟩ :=
          digitsOfThree_eq_map first second third
        rw [same] at here
        exact toNat_lt_of_isDigit
          (.inl (isDigit_of_mem_map_digit small here))
      · exact toNat_lt_of_mem_digits rest symbol later
  | [first, second], symbol, member => by
      change symbol ∈ digitsOfTwo first second at member
      obtain ⟨one, two, three, same, small, -⟩ :=
        digitsOfTwo_eq_filledUp first second
      rw [same] at member
      exact toNat_lt_of_isDigit (isDigit_or_pad small member)
  | [first], symbol, member => by
      change symbol ∈ digitsOfOne first at member
      obtain ⟨one, two, same, small, -⟩ := digitsOfOne_eq_filledUp first
      rw [same] at member
      exact toNat_lt_of_isDigit (isDigit_or_pad small member)
  | [], symbol, member => by
      cases member

/-- Letters of one byte each are written as those bytes. -/
theorem toUTF8_ofList
    {symbols : List UInt8}
    (narrow : ∀ symbol ∈ symbols, symbol.toNat < 128) :
    (String.ofList
      (symbols.map fun symbol => Char.ofNat symbol.toNat)).toUTF8.data.toList =
        symbols := by
  have letter :
      ∀ number < 128,
        String.utf8EncodeChar (Char.ofNat (UInt8.ofNat number).toNat) =
          [.ofNat number] := by
    decide +kernel
  change (String.ofList _).toByteArray.data.toList = _
  rw [String.toByteArray_ofList, List.utf8Encode, List.toList_data_toByteArray]
  induction symbols with
  | nil =>
      rfl
  | cons symbol rest inductionHypothesis =>
      obtain ⟨first, others⟩ := List.forall_mem_cons.mp narrow
      have here := letter symbol.toNat first
      rw [UInt8.ofNat_toNat] at here
      rw [List.map_cons, List.flatMap_cons, here,
        inductionHypothesis others]
      rfl

theorem toUTF8_encode
    (bytes : ByteArray) :
    (encode bytes).toUTF8.data.toList = digits bytes.data.toList :=
  toUTF8_ofList (toNat_lt_of_mem_digits bytes.data.toList)

/-- A text is read exactly if it is the one that is written for what is read. -/
theorem decode_eq_ok
    {text : String}
    {bytes : ByteArray} :
    decode text = .ok bytes ↔ text = encode bytes := by
  have same :
      text = encode bytes ↔
        text.toUTF8.data.toList = digits bytes.data.toList := by
    rw [← toUTF8_encode, Array.toList_inj, ← ByteArray.ext_iff]
    exact String.toByteArray_inj.symm
  rw [same, ← bytesOf_eq_ok, decode]
  cases bytesOf text.toUTF8.data.toList with
  | error flaw =>
      simp [Except.map]
  | ok found =>
      simp [Except.map, ByteArray.ext_iff, ← Array.toList_inj]

end Everything

end AssessmentChat.Base64
