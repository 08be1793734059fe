import AssessmentChat.Http.Exchange
import Mathlib.Tactic.SplitIfs

namespace AssessmentChat

/-!
# Bodies are read as the texts that they spell

A text can be sent in UTF-8, or with a mark before it that says how it is encoded.  In
each of these forms it is read as it is.
-/

/-! ## UTF-8 -/

namespace Utf8

variable
  {found : List Char}
  {byte : UInt8}
  {rest : List UInt8}

/-- A byte that is a character by itself is read as that character. -/
theorem decodeAfter_ascii
    (isAscii : byte.toNat < 0x80) :
    decodeAfter found none (byte :: rest) =
      decodeAfter (Char.ofNat byte.toNat :: found) none rest := by
  simp [decodeAfter, Lead.ofByte?, isAscii]

/-- A byte that begins a longer character leaves it under way. -/
theorem decodeAfter_lead
    {more bits least greatest : Nat}
    (begins :
      Lead.ofByte? byte = some ⟨more + 1, bits, least, greatest⟩) :
    decodeAfter found none (byte :: rest) =
      decodeAfter found (some ⟨bits, more + 1, least, greatest⟩) rest := by
  simp [decodeAfter, begins]

section Following

variable
  {bits least greatest : Nat}
  (fromLeast : least ≤ byte.toNat)
  (toGreatest : byte.toNat ≤ greatest)

include fromLeast toGreatest

/-- A byte that more of the same character follow adds its bits. -/
theorem decodeAfter_middle
    {more : Nat} :
    decodeAfter found (some ⟨bits, more + 2, least, greatest⟩)
        (byte :: rest) =
      decodeAfter found
        (some
          ⟨bits * 64 + (byte.toNat - 0x80), more + 1, 0x80, 0xBF⟩) rest := by
  simp [decodeAfter, fromLeast, toGreatest]

/-- The last byte of a character completes it. -/
theorem decodeAfter_last :
    decodeAfter found (some ⟨bits, 1, least, greatest⟩) (byte :: rest) =
      decodeAfter (Char.ofNat (bits * 64 + (byte.toNat - 0x80)) :: found)
        none rest := by
  simp [decodeAfter, fromLeast, toGreatest]

end Following

section Characters

variable
  {value : Nat}

theorem toNat_ofNat
    (short : value < 256) :
    (UInt8.ofNat value).toNat = value :=
  UInt8.toNat_ofNat_of_lt' short

/-- Two bytes that make up a character are read as it. -/
theorem decodeAfter_twoBytes
    (long : 0x80 ≤ value)
    (short : value < 0x800) :
    decodeAfter found none
        (UInt8.ofNat (value / 64 % 32 + 192) ::
          UInt8.ofNat (value % 64 + 128) :: rest) =
      decodeAfter (Char.ofNat value :: found) none rest := by
  have isFirst := @toNat_ofNat (value / 64 % 32 + 192) (by omega)
  have isSecond := @toNat_ofNat (value % 64 + 128) (by omega)
  generalize UInt8.ofNat (value / 64 % 32 + 192) = first at isFirst ⊢
  generalize UInt8.ofNat (value % 64 + 128) = second at isSecond ⊢
  have begins :
      Lead.ofByte? first = some ⟨1, value / 64, 0x80, 0xBF⟩ := by
    grind [Lead.ofByte?]
  have all : value / 64 * 64 + (second.toNat - 0x80) = value := by
    omega
  rw [decodeAfter_lead begins, decodeAfter_last (by omega) (by omega), all]

/-- Three bytes that make up a character are read as it. -/
theorem decodeAfter_threeBytes
    (long : 0x800 ≤ value)
    (short : value < 0x10000)
    (valid : value < 0xD800 ∨ 0xDFFF < value) :
    decodeAfter found none
        (UInt8.ofNat (value / 4096 % 16 + 224) ::
          UInt8.ofNat (value / 64 % 64 + 128) ::
          UInt8.ofNat (value % 64 + 128) :: rest) =
      decodeAfter (Char.ofNat value :: found) none rest := by
  have isFirst := @toNat_ofNat (value / 4096 % 16 + 224) (by omega)
  have isSecond := @toNat_ofNat (value / 64 % 64 + 128) (by omega)
  have isThird := @toNat_ofNat (value % 64 + 128) (by omega)
  generalize UInt8.ofNat (value / 4096 % 16 + 224) = first at isFirst ⊢
  generalize UInt8.ofNat (value / 64 % 64 + 128) = second at isSecond ⊢
  generalize UInt8.ofNat (value % 64 + 128) = third at isThird ⊢
  obtain ⟨least, greatest, begins, fromLeast, toGreatest⟩ :
      ∃ least greatest,
        Lead.ofByte? first = some ⟨2, value / 4096, least, greatest⟩ ∧
          least ≤ second.toNat ∧ second.toNat ≤ greatest := by
    by_cases isLeast : value / 4096 = 0
    · exact ⟨0xA0, 0xBF, by grind [Lead.ofByte?], by omega, by omega⟩
    · by_cases beforeHalves : value / 4096 = 0xD
      · exact ⟨0x80, 0x9F, by grind [Lead.ofByte?], by omega, by omega⟩
      · exact ⟨0x80, 0xBF, by grind [Lead.ofByte?], by omega, by omega⟩
  have all :
      (value / 4096 * 64 + (second.toNat - 0x80)) * 64 +
          (third.toNat - 0x80) =
        value := by
    omega
  rw [decodeAfter_lead begins, decodeAfter_middle fromLeast toGreatest,
    decodeAfter_last (by omega) (by omega), all]

/-- Four bytes that make up a character are read as it. -/
theorem decodeAfter_fourBytes
    (long : 0x10000 ≤ value)
    (valid : value < 0x110000) :
    decodeAfter found none
        (UInt8.ofNat (value / 262144 % 8 + 240) ::
          UInt8.ofNat (value / 4096 % 64 + 128) ::
          UInt8.ofNat (value / 64 % 64 + 128) ::
          UInt8.ofNat (value % 64 + 128) :: rest) =
      decodeAfter (Char.ofNat value :: found) none rest := by
  have isFirst := @toNat_ofNat (value / 262144 % 8 + 240) (by omega)
  have isSecond := @toNat_ofNat (value / 4096 % 64 + 128) (by omega)
  have isThird := @toNat_ofNat (value / 64 % 64 + 128) (by omega)
  have isFourth := @toNat_ofNat (value % 64 + 128) (by omega)
  generalize UInt8.ofNat (value / 262144 % 8 + 240) = first at isFirst ⊢
  generalize UInt8.ofNat (value / 4096 % 64 + 128) = second at isSecond ⊢
  generalize UInt8.ofNat (value / 64 % 64 + 128) = third at isThird ⊢
  generalize UInt8.ofNat (value % 64 + 128) = fourth at isFourth ⊢
  obtain ⟨least, greatest, begins, fromLeast, toGreatest⟩ :
      ∃ least greatest,
        Lead.ofByte? first = some ⟨3, value / 262144, least, greatest⟩ ∧
          least ≤ second.toNat ∧ second.toNat ≤ greatest := by
    by_cases isLeast : value / 262144 = 0
    · exact ⟨0x90, 0xBF, by grind [Lead.ofByte?], by omega, by omega⟩
    · by_cases isGreatest : value / 262144 = 4
      · exact ⟨0x80, 0x8F, by grind [Lead.ofByte?], by omega, by omega⟩
      · exact ⟨0x80, 0xBF, by grind [Lead.ofByte?], by omega, by omega⟩
  have all :
      ((value / 262144 * 64 + (second.toNat - 0x80)) * 64 +
            (third.toNat - 0x80)) * 64 +
          (fourth.toNat - 0x80) =
        value := by
    omega
  rw [decodeAfter_lead begins, decodeAfter_middle fromLeast toGreatest,
    decodeAfter_middle (by omega) (by omega),
    decodeAfter_last (by omega) (by omega), all]

end Characters

/-- The bytes of a character are read as that character. -/
theorem decodeAfter_encodeChar
    (found : List Char)
    (character : Char)
    (rest : List UInt8) :
    decodeAfter found none (String.utf8EncodeChar character ++ rest) =
      decodeAfter (character :: found) none rest := by
  have valid :
      character.toNat < 0xD800 ∨
        0xDFFF < character.toNat ∧ character.toNat < 0x110000 :=
    character.valid
  have same : Char.ofNat character.toNat = character :=
    Char.ofNat_toNat character
  simp only [String.utf8EncodeChar, Char.toNat_val]
  split_ifs with isAscii two three <;>
    simp only [List.cons_append, List.nil_append]
  · have isByte := @toNat_ofNat character.toNat (by omega)
    rw [decodeAfter_ascii (by omega), isByte, same]
  · rw [decodeAfter_twoBytes (by omega) (by omega), same]
  · rw [decodeAfter_threeBytes (by omega) (by omega) (by omega), same]
  · rw [decodeAfter_fourBytes (by omega) (by omega), same]

theorem decodeAfter_flatMap
    (characters : List Char)
    (found : List Char) :
    decodeAfter found none (characters.flatMap String.utf8EncodeChar) =
      found.reverse ++ characters := by
  induction characters generalizing found with
  | nil =>
      simp [decodeAfter]
  | cons character rest inductionHypothesis =>
      rw [List.flatMap_cons, decodeAfter_encodeChar, inductionHypothesis]
      simp

/-- The bytes of a text are those of its characters, in order. -/
theorem toUTF8_eq_flatMap
    (text : String) :
    text.toUTF8.data.toList = text.toList.flatMap String.utf8EncodeChar := by
  have bytes : text.toUTF8 = text.toList.utf8Encode :=
    String.utf8Encode_toList.symm
  rw [bytes, List.utf8Encode, List.toList_data_toByteArray]

/-- A text is read from its bytes as it is. -/
theorem decode_toUTF8
    (text : String) :
    decode text.toUTF8.data.toList = text := by
  rw [decode, toUTF8_eq_flatMap, decodeAfter_flatMap]
  exact String.ofList_toList

/-- A byte that does not go on with a character begins another. -/
theorem decodeAfter_outside
    {bits more least greatest : Nat}
    (outside : ¬ (least ≤ byte.toNat ∧ byte.toNat ≤ greatest)) :
    decodeAfter found (some ⟨bits, more, least, greatest⟩)
        (byte :: rest) =
      decodeAfter (replacement :: found) none (byte :: rest) := by
  simp [decodeAfter, outside]

/-- What was found before comes first. -/
theorem decodeAfter_eq_append
    (found : List Char)
    (under : Option Partial)
    (bytes : List UInt8) :
    decodeAfter found under bytes =
      found.reverse ++ decodeAfter [] under bytes := by
  induction bytes generalizing found under with
  | nil =>
      cases under <;> simp [decodeAfter]
  | cons byte rest inductionHypothesis =>
      have further (found : List Char) (character : Char) :
          decodeAfter (character :: found) none rest =
            found.reverse ++ decodeAfter [character] none rest := by
        rw [inductionHypothesis, inductionHypothesis [character]]
        simp
      have anew (found : List Char) :
          decodeAfter found none (byte :: rest) =
            found.reverse ++ decodeAfter [] none (byte :: rest) := by
        simp only [decodeAfter]
        split
        · exact further found _
        · exact inductionHypothesis found _
        · exact further found _
      rcases under with _ | ⟨bits, more, least, greatest⟩
      · exact anew found
      · by_cases within : least ≤ byte.toNat ∧ byte.toNat ≤ greatest
        · simp only [decodeAfter, within, decide_true, Bool.and_self,
            ↓reduceIte]
          split
          · exact further found _
          · exact inductionHypothesis found _
        · rw [decodeAfter_outside within, decodeAfter_outside within,
            anew, anew [replacement]]
          simp

end Utf8

/-! ## UTF-16 -/

namespace Utf16

/-- The bytes of a unit. -/
def ByteOrder.bytes (order : ByteOrder) (unit : Nat) : List UInt8 :=
  match order with
  | .littleEndian => [.ofNat (unit % 256), .ofNat (unit / 256)]
  | .bigEndian => [.ofNat (unit / 256), .ofNat (unit % 256)]

/-- The units of a character: one, or two halves. -/
def units (character : Char) : List Nat :=
  if character.toNat < 0x10000 then [character.toNat]
  else
    [0xD800 + (character.toNat - 0x10000) / 0x400,
      0xDC00 + (character.toNat - 0x10000) % 0x400]

/-- The bytes of characters. -/
def encode (order : ByteOrder) (characters : List Char) : List UInt8 :=
  (characters.flatMap units).flatMap order.bytes

variable
  {order : ByteOrder}
  {found : List Char}
  {unit : Nat}

/-- The two bytes of a unit give that unit. -/
theorem ByteOrder.exists_bytes
    (order : ByteOrder)
    (short : unit < 0x10000) :
    ∃ one other,
      order.bytes unit = [one, other] ∧ order.unit one other = unit := by
  have high : (UInt8.ofNat (unit / 256)).toNat = unit / 256 :=
    Utf8.toNat_ofNat (by omega)
  have low : (UInt8.ofNat (unit % 256)).toNat = unit % 256 :=
    Utf8.toNat_ofNat (by omega)
  cases order with
  | littleEndian | bigEndian =>
      refine ⟨_, _, rfl, ?_⟩
      rw [ByteOrder.unit, high, low]
      omega

/-- A unit that is no half is read as a character. -/
theorem decodeAfter_whole
    (short : unit < 0x10000)
    (isWhole : unit < 0xD800 ∨ 0xDFFF < unit)
    (rest : List UInt8) :
    decodeAfter order found none (order.bytes unit ++ rest) =
      decodeAfter order (Char.ofNat unit :: found) none rest := by
  obtain ⟨one, other, bytes, isUnit⟩ := order.exists_bytes short
  have notFirst : isFirstHalf unit = false := by
    grind [isFirstHalf]
  have notSecond : isSecondHalf unit = false := by
    grind [isSecondHalf]
  simp [bytes, decodeAfter, isUnit, notFirst, notSecond]

/-- A unit that is a first half waits for the second one. -/
theorem decodeAfter_firstHalf
    (isFirst : isFirstHalf unit)
    (rest : List UInt8) :
    decodeAfter order found none (order.bytes unit ++ rest) =
      decodeAfter order found (some unit) rest := by
  have short : unit < 0x10000 := by
    grind [isFirstHalf]
  obtain ⟨one, other, bytes, isUnit⟩ := order.exists_bytes short
  simp [bytes, decodeAfter, isUnit, isFirst]

/-- A unit that is a second half completes a character. -/
theorem decodeAfter_secondHalf
    {first : Nat}
    (isSecond : isSecondHalf unit)
    (rest : List UInt8) :
    decodeAfter order found (some first) (order.bytes unit ++ rest) =
      decodeAfter order (joined first unit :: found) none rest := by
  have short : unit < 0x10000 := by
    grind [isSecondHalf]
  obtain ⟨one, other, bytes, isUnit⟩ := order.exists_bytes short
  simp [bytes, decodeAfter, isUnit, isSecond]

/-- The bytes of a character are read as that character. -/
theorem decodeAfter_units
    (order : ByteOrder)
    (found : List Char)
    (character : Char)
    (rest : List UInt8) :
    decodeAfter order found none
        ((units character).flatMap order.bytes ++ rest) =
      decodeAfter order (character :: found) none rest := by
  have valid :
      character.toNat < 0xD800 ∨
        0xDFFF < character.toNat ∧ character.toNat < 0x110000 :=
    character.valid
  have same : Char.ofNat character.toNat = character :=
    Char.ofNat_toNat character
  rw [units]
  split_ifs with short
  · rw [List.flatMap_singleton, decodeAfter_whole short (by omega), same]
  · have isFirst :
        isFirstHalf (0xD800 + (character.toNat - 0x10000) / 0x400) := by
      grind [isFirstHalf]
    have isSecond :
        isSecondHalf (0xDC00 + (character.toNat - 0x10000) % 0x400) := by
      grind [isSecondHalf]
    have value :
        0x10000 +
              (0xD800 + (character.toNat - 0x10000) / 0x400 - 0xD800) *
                0x400 +
            (0xDC00 + (character.toNat - 0x10000) % 0x400 - 0xDC00) =
          character.toNat := by
      omega
    rw [List.flatMap_cons, List.flatMap_singleton, List.append_assoc,
      decodeAfter_firstHalf isFirst, decodeAfter_secondHalf isSecond,
      joined, value, same]

/-- The bytes of characters are read as these characters. -/
theorem decodeAfter_encode
    (order : ByteOrder)
    (characters : List Char)
    (found : List Char) :
    decodeAfter order found none (encode order characters) =
      found.reverse ++ characters := by
  induction characters generalizing found with
  | nil =>
      simp [encode, decodeAfter]
  | cons character rest inductionHypothesis =>
      rw [encode] at inductionHypothesis
      rw [encode, List.flatMap_cons, List.flatMap_append, decodeAfter_units,
        inductionHypothesis]
      simp

/-- A text is read from its bytes as it is, whichever byte of a unit comes first. -/
theorem decode_encode
    (order : ByteOrder)
    (text : String) :
    decode order (encode order text.toList) = text := by
  rw [decode, decodeAfter_encode]
  exact String.ofList_toList

end Utf16

/-! ## Marks -/

/--
Bytes that spell a text: after a mark, or without one if they are not said to be read
otherwise than as UTF-8.
-/
inductive Spells
    (otherwise : List UInt8 → String)
    (text : String) : List UInt8 → Prop where
  | unmarked :
      otherwise = Utf8.decode →
      text.toList.head? ≠ some '\ufeff' →
      Spells otherwise text text.toUTF8.data.toList
  | utf8 :
      Spells otherwise text
        (0xEF :: 0xBB :: 0xBF :: text.toUTF8.data.toList)
  | utf16
      (order : Utf16.ByteOrder) :
      Spells otherwise text
        (order.bytes 0xFEFF ++ Utf16.encode order text.toList)

theorem decodeMarked_utf8
    (otherwise : List UInt8 → String)
    (bytes : List UInt8) :
    decodeMarked otherwise (0xEF :: 0xBB :: 0xBF :: bytes) =
      Utf8.decode bytes :=
  rfl

theorem decodeMarked_utf16
    (otherwise : List UInt8 → String)
    (order : Utf16.ByteOrder)
    (bytes : List UInt8) :
    decodeMarked otherwise (order.bytes 0xFEFF ++ bytes) =
      Utf16.decode order bytes := by
  cases order <;> rfl

theorem head_encodeChar_lt
    {character : Char}
    {byte : UInt8}
    {rest : List UInt8}
    (begins : String.utf8EncodeChar character = byte :: rest) :
    byte.toNat < 0xF8 := by
  have valid : character.toNat < 0x110000 := by
    rcases character.valid with low | ⟨-, high⟩
    · exact Nat.lt_of_lt_of_le low (by decide)
    · exact high
  simp only [String.utf8EncodeChar, Char.toNat_val] at begins
  split_ifs at begins <;> cases begins
  · rw [Utf8.toNat_ofNat (by omega)]
    omega
  · rw [Utf8.toNat_ofNat (by omega)]
    omega
  · rw [Utf8.toNat_ofNat (by omega)]
    omega
  · rw [Utf8.toNat_ofNat (by omega)]
    omega

/-- A text in UTF-8 does not begin with the mark of one in units of two bytes. -/
theorem head_flatMap_lt
    {characters : List Char}
    {byte : UInt8}
    {rest : List UInt8}
    (begins : characters.flatMap String.utf8EncodeChar = byte :: rest) :
    byte.toNat < 0xF8 := by
  cases characters with
  | nil =>
      cases begins
  | cons character others =>
      cases bytes : String.utf8EncodeChar character with
      | nil =>
          have positive := character.utf8Size_pos
          rw [← String.length_utf8EncodeChar, bytes] at positive
          cases positive
      | cons first more =>
          rw [List.flatMap_cons, bytes] at begins
          cases begins
          exact head_encodeChar_lt bytes

/-- A text in UTF-8 that does not begin with a mark is read as it is. -/
theorem decodeMarked_toUTF8
    {text : String}
    (unmarked : text.toList.head? ≠ some '\ufeff') :
    decodeMarked Utf8.decode text.toUTF8.data.toList = text := by
  have read := Utf8.decode_toUTF8 text
  have spelled := (Utf8.toUTF8_eq_flatMap text).symm
  generalize text.toUTF8.data.toList = bytes at read spelled ⊢
  unfold decodeMarked
  split
  next rest =>
    refine absurd ?_ unmarked
    rw [← read, Utf8.decode, String.toList_ofList]
    change (Utf8.decodeAfter ['\ufeff'] none rest).head? = _
    rw [Utf8.decodeAfter_eq_append]
    rfl
  next =>
    exact absurd (head_flatMap_lt spelled) (by decide)
  next =>
    exact absurd (head_flatMap_lt spelled) (by decide)
  next =>
    exact read

/-- Bytes are read as the text that they spell. -/
theorem Spells.decodeMarked_eq
    {otherwise : List UInt8 → String}
    {text : String}
    {bytes : List UInt8}
    (spells : Spells otherwise text bytes) :
    decodeMarked otherwise bytes = text := by
  cases spells with
  | unmarked isUtf8 unmarked =>
      rw [isUtf8]
      exact decodeMarked_toUTF8 unmarked
  | utf8 =>
      exact (decodeMarked_utf8 _ _).trans (Utf8.decode_toUTF8 text)
  | utf16 order =>
      exact (decodeMarked_utf16 _ order _).trans
        (Utf16.decode_encode order text)

namespace Http

/-- The whole body of a response has arrived and spells a text. -/
structure Response.Spells
    (tables : Tables)
    (response : Response)
    (text : String) : Prop where
  complete : response.complete = true
  spelled :
    AssessmentChat.Spells (response.decoding tables) text
      response.body.data.toList

/-- A body is read as the text that it spells. -/
theorem Response.Spells.text?_eq
    {tables : Tables}
    {response : Response}
    {text : String}
    (spells : response.Spells tables text) :
    response.text? tables = some text := by
  rw [text?, content?, if_pos spells.complete, Option.map_some,
    spells.spelled.decodeMarked_eq]

end Http

end AssessmentChat
