import AssessmentChat.Json.Tree

namespace AssessmentChat

/-!
# Compact texts are read back

A value that is sound is laid out as tokens that are cut apart where they were put
together, and gathered into the same value.  What a token may be followed by matters
only for numbers and words: in a layout these are followed by punctuation.
-/

/-- The bytes of a text are read as that text. -/
theorem fromUTF8?_toUTF8
    (text : String) :
    String.fromUTF8? text.toUTF8 = some text := by
  unfold String.fromUTF8?
  exact dif_pos text.isValidUTF8

/-! ## Digits -/

/-- The digits of a number have its value. -/
theorem decimalValue_toDigits
    (number : Nat) :
    decimalValue (Nat.toDigits 10 number) = number :=
  Nat.ofDigitChars_toDigits (by decide) (by decide)

theorem isDigit_of_mem_toDigits
    (number : Nat) :
    ∀ digit ∈ Nat.toDigits 10 number, digit.isDigit = true :=
  fun _ among => Nat.isDigit_of_mem_toDigits (by decide) (by decide) among

/-- The digits of a number begin with zero only if it is zero. -/
theorem head?_toDigits_ne_zero
    {number : Nat}
    (positive : 0 < number) :
    (Nat.toDigits 10 number).head? ≠ some '0' := by
  induction number using Nat.strongRecOn with
  | ind number inductionHypothesis =>
      rw [Nat.toDigits_eq_if (by decide)]
      split
      next single =>
        have noZero : ∀ digit < 10, 0 < digit → digit.digitChar ≠ '0' := by
          decide
        simpa using noZero number single positive
      next several =>
        have noZero :=
          inductionHypothesis (number / 10) (by omega) (by omega)
        cases digits : Nat.toDigits 10 (number / 10) with
        | nil =>
            have some := @Nat.length_toDigits_pos 10 (number / 10)
            simp [digits] at some
        | cons first rest =>
            rw [digits] at noZero
            exact noZero

namespace Json

/-! ## What follows a token -/

/-- Whether a text ends, or goes on with punctuation. -/
def IsParted : List Char → Prop
  | [] => True
  | first :: _ => (punctuation? first).isSome = true

/-- There are six punctuation marks. -/
theorem punctuation?_isSome
    {character : Char}
    (isPunctuation : (punctuation? character).isSome = true) :
    character = '[' ∨ character = ']' ∨ character = '\x7b' ∨
      character = '\x7d' ∨ character = ',' ∨ character = ':' := by
  unfold punctuation? at isPunctuation
  split at isPunctuation <;> simp_all

/-- What is parted from a number does not go on with one. -/
theorem IsParted.not_numeric
    {text : List Char}
    (parted : IsParted text) :
    text.takeWhile isNumeric = [] ∧ text.dropWhile isNumeric = text := by
  cases text with
  | nil =>
      exact ⟨rfl, rfl⟩
  | cons first rest =>
      have notNumeric : isNumeric first = false := by
        rcases punctuation?_isSome parted with
          rfl | rfl | rfl | rfl | rfl | rfl <;> rfl
      simp [notNumeric]

/-- What is parted from a word does not go on with one. -/
theorem IsParted.not_alpha
    {text : List Char}
    (parted : IsParted text) :
    text.takeWhile Char.isAlpha = [] ∧
      text.dropWhile Char.isAlpha = text := by
  cases text with
  | nil =>
      exact ⟨rfl, rfl⟩
  | cons first rest =>
      have notAlpha : first.isAlpha = false := by
        rcases punctuation?_isSome parted with
          rfl | rfl | rfl | rfl | rfl | rfl <;> rfl
      simp [notAlpha]

/-! ## Strings -/

theorem hexValue?_hexDigit :
    ∀ value < 16, hexValue? (hexDigit value) = some value := by
  decide

/-- A control character is read from the digits that it is escaped with. -/
theorem codeUnit?_hexDigits
    {value : Nat}
    (isControl : value < 32) :
    codeUnit? '0' '0' (hexDigit (value / 16)) (hexDigit (value % 16)) =
      some value := by
  have high := hexValue?_hexDigit (value / 16) (by omega)
  have low := hexValue?_hexDigit (value % 16) (by omega)
  have zero : hexValue? '0' = some 0 := rfl
  simp only [codeUnit?, zero, high, low, Option.bind_eq_bind,
    Option.bind_some, Option.pure_def, Option.some.injEq]
  omega

/-- A control character is read back from its code unit. -/
theorem Piece.ofUnit_toNat
    {character : Char}
    (isControl : character.toNat < 32) :
    Piece.ofUnit character.toNat = .scalar character := by
  have notHigh : isHighHalf character.toNat = false := by
    simp [isHighHalf]
    omega
  have notLow : isLowHalf character.toNat = false := by
    simp [isLowHalf]
    omega
  simp [Piece.ofUnit, notHigh, notLow, Char.ofNat_toNat]

/-- A character that is written as itself is read as itself. -/
theorem stringBody?_plain
    {character : Char}
    (notQuote : character ≠ '"')
    (notBackslash : character ≠ '\\')
    (notControl : ¬character.toNat < 32)
    (pieces : List Piece)
    (rest : List Char) :
    stringBody? pieces (character :: rest) =
      stringBody? (.scalar character :: pieces) rest := by
  have ordinary :
      ¬(character.toNat < 0x20 || character = '\\') = true := by
    simp [notControl, notBackslash]
  rw [stringBody?.eq_def]
  split
  next same =>
    cases same
  next same =>
    cases same
    exact absurd rfl notQuote
  next same =>
    cases same
    exact absurd rfl notBackslash
  next same =>
    cases same
    exact absurd rfl notBackslash
  next same =>
    cases same
    exact if_neg ordinary

/-- A character that is written inside a string is read back. -/
theorem stringBody?_escape
    (pieces : List Piece)
    (character : Char)
    (rest : List Char) :
    stringBody? pieces (escape character ++ rest) =
      stringBody? (.scalar character :: pieces) rest := by
  by_cases isShort :
      character ∈ ['"', '\\', '\x08', '\t', '\n', '\x0c', '\r']
  · simp only [List.mem_cons, List.not_mem_nil, or_false] at isShort
    rcases isShort with rfl | rfl | rfl | rfl | rfl | rfl | rfl <;> rfl
  · simp only [List.mem_cons, List.not_mem_nil, or_false, not_or] at isShort
    obtain ⟨notQuote, notBackslash, noBackspace, noTab, noNewline, noFeed,
      noReturn⟩ := isShort
    simp only [escape, notQuote, notBackslash, noBackspace, noTab,
      noNewline, noFeed, noReturn, if_false]
    split
    next isControl =>
      simp only [List.cons_append, List.nil_append]
      rw [stringBody?.eq_3, codeUnit?_hexDigits isControl]
      exact congrArg (fun piece => stringBody? (piece :: pieces) rest)
        (Piece.ofUnit_toNat isControl)
    next notControl =>
      exact stringBody?_plain notQuote notBackslash notControl pieces rest

/-- So is a whole string. -/
theorem stringBody?_quoted
    (pieces : List Piece)
    (content rest : List Char) :
    stringBody? pieces (content.flatMap escape ++ '"' :: rest) =
      some (pieces.reverse ++ content.map Piece.scalar, rest) := by
  induction content generalizing pieces with
  | nil =>
      simp [stringBody?]
  | cons character others inductionHypothesis =>
      rw [List.flatMap_cons, List.append_assoc, stringBody?_escape,
        inductionHypothesis]
      simp

/-- Pieces that are characters are joined to these characters. -/
theorem joinPieces_scalars
    (joined content : List Char) :
    joinPieces joined (content.map Piece.scalar) =
      some (joined.reverse ++ content) := by
  induction content generalizing joined with
  | nil =>
      simp [joinPieces]
  | cons character others inductionHypothesis =>
      simp [joinPieces, inductionHypothesis]

/-! ## Tokens -/

/-- A token that is spelled in a way in which it is read back. -/
def Token.IsSound : Token → Prop
  | .string spelled => spelled.isSome = true
  | .number literal => ∃ value : Nat, literal = toString value
  | _ => True

/-- Whether nothing that follows a token can change how it is read. -/
def Token.isClosed : Token → Bool
  | .null => false
  | .bool _ => false
  | .number _ => false
  | _ => true

theorem isWhole_toDigits
    (value : Nat) :
    isWhole (Nat.toDigits 10 value) = true := by
  by_cases zero : value = 0
  · subst zero
    rfl
  · have noZero := head?_toDigits_ne_zero (Nat.pos_of_ne_zero zero)
    cases digits : Nat.toDigits 10 value with
    | nil =>
        have some := @Nat.length_toDigits_pos 10 value
        simp [digits] at some
    | cons first rest =>
        rw [digits] at noZero
        simp only [List.head?_cons, ne_eq, Option.some.injEq] at noZero
        simp [isWhole, noZero]

/-- What is taken and what is left when all that is wanted comes first. -/
theorem span_append
    {wanted : Char → Bool}
    {characters rest : List Char}
    (all : ∀ character ∈ characters, wanted character = true)
    (parted :
      rest.takeWhile wanted = [] ∧ rest.dropWhile wanted = rest) :
    (characters ++ rest).takeWhile wanted = characters ∧
      (characters ++ rest).dropWhile wanted = rest := by
  rw [List.takeWhile_append_of_pos all, List.dropWhile_append_of_pos all,
    parted.1, parted.2, List.append_nil]
  exact ⟨rfl, rfl⟩

/-- Digits are a number. -/
theorem isNumber_toDigits
    (value : Nat) :
    isNumber (Nat.toDigits 10 value) = true := by
  have digits := isDigit_of_mem_toDigits value
  have noSign : unsigned (Nat.toDigits 10 value) = Nat.toDigits 10 value := by
    unfold unsigned
    split
    next rest same =>
      have minus := digits '-' (by simp [same])
      cases minus
    next =>
      rfl
  obtain ⟨whole, nothing⟩ := @span_append _ _ [] digits ⟨rfl, rfl⟩
  rw [List.append_nil] at whole nothing
  rw [isNumber, noSign, whole, nothing, isWhole_toDigits]
  rfl

theorem quoted_some
    (content : String) :
    quoted (some content) =
      '"' :: (content.toList.flatMap escape ++ ['"']) :=
  rfl

/-- A quoted text is read as that text. -/
theorem nextToken?_quoted
    (content : String)
    (rest : List Char) :
    nextToken? (quoted (some content) ++ rest) =
      some (.string (some content), rest) := by
  have body := stringBody?_quoted [] content.toList rest
  have joined := joinPieces_scalars [] content.toList
  have notPunctuation : punctuation? '"' = none := rfl
  simp only [List.reverse_nil, List.nil_append] at body joined
  rw [quoted_some, List.cons_append, List.append_assoc]
  simp only [List.cons_append, List.nil_append, nextToken?, notPunctuation,
    if_true, body]
  simp [joined]

/-- A number is read as it was written, if something else follows. -/
theorem nextToken?_number
    (value : Nat)
    {rest : List Char}
    (parted : IsParted rest) :
    nextToken? ((toString value).toList ++ rest) =
      some (.number (toString value), rest) := by
  have digits := isDigit_of_mem_toDigits value
  have isNumber := isNumber_toDigits value
  have spelled : (toString value).toList = Nat.toDigits 10 value :=
    Nat.toList_repr
  rw [← spelled] at digits isNumber
  have literal : String.ofList (toString value).toList = toString value :=
    String.ofList_toList
  cases found : (toString value).toList with
  | nil =>
      rw [found] at isNumber
      cases isNumber
  | cons first more =>
      rw [found] at digits isNumber literal
      have isDigit := digits first (by simp)
      have notPunctuation : punctuation? first = none := by
        refine Option.eq_none_iff_forall_ne_some.mpr fun token same => ?_
        rcases punctuation?_isSome (by rw [same]; rfl) with
          rfl | rfl | rfl | rfl | rfl | rfl <;> cases isDigit
      have notQuote : first ≠ '"' := by
        rintro rfl
        cases isDigit
      have numeric : ∀ digit ∈ more, isNumeric digit = true := by
        intro digit among
        simp [isNumeric, digits digit (by simp [among])]
      obtain ⟨taken, left⟩ := span_append numeric parted.not_numeric
      simp only [List.cons_append, nextToken?, notPunctuation, notQuote,
        if_false, taken, left]
      simp [isNumeric, isDigit, isNumber, literal]

/-- A token is cut off where it ends. -/
theorem nextToken?_spelling
    {token : Token}
    (sound : token.IsSound)
    {rest : List Char}
    (parted : token.isClosed = true ∨ IsParted rest) :
    nextToken? (token.spelling ++ rest) = some (token, rest) := by
  cases token with
  | openArray | closeArray | openObject | closeObject | comma | colon =>
      rfl
  | null =>
      have parted : IsParted rest := by
        simpa [Token.isClosed] using parted
      obtain ⟨letters, after⟩ := parted.not_alpha
      simp [Token.spelling, nextToken?, punctuation?, isNumeric, letters,
        after, word?]
  | bool value =>
      have parted : IsParted rest := by
        simpa [Token.isClosed] using parted
      obtain ⟨letters, after⟩ := parted.not_alpha
      cases value with
      | true | false =>
          simp [Token.spelling, nextToken?, punctuation?, isNumeric,
            letters, after, word?]
  | number literal =>
      obtain ⟨value, rfl⟩ := sound
      refine nextToken?_number value ?_
      simpa [Token.isClosed] using parted
  | string spelled =>
      cases spelled with
      | none =>
          cases sound
      | some content =>
          exact nextToken?_quoted content rest

/-- Tokens do not begin with a space. -/
theorem isSpace_of_nextToken?
    {first : Char}
    {rest : List Char}
    {found : Token × List Char}
    (cut : nextToken? (first :: rest) = some found) :
    isSpace first = false := by
  refine Bool.eq_false_iff.mpr fun spaced => ?_
  have which :
      first = ' ' ∨ first = '\t' ∨ first = '\n' ∨ first = '\r' := by
    simpa [isSpace, or_assoc] using spaced
  rcases which with rfl | rfl | rfl | rfl <;>
    simp [nextToken?, punctuation?, isNumeric, word?] at cut

/-- A token is the next one of the text that it begins. -/
theorem tokensAfter?_spelling
    {token : Token}
    (sound : token.IsSound)
    {rest : List Char}
    (parted : token.isClosed = true ∨ IsParted rest)
    (found : List Token) :
    tokensAfter? found (token.spelling ++ rest) =
      tokensAfter? (token :: found) rest := by
  have cut := nextToken?_spelling sound parted
  cases characters : token.spelling ++ rest with
  | nil =>
      rw [characters] at cut
      cases cut
  | cons first more =>
      rw [characters] at cut
      rw [tokensAfter?]
      simp only [isSpace_of_nextToken? cut, Bool.false_eq_true, if_false]
      split
      next other after read =>
        rw [cut] at read
        cases read
        rfl
      next read =>
        rw [cut] at read
        cases read

/-! ## Layouts -/

/-- The characters of tokens one after another. -/
def spell (tokens : List Token) : List Char :=
  tokens.flatMap Token.spelling

/-- Whether a value is laid out in tokens that are read back. -/
def IsSound (tokens : List Token) : Prop :=
  ∀ token ∈ tokens, token.IsSound

/-- A series of tokens is sound if its parts are. -/
theorem isSound_append
    {first second : List Token} :
    IsSound (first ++ second) ↔ IsSound first ∧ IsSound second := by
  simp [IsSound, or_imp, forall_and]

theorem isSound_cons
    {token : Token}
    {rest : List Token} :
    IsSound (token :: rest) ↔ token.IsSound ∧ IsSound rest := by
  simp [IsSound]

/-- A token is read from its spelling, and then the others. -/
theorem tokensAfter?_spell_cons
    {token : Token}
    (sound : token.IsSound)
    {tokens : List Token}
    {rest : List Char}
    (parted : token.isClosed = true ∨ IsParted (spell tokens ++ rest))
    (found : List Token) :
    tokensAfter? found (spell (token :: tokens) ++ rest) =
      tokensAfter? (token :: found) (spell tokens ++ rest) := by
  rw [spell, List.flatMap_cons, List.append_assoc]
  exact tokensAfter?_spelling sound parted found

theorem isParted_items
    (items : List Json)
    (rest : List Char) :
    IsParted (spell (itemTokens items) ++ rest) := by
  cases items <;> rfl

theorem isParted_fields
    (fields : List (Spelled × Json))
    (rest : List Char) :
    IsParted (spell (fieldTokens fields) ++ rest) := by
  rcases fields with _ | ⟨_, _⟩ <;> rfl

/-- Tokens are spelled one after the other. -/
theorem spell_append
    (first second : List Token) :
    spell (first ++ second) = spell first ++ spell second :=
  List.flatMap_append

mutual

/-- The tokens of a value are cut apart where they were put together. -/
theorem tokensAfter?_tokens
    (value : Json)
    (sound : IsSound value.tokens)
    (found : List Token)
    {rest : List Char}
    (parted : IsParted rest) :
    tokensAfter? found (spell value.tokens ++ rest) =
      tokensAfter? (value.tokens.reverse ++ found) rest := by
  match value with
  | .null | .bool _ | .number _ | .string _ =>
      rw [tokens] at sound ⊢
      exact @tokensAfter?_spell_cons _ (sound _ (by simp)) [] rest
        (.inr parted) found
  | .array [] =>
      rw [tokens, @tokensAfter?_spell_cons .openArray trivial _ _ (.inl rfl),
        @tokensAfter?_spell_cons .closeArray trivial _ _ (.inl rfl)]
      rfl
  | .object [] =>
      rw [tokens, @tokensAfter?_spell_cons .openObject trivial _ _ (.inl rfl),
        @tokensAfter?_spell_cons .closeObject trivial _ _ (.inl rfl)]
      rfl
  | .array (first :: items) =>
      rw [tokens, isSound_cons, isSound_append] at sound
      obtain ⟨-, firstSound, itemsSound⟩ := sound
      rw [tokens, @tokensAfter?_spell_cons .openArray trivial _ _ (.inl rfl),
        spell_append, List.append_assoc,
        tokensAfter?_tokens first firstSound _ (isParted_items items rest),
        tokensAfter?_itemTokens items itemsSound _ rest]
      simp
  | .object ((key, first) :: fields) =>
      rw [tokens, isSound_cons, isSound_cons, isSound_cons,
        isSound_append] at sound
      obtain ⟨-, keySound, -, firstSound, fieldsSound⟩ := sound
      rw [tokens, @tokensAfter?_spell_cons .openObject trivial _ _ (.inl rfl),
        @tokensAfter?_spell_cons (.string key) keySound _ _ (.inl rfl),
        @tokensAfter?_spell_cons .colon trivial _ _ (.inl rfl),
        spell_append, List.append_assoc,
        tokensAfter?_tokens first firstSound _
          (isParted_fields fields rest),
        tokensAfter?_fieldTokens fields fieldsSound _ rest]
      simp

/-- So are those of the items after the first. -/
theorem tokensAfter?_itemTokens
    (items : List Json)
    (sound : IsSound (itemTokens items))
    (found : List Token)
    (rest : List Char) :
    tokensAfter? found (spell (itemTokens items) ++ rest) =
      tokensAfter? ((itemTokens items).reverse ++ found) rest := by
  match items with
  | [] =>
      rw [itemTokens, @tokensAfter?_spell_cons .closeArray trivial _ _ (.inl rfl)]
      rfl
  | item :: others =>
      rw [itemTokens, isSound_cons, isSound_append] at sound
      obtain ⟨-, itemSound, othersSound⟩ := sound
      rw [itemTokens, @tokensAfter?_spell_cons .comma trivial _ _ (.inl rfl),
        spell_append, List.append_assoc,
        tokensAfter?_tokens item itemSound _ (isParted_items others rest),
        tokensAfter?_itemTokens others othersSound _ rest]
      simp

/-- So are those of the fields after the first. -/
theorem tokensAfter?_fieldTokens
    (fields : List (Spelled × Json))
    (sound : IsSound (fieldTokens fields))
    (found : List Token)
    (rest : List Char) :
    tokensAfter? found (spell (fieldTokens fields) ++ rest) =
      tokensAfter? ((fieldTokens fields).reverse ++ found) rest := by
  match fields with
  | [] =>
      rw [fieldTokens, @tokensAfter?_spell_cons .closeObject trivial _ _ (.inl rfl)]
      rfl
  | (key, value) :: others =>
      rw [fieldTokens, isSound_cons, isSound_cons, isSound_cons,
        isSound_append] at sound
      obtain ⟨-, keySound, -, valueSound, othersSound⟩ := sound
      rw [fieldTokens, @tokensAfter?_spell_cons .comma trivial _ _ (.inl rfl),
        @tokensAfter?_spell_cons (.string key) keySound _ _ (.inl rfl),
        @tokensAfter?_spell_cons .colon trivial _ _ (.inl rfl),
        spell_append, List.append_assoc,
        tokensAfter?_tokens value valueSound _
          (isParted_fields others rest),
        tokensAfter?_fieldTokens others othersSound _ rest]
      simp

end

/-- The tokens of a compact text are those of its value. -/
theorem tokens?_compact
    {value : Json}
    (sound : IsSound value.tokens) :
    tokens? value.compact = some value.tokens := by
  have cut := @tokensAfter?_tokens value sound [] [] trivial
  rw [List.append_nil, List.append_nil] at cut
  rw [tokens?, compact, String.toList_ofList]
  refine cut.trans ?_
  rw [tokensAfter?, List.reverse_reverse]

/-! ## Gathering -/

/-- The first item of an array begins as any other one does. -/
theorem next?_first
    (value : Json)
    (frames : List Frame) :
    ∃ first rest,
      value.tokens = first :: rest ∧
        Gathering.next? (.awaitingFirstItem frames) first =
          Gathering.next? (.awaitingValue (.array [] :: frames)) first := by
  match value with
  | .null | .bool _ | .number _ | .string _ | .array [] | .object [] |
    .array (_ :: _) | .object ((_, _) :: _) =>
      rw [tokens]
      exact ⟨_, _, rfl, rfl⟩

/-- The first item of an array is gathered as any other one is. -/
theorem foldlM_firstItem
    (value : Json)
    (frames : List Frame) :
    value.tokens.foldlM Gathering.next? (.awaitingFirstItem frames) =
      value.tokens.foldlM Gathering.next?
        (.awaitingValue (.array [] :: frames)) := by
  obtain ⟨first, rest, tokens, same⟩ := next?_first value frames
  rw [tokens, List.foldlM_cons, List.foldlM_cons, same]

mutual

/-- The tokens of a value are gathered into it. -/
theorem foldlM_tokens
    (value : Json)
    (frames : List Frame) :
    value.tokens.foldlM Gathering.next? (.awaitingValue frames) =
      some (.complete value frames) := by
  match value with
  | .null | .bool _ | .number _ | .string _ | .array [] | .object [] =>
      rw [tokens]
      rfl
  | .array (first :: items) =>
      have gathered := foldlM_itemTokens items first [] frames
      rw [tokens]
      change
        (first.tokens ++ itemTokens items).foldlM Gathering.next?
            (.awaitingFirstItem frames) =
          _
      rw [List.foldlM_append, foldlM_firstItem,
        foldlM_tokens first (.array [] :: frames)]
      exact gathered
  | .object ((key, first) :: fields) =>
      have gathered := foldlM_fieldTokens fields first key [] frames
      rw [tokens]
      change
        (first.tokens ++ fieldTokens fields).foldlM Gathering.next?
            (.awaitingValue (.object [] key :: frames)) =
          _
      rw [List.foldlM_append,
        foldlM_tokens first (.object [] key :: frames)]
      exact gathered

/-- The tokens of items are gathered into their array. -/
theorem foldlM_itemTokens
    (items : List Json)
    (value : Json)
    (before : List Json)
    (frames : List Frame) :
    (itemTokens items).foldlM Gathering.next?
        (.complete value (.array before :: frames)) =
      some
        (.complete (.array (before.reverse ++ value :: items)) frames) := by
  match items with
  | [] =>
      simp [itemTokens, Gathering.next?, Gathering.continue?]
  | item :: others =>
      have gathered :=
        foldlM_itemTokens others item (value :: before) frames
      rw [itemTokens]
      change
        (item.tokens ++ itemTokens others).foldlM Gathering.next?
            (.awaitingValue (.array (value :: before) :: frames)) =
          _
      rw [List.foldlM_append,
        foldlM_tokens item (.array (value :: before) :: frames)]
      simpa using gathered

/-- The tokens of fields are gathered into their object. -/
theorem foldlM_fieldTokens
    (fields : List (Spelled × Json))
    (value : Json)
    (key : Spelled)
    (before : List (Spelled × Json))
    (frames : List Frame) :
    (fieldTokens fields).foldlM Gathering.next?
        (.complete value (.object before key :: frames)) =
      some
        (.complete (.object (before.reverse ++ (key, value) :: fields))
          frames) := by
  match fields with
  | [] =>
      simp [fieldTokens, Gathering.next?, Gathering.continue?]
  | (next, item) :: others =>
      have gathered :=
        foldlM_fieldTokens others item next ((key, value) :: before)
          frames
      rw [fieldTokens]
      change
        (item.tokens ++ fieldTokens others).foldlM Gathering.next?
            (.awaitingValue
              (.object ((key, value) :: before) next :: frames)) =
          _
      rw [List.foldlM_append,
        foldlM_tokens item
          (.object ((key, value) :: before) next :: frames)]
      simpa using gathered

end

/-- A value is gathered from its own layout. -/
theorem ofTokens?_tokens
    (value : Json) :
    ofTokens? value.tokens = some value := by
  rw [ofTokens?, foldlM_tokens]
  rfl

/-- A compact text is read back. -/
theorem parse?_compact
    {value : Json}
    (sound : IsSound value.tokens) :
    parse? value.compact = some value := by
  rw [parse?, tokens?_compact sound]
  exact ofTokens?_tokens value

/-- The bytes of a text have the value of the text. -/
theorem ofBytes?_toUTF8
    (text : String) :
    ofBytes? text.toUTF8 = parse? text := by
  rw [ofBytes?, fromUTF8?_toUTF8]

/-! ## Nesting -/

mutual

/-- How deep the containers of a value nest. -/
def depth : Json → Nat
  | .array items => 1 + depthOfItems items
  | .object fields => 1 + depthOfFields fields
  | _ => 0

/-- How deep the containers of items nest. -/
def depthOfItems : List Json → Nat
  | [] => 0
  | item :: rest => max item.depth (depthOfItems rest)

/-- How deep the containers of fields nest. -/
def depthOfFields : List (Spelled × Json) → Nat
  | [] => 0
  | (_, value) :: rest => max value.depth (depthOfFields rest)

end

mutual

/-- The tokens of a value nest as deep as its containers. -/
theorem nestingFrom_tokens
    (value : Json)
    (depth deepest : Nat)
    (within : depth ≤ deepest)
    (rest : List Token) :
    nestingFrom depth deepest (value.tokens ++ rest) =
      nestingFrom depth (max deepest (depth + value.depth)) rest := by
  match value with
  | .null | .bool _ | .number _ | .string _ =>
      rw [tokens]
      change _ = nestingFrom depth (max deepest (depth + 0)) rest
      rw [Nat.add_zero, Nat.max_eq_left within]
      rfl
  | .array [] | .object [] =>
      rw [tokens]
      rfl
  | .array (first :: items) =>
      have inner :=
        nestingFrom_tokens first (depth + 1) (max deepest (depth + 1))
          (Nat.le_max_right _ _) (itemTokens items ++ rest)
      have outer :=
        nestingFrom_itemTokens items depth
          (max (max deepest (depth + 1)) (depth + 1 + first.depth))
          (by omega) rest
      rw [tokens, List.cons_append, List.append_assoc]
      refine inner.trans (outer.trans ?_)
      simp only [Json.depth, depthOfItems]
      congr 1
      omega
  | .object ((key, first) :: fields) =>
      have inner :=
        nestingFrom_tokens first (depth + 1) (max deepest (depth + 1))
          (Nat.le_max_right _ _) (fieldTokens fields ++ rest)
      have outer :=
        nestingFrom_fieldTokens fields depth
          (max (max deepest (depth + 1)) (depth + 1 + first.depth))
          (by omega) rest
      rw [tokens, List.cons_append, List.cons_append, List.cons_append,
        List.append_assoc]
      refine inner.trans (outer.trans ?_)
      simp only [Json.depth, depthOfFields]
      congr 1
      omega

/-- The tokens of items leave their array as deep as the deepest of them. -/
theorem nestingFrom_itemTokens
    (items : List Json)
    (depth deepest : Nat)
    (within : depth + 1 ≤ deepest)
    (rest : List Token) :
    nestingFrom (depth + 1) deepest (itemTokens items ++ rest) =
      nestingFrom depth (max deepest (depth + 1 + depthOfItems items))
        rest := by
  match items with
  | [] =>
      rw [itemTokens, depthOfItems, Nat.add_zero, Nat.max_eq_left within]
      rfl
  | item :: others =>
      have inner :=
        nestingFrom_tokens item (depth + 1) deepest within
          (itemTokens others ++ rest)
      have outer :=
        nestingFrom_itemTokens others depth
          (max deepest (depth + 1 + item.depth)) (by omega) rest
      rw [itemTokens, List.cons_append, List.append_assoc]
      refine inner.trans (outer.trans ?_)
      rw [depthOfItems]
      congr 1
      omega

/-- The tokens of fields leave their object as deep as the deepest of them. -/
theorem nestingFrom_fieldTokens
    (fields : List (Spelled × Json))
    (depth deepest : Nat)
    (within : depth + 1 ≤ deepest)
    (rest : List Token) :
    nestingFrom (depth + 1) deepest (fieldTokens fields ++ rest) =
      nestingFrom depth (max deepest (depth + 1 + depthOfFields fields))
        rest := by
  match fields with
  | [] =>
      rw [fieldTokens, depthOfFields, Nat.add_zero, Nat.max_eq_left within]
      rfl
  | (key, value) :: others =>
      have inner :=
        nestingFrom_tokens value (depth + 1) deepest within
          (fieldTokens others ++ rest)
      have outer :=
        nestingFrom_fieldTokens others depth
          (max deepest (depth + 1 + value.depth)) (by omega) rest
      rw [fieldTokens, List.cons_append, List.cons_append,
        List.cons_append, List.append_assoc]
      refine inner.trans (outer.trans ?_)
      rw [depthOfFields]
      congr 1
      omega

end

/-- A compact text of a value that is kept in full is read back. -/
theorem parseWhole?_compact
    {value : Json}
    (sound : IsSound value.tokens)
    (kept : value.tokens.all Token.isKept = true)
    (shallow : value.depth ≤ nestingLimit) :
    parseWhole? value.compact = some value := by
  have nesting := nestingFrom_tokens value 0 0 (Nat.le_refl _) []
  rw [List.append_nil] at nesting
  have within : nestingFrom 0 0 value.tokens ≤ nestingLimit := by
    rw [nesting, nestingFrom]
    simpa using shallow
  have isKept :
      (value.tokens.all Token.isKept &&
          nestingFrom 0 0 value.tokens ≤ nestingLimit) =
        true := by
    rw [kept, decide_eq_true within]
    rfl
  rw [parseWhole?, tokens?_compact sound]
  exact (if_pos isKept).trans (ofTokens?_tokens value)

end Json

end AssessmentChat
