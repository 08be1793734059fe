import AssessmentChat.Json.Token
import AssessmentChat.Text.Number

namespace AssessmentChat.Json

/-!
# JSON texts as values

A value is laid out as tokens, and tokens are gathered back into a value by one
pass that keeps the containers still open.  Reading a text this way knows no
limit of nesting; a value that is kept in full has one.
-/

/-! ## Laying out -/

mutual

/-- The tokens of a value, without spaces between them. -/
def tokens : Json → List Token
  | .null => [.null]
  | .bool value => [.bool value]
  | .number literal => [.number literal]
  | .string spelled => [.string spelled]
  | .array [] => [.openArray, .closeArray]
  | .array (first :: rest) => .openArray :: (first.tokens ++ itemTokens rest)
  | .object [] => [.openObject, .closeObject]
  | .object ((key, value) :: rest) =>
      .openObject :: .string key :: .colon :: (value.tokens ++ fieldTokens rest)

/-- The tokens of the items after the first, with the end of their array. -/
def itemTokens : List Json → List Token
  | [] => [.closeArray]
  | item :: rest => .comma :: (item.tokens ++ itemTokens rest)

/-- The tokens of the fields after the first, with the end of their object. -/
def fieldTokens : List (Spelled × Json) → List Token
  | [] => [.closeObject]
  | (key, value) :: rest =>
      .comma :: .string key :: .colon :: (value.tokens ++ fieldTokens rest)

end

/-- The compact text of a value. -/
def compact (value : Json) : String :=
  String.ofList (value.tokens.flatMap Token.spelling)

/-! ## Gathering -/

/-- A container that is still open, holding its contents so far, the latest first. -/
inductive Frame
  | array (items : List Json)
  | object (fields : List (Spelled × Json)) (key : Spelled)
deriving Repr

/-- How much of a value has been gathered, by what may follow. -/
inductive Gathering
  | awaitingValue (frames : List Frame)
  | awaitingFirstItem (frames : List Frame)
  | awaitingFirstKey (frames : List Frame)
  | awaitingKey (fields : List (Spelled × Json)) (frames : List Frame)
  | awaitingColon (fields : List (Spelled × Json)) (key : Spelled) (frames : List Frame)
  | complete (value : Json) (frames : List Frame)
deriving Repr

namespace Gathering

/-- The first token of a value. -/
def beginValue? (frames : List Frame) : Token → Option Gathering
  | .null => some (.complete .null frames)
  | .bool value => some (.complete (.bool value) frames)
  | .number literal => some (.complete (.number literal) frames)
  | .string spelled => some (.complete (.string spelled) frames)
  | .openArray => some (.awaitingFirstItem frames)
  | .openObject => some (.awaitingFirstKey frames)
  | _ => none

/-- The token after a value inside a container. -/
def continue? (value : Json) (frames : List Frame) : Frame → Token → Option Gathering
  | .array items, .comma => some (.awaitingValue (.array (value :: items) :: frames))
  | .array items, .closeArray =>
      some (.complete (.array (value :: items).reverse) frames)
  | .object fields key, .comma => some (.awaitingKey ((key, value) :: fields) frames)
  | .object fields key, .closeObject =>
      some (.complete (.object ((key, value) :: fields).reverse) frames)
  | _, _ => none

/-- The gathering after one more token; there is none when the token cannot follow. -/
def next? : Gathering → Token → Option Gathering
  | .awaitingValue frames, token => beginValue? frames token
  | .awaitingFirstItem frames, .closeArray => some (.complete (.array []) frames)
  | .awaitingFirstItem frames, token => beginValue? (.array [] :: frames) token
  | .awaitingFirstKey frames, .closeObject => some (.complete (.object []) frames)
  | .awaitingFirstKey frames, .string key => some (.awaitingColon [] key frames)
  | .awaitingKey fields frames, .string key => some (.awaitingColon fields key frames)
  | .awaitingColon fields key frames, .colon =>
      some (.awaitingValue (.object fields key :: frames))
  | .complete value (frame :: frames), token => continue? value frames frame token
  | _, _ => none

/-- The value that a gathering has completed. -/
def result? : Gathering → Option Json
  | .complete value [] => some value
  | _ => none

end Gathering

/-- The value that tokens lay out. -/
def ofTokens? (tokens : List Token) : Option Json := do
  let gathered ← tokens.foldlM Gathering.next? (.awaitingValue [])
  gathered.result?

/-- The value of a text, however deep its containers nest. -/
def parse? (text : String) : Option Json := do
  ofTokens? (← tokens? text)

/--
The text of a run of bytes.  Bytes that are no text are replaced, so that a
string that holds them spells none and nothing else can hold them.
-/
def readable (run : List UInt8) : String :=
  (String.fromUTF8? ⟨run.toArray⟩).getD "\ufffd\\udc00"

/-- The value of bytes, of which those inside a string need not be text. -/
def ofBytes? (bytes : ByteArray) : Option Json :=
  match String.fromUTF8? bytes with
  | some text => parse? text
  | none =>
      let runs := bytes.data.toList.splitBy fun byte next => (byte < 0x80) == (next < 0x80)
      parse? (String.join (runs.map readable))

/-! ## Values kept in full -/

/-- How deep containers nest, given the depth reached and the greatest depth so far. -/
def nestingFrom (depth deepest : Nat) : List Token → Nat
  | [] => deepest
  | .openArray :: rest => nestingFrom (depth + 1) (max deepest (depth + 1)) rest
  | .openObject :: rest => nestingFrom (depth + 1) (max deepest (depth + 1)) rest
  | .closeArray :: rest => nestingFrom (depth - 1) deepest rest
  | .closeObject :: rest => nestingFrom (depth - 1) deepest rest
  | _ :: rest => nestingFrom depth deepest rest

/-- The greatest number of containers that may be open at once. -/
def nestingLimit : Nat := 127

/-- The digits of a number as written, without sign, point and exponent. -/
def significantDigits (literal : List Char) : List Char :=
  ((unsigned literal).takeWhile fun character => character != 'e' && character != 'E').filter
    Char.isDigit

/-- How many digits stand behind the point of a number. -/
def fractionLength (literal : List Char) : Nat :=
  ((literal.dropWhile (· != '.')).drop 1).takeWhile Char.isDigit |>.length

/-- The power of ten that the exponent of a number names. -/
def exponentOf (literal : List Char) : Int :=
  match (literal.dropWhile fun character => character != 'e' && character != 'E').drop 1 with
  | '-' :: digits => -(decimalValue digits)
  | '+' :: digits => decimalValue digits
  | digits => decimalValue digits

/-- The least magnitude that rounds to no finite double-precision number. -/
def overflowThreshold : Nat :=
  Nat.pow 2 1024 - Nat.pow 2 970

/--
Whether a number is within the range of double precision.  Its digits are
compared with the threshold only when its order of magnitude leaves it open.
-/
def isFinite (literal : List Char) : Bool :=
  let digits := (significantDigits literal).dropWhile (· == '0')
  let scale := exponentOf literal - fractionLength literal
  let magnitude := digits.length + scale
  if digits.isEmpty || magnitude < 300 then true
  else if magnitude > 400 then false
  else if 0 ≤ scale then decimalValue digits * Nat.pow 10 scale.toNat < overflowThreshold
  else decimalValue digits < overflowThreshold * Nat.pow 10 (-scale).toNat

/-- Whether a token can be kept: its string spells a text, its number is finite. -/
def Token.isKept : Token → Bool
  | .string none => false
  | .number literal => isFinite literal.toList
  | _ => true

/--
The value of a text that is kept in full: every string spells a text, every
number is finite, and no more than `nestingLimit` containers are open at once.
-/
def parseWhole? (text : String) : Option Json := do
  let found ← tokens? text
  if found.all Token.isKept && nestingFrom 0 0 found ≤ nestingLimit then ofTokens? found
  else none

end AssessmentChat.Json
