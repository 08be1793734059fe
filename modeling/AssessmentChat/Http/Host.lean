import AssessmentChat.Http.Percent
import AssessmentChat.Text.Utf8

namespace AssessmentChat.Host

/-!
# Hosts

The host of an address on the web is a name, a number in dots or a number in
brackets.  Each is brought into the one form in which it is written.
-/

/-! ## Splitting -/

/-- The pieces of characters between separators. -/
def splitAt (isSeparator : Char → Bool) : List Char → List (List Char)
  | [] => [[]]
  | character :: rest =>
      if isSeparator character then [] :: splitAt isSeparator rest
      else
        match splitAt isSeparator rest with
        | piece :: pieces => (character :: piece) :: pieces
        | [] => [[character]]

/-- The value of digits in a base, if they are digits of it. -/
def valueInBase? (base : Nat) (digits : List Char) : Option Nat :=
  digits.foldlM (fun value digit =>
    match Percent.hexValue? digit with
    | some digit => if digit < base then some (value * base + digit) else none
    | none => none) 0

/-! ## Numbers in dots -/

/-- The number of one part: hexadecimal after `0x`, octal after another zero. -/
def dottedPart? : List Char → Option Nat
  | [] => none
  | '0' :: 'x' :: digits => valueInBase? 16 digits
  | '0' :: 'X' :: digits => valueInBase? 16 digits
  | '0' :: digit :: digits => valueInBase? 8 (digit :: digits)
  | digits => valueInBase? 10 digits

/-- The parts of a name, a final dot aside. -/
def labels (characters : List Char) : List (List Char) :=
  let parts := splitAt (· = '.') characters
  if parts.length > 1 && parts.getLast? = some [] then parts.dropLast else parts

/-- Whether a name means a number: its last part does. -/
def endsInNumber (characters : List Char) : Bool :=
  match (labels characters).getLast? with
  | some last =>
      (!last.isEmpty && last.all Char.isDigit) ||
        ((last.take 2 = ['0', 'x'] || last.take 2 = ['0', 'X']) && (dottedPart? last).isSome)
  | none => false

/-- A number of 32 bits as four numbers of eight. -/
def fourParts (value : Nat) : List Nat :=
  [value / 16777216, value / 65536 % 256, value / 256 % 256, value % 256]

/-- The number of at most four parts; the last one fills what the others leave. -/
def dottedValue? (characters : List Char) : Option Nat := do
  let parts ← (labels characters).mapM dottedPart?
  let last ← parts.getLast?
  let front := parts.dropLast
  if parts.length ≤ 4 ∧ front.all (· < 256) ∧ last < Nat.pow 256 (5 - parts.length) then
    let placed (value : Nat) (place : Nat × Nat) := value + place.1 * Nat.pow 256 (3 - place.2)
    some (front.zipIdx.foldl placed last)
  else none

/-- A number in dots. -/
def dotted (value : Nat) : String :=
  ".".intercalate ((fourParts value).map toString)

/-! ## Numbers in brackets -/

/-- The groups of sixteen bits that characters spell, the last two perhaps in dots. -/
def groups? (characters : List Char) : Option (List Nat) :=
  if characters.isEmpty then some []
  else
    let pieces := splitAt (· = ':') characters
    let group? (piece : List Char) : Option Nat :=
      if 1 ≤ piece.length ∧ piece.length ≤ 4 then valueInBase? 16 piece else none
    match pieces.getLast? with
    | some last =>
        if last.contains '.' then do
          let front ← pieces.dropLast.mapM group?
          let parts := splitAt (· = '.') last
          let bytes ← parts.mapM fun part =>
            if part.length > 1 && part.head? = some '0' then none else
              if part.isEmpty then none else valueInBase? 10 part
          if bytes.length = 4 ∧ bytes.all (· < 256) then
            let value := bytes.foldl (fun value byte => value * 256 + byte) 0
            some (front ++ [value / 65536, value % 65536])
          else none
        else pieces.mapM group?
    | none => none

/-- The characters before and after the first double colon. -/
def atDoubleColon? (before : List Char) : List Char → Option (List Char × List Char)
  | ':' :: ':' :: rest => some (before.reverse, rest)
  | character :: rest => atDoubleColon? (character :: before) rest
  | [] => none

/-- The eight groups that characters spell; a double colon stands for one zero or more. -/
def eightGroups? (characters : List Char) : Option (List Nat) := do
  match atDoubleColon? [] characters with
  | some (before, after) =>
      let front ← groups? before
      let back ← groups? after
      if front.length + back.length < 8 ∧ !before.contains '.' then
        some (front ++ List.replicate (8 - front.length - back.length) 0 ++ back)
      else none
  | none =>
      let groups ← groups? characters
      if groups.length = 8 then some groups else none

/-- The length of the run of zeros at each place. -/
def zeroRuns : List Nat → List Nat
  | [] => []
  | group :: rest =>
      let runs := zeroRuns rest
      (if group = 0 then runs.headD 0 + 1 else 0) :: runs

/-- The lower-case hexadecimal digits of a number. -/
def hexadecimal (value : Nat) : String :=
  String.ofList (Nat.toDigits 16 value)

/-- A number in brackets; the first of the longest runs of zeros is written as a double colon. -/
def bracketed (groups : List Nat) : String :=
  let runs := zeroRuns groups
  let longest := runs.foldl max 0
  let written (groups : List Nat) : String := ":".intercalate (groups.map hexadecimal)
  if longest < 2 then "[" ++ written groups ++ "]"
  else
    let start := runs.idxOf longest
    "[" ++ written (groups.take start) ++ "::" ++ written (groups.drop (start + longest)) ++ "]"

/-! ## Names -/

/-- Whether a character may not stand in a host. -/
def isForbidden (character : Char) : Bool :=
  character.toNat = 0 ||
    ['\t', '\n', '\r', ' ', '#', '/', ':', '<', '>', '?', '@', '[', '\\', ']', '^', '|'].contains
      character

/-- Whether a character may not stand in a name. -/
def isForbiddenInName (character : Char) : Bool :=
  isForbidden character || character.toNat < 0x20 || character = '%' || character.toNat = 0x7F

/-- A letter or digit of a number in base thirty-six. -/
def digit36 (value : Nat) : Char :=
  if value < 26 then Char.ofNat (97 + value) else Char.ofNat (22 + value)

/-- The least digit that ends a number, at its place and for the present bias. -/
def threshold (place bias : Nat) : Nat :=
  min 26 (max 1 (place - bias))

/-- The digits of a number whose places count as the bias has it, in at most `steps` digits. -/
def variableDigits (bias : Nat) : Nat → Nat → Nat → List Char
  | 0, _, _ => []
  | steps + 1, place, value =>
      let least := threshold place bias
      if value < least then [digit36 value]
      else
        digit36 (least + (value - least) % (36 - least)) ::
          variableDigits bias steps (place + 36) ((value - least) / (36 - least))

/-- Divides a distance until it is small, counting the places, in at most `steps` divisions. -/
def settleBias : Nat → Nat → Nat → Nat
  | 0, place, _ => place
  | steps + 1, place, distance =>
      if distance > 455 then settleBias steps (place + 36) (distance / 35)
      else place + 36 * distance / (distance + 38)

/-- The bias after a distance was written, with so many characters written in all. -/
def nextBias (distance written : Nat) (isFirst : Bool) : Nat :=
  let scaled := if isFirst then distance / 700 else distance / 2
  let distance := scaled + scaled / written
  settleBias distance 0 distance

/-- How far the letters of other scripts have been written. -/
structure Lettering where
  output : List Char
  bias : Nat := 72
  distance : Nat := 0
  written : Nat
  isFirst : Bool := true

/-- Writes one code point wherever it stands; smaller ones only lengthen the distance. -/
def writePoint (point : Nat) (label : List Char) (lettering : Lettering) : Lettering :=
  label.foldl (fun lettering character =>
    if character.toNat < point then { lettering with distance := lettering.distance + 1 }
    else if character.toNat = point then
      { output :=
          lettering.output ++
            variableDigits lettering.bias (lettering.distance + 1) 36 lettering.distance
        bias := nextBias lettering.distance (lettering.written + 1) lettering.isFirst
        distance := 0
        written := lettering.written + 1
        isFirst := false }
    else lettering) lettering

/-- A part of a name in ASCII: the ASCII letters first, then where the others stand. -/
def asciiLabel (label : List Char) : List Char :=
  let isAscii (character : Char) : Bool := character.toNat < 0x80
  if label.all isAscii then label
  else
    let basic := label.filter isAscii
    let points := (((label.filter (!isAscii ·)).map Char.toNat).mergeSort
      fun left right => decide (left ≤ right)).eraseDups
    let start : Lettering :=
      { output := if basic.isEmpty then [] else basic ++ ['-'], written := basic.length }
    let (_, lettering) := points.foldl (fun (previous, lettering) point =>
      let gap := (point - previous) * (lettering.written + 1)
      let written :=
        writePoint point label { lettering with distance := lettering.distance + gap }
      (point + 1, { written with distance := written.distance + 1 })) (0x80, start)
    "xn--".toList ++ lettering.output

/-- A name in lower case and in ASCII, its letters of other scripts not mapped or checked. -/
def punycodeName (characters : List Char) : List Char :=
  ['.'].intercalate ((splitAt (· = '.') characters).map fun label =>
    asciiLabel (label.map Char.toLower))

/-- Whether a part of a name has letters of other scripts, or is written as if it had. -/
def isInternational (label : List Char) : Bool :=
  label.any (0x80 ≤ ·.toNat) || (label.take 4).map Char.toLower = ['x', 'n', '-', '-']

/-- The name of a host in ASCII and in lower case; other scripts have rules of their own. -/
def asciiName? (international? : List Char → Option (List Char)) (characters : List Char) :
    Option (List Char) :=
  if (splitAt (· = '.') characters).any isInternational then international? characters
  else some (characters.map Char.toLower)

/-! ## Hosts -/

/-- The host that characters spell in an address on the web. -/
def ofWeb? (international? : List Char → Option (List Char)) (characters : List Char) :
    Option String :=
  match characters with
  | '[' :: rest =>
      if rest.getLast? = some ']' then (eightGroups? rest.dropLast).map bracketed else none
  | _ => do
      let name ← asciiName? international? (Utf8.decode (Percent.decode characters)).toList
      if name.isEmpty || name.any isForbiddenInName then none
      else if endsInNumber name then (dottedValue? name).map dotted
      else some (String.ofList name)

/-- The host that characters spell in any other address. -/
def ofOther? (characters : List Char) : Option String :=
  match characters with
  | '[' :: rest =>
      if rest.getLast? = some ']' then (eightGroups? rest.dropLast).map bracketed else none
  | _ =>
      if characters.any isForbidden then none
      else some (String.ofList (Percent.encode Percent.inOpaque characters))

end AssessmentChat.Host
