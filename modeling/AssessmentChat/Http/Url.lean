import AssessmentChat.Http.Host

namespace AssessmentChat

/-!
# Addresses

An address is read leniently and written in one form: scheme and host in lower
case, the usual port left out, dots in the path resolved, and what may not stand
in it percent-encoded.
-/

/-- An address. -/
structure Url where
  scheme : String
  /-- The user name and the password that the address carries. -/
  credentials : Option (String × Option String) := none
  host : Option String := none
  port : Option Nat := none
  path : String
  query : Option String := none
  fragment : Option String := none
deriving Repr, DecidableEq

namespace Url

/-- The port that a scheme uses when an address has none. -/
def defaultPort? : String → Option Nat
  | "http" => some 80
  | "https" => some 443
  | "ws" => some 80
  | "wss" => some 443
  | "ftp" => some 21
  | _ => none

/-- Whether addresses of a scheme are those of the web, which need a host. -/
def isWebScheme (scheme : String) : Bool :=
  (defaultPort? scheme).isSome

/-- Whether an address names a host. -/
def hasHost (url : Url) : Bool :=
  url.host.any fun host => !host.isEmpty

/-- The text of an address without its credentials. -/
def text (url : Url) : String :=
  let authority :=
    match url.host with
    | some host =>
        "//" ++ host ++ (url.port.map fun port => s!":{port}").getD ""
    | none => ""
  url.scheme ++ ":" ++ authority ++ url.path ++
    (url.query.map ("?" ++ ·)).getD "" ++ (url.fragment.map ("#" ++ ·)).getD ""

/-- Whether an address can be sent: it has a limit, and some signs may not stand in a host. -/
def isSendable (url : Url) : Bool :=
  url.text.utf8ByteSize < 65535 &&
    (url.host.getD "").toList.all fun letter =>
      !(['"', '\x60', '\x7b', '\x7d'].contains letter)

/-! ## Reading -/

/-- The characters without control characters and spaces around them or breaks inside. -/
def cleaned (text : String) : List Char :=
  let isOuter (character : Char) : Bool := character.toNat ≤ 0x20
  let inner := (((text.toList.dropWhile isOuter).reverse).dropWhile isOuter).reverse
  inner.filter fun character => !(['\t', '\n', '\r'].contains character)

/-- The scheme of an address and what follows it; without one there is no address. -/
def scheme? (characters : List Char) : Option (String × List Char) :=
  let isPart (character : Char) : Bool :=
    character.isAlphanum || character = '+' || character = '-' || character = '.'
  match characters.takeWhile isPart, characters.dropWhile isPart with
  | first :: letters, ':' :: rest =>
      if first.isAlpha then some (String.ofList ((first :: letters).map Char.toLower), rest)
      else none
  | _, _ => none

/-- Whether a character separates the steps of a path. -/
def isSlash (isWeb : Bool) (character : Char) : Bool :=
  character = '/' || (isWeb && character = '\\')

/-- Whether a step of a path stays where it is. -/
def isSingleDot (step : String) : Bool :=
  [".", "%2e"].contains step.toLower

/-- Whether a step of a path goes up. -/
def isDoubleDot (step : String) : Bool :=
  ["..", ".%2e", "%2e.", "%2e%2e"].contains step.toLower

/-- The steps of a path after dots are resolved, after those resolved already, in reverse. -/
def resolved (done : List String) : List String → List String
  | [] => done.reverse
  | [last] =>
      if isDoubleDot last then ("" :: done.tail).reverse
      else if isSingleDot last then ("" :: done).reverse
      else (last :: done).reverse
  | step :: rest =>
      if isDoubleDot step then resolved done.tail rest
      else if isSingleDot step then resolved done rest
      else resolved (step :: done) rest

/-- The path of an address from the characters after its first slash. -/
def pathOf (isWeb : Bool) (characters : List Char) : String :=
  let steps := (Host.splitAt (isSlash isWeb) characters).map fun step =>
    String.ofList (Percent.encode Percent.inPath step)
  "/" ++ "/".intercalate (resolved [] steps)

/-- The query and the fragment that follow a path. -/
def tail (isWeb : Bool) (characters : List Char) : Option String × Option String :=
  let encodedFragment (characters : List Char) : Option String :=
    match characters with
    | '#' :: rest => some (String.ofList (Percent.encode Percent.inFragment rest))
    | _ => none
  match characters with
  | '?' :: rest =>
      let inQuery := if isWeb then Percent.inWebQuery else Percent.inQuery
      let query := rest.takeWhile (· ≠ '#')
      (some (String.ofList (Percent.encode inQuery query)),
        encodedFragment (rest.dropWhile (· ≠ '#')))
  | _ => (none, encodedFragment characters)

/-- Whether a character ends a path. -/
def endsPath (character : Char) : Bool :=
  character = '?' || character = '#'

/-- The characters before and after the last at sign. -/
def atLastAtSign (characters : List Char) : Option (List Char) × List Char :=
  let host := (characters.reverse.takeWhile (· ≠ '@')).reverse
  let before := (characters.reverse.dropWhile (· ≠ '@')).reverse
  if before.isEmpty then (none, host) else (some before.dropLast, host)

/-- The credentials that characters spell, if they are not empty. -/
def credentialsOf (characters : List Char) : Option (String × Option String) :=
  let written (characters : List Char) : String :=
    String.ofList (Percent.encode Percent.inUserInfo characters)
  let name := characters.takeWhile (· ≠ ':')
  let password := (characters.dropWhile (· ≠ ':')).drop 1
  if name.isEmpty && password.isEmpty then none
  else some (written name, if password.isEmpty then none else some (written password))

/-- The host and the port of characters, a colon inside brackets not being one. -/
def hostAndPort (characters : List Char) : List Char × List Char :=
  match characters with
  | '[' :: _ =>
      let host := characters.takeWhile (· ≠ ']')
      (host ++ (characters.drop host.length).take 1, characters.drop (host.length + 1))
  | _ => (characters.takeWhile (· ≠ ':'), characters.dropWhile (· ≠ ':'))

/-- The port of an authority: none when it is empty or the usual one. -/
def port? (scheme : String) : List Char → Option (Option Nat)
  | [] => some none
  | ':' :: digits =>
      if digits.isEmpty then some none
      else if digits.all Char.isDigit then do
        let port ← Host.valueInBase? 10 digits
        if port < 65536 then
          some (if defaultPort? scheme = some port then none else some port)
        else none
      else none
  | _ => none

/-- The address of an authority and of what follows it. -/
def ofAuthority? (international? : List Char → Option (List Char)) (scheme : String)
    (isWeb : Bool) (characters : List Char) : Option Url := do
  let endsAuthority (character : Char) : Bool := isSlash isWeb character || endsPath character
  let authority := characters.takeWhile (!endsAuthority ·)
  let rest := characters.dropWhile (!endsAuthority ·)
  let (userInfo, location) := atLastAtSign authority
  let (hostText, portText) := hostAndPort location
  let host ←
    if isWeb then Host.ofWeb? international? hostText else Host.ofOther? hostText
  let port ← port? scheme portText
  let steps := rest.takeWhile (!endsPath ·)
  let (query, fragment) := tail isWeb (rest.dropWhile (!endsPath ·))
  let path := if steps.isEmpty && !isWeb then "" else pathOf isWeb (steps.drop 1)
  return { scheme, credentials := userInfo.bind credentialsOf, host := some host, port, path,
           query, fragment }

/-- The address of characters that name no host. -/
def withoutHost (scheme : String) (characters : List Char) : Url :=
  let path := characters.takeWhile (!endsPath ·)
  let (query, fragment) := tail false (characters.dropWhile (!endsPath ·))
  match path with
  | '/' :: steps => { scheme, path := pathOf false steps, query, fragment }
  | _ =>
      { scheme, path := String.ofList (Percent.encode Percent.inOpaque path), query, fragment }

/-- The address that a text spells, given the rules for names of hosts in other scripts. -/
def parse? (international? : List Char → Option (List Char)) (text : String) : Option Url := do
  let (scheme, rest) ← scheme? (cleaned text)
  if isWebScheme scheme then
    ofAuthority? international? scheme true (rest.dropWhile (isSlash true))
  else
    match rest with
    | '/' :: '/' :: authority => ofAuthority? international? scheme false authority
    | _ => some (withoutHost scheme rest)

end Url

end AssessmentChat
