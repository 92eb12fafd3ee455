import LiveTabs.Url.Domain

/-!
# Addresses

Which texts are absolute addresses. An address begins with a scheme. Under the schemes of the web a
host has to follow, with as many slashes and backslashes before it as there may be; a file may have
a host; under any other scheme a host follows two slashes, and it need not be a name. A user may
stand before a host and a number after it. All that comes later may be anything.

Control characters and blanks around an address do not count, nor do tabs and line ends within.
-/

namespace LiveTabs.Url

/-- What a scheme demands of the rest of an address. -/
inductive SchemeKind where
  /-- A host is required. -/
  | web
  /-- A host is possible. -/
  | file
  /-- Anything may follow. -/
  | other
deriving DecidableEq

/-- The kind of a scheme in lower case. -/
def SchemeKind.of (scheme : String) : SchemeKind :=
  if ["http", "https", "ws", "wss", "ftp"].contains scheme then .web
  else if scheme = "file" then .file
  else .other

/-- The characters that count nowhere in an address. -/
def ignored : List Char := ['\t', '\n', '\r']

/-- An address without what does not count in it. -/
def strip (text : List Char) : List Char :=
  let isMargin (character : Char) := character ≤ ' '
  let inner := ((text.dropWhile isMargin).reverse.dropWhile isMargin).reverse
  inner.filter fun character => !ignored.contains character

/-- Whether a character can be part of a scheme after the first. -/
def isSchemeChar (character : Char) : Bool :=
  character.isAlphanum || ['+', '-', '.'].contains character

/-- The scheme of an address in lower case, and what follows its colon. -/
def splitScheme (text : List Char) : Option (String × List Char) :=
  let scheme := text.takeWhile isSchemeChar
  match scheme, text.dropWhile isSchemeChar with
  | first :: _, ':' :: rest =>
    if first.isAlpha then some (String.ofList (scheme.map Char.toLower), rest) else none
  | _, _ => none

/-- Whether a character is a slash, of which the schemes of the web and of files know two. -/
def isSlash (character : Char) : Bool := character = '/' || character = '\\'

/-- Whether a character ends the part of an address with the host. -/
def endsAuthority (kind : SchemeKind) (character : Char) : Bool :=
  ['/', '?', '#'].contains character || (kind != .other && character = '\\')

/-- The user before the last at sign, if there is one, and what follows it. -/
def splitUser (authority : List Char) : Option (List Char) × List Char :=
  let host := (authority.reverse.takeWhile (· != '@')).reverse
  if host.length = authority.length then (none, authority)
  else (some (authority.take (authority.length - host.length - 1)), host)

/-- The host before its colon, and what follows from the colon on. A colon in brackets belongs to
the host. -/
def splitHost (inBrackets : Bool) : List Char → List Char × List Char
  | [] => ([], [])
  | character :: rest =>
    if character = ':' ∧ ¬inBrackets then ([], character :: rest)
    else
      let inside := character = '[' || (inBrackets && character != ']')
      let (host, after) := splitHost inside rest
      (character :: host, after)

/-- Whether a text is a colon with the number of a service on the host, which fits two bytes. The
digits may be missing. -/
def isService : List Char → Bool
  | [] => true
  | _ :: service =>
    let digits := service.takeWhile Char.isDigit
    let after := service.dropWhile Char.isDigit
    (digits.isEmpty || (Text.number? 10 digits).any (· < 65536)) &&
      (after.isEmpty || after.head? = some '\\')

/-- Whether a text is an IPv6 address in brackets. -/
def isBracketed (host : List Char) : Bool :=
  host.getLast? = some ']' && isIpv6 (host.drop 1).dropLast

/-- Whether a host of the web or of a file is valid. -/
def isHost (host : List Char) : Bool :=
  if host.head? = some '[' then isBracketed host else isDomain host

/-- Whether a host under another scheme is valid: it is any text without a few characters. -/
def isOpaqueHost (host : List Char) : Bool :=
  if host.head? = some '[' then isBracketed host
  else !host.any fun character =>
    ['\x00', '\t', '\n', '\r', ' ', '#', '/', ':', '<', '>', '?', '@', '[', '\\', ']', '^',
      '|'].contains
      character

/-- Whether the part of an address with the host is valid. Without a host there is no service, and
no user beyond the signs that would stand around one. -/
def isAuthority (kind : SchemeKind) (rest : List Char) : Bool :=
  let authority := rest.takeWhile fun character => !endsAuthority kind character
  let isLast := authority.length = rest.length
  let (user, hostAndService) := splitUser authority
  let (host, service) := splitHost false hostAndService
  let lacksHost := user = some [] && hostAndService.isEmpty && !isLast
  if lacksHost then false
  else if host.isEmpty then
    kind = .other && service.isEmpty && (user.getD []).all (· = ':') && (user.getD []).length ≤ 1
  else (if kind = .other then isOpaqueHost host else isHost host) && isService service

/-- Whether a text is the letter of a drive with its mark. -/
def isDrive : List Char → Bool
  | [letter, mark] => letter.isAlpha && (mark = ':' || mark = '|')
  | _ => false

/-- Whether what follows the scheme of a file is valid. -/
def isFile : List Char → Bool
  | first :: second :: rest =>
    if isSlash first && isSlash second then
      let host := rest.takeWhile fun character => !endsAuthority .file character
      host.isEmpty || isDrive host || isHost host
    else true
  | _ => true

/-- Whether a text is an absolute address. -/
def isAbsolute (text : String) : Bool :=
  match splitScheme (strip text.toList) with
  | none => false
  | some (scheme, rest) =>
    match SchemeKind.of scheme with
    | .web => isAuthority .web (rest.dropWhile isSlash)
    | .file => isFile rest
    | .other =>
      match rest with
      | '/' :: '/' :: authority => isAuthority .other authority
      | _ => true

end LiveTabs.Url
