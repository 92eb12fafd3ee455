import LiveTabs.Text.Digits
import LiveTabs.Text.Pieces

/-!
# Numeric hosts

An IPv4 address has up to four parts, each in decimal, in octal after a zero, or in hexadecimal
after `0x`; the last part fills the bytes that the others leave. An IPv6 address has eight groups of
hexadecimal digits; a double colon stands for groups that are missing, and four decimal bytes may
stand for the last two groups.
-/

namespace LiveTabs.Url

open Text (pieces)

/-- The number that a part of an IPv4 address writes. -/
def readPart (part : List Char) : Option Nat :=
  match part with
  | '0' :: letter :: digits =>
    if letter = 'x' ∨ letter = 'X' then
      if digits.isEmpty then some 0 else Text.number? 16 digits
    else Text.number? 8 (letter :: digits)
  | _ => Text.number? 10 part

/-- The parts of a host between points; a point at the end does not count. -/
def hostParts (host : List Char) : List (List Char) :=
  let parts := pieces '.' host
  if parts.getLast? = some [] then parts.dropLast else parts

/-- Whether a host can only be an IPv4 address, since its last part is a number. -/
def endsInNumber (host : List Char) : Bool :=
  match (hostParts host).getLast? with
  | some part => (readPart part).isSome || (Text.number? 10 part).isSome
  | none => false

/-- Whether a host is an IPv4 address. -/
def isIpv4 (host : List Char) : Bool :=
  match (hostParts host).mapM readPart with
  | some numbers =>
    numbers.length ≤ 4 && numbers.dropLast.all (· < 256) &&
      numbers.getLast?.all (· < Nat.pow 256 (5 - numbers.length))
  | none => false

/-- Whether a text is a group of an IPv6 address. -/
def isGroup (piece : List Char) : Bool := piece.length ≤ 4 && (Text.number? 16 piece).isSome

/-- Whether a text is a byte in decimal without a leading zero. -/
def isByte (part : List Char) : Bool :=
  (Text.number? 10 part).any (· < 256) && (part.length = 1 || part.head? != some '0')

/-- Whether a text is four bytes with points between them. -/
def isQuad (piece : List Char) : Bool :=
  let parts := pieces '.' piece
  parts.length = 4 && parts.all isByte

/-- How many groups the pieces of an IPv6 address stand for. Four bytes may stand at its end
only. -/
def countGroups (mayEndInQuad : Bool) : List (List Char) → Option Nat
  | [] => some 0
  | [last] =>
    if isGroup last then some 1 else if mayEndInQuad && isQuad last then some 2 else none
  | piece :: rest =>
    if isGroup piece then (countGroups mayEndInQuad rest).map (· + 1) else none

/-- How many groups a part of an IPv6 address stands for; it may be empty. -/
def groupsOf (mayEndInQuad : Bool) (text : List Char) : Option Nat :=
  countGroups mayEndInQuad (if text.isEmpty then [] else pieces ':' text)

/-- What lies before and after the first double colon. -/
def splitAtGap : List Char → Option (List Char × List Char)
  | ':' :: ':' :: rest => some ([], rest)
  | character :: rest => (splitAtGap rest).map fun (left, right) => (character :: left, right)
  | [] => none

/-- Whether a text is an IPv6 address. -/
def isIpv6 (text : List Char) : Bool :=
  match splitAtGap text with
  | none => groupsOf true text = some 8
  | some (left, right) =>
    match groupsOf false left, groupsOf true right with
    | some before, some after => before + after ≤ 7
    | _, _ => false

end LiveTabs.Url
