import LiveTabs.Text.Utf8
import LiveTabs.Url.Label
import LiveTabs.Url.Numeric

/-!
# Domain names

The name of a host may hold characters beyond ASCII, either as they are, as percent signs with two
hexadecimal digits for each byte, or as labels in Punycode. The name is folded and composed; what
cannot be part of a name after that makes it invalid. A name whose last label is a number has to be
an IPv4 address.
-/

namespace LiveTabs.Url

open Text (pieces)

/-- Whether a character of ASCII is one that no name holds. -/
def isReserved (character : Char) : Bool :=
  character ≤ ' ' || character = '\x7f' || "%#/:<>?@[\\]^|".toList.contains character

/-- The bytes of a host, where a percent sign and two hexadecimal digits stand for one byte. -/
def percentDecode : List Char → List UInt8
  | '%' :: high :: low :: rest =>
    match Text.digit? 16 high, Text.digit? 16 low with
    | some high, some low => (high * 16 + low).toUInt8 :: percentDecode rest
    | _, _ => Text.Utf8.encodeChar '%' ++ percentDecode (high :: low :: rest)
  | character :: rest => Text.Utf8.encodeChar character ++ percentDecode rest
  | [] => []

/-- The folded form of a host, if it has one. -/
def foldHost (host : List Char) : Option (List Char) :=
  let characters := (Text.Utf8.decode (percentDecode host)).toList
  ((characters.mapM fold).map fun folded => Text.compose folded.flatten).filter fun folded =>
    !folded.any isReserved

/-- Whether a host is a domain name or an IPv4 address. -/
def isDomain (host : List Char) : Bool :=
  match foldHost host with
  | some folded =>
    !folded.isEmpty && areLabels (pieces '.' folded) && (!endsInNumber folded || isIpv4 folded)
  | none => false

end LiveTabs.Url
