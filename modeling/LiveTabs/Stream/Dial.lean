import LiveTabs.Stream.State
import LiveTabs.Url

/-!
# Dialling an address

Before a connection is on its way, dialling it can fail in two ways: the host has no network at all,
or the address is no absolute address.
-/

namespace LiveTabs

/-- The line from a host to an address. -/
def Line.to (hasNetwork : Bool) (url : String) : Line :=
  { supported := hasNetwork, accepting := Url.isAbsolute url }

/-- Why a connection is not on its way. -/
inductive DialError where
  | unsupported
  | refused
deriving DecidableEq

/-- The description of a failed attempt for the user. -/
def DialError.message : DialError → String
  | .unsupported => "Transport not supported in this environment"
  | .refused => "Connection failed"

/-- Dials over a line. -/
def Line.dial (line : Line) : Except DialError Unit :=
  if !line.supported then .error .unsupported
  else if !line.accepting then .error .refused
  else .ok ()

end LiveTabs
