import LiveTabs.Config
import LiveTabs.Relay.Message

/-!
# Relays

A relay posts the notices of one tab on the channel between the tabs and takes in those of others.
The channel may bring a message back to its sender, so a relay drops what its own tab posted. A host
without a channel has a relay that posts and takes in nothing.
-/

namespace LiveTabs

/-- The connection of a tab to the channel. -/
structure Relay where
  sender : String
  /-- Whether there is a channel. -/
  hasChannel : Bool
deriving DecidableEq

namespace Relay

/-- Sets up a relay. The sender has to have an id that is not blank. -/
def create (sender : String) (hasChannel : Bool) : Except SetupError Relay :=
  if Text.isBlank sender then .error (.missingIdentity .blankSender) else .ok { sender, hasChannel }

/-- The message by which a notice is posted, if there is a channel. -/
def post (relay : Relay) (notice : Notice) (now : Instant) : Option Message :=
  if relay.hasChannel then some ⟨notice, relay.sender, now⟩ else none

/-- The notice of a lost connection: whole milliseconds, within 64 bits. -/
def warning (disconnectedFor : Duration) : Notice :=
  .warning (min disconnectedFor.milliseconds (Nat.pow 2 64 - 1))

/-- Takes in a message of another tab. -/
def receive (relay : Relay) (message : Message) : Option Message :=
  if relay.hasChannel ∧ message.sender ≠ relay.sender then some message else none

end Relay

end LiveTabs
