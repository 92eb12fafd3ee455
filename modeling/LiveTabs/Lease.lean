import LiveTabs.Json.Field
import LiveTabs.Json.Printer
import LiveTabs.Storage.Access
import LiveTabs.Time

/-!
# Leases

The tab that leads keeps a lease in the shared storage: who holds it and when it was last taken or
renewed. A lease is stale when more time than its time to live has passed since then. On the wire
the time is a whole number of milliseconds, so a lease that is read back may be a little older than
the one that was written, and never younger. Text that is no lease counts as none.
-/

namespace LiveTabs

/-- A tab either leads or follows. -/
inductive Role where
  | leader
  | follower
deriving DecidableEq

/-- The name of a role for the user. -/
def Role.name : Role → String
  | .leader => "leader"
  | .follower => "follower"

/-- The role with a given name. -/
def Role.ofName? (name : String) : Option Role :=
  [Role.leader, Role.follower].find? fun role => role.name == name

/-- A lease: its holder and when it was taken or last renewed. -/
structure Lease where
  owner : String
  acquiredAt : Instant
deriving DecidableEq

namespace Lease

/-- Whether the lease is older than its time to live. -/
def isStale (lease : Lease) (now : Instant) (ttl : Duration) : Bool :=
  decide (ttl < Instant.elapsed lease.acquiredAt now)

/-- Whether a tab holds the lease. -/
def isOwnedBy (lease : Lease) (tabId : String) : Bool := lease.owner == tabId

/-- A lease as a value. -/
def toValue (lease : Lease) : Json.Value :=
  .object [
    ("ownerId", .text lease.owner),
    ("acquiredAt", .number (.integer lease.acquiredAt.milliseconds))]

/-- A lease as it is stored. -/
def render (lease : Lease) : String := lease.toValue.render

/-- Reads a lease. -/
def ofDocument (document : Json.Document) : Option Lease := do
  match ← document.fields ["ownerId", "acquiredAt"] with
  | [owner, acquiredAt] =>
    let owner ← Json.Document.required Json.Document.text? owner
    let milliseconds ← Json.Document.required Json.Document.integer? acquiredAt
    let acquiredAt ← Instant.ofMilliseconds? milliseconds
    some ⟨owner, acquiredAt⟩
  | _ => none

/-- The lease that a stored text says. -/
def ofText (text : String) : Option Lease := (Json.Document.ofText text).bind ofDocument

/-- The call that reads the lease under a key. Text that is no lease is read as none. -/
def read (key : String) : Access (Except StorageError (Option Lease)) := do
  match ← Access.getItem key with
  | .ok text => pure (.ok (text.bind ofText))
  | .error error => pure (.error error)

/-- The call that puts a lease under a key. -/
def write (key : String) (lease : Lease) : Access (Except StorageError Unit) :=
  Access.setItem key lease.render

/-- The call that removes the lease under a key. -/
def clear (key : String) : Access (Except StorageError Unit) := Access.removeItem key

end Lease

end LiveTabs
