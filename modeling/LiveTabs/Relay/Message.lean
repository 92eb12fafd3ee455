import LiveTabs.Issue.Wire
import LiveTabs.Stream.State

/-!
# Messages between tabs

What the leading tab tells the others on the channel, and what a new follower asks. Every message
names its sender and the time it was posted. On the wire the kind of a message stands beside its
content; a field that belongs to no part of a message is ignored, but has to be one that could be
kept.
-/

namespace LiveTabs

/-- The content of a message. -/
inductive Notice where
  /-- A window of events was closed. -/
  | update (batch : Batch)
  /-- The connection changed its state. -/
  | state (state : StreamState)
  /-- An issue was deleted; a batch will follow. -/
  | deleted (event : IssueEvent)
  /-- The connection has been lost for this many milliseconds. -/
  | warning (disconnectedForMs : Nat)
  /-- A new follower asks for the state of the connection. -/
  | sync

/-- The name of the kind of a message. -/
def Notice.kind : Notice → String
  | .update _ => "update"
  | .state _ => "state"
  | .deleted _ => "deleted"
  | .warning _ => "warning"
  | .sync => "sync"

/-- A message on the channel. -/
structure Message where
  notice : Notice
  sender : String
  timestamp : Instant

namespace StreamState

/-- Reads a state by its name. -/
def ofDocument (document : Json.Document) : Option StreamState := document.choice?.bind ofName?

end StreamState

namespace Notice

/-- The members that tell the kind and the content of a message. -/
def members (notice : Notice) : List (String × Json.Value) :=
  ("type", .text notice.kind) ::
    match notice with
    | .update content => [("batch", content.toValue)]
    | .state content => [("state", .text content.name)]
    | .deleted content => [("event", content.toValue)]
    | .warning count => [("disconnectedForMs", .number (.integer count))]
    | .sync => []

/-- The kinds of messages in their order; a message may give the place of its kind for its name. -/
def kinds : List String := ["update", "state", "deleted", "warning", "sync"]

/-- Reads the kind of a message: its name, or its place. -/
def kind? (document : Json.Document) : Option String :=
  match document with
  | .text _ => document.text?.filter fun name => kinds.contains name
  | _ => document.integer?.bind fun place => if 0 ≤ place then kinds[place.toNat]? else none

/-- Reads a count of milliseconds within 64 bits. -/
def milliseconds? (document : Json.Document) : Option Nat :=
  (document.integer?.filter fun value => 0 ≤ value).map Int.toNat

/-- Reads the content of a message of a given kind from the fields of the message. -/
def ofFields (room : Nat) (members : List (String × Json.Document)) (kind : String) :
    Option Notice := do
  let field {α : Type} (name : String) (read : Json.Document → Option α) : Option α :=
    (Json.Document.field? members name).bind (Json.Document.required read)
  if kind = "update" then (field "batch" (Batch.ofDocument room)).map .update
  else if kind = "state" then (field "state" StreamState.ofDocument).map .state
  else if kind = "deleted" then (field "event" (IssueEvent.ofDocument room)).map .deleted
  else if kind = "warning" then (field "disconnectedForMs" milliseconds?).map .warning
  else some .sync

end Notice

namespace Message

/-- A message as a value. -/
def toValue (message : Message) : Json.Value :=
  .object <| message.notice.members ++
    [("senderId", .text message.sender),
      ("timestamp", .number (.integer message.timestamp.milliseconds))]

/-- A message as a text. -/
def render (message : Message) : String := message.toValue.render

/-- Reads a message. All of the document has to be fit to be kept. -/
def ofDocument (document : Json.Document) : Option Message := do
  let _ ← Json.Document.keep Json.Document.depthLimit document
  match document with
  | .object members =>
    let members ← Json.Document.namedMembers members
    let field {α : Type} (name : String) (read : Json.Document → Option α) : Option α :=
      (Json.Document.field? members name).bind (Json.Document.required read)
    let kind ← field "type" Notice.kind?
    let notice ← Notice.ofFields (Json.Document.depthLimit - 1) members kind
    let sender ← field "senderId" Json.Document.text?
    let timestamp ← field "timestamp" Instant.ofDocument
    some ⟨notice, sender, timestamp⟩
  | _ => none

/-- The message that a text says. -/
def ofText (text : String) : Option Message := (Json.Document.ofText text).bind ofDocument

end Message

end LiveTabs
