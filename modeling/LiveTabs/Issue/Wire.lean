import LiveTabs.Issue
import LiveTabs.Json.Field
import LiveTabs.Json.Printer
import LiveTabs.Text.Blank

/-!
# Issues and events on the wire

How issues, events and batches are written as values and read from documents, and how the payload of
an event on the stream is taken in. Fields that are empty are not written; fields that are not known
are kept and written back.
-/

namespace LiveTabs

/-- Writes a field only if it has a value. -/
def Json.optionalMember (name : String) (value : Option Json.Value) : List (String × Json.Value) :=
  match value with
  | some value => [(name, value)]
  | none => []

namespace Issue

/-- The names of the known fields. -/
def fieldNames : List String :=
  ["id", "title", "status", "issue_type", "priority", "assignee", "labels", "updated_at"]

/-- An issue as a value: the known fields that are not empty, then the others. -/
def toValue (issue : Issue) : Json.Value :=
  .object <|
    ("id", .text issue.id) ::
    Json.optionalMember "title" (issue.title.map .text) ++
    Json.optionalMember "status" (issue.status.map .text) ++
    Json.optionalMember "issue_type" (issue.issueType.map .text) ++
    Json.optionalMember "priority" (issue.priority.map fun value => .number (.integer value)) ++
    Json.optionalMember "assignee" (issue.assignee.map .text) ++
    Json.optionalMember "labels"
      (if issue.labels.isEmpty then none else some (.array (issue.labels.map .text))) ++
    Json.optionalMember "updated_at" (issue.updatedAt.map .text) ++
    issue.extra

/-- Whether an integer fits 64 bits with a sign. -/
def isPriority (value : Int) : Bool := -(Nat.pow 2 63 : Int) ≤ value && value < (Nat.pow 2 63 : Int)

/-- Reads a priority: an integer of 64 bits with a sign. -/
def priority? (document : Json.Document) : Option Int :=
  document.integer?.filter isPriority

/-- Keeps the fields that are not known, with room for `room` arrays and objects in each. -/
def keepExtra (room : Nat) (members : List (String × Json.Document)) : Option Json.Members :=
  (members.mapM fun member =>
    (Json.Document.keep room member.2).map fun value => (member.1, value)).map
    Json.Members.ofList

/-- Reads an issue, with room for `room` arrays and objects in each other. A missing id is empty. -/
def ofDocument (room : Nat) : Json.Document → Option Issue
  | .object members =>
    match room with
    | 0 => none
    | inner + 1 => do
      let members ← Json.Document.namedMembers members
      let field := Json.Document.field? members
      let id ← match ← field "id" with
        | none => some ""
        | some document => document.text?
      let title ← Json.Document.optional Json.Document.text? (← field "title")
      let status ← Json.Document.optional Json.Document.text? (← field "status")
      let issueType ← Json.Document.optional Json.Document.text? (← field "issue_type")
      let priority ← Json.Document.optional priority? (← field "priority")
      let assignee ← Json.Document.optional Json.Document.text? (← field "assignee")
      let labels ← match ← field "labels" with
        | none => some []
        | some document => document.texts?
      let updatedAt ← Json.Document.optional Json.Document.text? (← field "updated_at")
      let extra ← keepExtra inner (members.filter fun member => !fieldNames.contains member.1)
      some { id, title, status, issueType, priority, assignee, labels, updatedAt, extra }
  | _ => none

end Issue

namespace EventKind

/-- Reads a kind by its name. -/
def ofDocument (document : Json.Document) : Option EventKind := document.choice?.bind ofName?

end EventKind

namespace KindSet

/-- A set of kinds as a value: the names of its kinds in order. -/
def toValue (set : KindSet) : Json.Value := .array (set.toList.map fun kind => .text kind.name)

/-- Reads a set of kinds; a kind may be named more than once and in any order. -/
def ofDocument : Json.Document → Option KindSet
  | .array items => (items.mapM EventKind.ofDocument).map ofList
  | _ => none

end KindSet

namespace IssueEvent

/-- An event as a value. -/
def toValue (event : IssueEvent) : Json.Value :=
  .object [("eventType", .text event.kind.name), ("issue", event.issue.toValue)]

/-- Reads an event, with room for `room` arrays and objects in each other. -/
def ofDocument (room : Nat) (document : Json.Document) : Option IssueEvent := do
  match ← document.fields ["eventType", "issue"] with
  | [kind, issue] =>
    let kind ← Json.Document.required EventKind.ofDocument kind
    let issue ← Json.Document.required (Issue.ofDocument (room - 1)) issue
    some ⟨kind, issue⟩
  | _ => none

end IssueEvent

/-- Reads an instant from its whole milliseconds. -/
def Instant.ofDocument (document : Json.Document) : Option Instant :=
  document.integer?.bind Instant.ofMilliseconds?

namespace Batch

/-- A batch as a value. -/
def toValue (batch : Batch) : Json.Value :=
  .object [
    ("issueIds", .array (batch.issueIds.map .text)),
    ("events", .array (batch.events.map IssueEvent.toValue)),
    ("eventTypes", batch.kinds.toValue),
    ("timestamp", .number (.integer batch.timestamp.milliseconds))]

/-- Reads the events of a batch, with room for `room` arrays and objects in each other. -/
def readEvents (room : Nat) : Json.Document → Option (List IssueEvent)
  | .array items => items.mapM (IssueEvent.ofDocument (room - 1))
  | _ => none

/-- Reads a batch, with room for `room` arrays and objects in each other. -/
def ofDocument (room : Nat) (document : Json.Document) : Option Batch := do
  match ← document.fields ["issueIds", "events", "eventTypes", "timestamp"] with
  | [issueIds, events, kinds, timestamp] =>
    let issueIds ← Json.Document.required Json.Document.texts? issueIds
    let events ← Json.Document.required (readEvents (room - 1)) events
    let kinds ← Json.Document.required KindSet.ofDocument kinds
    let timestamp ← Json.Document.required Instant.ofDocument timestamp
    some ⟨issueIds, events, kinds, timestamp⟩
  | _ => none

end Batch

/-- Why the payload of an event was not taken in. -/
inductive IntakeError where
  /-- The text is not a payload. -/
  | malformed
  /-- The payload names no issue. -/
  | missingIssueId
deriving DecidableEq

/-- The description of a refused payload for the user. -/
def IntakeError.message : IntakeError → String
  | .malformed => "Malformed event payload"
  | .missingIssueId => "Event payload has no issue id"

namespace IssueEvent

/-- The part of a payload that describes the issue, if there is one. The payload is an object with
the field `issue`, whose other fields are ignored, or an array with at most that one item. -/
def payloadIssue : Json.Document → Option (Option Json.Document)
  | .object members => (Json.Document.namedMembers members).bind (Json.Document.field? · "issue")
  | .array [] => some none
  | .array [item] => some (some item)
  | _ => none

/-- Takes in the payload of an event. The issue has to have an id that is not blank. -/
def ofPayload (kind : EventKind) (data : String) : Except IntakeError IssueEvent :=
  match (Json.Document.ofText data).bind payloadIssue with
  | none => .error .malformed
  | some none => .error .missingIssueId
  | some (some .null) => .error .missingIssueId
  | some (some document) =>
    match Issue.ofDocument (Json.Document.depthLimit - 1) document with
    | none => .error .malformed
    | some issue =>
      if Text.isBlank issue.id then .error .missingIssueId else .ok ⟨kind, issue⟩

end IssueEvent

end LiveTabs
