import LiveTabs.Proofs.Issue.WrittenIssue
import LiveTabs.Relay.Message

/-!
# Messages that arrive as they were sent

A message may reach a tab in more than one spelling: records as arrays, kinds by their place, texts
with escapes, members in any order. Once it is read it has one spelling, and a tab that reads this
one has the same message again. What was read is `Kept`; a kept message is written as a document
that fits into the room for all of it, and each of its parts is found there under its own name.
-/

namespace LiveTabs

open Json (Value Document shown)

/-- A state is read back from its name, since no two have the same. -/
theorem StreamState.of_document_written (state : StreamState) :
    ofDocument (Value.text state.name).document = some state := by
  rw [ofDocument, Json.choice_written, Option.bind_some, ofName?_name]

namespace Notice

/-- The events that a notice tells of. -/
def events : Notice → List IssueEvent
  | .update batch => batch.events
  | .deleted event => [event]
  | .state _ | .warning _ | .sync => []

/-- A notice as it was read with room for `room + 4` arrays and objects in its content. -/
def Kept (room : Nat) : Notice → Prop
  | .update batch => batch.Kept room
  | .deleted event => event.issue.Kept (room + 2)
  | .warning count => Json.FitsWord count
  | .state _ | .sync => True

variable {room : Nat} {notice : Notice}

/-- A count of milliseconds that was read fits into 64 bits, so it can be written and read again. -/
theorem fits_of_milliseconds {document : Document} {count : Nat}
    (read : milliseconds? document = some count) : Json.FitsWord count := by
  obtain ⟨value, found, rfl⟩ := Option.map_eq_some_iff.mp read
  obtain ⟨integer, positive⟩ := Option.filter_eq_some_iff.mp found
  rw [Int.toNat_of_nonneg (of_decide_eq_true positive)]
  exact Json.fits_of_integer integer

/-- A count of milliseconds within 64 bits is read back, as it is not negative. -/
theorem milliseconds_written {count : Nat} (fits : Json.FitsWord count) :
    milliseconds? (Value.number (.integer count)).document = some count := by
  simp [milliseconds?, Json.integer_written fits, Option.filter]

/-- A notice that was read is kept, if the numbers in the other fields of its issues are
integers. -/
theorem kept_of_fields {named : List (String × Document)} {kind : String}
    (read : ofFields (room + 4) named kind = some notice)
    (integral : ∀ event ∈ notice.events, ∀ member ∈ event.issue.extra, member.2.isIntegral = true) :
    notice.Kept room := by
  unfold ofFields at read
  split at read
  · obtain ⟨batch, found, rfl⟩ := Option.map_eq_some_iff.mp read
    obtain ⟨document, taken⟩ := Json.of_required_field found
    exact Batch.kept_of_document taken integral
  split at read
  · obtain ⟨state, -, rfl⟩ := Option.map_eq_some_iff.mp read
    trivial
  split at read
  · obtain ⟨event, found, rfl⟩ := Option.map_eq_some_iff.mp read
    obtain ⟨document, taken⟩ := Json.of_required_field found
    exact IssueEvent.kept_of_document taken (integral event List.mem_cons_self)
  split at read
  · obtain ⟨count, found, rfl⟩ := Option.map_eq_some_iff.mp read
    obtain ⟨document, taken⟩ := Json.of_required_field found
    exact fits_of_milliseconds taken
  · cases read
    trivial

/-- The name of the kind of a notice is read back, which decides how its content is read. -/
theorem kind_written (notice : Notice) :
    kind? (Value.text notice.kind).document = some notice.kind := by
  have known : kinds.contains notice.kind = true := by
    cases notice <;> exact List.contains_iff_mem.mpr (by simp [kinds, kind])
  show (Document.text? (Value.text notice.kind).document).filter
    (fun name => kinds.contains name) = _
  rw [Json.text_written, Option.filter_some_pos known]

/-- The content of a notice that was kept is read back, whatever other members the message has. -/
theorem Kept.of_fields_written (kept : notice.Kept room) {named : List (String × Document)}
    (found : ∀ member ∈ notice.members,
      Document.field? named member.1 = some (some member.2.document)) :
    ofFields (room + 4) named notice.kind = some notice := by
  cases notice with
  | update batch =>
    have batchField := found ("batch", batch.toValue) (by simp [members])
    simp [ofFields, kind, batchField, Document.required, Batch.Kept.of_document_written kept]
  | state state =>
    have stateField := found ("state", .text state.name) (by simp [members])
    simp [ofFields, kind, stateField, Document.required, StreamState.of_document_written]
  | deleted event =>
    have eventField := found ("event", event.toValue) (by simp [members])
    simp [ofFields, kind, eventField, Document.required, IssueEvent.of_document_written kept]
  | warning count =>
    have countField := found ("disconnectedForMs", .number (.integer count)) (by simp [members])
    simp [ofFields, kind, countField, Document.required, milliseconds_written kept]
  | sync => rfl

/-- The members of a notice that was kept may be written, each with the room that is left inside the
message. -/
theorem Kept.keeps_members (kept : notice.Kept (room + 1)) :
    ∀ member ∈ notice.members, member.2.Keeps (room + 5) := by
  refine List.forall_mem_cons.mpr ⟨Value.keeps_text notice.kind, ?_⟩
  cases notice with
  | update batch => exact List.forall_mem_cons.mpr ⟨Batch.Kept.keeps kept, nofun⟩
  | state state => exact List.forall_mem_cons.mpr ⟨Value.keeps_text state.name, nofun⟩
  | deleted event => exact List.forall_mem_cons.mpr ⟨IssueEvent.keeps kept, nofun⟩
  | warning count => exact List.forall_mem_cons.mpr ⟨Value.keeps_integer kept, nofun⟩
  | sync => exact nofun

end Notice

namespace Message

/-- A message as it was read. The message, a batch, its events, an event and an issue take room for
five; so room for 122 is left in the other fields of an issue. -/
structure Kept (message : Message) : Prop where
  notice : message.notice.Kept 122
  whole : message.timestamp.IsWhole

variable {message : Message}

/-- A message that was read is kept, if the numbers in the other fields of its issues are
integers. -/
theorem kept_of_document {document : Document} (read : ofDocument document = some message)
    (integral : ∀ event ∈ message.notice.events, ∀ member ∈ event.issue.extra,
      member.2.isIntegral = true) : message.Kept := by
  obtain ⟨_, -, read⟩ := Option.bind_eq_some_iff.mp read
  cases document with
  | object members =>
    obtain ⟨named, -, read⟩ := Option.bind_eq_some_iff.mp read
    obtain ⟨kind, -, read⟩ := Option.bind_eq_some_iff.mp read
    obtain ⟨notice, content, read⟩ := Option.bind_eq_some_iff.mp read
    obtain ⟨sender, -, read⟩ := Option.bind_eq_some_iff.mp read
    obtain ⟨timestamp, found, read⟩ := Option.bind_eq_some_iff.mp read
    cases read
    obtain ⟨_, taken⟩ := Json.of_required_field found
    exact ⟨Notice.kept_of_fields content integral, Instant.whole_of_document taken⟩
  | _ => cases read

/-- The members of a message. -/
def members (message : Message) : List (String × Value) :=
  message.notice.members ++
    [("senderId", .text message.sender),
      ("timestamp", .number (.integer message.timestamp.milliseconds))]

/-- No two members of a message have the same name, whatever the notice, so each is found under its
own. -/
theorem distinct_members (message : Message) : (message.members.map Prod.fst).Nodup := by
  obtain ⟨notice, sender, timestamp⟩ := message
  cases notice <;> simp [members, Notice.members]

/-- A message that was kept may be written within the limit on depth, which it kept to when it was
read. -/
theorem Kept.keeps (kept : message.Kept) : message.toValue.Keeps Document.depthLimit := by
  have room : Document.depthLimit = 126 + 1 := rfl
  rw [room]
  refine Value.keeps_object fun member there => ?_
  obtain content | envelope := List.mem_append.mp there
  · exact kept.notice.keeps_members member content
  · obtain rfl | envelope := List.mem_cons.mp envelope
    · exact Value.keeps_text message.sender
    · rw [List.mem_singleton.mp envelope]
      exact Value.keeps_integer message.timestamp.milliseconds_bounds

/-- A message that was kept is read back as a whole: its notice, its sender and its time. -/
theorem Kept.of_document_written (kept : message.Kept) :
    ofDocument message.toValue.document = some message := by
  have found : ∀ member ∈ message.members,
      Document.field? (shown message.members) member.1 = some (some member.2.document) :=
    fun _ there => Json.field_of_member message.distinct_members there
  have kind := found ("type", .text message.notice.kind) (by simp [members, Notice.members])
  have sender := found ("senderId", .text message.sender) (by simp [members])
  have timestamp := found ("timestamp", .number (.integer message.timestamp.milliseconds))
    (by simp [members])
  have notice :
      Notice.ofFields (Document.depthLimit - 1) (shown message.members) message.notice.kind =
      some message.notice :=
    kept.notice.of_fields_written fun member there => found member (List.mem_append_left _ there)
  obtain ⟨value, whole⟩ := Option.isSome_iff_exists.mp kept.keeps.kept
  have shape : message.toValue.document = .object (Value.memberDocuments message.members) := rfl
  rw [shape] at whole ⊢
  rw [ofDocument, whole]
  simp only [Json.named_members_written, kind, sender, timestamp, notice, Option.bind_eq_bind,
    Option.bind_some, Document.required,
    Notice.kind_written, Json.text_written, Instant.of_document_written kept.whole]

/-- A message that was read from a text is read again from the text that is written of it, if the
numbers in the other fields of its issues are integers.

Proof: each part of the message that was read is kept. A kept part is written as a document that
gives the same part when it is read, and the parts are found under their names, of which no two are
the same. The document fits into the room for all of it, since nothing that was kept needs more room
than it had. What is written as a text is read as this document, by the structure of the values. -/
theorem rendered_message_is_read_back {text : String} (read : ofText text = some message)
    (integral : ∀ event ∈ message.notice.events, ∀ member ∈ event.issue.extra,
      member.2.isIntegral = true) : ofText message.render = some message := by
  obtain ⟨document, -, read⟩ := Option.bind_eq_some_iff.mp read
  have kept := kept_of_document read integral
  have written : Document.ofText message.render = some message.toValue.document :=
    Value.document_of_render message.members kept.keeps.integral
  rw [ofText, written, Option.bind_some, kept.of_document_written]

/-- A deletion in an unusual spelling: the kind stands after its content and is given by its place,
the event is an array, the id has an escape, and the members are out of order. -/
def oddDeletion : String :=
  "\x7b\"event\":[\"deleted\",\x7b\"zeta\":[-1,\x7b\"b\":null,\"a\":2\x7d]," ++
    "\"id\":\"\\u0061\"\x7d]," ++
    "\"type\":2,\"timestamp\":5,\"senderId\":\"t\"\x7d"

/-- The same deletion as a tab writes it. -/
def plainDeletion : String :=
  "\x7b\"type\":\"deleted\",\"event\":\x7b\"eventType\":\"deleted\",\"issue\":\x7b\"id\":\"a\"," ++
    "\"zeta\":[-1,\x7b\"a\":2,\"b\":null\x7d]\x7d\x7d,\"senderId\":\"t\",\"timestamp\":5\x7d"

/-- The deletion is read from both spellings alike, and the plain one is what is written. -/
theorem odd_deletion_read_again : ∃ message, ofText oddDeletion = some message ∧
    message.render = plainDeletion ∧ ofText plainDeletion = some message := by
  have read : (ofText oddDeletion).map (fun message => (message.render,
      message.notice.events.all fun event => event.issue.extra.all fun member =>
        member.2.isIntegral)) =
        some (plainDeletion, true) := by
    decide +kernel
  obtain ⟨message, read, both⟩ := Option.map_eq_some_iff.mp read
  obtain ⟨rendered, integral⟩ := Prod.mk.inj both
  refine ⟨message, read, rendered, ?_⟩
  rw [← rendered]
  exact rendered_message_is_read_back read (by simpa using integral)

end Message

end LiveTabs
