import LiveTabs.Proofs.Issue.WrittenIssue
import LiveTabs.Proofs.Json.Nesting

/-!
# Payloads that lose nothing

The payload of an event names an issue. An issue that was taken in from a payload, in whatever
spelling, is written in one way, and this is taken in as the same issue (`payloads_lose_nothing`).
The same holds of an issue that no payload was read for, if it could have been: its id says
something, its other fields have names of their own, its integers have 64 bits, and its payload is
no deeper than a document that is kept may be.
-/

namespace LiveTabs

open Json (Value Document Members shown)

/-- An issue whose payload can be taken in, if it is not too deep. -/
structure Issue.Sendable (issue : Issue) : Prop where
  named : ∃ character ∈ issue.id.toList, Text.isBlankChar character = false
  unknown : ∀ member ∈ issue.extra, member.1 ∉ fieldNames
  priority : ∀ value, issue.priority = some value → isPriority value = true
  regular : (Value.object issue.extra).Regular

namespace IssueEvent

/-- The payload that names an issue and says nothing else. -/
def payload (issue : Issue) : Value := .object [("issue", issue.toValue)]

variable {kind : EventKind} {event : IssueEvent} {issue : Issue}

/-- An event that was taken in is of the kind that was asked for, and its issue was read and has an
id that is not blank. -/
theorem of_taken_in {data : String} (taken : ofPayload kind data = .ok event) :
    event.kind = kind ∧ Text.isBlank event.issue.id = false ∧
      ∃ document, Issue.ofDocument (Document.depthLimit - 1) document = some event.issue := by
  unfold ofPayload at taken
  split at taken
  · cases taken
  · cases taken
  · cases taken
  · rename_i document _ _
    split at taken
    · cases taken
    rename_i issue read
    split at taken
    · cases taken
    rename_i named
    cases taken
    exact ⟨rfl, Bool.eq_false_iff.mpr named, document, read⟩

/-- Two arrays or objects of a payload surround each further field of its issue, so the field has
that much less room. -/
theorem depth_of_extra {member : String × Value} (there : member ∈ issue.extra) :
    member.2.depth + 2 ≤ (payload issue).depth := by
  have inside : member.2.depth ≤
      Value.membersDepth (Json.recordMembers issue.fields ++ issue.extra) :=
    Value.depth_le_of_mem (List.mem_append_right _ there)
  have issueDepth : issue.toValue.depth =
      Value.membersDepth (Json.recordMembers issue.fields ++ issue.extra) + 1 := by
    rw [Issue.to_value_eq, Value.depth]
  have payloadDepth : (payload issue).depth = max issue.toValue.depth 0 + 1 := by
    rw [payload, Value.depth, Value.membersDepth, Value.membersDepth]
  omega

/-- An issue that can be sent in a payload that is not too deep is like one that was read. -/
theorem kept_of_sendable (sendable : issue.Sendable)
    (fits : (payload issue).depth ≤ Document.depthLimit) : issue.Kept 125 := by
  obtain ⟨-, unknown, priority, sorted, regular⟩ := sendable
  have limit : Document.depthLimit = 127 := rfl
  refine ⟨unknown, sorted, ?_, ?_, priority⟩
  · intro member there
    have inside := depth_of_extra there
    exact Document.keep_of_regular (Value.regular_of_mem regular there) (by omega)
  · intro member there
    exact (Value.regular_of_mem regular there).integral

/-- The payload of an issue is read as the issue's document and nothing else, because that is its
only member. -/
theorem payload_issue_written (issue : Issue) :
    payloadIssue (payload issue).document = some (some issue.toValue.document) := by
  have distinct : ([("issue", issue.toValue)].map Prod.fst).Nodup := by simp
  have found : Document.field? (shown [("issue", issue.toValue)]) "issue" =
      some (some issue.toValue.document) :=
    Json.field_of_member distinct List.mem_cons_self
  rw [payload, Value.document, payloadIssue, Json.named_members_written, Option.bind_some, found]

/-- The payload of an issue that was read is taken in as this issue. This is the half from a read
issue to its text and back. -/
theorem taken_in_of_kept (kept : issue.Kept 125) (named : Text.isBlank issue.id = false) :
    ofPayload kind (payload issue).render = .ok ⟨kind, issue⟩ := by
  have integral : Value.membersIntegral [("issue", issue.toValue)] = true :=
    Bool.and_eq_true_iff.mpr ⟨kept.keeps.integral, rfl⟩
  have written : Document.ofText (payload issue).render = some (payload issue).document :=
    Value.document_of_render _ integral
  have read : Issue.ofDocument (Document.depthLimit - 1) issue.toValue.document = some issue :=
    kept.of_document_written
  rw [ofPayload, written, Option.bind_some, payload_issue_written]
  have shape : issue.toValue.document =
      .object (Value.memberDocuments (Json.recordMembers issue.fields ++ issue.extra)) := by
    rw [Issue.to_value_eq, Value.document]
  rw [shape] at read ⊢
  dsimp only
  rw [read]
  dsimp only
  rw [named, if_neg Bool.false_ne_true]

/-- What a payload says about an issue is neither lost nor changed, whatever its spelling, if the
numbers in the other fields of the issue are integers: an event that was taken in has the kind that
was asked for, an id with a character that is not white space, and among the other fields none with
a known name; and the payload that is written of its issue is taken in as the same event. Every
issue of which a payload might have been read comes back from its own payload unchanged.

Proof: an issue that was read is kept, and so is one that can be sent, since there is room for the
depth of each of its other fields. A kept issue is written as a document that gives this issue when
it is read. -/
theorem payloads_lose_nothing (kind : EventKind) :
    (∀ data event, ofPayload kind data = .ok event →
      (∀ member ∈ event.issue.extra, member.2.isIntegral = true) →
        event.kind = kind ∧
        (∃ character ∈ event.issue.id.toList, Text.isBlankChar character = false) ∧
        (∀ member ∈ event.issue.extra, member.1 ∉ Issue.fieldNames) ∧
        ofPayload kind (payload event.issue).render = .ok event) ∧
    ∀ issue : Issue, issue.Sendable → (payload issue).depth ≤ Document.depthLimit →
      ofPayload kind (payload issue).render = .ok ⟨kind, issue⟩ := by
  constructor
  · intro data event taken integral
    obtain ⟨rfl, named, document, read⟩ := of_taken_in taken
    have kept : event.issue.Kept 125 := Issue.kept_of_document read integral
    exact ⟨rfl, (Text.isBlank_eq_false_iff _).mp named, kept.unknown, taken_in_of_kept kept named⟩
  · intro issue sendable fits
    exact taken_in_of_kept (kept_of_sendable sendable fits)
      ((Text.isBlank_eq_false_iff _).mpr sendable.named)

/-- A payload in an unusual spelling: it says something else besides, fields of its issue are `null`
or empty, an unknown one is given twice, the id has an escape, and the other fields are out of
order. -/
def oddPayload : String :=
  "\x7b\"at\": 1e999, \"issue\": \x7b\"title\": null, \"zeta\": 1, \"labels\": [], " ++
    "\"id\": \" \\u0061\", \"priority\": -5, " ++
    "\"zeta\": [18446744073709551615, \x7b\"b\": null, \"a\": \"\\/\"\x7d], \"Id\": true\x7d\x7d"

/-- The same payload as it is written. -/
def plainPayload : String :=
  "\x7b\"issue\":\x7b\"id\":\" a\",\"priority\":-5,\"Id\":true," ++
    "\"zeta\":[18446744073709551615,\x7b\"a\":\"/\",\"b\":null\x7d]\x7d\x7d"

/-- An issue that no payload was read for. -/
def ownIssue : Issue :=
  { id := "ü\n", labels := ["", "\""], updatedAt := some "",
    extra := [("", .array [.array []]),
      ("design", .object [("id", .null), ("n", .number (.integer (-1)))])] }

/-- Both come back: an odd spelling as the plain one, and an issue of one's own as it is. -/
theorem odd_payload_taken_in_again :
    (∃ event, ofPayload .updated oddPayload = .ok event ∧
      (payload event.issue).render = plainPayload ∧ ofPayload .updated plainPayload = .ok event) ∧
    ofPayload .closed (payload ownIssue).render = .ok ⟨.closed, ownIssue⟩ := by
  obtain ⟨again, -⟩ := payloads_lose_nothing .updated
  obtain ⟨-, own⟩ := payloads_lose_nothing .closed
  constructor
  · have read : (ofPayload .updated oddPayload).toOption.map (fun event =>
        ((payload event.issue).render, event.issue.extra.all fun member => member.2.isIntegral)) =
          some (plainPayload, true) := by
      decide +kernel
    cases taken : ofPayload .updated oddPayload with
    | error fault =>
      rw [taken] at read
      cases read
    | ok event =>
      rw [taken] at read
      obtain ⟨rendered, integral⟩ := Prod.mk.inj (Option.some.inj read)
      refine ⟨event, rfl, rendered, ?_⟩
      rw [← rendered]
      exact (again _ event taken (by simpa using integral)).2.2.2
  · have outer : "" < "design" := by decide
    have inner : "id" < "n" := by decide
    have small : Json.FitsWord (-1) := ⟨by decide, by decide⟩
    refine own ownIssue ⟨⟨'ü', by decide, by decide⟩, by decide, nofun, ?_⟩ (by decide)
    exact ⟨List.pairwise_pair.mpr outer, ⟨trivial, trivial⟩,
      ⟨List.pairwise_pair.mpr inner, trivial, small, trivial⟩, trivial⟩

end IssueEvent

end LiveTabs
