import LiveTabs.Proofs.Json.WrittenRecord
import LiveTabs.Proofs.Time.WholeMilliseconds

/-!
# Issues, events and batches that are read back

An issue that was read is `Kept`: its other fields have other names than the known ones, stand in
their order, and were kept with the room that was left. Written and read again such an issue is the
same. The same holds of the events and batches of such issues, and what is written fits into the
room that it was read with.
-/

namespace LiveTabs

open Json (Value Document Members shown recordMembers)

namespace Issue

/-- The known fields of an issue. A list of labels that is empty counts as none. -/
def fields (issue : Issue) : List (String × Option Value) :=
  [("id", some (.text issue.id)), ("title", issue.title.map .text),
    ("status", issue.status.map .text), ("issue_type", issue.issueType.map .text),
    ("priority", issue.priority.map fun value => .number (.integer value)),
    ("assignee", issue.assignee.map .text),
    ("labels", if issue.labels.isEmpty then none else some (.array (issue.labels.map .text))),
    ("updated_at", issue.updatedAt.map .text)]

/-- An issue is written as a record of its known fields with the others as further members. -/
theorem to_value_eq (issue : Issue) :
    issue.toValue = .object (recordMembers issue.fields ++ issue.extra) := by
  simp [toValue, recordMembers, fields, Json.optionalMember]

/-- An issue as it was read with room for `room` arrays and objects in each of its fields. -/
structure Kept (room : Nat) (issue : Issue) : Prop where
  unknown : ∀ member ∈ issue.extra, member.1 ∉ fieldNames
  sorted : Members.Sorted issue.extra
  values : ∀ member ∈ issue.extra, Document.keep room member.2.document = some member.2
  integral : ∀ member ∈ issue.extra, member.2.isIntegral = true
  priority : ∀ value, issue.priority = some value → isPriority value = true

variable {room : Nat} {issue : Issue}

/-- Every known field is found with its value, and not among the other fields, which have other
names. -/
theorem Kept.found (kept : issue.Kept room) : ∀ field ∈ issue.fields,
    Document.field? (shown (recordMembers issue.fields ++ issue.extra)) field.1 =
      some (field.2.map Value.document) :=
  fun _ there => Json.field_of_record (by show fieldNames.Nodup; decide) there kept.unknown

/-- The other fields are kept again, in the order of their names, as they were kept before. -/
theorem Kept.keep_extra (kept : issue.Kept room) :
    keepExtra room ((shown (recordMembers issue.fields ++ issue.extra)).filter fun member =>
      !fieldNames.contains member.1) = some issue.extra := by
  have known : (shown (recordMembers issue.fields)).filter (fun member =>
      !fieldNames.contains member.1) = [] := by
    rw [List.filter_eq_nil_iff]
    intro entry there
    obtain ⟨member, listed, rfl⟩ := List.mem_map.mp there
    have name : member.1 ∈ issue.fields.map Prod.fst :=
      List.mem_map.mpr ⟨_, Json.mem_record_members listed, rfl⟩
    have known : member.1 ∈ fieldNames := name
    simpa using known
  have unknown : (shown issue.extra).filter (fun member => !fieldNames.contains member.1) =
      shown issue.extra := by
    rw [List.filter_eq_self]
    intro entry there
    obtain ⟨member, listed, rfl⟩ := List.mem_map.mp there
    simpa using kept.unknown member listed
  have value : ∀ member ∈ issue.extra,
      (Document.keep room member.2.document).map (fun value => (member.1, value)) =
        some member := by
    intro member there
    rw [kept.values member there]
    rfl
  have keeps : (shown issue.extra).mapM (fun member =>
      (Document.keep room member.2).map fun value => (member.1, value)) =
        some (issue.extra.map fun member => member) :=
    Json.read_all_written value
  rw [List.map_id'] at keeps
  rw [shown, List.map_append, List.filter_append, ← shown, ← shown, known, unknown, List.nil_append,
    keepExtra, keeps, Option.map_some, kept.sorted.of_list_eq]

/-- A text that may be left out is read back, also if it was left out: it is not written as an empty
one. -/
theorem optional_text_written (content : Option String) :
    Document.optional Document.text? ((content.map Value.text).map Value.document) =
      some content := by
  cases content with
  | none => rfl
  | some content => exact congrArg (Option.map some) (Json.text_written content)

/-- A priority fits into 64 bits, its sign included, so it is read back as an integer. -/
theorem fits_of_priority {value : Int} (priority : isPriority value = true) :
    Json.FitsWord value := by
  obtain ⟨above, below⟩ := Bool.and_eq_true_iff.mp priority
  have half : Nat.pow 2 63 ≤ Nat.pow 2 64 := by decide
  exact ⟨of_decide_eq_true above, by have := of_decide_eq_true below; omega⟩

/-- A priority is read back, also if there is none. It is the only number among the known fields. -/
theorem Kept.priority_written (kept : issue.Kept room) :
    Document.optional priority? ((issue.priority.map fun value =>
      Value.number (.integer value)).map Value.document) = some issue.priority := by
  cases priority : issue.priority with
  | none => rfl
  | some value =>
    have valid := kept.priority value priority
    have read : priority? (Value.number (.integer value)).document = some value := by
      rw [priority?, Json.integer_written (fits_of_priority valid), Option.filter_some_pos valid]
    exact congrArg (Option.map some) read

/-- Labels are read back, also if there are none and the field is left out. -/
theorem labels_written (labels : List String) :
    ((if labels.isEmpty then none
      else some (Value.array (labels.map .text))).map Value.document).elim
      (some []) Document.texts? = some labels := by
  cases labels with
  | nil => rfl
  | cons label rest => exact Json.texts_written (label :: rest)

/-- An issue that was kept is read back: its known fields one by one, and the other fields
together. -/
theorem Kept.of_document_written (kept : issue.Kept room) :
    ofDocument (room + 1) issue.toValue.document = some issue := by
  have found := kept.found
  have extra := kept.keep_extra
  rw [to_value_eq, Value.document, ofDocument, Json.named_members_written,
    Option.bind_eq_bind, Option.bind_some]
  generalize shown (recordMembers issue.fields ++ issue.extra) = members at found extra
  simp only [fields, List.forall_mem_cons] at found
  obtain ⟨id, title, status, issueType, priority, assignee, labels, updatedAt, -⟩ := found
  have ownId : ((some (Value.text issue.id)).map Value.document).elim (some "") Document.text? =
      some issue.id := Json.text_written issue.id
  -- The fields are taken in the order in which they are asked for, whatever their order in the
  -- record.
  refine (Json.take_left_out id ownId).trans ?_
  refine (Json.take_given title (optional_text_written issue.title)).trans ?_
  refine (Json.take_given status (optional_text_written issue.status)).trans ?_
  refine (Json.take_given issueType (optional_text_written issue.issueType)).trans ?_
  refine (Json.take_given priority kept.priority_written).trans ?_
  refine (Json.take_given assignee (optional_text_written issue.assignee)).trans ?_
  refine (Json.take_left_out labels (labels_written issue.labels)).trans ?_
  refine (Json.take_given updatedAt (optional_text_written issue.updatedAt)).trans ?_
  rw [extra]
  rfl

/-- What of an issue that was read decides how it is read again: the priority that was taken and the
other fields that were kept. -/
theorem parts_of_document {members : List (List Json.Piece × Document)}
    (read : ofDocument (room + 1) (.object members) = some issue) :
    (∃ given, Document.optional priority? given = some issue.priority) ∧
      ∃ named : List (String × Document),
        keepExtra room (named.filter fun member => !fieldNames.contains member.1) =
          some issue.extra := by
  rw [ofDocument] at read
  obtain ⟨named, -, read⟩ := Option.bind_eq_some_iff.mp read
  obtain ⟨id, read⟩ := Json.of_left_out read
  obtain ⟨_, title, -, read⟩ := Json.of_taken read
  obtain ⟨_, status, -, read⟩ := Json.of_taken read
  obtain ⟨_, issueType, -, read⟩ := Json.of_taken read
  obtain ⟨given, priority, taken, read⟩ := Json.of_taken read
  obtain ⟨_, assignee, -, read⟩ := Json.of_taken read
  obtain ⟨labels, read⟩ := Json.of_left_out read
  obtain ⟨_, updatedAt, -, read⟩ := Json.of_taken read
  obtain ⟨extra, keeping, read⟩ := Option.bind_eq_some_iff.mp read
  cases read
  exact ⟨⟨given, taken⟩, named, keeping⟩

/-- An issue that was read is kept, if the numbers in its other fields are integers. -/
theorem kept_of_document {document : Document} (read : ofDocument (room + 1) document = some issue)
    (integral : ∀ member ∈ issue.extra, member.2.isIntegral = true) : issue.Kept room := by
  cases document with
  | object members =>
    obtain ⟨⟨given, taken⟩, named, keeping⟩ := parts_of_document read
    obtain ⟨pairs, keeping, placed⟩ := Option.map_eq_some_iff.mp keeping
    have origin : ∀ member ∈ issue.extra, member.1 ∉ fieldNames ∧
        Document.keep room member.2.document = some member.2 := by
      intro member there
      have listed : member ∈ pairs := Members.mem_of_list (placed ▸ there)
      obtain ⟨entry, chosen, kept⟩ := Json.mem_of_read_all keeping listed
      obtain ⟨value, again, rfl⟩ := Option.map_eq_some_iff.mp kept
      have unknown := (List.mem_filter.mp chosen).2
      exact ⟨by simpa using unknown, Document.keep_written room entry.2 again (integral _ there)⟩
    refine ⟨fun member there => (origin member there).1, placed ▸ Members.sorted_of_list pairs,
      fun member there => (origin member there).2, integral, ?_⟩
    intro value priority
    rw [priority] at taken
    cases given with
    | none => cases taken
    | some document =>
      unfold Document.optional at taken
      split at taken
      · cases taken
      · cases taken
      · obtain ⟨found, taken, same⟩ := Option.map_eq_some_iff.mp taken
        cases same
        exact (Option.filter_eq_some_iff.mp taken).2
  | _ => cases read

/-- The known fields of an issue that was kept may be written: they are texts, lists of texts and an
integer that fits. -/
theorem Kept.keeps_fields (kept : issue.Kept (room + 1)) : ∀ field ∈ issue.fields, ∀ value,
    field.2 = some value → value.Keeps (room + 1) := by
  have optionalText : ∀ (content : Option String) value,
      content.map Value.text = some value → value.Keeps (room + 1) := by
    intro content value given
    obtain ⟨text, -, rfl⟩ := Option.map_eq_some_iff.mp given
    exact Value.keeps_text text
  have labels : ∀ value,
      (if issue.labels.isEmpty then none else some (Value.array (issue.labels.map .text))) =
        some value →
        value.Keeps (room + 1) := by
    intro value given
    split at given
    · cases given
    cases given
    refine Value.keeps_array fun item there => ?_
    obtain ⟨label, -, rfl⟩ := List.mem_map.mp there
    exact Value.keeps_text label
  have priority :
      ∀ value, (issue.priority.map fun value => Value.number (.integer value)) = some value →
      value.Keeps (room + 1) := by
    intro value given
    obtain ⟨integer, taken, rfl⟩ := Option.map_eq_some_iff.mp given
    exact Value.keeps_integer (fits_of_priority (kept.priority integer taken))
  simp only [fields, List.forall_mem_cons]
  refine ⟨?_, optionalText _, optionalText _, optionalText _, priority, optionalText _, labels,
    optionalText _, nofun⟩
  rintro _ ⟨⟩
  exact Value.keeps_text issue.id

/-- An issue that was kept may be written, since its other fields were read within the limits of
depth and size. -/
theorem Kept.keeps (kept : issue.Kept (room + 1)) : issue.toValue.Keeps (room + 2) := by
  rw [to_value_eq]
  refine Value.keeps_object fun member there => ?_
  obtain known | other := List.mem_append.mp there
  · exact kept.keeps_fields _ (Json.mem_record_members known) _ rfl
  · exact Value.keeps_of_kept (kept.integral member other) (kept.values member other)

end Issue

/-- A kind of events is read back from its name, since no two have the same. -/
theorem EventKind.of_document_written (kind : EventKind) :
    ofDocument (Value.text kind.name).document = some kind := by
  rw [ofDocument, Json.choice_written, Option.bind_some, ofName?_name]

/-- A set is the set of its kinds, so nothing is lost when it is written as a list. -/
theorem KindSet.of_list_to_list (set : KindSet) : ofList set.toList = set := by
  obtain ⟨created, updated, closed, deleted⟩ := set
  cases created <;> cases updated <;> cases closed <;> cases deleted <;> rfl

/-- A set of kinds is read back from the list of their names, in which each stands once. -/
theorem KindSet.of_document_written (set : KindSet) :
    ofDocument set.toValue.document = some set := by
  rw [toValue, Value.document, ofDocument,
    Json.items_written fun kind _ =>
      EventKind.of_document_written kind, Option.map_some, of_list_to_list]

/-- A set of kinds may be written with room for the list of their names. -/
theorem KindSet.keeps (set : KindSet) (room : Nat) : set.toValue.Keeps (room + 1) := by
  refine Value.keeps_array fun item there => ?_
  obtain ⟨kind, -, rfl⟩ := List.mem_map.mp there
  exact Value.keeps_text kind.name

/-- An instant that was read is a whole number of milliseconds, which is why it is the same after it
was written once more. -/
theorem Instant.whole_of_document {document : Document} {instant : Instant}
    (read : ofDocument document = some instant) : instant.IsWhole := by
  obtain ⟨count, -, read⟩ := Option.bind_eq_some_iff.mp read
  unfold ofMilliseconds? ofNanoseconds? at read
  split at read
  · cases read
    exact Int.dvd_mul_left _ _
  · cases read

/-- A whole instant is read back. Of others the part of a millisecond is lost. -/
theorem Instant.of_document_written {instant : Instant} (whole : instant.IsWhole) :
    ofDocument (Value.number (.integer instant.milliseconds)).document = some instant := by
  rw [ofDocument, Json.integer_written instant.milliseconds_bounds, Option.bind_some,
    of_milliseconds_of_instant, truncate_of_whole instant whole]

namespace IssueEvent

variable {room : Nat} {event : IssueEvent}

/-- The issue of an event that was read is kept, if the numbers in its other fields are integers. -/
theorem kept_of_document {document : Document} (read : ofDocument (room + 2) document = some event)
    (integral : ∀ member ∈ event.issue.extra, member.2.isIntegral = true) :
    event.issue.Kept room := by
  obtain ⟨given, -, read⟩ := Option.bind_eq_some_iff.mp read
  split at read
  · obtain ⟨kind, -, read⟩ := Option.bind_eq_some_iff.mp read
    obtain ⟨issue, taken, read⟩ := Option.bind_eq_some_iff.mp read
    cases read
    obtain ⟨document, taken⟩ := Json.of_required taken
    exact Issue.kept_of_document taken integral
  · cases read

/-- An event of an issue that was kept is read back: its kind by its name, and its issue. -/
theorem of_document_written (kept : event.issue.Kept room) :
    ofDocument (room + 2) event.toValue.document = some event := by
  have fields : event.toValue.document.fields ["eventType", "issue"] =
      some [some (Value.text event.kind.name).document, some event.issue.toValue.document] :=
    Json.fields_written [("eventType", .text event.kind.name), ("issue", event.issue.toValue)]
      (by show ["eventType", "issue"].Nodup; decide)
  have issue : Issue.ofDocument (room + 2 - 1) event.issue.toValue.document = some event.issue :=
    kept.of_document_written
  rw [ofDocument, fields]
  simp only [Option.bind_eq_bind, Option.bind_some, Document.required,
    EventKind.of_document_written, issue]

/-- An event of an issue that was kept may be written with room for the issue and itself. -/
theorem keeps (kept : event.issue.Kept (room + 1)) : event.toValue.Keeps (room + 3) := by
  refine Value.keeps_object (List.forall_mem_cons.mpr ⟨Value.keeps_text event.kind.name, ?_⟩)
  exact List.forall_mem_cons.mpr ⟨kept.keeps, nofun⟩

end IssueEvent

namespace Batch

/-- A batch as it was read with room for `room` arrays and objects in the other fields of its
issues. -/
structure Kept (room : Nat) (batch : Batch) : Prop where
  issues : ∀ event ∈ batch.events, event.issue.Kept room
  whole : batch.timestamp.IsWhole

variable {room : Nat} {batch : Batch}

/-- A batch that was read is kept, if the numbers in the other fields of its issues are integers. -/
theorem kept_of_document {document : Document} (read : ofDocument (room + 4) document = some batch)
    (integral : ∀ event ∈ batch.events, ∀ member ∈ event.issue.extra, member.2.isIntegral = true) :
    batch.Kept room := by
  obtain ⟨given, -, read⟩ := Option.bind_eq_some_iff.mp read
  split at read
  · obtain ⟨issueIds, -, read⟩ := Option.bind_eq_some_iff.mp read
    obtain ⟨events, takenEvents, read⟩ := Option.bind_eq_some_iff.mp read
    obtain ⟨kinds, -, read⟩ := Option.bind_eq_some_iff.mp read
    obtain ⟨timestamp, takenTimestamp, read⟩ := Option.bind_eq_some_iff.mp read
    cases read
    obtain ⟨_, takenTimestamp⟩ := Json.of_required takenTimestamp
    refine ⟨fun event there => ?_, Instant.whole_of_document takenTimestamp⟩
    obtain ⟨document, takenEvents⟩ := Json.of_required takenEvents
    cases document with
    | array items =>
      obtain ⟨item, -, taken⟩ := Json.mem_of_read_all takenEvents there
      exact IssueEvent.kept_of_document taken (integral event there)
    | _ => cases takenEvents
  · cases read

/-- A batch that was kept is read back, with its ids, events, kinds and time. -/
theorem Kept.of_document_written (kept : batch.Kept room) :
    ofDocument (room + 4) batch.toValue.document = some batch := by
  have fields : batch.toValue.document.fields ["issueIds", "events", "eventTypes", "timestamp"] =
      some [some (Value.array (batch.issueIds.map .text)).document,
        some (Value.array (batch.events.map IssueEvent.toValue)).document,
        some batch.kinds.toValue.document,
        some (Value.number (.integer batch.timestamp.milliseconds)).document] :=
    Json.fields_written [("issueIds", .array (batch.issueIds.map .text)),
      ("events", .array (batch.events.map IssueEvent.toValue)), ("eventTypes", batch.kinds.toValue),
      ("timestamp", .number (.integer batch.timestamp.milliseconds))]
      (by show ["issueIds", "events", "eventTypes", "timestamp"].Nodup; decide)
  have events :
      readEvents (room + 4 - 1) (Value.array (batch.events.map IssueEvent.toValue)).document =
      some batch.events :=
    Json.items_written fun event there => IssueEvent.of_document_written (kept.issues event there)
  rw [ofDocument, fields]
  simp only [Option.bind_eq_bind, Option.bind_some, Document.required, Json.texts_written, events,
    KindSet.of_document_written, Instant.of_document_written kept.whole]

/-- A batch that was kept may be written with room for its events and itself. -/
theorem Kept.keeps (kept : batch.Kept (room + 1)) : batch.toValue.Keeps (room + 5) := by
  have issueIds : (Value.array (batch.issueIds.map .text)).Keeps (room + 4) := by
    refine Value.keeps_array fun item there => ?_
    obtain ⟨issueId, -, rfl⟩ := List.mem_map.mp there
    exact Value.keeps_text issueId
  have events : (Value.array (batch.events.map IssueEvent.toValue)).Keeps (room + 4) := by
    refine Value.keeps_array fun item there => ?_
    obtain ⟨event, listed, rfl⟩ := List.mem_map.mp there
    exact IssueEvent.keeps (kept.issues event listed)
  refine Value.keeps_object
    (List.forall_mem_cons.mpr ⟨issueIds, List.forall_mem_cons.mpr ⟨events, ?_⟩⟩)
  refine List.forall_mem_cons.mpr
    ⟨batch.kinds.keeps (room + 3), List.forall_mem_cons.mpr ⟨?_, nofun⟩⟩
  exact Value.keeps_integer batch.timestamp.milliseconds_bounds

end Batch

end LiveTabs
