import LiveTabs.Issue.Wire
import LiveTabs.Proofs.Json.WrittenValue

/-!
# Records that are read back

A record is written as an object with those of its fields that have a value, and perhaps with
further members under other names. Asked for one of its fields, the document of such an object gives
the value of that field, because no name stands for two of them.
-/

namespace LiveTabs.Json

section Reading

variable {α β γ : Type}

/-- A list is read back when each of its items is read back, in the same order. -/
theorem read_all_written {items : List α} {write : α → β} {read : β → Option γ} {value : α → γ}
    (back : ∀ item ∈ items, read (write item) = some (value item)) :
    (items.map write).mapM read = some (items.map value) := by
  induction items with
  | nil => rfl
  | cons item rest inductionHypothesis =>
    obtain ⟨first, later⟩ := List.forall_mem_cons.mp back
    rw [List.map_cons, List.mapM_cons, first, inductionHypothesis later]
    rfl

/-- What was read of a list was read of one of its items, so what every item gives is what the list
gives. -/
theorem mem_of_read_all {items : List α} {read : α → Option β} {values : List β}
    (reading : items.mapM read = some values) {value : β} (there : value ∈ values) :
    ∃ item ∈ items, read item = some value := by
  induction items generalizing values with
  | nil =>
    cases reading
    cases there
  | cons item rest inductionHypothesis =>
    rw [List.mapM_cons] at reading
    obtain ⟨first, readItem, reading⟩ := Option.bind_eq_some_iff.mp reading
    obtain ⟨others, readRest, reading⟩ := Option.bind_eq_some_iff.mp reading
    cases reading
    obtain rfl | later := List.mem_cons.mp there
    · exact ⟨item, List.mem_cons_self, readItem⟩
    · obtain ⟨origin, listed, readOrigin⟩ := inductionHypothesis readRest later
      exact ⟨origin, List.mem_cons_of_mem _ listed, readOrigin⟩

/-- The rest is read with the value of a field that is found and taken. A record is read field by
field with this. -/
theorem take_given {found : Option α} {given : α} {take : α → Option β} {value : β}
    {rest : β → Option γ} (there : found = some given) (taken : take given = some value) :
    (found >>= fun given => take given >>= rest) = rest value := by
  rw [there, Option.bind_eq_bind, Option.bind_some, taken]
  rfl

/-- The rest is read with the value of a field that may be left out, whether it was left out or
not. -/
theorem take_left_out {found : Option (Option Document)} {given : Option Document} {default : α}
    {take : Document → Option α} {value : α} {rest : α → Option β} (there : found = some given)
    (taken : given.elim (some default) take = some value) :
    (found >>= fun given =>
      match given with
      | none => some default >>= rest
      | some document => take document >>= rest) = rest value := by
  rw [there, Option.bind_eq_bind, Option.bind_some]
  cases given <;> exact congrArg (Option.bind · rest) taken

/-- A field that was read was found and taken, and the rest was read with its value. -/
theorem of_taken {found : Option α} {take : α → Option β} {rest : β → Option γ} {result : γ}
    (reading : (found >>= fun given => take given >>= rest) = some result) :
    ∃ given value, take given = some value ∧ rest value = some result := by
  obtain ⟨given, -, reading⟩ := Option.bind_eq_some_iff.mp reading
  obtain ⟨value, taken, reading⟩ := Option.bind_eq_some_iff.mp reading
  exact ⟨given, value, taken, reading⟩

/-- A field that may be left out was read with some value, and the rest was read with that value. -/
theorem of_left_out {found : Option (Option Document)} {default : α} {take : Document → Option α}
    {rest : α → Option β} {result : β}
    (reading : (found >>= fun given =>
      match given with
      | none => some default >>= rest
      | some document => take document >>= rest) = some result) :
    ∃ value, rest value = some result := by
  obtain ⟨given, -, reading⟩ := Option.bind_eq_some_iff.mp reading
  cases given with
  | none => exact ⟨default, reading⟩
  | some document =>
    obtain ⟨value, -, reading⟩ := Option.bind_eq_some_iff.mp reading
    exact ⟨value, reading⟩

/-- A field that has to be given was given, if the record was read at all. -/
theorem of_required {take : Document → Option α} {given : Option Document} {value : α}
    (taken : Document.required take given = some value) :
    ∃ document, take document = some value := by
  cases given with
  | none => cases taken
  | some document => exact ⟨document, taken⟩

/-- A field that has to be given was found and taken, if the record was read at all. -/
theorem of_required_field {named : List (String × Document)} {name : String}
    {take : Document → Option α}
    {value : α} (taken : (Document.field? named name).bind (Document.required take) = some value) :
    ∃ document, take document = some value := by
  obtain ⟨_, -, taken⟩ := Option.bind_eq_some_iff.mp taken
  exact of_required taken

end Reading

/-- The members of an object as they are read: their keys, and their values as documents. -/
def shown (members : List (String × Value)) : List (String × Document) :=
  members.map fun member => (member.1, member.2.document)

/-- The members of an object that is read back: all of them, under their names as they were
written. -/
theorem named_members_written (members : List (String × Value)) :
    Document.namedMembers (Value.memberDocuments members) = some (shown members) := by
  induction members with
  | nil => rfl
  | cons member rest inductionHypothesis =>
    rw [Value.memberDocuments, Document.namedMembers, text_of_written_pieces, inductionHypothesis]
    rfl

/-- The members of a record, given by those of its fields that have a value. -/
def recordMembers (fields : List (String × Option Value)) : List (String × Value) :=
  fields.flatMap fun field => optionalMember field.1 field.2

/-- A member of a record stands under the name of a field that has a value; fields without one are
not written. -/
theorem mem_record_members {fields : List (String × Option Value)} {member : String × Value}
    (there : member ∈ recordMembers fields) : (member.1, some member.2) ∈ fields := by
  obtain ⟨⟨name, value⟩, listed, there⟩ := List.mem_flatMap.mp there
  cases value with
  | none => cases there
  | some value =>
    rw [List.mem_singleton.mp there]
    exact listed

/-- What stands under other names is not found, so it does not disturb the field that is looked
for. -/
theorem filter_shown_of_absent {members : List (String × Value)} {name : String}
    (absent : ∀ member ∈ members, member.1 ≠ name) :
    (shown members).filter (fun member => member.1 == name) = [] := by
  rw [List.filter_eq_nil_iff]
  intro entry there
  obtain ⟨member, listed, rfl⟩ := List.mem_map.mp there
  simpa using absent member listed

/-- What a record shows under the name of a field: its value, if it has one, and nothing else, as
the names are distinct. -/
theorem filter_shown_record {fields : List (String × Option Value)}
    (distinct : (fields.map Prod.fst).Nodup) {name : String} {value : Option Value}
    (there : (name, value) ∈ fields) :
    (shown (recordMembers fields)).filter (fun member => member.1 == name) =
      shown (optionalMember name value) := by
  induction fields with
  | nil => cases there
  | cons field rest inductionHypothesis =>
    obtain ⟨apart, distinctRest⟩ := List.nodup_cons.mp distinct
    have split : (shown (recordMembers (field :: rest))).filter (fun member => member.1 == name) =
        (shown (optionalMember field.1 field.2)).filter (fun member => member.1 == name) ++
          (shown (recordMembers rest)).filter (fun member => member.1 == name) := by
      rw [recordMembers, List.flatMap_cons, shown, List.map_append, List.filter_append]
      rfl
    rw [split]
    obtain rfl | later := List.mem_cons.mp there
    · have absent : ∀ member ∈ recordMembers rest, member.1 ≠ name := by
        rintro member listed rfl
        exact apart (List.mem_map.mpr ⟨_, mem_record_members listed, rfl⟩)
      rw [filter_shown_of_absent absent, List.append_nil]
      cases value <;> simp [shown, optionalMember]
    · have other : field.1 ≠ name := by
        rintro rfl
        exact apart (List.mem_map.mpr ⟨_, later, rfl⟩)
      rw [inductionHypothesis distinctRest later]
      cases value : field.2 <;> simp [shown, optionalMember, other]

/-- A field of a record is found with its value, whatever stands under other names beside the
record. -/
theorem field_of_record {fields : List (String × Option Value)} {others : List (String × Value)}
    (distinct : (fields.map Prod.fst).Nodup) {name : String} {value : Option Value}
    (there : (name, value) ∈ fields) (apart : ∀ member ∈ others, member.1 ∉ fields.map Prod.fst) :
    Document.field? (shown (recordMembers fields ++ others)) name =
      some (value.map Value.document) := by
  have absent : ∀ member ∈ others, member.1 ≠ name := by
    rintro member listed rfl
    exact apart member listed (List.mem_map.mpr ⟨_, there, rfl⟩)
  unfold Document.field?
  rw [shown, List.map_append, List.filter_append, ← shown, ← shown,
    filter_shown_record distinct there, filter_shown_of_absent absent, List.append_nil]
  cases value <;> rfl

/-- A record all of whose fields have a value is written with all of them. -/
theorem record_members_of_some (members : List (String × Value)) :
    recordMembers (members.map fun member => (member.1, some member.2)) = members := by
  induction members with
  | nil => rfl
  | cons member rest inductionHypothesis =>
    rw [List.map_cons, recordMembers, List.flatMap_cons, ← recordMembers, inductionHypothesis]
    rfl

/-- A member of an object is found under its name, if no other one has the same name. -/
theorem field_of_member {members : List (String × Value)} (distinct : (members.map Prod.fst).Nodup)
    {name : String} {value : Value} (there : (name, value) ∈ members) :
    Document.field? (shown members) name = some (some value.document) := by
  let fields : List (String × Option Value) := members.map fun member => (member.1, some member.2)
  have listed : (name, some value) ∈ fields := List.mem_map.mpr ⟨_, there, rfl⟩
  have same : fields.map Prod.fst = members.map Prod.fst := by simp [fields]
  have found :
      Document.field? (shown (recordMembers fields ++ [])) name = some (some value.document) :=
    field_of_record (same ▸ distinct) listed nofun
  rwa [List.append_nil, record_members_of_some] at found

/-- A record with fixed fields is read back with the values of all of them, in the order of the
fields. -/
theorem fields_written (members : List (String × Value)) (distinct : (members.map Prod.fst).Nodup) :
    Document.fields (members.map Prod.fst) (Value.object members).document =
      some (members.map fun member => some member.2.document) := by
  have found : (members.map Prod.fst).mapM (Document.field? (shown members)) =
      some (members.map fun member => some member.2.document) :=
    read_all_written fun member there => field_of_member distinct there
  rw [Value.document, Document.fields, named_members_written, Option.bind_eq_bind, Option.bind_some]
  exact found

/-- The documents of the items of an array are made one by one. -/
theorem item_documents_eq (items : List Value) :
    Value.itemDocuments items = items.map Value.document := by
  induction items with
  | nil => rfl
  | cons item rest inductionHypothesis =>
    rw [Value.itemDocuments, inductionHypothesis, List.map_cons]

/-- The items of a list are read back when each of them is, as an array of documents. -/
theorem items_written {α : Type} {items : List α} {write : α → Value} {read : Document → Option α}
    (back : ∀ item ∈ items, read (write item).document = some item) :
    (Value.itemDocuments (items.map write)).mapM read = some items := by
  rw [item_documents_eq, List.map_map]
  exact (read_all_written back).trans (congrArg some (List.map_id items))

/-- A text is read back as it was, whatever characters it has. -/
theorem text_written (content : String) :
    Document.text? (Value.text content).document = some content := by
  rw [Value.document, Document.text?, text_of_written_pieces]

/-- A list of texts is read back as it was, also an empty one. -/
theorem texts_written (contents : List String) :
    Document.texts? (Value.array (contents.map .text)).document = some contents := by
  rw [Value.document, Document.texts?]
  exact items_written fun content _ => text_written content

/-- A name is read back as a choice, in the plain one of the ways in which a choice may be
spelled. -/
theorem choice_written (name : String) :
    Document.choice? (Value.text name).document = some name := by
  rw [Value.document, Document.choice?, text_of_written_pieces]

/-- An integer that is read fits into 64 bits, because larger numbers are not read as integers. -/
theorem fits_of_integer {document : Document} {value : Int}
    (read : document.integer? = some value) :
    FitsWord value := by
  cases document with
  | numeral content =>
    rw [Document.integer?] at read
    split at read
    · rename_i meant
      cases read
      exact Numeral.fits_of_value meant
    · cases read
  | _ => cases read

/-- An integer within 64 bits is read back as it was, whatever its sign. -/
theorem integer_written {value : Int} (fits : FitsWord value) :
    Document.integer? (Value.number (.integer value)).document = some value := by
  have meant := value_of_written_integer value fits
  simp [Value.document, Number.written, Document.integer?, meant]

end LiveTabs.Json
