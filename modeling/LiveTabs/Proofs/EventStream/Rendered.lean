import LiveTabs.Proofs.Text.Utf8
import LiveTabs.Proofs.EventStream.Chunks

/-!
# Frames come back from their lines

`Frame.lines` writes a frame as a server sends it: the id if it gives one, the name, the data line
by line, and an empty line. A frame whose lines keep within the limits is taken from these lines as
it was, into any draft that holds nothing but an earlier id (`Draft.read_frame`), so one frame
leaves nothing but its id to the next. Comments may stand between any two lines. Together with
`frames_of_chunks` this gives back all frames that were sent, however their bytes arrive.
-/

namespace LiveTabs.EventStream

open Text

/-- A field and its value on one line. -/
def fieldLine (field value : String) : String := field ++ ": " ++ value

/-- Text that may stand at the end of a line: it holds no line feed, and no carriage return at its
end would be taken for a part of the line end. -/
structure Plain (text : String) : Prop where
  unbroken : '\n' ∉ text.toList
  unreturned : text.toList.getLast? ≠ some '\r'

instance (text : String) : Decidable (Plain text) :=
  decidable_of_iff ('\n' ∉ text.toList ∧ text.toList.getLast? ≠ some '\r')
    ⟨fun ⟨unbroken, unreturned⟩ => ⟨unbroken, unreturned⟩,
      fun plain => ⟨plain.unbroken, plain.unreturned⟩⟩

/-- A name that a field may have on its line. -/
structure FieldName (field : String) : Prop where
  named : field.toList ≠ []
  whole : ':' ∉ field.toList
  plain : Plain (field ++ ": ")

/-- The field of the id. -/
theorem id_field : FieldName "id" :=
  ⟨by decide, by decide, by decide, by decide⟩

/-- The field of the name. -/
theorem event_field : FieldName "event" :=
  ⟨by decide, by decide, by decide, by decide⟩

/-- The field of the data. -/
theorem data_field : FieldName "data" :=
  ⟨by decide, by decide, by decide, by decide⟩

/-- The bytes of texts. -/
def sizeOfAll : List String → Nat
  | [] => 0
  | text :: texts => text.utf8ByteSize + sizeOfAll texts

namespace Frame

/-- The lines of the data. -/
def pieces (frame : Frame) : List String := (frame.data.toList.splitOn '\n').map String.ofList

/-- The lines that make the frame. -/
def lines (frame : Frame) : List String :=
  frame.id.toList.map (fieldLine "id") ++ fieldLine "event" frame.event ::
    frame.pieces.map (fieldLine "data") ++ [""]

/-- What a frame has to keep to in order to be sent by its lines. -/
structure Sendable (frame : Frame) : Prop where
  named : frame.event ≠ ""
  event : Plain frame.event
  pieces : ∀ piece ∈ frame.pieces, Plain piece
  id : ∀ id ∈ frame.id, Plain id ∧ '\x00' ∉ id.toList
  short : ∀ line ∈ frame.lines, (Utf8.encode line).length ≤ lineLimit
  small : sizeOfAll frame.pieces ≤ dataLimit

instance (frame : Frame) : Decidable frame.Sendable :=
  decidable_of_iff
    (frame.event ≠ "" ∧ Plain frame.event ∧ (∀ piece ∈ frame.pieces, Plain piece) ∧
      (∀ id ∈ frame.id, Plain id ∧ '\x00' ∉ id.toList) ∧
      (∀ line ∈ frame.lines, (Utf8.encode line).length ≤ lineLimit) ∧
      sizeOfAll frame.pieces ≤ dataLimit)
    ⟨fun ⟨named, event, pieces, id, short, small⟩ => ⟨named, event, pieces, id, short, small⟩,
      fun ⟨named, event, pieces, id, short, small⟩ => ⟨named, event, pieces, id, short, small⟩⟩

/-- The pieces of the data with line feeds between them are the data, so nothing is lost in sending
them line by line. -/
theorem intercalate_pieces (frame : Frame) : String.intercalate "\n" frame.pieces = frame.data := by
  rw [← String.toList_inj, String.toList_intercalate, pieces, List.map_map]
  have texts : String.toList ∘ String.ofList = fun characters => characters :=
    funext fun _ => String.toList_ofList
  rw [texts, List.map_id']
  exact List.intercalate_splitOn '\n'

end Frame

namespace Plain

/-- Two plain texts make a plain text, so a line is plain if its field and its value are. -/
theorem append {first second : String} (before : Plain first) (after : Plain second) :
    Plain (first ++ second) where
  unbroken := by
    rw [String.toList_append, List.mem_append, not_or]
    exact ⟨before.unbroken, after.unbroken⟩
  unreturned := by
    rw [String.toList_append, List.getLast?_append]
    rcases last : second.toList.getLast? with _ | character
    · exact before.unreturned
    · rw [Option.some_or, ← last]
      exact after.unreturned

/-- A field line with a plain value is plain, because names of fields are plain and so are the marks
between the two. -/
theorem fieldLine {field value : String} (name : FieldName field) (plain : Plain value) :
    Plain (fieldLine field value) :=
  name.plain.append plain

/-- The bytes of a plain text hold no line feed, so a line that is sent stays one line. -/
theorem bytes_unbroken {text : String} (plain : Plain text) : lineFeed ∉ Utf8.encode text :=
  fun there => plain.unbroken (Utf8.mem_of_mem_encode '\n' (by decide) there)

/-- The bytes of a plain text do not end in a carriage return, so nothing of it is taken for a part
of the line's end. -/
theorem without_return {text : String} (plain : Plain text) :
    Decoder.withoutReturn (Utf8.encode text) = Utf8.encode text :=
  if_neg fun last => plain.unreturned (Utf8.getLast_of_encode '\r' (by decide) last)

end Plain

namespace Draft

/-- The bytes of a plain line are read as the line, if there are not too many of them. From here on
lines are texts. -/
theorem read_line_encode (draft : Draft) {line : String} (plain : Plain line)
    (short : (Utf8.encode line).length ≤ lineLimit) :
    draft.readLine (Utf8.encode line) = draft.takeLine line := by
  rw [readLine, if_neg (Nat.not_lt.mpr short), plain.without_return, Utf8.decode_encode]

/-- A field line is cut into its field and its value: the first colon is the one after the field,
and one blank is left out. -/
theorem split_fieldLine {field : String} (name : FieldName field) (value : String) :
    splitField (fieldLine field value).toList = (field.toList, value.toList) := by
  have line : (fieldLine field value).toList = field.toList ++ ':' :: ' ' :: value.toList := by
    rw [fieldLine, String.toList_append, String.toList_append]
    simp
  have other : ∀ character ∈ field.toList, (character != ':') = true := by
    intro character there
    rw [bne_iff_ne]
    rintro rfl
    exact name.whole there
  rw [splitField, line, List.takeWhile_append_of_pos other, List.dropWhile_append_of_pos other]
  simp

/-- A field line takes the value of the field into the draft. It is no comment, and it ends no
frame. -/
theorem take_fieldLine (draft : Draft) {field : String} (name : FieldName field) (value : String) :
    draft.takeLine (fieldLine field value) =
      (draft.takeField field.toList value.toList, none) := by
  have parts := split_fieldLine name value
  rw [takeLine]
  split
  · rename_i empty
    simp [fieldLine] at empty
  · rename_i rest comment
    rw [comment, splitField] at parts
    have none := congrArg Prod.fst parts
    exact absurd none.symm name.named
  · rw [parts]

/-- A field line is read if its value is plain and the line is not too long. The lines of all fields
come down to this. -/
theorem read_fieldLine (draft : Draft) {field value : String} (name : FieldName field)
    (plain : Plain value) (short : (Utf8.encode (fieldLine field value)).length ≤ lineLimit) :
    draft.readLine (Utf8.encode (fieldLine field value)) =
      (draft.takeField field.toList value.toList, none) := by
  rw [draft.read_line_encode (plain.fieldLine name) short, draft.take_fieldLine name value]

/-- The line with the name of a frame is taken, in the place of any name before it. -/
theorem read_name (draft : Draft) {name : String} (plain : Plain name)
    (short : (Utf8.encode (fieldLine "event" name)).length ≤ lineLimit) :
    draft.readLine (Utf8.encode (fieldLine "event" name)) =
      ({ draft with name := some name }, none) := by
  rw [draft.read_fieldLine event_field plain short, takeField, if_pos rfl, String.ofList_toList]

/-- The line with the id of a frame is taken, if there is one. Otherwise the last id stays. -/
theorem read_id (draft : Draft) {id : Option String}
    (plain : ∀ text ∈ id, Plain text ∧ '\x00' ∉ text.toList)
    (short : ∀ line ∈ id.toList.map (fieldLine "id"), (Utf8.encode line).length ≤ lineLimit) :
    draft.readLines ((id.toList.map (fieldLine "id")).map Utf8.encode) =
      ({ draft with id := id.or draft.id }, []) := by
  obtain _ | text := id
  · rfl
  · obtain ⟨plain, whole⟩ := plain text rfl
    have short := short (fieldLine "id" text) List.mem_cons_self
    have taken : draft.takeField "id".toList text.toList = { draft with id := some text } := by
      rw [takeField, if_neg (by decide), if_neg (by decide), if_pos rfl,
        if_neg (by simpa using whole), String.ofList_toList]
    rw [Option.toList_some, List.map_singleton, List.map_singleton, readLines,
      draft.read_fieldLine id_field plain short, taken]
    rfl

/-- The draft with further pieces of data. -/
def withData (draft : Draft) (pieces : List String) : Draft :=
  { draft with
    data := draft.data ++ pieces
    dataSize := draft.dataSize + sizeOfAll pieces }

/-- Pieces are added one after the other, as the lines of a frame bring them. -/
theorem with_data_cons (draft : Draft) (piece : String) (pieces : List String) :
    (draft.withData [piece]).withData pieces = draft.withData (piece :: pieces) := by
  simp only [withData, sizeOfAll, Nat.add_zero, Nat.add_assoc]
  simp

/-- The lines with pieces of data are taken as long as there is room for them.

Proof: by induction on the pieces. What is held already counts together with what is still to
come. -/
theorem read_pieces (draft : Draft) {pieces : List String}
    (plain : ∀ piece ∈ pieces, Plain piece)
    (short : ∀ line ∈ pieces.map (fieldLine "data"), (Utf8.encode line).length ≤ lineLimit)
    (small : draft.dataSize + sizeOfAll pieces ≤ dataLimit) :
    draft.readLines ((pieces.map (fieldLine "data")).map Utf8.encode) =
      (draft.withData pieces, []) := by
  induction pieces generalizing draft with
  | nil => simp [readLines, withData, sizeOfAll]
  | cons piece pieces inductionHypothesis =>
    obtain ⟨plain, plainPieces⟩ := List.forall_mem_cons.mp plain
    obtain ⟨short, shortPieces⟩ := List.forall_mem_cons.mp short
    rw [sizeOfAll] at small
    have taken : draft.readLine (Utf8.encode (fieldLine "data" piece)) =
        (draft.withData [piece], none) := by
      have room : ¬ dataLimit < draft.dataSize + piece.utf8ByteSize := by omega
      rw [draft.read_fieldLine data_field plain short, takeField, if_neg (by decide), if_pos rfl,
        String.ofList_toList, if_neg room]
      simp [withData, sizeOfAll]
    have later : (draft.withData [piece]).dataSize + sizeOfAll pieces ≤ dataLimit := by
      simp only [withData, sizeOfAll]
      omega
    rw [List.map_cons, List.map_cons, readLines, taken]
    simp only [inductionHypothesis _ plainPieces shortPieces later, with_data_cons,
      Option.toList_none, List.nil_append]

/-- An empty line ends the frame: the frame is given, and the draft begins anew with the last id. -/
theorem read_empty (draft : Draft) :
    draft.readLine (Utf8.encode "") = (draft.next, draft.frame?) := by
  rw [draft.read_line_encode ⟨by decide, by decide⟩ (by decide)]
  rfl

/-- The frame of a draft with a name and pieces of data has that name and these pieces, whatever the
pieces are. -/
theorem frame_withData {name : String} (id : Option String) (named : name ≠ "")
    (pieces : List String) :
    (({ name := some name, id } : Draft).withData pieces).frame? =
      some ⟨name, String.intercalate "\n" pieces, id⟩ := by
  simp [frame?, withData, Option.filter, named]

/-- Lines of data and an empty line make a frame without a name, which gets the standard one. -/
theorem read_unnamed {pieces : List String} (given : pieces ≠ [])
    (plain : ∀ piece ∈ pieces, Plain piece)
    (short : ∀ line ∈ pieces.map (fieldLine "data"), (Utf8.encode line).length ≤ lineLimit)
    (small : sizeOfAll pieces ≤ dataLimit) :
    ({} : Draft).readLines ((pieces.map (fieldLine "data")).map Utf8.encode ++ [Utf8.encode ""]) =
      ({}, [⟨defaultName, String.intercalate "\n" pieces, none⟩]) := by
  have data := read_pieces {} plain short (by simpa using small)
  rw [read_lines_append, data, readLines, read_empty]
  simp [readLines, withData, frame?, next, given]

/-- A frame is taken from its lines as it was, with the last id if it gives none. Of the frame only
the id stays in the draft.

Proof: the lines of the id, of the name and of the data each take their part into the draft, and the
empty line makes the frame of these parts. -/
theorem read_frame {frame : Frame} (sendable : frame.Sendable) (last : Option String) :
    ({ id := last } : Draft).readLines (frame.lines.map Utf8.encode) =
      ({ id := frame.id.or last }, [{ frame with id := frame.id.or last }]) := by
  have short := sendable.short
  simp only [Frame.lines, List.forall_mem_append, List.forall_mem_cons] at short
  -- The lines in the order in which they are sent; the empty one at the end needs no bound.
  obtain ⟨⟨shortId, shortName, shortPieces⟩, -⟩ := short
  have ids := read_id { id := last } sendable.id shortId
  have name := read_name { id := frame.id.or last } sendable.event shortName
  have pieces := read_pieces { id := frame.id.or last, name := some frame.event } sendable.pieces
    shortPieces (by simpa using sendable.small)
  simp only [Frame.lines, List.map_append, read_lines_append, ids, List.map_cons, readLines, name,
    pieces, read_empty, frame_withData _ sendable.named, frame.intercalate_pieces, List.map_nil]
  rfl

end Draft

/-- The frames as they are handed on: each with the last id that was given so far. -/
def withLastIds : Option String → List Frame → List Frame
  | _, [] => []
  | last, frame :: frames =>
    let id := frame.id.or last
    { frame with id } :: withLastIds id frames

/-- Frames are taken from their lines one after the other, with the last id where a frame has none
of its own.

Proof: by induction on the frames. After each of them only the last id is left in the draft. -/
theorem Draft.read_frames {frames : List Frame} (sendable : ∀ frame ∈ frames, frame.Sendable)
    (last : Option String) :
    (({ id := last } : Draft).readLines ((frames.flatMap Frame.lines).map Utf8.encode)).2 =
      withLastIds last frames := by
  induction frames generalizing last with
  | nil => rfl
  | cons frame frames inductionHypothesis =>
    obtain ⟨first, others⟩ := List.forall_mem_cons.mp sendable
    rw [List.flatMap_cons, List.map_append, read_lines_append, read_frame first,
      inductionHypothesis others]
    rfl

/-- Every line of a frame that may be sent is plain. -/
theorem Frame.Sendable.plain_lines {frame : Frame} (sendable : frame.Sendable) :
    ∀ line ∈ frame.lines, Plain line := by
  simp only [lines, List.forall_mem_append, List.forall_mem_cons, List.forall_mem_map]
  refine ⟨⟨?_, sendable.event.fieldLine event_field, ?_⟩, ⟨by decide, by decide⟩, nofun⟩
  · intro text given
    exact (sendable.id text (Option.mem_toList.mp given)).1.fieldLine id_field
  · intro piece there
    exact (sendable.pieces piece there).fieldLine data_field

/-- The byte that begins a comment. -/
def colon : UInt8 := 58

/-- Lines with comments put between them. -/
inductive Commented : List (List UInt8) → List (List UInt8) → Prop
  | done : Commented [] []
  | comment {lines commented : List (List UInt8)} (text : List UInt8) :
      lineFeed ∉ text → Commented lines commented → Commented lines ((colon :: text) :: commented)
  | line {lines commented : List (List UInt8)} (line : List UInt8) :
      Commented lines commented → Commented (line :: lines) (line :: commented)

/-- A comment without a carriage return at its end still begins with a colon, which is all that
makes it a comment. -/
theorem without_return_comment (text : List UInt8) :
    ∃ kept, Decoder.withoutReturn (colon :: text) = Utf8.encode ":" ++ kept := by
  obtain _ | ⟨byte, bytes⟩ := text
  · exact ⟨[], by decide⟩
  · rw [Decoder.withoutReturn]
    split
    · exact ⟨(byte :: bytes).dropLast, rfl⟩
    · exact ⟨byte :: bytes, rfl⟩

/-- A comment changes nothing, however long it is: a line that is too long is left out, and a
comment is too. -/
theorem Draft.read_comment (draft : Draft) (text : List UInt8) :
    draft.readLine (colon :: text) = (draft, none) := by
  obtain ⟨kept, without⟩ := without_return_comment text
  rw [readLine, without, Utf8.decode_encode_append, takeLine, String.toList_append]
  simp

/-- Comments change nothing, wherever they stand between the lines, so frames with comments are
frames without them. -/
theorem Commented.read {lines commented : List (List UInt8)} (between : Commented lines commented)
    (draft : Draft) : draft.readLines commented = draft.readLines lines := by
  induction between generalizing draft with
  | done => rfl
  | comment text unbroken between inductionHypothesis =>
    simp only [Draft.readLines, draft.read_comment, inductionHypothesis, Option.toList_none,
      List.nil_append]
  | line line between inductionHypothesis =>
    simp only [Draft.readLines, inductionHypothesis]

/-- Comments are lines. -/
theorem Commented.unbroken {lines commented : List (List UInt8)}
    (between : Commented lines commented) (unbroken : ∀ line ∈ lines, lineFeed ∉ line) :
    ∀ line ∈ commented, lineFeed ∉ line := by
  induction between with
  | done => exact unbroken
  | comment text plain between inductionHypothesis =>
    refine List.forall_mem_cons.mpr ⟨?_, inductionHypothesis unbroken⟩
    rw [List.mem_cons, not_or]
    exact ⟨by decide, plain⟩
  | line line between inductionHypothesis =>
    obtain ⟨first, others⟩ := List.forall_mem_cons.mp unbroken
    exact List.forall_mem_cons.mpr ⟨first, inductionHypothesis others⟩

/-- Frames that are sent by their lines, with comments anywhere between these, come back as they
were, each with the last id that was given so far.

Proof: the bytes are cut into the lines that were sent, whatever chunks they come in. Comments
change nothing, and from its lines each frame is taken as it was. -/
theorem sent_frames_come_back {frames : List Frame} (sendable : ∀ frame ∈ frames, frame.Sendable)
    {lines : List (List UInt8)}
    (commented : Commented ((frames.flatMap Frame.lines).map Utf8.encode) lines)
    {chunks : List (List UInt8)} (body : chunks.flatten = ended lines) :
    (({} : Decoder).feedAll chunks).2.flatten = withLastIds none frames := by
  have unbroken : ∀ line ∈ (frames.flatMap Frame.lines).map Utf8.encode, lineFeed ∉ line := by
    simp only [List.forall_mem_map, List.forall_mem_flatMap]
    intro frame sent line there
    exact ((sendable frame sent).plain_lines line there).bytes_unbroken
  rw [Decoder.frames_of_chunks, framesOf, body, cut_ended (commented.unbroken unbroken),
    commented.read, Draft.read_frames sendable]

/-- Data with colons, leading spaces and empty lines comes back in spite of a comment in the middle
of its frame, and a frame without an id has that of the frame before it. -/
theorem frames_come_back_byte_by_byte :
    let frames : List Frame := [⟨"created", " né: 1\n\n: x\n", some "7"⟩, ⟨"up:dated", "", none⟩]
    let comment : List UInt8 := [colon, 0xFF, carriageReturn]
    let lines := (frames.flatMap Frame.lines).map Utf8.encode
    let sent := lines.take 3 ++ comment :: lines.drop 3
    let chunks := (ended sent).map fun byte => [byte]
    (∀ frame ∈ frames, frame.Sendable) ∧ Commented lines sent ∧ chunks.flatten = ended sent ∧
      (({} : Decoder).feedAll chunks).2.flatten =
        [⟨"created", " né: 1\n\n: x\n", some "7"⟩, ⟨"up:dated", "", some "7"⟩] := by
  intro frames comment lines sent chunks
  have sendable : ∀ frame ∈ frames, frame.Sendable := by decide +kernel
  have commented : Commented lines sent :=
    .line _ (.line _ (.line _ (.comment [0xFF, carriageReturn] (by decide)
      (.line _ (.line _ (.line _ (.line _ (.line _ (.line _ (.line _ .done))))))))))
  have body : chunks.flatten = ended sent := by decide +kernel
  exact ⟨sendable, commented, body, sent_frames_come_back sendable commented body⟩

end LiveTabs.EventStream
