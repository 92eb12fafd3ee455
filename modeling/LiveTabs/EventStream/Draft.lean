/-!
# Frames of an event stream

The server sends frames made of lines: a name, lines of data and an id, ended by an empty line. A
frame is drafted line by line. Data beyond a limit spoils the frame that it belongs to, and nothing
of a finished or spoilt frame is left for the next one but the id, which stays until it is replaced.
-/

namespace LiveTabs.EventStream

/-- A frame as it is handed on. -/
structure Frame where
  event : String
  data : String
  id : Option String
deriving DecidableEq

/-- The name of a frame that has none. -/
def defaultName : String := "message"

/-- The most bytes of data that a frame may hold. -/
def dataLimit : Nat := 1024 * 1024

/-- The frame that is being drafted. -/
structure Draft where
  name : Option String := none
  /-- The lines of data, first to last. -/
  data : Array String := #[]
  /-- The bytes of the lines of data. -/
  dataSize : Nat := 0
  /-- Whether data was left out because it was too much. -/
  oversized : Bool := false
  /-- The last id that was given, in this frame or an earlier one. -/
  id : Option String := none
deriving DecidableEq

namespace Draft

/-- A line cut at its first colon: the field, and its value without one leading space. A line
without a colon is a field with an empty value. -/
def splitField (line : List Char) : List Char × List Char :=
  let value := match line.dropWhile (· != ':') with
    | _ :: ' ' :: value => value
    | _ :: value => value
    | [] => []
  (line.takeWhile (· != ':'), value)

/-- Takes the value of a field into the draft. Fields of other names are ignored, and so is an id
with a NUL in it. -/
def takeField (draft : Draft) (field value : List Char) : Draft :=
  let text := String.ofList value
  if field = "event".toList then { draft with name := some text }
  else if field = "data".toList then
    if dataLimit < draft.dataSize + text.utf8ByteSize then { draft with oversized := true }
    else
      { draft with data := draft.data.push text, dataSize := draft.dataSize + text.utf8ByteSize }
  else if field = "id".toList then
    if value.contains '\x00' then draft else { draft with id := some text }
  else draft

/-- The draft of the next frame. -/
def next (draft : Draft) : Draft := { id := draft.id }

/-- The frame that the draft makes: none if it is spoilt, or if it has neither a name nor data. -/
def frame? (draft : Draft) : Option Frame :=
  if draft.oversized then none
  else if draft.name.isNone ∧ draft.data.isEmpty then none
  else
    let name := (draft.name.filter fun name => !name.isEmpty).getD defaultName
    some ⟨name, String.intercalate "\n" draft.data.toList, draft.id⟩

/-- Takes a line into the draft. An empty line ends the frame; a line that starts with a colon is a
comment. -/
def takeLine (draft : Draft) (line : String) : Draft × Option Frame :=
  match line.toList with
  | [] => (draft.next, draft.frame?)
  | ':' :: _ => (draft, none)
  | characters =>
    let (field, value) := splitField characters
    (draft.takeField field value, none)

end Draft

end LiveTabs.EventStream
