import LiveTabs.Proofs.EventStream.HeldData

/-!
# Event streams as blocks of lines

What the body of an event stream says can be told without a decoder. The body is cut at its line
feeds, and what follows the last of them is dropped; so are the lines that are too long. The texts
of the other lines are cut into blocks at the empty ones. A block is a set of fields: its name is
the last value of `event`, its data are all values of `data`, and its id is the last value of `id`,
or the id of the blocks before. `bodyFrames` gives one frame for each block that has a name or data
and not too much of them.

A decoder keeps no block: it counts and collects, and gives up what is too much as soon as it comes.
`Draft.Holds` says what it has collected in terms of the lines of the block alone.
-/

namespace LiveTabs.EventStream

open Text

/-- The parts of a list that a separator ends. What follows the last separator is no part. -/
def endedParts {α : Type} [BEq α] (separator : α) (items : List α) : List (List α) :=
  (items.splitOn separator).dropLast

section EndedParts

variable {α : Type} [BEq α] [LawfulBEq α] {separator : α}

/-- Without a separator there is no part, because a part counts only once it has ended. -/
theorem ended_parts_of_unbroken {items : List α} (unbroken : separator ∉ items) :
    endedParts separator items = [] := by
  rw [endedParts, List.splitOn_eq_singleton unbroken, List.dropLast_singleton]

/-- The first separator ends the first part, and the rest is divided on its own. -/
theorem ended_parts_of_first {first : List α} (unbroken : separator ∉ first) (rest : List α) :
    endedParts separator (first ++ separator :: rest) = first :: endedParts separator rest := by
  have others : ∀ item ∈ first, (item == separator) = false := by
    intro item there
    rw [beq_eq_false_iff_ne]
    rintro rfl
    exact unbroken there
  have cutOff : (first ++ separator :: rest).splitOn separator =
      first :: rest.splitOn separator := by
    rw [List.splitOn, List.splitOnP_append_cons_of_forall_mem others separator BEq.rfl]
    rfl
  rw [endedParts, cutOff, List.dropLast_cons_of_ne_nil (List.splitOn_ne_nil _ _), ← endedParts]

end EndedParts

/-- The complete lines of a body are its parts between line feeds. The account by blocks begins from
these. -/
theorem cut_lines_eq {line : List UInt8} (begun : lineFeed ∉ line) (bytes : List UInt8) :
    (cut line bytes).lines = endedParts lineFeed (line ++ bytes) := by
  induction bytes generalizing line with
  | nil => rw [cut, List.append_nil, ended_parts_of_unbroken begun]
  | cons byte bytes inductionHypothesis =>
    rw [cut]
    split
    · rename_i ends
      have later := inductionHypothesis List.not_mem_nil
      rw [List.nil_append] at later
      rw [ends, ended_parts_of_first begun, ← later]
    · rename_i inner
      have longer : lineFeed ∉ line ++ [byte] := by
        rw [List.mem_append, List.mem_singleton, not_or]
        exact ⟨begun, Ne.symm inner⟩
      rw [inductionHypothesis longer, List.append_assoc, List.singleton_append]

/-- The texts of lines, without those of the lines that are too long. A carriage return at the end
of a line counts for its length and is then dropped. -/
def keptTexts (lines : List (List UInt8)) : List String :=
  (lines.filter fun line => line.length ≤ lineLimit).map fun line =>
    Utf8.decode (Decoder.withoutReturn line)

/-- A field of a block. -/
structure Field where
  name : String
  value : String
deriving DecidableEq

/-- The field on a line. Its name ends at the first colon, after which one blank is no part of the
value. A line that begins with a colon is a comment. -/
def Field.ofLine? (line : String) : Option Field :=
  let name := line.toList.takeWhile (· != ':')
  let after := (line.toList.dropWhile (· != ':')).tail
  let value := if after.head? = some ' ' then after.tail else after
  if line.toList.head? = some ':' then none else some ⟨String.ofList name, String.ofList value⟩

/-- The values that the lines of a block give to a field, first to last. -/
def blockValues (name : String) (block : List String) : List String :=
  ((block.filterMap Field.ofLine?).filter fun field => field.name = name).map Field.value

/-- The id after a block: the last one that it gives, or else the one before. An id with a NUL in it
is none. -/
def blockId (earlier : Option String) (block : List String) : Option String :=
  ((blockValues "id" block).filter fun id => '\x00' ∉ id.toList).getLast?.or earlier

/-- The frame that a block makes, if any. -/
def blockFrame? (earlier : Option String) (block : List String) : Option Frame :=
  let names := blockValues "event" block
  let data := blockValues "data" block
  if dataLimit < sizeOfAll data then none
  else if names = [] ∧ data = [] then none
  else
    let name := (names.getLast?.filter (· ≠ "")).getD defaultName
    some ⟨name, String.intercalate "\n" data, blockId earlier block⟩

/-- The frames that blocks make. Nothing but the id is left of a block for the next one. -/
def blockFrames (earlier : Option String) : List (List String) → List Frame
  | [] => []
  | block :: blocks =>
    (blockFrame? earlier block).toList ++ blockFrames (blockId earlier block) blocks

/-- The frames of a body. -/
def bodyFrames (bytes : List UInt8) : List Frame :=
  blockFrames none (endedParts "" (keptTexts (endedParts lineFeed bytes)))

/-- A further line adds the value that it gives to a field, after the values of the lines before. -/
theorem block_values_concat (name : String) (block : List String) (line : String) :
    blockValues name (block ++ [line]) = blockValues name block ++ blockValues name [line] := by
  simp only [blockValues, List.filterMap_append, List.filter_append, List.map_append]

/-- A comment gives no values to any field, so it may stand anywhere in a block. -/
theorem block_values_comment (name : String) {line : String} (comment : Field.ofLine? line = none) :
    blockValues name [line] = [] := by
  simp [blockValues, comment]

/-- A line gives its value to its field and to no other, so the fields of a block can be looked at
one by one. -/
theorem block_values_field (name : String) {line : String} {field : Field}
    (given : Field.ofLine? line = some field) :
    blockValues name [line] = if field.name = name then [field.value] else [] := by
  by_cases same : field.name = name <;> simp [blockValues, given, same]

namespace Draft

/-- A line is cut into the name of its field and its value at the first colon, with one blank after
the colon left out. The two accounts of a line meet here. -/
theorem split_field_eq (line : List Char) :
    splitField line =
      let after := (line.dropWhile (· != ':')).tail
      (line.takeWhile (· != ':'), if after.head? = some ' ' then after.tail else after) := by
  rw [splitField]
  rcases line.dropWhile (· != ':') with _ | ⟨colon, _ | ⟨first, value⟩⟩
  · rfl
  · rfl
  · by_cases blank : first = ' '
    · subst blank
      rfl
    · simp [blank]

/-- A line that is not empty takes its field into the draft. A comment leaves the draft. -/
theorem take_line_eq (draft : Draft) {line : String} (some : line ≠ "") :
    draft.takeLine line =
      ((Field.ofLine? line).elim draft fun field =>
        draft.takeField field.name.toList field.value.toList, none) := by
  have nonempty : line.toList ≠ [] := by simpa using some
  rw [takeLine]
  split
  · contradiction
  · rename_i comment
    simp [Field.ofLine?, comment]
  · rename_i uncommented
    have field : line.toList.head? ≠ Option.some ':' := by
      rcases cut : line.toList with _ | ⟨first, rest⟩
      · simp
      · rintro ⟨⟩
        exact uncommented rest cut
    simp [Field.ofLine?, field, split_field_eq]

/-- What a draft has collected from the lines of a block so far. -/
structure Holds (earlier : Option String) (block : List String) (draft : Draft) : Prop where
  name : draft.name = (blockValues "event" block).getLast?
  id : draft.id = blockId earlier block
  oversized : draft.oversized = true ↔ dataLimit < sizeOfAll (blockValues "data" block)
  data : draft.oversized = false → draft.data.toList = blockValues "data" block ∧
    draft.dataSize = sizeOfAll (blockValues "data" block)

variable {earlier : Option String} {block : List String} {draft : Draft}

/-- At the start of a block a draft holds the id of the blocks before and nothing else: names and
data do not outlive their frame. -/
theorem holds_next (draft : Draft) (held : draft.id = earlier) :
    draft.next.Holds earlier [] where
  name := rfl
  id := held
  oversized := by simp [next, blockValues, sizeOfAll]
  data _ := ⟨rfl, rfl⟩

/-- A field is known by the text of its name. The decoder compares characters and the account by
blocks compares texts. -/
theorem take_field_eq (draft : Draft) (field : Field) :
    draft.takeField field.name.toList field.value.toList =
      if field.name = "event" then { draft with name := some field.value }
      else if field.name = "data" then
        if dataLimit < draft.dataSize + field.value.utf8ByteSize then
          { draft with oversized := true }
        else
          { draft with
            data := draft.data.push field.value
            dataSize := draft.dataSize + field.value.utf8ByteSize }
      else if field.name = "id" ∧ '\x00' ∉ field.value.toList then
        { draft with id := some field.value }
      else draft := by
  simp only [takeField, String.toList_inj, String.ofList_toList]
  by_cases isId : field.name = "id" <;> simp [isId]

/-- A comment adds nothing to what a draft holds, and nothing to what the block gives. -/
theorem Holds.comment (holds : draft.Holds earlier block) {line : String}
    (comment : Field.ofLine? line = none) : draft.Holds earlier (block ++ [line]) := by
  have same (name : String) : blockValues name (block ++ [line]) = blockValues name block := by
    rw [block_values_concat, block_values_comment name comment, List.append_nil]
  refine ⟨?_, ?_, ?_, ?_⟩
  · rw [same, holds.name]
  · rw [blockId, same, ← blockId, holds.id]
  · rw [same, holds.oversized]
  · rw [same]
    exact holds.data

/-- A name or an id is held in place of the one before, and data after what was held. Once there is
too much of them, only this is held of data. -/
theorem Holds.field (holds : draft.Holds earlier block) {line : String} {field : Field}
    (given : Field.ofLine? line = some field) :
    (draft.takeField field.name.toList field.value.toList).Holds earlier (block ++ [line]) := by
  have values (name : String) : blockValues name (block ++ [line]) =
      blockValues name block ++ if field.name = name then [field.value] else [] := by
    rw [block_values_concat, block_values_field name given]
  have name : (blockValues "event" (block ++ [line])).getLast? =
      if field.name = "event" then some field.value else draft.name := by
    rw [values, holds.name]
    split <;> simp
  have id : blockId earlier (block ++ [line]) =
      if field.name = "id" ∧ '\x00' ∉ field.value.toList then some field.value else draft.id := by
    rw [blockId, values, holds.id, blockId]
    by_cases isId : field.name = "id"
    · by_cases isNul : '\x00' ∈ field.value.toList <;> simp [isId, isNul]
    · simp [isId]
  rw [take_field_eq]
  by_cases isName : field.name = "event"
  · have same : blockValues "data" (block ++ [line]) = blockValues "data" block := by
      simp [values, isName]
    rw [if_pos isName]
    exact
      { name := by rw [name, if_pos isName]
        id := by rw [id, if_neg (by simp [isName])]
        oversized := by rw [same, holds.oversized]
        data := by rw [same]; exact holds.data }
  by_cases isData : field.name = "data"
  · have size : sizeOfAll (blockValues "data" (block ++ [line])) =
        sizeOfAll (blockValues "data" block) + field.value.utf8ByteSize := by
      simp [values, isData, size_of_all_append, sizeOfAll]
    have unnamed : draft.name = (blockValues "event" (block ++ [line])).getLast? := by
      rw [name, if_neg isName]
    have unchanged : draft.id = blockId earlier (block ++ [line]) := by
      rw [id, if_neg (by simp [isData])]
    rw [if_neg isName, if_pos isData]
    split
    · rename_i much
      have beyond : dataLimit < sizeOfAll (blockValues "data" (block ++ [line])) := by
        rcases spoilt : draft.oversized with _ | _
        · rw [size, ← (holds.data spoilt).2]
          exact much
        · have before := holds.oversized.mp spoilt
          omega
      exact ⟨unnamed, unchanged, iff_of_true rfl beyond,
        fun whole => absurd whole (by simp)⟩
    · rename_i room
      refine ⟨unnamed, unchanged, ?_, ?_⟩
      · show draft.oversized = true ↔ _
        rcases spoilt : draft.oversized with _ | _
        · rw [size, ← (holds.data spoilt).2]
          exact iff_of_false Bool.false_ne_true room
        · have before := holds.oversized.mp spoilt
          exact iff_of_true rfl (by omega)
      · intro whole
        obtain ⟨data, count⟩ := holds.data whole
        refine ⟨?_, by rw [size, ← count]⟩
        simp [values, isData, data]
  · have same : blockValues "data" (block ++ [line]) = blockValues "data" block := by
      simp [values, isData]
    rw [if_neg isName, if_neg isData]
    refine ⟨?_, ?_, ?_, ?_⟩
    · rw [name, if_neg isName]
      split <;> rfl
    · rw [id]
      split <;> rfl
    · rw [same, ← holds.oversized]
      split <;> exact Iff.rfl
    · rw [same]
      split <;> exact holds.data

/-- A line that does not end the block is held with those before it, and makes no frame. -/
theorem Holds.line (holds : draft.Holds earlier block) {line : String} (some : line ≠ "") :
    (draft.takeLine line).1.Holds earlier (block ++ [line]) ∧ (draft.takeLine line).2 = none := by
  rw [take_line_eq draft some]
  refine ⟨?_, rfl⟩
  rcases given : Field.ofLine? line with _ | field
  · exact holds.comment given
  · exact holds.field given

/-- The frame of a draft is that of the block whose lines it holds. Where the block has no data or
too much, neither makes a frame. -/
theorem Holds.frame (holds : draft.Holds earlier block) :
    draft.frame? = blockFrame? earlier block := by
  rw [frame?, blockFrame?]
  rcases spoilt : draft.oversized with _ | _
  · obtain ⟨data, -⟩ := holds.data spoilt
    have within : ¬ dataLimit < sizeOfAll (blockValues "data" block) := by
      rw [← holds.oversized, spoilt]
      exact Bool.false_ne_true
    have empty : draft.data.isEmpty = true ↔ blockValues "data" block = [] := by
      rw [← data, Array.isEmpty_iff, Array.toList_eq_nil_iff]
    have unnamed : (blockValues "event" block).getLast?.isNone = true ↔
        blockValues "event" block = [] := by
      rw [Option.isNone_iff_eq_none, List.getLast?_eq_none_iff]
    have given : (fun name : String => !name.isEmpty) = fun name => decide (name ≠ "") := by
      funext name
      rw [Bool.eq_iff_iff]
      simp
    simp only [within, empty, holds.name, unnamed, holds.id, data, given, Bool.false_eq_true,
      if_false]
  · simp [holds.oversized.mp spoilt]

/-- Lines that follow a part of a block make the frames of the blocks that they complete.

Proof: by induction on the lines. A line that is too long is no line of the block, an empty one ends
it, and any other is held. -/
theorem Holds.frames (holds : draft.Holds earlier block) (unended : "" ∉ block)
    (lines : List (List UInt8)) :
    (draft.readLines lines).2 =
      blockFrames earlier (endedParts "" (block ++ keptTexts lines)) := by
  induction lines generalizing earlier block draft with
  | nil =>
    rw [keptTexts, List.filter_nil, List.map_nil, List.append_nil, ended_parts_of_unbroken unended]
    rfl
  | cons line lines inductionHypothesis =>
    rw [readLines, readLine]
    by_cases long : lineLimit < line.length
    · have left : keptTexts (line :: lines) = keptTexts lines := by
        rw [keptTexts, List.filter_cons_of_neg (by simpa using long), keptTexts]
      rw [if_pos long, left]
      exact inductionHypothesis holds unended
    · have kept : keptTexts (line :: lines) =
          Utf8.decode (Decoder.withoutReturn line) :: keptTexts lines := by
        rw [keptTexts, List.filter_cons_of_pos (by simpa using long), List.map_cons, keptTexts]
      rw [if_neg long, kept]
      by_cases ends : Utf8.decode (Decoder.withoutReturn line) = ""
      · have next : draft.next.Holds (blockId earlier block) [] :=
          draft.holds_next holds.id
        have later := inductionHypothesis next List.not_mem_nil
        rw [List.nil_append] at later
        rw [ends, ended_parts_of_first unended, blockFrames, ← later, ← holds.frame]
        rfl
      · obtain ⟨held, silent⟩ := holds.line ends
        have within : "" ∉ block ++ [Utf8.decode (Decoder.withoutReturn line)] := by
          rw [List.mem_append, List.mem_singleton, not_or]
          exact ⟨unended, Ne.symm ends⟩
        have later := inductionHypothesis held within
        rw [List.append_assoc, List.singleton_append] at later
        rw [← later]
        show (draft.takeLine (Utf8.decode (Decoder.withoutReturn line))).2.toList ++ _ = _
        rw [silent]
        rfl

end Draft

/-- What a fresh decoder gives for a body in one chunk are the frames of the blocks of the body. -/
theorem Decoder.frames_of_body (bytes : List UInt8) :
    (({} : Decoder).feed bytes).2 = bodyFrames bytes := by
  have fresh : ({} : Draft).Holds none [] := Draft.holds_next {} rfl
  rw [(Decoder.awaits_fresh.fed bytes).1, cut_lines_eq List.not_mem_nil, List.nil_append]
  exact fresh.frames List.not_mem_nil _

/-- Byte by byte, `data: a`, an invalid byte and `b` in lines that end with a carriage return and a
line feed, and then `event: c` in one that ends with a line feed alone. The invalid byte becomes one
replacement character, and the frame without a name is a message. -/
example :
    let body : List UInt8 :=
      [0x64, 0x61, 0x74, 0x61, 0x3A, 0x20, 0x61, 0xFF, 0x62, 0x0D, 0x0A, 0x0D, 0x0A,
        0x65, 0x76, 0x65, 0x6E, 0x74, 0x3A, 0x20, 0x63, 0x0A, 0x0D, 0x0A]
    let frames : List Frame := [⟨"message", "a\uFFFDb", none⟩, ⟨"c", "", none⟩]
    bodyFrames body = frames ∧ (({} : Decoder).feed body).2 = frames := by
  decide +kernel

/-- A comment and an unknown field count for nothing, an empty name is none, the last id stays, and
the line after the last line feed is dropped. -/
example :
    bodyFrames (Utf8.encode
      "id: 7\r\nevent:\n: note\ndata: a\nother: b\ndata\n\nid: \x00\nevent: closed\n\ndata: c\n") =
      [⟨"message", "a\n", some "7"⟩, ⟨"closed", "", some "7"⟩] := by
  decide +kernel

end LiveTabs.EventStream
