import LiveTabs.Proofs.EventStream.Rendered

/-!
# What a decoder holds

A decoder holds the line that is not complete, and of the frame that is drafted a name, an id and
the lines of data. The line has a limit of its own; a name and an id come from one line each, whose
bytes may be read as three times as many. The lines of data are counted as they come, and the count
never passes the limit. The line feeds that will join them are not counted, though. So the data of a
frame may be longer than the limit, by no more than the line feeds that it has
(`held_within_limits`), and since an empty line of data counts for nothing, there is no limit to how
many of them are held (`empty_data_held`).
-/

namespace LiveTabs.EventStream

open Text

/-- The bytes of further texts are added to those of the texts before, as the decoder counts
them. -/
theorem size_of_all_append (first second : List String) :
    sizeOfAll (first ++ second) = sizeOfAll first + sizeOfAll second := by
  induction first with
  | nil => rw [List.nil_append, sizeOfAll, Nat.zero_add]
  | cons text texts inductionHypothesis =>
    rw [List.cons_append, sizeOfAll, sizeOfAll, inductionHypothesis, Nat.add_assoc]

/-- Line feeds between texts add a byte for every text but the first. These are the bytes that the
limit does not count. -/
theorem size_intercalate (texts : List String) :
    (String.intercalate "\n" texts).utf8ByteSize = sizeOfAll texts + (texts.length - 1) := by
  induction texts with
  | nil => rfl
  | cons text texts inductionHypothesis =>
    have lineFeed : "\n".utf8ByteSize = 1 := rfl
    obtain _ | ⟨next, texts⟩ := texts
    · simp [sizeOfAll]
    · rw [String.intercalate_cons_cons, String.utf8ByteSize_append, String.utf8ByteSize_append,
        inductionHypothesis, lineFeed]
      simp only [sizeOfAll, List.length_cons, Nat.add_sub_cancel]
      omega

/-- The line feeds between texts are among those of the whole, so the bytes that the limit does not
count are bounded by the line feeds of the data. -/
theorem count_intercalate (texts : List String) :
    texts.length - 1 ≤ (String.intercalate "\n" texts).toList.count '\n' := by
  induction texts with
  | nil => exact Nat.zero_le _
  | cons text texts inductionHypothesis =>
    have lineFeed : "\n".toList.count '\n' = 1 := rfl
    obtain _ | ⟨next, texts⟩ := texts
    · exact Nat.zero_le _
    · rw [String.intercalate_cons_cons, String.toList_append, String.toList_append,
        List.count_append, List.count_append, lineFeed, List.length_cons]
      rw [List.length_cons] at inductionHypothesis ⊢
      omega

/-- Empty texts have no bytes, however many they are: the limit never stops them. -/
theorem size_of_empty (count : Nat) : sizeOfAll (List.replicate count "") = 0 := by
  induction count with
  | zero => rfl
  | succ count inductionHypothesis =>
    rw [List.replicate_succ, sizeOfAll, inductionHypothesis]
    rfl

/-- The limits that a frame keeps to. -/
structure Frame.Bounded (frame : Frame) : Prop where
  event : frame.event.utf8ByteSize ≤ 3 * lineLimit
  data : frame.data.utf8ByteSize ≤ dataLimit + frame.data.toList.count '\n'
  id : ∀ id ∈ frame.id, id.utf8ByteSize ≤ 3 * lineLimit

namespace Draft

/-- The data that the frame would have if it ended now. -/
def joinedData (draft : Draft) : String := String.intercalate "\n" draft.data.toList

/-- The limits that a draft keeps to, whatever lines it takes. -/
structure Bounded (draft : Draft) : Prop where
  name : ∀ name ∈ draft.name, name.utf8ByteSize ≤ 3 * lineLimit
  counted : draft.dataSize = sizeOfAll draft.data.toList
  small : draft.dataSize ≤ dataLimit
  id : ∀ id ∈ draft.id, id.utf8ByteSize ≤ 3 * lineLimit

/-- A fresh draft holds nothing, so it is within all limits. This is where a body begins. -/
theorem bounded_fresh : ({} : Draft).Bounded :=
  ⟨nofun, rfl, Nat.zero_le _, nofun⟩

variable {draft : Draft}

/-- The draft of the next frame holds nothing but the id, which was within its limit before. -/
theorem Bounded.next (bounded : draft.Bounded) : draft.next.Bounded :=
  ⟨nofun, rfl, Nat.zero_le _, bounded.id⟩

/-- A field takes its value into the draft as far as there is room: a value of data that would go
beyond the limit is not kept, and the others are bounded by their line. -/
theorem Bounded.take_field (bounded : draft.Bounded) (field : List Char) {value : List Char}
    (short : (String.ofList value).utf8ByteSize ≤ 3 * lineLimit) :
    (draft.takeField field value).Bounded := by
  have taken : ∀ text ∈ some (String.ofList value), text.utf8ByteSize ≤ 3 * lineLimit := by
    rintro _ ⟨⟩
    exact short
  rw [takeField]
  split
  · exact { bounded with name := taken }
  · split
    · split
      · exact { bounded with }
      · rename_i room
        refine { bounded with counted := ?_, small := Nat.not_lt.mp room }
        simp only [Array.toList_push, size_of_all_append, sizeOfAll, Nat.add_zero, bounded.counted]
    · split
      · split
        · exact bounded
        · exact { bounded with id := taken }
      · exact bounded

/-- The value of a field is the end of its line, so it is no longer than the line. -/
theorem value_suffix (line : List Char) : (splitField line).2 <:+ line := by
  have after : line.dropWhile (· != ':') <:+ line := List.dropWhile_suffix _
  rw [splitField]
  split
  · rename_i colon value rest
    rw [rest] at after
    exact ((List.suffix_cons ' ' value).trans (List.suffix_cons colon _)).trans after
  · rename_i colon value unspaced rest
    rw [rest] at after
    exact (List.suffix_cons colon value).trans after
  · exact List.nil_suffix

/-- A draft within its limits makes a frame within its limits. The line feeds that join the data are
counted apart, because the draft does not count them. -/
theorem Bounded.frame (bounded : draft.Bounded) : ∀ frame ∈ draft.frame?, frame.Bounded := by
  intro frame made
  rw [frame?] at made
  split at made
  · cases made
  · split at made
    · cases made
    · cases made
      have counted := bounded.counted
      have small := bounded.small
      have feeds := count_intercalate draft.data.toList
      refine ⟨?_, ?_, bounded.id⟩
      · rcases named : draft.name.filter fun name => !name.isEmpty with _ | name
        · simp only [named]
          decide
        · simp only [named]
          exact bounded.name name (Option.filter_eq_some_iff.mp named).1
      · simp only [size_intercalate]
        omega

/-- A line of text leaves the draft within its limits, and so is the frame that it ends. -/
theorem Bounded.take_line (bounded : draft.Bounded) {line : String}
    (short : line.utf8ByteSize ≤ 3 * lineLimit) :
    (draft.takeLine line).1.Bounded ∧ ∀ frame ∈ (draft.takeLine line).2, frame.Bounded := by
  have value := Utf8.size_of_suffix (value_suffix line.toList)
  rw [String.ofList_toList] at value
  rw [takeLine]
  split
  · exact ⟨bounded.next, bounded.frame⟩
  · exact ⟨bounded, by simp⟩
  · exact ⟨bounded.take_field _ (Nat.le_trans value short), by simp⟩

/-- So does a line of bytes: those of a line that is not left out are at most so many. -/
theorem Bounded.read_line (bounded : draft.Bounded) (line : List UInt8) :
    (draft.readLine line).1.Bounded ∧ ∀ frame ∈ (draft.readLine line).2, frame.Bounded := by
  rw [readLine]
  split
  · exact ⟨bounded, by simp⟩
  · rename_i short
    have without : (Decoder.withoutReturn line).length ≤ line.length := by
      rw [Decoder.withoutReturn]
      split
      · exact (List.dropLast_sublist line).length_le
      · exact Nat.le_refl _
    have size := Utf8.size_decode (Decoder.withoutReturn line)
    exact bounded.take_line (by omega)

/-- And so do lines that follow each other, by induction: every frame on the way is within the
limits, and so is the draft that is left. -/
theorem Bounded.read_lines (bounded : draft.Bounded) (lines : List (List UInt8)) :
    (draft.readLines lines).1.Bounded ∧ ∀ frame ∈ (draft.readLines lines).2, frame.Bounded := by
  induction lines generalizing draft with
  | nil => exact ⟨bounded, List.forall_mem_nil _⟩
  | cons line lines inductionHypothesis =>
    obtain ⟨next, first⟩ := bounded.read_line line
    obtain ⟨last, others⟩ := inductionHypothesis next
    rw [readLines]
    refine ⟨last, List.forall_mem_append.mpr ⟨?_, others⟩⟩
    intro frame ended
    exact first frame (Option.mem_toList.mp ended)

end Draft

/-- Empty lines of data. -/
def emptyData (count : Nat) : List (List UInt8) :=
  ((List.replicate count "").map (fieldLine "data")).map Utf8.encode

section EmptyData

variable (count : Nat)

/-- They hold nothing that would end a line, so they come back from the decoder as they were
written. -/
theorem empty_data_plain : ∀ piece ∈ List.replicate count "", Plain piece := by
  intro piece there
  rw [List.eq_of_mem_replicate there]
  exact ⟨by decide, by decide⟩

/-- Their lines are short, so none of them is left out for its length. -/
theorem empty_data_short :
    ∀ line ∈ (List.replicate count "").map (fieldLine "data"),
      (Utf8.encode line).length ≤ lineLimit := by
  rw [List.map_replicate]
  intro line there
  rw [List.eq_of_mem_replicate there]
  decide

/-- They count for nothing, so the limit on the data of a frame lets any number of them pass. -/
theorem empty_data_small : sizeOfAll (List.replicate count "") ≤ dataLimit := by
  rw [size_of_empty]
  exact Nat.zero_le _

/-- They are cut apart again, with empty lines after them or without. The two cases are the draft
before the frame is made and the frame itself. -/
theorem cut_empty_data {after : List (List UInt8)} (empty : ∀ line ∈ after, line = []) :
    (cut [] (ended (emptyData count ++ after))).lines = emptyData count ++ after := by
  have unbroken : ∀ line ∈ emptyData count ++ after, lineFeed ∉ line := by
    refine List.forall_mem_append.mpr ⟨?_, ?_⟩
    · rw [emptyData, List.map_replicate, List.map_replicate]
      intro line there
      rw [List.eq_of_mem_replicate there]
      decide
    · intro line there
      rw [empty line there]
      exact List.not_mem_nil
  rw [cut_ended unbroken]

end EmptyData

namespace Decoder

/-- After some chunks a decoder stands in the line that is not complete, and its draft is that of
the lines that are. -/
theorem Awaits.all_read {decoder : Decoder} {line : List UInt8} (awaits : decoder.Awaits line)
    (chunks : List (List UInt8)) :
    let body := cut line chunks.flatten
    (decoder.feedAll chunks).1.draft = (decoder.draft.readLines body.lines).1 ∧
      (decoder.feedAll chunks).1.Awaits body.rest := by
  induction chunks generalizing decoder line with
  | nil => exact ⟨rfl, awaits⟩
  | cons chunk chunks inductionHypothesis =>
    obtain ⟨frames, draft, later⟩ := awaits.fed chunk
    obtain ⟨drafts, last⟩ := inductionHypothesis later
    simp only [feed_all_cons, List.flatten_cons, cut_append, Draft.read_lines_append, ← draft]
    exact ⟨drafts, last⟩

/-- The draft after some chunks is that of the complete lines of the body, wherever the body was
cut. -/
theorem draft_of_chunks (chunks : List (List UInt8)) :
    (({} : Decoder).feedAll chunks).1.draft =
      (({} : Draft).readLines (cut [] chunks.flatten).lines).1 :=
  (awaits_fresh.all_read chunks).1

/-- Whatever chunks a fresh decoder was given, what it holds between two of them and every frame
that it gave keep to their limits. The lines of data that it holds have at most as many bytes as a
frame may have, and their joined text has one byte more for each line but the first.

Proof: the draft and the frames are those of the complete lines of the body, and each line that is
read leaves the draft within its limits. -/
theorem held_within_limits (chunks : List (List UInt8)) :
    (∀ frame ∈ (({} : Decoder).feedAll chunks).2.flatten, frame.Bounded) ∧
      let held := (({} : Decoder).feedAll chunks).1
      held.buffer.size ≤ lineLimit ∧ held.draft.Bounded ∧
        held.draft.joinedData.utf8ByteSize = held.draft.dataSize + (held.draft.data.size - 1) := by
  obtain ⟨draft, awaits⟩ := awaits_fresh.all_read chunks
  obtain ⟨held, frames⟩ := Draft.bounded_fresh.read_lines (cut [] chunks.flatten).lines
  have bounded : (({} : Decoder).feedAll chunks).1.draft.Bounded := by
    rw [draft]
    exact held
  refine ⟨?_, awaits.bounded, bounded, ?_⟩
  · rw [frames_of_chunks, framesOf]
    exact frames
  · rw [Draft.joinedData, size_intercalate, bounded.counted, Array.length_toList]

/-- However many empty lines of data come, all are held, and their joined text has a line feed for
each but the first. -/
theorem empty_data_held (count : Nat) :
    let draft := (({} : Decoder).feedAll [ended (emptyData count)]).1.draft
    draft.data.size = count ∧ draft.joinedData.utf8ByteSize = count - 1 := by
  intro draft
  have lines := cut_empty_data count (List.forall_mem_nil _)
  rw [List.append_nil] at lines
  have read := Draft.read_pieces {} (empty_data_plain count) (empty_data_short count)
    (by simpa using empty_data_small count)
  have held : draft = ({} : Draft).withData (List.replicate count "") := by
    rw [show draft = _ from draft_of_chunks _, List.flatten_singleton, lines]
    exact congrArg Prod.fst read
  rw [held]
  simp [Draft.withData, Draft.joinedData, size_intercalate, size_of_empty]

/-- An empty line makes a frame of them that has these line feeds as its data, one fewer than there
were lines. -/
theorem frame_of_empty_data {count : Nat} (given : 0 < count) :
    (({} : Decoder).feedAll [ended (emptyData count ++ [[]])]).2.flatten =
      [⟨defaultName, String.intercalate "\n" (List.replicate count ""), none⟩] := by
  have some : List.replicate count "" ≠ [] := by
    rw [ne_eq, List.replicate_eq_nil_iff]
    exact Nat.pos_iff_ne_zero.mp given
  have read := Draft.read_unnamed some (empty_data_plain count) (empty_data_short count)
    (empty_data_small count)
  rw [frames_of_chunks, framesOf, List.flatten_singleton, cut_empty_data count (by simp)]
  exact congrArg Prod.snd read

/-- Two more empty lines of data than a frame may have bytes of data are held, and their joined text
is longer than that by one byte. So is the data of the frame that they make. -/
theorem data_beyond_limit :
    let lines := emptyData (dataLimit + 2)
    let held := (({} : Decoder).feedAll [ended lines]).1.draft.joinedData
    let frames := (({} : Decoder).feedAll [ended (lines ++ [[]])]).2.flatten
    held.utf8ByteSize = dataLimit + 1 ∧
      frames.map (fun frame => frame.data.utf8ByteSize) = [dataLimit + 1] := by
  intro lines held frames
  refine ⟨(empty_data_held (dataLimit + 2)).2, ?_⟩
  rw [show frames = _ from frame_of_empty_data (Nat.succ_pos _), List.map_singleton,
    size_intercalate, size_of_empty, List.length_replicate, Nat.zero_add]
  rfl

end Decoder

end LiveTabs.EventStream
