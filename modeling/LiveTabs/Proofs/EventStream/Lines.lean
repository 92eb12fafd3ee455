import LiveTabs.EventStream.Decoder

/-!
# The lines of an event stream

The body of an event stream as a whole is a sequence of lines, each ended by a line feed, and bytes
of a line that is not complete. `cut` takes bytes apart in this way, and `Draft.readLines` drafts
frames from complete lines. Together they say what a stream of bytes means without a buffer and
without regard to how it arrives.
-/

namespace LiveTabs.EventStream

/-- Bytes that are cut at their line feeds. -/
structure Cut where
  /-- The complete lines, without their line feeds. -/
  lines : List (List UInt8)
  /-- The bytes of the line that is not complete. -/
  rest : List UInt8

/-- Cuts bytes at their line feeds, where the first line begins with the bytes of `line`. -/
def cut (line : List UInt8) : List UInt8 → Cut
  | [] => ⟨[], line⟩
  | byte :: bytes =>
    if byte = lineFeed then
      let later := cut [] bytes
      ⟨line :: later.lines, later.rest⟩
    else cut (line ++ [byte]) bytes

/-- The line that is left over by some bytes goes on in the bytes that follow. So bytes may be cut
into lines piece by piece. -/
theorem cut_append (line first second : List UInt8) :
    cut line (first ++ second) =
      ⟨(cut line first).lines ++ (cut (cut line first).rest second).lines,
        (cut (cut line first).rest second).rest⟩ := by
  induction first generalizing line with
  | nil => rfl
  | cons byte bytes inductionHypothesis =>
    rw [List.cons_append, cut, cut]
    split
    · rw [inductionHypothesis]
      rfl
    · exact inductionHypothesis _

/-- Bytes without a line feed complete no line, they only prolong the one that has begun. -/
theorem cut_unbroken (line : List UInt8) {bytes : List UInt8} (unbroken : lineFeed ∉ bytes) :
    cut line bytes = ⟨[], line ++ bytes⟩ := by
  induction bytes generalizing line with
  | nil => rw [cut, List.append_nil]
  | cons byte bytes inductionHypothesis =>
    obtain ⟨other, unbroken⟩ := not_or.mp (mt List.mem_cons.mpr unbroken)
    rw [cut, if_neg (Ne.symm other), inductionHypothesis _ unbroken, List.append_assoc,
      List.singleton_append]

/-- Bytes up to a line feed complete the line that has begun, and the next one begins with
nothing. -/
theorem cut_line (line bytes : List UInt8) {segment : List UInt8} (unbroken : lineFeed ∉ segment) :
    cut line (segment ++ lineFeed :: bytes) =
      ⟨(line ++ segment) :: (cut [] bytes).lines, (cut [] bytes).rest⟩ := by
  rw [cut_append, cut_unbroken line unbroken, cut, if_pos rfl]
  rfl

/-- The bytes of lines that are each ended by a line feed. -/
def ended (lines : List (List UInt8)) : List UInt8 := lines.flatMap (· ++ [lineFeed])

/-- Lines that were put together are cut apart again, as long as none of them has a line feed in
itself. This is how a body that was written is read. -/
theorem cut_ended {lines : List (List UInt8)} (unbroken : ∀ line ∈ lines, lineFeed ∉ line) :
    cut [] (ended lines) = ⟨lines, []⟩ := by
  induction lines with
  | nil => rfl
  | cons line lines inductionHypothesis =>
    obtain ⟨first, others⟩ := List.forall_mem_cons.mp unbroken
    rw [ended, List.flatMap_cons, List.append_assoc, List.singleton_append, cut_line [] _ first,
      ← ended, inductionHypothesis others, List.nil_append]

namespace Draft

/-- Takes the bytes of a line into the draft, unless the line is too long. -/
def readLine (draft : Draft) (line : List UInt8) : Draft × Option Frame :=
  if lineLimit < line.length then (draft, none)
  else draft.takeLine (Text.Utf8.decode (Decoder.withoutReturn line))

/-- Takes lines into the draft one after the other, and gives the frames that they complete. -/
def readLines : Draft → List (List UInt8) → Draft × List Frame
  | draft, [] => (draft, [])
  | draft, line :: lines =>
    let (next, frame) := draft.readLine line
    let (last, frames) := next.readLines lines
    (last, frame.toList ++ frames)

/-- Lines that follow each other are taken into the draft one after the other, and the frames of the
later ones come after those of the earlier ones. -/
theorem read_lines_append (draft : Draft) (first second : List (List UInt8)) :
    draft.readLines (first ++ second) =
      (((draft.readLines first).1.readLines second).1,
        (draft.readLines first).2 ++ ((draft.readLines first).1.readLines second).2) := by
  induction first generalizing draft with
  | nil => rfl
  | cons line lines inductionHypothesis =>
    rw [List.cons_append, readLines, readLines]
    simp only [inductionHypothesis, List.append_assoc]

end Draft

/-- The frames that bytes complete. -/
def framesOf (bytes : List UInt8) : List Frame := (({} : Draft).readLines (cut [] bytes).lines).2

end LiveTabs.EventStream
