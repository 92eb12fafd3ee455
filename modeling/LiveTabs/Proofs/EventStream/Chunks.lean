import LiveTabs.Proofs.EventStream.Lines

/-!
# Chunks of an event stream

A decoder is given the body of an event stream in chunks. What it holds between them depends on
where the chunks end: a line that is being left out may be held in part or not at all. What it will
make of the bytes that follow does not depend on that. `Inside` says that the decoder stands inside
a line that began with certain bytes, whether it still holds them or has found the line too long,
and this is kept by every line that is taken, by every pass over a chunk and by every chunk. So the
frames are those of the lines of the whole body (`frames_of_chunks`), wherever the body was cut.
-/

namespace LiveTabs.EventStream

/-- The bytes of a buffer between two places. -/
def span (buffer : Array UInt8) (first last : Nat) : List UInt8 :=
  (buffer.extract first last).toList

/-- The span from a place to the same place is empty. -/
@[simp] theorem span_self (buffer : Array UInt8) (place : Nat) : span buffer place place = [] := by
  simp [span]

/-- How many bytes there are between two places of the buffer. The decoder judges the length of a
line by this difference. -/
theorem length_span {buffer : Array UInt8} {first last : Nat} (inside : last ≤ buffer.size) :
    (span buffer first last).length = last - first := by
  rw [span, Array.length_toList, Array.size_extract, Nat.min_eq_left inside]

/-- Two spans that meet make one. A line grows by this while the search for its end moves on. -/
theorem span_append {buffer : Array UInt8} {first middle last : Nat} (before : first ≤ middle)
    (after : middle ≤ last) :
    span buffer first middle ++ span buffer middle last = span buffer first last := by
  rw [span, span, ← Array.toList_append, Array.extract_append_extract,
    Nat.min_eq_left before, Nat.max_eq_right after, span]

/-- A span begins with the byte at its first place, so a search through the buffer can be followed
byte by byte. -/
theorem span_cons {buffer : Array UInt8} {place last : Nat} (before : place < last)
    (inside : place < buffer.size) :
    span buffer place last = buffer[place] :: span buffer (place + 1) last := by
  rw [span, span, Array.toList_extract, Array.toList_extract, List.extract_eq_take_drop,
    List.extract_eq_take_drop, List.drop_eq_getElem_cons inside,
    show last - place = last - (place + 1) + 1 by omega, List.take_succ_cons, Array.getElem_toList]

/-- The whole of a buffer is one span. -/
theorem span_whole (buffer : Array UInt8) : span buffer 0 buffer.size = buffer.toList := by
  rw [span, Array.extract_size]

/-- A chunk that is added to a buffer leaves the spans before it, hence what the decoder holds of a
line. -/
theorem span_of_longer {buffer : Array UInt8} (chunk : List UInt8) {first last : Nat}
    (inside : last ≤ buffer.size) :
    span (buffer ++ chunk) first last = span buffer first last := by
  rcases Nat.lt_or_ge first last with before | empty
  · have fits : last - first ≤ (buffer.toList.drop first).length := by
      rw [List.length_drop, Array.length_toList]
      omega
    have starts : first ≤ buffer.toList.length := by
      rw [Array.length_toList]
      omega
    simp only [span, Array.toList_extract, List.extract_eq_take_drop, Array.toList_appendList]
    rw [List.drop_append_of_le_length starts, List.take_append_of_le_length fits]
  · simp [span, Nat.sub_eq_zero_of_le empty]

/-- A chunk that is added to a buffer is the span after it: nothing else is ahead of a decoder that
had looked at everything. -/
theorem span_of_chunk (buffer : Array UInt8) (chunk : List UInt8) :
    span (buffer ++ chunk) buffer.size (buffer ++ chunk).size = chunk := by
  have longer : (buffer ++ chunk).size - buffer.size = chunk.length := by
    rw [← Array.length_toList, Array.toList_appendList, List.length_append, Array.length_toList]
    omega
  simp only [span, Array.toList_extract, List.extract_eq_take_drop, longer]
  rw [Array.toList_appendList, ← Array.length_toList, List.drop_left, List.take_length]

namespace Decoder

/-- Where no line feed is found, there is none from the place of the search to the end of the
buffer: all of that belongs to a line that has not ended. -/
theorem unbroken_of_none {buffer : Array UInt8} {place : Nat}
    (missed : findLineFeed buffer place = none) : lineFeed ∉ span buffer place buffer.size := by
  fun_induction findLineFeed buffer place with
  | case1 place inside isLineFeed => cases missed
  | case2 place inside other inductionHypothesis =>
    rw [span_cons inside inside, List.mem_cons, not_or]
    exact ⟨Ne.symm other, inductionHypothesis missed⟩
  | case3 place outside => simp [span, Array.extract_empty_of_size_le_start (Nat.not_lt.mp outside)]

/-- The line feed that is found is the first one, so the bytes before it belong to one line. -/
theorem unbroken_of_some {buffer : Array UInt8} {place found : Nat}
    (hit : findLineFeed buffer place = some found) : lineFeed ∉ span buffer place found := by
  fun_induction findLineFeed buffer place with
  | case1 place inside isLineFeed =>
    cases hit
    rw [span_self]
    exact List.not_mem_nil
  | case2 place inside other inductionHypothesis =>
    have bounds := findLineFeed_bounds hit
    rw [span_cons (by omega) inside, List.mem_cons, not_or]
    exact ⟨Ne.symm other, inductionHypothesis hit⟩
  | case3 place outside => cases hit

/-- What is found is a line feed, so cutting the buffer there is a cut at the end of a line. -/
theorem getElem_of_some {buffer : Array UInt8} {place found : Nat}
    (hit : findLineFeed buffer place = some found) : buffer[found]? = some lineFeed := by
  fun_induction findLineFeed buffer place with
  | case1 place inside isLineFeed =>
    cases hit
    rw [Array.getElem?_eq_getElem inside, isLineFeed]
  | case2 place inside other inductionHypothesis => exact inductionHypothesis hit
  | case3 place outside => cases hit

/-- A line feed that is found cuts the bytes from the place where the search began: those of the
line, the line feed, and those that follow. -/
theorem span_of_some {buffer : Array UInt8} {place found : Nat}
    (hit : findLineFeed buffer place = some found) :
    span buffer place buffer.size =
      span buffer place found ++ lineFeed :: span buffer (found + 1) buffer.size := by
  obtain ⟨after, inside⟩ := findLineFeed_bounds hit
  have isLineFeed : buffer[found] = lineFeed := by
    have found := getElem_of_some hit
    rwa [Array.getElem?_eq_getElem inside, Option.some_inj] at found
  rw [← span_append after (Nat.le_of_lt inside), span_cons inside inside, isLineFeed]

/-- The bytes of the buffer that were not looked at yet. -/
def ahead (decoder : Decoder) : List UInt8 :=
  span decoder.buffer decoder.scanned decoder.buffer.size

/-- At a place of its buffer the decoder stands inside a line that began with certain bytes: it
holds them from the start of the line on, unless it leaves the line out because it is too long. -/
structure Inside (decoder : Decoder) (lineStart place : Nat) (line : List UInt8) : Prop where
  started : lineStart ≤ place
  bounded : place ≤ decoder.buffer.size
  unbroken : lineFeed ∉ span decoder.buffer lineStart place
  held : decoder.skipping = false → span decoder.buffer lineStart place = line
  overlong : decoder.skipping = true → lineLimit < line.length

section Pass

variable {decoder : Decoder} {lineStart : Nat} {line : List UInt8}

/-- Bytes without a line feed belong to the line. A line that was too long stays too long, so this
holds whether or not the line is being left out. -/
theorem Inside.advance {place further : Nat} (inside : decoder.Inside lineStart place line)
    (after : place ≤ further) (bounded : further ≤ decoder.buffer.size)
    (unbroken : lineFeed ∉ span decoder.buffer place further) :
    decoder.Inside lineStart further (line ++ span decoder.buffer place further) where
  started := Nat.le_trans inside.started after
  bounded := bounded
  unbroken := by
    rw [← span_append inside.started after, List.mem_append, not_or]
    exact ⟨inside.unbroken, unbroken⟩
  held kept := by rw [← span_append inside.started after, inside.held kept]
  overlong skips := by
    have overlong := inside.overlong skips
    rw [List.length_append]
    omega

/-- Where a line ends, the decoder reads it as the account by lines does, that is, unless it is too
long. The decoder may hold only a part of such a line, but then it knows by its flag. -/
theorem Inside.line_read {lineEnd : Nat} (inside : decoder.Inside lineStart lineEnd line) :
    (decoder.takeLine lineStart lineEnd).1.draft = (decoder.draft.readLine line).1 ∧
      (decoder.takeLine lineStart lineEnd).2 = (decoder.draft.readLine line).2 := by
  rcases skips : decoder.skipping with _ | _
  · have whole := inside.held skips
    have length : line.length = lineEnd - lineStart := by
      rw [← whole, length_span inside.bounded]
    rw [takeLine, Draft.readLine, skips, length, ← whole]
    by_cases long : lineLimit < lineEnd - lineStart
    · simp only [long, or_true, if_true, and_self]
    · simp only [long, Bool.false_eq_true, or_self, if_false, span, and_self]
  · -- What is held of the line may be short here: only the flag knows that the whole is too long.
    have long := inside.overlong skips
    simp only [takeLine, skips, Draft.readLine, long, true_or, if_true, and_self]

end Pass

/-- Taking a line leaves the buffer. It is shortened once at the end of a pass, not with each
line. -/
@[simp] theorem buffer_takeLine (decoder : Decoder) (lineStart lineEnd : Nat) :
    (decoder.takeLine lineStart lineEnd).1.buffer = decoder.buffer := by
  rw [takeLine]
  split <;> rfl

/-- Taking a line moves behind its line feed, which is where the search for the next one begins. -/
@[simp] theorem scanned_takeLine (decoder : Decoder) (lineStart lineEnd : Nat) :
    (decoder.takeLine lineStart lineEnd).1.scanned = lineEnd + 1 := by
  rw [takeLine]
  split <;> rfl

/-- After a line has ended nothing is left out any more: that a line is too long says nothing about
the next one. -/
@[simp] theorem skipping_takeLine (decoder : Decoder) (lineStart lineEnd : Nat) :
    (decoder.takeLine lineStart lineEnd).1.skipping = false := by
  rw [takeLine]
  split <;> rfl

/-- After a line the decoder stands at the start of the next one, of which it has no bytes yet. -/
theorem inside_next (decoder : Decoder) (lineStart : Nat) {lineEnd : Nat}
    (bounded : lineEnd < decoder.buffer.size) :
    (decoder.takeLine lineStart lineEnd).1.Inside (lineEnd + 1) (lineEnd + 1) [] where
  started := Nat.le_refl _
  bounded := by
    rw [buffer_takeLine]
    exact bounded
  unbroken := by
    rw [span_self]
    exact List.not_mem_nil
  held _ := span_self _ _
  overlong skips := by
    rw [skipping_takeLine] at skips
    cases skips

/-- A line feed that is found cuts what is ahead: the rest of the line, and what comes after it. -/
theorem cut_ahead {decoder : Decoder} (line : List UInt8) (lineStart : Nat) {lineEnd : Nat}
    (hit : findLineFeed decoder.buffer decoder.scanned = some lineEnd) :
    cut line decoder.ahead =
      let later := cut [] (decoder.takeLine lineStart lineEnd).1.ahead
      ⟨(line ++ span decoder.buffer decoder.scanned lineEnd) :: later.lines, later.rest⟩ := by
  rw [ahead, span_of_some hit, cut_line line _ (unbroken_of_some hit), ahead, buffer_takeLine,
    scanned_takeLine]

/-- A pass over the buffer takes the lines that are complete, and ends inside the one that is not.

Proof: by induction on the pass. A line feed that is found cuts what is ahead into the rest of the
line and the bytes after it, which begin a line of their own; where none is found, there is only a
rest of the line. -/
theorem Inside.lines_read {decoder : Decoder} {lineStart : Nat} {line : List UInt8}
    (inside : decoder.Inside lineStart decoder.scanned line) (frames : List Frame) :
    let body := cut line decoder.ahead
    let read := decoder.draft.readLines body.lines
    let passed := decoder.takeLines lineStart frames
    passed.1.draft = read.1 ∧ passed.2.2.reverse = frames.reverse ++ read.2 ∧
      passed.1.Inside passed.2.1 passed.1.buffer.size body.rest := by
  fun_induction takeLines decoder lineStart frames generalizing line with
  | case1 decoder lineStart frames missed =>
    have unbroken := unbroken_of_none missed
    simp only [ahead, cut_unbroken line unbroken, Draft.readLines, List.append_nil, true_and]
    exact inside.advance inside.bounded (Nat.le_refl _) unbroken
  | case2 decoder lineStart frames lineEnd hit shorter taken =>
    rename_i inductionHypothesis
    obtain ⟨after, bounded⟩ := findLineFeed_bounds hit
    have unbroken := unbroken_of_some hit
    obtain ⟨draft, frame⟩ :=
      (inside.advance after (Nat.le_of_lt bounded) unbroken).line_read
    have start : taken.1.Inside (lineEnd + 1) taken.1.scanned [] := by
      rw [show taken.1.scanned = lineEnd + 1 from scanned_takeLine _ _ _]
      exact decoder.inside_next lineStart bounded
    obtain ⟨drafts, found, passed⟩ := inductionHypothesis start
    simp only [cut_ahead line lineStart hit, Draft.readLines, ← draft, ← frame]
    refine ⟨drafts, ?_, passed⟩
    rw [found, List.reverse_append, List.append_assoc]
    rcases taken.2 with _ | frame <;> rfl

/-- Between two chunks the decoder stands at the end of what it holds, which is no more than a line
may have. -/
structure Awaits (decoder : Decoder) (line : List UInt8) : Prop where
  inside : decoder.Inside 0 decoder.scanned line
  searched : decoder.scanned = decoder.buffer.size
  bounded : decoder.buffer.size ≤ lineLimit

/-- What is kept after a pass is the line that is not complete, unless it is too long. -/
theorem settle_eq (decoder : Decoder) (lineStart : Nat) :
    decoder.settle lineStart =
      if lineLimit < (span decoder.buffer lineStart decoder.buffer.size).length then
        { decoder with buffer := #[], scanned := 0, skipping := true }
      else
        { decoder with
          buffer := decoder.buffer.extract lineStart decoder.buffer.size
          scanned := (span decoder.buffer lineStart decoder.buffer.size).length } := by
  have kept : (if lineStart = 0 then decoder.buffer
      else decoder.buffer.extract lineStart decoder.buffer.size) =
        decoder.buffer.extract lineStart decoder.buffer.size := by
    split
    · rename_i first
      rw [first, Array.extract_size]
    · rfl
  rw [settle, kept, span, Array.length_toList]

/-- Settling leaves the draft, since it is about the bytes of a line that has not ended. -/
@[simp] theorem draft_settle (decoder : Decoder) (lineStart : Nat) :
    (decoder.settle lineStart).draft = decoder.draft := by
  rw [settle_eq]
  split <;> rfl

/-- After a pass, the decoder keeps no more than it may and stands in the same line. -/
theorem Inside.settled {decoder : Decoder} {lineStart : Nat} {line : List UInt8}
    (inside : decoder.Inside lineStart decoder.buffer.size line) :
    (decoder.settle lineStart).Awaits line := by
  have size : (decoder.buffer.extract lineStart decoder.buffer.size).size =
      (span decoder.buffer lineStart decoder.buffer.size).length := Array.length_toList.symm
  rw [settle_eq]
  split
  · rename_i long
    -- The bytes are dropped, so from here on only the flag stands for them.
    have overlong : lineLimit < line.length := by
      rcases skips : decoder.skipping with _ | _
      · rwa [inside.held skips] at long
      · exact inside.overlong skips
    exact
      { inside :=
          { started := Nat.le_refl _
            bounded := Nat.le_refl _
            unbroken := List.not_mem_nil
            held := nofun
            overlong := fun _ => overlong }
        searched := rfl
        bounded := Nat.zero_le _ }
  · rename_i short
    have whole : span (decoder.buffer.extract lineStart decoder.buffer.size) 0
        (span decoder.buffer lineStart decoder.buffer.size).length =
          span decoder.buffer lineStart decoder.buffer.size := by
      rw [← size, span_whole, span]
    exact
      { inside :=
          { started := Nat.zero_le _
            bounded := Nat.le_of_eq size.symm
            unbroken := by
              rw [whole]
              exact inside.unbroken
            held := fun kept => whole.trans (inside.held kept)
            overlong := inside.overlong }
        searched := size.symm
        bounded := by
          rw [size]
          exact Nat.not_lt.mp short }

/-- A chunk that was added to the buffer leaves the decoder inside the line in which it was. This is
where a pass over the chunk begins. -/
theorem Awaits.inside_chunk {decoder : Decoder} {line : List UInt8} (awaits : decoder.Awaits line)
    (chunk : List UInt8) :
    { decoder with buffer := decoder.buffer ++ chunk : Decoder }.Inside 0 decoder.scanned line := by
  have same : span (decoder.buffer ++ chunk) 0 decoder.scanned =
      span decoder.buffer 0 decoder.scanned := span_of_longer chunk awaits.inside.bounded
  exact
    { started := awaits.inside.started
      bounded := by
        rw [awaits.searched, ← Array.length_toList, ← Array.length_toList, Array.toList_appendList,
          List.length_append]
        exact Nat.le_add_right _ _
      unbroken := by
        rw [same]
        exact awaits.inside.unbroken
      held := fun kept => same.trans (awaits.inside.held kept)
      overlong := awaits.inside.overlong }

/-- A chunk gives the frames of the lines that it completes, and afterwards the decoder awaits the
rest of the line that it does not complete. This is the step on which everything about several
chunks rests. -/
theorem Awaits.fed {decoder : Decoder} {line : List UInt8} (awaits : decoder.Awaits line)
    (chunk : List UInt8) :
    let body := cut line chunk
    let read := decoder.draft.readLines body.lines
    (decoder.feed chunk).2 = read.2 ∧ (decoder.feed chunk).1.draft = read.1 ∧
      (decoder.feed chunk).1.Awaits body.rest := by
  obtain ⟨draft, frames, inside⟩ := (awaits.inside_chunk chunk).lines_read []
  have ahead : { decoder with buffer := decoder.buffer ++ chunk : Decoder }.ahead = chunk := by
    rw [Decoder.ahead, awaits.searched, span_of_chunk]
  rw [ahead] at draft frames inside
  simp only [feed]
  exact ⟨frames, (draft_settle _ _).trans draft, inside.settled⟩

/-- A fresh decoder stands at the start of a line, which is where a body begins. -/
theorem awaits_fresh : ({} : Decoder).Awaits [] where
  inside :=
    { started := Nat.le_refl _
      bounded := Nat.le_refl _
      unbroken := List.not_mem_nil
      held := fun _ => rfl
      overlong := nofun }
  searched := rfl
  bounded := Nat.zero_le _

/-- A chunk is fed and its frames are put before those of the earlier chunks. -/
def feedNext (state : Decoder × List (List Frame)) (chunk : List UInt8) :
    Decoder × List (List Frame) :=
  ((state.1.feed chunk).1, (state.1.feed chunk).2 :: state.2)

/-- Frames that were found earlier stay where they are, so what a chunk gives can be told apart from
what was given before it. -/
theorem foldl_feedNext (decoder : Decoder) (earlier : List (List Frame))
    (chunks : List (List UInt8)) :
    chunks.foldl feedNext (decoder, earlier) =
      ((chunks.foldl feedNext (decoder, [])).1,
        (chunks.foldl feedNext (decoder, [])).2 ++ earlier) := by
  induction chunks generalizing decoder earlier with
  | nil => rfl
  | cons chunk chunks inductionHypothesis =>
    rw [List.foldl_cons, List.foldl_cons, feedNext, feedNext, inductionHypothesis,
      inductionHypothesis _ [(decoder.feed chunk).2], List.append_assoc, List.singleton_append]

/-- The first chunk is fed, then the others to the decoder that it leaves. Inductions over chunks
take their step by this. -/
theorem feed_all_cons (decoder : Decoder) (chunk : List UInt8) (chunks : List (List UInt8)) :
    decoder.feedAll (chunk :: chunks) =
      (((decoder.feed chunk).1.feedAll chunks).1,
        (decoder.feed chunk).2 :: ((decoder.feed chunk).1.feedAll chunks).2) := by
  have all (decoder : Decoder) (chunks : List (List UInt8)) : decoder.feedAll chunks =
      ((chunks.foldl feedNext (decoder, [])).1, (chunks.foldl feedNext (decoder, [])).2.reverse) :=
    rfl
  rw [all, all, List.foldl_cons, feedNext, foldl_feedNext, List.reverse_append]
  rfl

/-- Chunks give the frames of the lines that they complete together. Where they meet matters to no
one, because the line that one chunk leaves off is what the next one goes on with. -/
theorem Awaits.all_fed {decoder : Decoder} {line : List UInt8} (awaits : decoder.Awaits line)
    (chunks : List (List UInt8)) :
    (decoder.feedAll chunks).2.flatten =
      (decoder.draft.readLines (cut line chunks.flatten).lines).2 := by
  induction chunks generalizing decoder line with
  | nil => rfl
  | cons chunk chunks inductionHypothesis =>
    obtain ⟨frames, draft, later⟩ := awaits.fed chunk
    rw [feed_all_cons, List.flatten_cons, List.flatten_cons, cut_append, Draft.read_lines_append,
      frames, inductionHypothesis later, draft]

/-- The frames that a fresh decoder gives for chunks are those of the whole body, cut into lines
with all of it at hand. -/
theorem frames_of_chunks (chunks : List (List UInt8)) :
    (({} : Decoder).feedAll chunks).2.flatten = framesOf chunks.flatten :=
  awaits_fresh.all_fed chunks

/-- What a fresh decoder gives does not depend on where a body is cut into chunks.

Proof: either way the frames are those of the whole body. -/
theorem frames_regardless_of_chunks {first second : List (List UInt8)}
    (same : first.flatten = second.flatten) :
    (({} : Decoder).feedAll first).2.flatten = (({} : Decoder).feedAll second).2.flatten := by
  rw [frames_of_chunks, frames_of_chunks, same]

/-- A body that comes byte by byte, with its carriage returns and a character of two bytes cut
apart, gives the frame that it gives as one chunk. -/
theorem frames_of_single_bytes :
    let body := Text.Utf8.encode "id: 7\r\nevent: updated\r\ndata: né\r\n\r\nda"
    let bytes := [] :: body.map fun byte => [byte]
    [body].flatten = bytes.flatten ∧
      (({} : Decoder).feedAll [body]).2.flatten = (({} : Decoder).feedAll bytes).2.flatten ∧
      (({} : Decoder).feedAll bytes).2.flatten = [⟨"updated", "né", some "7"⟩] := by
  have same : [Text.Utf8.encode "id: 7\r\nevent: updated\r\ndata: né\r\n\r\nda"].flatten =
      ([] :: (Text.Utf8.encode "id: 7\r\nevent: updated\r\ndata: né\r\n\r\nda").map
        fun byte => [byte]).flatten := by decide +kernel
  refine ⟨same, frames_regardless_of_chunks same, ?_⟩
  rw [frames_of_chunks]
  decide +kernel

end Decoder

end LiveTabs.EventStream
