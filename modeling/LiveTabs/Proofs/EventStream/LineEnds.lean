import LiveTabs.Proofs.EventStream.Rendered

/-!
# Line ends of an event stream

A line feed ends a line, and a carriage return before it is no part of the line. `withReturns` puts
one before every line feed of a body that has none. Where the length of a line is looked at, though,
the carriage return is still there and is counted, so a line with as many bytes as a line may have
is read if a line feed alone ends it and left out if a carriage return comes first. There is no
other difference: with carriage returns, a body gives the frames of its lines of any other length
(`frames_with_returns`).
-/

namespace LiveTabs.EventStream

open Text

/-- The bytes with a carriage return put before every line feed. -/
def withReturns (bytes : List UInt8) : List UInt8 :=
  bytes.flatMap fun byte => if byte = lineFeed then [carriageReturn, lineFeed] else [byte]

/-- Bytes with carriage returns are cut into the same lines, each with a carriage return at its
end. -/
theorem cut_with_returns (line bytes : List UInt8) :
    cut line (withReturns bytes) =
      ⟨(cut line bytes).lines.map (· ++ [carriageReturn]), (cut line bytes).rest⟩ := by
  induction bytes generalizing line with
  | nil => rfl
  | cons byte bytes inductionHypothesis =>
    have first : withReturns (byte :: bytes) =
        (if byte = lineFeed then [carriageReturn, lineFeed] else [byte]) ++ withReturns bytes :=
      List.flatMap_cons
    rw [first, cut]
    by_cases ends : byte = lineFeed
    · have returned : carriageReturn ≠ lineFeed := by decide
      rw [if_pos ends, if_pos ends, List.cons_append, cut, if_neg returned, List.singleton_append,
        cut, if_pos rfl, inductionHypothesis]
      rfl
    · rw [if_neg ends, if_neg ends, List.singleton_append, cut, if_neg ends]
      exact inductionHypothesis _

/-- A byte that a body does not hold is in none of its lines, and neither is a line feed. -/
theorem not_mem_of_mem_cut {absent : UInt8} {line bytes : List UInt8} (begun : absent ∉ line)
    (outside : absent = lineFeed ∨ absent ∉ bytes) :
    ∀ complete ∈ (cut line bytes).lines, absent ∉ complete := by
  induction bytes generalizing line with
  | nil => exact List.forall_mem_nil _
  | cons byte bytes inductionHypothesis =>
    have later : absent = lineFeed ∨ absent ∉ bytes :=
      outside.imp_right fun plain there => plain (List.mem_cons_of_mem byte there)
    rw [cut]
    split
    · exact List.forall_mem_cons.mpr ⟨begun, inductionHypothesis List.not_mem_nil later⟩
    · rename_i inner
      have other : absent ≠ byte := by
        rintro rfl
        exact outside.elim inner fun plain => plain List.mem_cons_self
      refine inductionHypothesis ?_ later
      rw [List.mem_append, List.mem_singleton, not_or]
      exact ⟨begun, other⟩

namespace Draft

/-- A carriage return at the end of a line is no part of it, but it counts: a line of the greatest
length is too long with it. -/
theorem read_line_with_return (draft : Draft) {line : List UInt8} (plain : carriageReturn ∉ line) :
    draft.readLine (line ++ [carriageReturn]) =
      if line.length = lineLimit then (draft, none) else draft.readLine line := by
  have without : Decoder.withoutReturn (line ++ [carriageReturn]) = Decoder.withoutReturn line := by
    have unreturned : line.getLast? ≠ some carriageReturn :=
      fun last => plain (List.mem_of_getLast? last)
    rw [Decoder.withoutReturn, if_pos List.getLast?_concat, List.dropLast_concat,
      Decoder.withoutReturn, if_neg unreturned]
  have longer : (line ++ [carriageReturn]).length = line.length + 1 := List.length_append
  rw [readLine, readLine, longer, without]
  by_cases full : line.length = lineLimit
  · rw [if_pos full, if_pos (by omega)]
  · rw [if_neg full]
    by_cases long : lineLimit < line.length
    · rw [if_pos long, if_pos (by omega)]
    · rw [if_neg long, if_neg (by omega)]

/-- Lines with carriage returns at their ends are read like the lines without, apart from those of
the greatest length, which are left out. -/
theorem read_lines_with_returns (draft : Draft) {lines : List (List UInt8)}
    (plain : ∀ line ∈ lines, carriageReturn ∉ line) :
    draft.readLines (lines.map (· ++ [carriageReturn])) =
      draft.readLines (lines.filter fun line => line.length ≠ lineLimit) := by
  induction lines generalizing draft with
  | nil => rfl
  | cons line lines inductionHypothesis =>
    obtain ⟨first, others⟩ := List.forall_mem_cons.mp plain
    rw [List.map_cons, readLines, draft.read_line_with_return first]
    by_cases full : line.length = lineLimit
    · rw [if_pos full, List.filter_cons_of_neg (by simpa using full)]
      exact inductionHypothesis _ others
    · rw [if_neg full, List.filter_cons_of_pos (by simpa using full), readLines]
      simp only [inductionHypothesis _ others]

end Draft

/-- The complete lines of a body but for those that have as many bytes as a line may have. -/
def withoutFullLines (body : List UInt8) : List UInt8 :=
  ended ((cut [] body).lines.filter fun line => line.length ≠ lineLimit)

/-- Without a line of the greatest length, a body gives the frames of the lines that it has. -/
theorem frames_without_full_lines (body : List UInt8) :
    framesOf (withoutFullLines body) =
      (({} : Draft).readLines
        ((cut [] body).lines.filter fun line => line.length ≠ lineLimit)).2 := by
  have unbroken : ∀ line ∈ (cut [] body).lines.filter fun line => line.length ≠ lineLimit,
      lineFeed ∉ line := fun line there =>
    not_mem_of_mem_cut List.not_mem_nil (.inl rfl) line (List.mem_filter.mp there).1
  rw [framesOf, withoutFullLines, cut_ended unbroken]

/-- A text of one letter, repeated. -/
def repeatedLetter (count : Nat) : String := String.ofList (List.replicate count 'x')

/-- The bytes of the line of data with a repeated letter. -/
def dataLine (count : Nat) : List UInt8 := Utf8.encode (fieldLine "data" (repeatedLetter count))

/-- A repeated letter is plain, so it comes back as the data of a frame. -/
theorem plain_repeatedLetter (count : Nat) : Plain (repeatedLetter count) := by
  have letters : ∀ character ∈ (repeatedLetter count).toList, character = 'x' := by
    intro character there
    rw [repeatedLetter, String.toList_ofList] at there
    exact List.eq_of_mem_replicate there
  constructor
  · intro there
    exact absurd (letters _ there) (by decide)
  · intro last
    exact absurd (letters _ (List.mem_of_getLast? last)) (by decide)

/-- Every letter takes one byte, so the length of the line is that of its text. -/
theorem dataLine_eq (count : Nat) :
    dataLine count = Utf8.encode "data: " ++ List.replicate count 0x78 := by
  have letters : (repeatedLetter count).toList.flatMap Utf8.encodeChar =
      List.replicate count 0x78 := by
    rw [repeatedLetter, String.toList_ofList, List.flatMap_replicate]
    simp [Utf8.encodeChar]
  rw [dataLine, Utf8.encode, fieldLine, String.toList_append, List.flatMap_append, letters]
  rfl

/-- The field takes six bytes, so a line of the full length has six letters fewer than the limit has
bytes. -/
theorem length_dataLine (count : Nat) : (dataLine count).length = 6 + count := by
  rw [dataLine_eq, List.length_append, List.length_replicate]
  rfl

/-- A byte that is neither in the field nor the letter is not in the line. This is used for the line
feed and for the carriage return. -/
theorem not_mem_dataLine {byte : UInt8} (count : Nat) (field : byte ∉ Utf8.encode "data: ")
    (letter : byte ≠ 0x78) : byte ∉ dataLine count := by
  rw [dataLine_eq, List.mem_append, not_or]
  exact ⟨field, fun there => letter (List.eq_of_mem_replicate there)⟩

/-- The size of a repeated letter, which is compared with the limit on the data of a frame. -/
theorem size_repeatedLetter (count : Nat) : (repeatedLetter count).utf8ByteSize = count := by
  induction count with
  | zero => rfl
  | succ count inductionHypothesis =>
    rw [repeatedLetter] at inductionHypothesis ⊢
    rw [List.replicate_succ, ← List.singleton_append, String.ofList_append,
      String.utf8ByteSize_append, inductionHypothesis, Nat.add_comm]
    rfl

/-- The lines of a frame that has nothing but the line of data, for every length of it. -/
theorem cut_dataLine (count : Nat) :
    (cut [] (ended [dataLine count, []])).lines = [dataLine count, []] := by
  have unbroken : ∀ line ∈ [dataLine count, []], lineFeed ∉ line :=
    List.forall_mem_cons.mpr ⟨not_mem_dataLine count (by decide) (by decide), by simp⟩
  rw [cut_ended unbroken]

/-- A line of data that is not too long makes a frame, also when it has the full length of a
line. -/
theorem frames_of_dataLine {count : Nat} (short : 6 + count ≤ lineLimit) :
    framesOf (ended [dataLine count, []]) = [⟨defaultName, repeatedLetter count, none⟩] := by
  have plain : ∀ piece ∈ [repeatedLetter count], Plain piece := by
    simpa using plain_repeatedLetter count
  have fits : ∀ line ∈ [repeatedLetter count].map (fieldLine "data"),
      (Utf8.encode line).length ≤ lineLimit := by
    rw [← length_dataLine] at short
    simpa [dataLine] using short
  have room : sizeOfAll [repeatedLetter count] ≤ dataLimit := by
    have limits : lineLimit ≤ dataLimit := by decide
    simp only [sizeOfAll, size_repeatedLetter]
    omega
  have read := Draft.read_unnamed (List.cons_ne_nil _ _) plain fits room
  rw [String.intercalate_singleton] at read
  rw [framesOf, cut_dataLine]
  exact congrArg Prod.snd read

/-- With a carriage return at its end, a line of data of the greatest length makes none. -/
theorem frames_of_dataLine_returned {count : Nat} (full : 6 + count = lineLimit) :
    framesOf (withReturns (ended [dataLine count, []])) = [] := by
  have plain : ∀ line ∈ [dataLine count, []], carriageReturn ∉ line :=
    List.forall_mem_cons.mpr ⟨not_mem_dataLine count (by decide) (by decide), by simp⟩
  have long : (dataLine count).length = lineLimit := (length_dataLine count).trans full
  rw [framesOf, cut_with_returns, cut_dataLine, Draft.read_lines_with_returns _ plain,
    List.filter_cons_of_neg (by simpa using long)]
  decide

namespace Decoder

/-- With a carriage return before every line feed, a body gives the frames that it gives without its
lines of the greatest length. So where it has no such line, the line ends make no difference,
however both bodies come in chunks.

Proof: the lines are the same, each with a carriage return at its end, which is taken off only after
the length of the line was looked at. -/
theorem frames_with_returns {body : List UInt8} (plain : carriageReturn ∉ body)
    {bare returned : List (List UInt8)} (bareBody : bare.flatten = body)
    (returnedBody : returned.flatten = withReturns body) :
    (({} : Decoder).feedAll returned).2.flatten = framesOf (withoutFullLines body) ∧
      ((∀ line ∈ (cut [] body).lines, line.length ≠ lineLimit) →
        (({} : Decoder).feedAll returned).2.flatten = (({} : Decoder).feedAll bare).2.flatten) := by
  have plainLines : ∀ line ∈ (cut [] body).lines, carriageReturn ∉ line :=
    not_mem_of_mem_cut List.not_mem_nil (.inr plain)
  have found : (({} : Decoder).feedAll returned).2.flatten = framesOf (withoutFullLines body) := by
    rw [frames_of_chunks, framesOf, returnedBody, cut_with_returns,
      Draft.read_lines_with_returns _ plainLines, frames_without_full_lines]
  refine ⟨found, ?_⟩
  intro short
  have all : ((cut [] body).lines.filter fun line => line.length ≠ lineLimit) =
      (cut [] body).lines :=
    List.filter_eq_self.mpr fun line there => decide_eq_true (short line there)
  rw [found, frames_without_full_lines, all, frames_of_chunks, framesOf, bareBody]

/-- A body in one chunk, and the same body with carriage returns byte by byte, so that each of them
is the end of a chunk. -/
theorem frames_of_both_line_ends :
    let body := Utf8.encode "id: 7\nevent: updated\ndata: né\n\nda"
    let bytes := (withReturns body).map fun byte => [byte]
    carriageReturn ∉ body ∧ [body].flatten = body ∧ bytes.flatten = withReturns body ∧
      (∀ line ∈ (cut [] body).lines, line.length ≠ lineLimit) ∧
      (({} : Decoder).feedAll bytes).2.flatten = (({} : Decoder).feedAll [body]).2.flatten ∧
      (({} : Decoder).feedAll [body]).2.flatten = [⟨"updated", "né", some "7"⟩] := by
  intro body bytes
  have plain : carriageReturn ∉ body := by decide +kernel
  have bareBody : [body].flatten = body := List.flatten_singleton
  have returnedBody : bytes.flatten = withReturns body := by decide +kernel
  have short : ∀ line ∈ (cut [] body).lines, line.length ≠ lineLimit := by decide +kernel
  refine ⟨plain, bareBody, returnedBody, short,
    (frames_with_returns plain bareBody returnedBody).2 short, ?_⟩
  rw [frames_of_chunks]
  decide +kernel

/-- A line with as many bytes as a line may have makes a frame if a line feed alone ends it, and is
lost if a carriage return comes first. -/
theorem full_line_lost_with_return :
    let body := ended [dataLine 65530, []]
    carriageReturn ∉ body ∧ (cut [] body).lines.map List.length = [lineLimit, 0] ∧
      (({} : Decoder).feedAll [body]).2.flatten = [⟨"message", repeatedLetter 65530, none⟩] ∧
      (({} : Decoder).feedAll [withReturns body]).2.flatten = [] := by
  intro body
  have plain : carriageReturn ∉ dataLine 65530 := not_mem_dataLine _ (by decide) (by decide)
  have full : 6 + 65530 = lineLimit := by decide
  refine ⟨?_, ?_, ?_, ?_⟩
  · have returned : carriageReturn ≠ lineFeed := by decide
    simp [body, ended, plain, returned]
  · rw [cut_dataLine, List.map_cons, length_dataLine, full]
    rfl
  · rw [frames_of_chunks, List.flatten_singleton, frames_of_dataLine (Nat.le_of_eq full)]
    rfl
  · rw [frames_of_chunks, List.flatten_singleton, frames_of_dataLine_returned full]

end Decoder

end LiveTabs.EventStream
