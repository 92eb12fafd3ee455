import LiveTabs.EventStream.Draft
import LiveTabs.Text.Utf8

/-!
# Decoding an event stream

The body of an event stream comes in chunks that may end anywhere. The decoder holds the bytes of
the line that is not complete, together with how many of them are known to hold no line feed, so no
byte is looked at twice. A line that is too long is left out up to its end, whether it came in one
chunk or in many.
-/

namespace LiveTabs.EventStream

/-- The most bytes that a line may have, its carriage return counted. -/
def lineLimit : Nat := 64 * 1024

/-- The byte that ends a line. -/
def lineFeed : UInt8 := 10

/-- The byte that may stand before a line feed. -/
def carriageReturn : UInt8 := 13

/-- The state of a decoder between chunks. -/
structure Decoder where
  /-- The bytes that are held. -/
  buffer : Array UInt8 := #[]
  /-- How many of the held bytes are known to hold no line feed. -/
  scanned : Nat := 0
  /-- Whether the present line is being left out. -/
  skipping : Bool := false
  draft : Draft := {}

namespace Decoder

/-- The place of the first line feed at or after a given place. -/
def findLineFeed (buffer : Array UInt8) (place : Nat) : Option Nat :=
  if inside : place < buffer.size then
    if buffer[place] = lineFeed then some place else findLineFeed buffer (place + 1)
  else none
termination_by buffer.size - place

/-- A line feed is found inside the buffer, and not before the place where the search began. -/
theorem findLineFeed_bounds {buffer : Array UInt8} {place found : Nat}
    (hit : findLineFeed buffer place = some found) : place ≤ found ∧ found < buffer.size := by
  fun_induction findLineFeed buffer place with
  | case1 place inside isLineFeed =>
    cases hit
    exact ⟨Nat.le_refl _, inside⟩
  | case2 place inside other inductionHypothesis =>
    have bounds := inductionHypothesis hit
    omega
  | case3 place outside => simp at hit

/-- The bytes of a line without one carriage return at the end. -/
def withoutReturn (line : List UInt8) : List UInt8 :=
  if line.getLast? = some carriageReturn then line.dropLast else line

/-- Takes the line between two places of the buffer, unless it is left out. -/
def takeLine (decoder : Decoder) (lineStart lineEnd : Nat) : Decoder × Option Frame :=
  let passed := { decoder with scanned := lineEnd + 1, skipping := false }
  if decoder.skipping ∨ lineLimit < lineEnd - lineStart then (passed, none)
  else
    let line := (decoder.buffer.extract lineStart lineEnd).toList
    let (draft, frame) := decoder.draft.takeLine (Text.Utf8.decode (withoutReturn line))
    ({ passed with draft }, frame)

/-- Takes all complete lines of the buffer. Gives the start of the line that is not complete, and
the frames, last first. -/
def takeLines (decoder : Decoder) (lineStart : Nat) (frames : List Frame) :
    Decoder × Nat × List Frame :=
  match hit : findLineFeed decoder.buffer decoder.scanned with
  | none => (decoder, lineStart, frames)
  | some lineEnd =>
    have shorter : (decoder.takeLine lineStart lineEnd).1.buffer.size -
        (decoder.takeLine lineStart lineEnd).1.scanned < decoder.buffer.size - decoder.scanned := by
      have bounds := findLineFeed_bounds hit
      simp only [takeLine]
      split <;> simp <;> omega
    let taken := decoder.takeLine lineStart lineEnd
    takeLines taken.1 (lineEnd + 1) (taken.2.toList ++ frames)
termination_by decoder.buffer.size - decoder.scanned

/-- Drops the bytes before the line that is not complete, and that line too if it has become too
long: then its rest is left out. -/
def settle (decoder : Decoder) (lineStart : Nat) : Decoder :=
  let buffer :=
    if lineStart = 0 then decoder.buffer else decoder.buffer.extract lineStart decoder.buffer.size
  if lineLimit < buffer.size then { decoder with buffer := #[], scanned := 0, skipping := true }
  else { decoder with buffer, scanned := buffer.size }

/-- Takes in a chunk and gives the frames that it completes. -/
def feed (decoder : Decoder) (chunk : List UInt8) : Decoder × List Frame :=
  let (taken, lineStart, frames) :=
    takeLines { decoder with buffer := decoder.buffer ++ chunk } 0 []
  (taken.settle lineStart, frames.reverse)

/-- Takes in chunks one after the other and gives the frames of each. -/
def feedAll (decoder : Decoder) (chunks : List (List UInt8)) : Decoder × List (List Frame) :=
  let (last, frames) := chunks.foldl (fun (state : Decoder × List (List Frame)) chunk =>
    let (next, found) := state.1.feed chunk
    (next, found :: state.2)) (decoder, [])
  (last, frames.reverse)

end Decoder

end LiveTabs.EventStream
