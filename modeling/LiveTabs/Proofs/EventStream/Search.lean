import LiveTabs.Proofs.EventStream.HeldData

/-!
# The search for line feeds

A chunk is added to the bytes that the decoder holds, and the whole is searched for line feeds from
the first byte that was not looked at. `stops` are the states in which the decoder stands each time
that it starts to search: at the beginning, and after every line that it took. At each of them the
present line starts no later than the bytes that were looked at end, these end inside the buffer,
and there is no line feed between the two (`Stop.InBounds`), so every part of the buffer that is
taken out lies inside it.

What the decoder does between chunks follows the same rule: all that it holds was looked at
(`Settled`). So a search never comes back to a byte: the places that are looked at for a chunk are
those of its own bytes, from the first to the last (`every_byte_searched_once`).
-/

namespace LiveTabs.EventStream.Decoder

/-- The places that are looked at in the search for a line feed from a place on. -/
def placesSearched (buffer : Array UInt8) (place : Nat) : List Nat :=
  if inside : place < buffer.size then
    if buffer[place] = lineFeed then [place] else place :: placesSearched buffer (place + 1)
  else []
termination_by buffer.size - place

/-- What the search finds depends on these places alone: it is the first of them with a line
feed. -/
theorem findLineFeed_eq_find (buffer : Array UInt8) (place : Nat) :
    findLineFeed buffer place =
      (placesSearched buffer place).find? fun searched => buffer[searched]? = some lineFeed := by
  fun_induction placesSearched buffer place with
  | case1 place inside isLineFeed =>
    rw [findLineFeed, dif_pos inside, if_pos isLineFeed, List.find?_cons_of_pos]
    simp [inside, isLineFeed]
  | case2 place inside other inductionHypothesis =>
    rw [findLineFeed, dif_pos inside, if_neg other, inductionHypothesis, List.find?_cons_of_neg]
    simp [inside, other]
  | case3 place outside =>
    rw [findLineFeed, dif_neg outside, List.find?_nil]

/-- A search that finds a line feed looks at the places up to it, that of the line feed included. -/
theorem places_of_some {buffer : Array UInt8} {place found : Nat}
    (hit : findLineFeed buffer place = some found) :
    placesSearched buffer place = List.range' place (found + 1 - place) := by
  fun_induction findLineFeed buffer place with
  | case1 place inside isLineFeed =>
    cases hit
    rw [placesSearched, dif_pos inside, if_pos isLineFeed, Nat.add_sub_cancel_left]
    rfl
  | case2 place inside other inductionHypothesis =>
    obtain ⟨after, -⟩ := findLineFeed_bounds hit
    rw [placesSearched, dif_pos inside, if_neg other, inductionHypothesis hit,
      show found + 1 - place = found + 1 - (place + 1) + 1 by omega, List.range'_succ]
  | case3 place outside => cases hit

/-- A search that finds none looks at all places to the end, so nothing of the chunk is left to a
later search. -/
theorem places_of_none {buffer : Array UInt8} {place : Nat}
    (missed : findLineFeed buffer place = none) :
    placesSearched buffer place = List.range' place (buffer.size - place) := by
  fun_induction findLineFeed buffer place with
  | case1 place inside isLineFeed => cases missed
  | case2 place inside other inductionHypothesis =>
    rw [placesSearched, dif_pos inside, if_neg other, inductionHypothesis missed,
      show buffer.size - place = buffer.size - (place + 1) + 1 by omega, List.range'_succ]
  | case3 place outside =>
    rw [placesSearched, dif_neg outside, Nat.sub_eq_zero_of_le (Nat.not_lt.mp outside)]
    rfl

/-- The decoder at the beginning of a search, with the start of the present line in its buffer. -/
structure Stop where
  decoder : Decoder
  lineStart : Nat

namespace Stop

/-- The places that are looked at in the search from here. -/
def places (stop : Stop) : List Nat := placesSearched stop.decoder.buffer stop.decoder.scanned

/-- What keeps every part of the buffer that is taken out inside it: the bytes from `scanned` on
that are searched, the line up to a line feed that is found, and the bytes before `lineStart` that
are dropped in the end. -/
structure InBounds (stop : Stop) : Prop where
  started : stop.lineStart ≤ stop.decoder.scanned
  bounded : stop.decoder.scanned ≤ stop.decoder.buffer.size
  unbroken : lineFeed ∉ span stop.decoder.buffer stop.lineStart stop.decoder.scanned
  line : ∀ lineEnd ∈ findLineFeed stop.decoder.buffer stop.decoder.scanned,
    stop.lineStart ≤ lineEnd ∧ lineEnd < stop.decoder.buffer.size

end Stop

/-- The stops of a pass over the buffer, first to last. -/
def stops (decoder : Decoder) (lineStart : Nat) : List Stop :=
  match hit : findLineFeed decoder.buffer decoder.scanned with
  | none => [⟨decoder, lineStart⟩]
  | some lineEnd =>
    have bounds := findLineFeed_bounds hit
    ⟨decoder, lineStart⟩ :: (decoder.takeLine lineStart lineEnd).1.stops (lineEnd + 1)
termination_by decoder.buffer.size - decoder.scanned

/-- The stops of the pass over the buffer when a chunk has been added to it. -/
def stopsFor (decoder : Decoder) (chunk : List UInt8) : List Stop :=
  { decoder with buffer := decoder.buffer ++ chunk : Decoder }.stops 0

/-- The pass ends where it stops last, so what is said of its stops is said of the whole pass. -/
theorem last_stop (decoder : Decoder) (lineStart : Nat) (frames : List Frame) :
    (decoder.stops lineStart).getLast? =
      some ⟨(decoder.takeLines lineStart frames).1, (decoder.takeLines lineStart frames).2.1⟩ := by
  fun_induction takeLines decoder lineStart frames with
  | case1 decoder lineStart frames missed =>
    rw [stops]
    split
    · rfl
    · rename_i hit
      rw [missed] at hit
      cases hit
  | case2 decoder lineStart frames lineEnd hit shorter taken inductionHypothesis =>
    rw [stops]
    split
    · rename_i missed
      rw [hit] at missed
      cases missed
    · rename_i found again
      cases Option.some.inj (hit.symm.trans again)
      rw [List.getLast?_cons, inductionHypothesis]
      rfl

/-- A chunk leaves what is kept after the last stop of its pass. This ties the stops to what `feed`
returns. -/
theorem feed_from_last_stop (decoder : Decoder) (chunk : List UInt8) :
    ∃ last, (decoder.stopsFor chunk).getLast? = some last ∧
      (decoder.feed chunk).1 = last.decoder.settle last.lineStart :=
  ⟨_, last_stop _ 0 [], rfl⟩

/-- From a state inside a line, every stop is in bounds, and the buffer stays as it is. -/
theorem Inside.stops_in_bounds {decoder : Decoder} {lineStart : Nat} {line : List UInt8}
    (inside : decoder.Inside lineStart decoder.scanned line) :
    ∀ stop ∈ decoder.stops lineStart, stop.InBounds ∧ stop.decoder.buffer = decoder.buffer := by
  have here {decoder : Decoder} {lineStart : Nat} {line : List UInt8}
      (inside : decoder.Inside lineStart decoder.scanned line) :
      (⟨decoder, lineStart⟩ : Stop).InBounds :=
    { started := inside.started
      bounded := inside.bounded
      unbroken := inside.unbroken
      line := by
        intro lineEnd hit
        obtain ⟨after, bounded⟩ := findLineFeed_bounds hit
        exact ⟨Nat.le_trans inside.started after, bounded⟩ }
  fun_induction stops decoder lineStart generalizing line with
  | case1 decoder lineStart missed =>
    rw [List.forall_mem_singleton]
    exact ⟨here inside, rfl⟩
  | case2 decoder lineStart lineEnd hit bounds inductionHypothesis =>
    have next : (decoder.takeLine lineStart lineEnd).1.Inside (lineEnd + 1)
        (decoder.takeLine lineStart lineEnd).1.scanned [] := by
      rw [scanned_takeLine]
      exact decoder.inside_next lineStart bounds.2
    have later := inductionHypothesis next
    rw [buffer_takeLine] at later
    exact List.forall_mem_cons.mpr ⟨⟨here inside, rfl⟩, later⟩

/-- The places that are looked at at the stops of a pass are those from the first to the end of the
buffer, each of them once. -/
theorem places_of_stops (decoder : Decoder) (lineStart : Nat) :
    (decoder.stops lineStart).flatMap Stop.places =
      List.range' decoder.scanned (decoder.buffer.size - decoder.scanned) := by
  fun_induction stops decoder lineStart with
  | case1 decoder lineStart missed =>
    rw [List.flatMap_singleton, Stop.places, places_of_none missed]
  | case2 decoder lineStart lineEnd hit bounds inductionHypothesis =>
    obtain ⟨after, inside⟩ := bounds
    have there : decoder.scanned + (lineEnd + 1 - decoder.scanned) = lineEnd + 1 := by omega
    have rest : decoder.buffer.size - decoder.scanned =
        (lineEnd + 1 - decoder.scanned) + (decoder.buffer.size - (lineEnd + 1)) := by omega
    rw [List.flatMap_cons, inductionHypothesis, Stop.places, places_of_some hit, buffer_takeLine,
      scanned_takeLine, rest, ← List.range'_append_1, there]

/-- What a decoder holds between chunks: bytes without a line feed, all of which were looked at and
which are no more than a line may have, and lines of data that were counted and are no more than a
frame may have. -/
structure Settled (decoder : Decoder) : Prop where
  unbroken : lineFeed ∉ decoder.buffer.toList
  searched : decoder.scanned = decoder.buffer.size
  short : decoder.buffer.size ≤ lineLimit
  counted : decoder.draft.dataSize = sizeOfAll decoder.draft.data.toList
  small : decoder.draft.dataSize ≤ dataLimit

/-- A decoder that awaits the rest of a line with a draft within its limits is settled. -/
theorem Awaits.settled {decoder : Decoder} {line : List UInt8} (awaits : decoder.Awaits line)
    (bounded : decoder.draft.Bounded) : decoder.Settled where
  unbroken := by
    have unbroken := awaits.inside.unbroken
    rwa [awaits.searched, span_whole] at unbroken
  searched := awaits.searched
  short := awaits.bounded
  counted := bounded.counted
  small := bounded.small

/-- After any chunks, what a decoder holds is settled. In the course of the next chunk it is in
bounds at every stop, and the search from there is decided by the places that it looks at. All these
places are those of the bytes of the chunk, each of them once, and what is kept in the end is cut at
the last stop.

Proof: between chunks the decoder awaits the rest of a line, from where every stop is in bounds and
each search begins behind the one before. Its draft is that of the complete lines, which keeps its
limits. -/
theorem every_byte_searched_once (chunks : List (List UInt8)) (chunk : List UInt8) :
    let held := (({} : Decoder).feedAll chunks).1
    held.Settled ∧
      (∀ stop ∈ held.stopsFor chunk, stop.InBounds ∧ stop.decoder.buffer = held.buffer ++ chunk ∧
        findLineFeed stop.decoder.buffer stop.decoder.scanned =
          stop.places.find? fun place => stop.decoder.buffer[place]? = some lineFeed) ∧
      (held.stopsFor chunk).flatMap Stop.places = List.range' held.buffer.size chunk.length ∧
      ∃ last, (held.stopsFor chunk).getLast? = some last ∧
        (held.feed chunk).1 = last.decoder.settle last.lineStart := by
  intro held
  obtain ⟨draft, awaits⟩ := awaits_fresh.all_read chunks
  obtain ⟨bounded, -⟩ := Draft.bounded_fresh.read_lines (cut [] chunks.flatten).lines
  rw [← draft] at bounded
  refine ⟨awaits.settled bounded, ?_, ?_, held.feed_from_last_stop chunk⟩
  · intro stop there
    obtain ⟨inBounds, same⟩ := (awaits.inside_chunk chunk).stops_in_bounds stop there
    exact ⟨inBounds, same, findLineFeed_eq_find _ _⟩
  · have longer : (held.buffer ++ chunk).size - held.buffer.size = chunk.length := by
      rw [← length_span (Nat.le_refl _), span_of_chunk]
    rw [stopsFor, places_of_stops]
    show List.range' held.scanned ((held.buffer ++ chunk).size - held.scanned) = _
    rw [show held.scanned = held.buffer.size from awaits.searched, longer]

/-- A second chunk ends the line that the first one began, then the frame, and begins another line.
The decoder stops at the start of each of the three lines, and looks at the nine bytes behind the
two that it held. -/
theorem stops_of_second_chunk :
    let held := (({} : Decoder).feedAll [Text.Utf8.encode "id: 7\nda"]).1
    let chunk := Text.Utf8.encode "ta: x\n\nev"
    held.Settled ∧ held.buffer.size = 2 ∧
      (held.stopsFor chunk).map (fun stop => (stop.lineStart, stop.decoder.scanned)) =
        [(0, 2), (8, 8), (9, 9)] ∧
      (∀ stop ∈ held.stopsFor chunk, stop.InBounds) ∧
      (held.stopsFor chunk).flatMap Stop.places = [2, 3, 4, 5, 6, 7, 8, 9, 10] := by
  intro held chunk
  obtain ⟨settled, inBounds, places, -⟩ :=
    every_byte_searched_once [Text.Utf8.encode "id: 7\nda"] chunk
  refine ⟨settled, by decide +kernel, by decide +kernel, ?_, ?_⟩
  · intro stop there
    exact (inBounds stop there).1
  · rw [places]
    decide +kernel

end LiveTabs.EventStream.Decoder
