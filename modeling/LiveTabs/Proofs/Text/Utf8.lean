import LiveTabs.Text.Utf8

/-!
# Texts come back from their bytes

A reader that stands between two characters reads the bytes of a character as that character
(`feed_encodeChar`), whatever it read before, so the bytes of a text are read as the text
(`decode_encode`). Below 0x80 a byte stands for the character of the same code point and occurs in
the bytes of no other one, so a text may be searched for such characters by its bytes.

Bytes that are no text may be read as more bytes than they are, though not as more than three times
as many (`size_decode`).
-/

namespace LiveTabs.Text.Utf8

/-- The value of a byte that is made of a small number, as the parts of a character are. -/
theorem to_nat_toUInt8 {value : Nat} (small : value < 256) : value.toUInt8.toNat = value := by
  simp [Nat.toUInt8, Nat.mod_eq_of_lt small]

/-- A code point is below the surrogates, or beyond them and no more than U+10FFFF. The bounds on
second bytes say just this. -/
theorem to_nat_valid (character : Char) :
    character.toNat < 0xD800 ∨ 0xDFFF < character.toNat ∧ character.toNat < 0x110000 :=
  character.valid

section Start

variable {high : Nat}

/-- The first byte of a character of two bytes announces one more and gives the upper bits. -/
theorem start_two (least : 2 ≤ high) (greatest : high < 32) :
    start (0xC0 + high) = .longer ⟨1, 0x80, 0xBF, high⟩ := by
  have shorter : ¬ 0xC0 + high < 0x80 := by omega
  have allowed : ¬ 0xC0 + high < 0xC2 := by omega
  have two : 0xC0 + high < 0xE0 := by omega
  rw [start, if_neg shorter, if_neg allowed, if_pos two, Nat.add_sub_cancel_left]

/-- The first byte of a character of three bytes announces two more. It also bounds the next one, so
that no character is too long or a half of a pair. -/
theorem start_three (greatest : high < 16) :
    start (0xE0 + high) =
      .longer ⟨2, if high = 0 then 0xA0 else 0x80, if high = 0xD then 0x9F else 0xBF, high⟩ := by
  decide +revert

/-- The first byte of a character of four bytes announces three more. It also bounds the next one,
so that no character is too long or beyond the last. -/
theorem start_four (greatest : high < 5) :
    start (0xF0 + high) =
      .longer ⟨3, if high = 0 then 0x90 else 0x80, if high = 4 then 0x8F else 0xBF, high⟩ := by
  decide +revert

end Start

/-- A first byte that announces more bytes is held until they come, with the bounds of the next
one. -/
theorem feed_first {written : List Char} {value : Nat} {owed : Owed} (small : value < 256)
    (longer : start value = .longer owed) :
    Reading.feed ⟨written, none⟩ value.toUInt8 = ⟨written, some owed⟩ := by
  simp only [Reading.feed, to_nat_toUInt8 small, Reading.begin, longer]

section Owed

variable {written : List Char} {lowest highest bits low : Nat}

/-- A byte that is owed adds its six bits; after it, bytes of any six bits are owed. -/
theorem feed_inner (missing : Nat) (six : low < 64) (least : lowest ≤ 0x80 + low)
    (greatest : 0x80 + low ≤ highest) :
    Reading.feed ⟨written, some ⟨missing + 2, lowest, highest, bits⟩⟩ (0x80 + low).toUInt8 =
      ⟨written, some ⟨missing + 1, 0x80, 0xBF, bits * 64 + low⟩⟩ := by
  have small : 0x80 + low < 256 := by omega
  have more : ¬ missing + 2 ≤ 1 := by omega
  simp only [Reading.feed, to_nat_toUInt8 small, least, greatest, and_self, if_true, if_neg more,
    Nat.add_sub_cancel_left, Nat.add_one_sub_one]

/-- The last byte that is owed completes the character, whose bits are those that were collected and
its own. -/
theorem feed_last (six : low < 64) (least : lowest ≤ 0x80 + low) (greatest : 0x80 + low ≤ highest) :
    Reading.feed ⟨written, some ⟨1, lowest, highest, bits⟩⟩ (0x80 + low).toUInt8 =
      ⟨Char.ofNat (bits * 64 + low) :: written, none⟩ := by
  have small : 0x80 + low < 256 := by omega
  simp only [Reading.feed, to_nat_toUInt8 small, least, greatest, and_self, if_true, Nat.le_refl,
    Nat.add_sub_cancel_left]

end Owed

/-- Between two characters, the bytes of a character are read as that character.

Proof: by the number of its bytes. The first byte announces the others, and the ranges that it
narrows leave out only code points that a character of so many bytes does not have. -/
theorem feed_encodeChar (written : List Char) (character : Char) :
    (encodeChar character).foldl Reading.feed ⟨written, none⟩ = ⟨character :: written, none⟩ := by
  have valid := to_nat_valid character
  have same := Char.ofNat_toNat character
  rw [encodeChar]
  generalize character.toNat = point at valid same
  split
  · rename_i one
    have small : point < 256 := by omega
    simp only [List.foldl_cons, List.foldl_nil, Reading.feed, to_nat_toUInt8 small, Reading.begin,
      start, if_pos one, same]
  · split
    · rename_i several two
      have whole : point / 64 * 64 + point % 64 = point := by omega
      rw [List.foldl_cons, feed_first (by omega) (start_two (by omega) (by omega)),
        List.foldl_cons, feed_last (by omega) (by omega) (by omega), whole, same, List.foldl_nil]
    · split
      · rename_i several more three
        -- After 0xE0 no overlong form and after 0xED no surrogate is let through.
        have least : (if point / 4096 = 0 then 0xA0 else 0x80) ≤ 0x80 + point / 64 % 64 := by
          split <;> omega
        have greatest : 0x80 + point / 64 % 64 ≤ if point / 4096 = 0xD then 0x9F else 0xBF := by
          split <;> omega
        have whole : (point / 4096 * 64 + point / 64 % 64) * 64 + point % 64 = point := by omega
        rw [List.foldl_cons, feed_first (by omega) (start_three (by omega)),
          List.foldl_cons, feed_inner _ (by omega) least greatest,
          List.foldl_cons, feed_last (by omega) (by omega) (by omega),
          whole, same, List.foldl_nil]
      · rename_i several more most
        -- After 0xF0 no overlong form and after 0xF4 nothing beyond U+10FFFF is let through.
        have least : (if point / 262144 = 0 then 0x90 else 0x80) ≤ 0x80 + point / 4096 % 64 := by
          split <;> omega
        have greatest : 0x80 + point / 4096 % 64 ≤ if point / 262144 = 4 then 0x8F else 0xBF := by
          split <;> omega
        have whole : ((point / 262144 * 64 + point / 4096 % 64) * 64 + point / 64 % 64) * 64 +
            point % 64 = point := by omega
        rw [List.foldl_cons, feed_first (by omega) (start_four (by omega)),
          List.foldl_cons, feed_inner _ (by omega) least greatest,
          List.foldl_cons, feed_inner _ (by omega) (by omega) (by omega),
          List.foldl_cons, feed_last (by omega) (by omega) (by omega),
          whole, same, List.foldl_nil]

/-- Characters are read one after the other.

Proof: by induction on the characters. After each of them no byte is owed. -/
theorem feed_flatMap (written characters : List Char) :
    (characters.flatMap encodeChar).foldl Reading.feed ⟨written, none⟩ =
      ⟨characters.reverse ++ written, none⟩ := by
  induction characters generalizing written with
  | nil => rfl
  | cons character characters inductionHypothesis =>
    rw [List.flatMap_cons, List.foldl_append, feed_encodeChar, inductionHypothesis,
      List.reverse_cons, List.append_assoc, List.singleton_append]

/-- A reading with characters that were read before it. -/
def Reading.after (reading : Reading) (earlier : List Char) : Reading :=
  ⟨reading.written ++ earlier, reading.owed⟩

/-- What was read before does not matter to how a byte is read, only what is owed does. -/
theorem feed_after (reading : Reading) (earlier : List Char) (byte : UInt8) :
    (reading.after earlier).feed byte = (reading.feed byte).after earlier := by
  have begins (written : List Char) : Reading.begin (written ++ earlier) byte.toNat =
      (Reading.begin written byte.toNat).after earlier := by
    simp only [Reading.begin]
    split <;> rfl
  obtain ⟨written, _ | owed⟩ := reading
  · exact begins written
  · simp only [Reading.feed, Reading.after]
    split
    · split <;> rfl
    · exact begins (replacement :: written)

/-- Nor does it matter to how bytes are read, by induction on them. -/
theorem foldl_feed_after (reading : Reading) (earlier : List Char) (bytes : List UInt8) :
    bytes.foldl Reading.feed (reading.after earlier) =
      (bytes.foldl Reading.feed reading).after earlier := by
  induction bytes generalizing reading with
  | nil => rfl
  | cons byte bytes inductionHypothesis =>
    rw [List.foldl_cons, List.foldl_cons, feed_after, inductionHypothesis]

/-- What was read before stands first, in front of what the remaining bytes make. -/
theorem characters_after (reading : Reading) (earlier : List Char) :
    (reading.after earlier).characters = earlier.reverse ++ reading.characters := by
  obtain ⟨written, _ | owed⟩ := reading
  · simp [Reading.characters, Reading.after]
  · simp [Reading.characters, Reading.after]

/-- The bytes of a text are read as the text, whatever bytes follow them. So what comes after a text
is read as if it stood alone. -/
theorem decode_encode_append (text : String) (bytes : List UInt8) :
    decode (encode text ++ bytes) = text ++ decode bytes := by
  have started : (⟨text.toList.reverse ++ [], none⟩ : Reading) =
      Reading.after ⟨[], none⟩ text.toList.reverse := by
    rw [Reading.after, List.append_nil, List.nil_append]
  rw [decode, decode, encode, List.foldl_append, feed_flatMap, started, foldl_feed_after,
    characters_after, List.reverse_reverse, String.ofList_append, String.ofList_toList]

/-- The bytes of a text are read as the text, so nothing that is sent as text is lost on the way. -/
theorem decode_encode (text : String) : decode (encode text) = text := by
  have whole := decode_encode_append text []
  rwa [List.append_nil, show decode [] = "" from rfl, String.append_empty] at whole

/-- The bytes of a character beyond U+007F are 0x80 or more. So line feeds, colons and the like are
found in bytes as they are in texts. -/
theorem large_bytes {character : Char} (several : 0x80 ≤ character.toNat) :
    ∀ byte ∈ encodeChar character, 0x80 ≤ byte.toNat := by
  have valid := to_nat_valid character
  have large {value : Nat} (least : 0x80 ≤ value) (small : value < 256) :
      0x80 ≤ value.toUInt8.toNat := by rwa [to_nat_toUInt8 small]
  rw [encodeChar]
  generalize character.toNat = point at valid several
  rw [if_neg (Nat.not_lt.mpr several)]
  split
  · exact List.forall_mem_cons.mpr ⟨large (by omega) (by omega),
      List.forall_mem_singleton.mpr (large (by omega) (by omega))⟩
  · split
    · exact List.forall_mem_cons.mpr ⟨large (by omega) (by omega),
        List.forall_mem_cons.mpr ⟨large (by omega) (by omega),
          List.forall_mem_singleton.mpr (large (by omega) (by omega))⟩⟩
    · exact List.forall_mem_cons.mpr ⟨large (by omega) (by omega),
        List.forall_mem_cons.mpr ⟨large (by omega) (by omega),
          List.forall_mem_cons.mpr ⟨large (by omega) (by omega),
            List.forall_mem_singleton.mpr (large (by omega) (by omega))⟩⟩⟩

/-- A byte below 0x80 occurs only in the bytes of the character of the same code point. -/
theorem to_nat_of_mem {byte : UInt8} {character : Char} (single : byte.toNat < 0x80)
    (there : byte ∈ encodeChar character) : character.toNat = byte.toNat := by
  rcases Nat.lt_or_ge character.toNat 0x80 with one | several
  · rw [encodeChar, if_pos one] at there
    rw [List.mem_singleton.mp there, to_nat_toUInt8 (by omega)]
  · have large := large_bytes several byte there
    omega

/-- A character of one byte occurs in a text if its byte occurs in the bytes of the text. -/
theorem mem_of_mem_encode (character : Char) (single : character.toNat < 0x80) {text : String}
    (there : character.toNat.toUInt8 ∈ encode text) : character ∈ text.toList := by
  obtain ⟨holder, member, holds⟩ := List.mem_flatMap.mp there
  have same := to_nat_of_mem (by rwa [to_nat_toUInt8 (by omega)]) holds
  rw [to_nat_toUInt8 (by omega)] at same
  rwa [← Char.toNat_inj.mp same]

/-- A character has at least one byte, so an encoded text is empty only if the text is. -/
theorem encode_char_ne_nil (character : Char) : encodeChar character ≠ [] := by
  simp only [encodeChar]
  repeat' split
  all_goals exact List.cons_ne_nil _ _

/-- A text whose bytes end in the byte of a character ends in that character, if that is one of a
single byte. -/
theorem getLast_of_encode (character : Char) (single : character.toNat < 0x80) {text : String}
    (last : (encode text).getLast? = some character.toNat.toUInt8) :
    text.toList.getLast? = some character := by
  rw [encode] at last
  rcases List.eq_nil_or_concat text.toList with none | ⟨before, final, whole⟩
  · rw [none] at last
    cases last
  · have ends := List.getLast?_eq_some_getLast (encode_char_ne_nil final)
    rw [whole, List.concat_eq_append, List.flatMap_append, List.flatMap_singleton,
      List.getLast?_append, ends, Option.some_or, ← ends] at last
    have same := to_nat_of_mem (by rwa [to_nat_toUInt8 (by omega)]) (List.mem_of_getLast? last)
    rw [to_nat_toUInt8 (by omega)] at same
    rw [whole, List.concat_eq_append, List.getLast?_concat, Char.toNat_inj.mp same]

section Size

/-- A character in front adds its bytes, so sizes can be followed character by character. -/
theorem size_of_cons (character : Char) (characters : List Char) :
    (String.ofList (character :: characters)).utf8ByteSize =
      character.utf8Size + (String.ofList characters).utf8ByteSize := by
  rw [String.ofList_cons, String.utf8ByteSize_append, String.utf8ByteSize_singleton]

/-- The order of the characters does not matter to their bytes. The reader collects them in
reverse. -/
theorem size_of_reverse (characters : List Char) :
    (String.ofList characters.reverse).utf8ByteSize = (String.ofList characters).utf8ByteSize := by
  induction characters with
  | nil => rfl
  | cons character characters inductionHypothesis =>
    rw [List.reverse_cons, String.ofList_append, String.utf8ByteSize_append, inductionHypothesis,
      ← String.singleton_eq_ofList, String.utf8ByteSize_singleton, size_of_cons, Nat.add_comm]

/-- A part of some characters has no more bytes than all of them, here one at their end. -/
theorem size_of_suffix {part whole : List Char} (suffix : part <:+ whole) :
    (String.ofList part).utf8ByteSize ≤ (String.ofList whole).utf8ByteSize := by
  obtain ⟨before, rfl⟩ := suffix
  rw [String.ofList_append, String.utf8ByteSize_append]
  exact Nat.le_add_left _ _

/-- The bytes of the text that was read, where three are set aside for the replacement of a
character that is not complete. -/
def Reading.size (reading : Reading) : Nat :=
  (String.ofList reading.written).utf8ByteSize + if reading.owed.isSome then 3 else 0

/-- A first byte that is a character of its own stands for a character of one byte, so reading it
adds no size. -/
theorem size_of_single {byte point : Nat} (single : start byte = .single point) :
    (Char.ofNat point).utf8Size = 1 := by
  have small : point < 0x80 := by
    rw [start] at single
    grind
  have all : ∀ value < 0x80, (Char.ofNat value).utf8Size = 1 := by decide
  exact all point small

/-- Between two characters a byte adds at most three bytes of text: those of a replacement character
at worst. -/
theorem size_begin (written : List Char) (byte : Nat) :
    (Reading.begin written byte).size ≤ (String.ofList written).utf8ByteSize + 3 := by
  rw [Reading.begin, Reading.size]
  split
  · rename_i point single
    simp only [size_of_cons, size_of_single single, Option.isSome_none, Bool.false_eq_true,
      if_false]
    omega
  · simp
  · have three : replacement.utf8Size = 3 := by decide
    simp only [size_of_cons, three, Option.isSome_none, Bool.false_eq_true, if_false]
    omega

/-- So does any byte: one that completes a character had three bytes set aside for it. -/
theorem size_feed (reading : Reading) (byte : UInt8) :
    (reading.feed byte).size ≤ reading.size + 3 := by
  obtain ⟨written, _ | owed⟩ := reading
  · exact size_begin written byte.toNat
  · simp only [Reading.feed]
    split
    · split
      · have four := Char.utf8Size_le_four (Char.ofNat (owed.bits * 64 + (byte.toNat - 0x80)))
        simp only [Reading.size, size_of_cons, Option.isSome_none, Option.isSome_some,
          Bool.false_eq_true, if_false, if_true]
        omega
      · simp [Reading.size]
    · have begun := size_begin (replacement :: written) byte.toNat
      have three : replacement.utf8Size = 3 := by decide
      rw [size_of_cons, three] at begun
      simp only [Reading.size, Option.isSome_some, if_true] at begun ⊢
      omega

/-- The text of some bytes has at most three times as many bytes: a byte that is read as U+FFFD
becomes three. -/
theorem size_decode (bytes : List UInt8) : (decode bytes).utf8ByteSize ≤ 3 * bytes.length := by
  have read (reading : Reading) :
      (bytes.foldl Reading.feed reading).size ≤ reading.size + 3 * bytes.length := by
    induction bytes generalizing reading with
    | nil => exact Nat.le_refl _
    | cons byte bytes inductionHypothesis =>
      have first := size_feed reading byte
      have others := inductionHypothesis (reading.feed byte)
      rw [List.foldl_cons, List.length_cons]
      omega
  have shown (reading : Reading) :
      (String.ofList reading.characters).utf8ByteSize = reading.size := by
    obtain ⟨written, _ | owed⟩ := reading
    · exact size_of_reverse written
    · have three : replacement.utf8Size = 3 := by decide
      rw [Reading.characters, size_of_reverse, size_of_cons, three, Nat.add_comm]
      rfl
  have whole := read ⟨[], none⟩
  have none : (⟨[], none⟩ : Reading).size = 0 := rfl
  rw [decode, shown]
  omega

end Size

end LiveTabs.Text.Utf8
