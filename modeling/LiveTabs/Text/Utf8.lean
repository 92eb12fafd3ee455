/-!
# Reading bytes as UTF-8

A byte sequence is cut into well-formed characters and maximal broken pieces: a broken piece is the
longest run of bytes that begins some well-formed character without completing it, or one byte that
begins none. `decode` keeps the characters and shows every broken piece as U+FFFD.
-/

namespace LiveTabs.Text.Utf8

/-- What a reader still expects after the first byte of a character: how many bytes are owed and in
which range the next one has to lie. Later bytes lie in `0x80` to `0xBF`. -/
structure Owed where
  /-- The bytes that are still missing, at least one. -/
  missing : Nat
  /-- The least value the next byte may have. -/
  lowest : Nat
  /-- The greatest value the next byte may have. -/
  highest : Nat
  /-- The bits read so far. -/
  bits : Nat
deriving DecidableEq

/-- How a first byte begins: a character of its own, a longer character, or nothing. -/
inductive Start where
  | single (point : Nat)
  | longer (owed : Owed)
  | broken
deriving DecidableEq

/-- The table of first bytes. The narrowed ranges keep out overlong forms, surrogates and code
points beyond U+10FFFF. -/
def start (byte : Nat) : Start :=
  if byte < 0x80 then .single byte
  else if byte < 0xC2 then .broken
  else if byte < 0xE0 then .longer ⟨1, 0x80, 0xBF, byte - 0xC0⟩
  else if byte = 0xE0 then .longer ⟨2, 0xA0, 0xBF, 0⟩
  else if byte = 0xED then .longer ⟨2, 0x80, 0x9F, 0xD⟩
  else if byte < 0xF0 then .longer ⟨2, 0x80, 0xBF, byte - 0xE0⟩
  else if byte = 0xF0 then .longer ⟨3, 0x90, 0xBF, 0⟩
  else if byte < 0xF4 then .longer ⟨3, 0x80, 0xBF, byte - 0xF0⟩
  else if byte = 0xF4 then .longer ⟨3, 0x80, 0x8F, 4⟩
  else .broken

/-- The character that stands for a broken piece. -/
def replacement : Char := '\ufffd'

/-- A reading in progress: the characters read so far, last first, and what the character at hand
still owes, if the reader is inside one. -/
structure Reading where
  written : List Char
  owed : Option Owed

/-- Reads a byte between two characters. -/
def Reading.begin (written : List Char) (byte : Nat) : Reading :=
  match start byte with
  | .single point => ⟨Char.ofNat point :: written, none⟩
  | .longer owed => ⟨written, some owed⟩
  | .broken => ⟨replacement :: written, none⟩

/-- Reads one byte. A byte that cannot continue the character at hand ends a broken piece and is
then read as a first byte. -/
def Reading.feed (reading : Reading) (byte : UInt8) : Reading :=
  let value := byte.toNat
  match reading.owed with
  | none => .begin reading.written value
  | some owed =>
    if owed.lowest ≤ value ∧ value ≤ owed.highest then
      let bits := owed.bits * 64 + (value - 0x80)
      if owed.missing ≤ 1 then ⟨Char.ofNat bits :: reading.written, none⟩
      else ⟨reading.written, some ⟨owed.missing - 1, 0x80, 0xBF, bits⟩⟩
    else .begin (replacement :: reading.written) value

/-- What was read: an unfinished character is a broken piece. -/
def Reading.characters (reading : Reading) : List Char :=
  match reading.owed with
  | none => reading.written.reverse
  | some _ => (replacement :: reading.written).reverse

/-- The text of a byte sequence, with U+FFFD for every broken piece. -/
def decode (bytes : List UInt8) : String :=
  String.ofList (bytes.foldl Reading.feed ⟨[], none⟩).characters

/-- The bytes of a character. -/
def encodeChar (character : Char) : List UInt8 :=
  let point := character.toNat
  if point < 0x80 then [point.toUInt8]
  else if point < 0x800 then [(0xC0 + point / 64).toUInt8, (0x80 + point % 64).toUInt8]
  else if point < 0x10000 then
    [(0xE0 + point / 4096).toUInt8, (0x80 + point / 64 % 64).toUInt8, (0x80 + point % 64).toUInt8]
  else
    [(0xF0 + point / 262144).toUInt8, (0x80 + point / 4096 % 64).toUInt8,
      (0x80 + point / 64 % 64).toUInt8, (0x80 + point % 64).toUInt8]

/-- The bytes of a text. -/
def encode (text : String) : List UInt8 := text.toList.flatMap encodeChar

end LiveTabs.Text.Utf8
