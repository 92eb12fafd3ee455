import LiveTabs.Json.Numeral

/-!
# Words of the wire format

A text is read character by character into words: brackets, separators, the three names, numerals
and quoted texts. A quoted text is kept as it is written, because an escape may name half of a pair
of 16-bit units; whether the pieces make up a text is asked only of texts that are kept.
-/

namespace LiveTabs.Json

/-- A part of a quoted text: a character, or a 16-bit unit written as an escape. -/
inductive Piece where
  | plain (character : Char)
  | unit (value : Nat)
deriving DecidableEq

namespace Piece

/-- The characters that pieces make up, after those in `done`, which are held last first. A unit
from `0xD800` to `0xDBFF` has to be followed by one from `0xDC00` to `0xDFFF`, and the latter stands
nowhere else. -/
def resolveAfter (done : List Char) : List Piece → Option (List Char)
  | [] => some done.reverse
  | .plain character :: rest => resolveAfter (character :: done) rest
  | .unit first :: .unit second :: rest =>
    if 0xD800 ≤ first ∧ first ≤ 0xDBFF then
      if 0xDC00 ≤ second ∧ second ≤ 0xDFFF then
        let point := 0x10000 + (first - 0xD800) * 1024 + (second - 0xDC00)
        resolveAfter (Char.ofNat point :: done) rest
      else none
    else if 0xDC00 ≤ first ∧ first ≤ 0xDFFF then none
    else resolveAfter (Char.ofNat first :: done) (.unit second :: rest)
  | .unit single :: rest =>
    if 0xD800 ≤ single ∧ single ≤ 0xDFFF then none
    else resolveAfter (Char.ofNat single :: done) rest

/-- The text that pieces make up. -/
def text? (pieces : List Piece) : Option String := (resolveAfter [] pieces).map String.ofList

end Piece

/-- A word of the wire format. -/
inductive Token where
  | openArray
  | closeArray
  | openObject
  | closeObject
  | comma
  | colon
  | null
  | boolean (truth : Bool)
  | numeral (content : Numeral)
  | text (pieces : List Piece)
deriving DecidableEq

/-- Where a reader of words stands. Collected characters and pieces are held last first. -/
inductive Scan where
  | between
  | bare (collected : List Char)
  | quoted (collected : List Piece)
  | escape (collected : List Piece)
  | unit (collected : List Piece) (owed : Nat) (value : Nat)
deriving DecidableEq

namespace Token

/-- Whether a character may stand between words. -/
def isSpace (character : Char) : Bool :=
  character == ' ' || character == '\t' || character == '\n' || character == '\r'

/-- The word that is a single mark. -/
def mark? : Char → Option Token
  | '[' => some .openArray
  | ']' => some .closeArray
  | '\x7b' => some .openObject
  | '\x7d' => some .closeObject
  | ',' => some .comma
  | ':' => some .colon
  | _ => none

/-- The word that bare characters spell: one of the three names, or a numeral. -/
def bare? (characters : List Char) : Option Token :=
  if characters = ['n', 'u', 'l', 'l'] then some .null
  else if characters = ['t', 'r', 'u', 'e'] then some (.boolean true)
  else if characters = ['f', 'a', 'l', 's', 'e'] then some (.boolean false)
  else (Numeral.read? characters).map .numeral

/-- The character that an escape letter names. -/
def escaped? : Char → Option Char
  | '"' => some '"'
  | '\\' => some '\\'
  | '/' => some '/'
  | 'b' => some '\x08'
  | 'f' => some '\x0c'
  | 'n' => some '\n'
  | 'r' => some '\r'
  | 't' => some '\t'
  | _ => none

/-- Reads a character that stands between words. -/
def scanBetween (character : Char) (words : List Token) : Scan × List Token :=
  if isSpace character then (.between, words)
  else if character = '"' then (.quoted [], words)
  else match mark? character with
    | some word => (.between, word :: words)
    | none => (.bare [character], words)

/-- Reads one character. Finished words are held last first; a character that no text may hold at
its place ends the reading. -/
def scan (state : Scan) (words : List Token) (character : Char) : Option (Scan × List Token) :=
  match state with
  | .between => some (scanBetween character words)
  | .bare collected =>
    if isSpace character ∨ character = '"' ∨ (mark? character).isSome then
      (bare? collected.reverse).map fun word => scanBetween character (word :: words)
    else some (.bare (character :: collected), words)
  | .quoted collected =>
    if character = '"' then some (.between, .text collected.reverse :: words)
    else if character = '\\' then some (.escape collected, words)
    else if character.toNat < 0x20 then none
    else some (.quoted (.plain character :: collected), words)
  | .escape collected =>
    if character = 'u' then some (.unit collected 4 0, words)
    else (escaped? character).map fun meant => (.quoted (.plain meant :: collected), words)
  | .unit collected owed value =>
    (Text.digit? 16 character).map fun digit =>
      if owed ≤ 1 then (.quoted (.unit (value * 16 + digit) :: collected), words)
      else (.unit collected (owed - 1) (value * 16 + digit), words)

/-- Reads all characters from a given place on. -/
def scanAll (state : Scan) (words : List Token) : List Char → Option (List Token)
  | [] =>
    match state with
    | .between => some words.reverse
    | .bare collected => (bare? collected.reverse).map fun word => (word :: words).reverse
    | _ => none
  | character :: rest =>
    match scan state words character with
    | some (next, found) => scanAll next found rest
    | none => none

/-- The words of a text. -/
def ofCharacters (characters : List Char) : Option (List Token) := scanAll .between [] characters

end Token

end LiveTabs.Json
