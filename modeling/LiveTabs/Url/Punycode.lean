/-!
# Punycode

The labels of a domain name that begin with `xn--` write a text beyond ASCII in ASCII. The
characters of ASCII come first, up to the last hyphen; the rest are digits in base 36. Each number
in them says how far to count through all pairs of a code point and a place, and where the count
ends a character is put in. A number ends with a digit below a threshold, which depends on the place
of the digit and adapts to the numbers before it.
-/

namespace LiveTabs.Url.Punycode

/-- The value of a digit in base 36: letters of either case, then the decimal digits. -/
def digit? (character : Char) : Option Nat :=
  if 'a' ≤ character ∧ character ≤ 'z' then some (character.toNat - 'a'.toNat)
  else if 'A' ≤ character ∧ character ≤ 'Z' then some (character.toNat - 'A'.toNat)
  else if '0' ≤ character ∧ character ≤ '9' then some (character.toNat - '0'.toNat + 26)
  else none

/-- The threshold of a digit. -/
def threshold (place bias : Nat) : Nat := min 26 (max 1 (place - bias))

/-- The bias that a scaled number calls for. -/
def biasOf (scaled : Nat) : Nat :=
  if 455 < scaled then biasOf (scaled / 35) + 36 else 36 * scaled / (scaled + 38)
termination_by scaled

/-- The bias after a number, where `size` characters are there now. -/
def adapt (number size : Nat) (isFirst : Bool) : Nat :=
  let scaled := if isFirst then number / 700 else number / 2
  biasOf (scaled + scaled / size)

/-- A decoding under way. -/
structure Decoding where
  /-- The characters so far. -/
  output : List Char
  point : Nat := 128
  /-- Where the count stands. -/
  index : Nat := 0
  /-- Where the count stood before the number at hand. -/
  origin : Nat := 0
  weight : Nat := 1
  place : Nat := 36
  bias : Nat := 72

/-- Puts in the character at which the count ends. -/
def Decoding.settle (decoding : Decoding) : Option Decoding :=
  let size := decoding.output.length + 1
  let point := decoding.point + decoding.index / size
  let index := decoding.index % size
  if point.isValidChar then
    some {
      output := decoding.output.insertIdx index (Char.ofNat point)
      point
      index := index + 1
      origin := index + 1
      bias := adapt (decoding.index - decoding.origin) size (decoding.origin = 0) }
  else none

/-- The bound of counts and weights, which fit 32 bits. -/
def countBound : Nat := Nat.pow 2 32

/-- Takes in a digit. -/
def Decoding.feed (decoding : Decoding) (character : Char) : Option Decoding := do
  let digit ← digit? character
  let threshold := threshold decoding.place decoding.bias
  let counted := { decoding with index := decoding.index + digit * decoding.weight }
  let weight := counted.weight * (36 - threshold)
  if countBound ≤ counted.index then none
  else if digit < threshold then counted.settle
  else if countBound ≤ weight then none
  else some { counted with weight, place := counted.place + 36 }

/-- What lies before the last hyphen, and what follows it. A hyphen at the start divides nothing. -/
def splitBasic (label : List Char) : List Char × List Char :=
  let ending := (label.reverse.takeWhile (· != '-')).reverse
  let basic := label.take (label.length - ending.length - 1)
  if basic.isEmpty then ([], label) else (basic, ending)

/-- The text that a label writes, without the mark at its start. The label has to be all ASCII. -/
def decode (label : List Char) : Option (List Char) := do
  let (basic, digits) := splitBasic label
  let decoding ← digits.foldlM Decoding.feed { output := basic }
  if basic.all (·.toNat < 0x80) ∧ decoding.weight = 1 ∧ decoding.place = 36 then
    some decoding.output
  else none

end LiveTabs.Url.Punycode
