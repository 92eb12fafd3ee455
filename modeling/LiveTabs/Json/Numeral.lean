import LiveTabs.Json.Value
import LiveTabs.Text.Digits

/-!
# Reading numerals

The written form of a number (sign, whole digits, fraction, power of ten) and the number it means.
Integers within 64 bits are exact. Any other numeral is a double: its leading digits are taken into
a 64-bit count, later ones only move the power of ten, and the count is multiplied or divided once
by that power. A numeral beyond the greatest double has no value; one below the least is zero.
-/

namespace LiveTabs.Json

open Text (digit? ofDigits)

/-- The written form of a number. -/
structure Numeral where
  negative : Bool
  /-- The digits before the point, most significant first. -/
  whole : List Nat
  /-- The digits after the point, if there is one. -/
  fraction : Option (List Nat)
  /-- The power of ten, if one is written. -/
  exponent : Option Int
deriving DecidableEq

namespace Numeral

/-- The digits at the start of a text, and what follows them. -/
def digits : List Char → List Nat × List Char
  | [] => ([], [])
  | character :: rest =>
    match digit? 10 character with
    | some digit => let (more, after) := digits rest; (digit :: more, after)
    | none => ([], character :: rest)

/-- Reads a fraction: a point with at least one digit. -/
def readFraction : List Char → Option (Option (List Nat) × List Char)
  | '.' :: rest =>
    let (read, after) := digits rest
    if read.isEmpty then none else some (some read, after)
  | rest => some (none, rest)

/-- Reads the digits of a power of ten, at least one. -/
def readPower (negative : Bool) (characters : List Char) : Option (Option Int × List Char) :=
  let (read, after) := digits characters
  if read.isEmpty then none
  else some (some (if negative then -(ofDigits 10 read : Int) else ofDigits 10 read), after)

/-- Reads a power of ten: the letter, a sign if there is one, and digits. -/
def readExponent : List Char → Option (Option Int × List Char)
  | [] => some (none, [])
  | letter :: rest =>
    if letter = 'e' ∨ letter = 'E' then
      match rest with
      | '+' :: after => readPower false after
      | '-' :: after => readPower true after
      | after => readPower false after
    else some (none, letter :: rest)

/-- Reads the whole of a text as a numeral. A leading zero stands alone. -/
def read? (characters : List Char) : Option Numeral :=
  let (negative, unsigned) := match characters with
    | '-' :: rest => (true, rest)
    | rest => (false, rest)
  let (whole, afterWhole) := digits unsigned
  if whole.isEmpty ∨ (whole.head? = some 0 ∧ whole.length ≠ 1) then none
  else do
    let (fraction, afterFraction) ← readFraction afterWhole
    let (exponent, rest) ← readExponent afterFraction
    if rest.isEmpty then some ⟨negative, whole, fraction, exponent⟩ else none

/-- The greatest count that the leading digits may reach. -/
def countLimit : Nat := Nat.pow 2 64 - 1

/-- Takes digits into a count until the next one would pass the limit; gives the digits left. -/
def takeDigits (count : Nat) : List Nat → Nat × List Nat
  | [] => (count, [])
  | digit :: rest =>
    if count * 10 + digit ≤ countLimit then takeDigits (count * 10 + digit) rest
    else (count, digit :: rest)

/-- Ten to a power that a double can hold. -/
def powerOfTen (exponent : Nat) : Float := Float.ofScientific 1 false exponent

/-- A count times a power of ten, by one multiplication or division for each 308 of the power.
Dividing three times leaves nothing of any count, so three rounds are enough. -/
def scale (value : Float) (exponent : Int) : Nat → Option Float
  | 0 => some 0.0
  | rounds + 1 =>
    if exponent.natAbs ≤ 308 then
      if 0 ≤ exponent then
        let scaled := value * powerOfTen exponent.natAbs
        if scaled.isInf then none else some scaled
      else some (value / powerOfTen exponent.natAbs)
    else if value == 0.0 then some value
    else if 0 ≤ exponent then none
    else scale (value / powerOfTen 308) (exponent + 308) rounds

/-- The greatest power of ten that is looked at; beyond it a numeral is zero or too large. -/
def exponentLimit : Nat := Nat.pow 2 31 - 1

/-- The double that a numeral means. -/
def real? (numeral : Numeral) : Option Number :=
  let (wholeCount, wholeLeft) := takeDigits 0 numeral.whole
  let fraction := numeral.fraction.getD []
  let (count, fractionLeft) := takeDigits wholeCount fraction
  let exponent := numeral.exponent.getD 0
  let shift : Int :=
    (wholeLeft.length : Int) - ((fraction.length - fractionLeft.length : Nat) : Int)
  let magnitude : Option Float :=
    if exponentLimit < exponent.natAbs then
      if count ≠ 0 ∧ 0 < exponent then none else some 0.0
    else scale (Float.ofScientific count false 0) (exponent + shift) 4
  magnitude.map fun value => .real (if numeral.negative then -value else value).toBits

/-- The number that a numeral means, if a number can be that large. -/
def value? (numeral : Numeral) : Option Number :=
  if numeral.fraction.isSome ∨ numeral.exponent.isSome then numeral.real?
  else
    let magnitude := ofDigits 10 numeral.whole
    if numeral.negative then
      if 0 < magnitude ∧ magnitude ≤ Nat.pow 2 63 then some (.integer (-(magnitude : Int)))
      else numeral.real?
    else if magnitude ≤ countLimit then some (.integer magnitude)
    else numeral.real?

end Numeral

end LiveTabs.Json
