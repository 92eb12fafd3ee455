/-!
# Numbers in a base

Numbers are written with the digits of a base up to sixteen, most significant first; letters stand
for the digits from ten on, in either case.
-/

namespace LiveTabs.Text

/-- The value of a digit in a base up to sixteen. -/
def digit? (base : Nat) (character : Char) : Option Nat :=
  let value :=
    if '0' ≤ character ∧ character ≤ '9' then character.toNat - '0'.toNat
    else if 'a' ≤ character ∧ character ≤ 'f' then character.toNat - 'a'.toNat + 10
    else if 'A' ≤ character ∧ character ≤ 'F' then character.toNat - 'A'.toNat + 10
    else base
  if value < base then some value else none

/-- The number that digits write, most significant first. -/
def ofDigits (base : Nat) (digits : List Nat) : Nat :=
  digits.foldl (fun value digit => value * base + digit) 0

/-- The number that a text writes, which has to consist of digits and to have one. -/
def number? (base : Nat) (characters : List Char) : Option Nat :=
  if characters.isEmpty then none else (characters.mapM (digit? base)).map (ofDigits base)

end LiveTabs.Text
