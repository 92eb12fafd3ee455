/-!
# The shortest decimal of a double

A finite double stands for all reals that round to it. `Double.shortest` picks, of the decimals in
that interval, one with the fewest digits, and of those the nearest to the double; of two equally
near ones the one with the even last digit. The search works on exact integers: on every decimal
grid only the two neighbours of the value can be nearest, so they are the only ones that are tried.
-/

namespace LiveTabs.Json

/-- A finite positive double: `mantissa * 2 ^ exponent`. -/
structure Double where
  mantissa : Nat
  exponent : Int
  /-- Whether the next smaller double lies at half the distance of the next greater one. -/
  narrowBelow : Bool
deriving DecidableEq

/-- A decimal: `digits * 10 ^ exponent`. -/
structure Decimal where
  digits : Nat
  exponent : Int
deriving DecidableEq

/-- Compares `left * 10 ^ tens` with `right * 2 ^ twos`, without rounding. -/
def compareScaled (left : Nat) (tens : Int) (right : Nat) (twos : Int) : Ordering :=
  compare (left * Nat.pow 10 tens.toNat * Nat.pow 2 (-twos).toNat)
    (right * Nat.pow 2 twos.toNat * Nat.pow 10 (-tens).toNat)

namespace Double

/-- The magnitude of a double, read from its bits. -/
def ofBits (bits : UInt64) : Double :=
  let field := ((bits >>> 52) &&& 0x7FF).toNat
  let fraction := (bits &&& 0xFFFFFFFFFFFFF).toNat
  if field = 0 then ⟨fraction, -1074, false⟩
  else ⟨Nat.pow 2 52 + fraction, (field : Int) - 1075, fraction = 0 && 1 < field⟩

/-- Whether a decimal lies among the reals that round to the double. The ends of the interval belong
to it when the mantissa is even. -/
def holds (double : Double) (decimal : Decimal) : Bool :=
  let below := if double.narrowBelow then 4 * double.mantissa - 1 else 4 * double.mantissa - 2
  let above := 4 * double.mantissa + 2
  let closed := double.mantissa % 2 = 0
  let lower := compareScaled decimal.digits decimal.exponent below (double.exponent - 2)
  let upper := compareScaled decimal.digits decimal.exponent above (double.exponent - 2)
  (lower = .gt || (closed && lower = .eq)) && (upper = .lt || (closed && upper = .eq))

/-- The least power of ten above the double, given as its exponent. -/
def scale (double : Double) : Int :=
  let estimate := Int.fdiv (((double.mantissa.log2 : Int) + double.exponent) * 30103) 100000
  if compareScaled 1 estimate double.mantissa double.exponent = .gt then estimate
  else if compareScaled 1 (estimate + 1) double.mantissa double.exponent = .gt then estimate + 1
  else estimate + 2

/-- How often a power of ten fits into the double. -/
def quotient (double : Double) (tens : Int) : Nat :=
  double.mantissa * Nat.pow 2 double.exponent.toNat * Nat.pow 10 (-tens).toNat /
    (Nat.pow 10 tens.toNat * Nat.pow 2 (-double.exponent).toNat)

/-- The decimal with a given last place that is nearest to the double, if it rounds to it. -/
def onGrid (double : Double) (tens : Int) : Option Decimal :=
  let low := double.quotient tens
  let lower : Decimal := ⟨low, tens⟩
  let upper : Decimal := ⟨low + 1, tens⟩
  match double.holds lower, double.holds upper with
  | true, false => some lower
  | false, true => some upper
  | false, false => none
  | true, true =>
    match compareScaled (2 * low + 1) tens (2 * double.mantissa) double.exponent with
    | .gt => some lower
    | .lt => some upper
    | .eq => some (if low % 2 = 0 then lower else upper)

/-- The first hit on the grids with 17 − `left` + 1 digits and more. -/
def search (double : Double) (scale : Int) : Nat → Decimal
  | 0 => ⟨double.quotient (scale - 17), scale - 17⟩
  | left + 1 =>
    match double.onGrid (scale - (17 - left : Int)) with
    | some decimal => decimal
    | none => search double scale left

/-- Moves trailing zeros of the digits into the exponent. -/
def trim : Nat → Decimal → Decimal
  | 0, decimal => decimal
  | steps + 1, decimal =>
    if decimal.digits ≠ 0 ∧ decimal.digits % 10 = 0 then
      trim steps ⟨decimal.digits / 10, decimal.exponent + 1⟩
    else decimal

/-- The shortest decimal that rounds to the double, and of those the nearest. -/
def shortest (double : Double) : Decimal := trim 18 (search double double.scale 17)

end Double

/-- The decimal digits of a natural number, most significant first, before those in `after`. -/
def decimalDigits (after : List Char) (value : Nat) : List Char :=
  let digit := Char.ofNat (48 + value % 10)
  if value < 10 then digit :: after else decimalDigits (digit :: after) (value / 10)
termination_by value

namespace Decimal

/-- Writes a decimal. A leading digit between 10 ^ -5 and 10 ^ 15 is written in place, with `.0`
after whole numbers; any other decimal has one digit before the point and a power of ten. -/
def characters (decimal : Decimal) : List Char :=
  let digits := decimalDigits [] decimal.digits
  let point : Int := digits.length + decimal.exponent
  if 0 ≤ decimal.exponent ∧ point ≤ 16 then
    digits ++ List.replicate decimal.exponent.toNat '0' ++ ['.', '0']
  else if 0 < point ∧ point ≤ 16 then
    digits.take point.toNat ++ '.' :: digits.drop point.toNat
  else if -5 < point ∧ point ≤ 0 then
    ['0', '.'] ++ List.replicate (-point).toNat '0' ++ digits
  else
    let power := point - 1
    let powerDigits := decimalDigits [] power.natAbs
    let written := if power < 0 then 'e' :: '-' :: powerDigits else 'e' :: powerDigits
    match digits with
    | [single] => single :: written
    | first :: rest => first :: '.' :: rest ++ written
    | [] => written

end Decimal

/-- Writes the finite double that has the given bits. -/
def realCharacters (bits : UInt64) : List Char :=
  let double := Double.ofBits bits
  let magnitude := if double.mantissa = 0 then ['0', '.', '0'] else double.shortest.characters
  if bits >>> 63 = 0 then magnitude else '-' :: magnitude

end LiveTabs.Json
