import LiveTabs.Text.Digits

/-!
# Scalars of settings files

A settings file writes integers in four bases, numbers with a fraction or an exponent, truth values,
and dates and times, all of them bare. Digits may be grouped by single underscores. An integer has
to fit 64 bits with a sign. The settings are integers and texts, so of every other scalar only its
kind is kept; it still has to be well written.
-/

namespace LiveTabs.Toml

open Text (digit? ofDigits)

/-- A bare value. -/
inductive Scalar where
  | integer (value : Int)
  /-- A number with a fraction or an exponent, or one that is not finite. -/
  | real
  | boolean (truth : Bool)
  /-- A date, a time, or both. -/
  | moment
deriving DecidableEq

/-- The digits at the start of a text and what follows them. An underscore belongs to the digits if
one of them comes next. -/
def moreDigits (base : Nat) : List Char → List Nat × List Char
  | [] => ([], [])
  | '_' :: next :: rest =>
    match digit? base next with
    | some digit => let (more, after) := moreDigits base rest; (digit :: more, after)
    | none => ([], '_' :: next :: rest)
  | first :: rest =>
    match digit? base first with
    | some digit => let (more, after) := moreDigits base rest; (digit :: more, after)
    | none => ([], first :: rest)

/-- Reads digits that begin with one. -/
def readDigits (base : Nat) : List Char → Option (List Nat × List Char)
  | [] => none
  | first :: rest =>
    (digit? base first).map fun digit =>
      let (more, after) := moreDigits base rest
      (digit :: more, after)

/-- An integer that fits 64 bits with a sign. -/
def fitting? (value : Int) : Option Int :=
  if -(Nat.pow 2 63 : Int) ≤ value ∧ value < (Nat.pow 2 63 : Int) then some value else none

/-- Takes a sign off the start of a text. -/
def readSign : List Char → Bool × List Char
  | '-' :: rest => (true, rest)
  | '+' :: rest => (false, rest)
  | rest => (false, rest)

/-- Reads the whole digits of a decimal number: a leading zero stands alone. -/
def readWhole (characters : List Char) : Option (List Nat × List Char) :=
  match readDigits 10 characters with
  | some (0 :: _ :: _, _) => none
  | other => other

/-- Reads a text that consists of digits in a base. -/
def based? (base : Nat) (characters : List Char) : Option Int :=
  match readDigits base characters with
  | some (digits, []) => fitting? (ofDigits base digits)
  | _ => none

/-- Reads an integer. A base other than ten is named by a letter after a zero and bears no sign. -/
def integer? (characters : List Char) : Option Int :=
  match characters with
  | '0' :: 'x' :: rest => based? 16 rest
  | '0' :: 'o' :: rest => based? 8 rest
  | '0' :: 'b' :: rest => based? 2 rest
  | _ =>
    let (negative, unsigned) := readSign characters
    match readWhole unsigned with
    | some (digits, []) =>
      let value : Int := ofDigits 10 digits
      fitting? (if negative then -value else value)
    | _ => none

/-- The least count that rounds beyond the greatest double. -/
def doubleLimit : Nat := (Nat.pow 2 54 - 1) * Nat.pow 2 970

/-- Whether `digits * 10 ^ exponent` is too large for a double. A number of less than 300 or more
than 320 digits need not be computed. -/
def passesDouble (digits : List Nat) (exponent : Int) : Bool :=
  let significant := digits.dropWhile fun digit => digit == 0
  let length : Int := significant.length + exponent
  let count := ofDigits 10 significant
  if significant.isEmpty || decide (length < 300) then false
  else if 320 < length then true
  else decide (doubleLimit * Nat.pow 10 (-exponent).toNat ≤ count * Nat.pow 10 exponent.toNat)

/-- Reads a fraction, if a point comes next. -/
def readFraction : List Char → Option (List Nat × List Char)
  | '.' :: rest => readDigits 10 rest
  | rest => some ([], rest)

/-- Reads an exponent, if its letter comes next. -/
def readExponent : List Char → Option (Int × List Char)
  | [] => some (0, [])
  | letter :: rest =>
    if letter = 'e' ∨ letter = 'E' then
      let (negative, unsigned) := readSign rest
      (readDigits 10 unsigned).map fun (digits, after) =>
        let value : Int := ofDigits 10 digits
        (if negative then -value else value, after)
    else some (0, letter :: rest)

/-- Whether a text is a number with a fraction or an exponent. A positive one may not be too large
for a double. -/
def isReal (characters : List Char) : Bool :=
  let (negative, unsigned) := readSign characters
  let read : Option Bool := do
    let (whole, afterWhole) ← readWhole unsigned
    let (fraction, afterFraction) ← readFraction afterWhole
    let (exponent, rest) ← readExponent afterFraction
    let fits := negative || !passesDouble (whole ++ fraction) (exponent - fraction.length)
    some (!afterWhole.isEmpty && rest.isEmpty && fits)
  read.getD false

/-- Reads a number of exactly `width` decimal digits, of those that are left after `value`. -/
def readFixed (value : Nat) : (width : Nat) → List Char → Option (Nat × List Char)
  | 0, rest => some (value, rest)
  | _ + 1, [] => none
  | width + 1, first :: rest =>
    (digit? 10 first).bind fun digit => readFixed (value * 10 + digit) width rest

/-- Reads a two-digit number that lies between two bounds. -/
def readPart (least greatest : Nat) (characters : List Char) : Option (Nat × List Char) :=
  (readFixed 0 2 characters).filter fun (value, _) => least ≤ value && value ≤ greatest

/-- Takes a given character off the start of a text. -/
def readMark (mark : Char) : List Char → Option (List Char)
  | [] => none
  | first :: rest => if first = mark then some rest else none

/-- The number of days of a month. -/
def daysOfMonth (year month : Nat) : Nat :=
  if month = 2 then
    if year % 4 = 0 ∧ (year % 100 ≠ 0 ∨ year % 400 = 0) then 29 else 28
  else if month = 4 ∨ month = 6 ∨ month = 9 ∨ month = 11 then 30
  else 31

/-- Reads a date and gives what follows it. -/
def readDate (characters : List Char) : Option (List Char) := do
  let (year, rest) ← readFixed 0 4 characters
  let (month, rest) ← readPart 1 12 (← readMark '-' rest)
  let (_, rest) ← readPart 1 (daysOfMonth year month) (← readMark '-' rest)
  some rest

/-- Reads the digits of a second that follow a point. -/
def readSecondFraction : List Char → Option (List Char)
  | '.' :: rest =>
    let after := rest.dropWhile Char.isDigit
    if after.length < rest.length then some after else none
  | rest => some rest

/-- Reads a time of day and gives what follows it. A minute may have a sixty-first second. -/
def readTime (characters : List Char) : Option (List Char) := do
  let (_, rest) ← readPart 0 23 characters
  let (_, rest) ← readPart 0 59 (← readMark ':' rest)
  let (_, rest) ← readPart 0 60 (← readMark ':' rest)
  readSecondFraction rest

/-- Reads the hours and minutes of a distance from universal time. -/
def readDistance (characters : List Char) : Option (List Char) := do
  let (_, rest) ← readPart 0 23 characters
  let (_, rest) ← readPart 0 59 (← readMark ':' rest)
  some rest

/-- Whether a text is a place in universal time: nothing, the letter for none, or a distance. -/
def isZone : List Char → Bool
  | [] => true
  | first :: rest =>
    if first = 'Z' ∨ first = 'z' then rest.isEmpty
    else if first = '+' ∨ first = '-' then (readDistance rest).any List.isEmpty
    else false

/-- Whether a text follows a date: nothing, or a time after one of the marks between the two. -/
def isTimeOfDate : List Char → Bool
  | [] => true
  | mark :: rest =>
    (mark == 'T' || mark == 't' || mark == ' ') && (readTime rest).any isZone

/-- Whether a text is a date and nothing more. -/
def isDate (characters : List Char) : Bool := (readDate characters).any List.isEmpty

/-- Whether a text is a date, a time, or both. -/
def isMoment (characters : List Char) : Bool :=
  (readDate characters).any isTimeOfDate || (readTime characters).any List.isEmpty

/-- The names of numbers that are not finite. -/
def isNonFinite (characters : List Char) : Bool :=
  let unsigned := (readSign characters).2
  unsigned == ['i', 'n', 'f'] || unsigned == ['n', 'a', 'n']

/-- Reads a bare value. -/
def Scalar.read? (characters : List Char) : Option Scalar :=
  if characters = ['t', 'r', 'u', 'e'] then some (.boolean true)
  else if characters = ['f', 'a', 'l', 's', 'e'] then some (.boolean false)
  else match integer? characters with
    | some value => some (.integer value)
    | none =>
      if isMoment characters then some .moment
      else if isReal characters || isNonFinite characters then some .real
      else none

end LiveTabs.Toml
