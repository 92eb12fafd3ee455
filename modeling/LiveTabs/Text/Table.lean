import LiveTabs.Text.Digits
import LiveTabs.Text.Pieces

/-!
# Tables of code points

What a standard says about characters is kept in tables. A table is written as lines of words with
blanks between them. A word is a code point, or the first and the last one of a closed range with a
hyphen between them; an equals sign and numbers with plus signs between them may follow. All numbers
are hexadecimal. The ranges ascend and are apart, so that the row of a code point is found by
halving.
-/

namespace LiveTabs.Text

/-- A row of a table: a closed range of code points, and the numbers that go with it. -/
structure Row where
  first : Nat
  last : Nat
  values : List Nat
deriving DecidableEq

/-- A hexadecimal number. -/
def hexadecimal (characters : List Char) : Nat := (number? 16 characters).getD 0

/-- The row that a word writes. -/
def Row.ofWord (word : List Char) : Row :=
  let range := pieces '-' (word.takeWhile (· != '='))
  let values := (word.dropWhile (· != '=')).drop 1
  { first := hexadecimal (range.head?.getD [])
    last := hexadecimal (range.getLast?.getD [])
    values := if values.isEmpty then [] else (pieces '+' values).map hexadecimal }

/-- A table of code points. -/
structure Table where
  rows : Array Row

namespace Table

/-- The table that lines write. -/
def ofLines (lines : List String) : Table :=
  ⟨(lines.flatMap fun line => (pieces ' ' line.toList).map Row.ofWord).toArray⟩

/-- The row of a code point, looked for from one place of the table up to another. -/
def findBetween (table : Table) (point low high : Nat) : Option Row :=
  if low < high then
    let middle := (low + high) / 2
    match table.rows[middle]? with
    | none => none
    | some row =>
      if point < row.first then table.findBetween point low middle
      else if row.last < point then table.findBetween point (middle + 1) high
      else some row
  else none
termination_by high - low

/-- The row of a code point. -/
def find? (table : Table) (point : Nat) : Option Row := table.findBetween point 0 table.rows.size

/-- Whether a table has a character. -/
def contains (table : Table) (character : Char) : Bool := (table.find? character.toNat).isSome

end Table

end LiveTabs.Text
