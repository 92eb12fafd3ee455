/-!
# Blank text

The 25 characters that have the Unicode property White_Space, as closed ranges, and texts made of
nothing else. Names, keys and addresses that are blank identify nothing and are refused wherever
they are configured.
-/

namespace LiveTabs.Text

/-- The closed ranges of code points with the property White_Space, ascending and apart. -/
def blankRanges : List (Nat × Nat) :=
  [(0x09, 0x0D), (0x20, 0x20), (0x85, 0x85), (0xA0, 0xA0), (0x1680, 0x1680), (0x2000, 0x200A),
    (0x2028, 0x2029), (0x202F, 0x202F), (0x205F, 0x205F), (0x3000, 0x3000)]

/-- Whether a code point lies in one of the given closed ranges. -/
def inRanges (ranges : List (Nat × Nat)) (point : Nat) : Bool :=
  ranges.any fun range => range.1 ≤ point && point ≤ range.2

/-- Whether a character is white space. -/
def isBlankChar (character : Char) : Bool := inRanges blankRanges character.toNat

/-- A blank beyond ASCII is white space like the one that the space bar makes. Letters are not, and
nor is the space of no width, which has not got the property. -/
example :
    [' ', '\t', '\u00A0', '\u3000'].all isBlankChar = true ∧
      ['a', '\u00E9', '\u200B'].any isBlankChar = false := by
  decide

/-- Whether a text is empty or made of white space alone. -/
def isBlank (text : String) : Bool := text.toList.all isBlankChar

/-- A text is not blank exactly when one of its characters is not white space. -/
theorem isBlank_eq_false_iff (text : String) :
    isBlank text = false ↔ ∃ character ∈ text.toList, isBlankChar character = false := by
  simp [isBlank]

end LiveTabs.Text
