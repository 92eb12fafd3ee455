/-!
# Styled text

A terminal shows a text in a style when a sequence of codes stands before it and a reset after it. A
reset inside the text would end the style early, so the codes are repeated after each of them. A
text without a style, and every text when colors are off, is shown as it is.
-/

namespace LiveTabs.Terminal

/-- The colors in use. -/
inductive Color where
  | red
  | green
  | yellow
  | blue
  | cyan
deriving DecidableEq

/-- The code of a color. -/
def Color.code : Color → String
  | .red => "31"
  | .green => "32"
  | .yellow => "33"
  | .blue => "34"
  | .cyan => "36"

/-- How a text is shown. -/
structure Style where
  isBold : Bool := false
  isDimmed : Bool := false
  color : Option Color := none
deriving DecidableEq

namespace Style

/-- The style of a color alone. -/
def of (color : Color) : Style := { color }

/-- Strong text. -/
def bold : Style := { isBold := true }

/-- Faint text. -/
def dimmed : Style := { isDimmed := true }

/-- The codes of a style, the color last. -/
def codes (style : Style) : List String :=
  (if style.isBold then ["1"] else []) ++ (if style.isDimmed then ["2"] else []) ++
    (style.color.map Color.code).toList

end Style

/-- Sets a sequence of codes. -/
def sequence (codes : List String) : String := "\x1b[" ++ String.intercalate ";" codes ++ "m"

/-- Repeats the start of a style after each reset in a text. -/
def resumeAfterResets (start : List Char) : List Char → List Char
  | '\x1b' :: '[' :: '0' :: 'm' :: rest =>
    '\x1b' :: '[' :: '0' :: 'm' :: (start ++ resumeAfterResets start rest)
  | character :: rest => character :: resumeAfterResets start rest
  | [] => []

/-- A text in a style. -/
def paint (colors : Bool) (style : Style) (text : String) : String :=
  if colors && !style.codes.isEmpty then
    let start := sequence style.codes
    start ++ String.ofList (resumeAfterResets start.toList text.toList) ++ sequence ["0"]
  else text

/-- Fills a text with blanks up to a number of characters. -/
def padTo (length : Nat) (text : String) : String :=
  text ++ String.ofList (List.replicate (length - text.length) ' ')

end LiveTabs.Terminal
