import LiveTabs.Toml.Token

/-!
# Writing texts in settings files

A text is written in the plainest form that can hold it: in quotation marks if it needs no escape,
in apostrophes if these hold it as it is, and otherwise in a block of either kind if that needs no
escape. Only where no form does without escapes are they used. A block begins on a line of its own
if its text has several lines.
-/

namespace LiveTabs.Toml

/-- The length of the longest run of a character, where a run of `run` lies before the text and
`longest` is the longest so far. -/
def longestRun (character : Char) (run longest : Nat) : List Char → Nat
  | [] => longest
  | first :: rest =>
    if first = character then longestRun character (run + 1) (max longest (run + 1)) rest
    else longestRun character 0 longest rest

/-- Whether a character cannot stand in a file as it is. -/
def isControl (character : Char) : Bool :=
  (character.toNat < 0x20 && character != '\t' && character != '\n') || character.toNat == 0x7F

/-- A form of a text: its marks, and whether there are three of them. -/
structure TextForm where
  quote : Quote
  isBlock : Bool
deriving DecidableEq

/-- The form in which a text is written. -/
def TextForm.of (characters : List Char) : TextForm :=
  let control := characters.any isControl
  let backslash := characters.contains '\\'
  let newline := characters.contains '\n'
  let quotes := longestRun Quote.basic.mark 0 0 characters
  let apostrophes := longestRun Quote.literal.mark 0 0 characters
  if !control && !backslash && quotes == 0 && !newline then ⟨.basic, false⟩
  else if !control && apostrophes == 0 && !newline then ⟨.literal, false⟩
  else if !control && !backslash && quotes ≤ 2 then ⟨.basic, true⟩
  else if !control && apostrophes ≤ 2 then ⟨.literal, true⟩
  else ⟨.basic, newline⟩

/-- An upper-case hexadecimal digit. -/
def upperHexDigit (value : Nat) : Char :=
  if value < 10 then Char.ofNat (48 + value) else Char.ofNat (55 + value)

/-- A character inside quotation marks, other than a quotation mark. -/
def escapeChar (isBlock : Bool) (character : Char) : List Char :=
  if character = '\x08' then ['\\', 'b']
  else if character = '\t' then ['\\', 't']
  else if character = '\n' then if isBlock then ['\n'] else ['\\', 'n']
  else if character = '\x0c' then ['\\', 'f']
  else if character = '\r' then ['\\', 'r']
  else if character = '\\' then ['\\', '\\']
  else if isControl character then
    ['\\', 'u', '0', '0', upperHexDigit (character.toNat / 16),
      upperHexDigit (character.toNat % 16)]
  else [character]

/-- The characters of a text inside quotation marks, after a run of `run` marks. A block may hold
two marks in a row, so it escapes every third one; otherwise each mark is escaped. -/
def escapeText (isBlock : Bool) (run : Nat) : List Char → List Char
  | [] => []
  | first :: rest =>
    if first = Quote.basic.mark then
      if isBlock ∧ run < 2 then first :: escapeText isBlock (run + 1) rest
      else '\\' :: first :: escapeText isBlock 0 rest
    else escapeChar isBlock first ++ escapeText isBlock 0 rest

/-- The characters of a text between its marks. -/
def TextForm.inside (form : TextForm) (characters : List Char) : List Char :=
  match form.quote with
  | .basic => escapeText form.isBlock 0 characters
  | .literal => characters

/-- A text in a given form. A block of several lines begins on a line of its own. -/
def TextForm.write (form : TextForm) (characters : List Char) : List Char :=
  let marks := List.replicate (if form.isBlock then 3 else 1) form.quote.mark
  let start := if form.isBlock && characters.contains '\n' then ['\n'] else []
  marks ++ start ++ form.inside characters ++ marks

/-- A text as it is written. -/
def quoted (text : String) : List Char :=
  let characters := text.toList
  (TextForm.of characters).write characters

end LiveTabs.Toml
