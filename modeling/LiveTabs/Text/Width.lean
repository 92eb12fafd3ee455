import LiveTabs.Text.Emoji
import LiveTabs.Text.Ligature
import LiveTabs.Text.Wide

/-!
# Widths of texts

How many columns of a terminal a character and a text take. The width of a text is the sum of the
widths of its characters, except where neighbours are drawn as one: a line end of two characters, a
picture with its selector, modifier or joined pictures, a flag, and the ligatures of some scripts. A
text is therefore measured from its end to its start, where each character adds columns that depend
on what stands after it; one that joins with it may add none, or take back what it had added.

`truncate` shortens a text to a number of columns. It measures the whole text as a text and the part
that it keeps character by character, where control characters count nothing.
-/

namespace LiveTabs.Text

/-- Whether a character is a control character. -/
def isControl (character : Char) : Bool := inRanges [(0x00, 0x1F), (0x7F, 0x9F)] character.toNat

/-- Whether a character lies below all those that have a width of their own. -/
def isPlain (character : Char) : Bool := character ≤ '\u00a0'

/-- The width of a character among others. One sign of Khmer is written like three letters. -/
def columns (character : Char) : Nat :=
  if isPlain character then 1
  else if isCombining character then 0
  else if character = '\u17d8' then 3
  else if isWide character then 2
  else 1

/-- The width of a character by itself; a control character has none. -/
def columnsAlone (character : Char) : Nat := if isControl character then 0 else columns character

/-- What stands after a character and can be drawn as one with it. -/
inductive Follower where
  | nothing
  | lineFeed
  /-- A picture, of whatever characters. -/
  | picture
  /-- A modifier of the tone of the skin. -/
  | modifier
  /-- One letter of a region, or several. -/
  | regional (several : Bool)
  /-- The joiner and a picture. -/
  | joined
  /-- The frame of a key, the joiner and a picture. -/
  | joinedFrame
  /-- So many letters of regions, the joiner and a picture; above one, only whether it is even
  counts. -/
  | joinedRegional (count : Nat)
  /-- The end of the tags of a flag with so many letters and digits before it, the joiner and a
  picture. -/
  | joinedTags (letters digits : Nat)
  /-- The end of a possible ligature, which a joiner stands before or not. -/
  | ligature (kind : Ligature) (hasJoiner : Bool)
  /-- A vowel sign e of Kirat Rai, or two that make an ai. -/
  | kiratVowel (double : Bool)
deriving DecidableEq

/-- What stands after a character: what can be drawn as one with it, and the wishes of the selectors
before that. -/
structure After where
  follower : Follower := .nothing
  wantsPicture : Bool := false
  wantsText : Bool := false
  wantsWide : Bool := false
deriving DecidableEq

namespace After

/-- Only a follower. -/
def just (follower : Follower) : After := { follower }

/-- Whether the follower is the end of a ligature, which selectors do not disturb. -/
def isLigature (after : After) : Bool :=
  match after.follower with
  | .ligature _ _ => true
  | _ => false

/-- Whether a picture is joined that a picture with a selector can come before. -/
def isJoined (after : After) : Bool := after.follower = .joined || after.follower = .joinedFrame

/-- A selector asks for a picture. -/
def askPicture (after : After) : After :=
  if after.isLigature then { after with wantsPicture := true }
  else if after.isJoined then { follower := after.follower, wantsPicture := true }
  else { wantsPicture := true }

/-- A selector asks for text. -/
def askText (after : After) : After :=
  if after.isLigature then { after with wantsText := true } else { wantsText := true }

/-- A selector asks for a wide form. -/
def askWide (after : After) : After :=
  if after.isLigature then { after with wantsText := false, wantsWide := true }
  else { wantsWide := true }

/-- The character before knows no selector that asks for a picture. -/
def dropPicture (after : After) : After :=
  if after.wantsPicture then if after.isLigature then { after with wantsPicture := false } else {}
  else after

end After

/-- The follower that a character is. -/
def Follower.of (character : Char) : Follower :=
  if isPicture character then .picture
  else if isModifier character then .modifier
  else if isRegional character then .regional false
  else if character.toNat = 0x16D67 then .kiratVowel false
  else if character.toNat = 0x16D68 then .kiratVowel true
  else match Ligature.of? character with
    | some kind => .ligature kind false
    | none => .nothing

/-- Whether a character is a letter or a digit in the tags of a flag. -/
def isTagLetter (character : Char) : Bool := inRanges [(0xE0061, 0xE007A)] character.toNat

/-- Whether a character is a digit in the tags of a flag. -/
def isTagDigit (character : Char) : Bool := inRanges [(0xE0030, 0xE0039)] character.toNat

/-- The black flag, which tags come after. -/
def blackFlag : Char := '🏴'

/-- Tags of a flag with one more before them: first up to three digits, then letters. -/
def extendTags (letters digits : Nat) (character : Char) : Option Follower :=
  if character = blackFlag then if 3 ≤ letters ∨ digits = 3 then some .picture else none
  else if digits = 0 ∧ letters < 6 ∧ isTagLetter character then some (.joinedTags (letters + 1) 0)
  else if digits = 0 ∧ letters < 5 ∧ isTagDigit character then some (.joinedTags 0 1)
  else if 0 < digits ∧ digits < 3 ∧ isTagDigit character then some (.joinedTags 0 (digits + 1))
  else none

/-- A character before a joiner and a picture. -/
def extendJoined (character : Char) : Option (Int × Follower) :=
  if character = '\u20e3' then some (0, .joinedFrame)
  else if isRegional character then some (1, .joinedRegional 1)
  else if isModifier character then some (0, .modifier)
  else if character.toNat = 0xE007F then some (0, .joinedTags 0 0)
  else if isPicture character then some (0, .picture)
  else none

/-- One more letter of a region before others that a joiner and a picture come after: two make a
flag that is joined, and a third one stands apart. -/
def extendRegional (count : Nat) : Int × Follower :=
  if count = 2 then (3, .joinedRegional 3) else (-1, .joinedRegional 2)

/-- A character before a vowel sign e of Kirat Rai, or before two. -/
def extendKirat (double : Bool) (character : Char) : Option (Int × Follower) :=
  if character.toNat = 0x16D63 then some (0, .nothing)
  else if double then none
  else if character.toNat = 0x16D67 then some (0, .kiratVowel true)
  else if character.toNat = 0x16D68 then some (1, .kiratVowel false)
  else if character.toNat = 0x16D69 then some (0, .nothing)
  else none

/-- The columns that a character adds if it is drawn as one with its follower, and what the two are
then. -/
def Follower.extend (follower : Follower) (character : Char) : Option (Int × Follower) :=
  match follower with
  | .ligature kind hasJoiner =>
    if kind ≠ .alef ∧ character = joiner then some (0, .ligature kind true)
    else if kind ≠ .alef ∧ isUnseen character then some (0, .ligature kind hasJoiner)
    else (kind.extend hasJoiner character).map fun (added, rest) =>
      (added, rest.elim .nothing fun kind => .ligature kind false)
  | .modifier =>
    if isModifiable character then some (0, .picture)
    else if character = joiner then some (0, .joined)
    else none
  | .picture => if character = joiner then some (0, .joined) else none
  | .regional several =>
    if isRegional character then some (1, .regional true)
    else if several ∧ character = joiner then some (0, .joined)
    else none
  | .joined => extendJoined character
  | .joinedRegional count =>
    if isRegional character then some (extendRegional count)
    else if 1 < count ∧ character = joiner then some (0, .joined)
    else none
  | .joinedTags letters digits =>
    (extendTags letters digits character).map fun follower => (0, follower)
  | .kiratVowel double => extendKirat double character
  | .nothing | .lineFeed | .joinedFrame => none

/-- Whether a character is a quotation mark that has a wide form. -/
def isQuotation (character : Char) : Bool :=
  ['\u2018', '\u2019', '\u201c', '\u201d'].contains character

/-- The selector that asks for a wide form. -/
def wideSelector : Char := '\ufe01'

/-- The columns that a character adds to what stands after it, and what stands after the one
before. -/
def addColumns (character : Char) (after : After) : Int × After :=
  if after.wantsPicture && knowsPictureSelector character then
    (if after.isJoined then 0 else 2, .just .picture)
  else
    let after := after.dropPicture
    if isPlain character then
      if character = '\n' then (1, .just .lineFeed)
      else if character = '\r' ∧ after = .just .lineFeed then (0, {})
      else (1, {})
    else if character = pictureSelector then (0, after.askPicture)
    else if character = textSelector then (0, after.askText)
    else if after.wantsText && isSoftPicture character then (1, {})
    else if character = wideSelector then (0, after.askWide)
    else if after.wantsWide && isQuotation character then (2, {})
    else
      match after.follower.extend character with
      | some (added, follower) => (added, .just follower)
      | none => (columns character, .just (.of character))

/-- The columns of some characters, and what stands after the one before them. -/
def widthBefore (characters : List Char) : Int × After :=
  characters.foldr (fun character (sum, after) =>
    let (added, before) := addColumns character after
    (added + sum, before)) (0, {})

/-- The width of a text. -/
def width (text : String) : Nat := (widthBefore text.toList).1.toNat

/-- The characters at the start of a text that fit into a number of columns. -/
def takeColumns (room : Nat) : List Char → List Char
  | [] => []
  | character :: rest =>
    if columnsAlone character ≤ room then
      character :: takeColumns (room - columnsAlone character) rest
    else []

/-- The character that stands for what was cut off. -/
def ellipsis : Char := '…'

/-- A text that is wider than the given number of columns is cut and ends with an ellipsis. -/
def truncate (limit : Nat) (text : String) : String :=
  if width text ≤ limit then text
  else String.ofList (takeColumns (limit - 1) text.toList ++ [ellipsis])

end LiveTabs.Text
