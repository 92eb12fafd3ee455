import LiveTabs.Text.Canonical
import LiveTabs.Text.Direction
import LiveTabs.Text.Joining
import LiveTabs.Text.Mark
import LiveTabs.Url.Folding
import LiveTabs.Url.Punycode

/-!
# Labels

A name consists of labels with points between them. A label that begins with `xn--` stands for the
text that it writes in Punycode. No label begins with a mark; a joiner stands only where it changes
how letters are drawn; and if a name has letters or numbers from right to left, each of its labels
keeps to one direction, so that it reads the same in either.
-/

namespace LiveTabs.Url

open Text (Direction)

/-- The greatest number of characters that a label writes in Punycode. -/
def encodedLimit : Nat := 2000

/-- The greatest number of characters of a label that is not all ASCII. -/
def labelLimit : Nat := 1000

/-- Whether a character lies beyond ASCII. -/
def isBeyondAscii (character : Char) : Bool := 0x80 ≤ character.toNat

/-- Whether a text is the folded form of itself. -/
def isFolded (characters : List Char) : Bool :=
  (characters.all fun character => fold character = some [character]) &&
    Text.compose characters = characters

/-- The text that a label stands for, if it stands for one. What is written in Punycode has to be
folded and to lie not all in ASCII. -/
def readLabel (label : List Char) : Option (List Char) :=
  match label with
  | 'x' :: 'n' :: '-' :: '-' :: encoded =>
    if encodedLimit < encoded.length then none
    else (Punycode.decode encoded).filter fun written =>
      written.any isBeyondAscii && isFolded written
  | _ => some label

/-- Whether a joiner between two parts of a label, of which the first is given last character first,
changes how letters are drawn. Either joiner may follow a virama; the one that keeps letters apart
may also stand between two that would join. -/
def joinerFits (joiner : Char) (before after : List Char) : Bool :=
  before.head?.any (fun previous => Text.canonicalOrder previous = Text.viramaOrder) ||
    (joiner = '\u200c' && Text.joinsAcross Text.Joining.reachesNext before &&
      Text.joinsAcross Text.Joining.reachesPrevious after)

/-- Whether a character is one of the two joiners. -/
def isJoiner (character : Char) : Bool := character = '\u200c' || character = '\u200d'

/-- Whether all joiners in the rest of a label, before which some characters stand, last first,
change how letters are drawn. -/
def joinersFit (before : List Char) : List Char → Bool
  | [] => true
  | character :: rest =>
    (!isJoiner character || joinerFits character before rest) &&
      joinersFit (character :: before) rest

/-- Whether a text that a label stands for is valid by itself. -/
def isLabel (label : List Char) : Bool :=
  !label.head?.any Text.isMark && joinersFit [] label &&
    (label.length ≤ labelLimit || !label.any isBeyondAscii)

/-- Whether a direction makes a name one that is written from right to left in part. -/
def runsLeft (direction : Direction) : Bool :=
  direction = .rightToLeft || direction = .arabicNumber

/-- Whether a label of given directions reads from left to right: it ends with a letter or number,
and has none from right to left. -/
def readsRight (directions : List Direction) : Bool :=
  let ending := directions.reverse.dropWhile (· = .mark)
  ending.head?.any (fun last => last = .leftToRight || last = .number) &&
    !directions.any runsLeft

/-- Whether a label of given directions reads from right to left: it ends with a letter or number,
has none from left to right, and has numbers of one kind only. -/
def readsLeft (directions : List Direction) : Bool :=
  let ending := directions.reverse.dropWhile (· = .mark)
  ending.head?.any (fun last => last = .rightToLeft || last = .number || last = .arabicNumber) &&
    !directions.contains .leftToRight &&
    !(directions.contains .number && directions.contains .arabicNumber)

/-- Whether a label keeps to one direction, which its first letter tells. -/
def keepsDirection (label : List Char) : Bool :=
  let directions := label.map Text.direction
  match directions with
  | [] => true
  | .leftToRight :: _ => readsRight directions
  | .rightToLeft :: _ => readsLeft directions
  | _ => false

/-- Whether a name with the given labels is written from right to left in part. -/
def hasRightToLeft (labels : List (List Char)) : Bool :=
  labels.any fun label => label.any fun character => runsLeft (Text.direction character)

/-- Whether labels, as they stand in a folded name, are valid together. -/
def areLabels (labels : List (List Char)) : Bool :=
  match labels.mapM readLabel with
  | some texts => texts.all isLabel && (!hasRightToLeft texts || texts.all keepsDirection)
  | none => false

end LiveTabs.Url
