import LiveTabs.Text.Blank
import LiveTabs.Text.Combining
import LiveTabs.Text.Joining

/-!
# Ligatures

Letters of some scripts that are drawn as one with the letters before them, and so take less room
than they do apart. Most of these ligatures need the joiner between their letters, or know a joining
sign of their own; selectors of variants and other characters without a form do not disturb them.
-/

namespace LiveTabs.Text

/-- The end of a possible ligature. -/
inductive Ligature where
  /-- An Arabic alef, which a lam comes before. -/
  | alef
  /-- A Hebrew lamed, which a joiner and an alef come before. -/
  | lamed
  /-- A Buginese ya, which a joiner and two vowel signs come before. -/
  | ya
  /-- The second of these signs, the joiner and the ya. -/
  | signAndYa
  /-- A consonant of Tifinagh, which a joiner or the joining sign, and another one, come before. -/
  | consonant
  /-- The joining sign and the consonant. -/
  | signAndConsonant
  /-- A tone letter of Lisu, which another tone letter comes before. -/
  | tone
  /-- An Old Turkic letter, which a joiner and a certain letter come before. -/
  | turkic
  /-- A consonant of Khmer that fits below the one before a joining sign. -/
  | subscript
deriving DecidableEq

/-- Whether a letter is a lam. -/
def isLam (character : Char) : Bool :=
  inRanges [(0x644, 0x644), (0x6B5, 0x6B8), (0x76A, 0x76A), (0x8A6, 0x8A6), (0x8C7, 0x8C7)]
    character.toNat

/-- Whether a letter is an alef of Arabic. -/
def isAlef (character : Char) : Bool :=
  inRanges [(0x622, 0x623), (0x625, 0x625), (0x627, 0x627), (0x671, 0x673), (0x675, 0x675),
    (0x773, 0x774), (0x870, 0x882)] character.toNat

/-- Whether a letter is a consonant of Tifinagh. -/
def isTifinaghConsonant (character : Char) : Bool :=
  inRanges [(0x2D31, 0x2D65), (0x2D6F, 0x2D6F)] character.toNat

/-- Whether a letter is a consonant of Khmer that fits below another one. -/
def isSubscript (character : Char) : Bool :=
  inRanges [(0x1780, 0x1782), (0x1784, 0x1787), (0x1789, 0x178C), (0x178E, 0x1793),
    (0x1795, 0x1798),
    (0x179B, 0x179D), (0x17A0, 0x17A0), (0x17A2, 0x17A2), (0x17A7, 0x17A7), (0x17AB, 0x17AC),
    (0x17AF, 0x17AF)] character.toNat

/-- The ligature that a character may be the end of. -/
def Ligature.of? (character : Char) : Option Ligature :=
  if isAlef character then some .alef
  else if character = '\u05dc' then some .lamed
  else if character = '\u1a10' then some .ya
  else if isTifinaghConsonant character then some .consonant
  else if character = '\ua4fc' ∨ character = '\ua4fd' then some .tone
  else if character.toNat = 0x10C03 then some .turkic
  else if isSubscript character then some .subscript
  else none

/-- Whether a character without a form stands in a ligature without disturbing it. -/
def isUnseen (character : Char) : Bool :=
  inRanges [(0x34F, 0x34F), (0x17B4, 0x17B5), (0x180B, 0x180D), (0x180F, 0x180F), (0xFE00, 0xFE0F),
    (0xE0100, 0xE01EF)] character.toNat

/-- Whether a mark stands between a lam and an alef without disturbing the ligature. -/
def isTransparentMark (character : Char) : Bool :=
  isCombining character && joining character = .transparent

/-- The columns that a character adds before the end of a ligature, and what there is of a ligature
then. `joined` tells whether a joiner stands between the two. Without an answer the two are not
drawn as one. -/
def Ligature.extend (ligature : Ligature) (joined : Bool) (character : Char) :
    Option (Int × Option Ligature) :=
  match ligature with
  | .alef =>
    if isLam character then some (0, none)
    else if isTransparentMark character then some (0, some .alef)
    else none
  | .lamed => if joined ∧ character = '\u05d0' then some (0, none) else none
  | .ya => if joined ∧ character = '\u1a17' then some (0, some .signAndYa) else none
  | .signAndYa => if character = '\u1a15' then some (0, none) else none
  | .consonant =>
    if character = '\u2d7f' then some (1, some .signAndConsonant)
    else if joined ∧ isTifinaghConsonant character then some (0, none)
    else none
  | .signAndConsonant => if isTifinaghConsonant character then some (-1, none) else none
  | .tone => if '\ua4f8' ≤ character ∧ character ≤ '\ua4fb' then some (0, none) else none
  | .turkic => if joined ∧ character.toNat = 0x10C32 then some (0, none) else none
  | .subscript => if character = '\u17d2' then some (-1, none) else none

end LiveTabs.Text
