import LiveTabs.Json.Field
import LiveTabs.Proofs.Json.WrittenInteger

/-!
# Texts that are read back

A quoted text is scanned one written character at a time: an escape by letter and a character that
stands for itself both give the character, and a control character without a letter gives the unit
with its number. The pieces found this way make up the text again, since no control character is
half of a pair. Integers and marks are scanned in the same step-by-step manner, so the words of a
written value can be read off from left to right.
-/

namespace LiveTabs.Json

/-- The piece that a written character is scanned as. -/
def writtenPiece (character : Char) : Piece :=
  if escapeLetter? character = none ∧ character.toNat < 0x20 then .unit character.toNat
  else .plain character

/-- The pieces that a written text is scanned as. -/
def writtenPieces (text : String) : List Piece := text.toList.map writtenPiece

/-- The letter of an escape names the character that it was chosen for, and is not the one that
begins a code point. -/
theorem escaped_letter (character letter : Char) (chosen : escapeLetter? character = some letter) :
    Token.escaped? letter = some character ∧ letter ≠ 'u' := by
  unfold escapeLetter? at chosen
  split at chosen
  · cases chosen; subst character; decide
  split at chosen
  · cases chosen; subst character; decide
  split at chosen
  · cases chosen; subst character; decide
  split at chosen
  · cases chosen; subst character; decide
  split at chosen
  · cases chosen; subst character; decide
  split at chosen
  · cases chosen; subst character; decide
  split at chosen
  · cases chosen; subst character; decide
  · cases chosen

/-- A character without a letter is neither the quotation mark nor the backslash, so it may stand
for itself. -/
theorem unescaped_character (character : Char) (unchosen : escapeLetter? character = none) :
    character ≠ '"' ∧ character ≠ '\\' := by
  constructor
  · rintro rfl
    exact absurd unchosen (by decide)
  · rintro rfl
    exact absurd unchosen (by decide)

/-- A written hexadecimal digit is read as the digit that it is, which gives code points back. -/
theorem digit_of_hexadecimal (digit : Nat) (bound : digit < 16) :
    Text.digit? 16 (hexDigit digit) = some digit := by
  have every : ∀ digit, digit < 16 → Text.digit? 16 (hexDigit digit) = some digit := by decide
  exact every digit bound

/-- Inside quotation marks, a written character is scanned as its piece: itself, an escape or a code
point. -/
theorem scan_written_character (collected : List Piece) (words : List Token) (character : Char)
    (rest : List Char) :
    Token.scanAll (.quoted collected) words (quoteChar character ++ rest) =
      Token.scanAll (.quoted (writtenPiece character :: collected)) words rest := by
  cases chosen : escapeLetter? character with
  | some letter =>
    obtain ⟨meant, notUnit⟩ := escaped_letter character letter chosen
    simp [quoteChar, chosen, Token.scanAll, Token.scan, notUnit, meant, writtenPiece]
  | none =>
    by_cases control : character.toNat < 0x20
    · have high : Text.digit? 16 (hexDigit (character.toNat / 16)) = some (character.toNat / 16) :=
        digit_of_hexadecimal _ (by omega)
      have low : Text.digit? 16 (hexDigit (character.toNat % 16)) = some (character.toNat % 16) :=
        digit_of_hexadecimal _ (by omega)
      have zero : Text.digit? 16 '0' = some 0 := by decide
      have together : character.toNat / 16 * 16 + character.toNat % 16 = character.toNat := by omega
      simp [quoteChar, chosen, control, Token.scanAll, Token.scan, zero, high, low, together,
        writtenPiece]
    · obtain ⟨notQuote, notBackslash⟩ := unescaped_character character chosen
      simp [quoteChar, chosen, control, Token.scanAll, Token.scan, notQuote, notBackslash,
        writtenPiece]

/-- Written characters up to the closing quotation mark are scanned as one word, by induction on
them. -/
theorem scan_written_characters (collected : List Piece) (words : List Token)
    (characters rest : List Char) :
    Token.scanAll (.quoted collected) words (characters.flatMap quoteChar ++ '"' :: rest) =
      Token.scanAll .between (.text (collected.reverse ++ characters.map writtenPiece) :: words)
        rest := by
  induction characters generalizing collected with
  | nil => simp [Token.scanAll, Token.scan]
  | cons character characters inductionHypothesis =>
    rw [List.flatMap_cons, List.append_assoc, scan_written_character, inductionHypothesis]
    simp

/-- A quoted text between words is scanned as the word with its pieces, and scanning goes on between
words. -/
theorem scan_quote (words : List Token) (text : String) (rest : List Char) :
    Token.scanAll .between words (quote text ++ rest) =
      Token.scanAll .between (.text (writtenPieces text) :: words) rest := by
  have opened : Token.scanAll .between words (quote text ++ rest) =
      Token.scanAll (.quoted []) words (text.toList.flatMap quoteChar ++ '"' :: rest) := by
    simp [quote, Token.scanAll, Token.scan, Token.scanBetween, Token.isSpace]
  rw [opened, scan_written_characters]
  rfl

/-- The pieces of written characters make up the characters. A unit among them is the number of a
control character, which is no half of a pair and so stands for itself. -/
theorem resolve_written_pieces (done characters : List Char) :
    Piece.resolveAfter done (characters.map writtenPiece) = some (done.reverse ++ characters) := by
  induction characters generalizing done with
  | nil => simp [Piece.resolveAfter]
  | cons character characters inductionHypothesis =>
    have stays : Char.ofNat character.toNat = character := Char.ofNat_toNat character
    by_cases control : escapeLetter? character = none ∧ character.toNat < 0x20
    · have next := inductionHypothesis (character :: done)
      have whole : ¬(0xD800 ≤ character.toNat) ∧ ¬(0xDC00 ≤ character.toNat) := by omega
      rw [List.map_cons, show writtenPiece character = .unit character.toNat by
        simp [writtenPiece, control]]
      generalize characters.map writtenPiece = pieces at next
      cases pieces with
      | nil => simpa [Piece.resolveAfter, whole, stays] using next
      | cons piece pieces =>
        cases piece <;> simpa [Piece.resolveAfter, whole, stays] using next
    · have next := inductionHypothesis (character :: done)
      simpa [writtenPiece, control, Piece.resolveAfter] using next

/-- The pieces of a written text make up the text, since writing leaves no half of a pair behind. -/
@[simp] theorem text_of_written_pieces (text : String) :
    Piece.text? (writtenPieces text) = some text := by
  simp [Piece.text?, writtenPieces, resolve_written_pieces]

/-- Whether a character belongs to a bare word: no space, quotation mark or other mark. -/
def isBare (character : Char) : Bool :=
  !(Token.isSpace character || character == '"' || (Token.mark? character).isSome)

/-- Bare characters are collected until one comes that is not bare. -/
theorem scan_bare (collected : List Char) (words : List Token) (characters rest : List Char)
    (bare : ∀ character ∈ characters, isBare character = true) :
    Token.scanAll (.bare collected) words (characters ++ rest) =
      Token.scanAll (.bare (characters.reverse ++ collected)) words rest := by
  induction characters generalizing collected with
  | nil => rfl
  | cons character characters inductionHypothesis =>
    have first : isBare character = true := bare character List.mem_cons_self
    simp only [isBare, Bool.not_eq_true', Bool.or_eq_false_iff, beq_eq_false_iff_ne, ne_eq] at first
    obtain ⟨⟨notSpace, notQuote⟩, notMark⟩ := first
    have later : ∀ character ∈ characters, isBare character = true := fun other member =>
      bare other (List.mem_cons_of_mem character member)
    simp [Token.scanAll, Token.scan, notSpace, notQuote, notMark, inductionHypothesis _ later]

/-- A bare word between words is scanned up to the mark, quotation mark or space that ends it. -/
theorem scan_bare_word (words : List Token) (word : Token) (characters : List Char) (stop : Char)
    (rest : List Char) (nonempty : characters ≠ [])
    (bare : ∀ character ∈ characters, isBare character = true)
    (spelled : Token.bare? characters = some word) (stops : isBare stop = false) :
    Token.scanAll .between words (characters ++ stop :: rest) =
      Token.scanAll .between (word :: words) (stop :: rest) := by
  cases characters with
  | nil => exact absurd rfl nonempty
  | cons character characters =>
    have first : isBare character = true := bare character List.mem_cons_self
    simp only [isBare, Bool.not_eq_true', Bool.or_eq_false_iff, beq_eq_false_iff_ne, ne_eq,
      Option.isSome_eq_false_iff, Option.isNone_iff_eq_none] at first
    obtain ⟨⟨notSpace, notQuote⟩, notMark⟩ := first
    have begun : Token.scanAll .between words (character :: characters ++ stop :: rest) =
        Token.scanAll (.bare [character]) words (characters ++ stop :: rest) := by
      simp [Token.scanAll, Token.scan, Token.scanBetween, notSpace, notQuote, notMark]
    have ends : Token.isSpace stop = true ∨ stop = '"' ∨ (Token.mark? stop).isSome = true := by
      simpa only [isBare, Bool.not_eq_false', Bool.or_eq_true, beq_iff_eq, or_assoc] using stops
    rw [begun, scan_bare _ _ _ _ fun other member => bare other (List.mem_cons_of_mem _ member)]
    simp [Token.scanAll, Token.scan, ends, spelled]

/-- The characters of a written natural number are bare, in front of others that are. -/
theorem bare_decimal_digits (value : Nat) (after : List Char)
    (bare : ∀ character ∈ after, isBare character = true) :
    ∀ character ∈ decimalDigits after value, isBare character = true := by
  have every : ∀ digit, digit < 10 → isBare (Char.ofNat (48 + digit)) = true := by decide
  induction value using positional.induct generalizing after with
  | case1 value small =>
    rw [decimalDigits, if_pos small]
    exact List.forall_mem_cons.mpr ⟨every (value % 10) (Nat.mod_lt value (by decide)), bare⟩
  | case2 value large inductionHypothesis =>
    rw [decimalDigits, if_neg large]
    exact inductionHypothesis _
      (List.forall_mem_cons.mpr ⟨every (value % 10) (Nat.mod_lt value (by decide)), bare⟩)

/-- The characters of a written integer are bare, its sign included, so it is one word. -/
theorem bare_integer (value : Int) :
    ∀ character ∈ integerCharacters value, isBare character = true := by
  cases value with
  | ofNat magnitude => exact bare_decimal_digits magnitude [] (by simp)
  | negSucc magnitude =>
    exact List.forall_mem_cons.mpr ⟨by decide, bare_decimal_digits (magnitude + 1) [] (by simp)⟩

/-- A written integer differs from everything that is no numeral, such as the names of constants. -/
theorem integer_characters_ne (value : Int) (characters : List Char)
    (unreadable : Numeral.read? characters = none) : integerCharacters value ≠ characters := by
  rintro rfl
  rw [read_integer] at unreadable
  cases unreadable

/-- A written integer is no name, so it is scanned as a numeral with its digits. -/
theorem bare_word_integer (value : Int) :
    Token.bare? (integerCharacters value) = some (.numeral (writtenInteger value)) := by
  have notNull : integerCharacters value ≠ ['n', 'u', 'l', 'l'] :=
    integer_characters_ne value _ (by decide)
  have notTrue : integerCharacters value ≠ ['t', 'r', 'u', 'e'] :=
    integer_characters_ne value _ (by decide)
  have notFalse : integerCharacters value ≠ ['f', 'a', 'l', 's', 'e'] :=
    integer_characters_ne value _ (by decide)
  simp [Token.bare?, notNull, notTrue, notFalse, read_integer]

/-- A written integer before a mark is scanned as its numeral, and the mark is scanned next. -/
theorem scan_integer (words : List Token) (value : Int) (stop : Char) (rest : List Char)
    (stops : isBare stop = false) :
    Token.scanAll .between words (integerCharacters value ++ stop :: rest) =
      Token.scanAll .between (.numeral (writtenInteger value) :: words) (stop :: rest) :=
  scan_bare_word words _ _ stop rest (integer_characters_ne value [] (by decide))
    (bare_integer value) (bare_word_integer value) stops

/-- A mark between words is scanned as its word, and scanning stays between words. -/
theorem scan_mark (words : List Token) (mark : Char) (word : Token) (rest : List Char)
    (means : Token.mark? mark = some word) :
    Token.scanAll .between words (mark :: rest) = Token.scanAll .between (word :: words) rest := by
  have notSpace : Token.isSpace mark = false := by
    cases space : Token.isSpace mark with
    | false => rfl
    | true =>
      simp only [Token.isSpace, Bool.or_eq_true, beq_iff_eq, or_assoc] at space
      rcases space with rfl | rfl | rfl | rfl <;> exact absurd means (by simp [Token.mark?])
  have notQuote : mark ≠ '"' := by
    rintro rfl
    exact absurd means (by simp [Token.mark?])
  simp [Token.scanAll, Token.scan, Token.scanBetween, notSpace, notQuote, means]

end LiveTabs.Json
