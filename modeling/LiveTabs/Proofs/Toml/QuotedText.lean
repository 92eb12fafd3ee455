import LiveTabs.Toml.Quoted

/-!
# Quoted texts that are read back

Whichever form a text is written in, scanning it up to the end of its line gives one word with the
text. Inside quotation marks every character is read back from its written form, escapes included. A
block counts a run of marks before it collects them, because the last three of a run may be its end:
no form leaves more than two marks in a row, so the three at the end are told from those of the
text. Apostrophes hold only what stands for itself.
-/

namespace LiveTabs.Toml

namespace Token

/-- Scanning goes on after one character from where it leads. The proofs below follow written texts
character by character. -/
theorem scan_all_cons {state next : Scan} {words found : List Token} {character : Char}
    (reads : scan state words character = some (next, found)) (rest : List Char) :
    scanAll state words (character :: rest) = scanAll next found rest := by
  rw [scanAll, reads]

/-- The end of a line between words is a word of its own, because it ends a statement. -/
theorem scan_between_newline (words : List Token) :
    scanBetween '\n' words = some (.between, .newline :: words) := rfl

end Token

open Token (scan scanAll scan_all_cons)

/-- A character that is no control character is plain, or ends a line. Only the others have to be
escaped. -/
theorem plain_of_not_control {character : Char} (uncontrolled : isControl character = false) :
    character = '\n' ∨ Token.isPlain character = true := by
  simp only [isControl, Token.isPlain, Bool.or_eq_false_iff, Bool.or_eq_true, Bool.and_eq_true,
    Bool.and_eq_false_iff, decide_eq_true_eq, decide_eq_false_iff_not, bne_iff_ne, beq_iff_eq,
    bne_eq_false_iff_eq, beq_eq_false_iff_ne] at uncontrolled ⊢
  obtain ⟨(large | tab) | newline, notDelete⟩ := uncontrolled
  · exact .inr (.inr ⟨by omega, notDelete⟩)
  · exact .inr (.inl tab)
  · exact .inl newline

section Basic

/-- Inside quotation marks, after a run of marks if it is a block. -/
def Scan.inside (isBlock : Bool) (collected : List Char) (run : Nat) : Scan :=
  if isBlock then .block .basic collected run else .line .basic collected

/-- All that was read inside quotation marks, last first: a block has not collected the marks of the
run that it is in. -/
def heldInside (isBlock : Bool) (collected : List Char) (run : Nat) : List Char :=
  if isBlock then List.replicate run Quote.basic.mark ++ collected else collected

variable {isBlock : Bool} {collected : List Char} {run : Nat} {words : List Token}

/-- A backslash begins an escape after all that was read, the marks of a short run included. -/
theorem scan_inside_backslash (few : run ≤ 2) :
    scan (.inside isBlock collected run) words '\\' =
      some (.escape isBlock (heldInside isBlock collected run), words) := by
  have unfinished : ¬ 3 ≤ run := by omega
  cases isBlock <;>
    simp [scan, Scan.inside, heldInside, Token.scanLine, Token.scanBlock, Quote.mark, unfinished]

/-- A character that stands for itself is collected, and the run of marks before it with it. -/
theorem scan_inside_itself {character : Char} (few : run ≤ 2) (notMark : character ≠ '"')
    (notBackslash : character ≠ '\\')
    (itself : Token.isPlain character = true ∨ (isBlock = true ∧ character = '\n')) :
    scan (.inside isBlock collected run) words character =
      some (.inside isBlock (character :: heldInside isBlock collected run) 0, words) := by
  have unfinished : ¬ 3 ≤ run := by omega
  obtain plain | ⟨rfl, rfl⟩ := itself
  · cases isBlock <;>
      simp [scan, Scan.inside, heldInside, Token.scanLine, Token.scanBlock, Quote.mark, unfinished,
        notMark, notBackslash, plain]
  · simp [scan, Scan.inside, heldInside, Token.scanBlock, Quote.mark, unfinished]

/-- A letter after a backslash is read as the character that it names, and the text goes on. -/
theorem scan_escape_letter {character letter : Char} (rest : List Char)
    (names : Token.escaped? letter = some character) :
    scanAll (.escape isBlock collected) words (letter :: rest) =
      scanAll (.inside isBlock (character :: collected) 0) words rest := by
  have notPoint : letter ≠ 'u' ∧ letter ≠ 'U' := by
    constructor <;>
    · rintro rfl
      cases names
  refine scan_all_cons ?_ rest
  simp [scan, Token.scanEscape, notPoint, names, Token.resume, Scan.inside]

/-- An upper-case hexadecimal digit is read as the digit that it is, which gives code points
back. -/
theorem digit_of_upper_hexadecimal {digit : Nat} (bound : digit < 16) :
    Text.digit? 16 (upperHexDigit digit) = some digit := by
  have every : ∀ digit, digit < 16 → Text.digit? 16 (upperHexDigit digit) = some digit := by decide
  exact every digit bound

/-- A code point of two digits after a backslash is read as its character. Control characters
without a letter are written like this. -/
theorem scan_escape_point {character : Char} (rest : List Char) (low : character.toNat < 256) :
    scanAll (.escape isBlock collected) words
        ('u' :: '0' :: '0' :: upperHexDigit (character.toNat / 16) ::
          upperHexDigit (character.toNat % 16) :: rest) =
      scanAll (.inside isBlock (character :: collected) 0) words rest := by
  have high : Text.digit? 16 (upperHexDigit (character.toNat / 16)) = some (character.toNat / 16) :=
    digit_of_upper_hexadecimal (by omega)
  have last : Text.digit? 16 (upperHexDigit (character.toNat % 16)) = some (character.toNat % 16) :=
    digit_of_upper_hexadecimal (by omega)
  have zero : Text.digit? 16 '0' = some 0 := by decide
  have together : character.toNat / 16 * 16 + character.toNat % 16 = character.toNat := by omega
  have valid : character.toNat.isValidChar := character.valid
  have meant : Token.pointChar? character.toNat = some character := by
    rw [Token.pointChar?, if_pos valid, Char.ofNat_toNat]
  simp [scanAll, scan, Token.scanEscape, Token.scanPoint, zero, high, last, together, meant,
    Token.resume, Scan.inside]

/-- A character is written as an escape letter, as itself, or as its code point. The three ways are
told apart once here. -/
theorem escape_char_cases (isBlock : Bool) (character : Char) :
    (∃ letter, Token.escaped? letter = some character ∧
        escapeChar isBlock character = ['\\', letter]) ∨
      (character ≠ '\\' ∧
        (Token.isPlain character = true ∨ (isBlock = true ∧ character = '\n')) ∧
        escapeChar isBlock character = [character]) ∨
      (character.toNat < 256 ∧ escapeChar isBlock character =
        ['\\', 'u', '0', '0', upperHexDigit (character.toNat / 16),
          upperHexDigit (character.toNat % 16)]) := by
  unfold escapeChar
  split
  · rename_i same
    exact .inl ⟨'b', by rw [same]; rfl, rfl⟩
  split
  · rename_i same
    exact .inl ⟨'t', by rw [same]; rfl, rfl⟩
  split
  · rename_i same
    split
    · rename_i block
      exact .inr (.inl ⟨by rw [same]; decide, .inr ⟨block, same⟩, by rw [same]⟩)
    · exact .inl ⟨'n', by rw [same]; rfl, rfl⟩
  rename_i newline
  split
  · rename_i same
    exact .inl ⟨'f', by rw [same]; rfl, rfl⟩
  split
  · rename_i same
    exact .inl ⟨'r', by rw [same]; rfl, rfl⟩
  split
  · rename_i same
    exact .inl ⟨'\\', by rw [same]; rfl, rfl⟩
  rename_i notBackslash
  split
  · rename_i control
    refine .inr (.inr ⟨?_, rfl⟩)
    simp only [isControl, Bool.or_eq_true, Bool.and_eq_true, decide_eq_true_eq,
      beq_iff_eq] at control
    omega
  · rename_i uncontrolled
    have plain := (plain_of_not_control (Bool.eq_false_iff.mpr uncontrolled)).resolve_left newline
    exact .inr (.inl ⟨notBackslash, .inl plain, rfl⟩)

/-- A character other than a mark is read back from its written form, whichever of these it is. -/
theorem scan_escape_char {character : Char} (rest : List Char) (few : run ≤ 2)
    (notMark : character ≠ '"') :
    scanAll (.inside isBlock collected run) words (escapeChar isBlock character ++ rest) =
      scanAll (.inside isBlock (character :: heldInside isBlock collected run) 0) words rest := by
  obtain ⟨letter, names, written⟩ | ⟨notBackslash, itself, written⟩ | ⟨low, written⟩ :=
    escape_char_cases isBlock character
  · rw [written]
    exact (scan_all_cons (scan_inside_backslash few) _).trans (scan_escape_letter rest names)
  · rw [written]
    exact scan_all_cons (scan_inside_itself few notMark notBackslash itself) rest
  · rw [written]
    exact (scan_all_cons (scan_inside_backslash few) _).trans (scan_escape_point rest low)

/-- The characters of a text are read back from inside quotation marks. In a block at most two marks
at the end are not yet collected. -/
theorem scan_escape_text (isBlock : Bool) (words : List Token) (collected characters : List Char)
    (few : run ≤ 2) :
    ∃ after more, more ≤ 2 ∧
      heldInside isBlock after more = characters.reverse ++ heldInside isBlock collected run ∧
      ∀ rest, scanAll (.inside isBlock collected run) words
          (escapeText isBlock run characters ++ rest) =
        scanAll (.inside isBlock after more) words rest := by
  induction characters generalizing collected run with
  | nil => exact ⟨collected, run, few, rfl, fun rest => rfl⟩
  | cons first characters inductionHypothesis =>
    by_cases mark : first = Quote.basic.mark
    · by_cases counted : isBlock = true ∧ run < 2
      · -- A mark of a block is counted.
        obtain ⟨rfl, fewer⟩ := counted
        have next : run + 1 ≤ 2 := fewer
        obtain ⟨after, more, bound, held, scanned⟩ := inductionHypothesis collected next
        refine ⟨after, more, bound, ?_, fun rest => ?_⟩
        · rw [held, mark]
          simp [heldInside, List.replicate_succ]
        · rw [escapeText, if_pos mark, if_pos ⟨rfl, fewer⟩, List.cons_append, ← scanned rest]
          refine scan_all_cons ?_ _
          have room : run < 5 := by omega
          simp [scan, Scan.inside, Token.scanBlock, mark, room]
      · -- Any other mark is escaped.
        obtain ⟨after, more, bound, held, scanned⟩ := inductionHypothesis
          (first :: heldInside isBlock collected run) (Nat.zero_le 2)
        refine ⟨after, more, bound, ?_, fun rest => ?_⟩
        · rw [held]
          cases isBlock <;> simp [heldInside]
        · rw [escapeText, if_pos mark, if_neg counted, ← scanned rest]
          refine (scan_all_cons (scan_inside_backslash few) _).trans (scan_escape_letter _ ?_)
          rw [mark]
          rfl
    · obtain ⟨after, more, bound, held, scanned⟩ := inductionHypothesis
        (first :: heldInside isBlock collected run) (Nat.zero_le 2)
      refine ⟨after, more, bound, ?_, fun rest => ?_⟩
      · rw [held]
        cases isBlock <;> simp [heldInside]
      · rw [escapeText, if_neg mark, List.append_assoc, scan_escape_char _ few mark, scanned rest]

end Basic

/-- Between apostrophes on one line, plain characters are collected as they are, since nothing is
escaped there. -/
theorem scan_literal_line (words : List Token) (collected characters rest : List Char)
    (unmarked : Quote.literal.mark ∉ characters)
    (plain : ∀ character ∈ characters, Token.isPlain character = true) :
    scanAll (.line .literal collected) words (characters ++ rest) =
      scanAll (.line .literal (characters.reverse ++ collected)) words rest := by
  induction characters generalizing collected with
  | nil => rfl
  | cons first characters inductionHypothesis =>
    rw [List.mem_cons, not_or] at unmarked
    rw [List.forall_mem_cons] at plain
    have next := inductionHypothesis (first :: collected) unmarked.2 plain.2
    rw [List.reverse_cons, List.append_assoc, List.singleton_append, ← next, List.cons_append]
    refine scan_all_cons ?_ _
    simp [scan, Token.scanLine, Ne.symm unmarked.1, plain.1]

/-- The longest run so far is not longer than the longest run altogether, so what is said of the
whole text holds on the way. -/
theorem le_longest_run (mark : Char) (run longest : Nat) (characters : List Char) :
    longest ≤ longestRun mark run longest characters := by
  induction characters generalizing run longest with
  | nil => exact Nat.le_refl longest
  | cons first characters inductionHypothesis =>
    unfold longestRun
    split
    · exact Nat.le_trans (Nat.le_max_left _ _) (inductionHypothesis _ _)
    · exact inductionHypothesis _ _

/-- A run that goes on is not longer than the longest run altogether, so no run inside a block ends
it. -/
theorem run_le_longest_run (mark : Char) (run longest : Nat) (characters : List Char) :
    run + 1 ≤ longestRun mark run longest (mark :: characters) := by
  rw [longestRun, if_pos rfl]
  exact Nat.le_trans (Nat.le_max_right _ _) (le_longest_run _ _ _ _)

/-- A mark without a run of at least one does not occur, which is the condition for a text on one
line. -/
theorem not_mem_of_longest_run {mark : Char} {run longest : Nat} (characters : List Char)
    (none : longestRun mark run longest characters = 0) : mark ∉ characters := by
  induction characters generalizing run longest with
  | nil => exact List.not_mem_nil
  | cons first characters inductionHypothesis =>
    by_cases same : first = mark
    · have bound := run_le_longest_run mark run longest characters
      rw [same] at none
      omega
    · rw [longestRun, if_neg same] at none
      rw [List.mem_cons, not_or]
      exact ⟨Ne.symm same, inductionHypothesis none⟩

/-- In a block between apostrophes, characters are collected as they are, if no run of marks is
longer than two. At most two marks at the end are not yet collected. -/
theorem scan_literal_block (words : List Token) (collected : List Char) {run longest : Nat}
    (characters : List Char) (few : run ≤ 2)
    (short : longestRun Quote.literal.mark run longest characters ≤ 2)
    (uncontrolled : ∀ character ∈ characters, isControl character = false) :
    ∃ after more, more ≤ 2 ∧
      List.replicate more Quote.literal.mark ++ after =
        characters.reverse ++ (List.replicate run Quote.literal.mark ++ collected) ∧
      ∀ rest, scanAll (.block .literal collected run) words (characters ++ rest) =
        scanAll (.block .literal after more) words rest := by
  induction characters generalizing collected run longest with
  | nil => exact ⟨collected, run, few, rfl, fun rest => rfl⟩
  | cons first characters inductionHypothesis =>
    rw [List.forall_mem_cons] at uncontrolled
    by_cases mark : first = Quote.literal.mark
    · have bound := run_le_longest_run Quote.literal.mark run longest characters
      rw [mark] at short
      have fewer : run + 1 ≤ 2 := Nat.le_trans bound short
      rw [longestRun, if_pos rfl] at short
      obtain ⟨after, more, bound, held, scanned⟩ :=
        inductionHypothesis collected fewer short uncontrolled.2
      refine ⟨after, more, bound, ?_, fun rest => ?_⟩
      · rw [held, mark]
        simp [List.replicate_succ]
      · rw [List.cons_append, ← scanned rest]
        refine scan_all_cons ?_ _
        have room : run < 5 := by omega
        simp [scan, Token.scanBlock, mark, room]
    · rw [longestRun, if_neg mark] at short
      obtain ⟨after, more, bound, held, scanned⟩ :=
        inductionHypothesis (first :: (List.replicate run Quote.literal.mark ++ collected))
          (Nat.zero_le 2) short uncontrolled.2
      refine ⟨after, more, bound, ?_, fun rest => ?_⟩
      · rw [held]
        simp
      · rw [List.cons_append, ← scanned rest]
        refine scan_all_cons ?_ _
        have unfinished : ¬ 3 ≤ run := by omega
        simp [scan, Token.scanBlock, mark, unfinished, plain_of_not_control uncontrolled.1]

namespace TextForm

/-- Whether a text in a form, at the end of its line, is scanned as one word with the text. -/
def Reads (form : TextForm) (characters : List Char) : Prop :=
  ∀ words, scanAll .between words (form.write characters ++ ['\n']) =
    some (.between, .newline :: .text form.isBlock (String.ofList characters) :: words)

/-- The end of a line is no mark of a text, so it is not taken for the end of one. -/
theorem newline_ne_mark (quote : Quote) : '\n' ≠ quote.mark := by
  cases quote <;> decide

/-- A mark between words begins a text, on one line or in a block as the next characters show. -/
theorem scan_between_mark (quote : Quote) (words : List Token) :
    scan .between words quote.mark = some (.opened quote, words) := by
  cases quote <;> rfl

/-- A text on one line is scanned up to the mark that it does not contain. It holds for both marks,
given how the inside is scanned. -/
theorem reads_line {quote : Quote} {characters : List Char}
    (inside : ∀ words rest, scanAll (.line quote []) words
        ((TextForm.mk quote false).inside characters ++ rest) =
      scanAll (.line quote characters.reverse) words rest)
    (unmarked : ((TextForm.mk quote false).inside characters).head? ≠ some quote.mark) :
    Reads ⟨quote, false⟩ characters := by
  intro words
  have written : (TextForm.mk quote false).write characters ++ ['\n'] =
      quote.mark :: ((TextForm.mk quote false).inside characters ++ [quote.mark, '\n']) := by
    simp [write]
  rw [written, scan_all_cons (scan_between_mark quote words)]
  generalize (TextForm.mk quote false).inside characters = content at inside unmarked
  cases content with
  | nil =>
    have empty : some (Scan.line quote [], words) = some (.line quote characters.reverse, words) :=
      inside words []
    have none : characters = [] := by simpa using empty
    subst none
    simp [scanAll, scan, newline_ne_mark, Token.scan_between_newline]
  | cons first content =>
    have other : first ≠ quote.mark := by simpa using unmarked
    have begins : scanAll (.opened quote) words (first :: content ++ [quote.mark, '\n']) =
        scanAll (.line quote []) words (first :: content ++ [quote.mark, '\n']) := by
      simp [scanAll, scan, other]
    rw [begins, inside]
    simp [scanAll, scan, Token.scanLine, Token.scan_between_newline]

/-- A block is scanned up to the last three marks of the run at its end, so up to two marks before
them belong to the text. -/
theorem reads_block {quote : Quote} {characters : List Char}
    (inside : ∀ words, ∃ after more, more ≤ 2 ∧
      List.replicate more quote.mark ++ after = characters.reverse ∧
      ∀ rest, scanAll (.block quote [] 0) words
          ((TextForm.mk quote true).inside characters ++ rest) =
        scanAll (.block quote after more) words rest)
    (begins : '\n' ∉ characters →
      ((TextForm.mk quote true).inside characters).head? ≠ some '\n') :
    Reads ⟨quote, true⟩ characters := by
  intro words
  let closing := [quote.mark, quote.mark, quote.mark, '\n']
  obtain ⟨after, more, few, held, scanned⟩ := inside words
  have written : (TextForm.mk quote true).write characters ++ ['\n'] =
      quote.mark :: quote.mark :: quote.mark :: ((if '\n' ∈ characters then ['\n'] else []) ++
        ((TextForm.mk quote true).inside characters ++ closing)) := by
    simp [write, closing, List.replicate]
  have opened (rest : List Char) :
      scanAll .between words (quote.mark :: quote.mark :: quote.mark :: rest) =
        scanAll (.blockStart quote) words rest := by
    rw [scan_all_cons (scan_between_mark quote words)]
    simp [scanAll, scan]
  rw [written, opened]
  generalize (TextForm.mk quote true).inside characters = content at begins scanned
  have started : scanAll (.blockStart quote) words
      ((if '\n' ∈ characters then ['\n'] else []) ++ (content ++ closing)) =
        scanAll (.block quote [] 0) words (content ++ closing) := by
    split
    · exact scan_all_cons (by simp [scan]) _
    · rename_i single
      have notNewline : (content ++ closing).head? ≠ some '\n' := by
        cases content with
        | nil => simpa [closing] using (newline_ne_mark quote).symm
        | cons first content => exact begins single
      cases text : content ++ closing with
      | nil => simp [closing] at text
      | cons first rest =>
        rw [text] at notNewline
        simp only [List.head?_cons, ne_eq, Option.some.injEq] at notNewline
        simp [scanAll, scan, notNewline]
  have closed : scanAll (.block quote after more) words closing = some (.between,
      .newline :: Token.closeBlock quote after (more + 3) :: words) := by
    have room : more < 5 ∧ more + 1 < 5 ∧ more + 1 + 1 < 5 := by omega
    simp [closing, scanAll, scan, Token.scanBlock, room, newline_ne_mark,
      Token.scan_between_newline]
  have meant : Token.closeBlock quote after (more + 3) = .text true (String.ofList characters) := by
    rw [Token.closeBlock, Nat.add_sub_cancel, held, List.reverse_reverse]
  rw [started, scanned, closed, meant]

/-- Characters inside quotation marks begin with a mark only in a block, and with the end of a line
only if the text does. -/
theorem head_escape_text {isBlock : Bool} {characters : List Char} {first : Char}
    (begins : (escapeText isBlock 0 characters).head? = some first) :
    (first = '"' → isBlock = true) ∧ (first = '\n' → '\n' ∈ characters) := by
  cases characters with
  | nil => cases begins
  | cons character characters =>
    unfold escapeText at begins
    split at begins
    · rename_i mark
      split at begins
      · rename_i counted
        cases begins
        exact ⟨fun _ => counted.1, fun newline => absurd (mark.symm.trans newline) (by decide)⟩
      · cases begins
        exact ⟨fun mark => absurd mark (by decide), fun newline => absurd newline (by decide)⟩
    · rename_i notMark
      obtain ⟨letter, -, written⟩ | ⟨-, -, written⟩ | ⟨-, written⟩ :=
        escape_char_cases isBlock character <;> rw [written] at begins <;> cases begins
      · exact ⟨fun mark => absurd mark (by decide), fun newline => absurd newline (by decide)⟩
      · exact ⟨fun mark => absurd mark notMark, fun newline => newline ▸ List.mem_cons_self⟩
      · exact ⟨fun mark => absurd mark (by decide), fun newline => absurd newline (by decide)⟩

/-- Every text is read from quotation marks on one line, because everything can be escaped there. -/
theorem reads_basic_line (characters : List Char) : Reads ⟨.basic, false⟩ characters := by
  refine reads_line (fun words rest => ?_) fun begins => ?_
  · obtain ⟨after, more, -, held, scanned⟩ :=
      scan_escape_text false words [] characters (Nat.zero_le 2)
    have all : after = characters.reverse ++ [] := held
    rw [List.append_nil] at all
    subst all
    exact scanned rest
  · exact absurd ((head_escape_text begins).1 rfl) (by decide)

/-- Every text is read from a block between quotation marks, in which line ends stand for
themselves. -/
theorem reads_basic_block (characters : List Char) : Reads ⟨.basic, true⟩ characters := by
  refine reads_block (fun words => ?_) fun single begins => ?_
  · obtain ⟨after, more, few, held, scanned⟩ :=
      scan_escape_text true words [] characters (Nat.zero_le 2)
    have all : List.replicate more Quote.basic.mark ++ after = characters.reverse ++ [] := held
    exact ⟨after, more, few, all.trans (List.append_nil _), scanned⟩
  · exact single ((head_escape_text begins).2 rfl)

/-- A plain text without apostrophes is read from between them, as it stands there. -/
theorem reads_literal_line {characters : List Char}
    (unmarked : Quote.literal.mark ∉ characters)
    (plain : ∀ character ∈ characters, Token.isPlain character = true) :
    Reads ⟨.literal, false⟩ characters := by
  refine reads_line (fun words rest => ?_) fun begins => ?_
  · have scanned := scan_literal_line words [] characters rest unmarked plain
    rwa [List.append_nil] at scanned
  · exact unmarked (List.mem_of_mem_head? begins)

/-- A text without control characters and long runs of apostrophes is read from a block between
them. -/
theorem reads_literal_block {characters : List Char}
    (short : longestRun Quote.literal.mark 0 0 characters ≤ 2)
    (uncontrolled : ∀ character ∈ characters, isControl character = false) :
    Reads ⟨.literal, true⟩ characters := by
  refine reads_block (fun words => ?_) fun single begins => ?_
  · obtain ⟨after, more, few, held, scanned⟩ :=
      scan_literal_block words [] characters (Nat.zero_le 2) short uncontrolled
    exact ⟨after, more, few, held.trans (List.append_nil _), scanned⟩
  · exact single (List.mem_of_mem_head? begins)

/-- A text that is written between apostrophes has no control characters and no long runs of them,
and none at all if it is written on one line. -/
theorem literal_of {characters : List Char} {isBlock : Bool}
    (chosen : of characters = ⟨.literal, isBlock⟩) :
    (∀ character ∈ characters, isControl character = false) ∧
      longestRun Quote.literal.mark 0 0 characters ≤ 2 ∧
      (isBlock = false →
        '\n' ∉ characters ∧ longestRun Quote.literal.mark 0 0 characters = 0) := by
  unfold of at chosen
  dsimp only at chosen
  split at chosen
  · cases chosen
  split at chosen
  · rename_i line
    simp only [Bool.and_eq_true, Bool.not_eq_true', beq_iff_eq, List.any_eq_false,
      Bool.not_eq_true, List.contains_eq_mem, decide_eq_false_iff_not] at line
    obtain ⟨⟨uncontrolled, unmarked⟩, single⟩ := line
    exact ⟨uncontrolled, by omega, fun _ => ⟨single, unmarked⟩⟩
  split at chosen
  · cases chosen
  split at chosen
  · rename_i block
    simp only [Bool.and_eq_true, Bool.not_eq_true', List.any_eq_false, Bool.not_eq_true,
      decide_eq_true_eq] at block
    cases chosen
    exact ⟨block.1, block.2, fun line => absurd line (by decide)⟩
  · cases chosen

/-- Every text is read from the form that it is written in, because the choice keeps to the
conditions of each form. -/
theorem reads_chosen (characters : List Char) : Reads (of characters) characters := by
  cases chosen : of characters with
  | mk quote isBlock =>
    cases quote with
    | basic =>
      cases isBlock with
      | false => exact reads_basic_line characters
      | true => exact reads_basic_block characters
    | literal =>
      obtain ⟨uncontrolled, short, line⟩ := literal_of chosen
      cases isBlock with
      | false =>
        obtain ⟨single, unmarked⟩ := line rfl
        refine reads_literal_line (not_mem_of_longest_run characters unmarked) ?_
        intro character member
        refine (plain_of_not_control (uncontrolled character member)).resolve_left ?_
        rintro rfl
        exact single member
      | true => exact reads_literal_block short uncontrolled

end TextForm

/-- A text at the end of its line is scanned as one word with the text, whichever characters it
has. -/
theorem scan_quoted (words : List Token) (text : String) :
    scanAll .between words (quoted text ++ ['\n']) = some (.between,
      .newline :: .text (TextForm.of text.toList).isBlock text :: words) := by
  have reads := TextForm.reads_chosen text.toList words
  rwa [String.ofList_toList] at reads

/-- No character is escaped with a carriage return: its own escape has a letter. -/
theorem return_not_mem_escape_char (isBlock : Bool) (character : Char) :
    '\r' ∉ escapeChar isBlock character := by
  have digit : ∀ digit, digit < 16 → '\r' ≠ upperHexDigit digit := by decide
  obtain ⟨letter, names, written⟩ | ⟨-, itself, written⟩ | ⟨low, written⟩ :=
    escape_char_cases isBlock character
  · have notReturn : '\r' ≠ letter := by
      rintro rfl
      cases names
    simp [written, notReturn]
  · have notReturn : '\r' ≠ character := by
      rintro rfl
      exact absurd itself (by simp [Token.isPlain])
    simp [written, notReturn]
  · have high := digit (character.toNat / 16) (by omega)
    have last := digit (character.toNat % 16) (by omega)
    simp [written, high, last]

/-- Nothing inside quotation marks is a carriage return, so line ends stay as they are written. -/
theorem return_not_mem_escape_text (isBlock : Bool) (run : Nat) (characters : List Char) :
    '\r' ∉ escapeText isBlock run characters := by
  induction characters generalizing run with
  | nil => exact List.not_mem_nil
  | cons first characters inductionHypothesis =>
    have notMark : '\r' ≠ Quote.basic.mark := by decide
    unfold escapeText
    split
    · rename_i mark
      split <;> simp [mark, notMark, inductionHypothesis]
    · simp [return_not_mem_escape_char, inductionHypothesis]

/-- No text is written with a carriage return, in whatever form, so unifying the line ends of a file
does not touch it. -/
theorem return_not_mem_quoted (text : String) : '\r' ∉ quoted text := by
  have inside : '\r' ∉ (TextForm.of text.toList).inside text.toList := by
    cases chosen : TextForm.of text.toList with
    | mk quote isBlock =>
      cases quote with
      | basic => exact return_not_mem_escape_text isBlock 0 text.toList
      | literal =>
        intro member
        exact absurd ((TextForm.literal_of chosen).1 _ member) (by decide)
  have notMark : ∀ quote : Quote, '\r' ≠ quote.mark := by
    rintro (_ | _) <;> decide
  simp [quoted, TextForm.write, inside, notMark]

end LiveTabs.Toml
