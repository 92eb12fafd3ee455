import LiveTabs.Json.Token

/-!
# Words of settings files

A settings file is read character by character into words. Lines end with a line feed, before which
a carriage return is dropped; comments leave no word behind. A text stands in quotation marks, which
know escapes, or in apostrophes, which know none; three marks instead of one make a block, which may
run over several lines. Whether a bare word is a part of a key or a value is left to the grammar.
-/

namespace LiveTabs.Toml

/-- The marks that a text can stand in. -/
inductive Quote where
  /-- Quotation marks: a backslash begins an escape. -/
  | basic
  /-- Apostrophes: every character stands for itself. -/
  | literal
deriving DecidableEq

/-- The mark itself. -/
def Quote.mark : Quote → Char
  | .basic => '"'
  | .literal => '\x27'

/-- A word of a settings file. -/
inductive Token where
  | space
  | tab
  | newline
  | equals
  | comma
  | dot
  | openBracket
  | closeBracket
  | openBrace
  | closeBrace
  | bare (characters : List Char)
  | text (isBlock : Bool) (content : String)
deriving DecidableEq

/-- Where a reader of words stands. Collected characters are held last first. -/
inductive Scan where
  | between
  | comment
  | bare (collected : List Char)
  /-- One mark was read. -/
  | opened (quote : Quote)
  /-- Two marks were read: an empty text, or the beginning of a block. -/
  | openedTwice (quote : Quote)
  | line (quote : Quote) (collected : List Char)
  /-- Three marks were read; a line feed that follows at once is dropped. -/
  | blockStart (quote : Quote)
  /-- Inside a block, after a run of marks. -/
  | block (quote : Quote) (collected : List Char) (marks : Nat)
  | escape (isBlock : Bool) (collected : List Char)
  | point (isBlock : Bool) (collected : List Char) (owed : Nat) (value : Nat)
  /-- After a backslash at the end of a line of a block; the lines are joined once one has ended. -/
  | join (collected : List Char) (ended : Bool)
deriving DecidableEq

namespace Token

/-- Drops every carriage return that stands before a line feed. -/
def unifyLineEnds : List Char → List Char
  | '\r' :: '\n' :: rest => '\n' :: unifyLineEnds rest
  | first :: rest => first :: unifyLineEnds rest
  | [] => []

/-- Whether a character may stand in comments and texts as it is. -/
def isPlain (character : Char) : Bool :=
  character == '\t' || (0x20 ≤ character.toNat && character.toNat != 0x7F)

/-- Whether a character belongs to bare words. -/
def isBare (character : Char) : Bool :=
  character.isAlphanum || character == '_' || character == '-' || character == '+' ||
    character == ':'

/-- The word that is a single character. -/
def mark? : Char → Option Token
  | ' ' => some .space
  | '\t' => some .tab
  | '\n' => some .newline
  | '=' => some .equals
  | ',' => some .comma
  | '.' => some .dot
  | '[' => some .openBracket
  | ']' => some .closeBracket
  | '\x7b' => some .openBrace
  | '\x7d' => some .closeBrace
  | _ => none

/-- The character that an escape letter names. -/
def escaped? : Char → Option Char
  | '"' => some '"'
  | '\\' => some '\\'
  | 'b' => some '\x08'
  | 't' => some '\t'
  | 'n' => some '\n'
  | 'f' => some '\x0c'
  | 'r' => some '\r'
  | _ => none

/-- The character with a given code point, if there is one. -/
def pointChar? (value : Nat) : Option Char :=
  if value.isValidChar then some (Char.ofNat value) else none

/-- Goes on after an escape. -/
def resume (isBlock : Bool) (collected : List Char) : Scan :=
  if isBlock then .block .basic collected 0 else .line .basic collected

/-- Reads a character that stands between words. -/
def scanBetween (character : Char) (words : List Token) : Option (Scan × List Token) :=
  if character = '#' then some (.comment, words)
  else if character = Quote.basic.mark then some (.opened .basic, words)
  else if character = Quote.literal.mark then some (.opened .literal, words)
  else if isBare character then some (.bare [character], words)
  else (mark? character).map fun word => (.between, word :: words)

/-- Reads a character of a text that is no block. -/
def scanLine (quote : Quote) (collected : List Char) (character : Char) (words : List Token) :
    Option (Scan × List Token) :=
  if character = quote.mark then
    some (.between, .text false (String.ofList collected.reverse) :: words)
  else if quote = .basic ∧ character = '\\' then some (.escape false collected, words)
  else if isPlain character then some (.line quote (character :: collected), words)
  else none

/-- A block that ended with a run of marks: three of them end it, and those before belong to it. -/
def closeBlock (quote : Quote) (collected : List Char) (marks : Nat) : Token :=
  .text true (String.ofList (List.replicate (marks - 3) quote.mark ++ collected).reverse)

/-- Reads a character of a block, after a run of marks. A block ends with the last three marks of a
run, and at most two can stand before them. -/
def scanBlock (quote : Quote) (collected : List Char) (marks : Nat) (character : Char)
    (words : List Token) : Option (Scan × List Token) :=
  if character = quote.mark then
    if marks < 5 then some (.block quote collected (marks + 1), words) else none
  else if 3 ≤ marks then scanBetween character (closeBlock quote collected marks :: words)
  else
    let collected := List.replicate marks quote.mark ++ collected
    if quote = .basic ∧ character = '\\' then some (.escape true collected, words)
    else if character = '\n' ∨ isPlain character then
      some (.block quote (character :: collected) 0, words)
    else none

/-- Reads the character after a backslash. -/
def scanEscape (isBlock : Bool) (collected : List Char) (character : Char) : Option Scan :=
  if character = 'u' then some (.point isBlock collected 4 0)
  else if character = 'U' then some (.point isBlock collected 8 0)
  else match escaped? character with
    | some meant => some (resume isBlock (meant :: collected))
    | none =>
      if isBlock ∧ character = '\n' then some (.join collected true)
      else if isBlock ∧ (character = ' ' ∨ character = '\t') then some (.join collected false)
      else none

/-- Reads a digit of a code point. -/
def scanPoint (isBlock : Bool) (collected : List Char) (owed value : Nat) (character : Char) :
    Option Scan :=
  (Text.digit? 16 character).bind fun digit =>
    let value := value * 16 + digit
    if owed ≤ 1 then (pointChar? value).map fun meant => resume isBlock (meant :: collected)
    else some (.point isBlock collected (owed - 1) value)

/-- Reads one character. Finished words are held last first; a character that no file may hold at
its place ends the reading. -/
def scan (state : Scan) (words : List Token) (character : Char) : Option (Scan × List Token) :=
  match state with
  | .between => scanBetween character words
  | .comment =>
    if character = '\n' then some (.between, .newline :: words)
    else if isPlain character then some (.comment, words)
    else none
  | .bare collected =>
    if isBare character then some (.bare (character :: collected), words)
    else scanBetween character (.bare collected.reverse :: words)
  | .opened quote =>
    if character = quote.mark then some (.openedTwice quote, words)
    else scanLine quote [] character words
  | .openedTwice quote =>
    if character = quote.mark then some (.blockStart quote, words)
    else scanBetween character (.text false "" :: words)
  | .line quote collected => scanLine quote collected character words
  | .blockStart quote =>
    if character = '\n' then some (.block quote [] 0, words)
    else scanBlock quote [] 0 character words
  | .block quote collected marks => scanBlock quote collected marks character words
  | .escape isBlock collected =>
    (scanEscape isBlock collected character).map fun next => (next, words)
  | .point isBlock collected owed value =>
    (scanPoint isBlock collected owed value character).map fun next => (next, words)
  | .join collected ended =>
    if character = '\n' then some (.join collected true, words)
    else if character = ' ' ∨ character = '\t' then some (.join collected ended, words)
    else if ended then scanBlock .basic collected 0 character words
    else none

/-- The words of a file that ends where a reader stands. -/
def finish (words : List Token) : Scan → Option (List Token)
  | .between | .comment => some words.reverse
  | .bare collected => some (.bare collected.reverse :: words).reverse
  | .openedTwice _ => some (.text false "" :: words).reverse
  | .block quote collected marks =>
    if 3 ≤ marks then some (closeBlock quote collected marks :: words).reverse else none
  | _ => none

/-- Reads all characters from a given place on. -/
def scanAll (state : Scan) (words : List Token) : List Char → Option (Scan × List Token)
  | [] => some (state, words)
  | character :: rest =>
    match scan state words character with
    | some (next, found) => scanAll next found rest
    | none => none

/-- Drops the mark that may tell the encoding of a file. -/
def dropByteOrderMark : List Char → List Char
  | '\ufeff' :: rest => rest
  | characters => characters

/-- The words of a file. -/
def ofText (text : String) : Option (List Token) :=
  (scanAll .between [] (unifyLineEnds (dropByteOrderMark text.toList))).bind fun (state, words) =>
    finish words state

end Token

end LiveTabs.Toml
