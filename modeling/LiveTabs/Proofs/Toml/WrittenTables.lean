import LiveTabs.Config.Settings
import LiveTabs.Proofs.Json.WrittenInteger
import LiveTabs.Proofs.Toml.QuotedText

/-!
# Written tables that are read back

A file is written line by line: a header opens a table, and every further line gives a value to a
key. `Says` joins what the scanner makes of the characters of some lines with what the grammar makes
of their words, so that it can be shown of each line alone and put together. `of_written_tables`
then reads the tables of a whole file: tables of different names, each with the members of its
lines.
-/

namespace LiveTabs.Toml

open Token (scan scanAll scan_all_cons)

namespace Token

/-- Scanning goes on after characters from where they lead, so lines can be scanned one by one. -/
theorem scan_all_append {state next : Scan} {words found : List Token} {first : List Char}
    (reads : scanAll state words first = some (next, found)) (rest : List Char) :
    scanAll state words (first ++ rest) = scanAll next found rest := by
  induction first generalizing state words with
  | nil =>
    cases reads
    rfl
  | cons character first inductionHypothesis =>
    rw [List.cons_append, scanAll]
    rw [scanAll] at reads
    cases step : scan state words character with
    | none => simp [step] at reads
    | some after =>
      rw [step] at reads
      exact inductionHypothesis reads

/-- Bare characters are collected into one word, up to a character that is not bare. -/
theorem scan_bare_word (words : List Token) {characters : List Char} (nonempty : characters ≠ [])
    (bare : ∀ character ∈ characters, isBare character = true) {stop : Char}
    (stops : isBare stop = false) (rest : List Char) :
    scanAll .between words (characters ++ stop :: rest) =
      scanAll .between (.bare characters :: words) (stop :: rest) := by
  have collects (collected more : List Char) (bare : ∀ character ∈ more, isBare character = true) :
      scanAll (.bare collected) words (more ++ stop :: rest) =
        scanAll .between (.bare (collected.reverse ++ more) :: words) (stop :: rest) := by
    induction more generalizing collected with
    | nil => simp [scanAll, scan, stops]
    | cons character more inductionHypothesis =>
      rw [List.forall_mem_cons] at bare
      have next := inductionHypothesis (character :: collected) bare.2
      rw [List.reverse_cons, List.append_assoc, List.singleton_append] at next
      rw [← next, List.cons_append]
      exact scan_all_cons (by simp [scan, bare.1]) _
  cases characters with
  | nil => exact absurd rfl nonempty
  | cons first more =>
    rw [List.forall_mem_cons] at bare
    have other : first ≠ '#' ∧ first ≠ Quote.basic.mark ∧ first ≠ Quote.literal.mark := by
      refine ⟨?_, ?_, ?_⟩ <;>
      · rintro rfl
        exact absurd bare.1 (by decide)
    have begins : scan .between words first = some (.bare [first], words) := by
      simp [scan, scanBetween, other, bare.1]
    rw [List.cons_append, scan_all_cons begins]
    exact collects [first] more bare.2

/-- Without carriage returns, all lines end in the same way, and nothing is changed before they are
scanned. -/
theorem unify_line_ends_of_not_mem {characters : List Char} (unified : '\r' ∉ characters) :
    unifyLineEnds characters = characters := by
  fun_induction unifyLineEnds characters with
  | case1 rest => exact absurd List.mem_cons_self unified
  | case2 first rest _ inductionHypothesis =>
    rw [inductionHypothesis fun member => unified (List.mem_cons_of_mem first member)]
  | case3 => rfl

end Token

namespace Stage

/-- Reading goes on after words from where they lead, so the words of a line can be read on their
own. -/
theorem read_tokens_append {reading next : Reading} {first : List Token}
    (reads : readTokens reading first = some next) (rest : List Token) :
    readTokens reading (first ++ rest) = readTokens next rest := by
  induction first generalizing reading with
  | nil =>
    cases reads
    rfl
  | cons word first inductionHypothesis =>
    rw [List.cons_append, readTokens]
    rw [readTokens] at reads
    cases step : readToken reading word with
    | none => simp [step] at reads
    | some after =>
      rw [step] at reads
      exact inductionHypothesis reads

end Stage

/-- Lines that say statements, whatever was said before them. -/
structure Says (written : List Char) (statements : List Statement) : Prop where
  unified : '\r' ∉ written
  reads : ∃ words,
    (∀ found, scanAll .between found written = some (.between, words.reverse ++ found)) ∧
    ∀ said, Stage.readTokens (.line, said) words = some (.line, statements.reverse ++ said)

namespace Says

/-- No lines say nothing, which is where lists of tables and of members begin. -/
theorem nil : Says [] [] := ⟨List.not_mem_nil, [], fun _ => rfl, fun _ => rfl⟩

/-- Lines after lines say their statements in turn. A settings file is put together from its lines
by this. -/
theorem append {first second : List Char} {earlier later : List Statement}
    (left : Says first earlier) (right : Says second later) :
    Says (first ++ second) (earlier ++ later) := by
  obtain ⟨words, scanned, read⟩ := left.reads
  obtain ⟨more, scannedMore, readMore⟩ := right.reads
  refine ⟨by simp [left.unified, right.unified], words ++ more, fun found => ?_, fun said => ?_⟩
  · rw [Token.scan_all_append (scanned found), scannedMore]
    simp
  · rw [Stage.read_tokens_append (read said), readMore]
    simp

/-- A blank line says nothing, so tables may be set apart by one. -/
theorem blank : Says ['\n'] [] := ⟨by decide, [.newline], fun _ => rfl, fun _ => rfl⟩

end Says

/-- A key that is written without marks. -/
def IsBareKey (key : String) : Prop :=
  key.toList ≠ [] ∧ key.toList.all Stage.isKeyChar = true

instance (key : String) : Decidable (IsBareKey key) := inferInstanceAs (Decidable (_ ∧ _))

namespace IsBareKey

variable {key : String}

/-- The characters of a bare key belong to bare words, so the key is scanned as one word. -/
theorem bare (isBare : IsBareKey key) :
    ∀ character ∈ key.toList, Token.isBare character = true := by
  intro character member
  have keyed := List.all_eq_true.mp isBare.2 character member
  simp only [Stage.isKeyChar, Bool.or_eq_true] at keyed
  simp only [Token.isBare, Bool.or_eq_true]
  exact .inl (.inl keyed)

/-- A bare key has no carriage return, which is what lines need that are to be scanned as they are
written. -/
theorem unified (isBare : IsBareKey key) : '\r' ∉ key.toList :=
  fun member => absurd (List.all_eq_true.mp isBare.2 _ member) (by decide)

/-- The word of a bare key is a part of a key, and here the only one, because no dot follows. -/
theorem key_part (isBare : IsBareKey key) :
    Stage.keyPart? (.bare key.toList) = some key := by
  rw [Stage.keyPart?, if_pos isBare.2, String.ofList_toList]

end IsBareKey

/-- A header says that its table is opened, so that the lines after it give values to keys of that
table. -/
theorem Says.header {name : String} (isBare : IsBareKey name) :
    Says ('[' :: name.toList ++ [']', '\n']) [.openTable [name]] := by
  refine ⟨by simp [isBare.unified],
    [.openBracket, .bare name.toList, .closeBracket, .newline], fun found => ?_, fun said => ?_⟩
  · have opens : scan .between found '[' = some (.between, .openBracket :: found) := rfl
    rw [List.cons_append, scan_all_cons opens,
      Token.scan_bare_word _ isBare.1 isBare.bare (by decide)]
    rfl
  · simp [Stage.readTokens, Stage.readToken, Stage.isGap, Stage.readPart, isBare.key_part,
      Stage.limit, Stage.readAfterPart, Stage.readLineEnd]

/-- Characters that write a value up to the end of its line. -/
structure WritesValue (written : List Char) (node : Node) : Prop where
  unified : '\r' ∉ written
  reads : ∃ word,
    (∀ found, scanAll .between found (written ++ ['\n']) =
      some (.between, .newline :: word :: found)) ∧
    ∀ path said, Stage.readTokens (.value [.line path], said) [word, .newline] =
      some (.line, .assign path node :: said)

/-- A line with a key and a value says that the value is given to the key. -/
theorem Says.line {key : String} (isBare : IsBareKey key) {value : List Char} {node : Node}
    (writes : WritesValue value node) :
    Says (Settings.writeLine key value) [.assign [key] node] := by
  obtain ⟨unified, word, scanned, read⟩ := writes
  have written : Settings.writeLine key value =
      key.toList ++ ' ' :: '=' :: ' ' :: (value ++ ['\n']) := by
    have sign : " = ".toList = [' ', '=', ' '] := by decide
    simp [Settings.writeLine, sign]
  rw [written]
  refine ⟨by simp [isBare.unified, unified],
    [.bare key.toList, .space, .equals, .space] ++ [word, .newline],
    fun found => ?_, fun said => ?_⟩
  · have space (words : List Token) :
        scan .between words ' ' = some (.between, .space :: words) := rfl
    have sign (words : List Token) :
        scan .between words '=' = some (.between, .equals :: words) := rfl
    rw [Token.scan_bare_word _ isBare.1 isBare.bare (by decide), scan_all_cons (space _),
      scan_all_cons (sign _), scan_all_cons (space _), scanned]
    rfl
  · have begun : Stage.readTokens (.line, said) [.bare key.toList, .space, .equals, .space] =
        some (.value [.line [key]], said) := by
      simp [Stage.readTokens, Stage.readToken, Stage.isGap, Stage.readPart, isBare.key_part,
        Stage.limit, Stage.readAfterPart, Stage.readValue]
    rw [Stage.read_tokens_append begun, read]
    rfl

/-- A quoted text is a value, whatever characters it has and in whichever way it was quoted. -/
theorem writes_quoted (text : String) : WritesValue (quoted text) (.text text) := by
  refine ⟨return_not_mem_quoted text, .text (TextForm.of text.toList).isBlock text,
    fun found => scan_quoted found text, fun path said => ?_⟩
  simp [Stage.readTokens, Stage.readToken, Stage.readValue, Stage.isGap, Stage.finishValue,
    Stage.readLineEnd]

section Decimal

open Json (positional decimalDigits)
open Text (digit? ofDigits)

/-- The characters of a number are those of its digits, which lets the reader of digits be compared
with the writer. -/
theorem decimal_digits_eq_map (value : Nat) (after : List Char) :
    decimalDigits after value =
      (positional value).map (fun digit => Char.ofNat (48 + digit)) ++ after := by
  induction value using Json.positional.induct generalizing after with
  | case1 value small =>
    rw [decimalDigits, if_pos small, positional, if_pos small, Nat.mod_eq_of_lt small]
    rfl
  | case2 value large inductionHypothesis =>
    rw [decimalDigits, if_neg large, positional, if_neg large, inductionHypothesis]
    simp

/-- The digits of a number are decimal, so each has a character. -/
theorem positional_lt (value : Nat) : ∀ digit ∈ positional value, digit < 10 := by
  induction value using Json.positional.induct with
  | case1 value small =>
    rw [positional, if_pos small]
    simpa using small
  | case2 value large inductionHypothesis =>
    rw [positional, if_neg large]
    intro digit member
    obtain earlier | last := List.mem_append.mp member
    · exact inductionHypothesis digit earlier
    · rw [List.mem_singleton.mp last]
      exact Nat.mod_lt value (by decide)

/-- Every character of a number is a digit, so none of them is a mark or a blank. -/
theorem digit_of_mem_decimal {value : Nat} {character : Char}
    (member : character ∈ decimalDigits [] value) :
    ∃ digit < 10, character = Char.ofNat (48 + digit) := by
  rw [decimal_digits_eq_map, List.append_nil, List.mem_map] at member
  obtain ⟨digit, listed, rfl⟩ := member
  exact ⟨digit, positional_lt value digit listed, rfl⟩

/-- What is no digit is no character of a number: signs, points and the other marks of scalars do
not occur in it. -/
theorem not_mem_decimal {value : Nat} {character : Char} (other : digit? 10 character = none) :
    character ∉ decimalDigits [] value := by
  intro member
  obtain ⟨digit, decimal, rfl⟩ := digit_of_mem_decimal member
  rw [Json.digit_of_character digit decimal] at other
  cases other

/-- Digits up to the end are read as the digits that they are, and nothing is left.

Proof: by induction on the digits. -/
theorem more_digits_of_digits (digits : List Nat) (decimal : ∀ digit ∈ digits, digit < 10) :
    moreDigits 10 (digits.map fun digit => Char.ofNat (48 + digit)) = (digits, []) := by
  induction digits with
  | nil => rfl
  | cons digit digits inductionHypothesis =>
    rw [List.forall_mem_cons] at decimal
    have first := Json.digit_of_character digit decimal.1
    rw [List.map_cons, moreDigits]
    · simp [first, inductionHypothesis decimal.2]
    · -- Only an underscore is read together with what comes after it, and no digit is one.
      intro next rest same
      have none : digit? 10 '_' = none := by decide
      rw [same, none] at first
      cases first

/-- The digits of a number are read as a whole number, with nothing left over. -/
theorem read_whole_decimal (value : Nat) :
    readWhole (decimalDigits [] value) = some (positional value, []) := by
  have read : readDigits 10 (decimalDigits [] value) = some (positional value, []) := by
    have decimal := positional_lt value
    have nonempty := Json.positional_ne_nil value
    rw [decimal_digits_eq_map, List.append_nil]
    cases digits : positional value with
    | nil => exact absurd digits nonempty
    | cons digit more =>
      rw [digits, List.forall_mem_cons] at decimal
      simp [readDigits, Json.digit_of_character digit decimal.1,
        more_digits_of_digits more decimal.2]
  unfold readWhole
  rw [read]
  split
  · -- Only a zero that stands alone is written first.
    rename_i second more after same
    have single := Json.positional_leading_zero value
    simp only [Option.some.injEq, Prod.mk.injEq] at same
    rw [same.1] at single
    simp at single
  · rfl

/-- A number that fits is read from its digits as an integer. It cannot be taken for another scalar,
because it has no character but digits. -/
theorem read_decimal {value : Nat} (fits : value ≤ Settings.greatestInteger) :
    Scalar.read? (decimalDigits [] value) = some (.integer value) := by
  have other (character : Char) (member : character ∈ decimalDigits [] value)
      (noDigit : digit? 10 character = none) : False :=
    not_mem_decimal noDigit member
  have unsigned : readSign (decimalDigits [] value) = (false, decimalDigits [] value) := by
    unfold readSign
    split
    · rename_i rest same
      exact (other '-' (same ▸ List.mem_cons_self) (by decide)).elim
    · rename_i rest same
      exact (other '+' (same ▸ List.mem_cons_self) (by decide)).elim
    · rfl
  have fitting : fitting? (value : Int) = some (value : Int) := by
    have bound : (value : Int) < (Nat.pow 2 63 : Int) := by
      unfold Settings.greatestInteger at fits
      have positive : 0 < Nat.pow 2 63 := by decide
      omega
    rw [fitting?, if_pos ⟨by omega, bound⟩]
  have read : integer? (decimalDigits [] value) = some (value : Int) := by
    unfold integer?
    split
    · rename_i rest same
      exact (other 'x' (same ▸ by simp) (by decide)).elim
    · rename_i rest same
      exact (other 'o' (same ▸ by simp) (by decide)).elim
    · rename_i rest same
      exact (other 'b' (same ▸ by simp) (by decide)).elim
    · simp [unsigned, read_whole_decimal, Json.of_digits_positional, fitting]
  have notTrue : decimalDigits [] value ≠ ['t', 'r', 'u', 'e'] := fun same =>
    other 't' (same ▸ by simp) (by decide)
  have notFalse : decimalDigits [] value ≠ ['f', 'a', 'l', 's', 'e'] := fun same =>
    other 'f' (same ▸ by simp) (by decide)
  rw [Scalar.read?, if_neg notTrue, if_neg notFalse, read]

/-- A number that fits is a value: its digits are one bare word, which is read as the number. -/
theorem writes_decimal {value : Nat} (fits : value ≤ Settings.greatestInteger) :
    WritesValue (decimalDigits [] value) (.scalar (.integer value)) := by
  have bareDigit : ∀ digit, digit < 10 → Token.isBare (Char.ofNat (48 + digit)) = true := by decide
  have bare : ∀ character ∈ decimalDigits [] value, Token.isBare character = true := by
    intro character member
    obtain ⟨digit, decimal, rfl⟩ := digit_of_mem_decimal member
    exact bareDigit digit decimal
  have nonempty : decimalDigits [] value ≠ [] := by
    rw [decimal_digits_eq_map, List.append_nil]
    simpa using Json.positional_ne_nil value
  refine ⟨not_mem_decimal (by decide), .bare (decimalDigits [] value), fun found => ?_,
    fun path said => ?_⟩
  · rw [Token.scan_bare_word found nonempty bare (by decide)]
    rfl
  · simp [Stage.readTokens, Stage.readToken, Stage.readValue, Stage.isGap, Stage.readAfterBare,
      Stage.finishBare, read_decimal fits, Stage.finishValue, Stage.readLineEnd]

end Decimal

namespace Members

/-- A key that no member has. -/
def IsFree (members : Members) (key : String) : Prop := key ∉ members.map Prod.fst

variable {members : Members} {key : String}

/-- Nothing is found under a free key, so it can be given a value. -/
theorem IsFree.get? (free : members.IsFree key) : members.get? key = none := by
  have none : members.find? (fun member => member.1 == key) = none := by
    rw [List.find?_eq_none]
    intro member listed same
    exact free (List.mem_map.mpr ⟨member, listed, beq_iff_eq.mp same⟩)
  rw [Members.get?, none]
  rfl

/-- A member under a free key is found behind the others, since none of them has that key. -/
theorem get?_append (free : members.IsFree key) (node : Node) :
    get? (members ++ [(key, node)]) key = some node := by
  have none := free.get?
  rw [Members.get?, Option.map_eq_none_iff] at none
  simp [Members.get?, List.find?_append, none]

/-- The member behind the others is changed in its place. The table that was opened last is such a
member. -/
theorem set_append (free : members.IsFree key) (node other : Node) :
    set key node (members ++ [(key, other)]) = members ++ [(key, node)] := by
  induction members with
  | nil => simp [set]
  | cons member members inductionHypothesis =>
    rw [IsFree, List.map_cons, List.mem_cons, not_or] at free
    rw [List.cons_append, set, if_neg (Ne.symm free.1), inductionHypothesis free.2]
    rfl

end Members

/-- The statements that a table with a header makes: one that opens it, and one for each member. -/
def tableStatements (table : String × Members) : List Statement :=
  .openTable [table.1] :: table.2.map fun member => .assign [member.1] member.2

namespace Statement

variable {draft : Draft} {name key : String}

/-- A header with a free name opens an empty table behind the others, and the lines that follow are
about it. -/
theorem apply_open_table (free : draft.root.IsFree name) :
    apply draft (.openTable [name]) =
      some ⟨[name], draft.root ++ [(name, .table .header [])]⟩ := by
  simp [apply, Draft.openAt, Members.changeAt, Members.openTable, free.get?]

/-- A value is given to a free key of the table that was opened last. This is the step of filling a
table. -/
theorem apply_assign {root members : Members} (free : root.IsFree name)
    (freeKey : members.IsFree key) (node : Node) :
    apply ⟨[name], root ++ [(name, .table .header members)]⟩ (.assign [key] node) =
      some ⟨[name], root ++ [(name, .table .header (members ++ [(key, node)]))]⟩ := by
  simp [apply, Members.changeAt, Members.assign, Members.add, Members.get?_append free,
    Members.set_append free, freeKey.get?]

/-- Lines with different keys fill the table that was opened last, in the order of the lines.

Proof: by induction on the lines that are left. Each finds its key free. -/
theorem apply_members {root : Members} (free : root.IsFree name) (given members : Members)
    (distinct : ((given ++ members).map Prod.fst).Nodup) :
    (members.map fun member => Statement.assign [member.1] member.2).foldlM apply
        ⟨[name], root ++ [(name, .table .header given)]⟩ =
      some ⟨[name], root ++ [(name, .table .header (given ++ members))]⟩ := by
  induction members generalizing given with
  | nil => simp
  | cons member members inductionHypothesis =>
    have freeKey : given.IsFree member.1 := by
      rw [List.map_append, List.map_cons, List.nodup_append] at distinct
      exact fun listed => distinct.2.2 _ listed _ List.mem_cons_self rfl
    rw [List.map_cons, List.foldlM_cons, apply_assign free freeKey]
    have next := inductionHypothesis (given ++ [member]) (by simpa using distinct)
    simpa using next

/-- A table of a free name with different keys is put behind the others: its header opens it, and
its lines fill it. -/
theorem apply_table (draft : Draft) (table : String × Members) (free : draft.root.IsFree table.1)
    (distinct : (table.2.map Prod.fst).Nodup) :
    (tableStatements table).foldlM apply draft =
      some ⟨[table.1], draft.root ++ [(table.1, .table .header table.2)]⟩ := by
  rw [tableStatements, List.foldlM_cons, apply_open_table free]
  exact apply_members free [] table.2 distinct

/-- Tables of different names with different keys each are put one behind the other. -/
theorem apply_tables (draft : Draft) (tables : List (String × Members))
    (names : (draft.root.map Prod.fst ++ tables.map Prod.fst).Nodup)
    (keys : ∀ table ∈ tables, (table.2.map Prod.fst).Nodup) :
    ((tables.flatMap tableStatements).foldlM apply draft).map Draft.root =
      some (draft.root ++ tables.map fun table => (table.1, .table .header table.2)) := by
  induction tables generalizing draft with
  | nil => simp
  | cons table tables inductionHypothesis =>
    rw [List.forall_mem_cons] at keys
    have free : draft.root.IsFree table.1 := by
      rw [List.map_cons, List.nodup_append] at names
      exact fun listed => names.2.2 _ listed _ List.mem_cons_self rfl
    rw [List.flatMap_cons, List.foldlM_append, apply_table draft table free keys.1]
    have next := inductionHypothesis
      ⟨[table.1], draft.root ++ [(table.1, .table .header table.2)]⟩ (by simpa using names) keys.2
    simpa using next

end Statement

/-- A file that begins with a bracket and says tables, of different names and with different keys in
each, is read as these tables. -/
theorem of_written_tables {text : String} {tables : List (String × Members)}
    (begins : text.toList.head? = some '[')
    (lines : Says text.toList (tables.flatMap tableStatements))
    (names : (tables.map Prod.fst).Nodup)
    (keys : ∀ table ∈ tables, (table.2.map Prod.fst).Nodup) :
    Members.ofText text = some (tables.map fun table => (table.1, .table .header table.2)) := by
  obtain ⟨unified, words, scanned, read⟩ := lines
  have unmarked : Token.dropByteOrderMark text.toList = text.toList := by
    unfold Token.dropByteOrderMark
    split
    · rename_i rest marked
      simp [marked] at begins
    · rfl
  have tokens : Token.ofText text = some words := by
    rw [Token.ofText, unmarked, Token.unify_line_ends_of_not_mem unified, scanned]
    simp [Token.finish]
  have statements : Statement.ofTokens words = some (tables.flatMap tableStatements) := by
    rw [Statement.ofTokens, read]
    simp [Stage.finish]
  have filled := Statement.apply_tables {} tables (by simpa using names) keys
  obtain ⟨draft, made, root⟩ := Option.map_eq_some_iff.mp filled
  simp only [Members.ofText, tokens, Option.bind_eq_bind, Option.bind_some, statements, made]
  exact congrArg some root

end LiveTabs.Toml
