import LiveTabs.Proofs.Json.Members
import LiveTabs.Proofs.Json.WrittenText

/-!
# Values that are read back

A value is written as words, and the words are read as a document: the value with its texts and
numbers as they are written. This is shown for values whose numbers are integers, along the
structure of the value. Reading stops behind an array or an object by itself, and behind any other
value at the mark that follows. What was kept of a document is kept again when it is written and
read (`keep_written`): it needs no more room, its integers fit, and its members are sorted already.
-/

namespace LiveTabs.Json

/-- The numeral of a number. -/
def Number.written : Number → Document
  | .integer value => .numeral (writtenInteger value)
  | .real bits => ((Numeral.read? (realCharacters bits)).map Document.numeral).getD .null

namespace Value

mutual

/-- Whether all numbers of a value are integers. -/
def isIntegral : Value → Bool
  | .null | .boolean _ | .text _ | .number (.integer _) => true
  | .number (.real _) => false
  | .array items => itemsIntegral items
  | .object members => membersIntegral members

/-- Whether all numbers of the items of an array are integers. -/
def itemsIntegral : List Value → Bool
  | [] => true
  | item :: rest => isIntegral item && itemsIntegral rest

/-- Whether all numbers of the members of an object are integers. -/
def membersIntegral : List (String × Value) → Bool
  | [] => true
  | (_, value) :: rest => isIntegral value && membersIntegral rest

end

mutual

/-- The document that a written value is read as. -/
def document : Value → Document
  | .null => .null
  | .boolean truth => .boolean truth
  | .number content => content.written
  | .text content => .text (writtenPieces content)
  | .array items => .array (itemDocuments items)
  | .object members => .object (memberDocuments members)

/-- The documents of the items of an array. -/
def itemDocuments : List Value → List Document
  | [] => []
  | item :: rest => document item :: itemDocuments rest

/-- The members of an object with their documents. -/
def memberDocuments : List (String × Value) → List (List Piece × Document)
  | [] => []
  | (key, value) :: rest => (writtenPieces key, document value) :: memberDocuments rest

end

mutual

/-- The words that a written value is scanned as. -/
def words : Value → List Token
  | .null => [.null]
  | .boolean truth => [.boolean truth]
  | .number (.integer value) => [.numeral (writtenInteger value)]
  | .number (.real _) => []
  | .text content => [.text (writtenPieces content)]
  | .array items => .openArray :: itemWords true items
  | .object members => .openObject :: memberWords true members

/-- The words of the items of an array and its end. -/
def itemWords (first : Bool) : List Value → List Token
  | [] => [.closeArray]
  | item :: rest => (if first then [] else [.comma]) ++ words item ++ itemWords false rest

/-- The words of the members of an object and its end. -/
def memberWords (first : Bool) : List (String × Value) → List Token
  | [] => [.closeObject]
  | (key, value) :: rest =>
    (if first then [] else [.comma]) ++ .text (writtenPieces key) :: .colon :: words value ++
      memberWords false rest

end

/-- Behind a value in an array stands a mark, a comma or the end of the array, so a bare word ends
there. -/
theorem item_characters_stop (rest : List Value) :
    ∃ stop more, itemCharacters false rest = stop :: more ∧ isBare stop = false := by
  cases rest with
  | nil => exact ⟨']', [], rfl, by decide⟩
  | cons item rest => exact ⟨',', _, rfl, by decide⟩

/-- Behind the value of a member stands a mark, a comma or the end of the object, so a bare word
ends there. -/
theorem member_characters_stop (rest : List (String × Value)) :
    ∃ stop more, memberCharacters false rest = stop :: more ∧ isBare stop = false := by
  cases rest with
  | nil => exact ⟨'\x7d', [], rfl, by decide⟩
  | cons member rest => exact ⟨',', _, rfl, by decide⟩

mutual

/-- A value with a mark behind it is scanned as its words. By recursion on the value, together with
arrays and objects. -/
theorem scan_value (value : Value) (integral : value.isIntegral = true) (found : List Token)
    (stop : Char) (rest : List Char) (stops : isBare stop = false) :
    Token.scanAll .between found (value.characters ++ stop :: rest) =
      Token.scanAll .between (value.words.reverse ++ found) (stop :: rest) := by
  cases value with
  | null => exact scan_bare_word found .null _ stop rest nofun (List.all_eq_true.mp rfl) rfl stops
  | boolean truth =>
    cases truth with
    | true =>
      exact scan_bare_word found (.boolean true) _ stop rest nofun
        (List.all_eq_true.mp rfl) rfl stops
    | false =>
      exact scan_bare_word found (.boolean false) _ stop rest nofun
        (List.all_eq_true.mp rfl) rfl stops
  | number content =>
    cases content with
    | integer value => exact scan_integer found value stop rest stops
    | real bits => cases integral
  | text content => exact scan_quote found content (stop :: rest)
  | array items =>
    rw [characters, words, List.cons_append, scan_mark found '[' .openArray _ rfl,
      scan_items items integral true]
    simp
  | object members =>
    rw [characters, words, List.cons_append, scan_mark found '\x7b' .openObject _ rfl,
      scan_members members integral true]
    simp

/-- The items of an array and its end are scanned as their words, whatever follows behind the
end. -/
theorem scan_items (items : List Value) (integral : itemsIntegral items = true) (first : Bool)
    (found : List Token) (rest : List Char) :
    Token.scanAll .between found (itemCharacters first items ++ rest) =
      Token.scanAll .between ((itemWords first items).reverse ++ found) rest := by
  cases items with
  | nil => exact scan_mark found ']' .closeArray rest rfl
  | cons item later =>
    obtain ⟨integralItem, integralLater⟩ := Bool.and_eq_true_iff.mp integral
    obtain ⟨stop, more, follows, stops⟩ := item_characters_stop later
    have scanned : ∀ found, Token.scanAll .between found
        (item.characters ++ (itemCharacters false later ++ rest)) =
          Token.scanAll .between
            ((itemWords false later).reverse ++ (item.words.reverse ++ found)) rest := by
      intro found
      rw [follows, List.cons_append, scan_value item integralItem found stop _ stops,
        ← List.cons_append, ← follows, scan_items later integralLater false]
    cases first with
    | true => simpa [itemCharacters, itemWords] using scanned found
    | false =>
      have comma :=
        scan_mark found ',' .comma (item.characters ++ (itemCharacters false later ++ rest)) rfl
      simpa [itemCharacters, itemWords, scanned] using comma

/-- The members of an object and its end are scanned as their words, whatever follows. -/
theorem scan_members (members : List (String × Value)) (integral : membersIntegral members = true)
    (first : Bool) (found : List Token) (rest : List Char) :
    Token.scanAll .between found (memberCharacters first members ++ rest) =
      Token.scanAll .between ((memberWords first members).reverse ++ found) rest := by
  cases members with
  | nil => exact scan_mark found '\x7d' .closeObject rest rfl
  | cons member later =>
    obtain ⟨key, value⟩ := member
    obtain ⟨integralValue, integralLater⟩ := Bool.and_eq_true_iff.mp integral
    obtain ⟨stop, more, follows, stops⟩ := member_characters_stop later
    have scanned : ∀ found, Token.scanAll .between found
        (quote key ++ (':' :: (value.characters ++ (memberCharacters false later ++ rest)))) =
          Token.scanAll .between ((memberWords false later).reverse ++
            (value.words.reverse ++ .colon :: .text (writtenPieces key) :: found)) rest := by
      intro found
      rw [scan_quote, scan_mark _ ':' .colon _ rfl, follows, List.cons_append,
        scan_value value integralValue _ stop _ stops, ← List.cons_append, ← follows,
        scan_members later integralLater false]
    cases first with
    | true => simpa [memberCharacters, memberWords] using scanned found
    | false =>
      have comma := scan_mark found ',' .comma
        (quote key ++ (':' :: (value.characters ++ (memberCharacters false later ++ rest)))) rfl
      simpa [memberCharacters, memberWords, scanned] using comma

end

/-- Where an array may end, the first word of a value begins its first item, since no value begins
with the end. -/
theorem read_first_item (value : Value) (outer : List Frame) (rest : List Token)
    (integral : value.isIntegral = true) :
    Document.readTokens (.firstItem outer) (value.words ++ rest) =
      Document.readTokens (.value (.array [] :: outer)) (value.words ++ rest) := by
  cases value with
  | number content =>
    cases content with
    | integer value => rfl
    | real bits => cases integral
  | null | boolean | text | array | object => rfl

mutual

/-- The words of a value are read as its document, and reading goes on where the value stood. -/
theorem read_value (value : Value) (integral : value.isIntegral = true) (outer : List Frame)
    (rest : List Token) :
    Document.readTokens (.value outer) (value.words ++ rest) =
      Document.readTokens (.complete value.document outer) rest := by
  cases value with
  | number content =>
    cases content with
    | integer value => rfl
    | real bits => cases integral
  | null | boolean | text => rfl
  | array items => exact read_first_items items integral outer rest
  | object members => exact read_first_members members integral outer rest

/-- The words of all items of an array and its end are read as the array, also if there are none. -/
theorem read_first_items (items : List Value) (integral : itemsIntegral items = true)
    (outer : List Frame) (rest : List Token) :
    Document.readTokens (.firstItem outer) (itemWords true items ++ rest) =
      Document.readTokens (.complete (.array (itemDocuments items)) outer) rest := by
  cases items with
  | nil => rfl
  | cons item later =>
    obtain ⟨integralItem, integralLater⟩ := Bool.and_eq_true_iff.mp integral
    rw [itemWords, if_pos rfl, List.nil_append, List.append_assoc,
      read_first_item _ _ _ integralItem,
      read_value item integralItem, read_items later integralLater]
    rfl

/-- The words of further items of an array and its end are read as the array with the items
before. -/
theorem read_items (items : List Value) (integral : itemsIntegral items = true) (last : Document)
    (before : List Document) (outer : List Frame) (rest : List Token) :
    Document.readTokens (.complete last (.array before :: outer)) (itemWords false items ++ rest) =
      Document.readTokens
        (.complete (.array ((last :: before).reverse ++ itemDocuments items)) outer) rest := by
  cases items with
  | nil =>
    rw [itemDocuments, List.append_nil]
    rfl
  | cons item later =>
    obtain ⟨integralItem, integralLater⟩ := Bool.and_eq_true_iff.mp integral
    have begun : Document.readTokens (.complete last (.array before :: outer))
        (itemWords false (item :: later) ++ rest) =
          Document.readTokens (.value (.array (last :: before) :: outer))
            (item.words ++ (itemWords false later ++ rest)) := by
      rw [itemWords, if_neg Bool.false_ne_true, List.append_assoc, List.append_assoc]
      rfl
    rw [begun, read_value item integralItem, read_items later integralLater, itemDocuments,
      List.reverse_cons, List.append_assoc]
    rfl

/-- The words of all members of an object and its end are read as the object, also if there are
none. -/
theorem read_first_members (members : List (String × Value))
    (integral : membersIntegral members = true) (outer : List Frame) (rest : List Token) :
    Document.readTokens (.firstKey outer) (memberWords true members ++ rest) =
      Document.readTokens (.complete (.object (memberDocuments members)) outer) rest := by
  cases members with
  | nil => rfl
  | cons member later =>
    obtain ⟨key, value⟩ := member
    obtain ⟨integralValue, integralLater⟩ := Bool.and_eq_true_iff.mp integral
    have begun :
        Document.readTokens (.firstKey outer) (memberWords true ((key, value) :: later) ++ rest) =
        Document.readTokens (.value (.object [] (writtenPieces key) :: outer))
          (value.words ++ (memberWords false later ++ rest)) := by
      rw [memberWords, if_pos rfl, List.nil_append, List.append_assoc]
      rfl
    rw [begun, read_value value integralValue, read_members later integralLater]
    rfl

/-- The words of further members of an object and its end are read as the object with the members
before. -/
theorem read_members (members : List (String × Value)) (integral : membersIntegral members = true)
    (last : Document) (key : List Piece) (before : List (List Piece × Document))
    (outer : List Frame) (rest : List Token) :
    Document.readTokens (.complete last (.object before key :: outer))
        (memberWords false members ++ rest) =
      Document.readTokens
        (.complete (.object
          (((key, last) :: before).reverse ++ memberDocuments members)) outer) rest := by
  cases members with
  | nil =>
    rw [memberDocuments, List.append_nil]
    rfl
  | cons member later =>
    obtain ⟨nextKey, value⟩ := member
    obtain ⟨integralValue, integralLater⟩ := Bool.and_eq_true_iff.mp integral
    have begun : Document.readTokens (.complete last (.object before key :: outer))
        (memberWords false ((nextKey, value) :: later) ++ rest) =
          Document.readTokens
            (.value (.object ((key, last) :: before) (writtenPieces nextKey) :: outer))
            (value.words ++ (memberWords false later ++ rest)) := by
      rw [memberWords, if_neg Bool.false_ne_true, List.append_assoc, List.append_assoc]
      rfl
    rw [begun, read_value value integralValue, read_members later integralLater, memberDocuments,
      List.reverse_cons, List.append_assoc]
    rfl

end

/-- An object that is written is read as its document. Scanning and reading are put together
here. -/
theorem document_of_render (members : List (String × Value))
    (integral : membersIntegral members = true) :
    Document.ofText (Value.object members).render = some (Value.object members).document := by
  have scanned : Token.ofCharacters (Value.object members).characters =
      some (Value.object members).words := by
    have words := scan_members members integral true [.openObject] []
    rw [List.append_nil] at words
    rw [Token.ofCharacters, characters, scan_mark [] '\x7b' .openObject _ rfl, words, Value.words]
    simp [Token.scanAll]
  have read := read_value (.object members) integral [] []
  rw [List.append_nil] at read
  rw [Document.ofText, render, String.toList_ofList, scanned, Option.bind_some, Document.ofTokens,
    read]
  rfl

end Value

/-- An integer that is read fits into 64 bits: a numeral beyond them means a floating number. -/
theorem Numeral.fits_of_value {numeral : Numeral} {value : Int}
    (meant : numeral.value? = some (.integer value)) : FitsWord value := by
  have half : Nat.pow 2 63 = 9223372036854775808 := by decide
  have whole : Nat.pow 2 64 = 18446744073709551616 := by decide
  have limit : Numeral.countLimit = 18446744073709551615 := by decide
  have notReal : numeral.real? ≠ some (.integer value) := by
    unfold real?
    simp
  unfold value? at meant
  split at meant
  · exact absurd meant notReal
  dsimp only at meant
  split at meant
  · split at meant
    · rename_i bounds
      cases meant
      constructor <;> omega
    · exact absurd meant notReal
  · split at meant
    · cases meant
      constructor <;> omega
    · exact absurd meant notReal

namespace Document

open Value (itemDocuments memberDocuments itemsIntegral membersIntegral)

/-- The values of the members of an integral object are integral, one by one. -/
theorem integral_of_mem {members : List (String × Value)}
    (integral : membersIntegral members = true)
    {member : String × Value} (there : member ∈ members) : member.2.isIntegral = true := by
  induction members with
  | nil => cases there
  | cons first rest inductionHypothesis =>
    obtain ⟨integralFirst, integralRest⟩ := Bool.and_eq_true_iff.mp integral
    obtain rfl | later := List.mem_cons.mp there
    · exact integralFirst
    · exact inductionHypothesis integralRest later

/-- Members are kept as they are if their values are, because their names are written plainly. -/
theorem keep_members_of_kept {room : Nat} {members : List (String × Value)}
    (kept : ∀ member ∈ members, keep room member.2.document = some member.2) :
    keepMembers room (memberDocuments members) = some members := by
  induction members with
  | nil => rfl
  | cons member rest inductionHypothesis =>
    obtain ⟨first, later⟩ := List.forall_mem_cons.mp kept
    rw [memberDocuments, keepMembers, text_of_written_pieces, first, inductionHypothesis later]
    rfl

mutual

/-- What was kept of a document is kept again of what is written of it, with the same room. -/
theorem keep_written (room : Nat) (document : Document) {value : Value}
    (kept : keep room document = some value) (integral : value.isIntegral = true) :
    keep room value.document = some value := by
  cases document with
  | null | boolean truth =>
    cases kept
    rfl
  | numeral content =>
    obtain ⟨number, meant, rfl⟩ := Option.map_eq_some_iff.mp kept
    cases number with
    | integer value =>
      have again := value_of_written_integer value (Numeral.fits_of_value meant)
      rw [Value.document, Number.written, keep, again]
      rfl
    | real bits => cases integral
  | text pieces =>
    obtain ⟨content, -, rfl⟩ := Option.map_eq_some_iff.mp kept
    rw [Value.document, keep, text_of_written_pieces]
    rfl
  | array items =>
    cases room with
    | zero => cases kept
    | succ inner =>
      obtain ⟨values, keptItems, rfl⟩ := Option.map_eq_some_iff.mp kept
      rw [Value.document, keep, keep_items_written inner items keptItems integral]
      rfl
  | object members =>
    cases room with
    | zero => cases kept
    | succ inner =>
      obtain ⟨pairs, keptMembers, rfl⟩ := Option.map_eq_some_iff.mp kept
      -- The members were sorted when they were kept, and some of them may have been replaced by
      -- later ones.
      have again : keepMembers inner (memberDocuments (Members.ofList pairs)) =
          some (Members.ofList pairs) :=
        keep_members_of_kept fun member there =>
          keep_members_written inner members keptMembers member (Members.mem_of_list there)
            (integral_of_mem integral there)
      rw [Value.document, keep, again, Option.map_some, (Members.sorted_of_list pairs).of_list_eq]

/-- The items of an array are kept again if they were kept once, each in the room that it had. -/
theorem keep_items_written (room : Nat) (items : List Document) {values : List Value}
    (kept : keepItems room items = some values) (integral : itemsIntegral values = true) :
    keepItems room (itemDocuments values) = some values := by
  cases items with
  | nil =>
    cases kept
    rfl
  | cons item rest =>
    obtain ⟨value, keptItem, kept⟩ := Option.bind_eq_some_iff.mp kept
    obtain ⟨later, keptRest, kept⟩ := Option.bind_eq_some_iff.mp kept
    cases kept
    obtain ⟨integralItem, integralRest⟩ := Bool.and_eq_true_iff.mp integral
    rw [itemDocuments, keepItems, keep_written room item keptItem integralItem,
      keep_items_written room rest keptRest integralRest]
    rfl

/-- The values of the members of an object are kept again if they were kept once, each in the room
that it had. -/
theorem keep_members_written (room : Nat) (members : List (List Piece × Document))
    {pairs : List (String × Value)} (kept : keepMembers room members = some pairs) :
    ∀ pair ∈ pairs, pair.2.isIntegral = true → keep room pair.2.document = some pair.2 := by
  cases members with
  | nil =>
    cases kept
    exact nofun
  | cons member rest =>
    obtain ⟨pieces, document⟩ := member
    obtain ⟨key, named, kept⟩ := Option.bind_eq_some_iff.mp kept
    obtain ⟨value, keptValue, kept⟩ := Option.bind_eq_some_iff.mp kept
    obtain ⟨later, keptRest, kept⟩ := Option.bind_eq_some_iff.mp kept
    cases kept
    refine List.forall_mem_cons.mpr ⟨?_, keep_members_written room rest keptRest⟩
    exact keep_written room document keptValue

end

end Document

namespace Value

/-- Whether a value may be written: its numbers are integers, and what is written is kept with the
given room. -/
structure Keeps (room : Nat) (value : Value) : Prop where
  integral : value.isIntegral = true
  kept : (Document.keep room value.document).isSome = true

variable {room : Nat}

/-- What was kept may be written, if its numbers are integers: it is kept again as it is. -/
theorem keeps_of_kept {value : Value} (integral : value.isIntegral = true)
    (kept : Document.keep room value.document = some value) : value.Keeps room :=
  ⟨integral, by rw [kept]; rfl⟩

/-- A text may be written in any room, since it has no depth. -/
theorem keeps_text (content : String) : (Value.text content).Keeps room :=
  ⟨rfl, by simp [document, Document.keep]⟩

/-- An integer within 64 bits may be written in any room, since it has no depth. -/
theorem keeps_integer {value : Int} (fits : FitsWord value) :
    (Value.number (.integer value)).Keeps room := by
  have meant := value_of_written_integer value fits
  exact ⟨rfl, by simp [document, Number.written, Document.keep, meant]⟩

/-- An array may be written with room for its items and itself, which is one more. -/
theorem keeps_array {items : List Value} (keeps : ∀ item ∈ items, item.Keeps room) :
    (Value.array items).Keeps (room + 1) := by
  have together : itemsIntegral items = true ∧
      (Document.keepItems room (itemDocuments items)).isSome = true := by
    induction items with
    | nil => exact ⟨rfl, rfl⟩
    | cons item rest inductionHypothesis =>
      obtain ⟨⟨integral, kept⟩, later⟩ := List.forall_mem_cons.mp keeps
      obtain ⟨integralRest, keptRest⟩ := inductionHypothesis later
      obtain ⟨value, kept⟩ := Option.isSome_iff_exists.mp kept
      obtain ⟨values, keptRest⟩ := Option.isSome_iff_exists.mp keptRest
      refine ⟨Bool.and_eq_true_iff.mpr ⟨integral, integralRest⟩, ?_⟩
      rw [itemDocuments, Document.keepItems, kept, keptRest]
      rfl
  obtain ⟨integral, kept⟩ := together
  exact ⟨integral, by rw [document, Document.keep, Option.isSome_map, kept]⟩

/-- An object may be written with room for its members and itself, which is one more. -/
theorem keeps_object {members : List (String × Value)}
    (keeps : ∀ member ∈ members, member.2.Keeps room) :
    (Value.object members).Keeps (room + 1) := by
  have together : membersIntegral members = true ∧
      (Document.keepMembers room (memberDocuments members)).isSome = true := by
    induction members with
    | nil => exact ⟨rfl, rfl⟩
    | cons member rest inductionHypothesis =>
      obtain ⟨⟨integral, kept⟩, later⟩ := List.forall_mem_cons.mp keeps
      obtain ⟨integralRest, keptRest⟩ := inductionHypothesis later
      obtain ⟨value, kept⟩ := Option.isSome_iff_exists.mp kept
      obtain ⟨pairs, keptRest⟩ := Option.isSome_iff_exists.mp keptRest
      refine ⟨Bool.and_eq_true_iff.mpr ⟨integral, integralRest⟩, ?_⟩
      rw [memberDocuments, Document.keepMembers, text_of_written_pieces, kept, keptRest]
      rfl
  obtain ⟨integral, kept⟩ := together
  exact ⟨integral, by rw [document, Document.keep, Option.isSome_map, kept]⟩

end Value

end LiveTabs.Json
