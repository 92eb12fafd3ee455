import LiveTabs.Json.Token

/-!
# Documents

A document is what a text says before anything of it is kept: numerals and quoted texts as they are
written, members in their order and with repeated keys. Reading a document asks for its grammar
alone. Keeping it asks for more: every text has to be one, every number has to fit a double, and
arrays and objects may lie in each other only to a given depth.
-/

namespace LiveTabs.Json

/-- A text that follows the grammar, with its parts as they are written. -/
inductive Document where
  | null
  | boolean (truth : Bool)
  | numeral (content : Numeral)
  | text (pieces : List Piece)
  | array (items : List Document)
  | object (members : List (List Piece × Document))

/-- An array or object that is still open, with its finished parts last first. -/
inductive Frame where
  | array (items : List Document)
  | object (members : List (List Piece × Document)) (key : List Piece)

/-- What a reader of words has to see next. -/
inductive Stage where
  /-- A value. -/
  | value (outer : List Frame)
  /-- The first item of an array, or its end. -/
  | firstItem (outer : List Frame)
  /-- The first key of an object, or its end. -/
  | firstKey (outer : List Frame)
  /-- A further key of an object. -/
  | nextKey (members : List (List Piece × Document)) (outer : List Frame)
  /-- The colon after a key. -/
  | colon (members : List (List Piece × Document)) (key : List Piece) (outer : List Frame)
  /-- A value is complete: what surrounds it goes on, or all is said. -/
  | complete (document : Document) (outer : List Frame)

namespace Document

/-- Reads the first word of a value. -/
def beginValue (outer : List Frame) : Token → Option Stage
  | .openArray => some (.firstItem outer)
  | .openObject => some (.firstKey outer)
  | .null => some (.complete .null outer)
  | .boolean truth => some (.complete (.boolean truth) outer)
  | .numeral content => some (.complete (.numeral content) outer)
  | .text pieces => some (.complete (.text pieces) outer)
  | _ => none

/-- Reads one word. -/
def readToken : Stage → Token → Option Stage
  | .value outer, word => beginValue outer word
  | .firstItem outer, .closeArray => some (.complete (.array []) outer)
  | .firstItem outer, word => beginValue (.array [] :: outer) word
  | .firstKey outer, .closeObject => some (.complete (.object []) outer)
  | .firstKey outer, .text key => some (.colon [] key outer)
  | .nextKey members outer, .text key => some (.colon members key outer)
  | .colon members key outer, .colon => some (.value (.object members key :: outer))
  | .complete document (.array items :: outer), .comma =>
    some (.value (.array (document :: items) :: outer))
  | .complete document (.array items :: outer), .closeArray =>
    some (.complete (.array (document :: items).reverse) outer)
  | .complete document (.object members key :: outer), .comma =>
    some (.nextKey ((key, document) :: members) outer)
  | .complete document (.object members key :: outer), .closeObject =>
    some (.complete (.object ((key, document) :: members).reverse) outer)
  | _, _ => none

/-- Reads all words from a given stage on. -/
def readTokens : Stage → List Token → Option Stage
  | stage, [] => some stage
  | stage, word :: rest =>
    match readToken stage word with
    | some next => readTokens next rest
    | none => none

/-- The document that a list of words writes. -/
def ofTokens (words : List Token) : Option Document :=
  match readTokens (.value []) words with
  | some (.complete document []) => some document
  | _ => none

/-- The document that a text writes. -/
def ofText (text : String) : Option Document := (Token.ofCharacters text.toList).bind ofTokens

mutual

/-- The value of a document, with room for `room` arrays and objects in each other. -/
def keep (room : Nat) : Document → Option Value
  | .null => some .null
  | .boolean truth => some (.boolean truth)
  | .numeral content => content.value?.map .number
  | .text pieces => (Piece.text? pieces).map .text
  | .array items =>
    match room with
    | 0 => none
    | inner + 1 => (keepItems inner items).map .array
  | .object members =>
    match room with
    | 0 => none
    | inner + 1 => (keepMembers inner members).map fun pairs => .object (Members.ofList pairs)

/-- The values of the items of an array. -/
def keepItems (room : Nat) : List Document → Option (List Value)
  | [] => some []
  | item :: rest => do
    let value ← keep room item
    let values ← keepItems room rest
    some (value :: values)

/-- The values of the members of an object, in their order. -/
def keepMembers (room : Nat) : List (List Piece × Document) → Option (List (String × Value))
  | [] => some []
  | (pieces, document) :: rest => do
    let key ← Piece.text? pieces
    let value ← keep room document
    let pairs ← keepMembers room rest
    some ((key, value) :: pairs)

end

/-- How many arrays and objects of a text may lie in each other where they are kept. -/
def depthLimit : Nat := 127

end Document

/-- The value that a text writes, all of it kept. -/
def Value.ofText (text : String) : Option Value :=
  (Document.ofText text).bind (Document.keep Document.depthLimit)

end LiveTabs.Json
