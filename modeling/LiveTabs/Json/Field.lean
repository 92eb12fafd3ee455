import LiveTabs.Json.Document

/-!
# Reading records

A record on the wire is an object that names its fields or, where a record has fixed fields, an
array that lists them in order. A named field may stand only once. Names that are not asked for are
left to the caller, who ignores or keeps them.
-/

namespace LiveTabs.Json.Document

/-- The members of an object under their keys as texts, if every key is one. -/
def namedMembers : List (List Piece × Document) → Option (List (String × Document))
  | [] => some []
  | (pieces, document) :: rest => do
    let name ← Piece.text? pieces
    let members ← namedMembers rest
    some ((name, document) :: members)

/-- The value of a field, if it is given; no answer if it is given more than once. -/
def field? (members : List (String × Document)) (name : String) : Option (Option Document) :=
  match members.filter fun member => member.1 == name with
  | [] => some none
  | [member] => some (some member.2)
  | _ => none

/-- The values of a record with the given fields, in that order. An array has to list all fields and
nothing more. -/
def fields (names : List String) : Document → Option (List (Option Document))
  | .object members => do
    let members ← namedMembers members
    names.mapM (field? members)
  | .array items => if items.length = names.length then some (items.map some) else none
  | _ => none

/-- A text. -/
def text? : Document → Option String
  | .text pieces => Piece.text? pieces
  | _ => none

/-- An integer that is written as one. -/
def integer? : Document → Option Int
  | .numeral content =>
    match content.value? with
    | some (.integer value) => some value
    | _ => none
  | _ => none

/-- A list of texts. -/
def texts? : Document → Option (List String)
  | .array items => items.mapM text?
  | _ => none

/-- A field that may be left out or be `null`. -/
def optional {α : Type} (read : Document → Option α) : Option Document → Option (Option α)
  | none => some none
  | some .null => some none
  | some document => (read document).map some

/-- A field that has to be given. -/
def required {α : Type} (read : Document → Option α) : Option Document → Option α
  | none => none
  | some document => read document

/-- The name of a choice that carries nothing: a text, or an object with that one key whose value is
`null` or an empty object. -/
def choice? : Document → Option String
  | .text pieces => Piece.text? pieces
  | .object [(pieces, .null)] => Piece.text? pieces
  | .object [(pieces, .object [])] => Piece.text? pieces
  | _ => none

end LiveTabs.Json.Document
