import LiveTabs.Toml.Table
import LiveTabs.Toml.Token

/-!
# Statements

A line of a settings file says one thing at most: it opens a table, or gives a value to a key.
Values in brackets may go on over several lines. Reading takes one word after the other; what
surrounds the place at hand is kept as a list of frames, so the room for values in values is a bound
on that list.
-/

namespace LiveTabs.Toml

/-- What a line says. -/
inductive Statement where
  | openTable (path : List String)
  | openNext (path : List String)
  | assign (path : List String) (node : Node)

/-- What surrounds a value. Collected parts are held last first. -/
inductive Frame where
  | line (path : List String)
  | array (items : List Node)
  | braces (members : List (List String × Node)) (path : List String)

/-- Where a key stands. -/
inductive KeyPlace where
  | header (isRepeated : Bool)
  | line
  | braces (members : List (List String × Node)) (outer : List Frame)

/-- What a reader of words has to see next. -/
inductive Stage where
  /-- A line. -/
  | line
  /-- The key of a header, or the second bracket of a repeated one. -/
  | header
  /-- A part of a key, after the parts read so far. -/
  | key (place : KeyPlace) (parts : List String)
  /-- A dot, or the end of a key. -/
  | afterPart (place : KeyPlace) (parts : List String)
  /-- The second closing bracket of a repeated header. -/
  | headerEnd (parts : List String)
  /-- A value; inside brackets also their end. -/
  | value (outer : List Frame)
  /-- The first key inside braces, or their end. -/
  | braces (outer : List Frame)
  /-- More of a bare value, or its end. -/
  | bare (written : List Char) (outer : List Frame)
  /-- The time after a date and a space, or the end of the date. -/
  | bareSpace (written : List Char) (outer : List Frame)
  /-- A value inside brackets or braces is complete. -/
  | complete (node : Node) (outer : List Frame)
  /-- The end of a line. -/
  | lineEnd

namespace Stage

/-- A reading: what comes next, and the statements read so far, last first. -/
abbrev Reading := Stage × List Statement

/-- The number of parts that a key, and of values in values that a value, stays below. -/
def limit : Nat := 80

/-- Whether a character may stand in a bare key. -/
def isKeyChar (character : Char) : Bool :=
  character.isAlphanum || character == '_' || character == '-'

/-- Whether a word separates others without meaning. -/
def isGap : Token → Bool
  | .space | .tab => true
  | _ => false

/-- The part of a key that a word writes. -/
def keyPart? : Token → Option String
  | .bare characters => if characters.all isKeyChar then some (String.ofList characters) else none
  | .text false content => some content
  | _ => none

/-- Reads a part of a key. -/
def readPart (place : KeyPlace) (parts : List String) (word : Token) : Option Stage :=
  if isGap word then some (.key place parts)
  else (keyPart? word).bind fun part =>
    if parts.length + 1 < limit then some (.afterPart place (part :: parts)) else none

/-- A value is complete: the line is, or what surrounds the value goes on. -/
def finishValue (node : Node) (outer : List Frame) (said : List Statement) : Reading :=
  match outer with
  | .line path :: _ => (.lineEnd, .assign path node :: said)
  | _ => (.complete node outer, said)

/-- Reads what follows a part of a key. -/
def readAfterPart (place : KeyPlace) (parts : List String) (said : List Statement) (word : Token) :
    Option Reading :=
  if isGap word then some (.afterPart place parts, said)
  else if word = .dot then some (.key place parts, said)
  else match place, word with
    | .header false, .closeBracket => some (.lineEnd, .openTable parts.reverse :: said)
    | .header true, .closeBracket => some (.headerEnd parts, said)
    | .line, .equals => some (.value [.line parts.reverse], said)
    | .braces members outer, .equals => some (.value (.braces members parts.reverse :: outer), said)
    | _, _ => none

/-- Reads the first word of a value. -/
def readValue (outer : List Frame) (said : List Statement) (word : Token) : Option Reading :=
  if isGap word then some (.value outer, said)
  else match word, outer with
    | .text _ content, _ => some (finishValue (.text content) outer said)
    | .bare characters, _ => some (.bare characters outer, said)
    | .newline, .array _ :: _ => some (.value outer, said)
    | .closeBracket, .array items :: rest => some (finishValue (.array items.reverse) rest said)
    | .openBracket, _ =>
      if outer.length < limit then some (.value (.array [] :: outer), said) else none
    | .openBrace, _ => if outer.length < limit then some (.braces outer, said) else none
    | _, _ => none

/-- Reads what follows a value inside brackets or braces. -/
def readComplete (node : Node) (outer : List Frame) (said : List Statement) (word : Token) :
    Option Reading :=
  if isGap word then some (.complete node outer, said)
  else match outer, word with
    | .array _ :: _, .newline => some (.complete node outer, said)
    | .array items :: rest, .comma => some (.value (.array (node :: items) :: rest), said)
    | .array items :: rest, .closeBracket =>
      some (finishValue (.array (node :: items).reverse) rest said)
    | .braces members path :: rest, .comma =>
      some (.key (.braces ((path, node) :: members) rest) [], said)
    | .braces members path :: rest, .closeBrace =>
      (Members.ofBraces ((path, node) :: members).reverse).map fun made =>
        finishValue (.table .braces made) rest said
    | _, _ => none

/-- Reads the end of a line. -/
def readLineEnd (said : List Statement) (word : Token) : Option Reading :=
  if isGap word then some (.lineEnd, said)
  else if word = .newline then some (.line, said)
  else none

/-- A bare value has ended: what it says, and the stage after it. -/
def finishBare (written : List Char) (outer : List Frame) (said : List Statement) :
    Option Reading :=
  (Scalar.read? written).map fun scalar => finishValue (.scalar scalar) outer said

/-- Reads the word after a bare value. -/
def readAfterBare (written : List Char) (outer : List Frame) (said : List Statement)
    (word : Token) :
    Option Reading :=
  (finishBare written outer said).bind fun (stage, said) =>
    match stage with
    | .lineEnd => readLineEnd said word
    | .complete node outer => readComplete node outer said word
    | _ => none

/-- Reads one word. -/
def readToken : Reading → Token → Option Reading
  | (.line, said), word =>
    if isGap word ∨ word = .newline then some (.line, said)
    else if word = .openBracket then some (.header, said)
    else (readPart .line [] word).map fun next => (next, said)
  | (.header, said), word =>
    if word = .openBracket then some (.key (.header true) [], said)
    else (readPart (.header false) [] word).map fun next => (next, said)
  | (.key place parts, said), word => (readPart place parts word).map fun next => (next, said)
  | (.afterPart place parts, said), word => readAfterPart place parts said word
  | (.headerEnd parts, said), word =>
    if word = .closeBracket then some (.lineEnd, .openNext parts.reverse :: said) else none
  | (.value outer, said), word => readValue outer said word
  | (.braces outer, said), word =>
    if word = .closeBrace then some (finishValue (.table .braces []) outer said)
    else if isGap word then some (.braces outer, said)
    else (readPart (.braces [] outer) [] word).map fun next => (next, said)
  | (.bare written outer, said), word =>
    match word with
    | .bare characters => some (.bare (written ++ characters) outer, said)
    | .dot => some (.bare (written ++ ['.']) outer, said)
    | .space =>
      if isDate written then some (.bareSpace written outer, said)
      else readAfterBare written outer said word
    | _ => readAfterBare written outer said word
  | (.bareSpace written outer, said), word =>
    match word with
    | .bare characters => some (.bare (written ++ ' ' :: characters) outer, said)
    | _ => readAfterBare written outer said word
  | (.complete node outer, said), word => readComplete node outer said word
  | (.lineEnd, said), word => readLineEnd said word

/-- Reads all words from a given stage on. -/
def readTokens : Reading → List Token → Option Reading
  | reading, [] => some reading
  | reading, word :: rest =>
    match readToken reading word with
    | some next => readTokens next rest
    | none => none

/-- The statements of a file that ends at a given stage. -/
def finish : Reading → Option (List Statement)
  | (.line, said) | (.lineEnd, said) => some said.reverse
  | (.bare written outer, said) | (.bareSpace written outer, said) =>
    (finishBare written outer said).bind fun (stage, said) =>
      match stage with
      | .lineEnd => some said.reverse
      | _ => none
  | _ => none

end Stage

namespace Statement

/-- The statements that a list of words makes. -/
def ofTokens (words : List Token) : Option (List Statement) :=
  (Stage.readTokens (.line, []) words).bind Stage.finish

/-- A file under construction: the path of the table that is open, and the table of the whole. -/
structure Draft where
  openPath : List String := []
  root : Members := []

/-- Opens a table by its header. -/
def Draft.openAt (draft : Draft) (path : List String) (change : String → Members.Change) :
    Option Draft :=
  path.getLast?.bind fun key =>
    (Members.changeAt false (change key) path.dropLast .header draft.root).map fun root =>
      { openPath := path, root }

/-- Does what a statement says. -/
def apply (draft : Draft) : Statement → Option Draft
  | .openTable path => draft.openAt path Members.openTable
  | .openNext path => draft.openAt path Members.openNext
  | .assign path node =>
    (Members.changeAt false (Members.assign path node) draft.openPath .header draft.root).map
      fun root => { draft with root }

end Statement

/-- The table that a settings file fills. -/
def Members.ofText (text : String) : Option Members := do
  let words ← Token.ofText text
  let statements ← Statement.ofTokens words
  let draft ← statements.foldlM Statement.apply {}
  some draft.root

end LiveTabs.Toml
