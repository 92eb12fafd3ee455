import LiveTabs.Json.Document
import LiveTabs.Json.Shortest

/-!
# Writing values

Values are written without any space. In texts the quotation mark, the backslash and the control
characters are escaped, five of them by a letter and the others by four lower-case hexadecimal
digits; every other character stands for itself.
-/

namespace LiveTabs.Json

/-- A lower-case hexadecimal digit. -/
def hexDigit (value : Nat) : Char :=
  if value < 10 then Char.ofNat (48 + value) else Char.ofNat (87 + value)

/-- The letter of the escapes that have one. -/
def escapeLetter? (character : Char) : Option Char :=
  if character = '"' then some '"'
  else if character = '\\' then some '\\'
  else if character = '\x08' then some 'b'
  else if character = '\x0c' then some 'f'
  else if character = '\n' then some 'n'
  else if character = '\r' then some 'r'
  else if character = '\t' then some 't'
  else none

/-- A character as it stands in a quoted text. -/
def quoteChar (character : Char) : List Char :=
  match escapeLetter? character with
  | some letter => ['\\', letter]
  | none =>
    if character.toNat < 0x20 then
      ['\\', 'u', '0', '0', hexDigit (character.toNat / 16), hexDigit (character.toNat % 16)]
    else [character]

/-- A text in quotation marks. -/
def quote (text : String) : List Char := '"' :: text.toList.flatMap quoteChar ++ ['"']

/-- An integer in decimal digits. -/
def integerCharacters : Int → List Char
  | .ofNat value => decimalDigits [] value
  | .negSucc value => '-' :: decimalDigits [] (value + 1)

namespace Number

/-- A number as it is written. -/
def characters : Number → List Char
  | .integer value => integerCharacters value
  | .real bits => realCharacters bits

end Number

namespace Value

mutual

/-- A value as it is written. -/
def characters : Value → List Char
  | .null => ['n', 'u', 'l', 'l']
  | .boolean true => ['t', 'r', 'u', 'e']
  | .boolean false => ['f', 'a', 'l', 's', 'e']
  | .number content => content.characters
  | .text content => quote content
  | .array items => '[' :: itemCharacters true items
  | .object members => '\x7b' :: memberCharacters true members

/-- The items of an array and its end; every item but the first follows a comma. -/
def itemCharacters (first : Bool) : List Value → List Char
  | [] => [']']
  | item :: rest =>
    (if first then [] else [',']) ++ characters item ++ itemCharacters false rest

/-- The members of an object and its end; every member but the first follows a comma. -/
def memberCharacters (first : Bool) : List (String × Value) → List Char
  | [] => ['\x7d']
  | (key, value) :: rest =>
    (if first then [] else [',']) ++ quote key ++ ':' :: characters value ++
      memberCharacters false rest

end

/-- A value as a text. -/
def render (value : Value) : String := String.ofList value.characters

end Value

end LiveTabs.Json
