/-!
# Values of the wire format

Values as they are kept in memory. A number is an integer if it was written as one within 64 bits
and a binary floating-point value otherwise. The members of an object are sorted by key and every
key occurs once, so two objects that show the same members are the same value.
-/

namespace LiveTabs.Json

/-- A number: an exact integer, or the bits of a double. -/
inductive Number where
  | integer (value : Int)
  | real (bits : UInt64)
deriving DecidableEq

/-- A value of the wire format. -/
inductive Value where
  | null
  | boolean (truth : Bool)
  | number (content : Number)
  | text (content : String)
  | array (items : List Value)
  | object (members : List (String × Value))

/-- The members of an object. -/
abbrev Members := List (String × Value)

namespace Members

/-- Puts a member in its place. A key that is already there gets the new value. -/
def insert (key : String) (value : Value) : Members → Members
  | [] => [(key, value)]
  | (first, content) :: rest =>
    if key < first then (key, value) :: (first, content) :: rest
    else if key = first then (key, value) :: rest
    else (first, content) :: insert key value rest

/-- The sorted members of a list of pairs; of two values under one key the later one stays. -/
def ofList (pairs : List (String × Value)) : Members :=
  pairs.foldl (fun members pair => insert pair.1 pair.2 members) []

/-- The value under a key. -/
def get? (members : Members) (key : String) : Option Value :=
  (members.find? fun member => member.1 == key).map (·.2)

end Members

end LiveTabs.Json
