import LiveTabs.Toml.Scalar

/-!
# Tables

A settings file fills one table, whose members may be tables in turn. How a table came about decides
what may be added to it later: a table in braces is complete, one that was only implied by a longer
header may get a header of its own, and one that dotted keys made is open to dotted keys alone.
-/

namespace LiveTabs.Toml

/-- How a table came about. -/
inductive Origin where
  /-- It has a header, or is the table of the whole file. -/
  | header
  /-- A longer header goes through it. -/
  | implied
  /-- A dotted key goes through it. -/
  | dotted
  /-- It stands in braces. -/
  | braces
deriving DecidableEq

/-- A value of a settings file. -/
inductive Node where
  | text (content : String)
  | scalar (content : Scalar)
  | array (items : List Node)
  | table (origin : Origin) (members : List (String × Node))
  /-- The tables of a repeated header, of which the last is still open. -/
  | tables (earlier : List (List (String × Node))) (last : List (String × Node))

/-- The members of a table. -/
abbrev Members := List (String × Node)

namespace Members

/-- The value under a key. -/
def get? (members : Members) (key : String) : Option Node :=
  (members.find? fun member => member.1 == key).map (·.2)

/-- Gives a key a value, in its place if it has one and last if it is new. -/
def set (key : String) (node : Node) : Members → Members
  | [] => [(key, node)]
  | member :: rest => if member.1 = key then (key, node) :: rest else member :: set key node rest

/-- What is done to the table at the end of a path. -/
abbrev Change := Origin → Members → Option Members

/-- Changes the table at the end of a path. Missing tables on the way are made. A path goes through
tables and through the last table of a repeated header, but not into braces; dotted keys do not go
through tables that have a header either. -/
def changeAt (isDotted : Bool) (final : Change) : List String → Change
  | [], origin, members => final origin members
  | key :: rest, _, members =>
    match get? members key with
    | none =>
      let origin := if isDotted then Origin.dotted else .implied
      (changeAt isDotted final rest origin []).map fun inner =>
        set key (.table origin inner) members
    | some (.table origin inner) =>
      if origin = .braces ∨ (isDotted ∧ origin = .header) then none
      else (changeAt isDotted final rest origin inner).map fun changed =>
        set key (.table origin changed) members
    | some (.tables earlier last) =>
      (changeAt isDotted final rest .header last).map fun changed =>
        set key (.tables earlier changed) members
    | some _ => none

/-- Adds a member under a new key. A key without dots does not add to a table that dotted keys made,
and a key with dots adds to no other. -/
def add (isDotted : Bool) (key : String) (node : Node) : Change
  | origin, members =>
    if decide (origin = .dotted) != isDotted || (get? members key).isSome then none
    else some (members ++ [(key, node)])

/-- Adds a member under a dotted key, of which all parts but the last lead to its table. -/
def assign (path : List String) (node : Node) : Change
  | origin, members =>
    match path.getLast? with
    | none => none
    | some key =>
      let way := path.dropLast
      changeAt true (add (!way.isEmpty) key node) way origin members

/-- Opens the table of a header. It has to be new or only implied so far. -/
def openTable (key : String) : Change
  | _, members =>
    match get? members key with
    | none => some (members ++ [(key, .table .header [])])
    | some (.table .implied inner) => some (set key (.table .header inner) members)
    | some _ => none

/-- Opens the next table of a repeated header. -/
def openNext (key : String) : Change
  | _, members =>
    match get? members key with
    | none => some (members ++ [(key, .tables [] [])])
    | some (.tables earlier last) => some (set key (.tables (earlier ++ [last]) []) members)
    | some _ => none

/-- The members of a table in braces, if no key is given twice. -/
def ofBraces (members : List (List String × Node)) : Option Members :=
  members.foldlM (fun made member => assign member.1 member.2 .braces made) []

end Members

end LiveTabs.Toml
