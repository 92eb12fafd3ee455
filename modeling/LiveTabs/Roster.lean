/-!
# Rosters

Members under names, in the order in which they were enrolled. Enrolling under a name that is taken
puts the new member last in place of the old one.
-/

namespace LiveTabs

/-- Members under names, in the order of their enrolment. -/
structure Roster (α : Type) where
  members : List (String × α) := []

namespace Roster

variable {α β : Type}

/-- The member with a name. -/
def get? (roster : Roster α) (name : String) : Option α :=
  (roster.members.find? fun member => member.1 == name).map (·.2)

/-- Takes a member off the roster. -/
def remove (roster : Roster α) (name : String) : Roster α :=
  ⟨roster.members.filter fun member => !(member.1 == name)⟩

/-- Enrols a member. -/
def enrol (roster : Roster α) (name : String) (member : α) : Roster α :=
  ⟨(roster.remove name).members ++ [(name, member)]⟩

/-- Changes the member with a name and leaves its place. -/
def update (roster : Roster α) (name : String) (change : α → α) : Roster α :=
  ⟨roster.members.map fun member => if member.1 == name then (name, change member.2) else member⟩

/-- The names on the roster. -/
def names (roster : Roster α) : List String := roster.members.map (·.1)

end Roster

end LiveTabs
