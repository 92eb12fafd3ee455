/-!
# Texts under keys

The contents of a store: each key has at most one text. `get?` is the view by which contents are
compared; `put` and `erase` change it at one key and nowhere else.
-/

namespace LiveTabs

/-- Texts under keys; the first entry of a key counts. -/
structure Entries where
  list : List (String × String) := []

namespace Entries

/-- The text under a key. -/
def get? (entries : Entries) (key : String) : Option String :=
  (entries.list.find? fun entry => entry.1 == key).map (·.2)

/-- Removes a key. -/
def erase (entries : Entries) (key : String) : Entries :=
  ⟨entries.list.filter fun entry => !(entry.1 == key)⟩

/-- Puts a text under a key in place of the one that was there. -/
def put (entries : Entries) (key value : String) : Entries :=
  ⟨(key, value) :: (entries.erase key).list⟩

/-- Nothing is found in empty contents. -/
@[simp] theorem get?_empty (key : String) : ({} : Entries).get? key = none := rfl

/-- A removed key is absent, and every other key is as it was. -/
@[simp] theorem get?_erase (entries : Entries) (key other : String) :
    (entries.erase key).get? other = if other = key then none else entries.get? other := by
  by_cases same : other = key
  · subst same
    simp [get?, erase, List.find?_eq_none]
  · have kept : (fun entry : String × String =>
        decide ((!(entry.1 == key)) = true ∧ (entry.1 == other) = true)) =
        fun entry => entry.1 == other := by
      funext entry
      by_cases found : entry.1 = other <;> simp [found, same]
    rw [get?, erase, List.find?_filter, kept, if_neg same, get?]

/-- A key that was put has its new text, and every other key is as it was. -/
@[simp] theorem get?_put (entries : Entries) (key value other : String) :
    (entries.put key value).get? other =
      if other = key then some value else entries.get? other := by
  by_cases same : other = key
  · subst same
    simp [get?, put]
  · have different : (key == other) = false := by simpa using fun equal => same equal.symm
    have rest := get?_erase entries key other
    simp only [same, if_false] at rest
    simp only [same, if_false]
    rw [← rest]
    simp [get?, put, different]

end Entries

end LiveTabs
