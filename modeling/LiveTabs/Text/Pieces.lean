/-!
# Pieces of texts

A text is cut at every place of a separator. There is one piece more than there are separators, and
a piece may be empty.
-/

namespace LiveTabs.Text

/-- The pieces of a text between the places of a separator. -/
def pieces (separator : Char) : List Char → List (List Char)
  | [] => [[]]
  | character :: rest =>
    match pieces separator rest with
    | [] => [[character]]
    | piece :: more =>
      if character = separator then [] :: piece :: more else (character :: piece) :: more

end LiveTabs.Text
