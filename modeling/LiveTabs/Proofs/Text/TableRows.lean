import LiveTabs.Text.Width

/-!
# Rows of tables

A character that a table has lies in one of its rows, so tables whose rows are apart have no
character in common. Whether rows are apart is decided by computing them from the lines that write
the tables. To decode the characters of a line from its bytes would take most of that time;
`Spelled` pairs lines with their characters instead, which for a literal are known without decoding.

In this way it is seen that characters with room of their own are not among the combining ones, and
that the ellipsis is not among the wide ones.
-/

namespace LiveTabs.Text

/-- A row that is found belongs to the table and has the code point, wherever the search was
narrowed to. -/
theorem Table.row_of_find {table : Table} {point low high : Nat} {row : Row}
    (found : table.findBetween point low high = some row) :
    row ∈ table.rows.toList ∧ row.first ≤ point ∧ point ≤ row.last := by
  fun_induction findBetween table point low high with
  | case1 low high between middle outside => cases found
  | case2 low high between middle other here before inductionHypothesis =>
    exact inductionHypothesis found
  | case3 low high between middle other here before after inductionHypothesis =>
    exact inductionHypothesis found
  | case4 low high between middle other here before after =>
    cases found
    exact ⟨Array.mem_toList_iff.mpr (Array.mem_of_getElem? here), Nat.le_of_not_lt before,
      Nat.le_of_not_lt after⟩
  | case5 low high empty => cases found

/-- A character that a table has lies in one of its rows, so it is enough to look at the rows. -/
theorem Table.row_of_contains {table : Table} {character : Char}
    (there : table.contains character = true) :
    ∃ row ∈ table.rows.toList, row.first ≤ character.toNat ∧ character.toNat ≤ row.last := by
  obtain ⟨row, found⟩ := Option.isSome_iff_exists.mp there
  exact ⟨row, row_of_find found⟩

/-- Whether no row of one list has a code point in common with a row of another. -/
def rowsApart (first second : List Row) : Bool :=
  first.all fun row => second.all fun other =>
    Nat.blt row.last other.first || Nat.blt other.last row.first

/-- A table has no character of a row that is apart from its own rows. This turns one decision over
rows into a statement about characters. -/
theorem Table.not_contains_of_apart {table : Table} {rows : List Row}
    (apart : rowsApart table.rows.toList rows = true) {row : Row} (given : row ∈ rows)
    {character : Char} (first : row.first ≤ character.toNat) (last : character.toNat ≤ row.last) :
    table.contains character = false := by
  rw [← Bool.not_eq_true]
  intro there
  obtain ⟨own, listed, ownFirst, ownLast⟩ := row_of_contains there
  have disjoint := List.all_eq_true.mp (List.all_eq_true.mp apart own listed) row given
  rw [Bool.or_eq_true, Nat.blt_eq, Nat.blt_eq] at disjoint
  omega

/-- Lines, and the characters of each. -/
inductive Spelled : List String → List (List Char) → Prop where
  | nil : Spelled [] []
  | cons {lines : List String} {spelling : List (List Char)} (line : List Char)
      (rest : Spelled lines spelling) : Spelled (String.ofList line :: lines) (line :: spelling)

/-- The rows that lines of characters write. -/
def rowsOf (spelling : List (List Char)) : List Row :=
  spelling.flatMap fun line => (pieces ' ' line).map Row.ofWord

/-- The rows of a table are those that the characters of its lines write, which can be computed
without the text. -/
theorem Spelled.rows_eq {lines : List String} {spelling : List (List Char)}
    (spelled : Spelled lines spelling) : (Table.ofLines lines).rows.toList = rowsOf spelling := by
  induction spelled with
  | nil => rfl
  | cons line rest inductionHypothesis =>
    rw [Table.ofLines, List.toList_toArray] at inductionHypothesis ⊢
    rw [List.flatMap_cons, String.toList_ofList, inductionHypothesis, rowsOf, rowsOf,
      List.flatMap_cons]

/-- Whether the rows of a table are apart from others is decided by the characters of its lines. -/
theorem Spelled.apart {lines : List String} {spelling : List (List Char)}
    (spelled : Spelled lines spelling) {rows : List Row}
    (apart : rowsApart (rowsOf spelling) rows = true) :
    rowsApart (Table.ofLines lines).rows.toList rows = true := by
  rw [spelled.rows_eq]
  exact apart

/-- The rows of two tables are apart if those that their lines write are. -/
theorem Spelled.both_apart {first second : List String} {one other : List (List Char)}
    (firstSpelled : Spelled first one) (secondSpelled : Spelled second other)
    (apart : rowsApart (rowsOf one) (rowsOf other) = true) :
    rowsApart (Table.ofLines first).rows.toList (Table.ofLines second).rows.toList = true := by
  rw [firstSpelled.rows_eq, secondSpelled.rows_eq]
  exact apart

/-- Rows of characters with room of their own that texts are measured by: quotation marks and the
ellipsis, the joiner of Tifinagh consonants, a vowel sign of Kirat Rai, and the letters of
regions. -/
def uprightRows : List Row :=
  [⟨0x2018, 0x2026, []⟩, ⟨0x2D7F, 0x2D7F, []⟩, ⟨0x16D68, 0x16D68, []⟩, ⟨0x1F1E6, 0x1F1FF, []⟩]

/-- None of the upright rows has a combining character, as a comparison of the rows shows. -/
theorem combining_apart_upright : rowsApart combining.rows.toList uprightRows = true := by
  unfold combining
  exact Spelled.apart (by repeat constructor) (by decide +kernel)

/-- No picture that can become text is combining, as a comparison of the rows shows. -/
theorem combining_apart_soft : rowsApart combining.rows.toList soft.rows.toList = true := by
  unfold combining soft
  exact Spelled.both_apart (by repeat constructor) (by repeat constructor) (by decide +kernel)

/-- The ellipsis is not wide, as a comparison with the rows shows. -/
theorem wide_apart_ellipsis : rowsApart wide.rows.toList [⟨0x2026, 0x2026, []⟩] = true := by
  unfold wide
  exact Spelled.apart (by repeat constructor) (by decide +kernel)

/-- A character in one of the upright rows is not combining, so it takes room of its own. -/
theorem upright_not_combining {row : Row} (listed : row ∈ uprightRows) {character : Char}
    (first : row.first ≤ character.toNat) (last : character.toNat ≤ row.last) :
    isCombining character = false :=
  Table.not_contains_of_apart combining_apart_upright listed first last

/-- A picture that can become text is not combining, so it takes room of its own in either form. -/
theorem soft_not_combining {character : Char} (soft : isSoftPicture character = true) :
    isCombining character = false := by
  obtain ⟨row, listed, first, last⟩ := Table.row_of_contains soft
  exact Table.not_contains_of_apart combining_apart_soft listed first last

/-- A letter of a region is not combining, so a pair of them takes room. -/
theorem regional_not_combining {character : Char} (regional : isRegional character = true) :
    isCombining character = false := by
  simp only [isRegional, inRanges, List.any_cons, List.any_nil, Bool.or_false, Bool.and_eq_true,
    decide_eq_true_eq] at regional
  have listed : (⟨0x1F1E6, 0x1F1FF, []⟩ : Row) ∈ uprightRows := by decide
  exact upright_not_combining listed regional.1 regional.2

/-- A quotation mark that has a wide form is not combining, so it takes room in either form. -/
theorem quotation_not_combining {character : Char} (quotation : isQuotation character = true) :
    isCombining character = false := by
  have listed : (⟨0x2018, 0x2026, []⟩ : Row) ∈ uprightRows := by decide
  have within : 0x2018 ≤ character.toNat ∧ character.toNat ≤ 0x2026 := by
    have mark := List.contains_iff_mem.mp quotation
    simp only [List.mem_cons, List.not_mem_nil, or_false] at mark
    obtain rfl | rfl | rfl | rfl := mark <;> decide
  exact upright_not_combining listed within.1 within.2

end LiveTabs.Text
