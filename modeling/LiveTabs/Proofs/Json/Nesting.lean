import LiveTabs.Proofs.Json.WrittenValue

/-!
# Values that fit into the room for them

How deep the arrays and objects of a value lie in each other, and which values are kept at all when
they are written and read: those whose integers have 64 bits and whose members stand in the order of
their keys. Such a value is kept as it is wherever there is room for its depth (`keep_of_regular`),
by induction along its structure. So for a value that somebody else made up, nothing need be read to
know that it comes back.
-/

namespace LiveTabs.Json

namespace Value

mutual

/-- How many arrays and objects of a value lie in each other. -/
def depth : Value → Nat
  | .null | .boolean _ | .number _ | .text _ => 0
  | .array items => itemsDepth items + 1
  | .object members => membersDepth members + 1

/-- The depth of the deepest item. -/
def itemsDepth : List Value → Nat
  | [] => 0
  | item :: rest => max (depth item) (itemsDepth rest)

/-- The depth of the deepest member. -/
def membersDepth : List (String × Value) → Nat
  | [] => 0
  | (_, value) :: rest => max (depth value) (membersDepth rest)

end

mutual

/-- All numbers of a value are integers within 64 bits, and every object has its members in the
order of their keys, each of which occurs once. -/
def Regular : Value → Prop
  | .null | .boolean _ | .text _ => True
  | .number (.integer value) => FitsWord value
  | .number (.real _) => False
  | .array items => ItemsRegular items
  | .object members => Members.Sorted members ∧ MembersRegular members

/-- All items of an array are regular. -/
def ItemsRegular : List Value → Prop
  | [] => True
  | item :: rest => Regular item ∧ ItemsRegular rest

/-- The values of all members of an object are regular. -/
def MembersRegular : List (String × Value) → Prop
  | [] => True
  | (_, value) :: rest => Regular value ∧ MembersRegular rest

end

/-- No member lies deeper than the deepest, so an object that fits into the room for depth has only
members that do. -/
theorem depth_le_of_mem {members : List (String × Value)} {member : String × Value}
    (there : member ∈ members) : member.2.depth ≤ membersDepth members := by
  induction members with
  | nil => cases there
  | cons first rest inductionHypothesis =>
    obtain rfl | later := List.mem_cons.mp there
    · exact Nat.le_max_left _ _
    · exact Nat.le_trans (inductionHypothesis later) (Nat.le_max_right _ _)

/-- The value of each member of a regular object is regular, hence so is what a record takes from
it. -/
theorem regular_of_mem {members : List (String × Value)} (regular : MembersRegular members)
    {member : String × Value} (there : member ∈ members) : member.2.Regular := by
  induction members with
  | nil => cases there
  | cons first rest inductionHypothesis =>
    obtain rfl | later := List.mem_cons.mp there
    · exact regular.1
    · exact inductionHypothesis regular.2 later

mutual

/-- The numbers of a regular value are integers, so it is one of the values that writing and reading
are proved for. -/
theorem Regular.integral {value : Value} (regular : value.Regular) : value.isIntegral = true := by
  cases value with
  | null | boolean | text => rfl
  | number content =>
    cases content with
    | integer value => rfl
    | real bits => exact regular.elim
  | array items => exact ItemsRegular.integral regular
  | object members => exact MembersRegular.integral regular.2

/-- The numbers of the items of a regular array are integers, by the same recursion. -/
theorem ItemsRegular.integral {items : List Value} (regular : ItemsRegular items) :
    itemsIntegral items = true := by
  cases items with
  | nil => rfl
  | cons item rest =>
    exact Bool.and_eq_true_iff.mpr ⟨regular.1.integral, ItemsRegular.integral regular.2⟩

/-- The numbers of the members of a regular object are integers, by the same recursion. -/
theorem MembersRegular.integral {members : List (String × Value)}
    (regular : MembersRegular members) :
    membersIntegral members = true := by
  cases members with
  | nil => rfl
  | cons member rest =>
    exact Bool.and_eq_true_iff.mpr ⟨regular.1.integral, MembersRegular.integral regular.2⟩

end

end Value

namespace Document

open Value (itemDocuments memberDocuments itemsDepth membersDepth ItemsRegular MembersRegular)

mutual

/-- A regular value is kept as it is wherever there is room for its depth. Its objects are sorted
and its integers fit, so keeping changes nothing. -/
theorem keep_of_regular {room : Nat} {value : Value} (regular : value.Regular)
    (fits : value.depth ≤ room) : keep room value.document = some value := by
  cases value with
  | null | boolean => rfl
  | number content =>
    cases content with
    | integer value =>
      have meant := value_of_written_integer value regular
      rw [Value.document, Number.written, keep, meant]
      rfl
    | real bits => exact regular.elim
  | text content =>
    rw [Value.document, keep, text_of_written_pieces]
    rfl
  | array items =>
    cases room with
    | zero => exact absurd fits (Nat.not_succ_le_zero _)
    | succ inner =>
      rw [Value.document, keep, keep_items_of_regular regular (Nat.le_of_succ_le_succ fits)]
      rfl
  | object members =>
    cases room with
    | zero => exact absurd fits (Nat.not_succ_le_zero _)
    | succ inner =>
      obtain ⟨sorted, regular⟩ := regular
      rw [Value.document, keep, keep_members_of_regular regular (Nat.le_of_succ_le_succ fits),
        Option.map_some, sorted.of_list_eq]

/-- The items of a regular array are kept as they are, each in the room that is left inside the
array. -/
theorem keep_items_of_regular {room : Nat} {items : List Value} (regular : ItemsRegular items)
    (fits : itemsDepth items ≤ room) : keepItems room (itemDocuments items) = some items := by
  cases items with
  | nil => rfl
  | cons item rest =>
    obtain ⟨fitsItem, fitsRest⟩ := Nat.max_le.mp fits
    rw [itemDocuments, keepItems, keep_of_regular regular.1 fitsItem,
      keep_items_of_regular regular.2 fitsRest]
    rfl

/-- The members of a regular object are kept as they are, each in the room that is left inside the
object. -/
theorem keep_members_of_regular {room : Nat} {members : List (String × Value)}
    (regular : MembersRegular members) (fits : membersDepth members ≤ room) :
    keepMembers room (memberDocuments members) = some members := by
  cases members with
  | nil => rfl
  | cons member rest =>
    obtain ⟨fitsValue, fitsRest⟩ := Nat.max_le.mp fits
    rw [memberDocuments, keepMembers, text_of_written_pieces, keep_of_regular regular.1 fitsValue,
      keep_members_of_regular regular.2 fitsRest]
    rfl

end

end Document

end LiveTabs.Json
