import LiveTabs.Json.Value

/-!
# Members of an object

The members of an object are kept sorted by their keys. Putting one in its place keeps them so and
brings in nothing else, and members that are sorted already are put in place without any change.
-/

namespace LiveTabs.Json.Members

/-- Members in the order of their keys, each of which occurs once. -/
def Sorted (members : Members) : Prop := members.Pairwise fun first second => first.1 < second.1

variable {members : Members} {key : String} {value : Value}

/-- Putting in a member brings in nothing else, so a property of the pairs is one of the members. -/
theorem mem_insert {member : String × Value} (there : member ∈ insert key value members) :
    member = (key, value) ∨ member ∈ members := by
  induction members with
  | nil => exact .inl (List.mem_singleton.mp there)
  | cons first rest inductionHypothesis =>
    unfold insert at there
    split at there
    · exact List.mem_cons.mp there
    split at there
    · exact (List.mem_cons.mp there).imp_right (List.mem_cons_of_mem _)
    · obtain rfl | later := List.mem_cons.mp there
      · exact .inr List.mem_cons_self
      · exact (inductionHypothesis later).imp_right (List.mem_cons_of_mem _)

/-- Sorted members stay sorted when one is put in its place, or put in the place of one with its
key. -/
theorem Sorted.insert (sorted : Sorted members) (key : String) (value : Value) :
    Sorted (Members.insert key value members) := by
  induction members with
  | nil => exact List.pairwise_singleton _ _
  | cons first rest inductionHypothesis =>
    obtain ⟨below, sortedRest⟩ := List.pairwise_cons.mp sorted
    unfold Members.insert
    split
    · rename_i before
      refine List.pairwise_cons.mpr ⟨?_, sorted⟩
      exact List.forall_mem_cons.mpr
        ⟨before, fun later there => String.lt_trans before (below later there)⟩
    split
    · rename_i same
      exact List.pairwise_cons.mpr ⟨fun later there => same ▸ below later there, sortedRest⟩
    · rename_i notBefore different
      refine List.pairwise_cons.mpr ⟨?_, inductionHypothesis sortedRest⟩
      intro later there
      obtain rfl | there := mem_insert there
      · refine Decidable.byContradiction fun notAfter => different ?_
        exact String.le_antisymm (String.not_lt.mp notAfter) (String.not_lt.mp notBefore)
      · exact below later there

/-- A key beyond all others comes last, so sorted members can be put in one after the other. -/
theorem insert_last (beyond : ∀ member ∈ members, member.1 < key) :
    insert key value members = members ++ [(key, value)] := by
  induction members with
  | nil => rfl
  | cons first rest inductionHypothesis =>
    obtain ⟨before, later⟩ := List.forall_mem_cons.mp beyond
    unfold insert
    have different : key ≠ first.1 := fun same => String.lt_irrefl key (same ▸ before)
    rw [if_neg (String.lt_asymm before), if_neg different, inductionHypothesis later]
    rfl

/-- The members of a list of pairs are sorted, in whatever order the pairs came. -/
theorem sorted_of_list (pairs : List (String × Value)) : Sorted (ofList pairs) := by
  have onward : ∀ members, Sorted members →
      Sorted (pairs.foldl (fun members pair => Members.insert pair.1 pair.2 members) members) := by
    induction pairs with
    | nil => exact fun _ sorted => sorted
    | cons pair rest inductionHypothesis =>
      exact fun members sorted => inductionHypothesis _ (sorted.insert pair.1 pair.2)
  exact onward [] List.Pairwise.nil

/-- The members of a list of pairs are among the pairs, though not all pairs need be members. -/
theorem mem_of_list {pairs : List (String × Value)} {member : String × Value}
    (there : member ∈ ofList pairs) : member ∈ pairs := by
  have onward : ∀ members,
      member ∈ pairs.foldl (fun members pair => insert pair.1 pair.2 members) members →
        member ∈ members ∨ member ∈ pairs := by
    clear there
    induction pairs with
    | nil => exact fun _ there => .inl there
    | cons pair rest inductionHypothesis =>
      intro members there
      obtain before | later := inductionHypothesis _ there
      · obtain rfl | there := mem_insert before
        · exact .inr List.mem_cons_self
        · exact .inl there
      · exact .inr (List.mem_cons_of_mem _ later)
  exact (onward [] there).resolve_left List.not_mem_nil

/-- Sorted members are put in place as they are. So members that were read, written and read again
are the same. -/
theorem Sorted.of_list_eq (sorted : Sorted members) : ofList members = members := by
  have onward : ∀ (placed rest : Members), Sorted (placed ++ rest) →
      rest.foldl (fun members pair => Members.insert pair.1 pair.2 members) placed =
        placed ++ rest := by
    intro placed rest
    induction rest generalizing placed with
    | nil => exact fun _ => (List.append_nil placed).symm
    | cons member rest inductionHypothesis =>
      intro sorted
      have beyond : ∀ before ∈ placed, before.1 < member.1 := fun before there =>
        (List.pairwise_append.mp sorted).2.2 before there member List.mem_cons_self
      rw [List.foldl_cons, insert_last beyond, inductionHypothesis]
      · rw [List.append_assoc]
        rfl
      · rwa [List.append_assoc]
  exact onward [] members sorted

end LiveTabs.Json.Members
