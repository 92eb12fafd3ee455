import LiveTabs.Roster

/-!
# The view of a roster

A roster is seen through the member that each name has. Enrolling, changing and removing a member
changes this view at its name and nowhere else.
-/

namespace LiveTabs

namespace Roster

variable {α : Type}

/-- Nobody is on an empty roster. -/
@[simp] theorem get?_empty (name : String) : ({} : Roster α).get? name = none := rfl

/-- A member that was removed is gone, and every other one is as before, whatever was enrolled under
the name. -/
@[simp] theorem get?_remove (roster : Roster α) (name other : String) :
    (roster.remove name).get? other = if other = name then none else roster.get? other := by
  by_cases same : other = name
  · subst same
    simp [get?, remove, List.find?_eq_none]
  · have kept : (fun member : String × α =>
        decide ((!(member.1 == name)) = true ∧ (member.1 == other) = true)) =
        fun member => member.1 == other := by
      funext member
      by_cases found : member.1 = other <;> simp [found, same]
    rw [get?, remove, List.find?_filter, kept, if_neg same, get?]

/-- A member that was enrolled has its name, and every other one is as before. -/
@[simp] theorem get?_enrol (roster : Roster α) (name other : String) (member : α) :
    (roster.enrol name member).get? other =
      if other = name then some member else roster.get? other := by
  have removed := get?_remove roster name other
  unfold get? at removed
  unfold get? enrol
  rw [List.find?_append]
  by_cases same : other = name
  · subst same
    rw [if_pos rfl] at removed
    rw [Option.map_eq_none_iff.mp removed, if_pos rfl]
    simp
  · have different : (name == other) = false := by simpa using fun equal => same equal.symm
    rw [if_neg same] at removed
    simp [removed, same, different]

/-- A member that was changed is the changed one, and every other one is as before. -/
@[simp] theorem get?_update (roster : Roster α) (name other : String) (change : α → α) :
    (roster.update name change).get? other =
      if other = name then (roster.get? other).map change else roster.get? other := by
  have kept : ((fun member : String × α => member.1 == other) ∘
      fun member => if member.1 == name then (name, change member.2) else member) =
      fun member => member.1 == other := by
    funext member
    by_cases found : member.1 = name <;> simp [found]
  rw [get?, update, List.find?_map, kept, get?]
  cases found : roster.members.find? (fun member => member.1 == other) with
  | none => simp
  | some member =>
    have owner : member.1 = other := by simpa using List.find?_some found
    by_cases same : other = name <;> simp [owner, same]

/-- Who is found under a name is on the roster, so what holds of all members holds of the one that
is found. -/
theorem mem_of_get? {roster : Roster α} {name : String} {member : α}
    (found : roster.get? name = some member) : (name, member) ∈ roster.members := by
  obtain ⟨entry, first, rfl⟩ := Option.map_eq_some_iff.mp found
  have same : entry.1 = name := by simpa using List.find?_some first
  exact same ▸ List.mem_of_find?_eq_some first

/-- A roster on which every name stands once. -/
def IsProper (roster : Roster α) : Prop := roster.names.Nodup

/-- On a proper roster everybody is found under their name, because nobody else has it. -/
theorem get?_of_mem {roster : Roster α} (proper : roster.IsProper) {name : String} {member : α}
    (enrolled : (name, member) ∈ roster.members) : roster.get? name = some member := by
  unfold IsProper names at proper
  unfold get?
  generalize roster.members = members at *
  induction members with
  | nil => cases enrolled
  | cons entry rest inductionHypothesis =>
    rw [List.map_cons, List.nodup_cons] at proper
    rw [List.find?_cons]
    by_cases same : entry.1 = name
    · obtain rfl | further := List.mem_cons.mp enrolled
      · simp
      · exact absurd (List.mem_map_of_mem further) (same ▸ proper.1)
    · obtain rfl | further := List.mem_cons.mp enrolled
      · exact absurd rfl same
      · have other : (entry.1 == name) = false := by simpa using same
        rw [other]
        exact inductionHypothesis proper.2 further

/-- Removing a member keeps a roster proper, since fewer names cannot clash. -/
theorem IsProper.remove {roster : Roster α} (proper : roster.IsProper) (name : String) :
    (roster.remove name).IsProper :=
  List.Sublist.nodup (List.Sublist.map _ List.filter_sublist) proper

/-- Enrolling a member keeps a roster proper: whoever had the name before is removed. -/
theorem IsProper.enrol {roster : Roster α} (proper : roster.IsProper) (name : String)
    (member : α) : (roster.enrol name member).IsProper := by
  have removed := proper.remove name
  unfold IsProper names at removed ⊢
  rw [Roster.enrol, List.map_append, List.nodup_append]
  refine ⟨removed, by simp, ?_⟩
  simp [Roster.remove]

/-- Changing a member leaves the names, and the order in which they stand. -/
@[simp] theorem names_update (roster : Roster α) (name : String) (change : α → α) :
    (roster.update name change).names = roster.names := by
  rw [names, names, Roster.update, List.map_map]
  refine List.map_congr_left ?_
  intro member _
  by_cases found : member.1 = name <;> simp [found]

/-- Changing a member keeps a roster proper, because it leaves the names. -/
theorem IsProper.update {roster : Roster α} (proper : roster.IsProper) (name : String)
    (change : α → α) : (roster.update name change).IsProper := by
  unfold IsProper
  rw [names_update]
  exact proper

/-- A name is on the roster if and only if it has a member, so what is listed by name can be looked
up. -/
theorem mem_names_iff (roster : Roster α) (name : String) :
    name ∈ roster.names ↔ ∃ member, roster.get? name = some member := by
  constructor
  · intro listed
    obtain ⟨entry, enrolled, rfl⟩ := List.mem_map.mp listed
    have present : (roster.members.find? fun member => member.1 == entry.1).isSome := by
      rw [List.find?_isSome]
      exact ⟨entry, enrolled, by simp⟩
    obtain ⟨first, found⟩ := Option.isSome_iff_exists.mp present
    exact ⟨first.2, by rw [get?, found]; rfl⟩
  · rintro ⟨member, found⟩
    exact List.mem_map_of_mem (mem_of_get? found)

/-- On a proper roster a change that leaves the member changes nothing. This is how inputs without
effect are passed over. -/
theorem update_same {roster : Roster α} (proper : roster.IsProper) {name : String} {member : α}
    (found : roster.get? name = some member) {change : α → α} (kept : change member = member) :
    roster.update name change = roster := by
  have same : roster.members.map (fun entry =>
      if entry.1 == name then (name, change entry.2) else entry) = roster.members := by
    refine (List.map_congr_left ?_).trans (List.map_id _)
    intro entry enrolled
    by_cases owner : entry.1 = name
    · have present : roster.get? name = some entry.2 := get?_of_mem proper (owner ▸ enrolled)
      rw [found] at present
      cases present
      simp [← owner, kept]
    · simp [owner]
  rw [update, same]

/-- On a proper roster, what comes of all names is what comes of the only one that something comes
of. -/
theorem flat_map_names {roster : Roster α} (proper : roster.IsProper) {name : String}
    {β : Type} {comes : String → List β} (listed : name ∈ roster.names)
    (others : ∀ other ∈ roster.names, other ≠ name → comes other = []) :
    roster.names.flatMap comes = comes name := by
  unfold IsProper at proper
  generalize roster.names = names at *
  induction names with
  | nil => cases listed
  | cons first rest inductionHypothesis =>
    obtain ⟨apart, distinct⟩ := List.nodup_cons.mp proper
    rw [List.flatMap_cons]
    obtain rfl | later := List.mem_cons.mp listed
    · have silent : rest.flatMap comes = [] := by
        rw [List.flatMap_eq_nil_iff]
        intro other there
        refine others other (List.mem_cons_of_mem _ there) ?_
        rintro rfl
        exact apart there
      rw [silent, List.append_nil]
    · have silent : comes first = [] := by
        refine others first List.mem_cons_self ?_
        rintro rfl
        exact apart later
      rw [silent, List.nil_append]
      exact inductionHypothesis distinct later
        (fun other there => others other (List.mem_cons_of_mem _ there))

/-- The names of the members with a property. -/
def those (roster : Roster α) (property : α → Bool) : List String :=
  (roster.members.filter fun member => property member.2).map (·.1)

/-- The names listed for a property are those of members that have it, on a proper roster. -/
theorem has_of_mem_those {roster : Roster α} (proper : roster.IsProper) {property : α → Bool}
    {name : String} (listed : name ∈ roster.those property) :
    ∃ member, roster.get? name = some member ∧ property member = true := by
  obtain ⟨⟨owner, member⟩, enrolled, rfl⟩ := List.mem_map.mp listed
  obtain ⟨enrolled, has⟩ := List.mem_filter.mp enrolled
  exact ⟨member, get?_of_mem proper enrolled, has⟩

/-- Who is found under a name and has a property is listed for it, so a list of nobody means that
nobody has it. -/
theorem mem_those {roster : Roster α} {property : α → Bool} {name : String} {member : α}
    (found : roster.get? name = some member) (has : property member = true) :
    name ∈ roster.those property := by
  have enrolled : (name, member) ∈ roster.members.filter fun member => property member.2 :=
    List.mem_filter.mpr ⟨mem_of_get? found, has⟩
  exact List.mem_map_of_mem enrolled

/-- On a proper roster no more members have a property than there are names that may have it. -/
theorem those_length_le {roster : Roster α} (proper : roster.IsProper) {property : α → Bool}
    {names : List String} (among : ∀ name member, roster.get? name = some member →
      property member = true → name ∈ names) : (roster.those property).length ≤ names.length := by
  have distinct : (roster.those property).Nodup :=
    List.Sublist.nodup (List.Sublist.map _ List.filter_sublist) proper
  refine distinct.length_le_of_subset ?_
  intro name listed
  obtain ⟨member, found, has⟩ := has_of_mem_those proper listed
  exact among name member found has

/-- On a proper roster at most one member has a property if no two names have such members. -/
theorem those_length_le_one {roster : Roster α} (proper : roster.IsProper) {property : α → Bool}
    (unique : ∀ first second member other, roster.get? first = some member →
      roster.get? second = some other → property member = true → property other = true →
      first = second) : (roster.those property).length ≤ 1 := by
  cases those : roster.those property with
  | nil => exact Nat.zero_le 1
  | cons first rest =>
    have listed : first ∈ roster.those property := those ▸ List.mem_cons_self
    obtain ⟨leader, found, has⟩ := has_of_mem_those proper listed
    rw [← those]
    have among : ∀ name member, roster.get? name = some member → property member = true →
        name ∈ [first] := by
      intro name member present also
      rw [unique name first member leader present found also has]
      exact List.mem_cons_self
    exact those_length_le proper among

/-- On a proper roster a name is the only one that is listed for a property if its member has the
property and no other member has. -/
theorem those_eq_singleton {roster : Roster α} (proper : roster.IsProper) {property : α → Bool}
    {name : String} {member : α} (found : roster.get? name = some member)
    (has : property member = true) (unique : ∀ other bystander, roster.get? other = some bystander →
      property bystander = true → other = name) : roster.those property = [name] := by
  have listed := mem_those found has
  have short : (roster.those property).length ≤ [name].length :=
    those_length_le proper fun other bystander present also =>
      List.mem_singleton.mpr (unique other bystander present also)
  cases those : roster.those property with
  | nil =>
    rw [those] at listed
    cases listed
  | cons first rest =>
    rw [those] at listed short
    obtain rfl : rest = [] := by simpa using short
    rw [List.mem_singleton.mp listed]

end Roster

end LiveTabs
