import Mathlib.Data.List.Nodup
import LiveTabs.Stream.Window

/-!
# The positions of a window

A window keeps its events in a list and the positions of their issues in a map. The two are in step
if the map is exactly the inverse of the list of ids: an id is mapped to a position if and only if
the event there is about its issue (`Window.InStep`). Then no issue occurs twice, and an event is
never written beyond the last one. A new window is in step, and adding an event, closing and
clearing keep that up, each in its own way: an event that replaces another leaves the ids alone, a
new one adds the same position to both, and what is dropped is dropped from both.
-/

namespace LiveTabs

namespace Window

/-- The positions of a window are those of its events: the map of positions is exactly the inverse
of the list of ids. -/
def InStep (window : Window) : Prop :=
  ∀ id position, window.positions.lookup id = some position ↔ window.ids[position]? = some id

variable {window : Window}

/-- The ids are as many as the events, so positions in one list are positions in the other. -/
theorem length_ids (window : Window) : window.ids.length = window.events.length :=
  List.length_map _

/-- A window in which nothing is kept is in step, because no id has a position in it. -/
theorem empty_in_step : ({} : Window).InStep := by
  intro id position
  constructor <;> intro found <;> cases found

/-- A position that is kept is the position of an event. So an event that is written there replaces
one, and nothing is ever written beyond the last event. -/
theorem InStep.inside (inStep : window.InStep) {id : String} {position : Nat}
    (known : window.positions.lookup id = some position) : position < window.events.length := by
  obtain ⟨inside, -⟩ := List.getElem?_eq_some_iff.mp ((inStep id position).mp known)
  rwa [length_ids] at inside

/-- An id without a position is the id of no event, so an event about its issue is a new one. -/
theorem InStep.not_mem_ids (inStep : window.InStep) {id : String}
    (unknown : window.positions.lookup id = none) : id ∉ window.ids := by
  intro there
  obtain ⟨position, found⟩ := List.mem_iff_getElem?.mp there
  rw [(inStep id position).mpr found] at unknown
  cases unknown

/-- No id stands at two positions, because the map gives it only one. So a batch has no two events
about one issue. -/
theorem InStep.nodup_ids (inStep : window.InStep) : window.ids.Nodup := by
  refine List.pairwise_iff_getElem.mpr ?_
  intro first second firstInside secondInside before same
  have one := (inStep _ first).mpr (List.getElem?_eq_getElem firstInside)
  have other := (inStep _ second).mpr (List.getElem?_eq_getElem secondInside)
  rw [same, other] at one
  have equal := Option.some.inj one
  omega

/-- Looking an id up finds what a search of the ids from the first on would find: the only position
at which the id stands. -/
theorem InStep.lookup_eq (inStep : window.InStep) (id : String) :
    window.positions.lookup id = window.ids.idxOf? id := by
  cases known : window.positions.lookup id with
  | none => exact (List.idxOf?_eq_none_iff.mpr (inStep.not_mem_ids known)).symm
  | some position =>
    obtain ⟨inside, found⟩ := List.getElem?_eq_some_iff.mp ((inStep id position).mp known)
    refine (List.idxOf?_eq_some_iff.mpr ⟨inside, found, ?_⟩).symm
    intro earlier before same
    have equal : earlier = position :=
      (List.Nodup.getElem_inj_iff inStep.nodup_ids).mp (same.trans found.symm)
    omega

/-- What an event about an issue that has a position makes of a window: it stands at that position,
and only its kind is remembered beside it. -/
theorem add_of_known {event : IssueEvent} {position : Nat}
    (known : window.positions.lookup event.issue.id = some position) :
    window.add event =
      { window with
        events := window.events.set position event
        kinds := window.kinds.insert event.kind } := by
  have placed : window.positions.lookup event.issueId = some position := known
  simp only [add, placed]

/-- What an event about any other issue makes of a window: it stands last, and that is its
position. -/
theorem add_of_unknown {event : IssueEvent}
    (unknown : window.positions.lookup event.issue.id = none) :
    window.add event =
      { window with
        events := window.events ++ [event]
        positions := (event.issue.id, window.events.length) :: window.positions
        kinds := window.kinds.insert event.kind } := by
  have unplaced : window.positions.lookup event.issueId = none := unknown
  simp only [add, unplaced]
  rfl

/-- What stands at a position of a list after one more element: what stood there, or that element
right behind the others. -/
theorem getElem?_concat_eq_some_iff {ids : List String} {last id : String} {position : Nat} :
    (ids ++ [last])[position]? = some id ↔
      ids[position]? = some id ∨ position = ids.length ∧ id = last := by
  rw [List.getElem?_append]
  by_cases inside : position < ids.length
  · rw [if_pos inside]
    exact ⟨.inl, fun found => found.resolve_right fun behind => by omega⟩
  · have behind : position - ids.length = 0 ↔ position = ids.length := by omega
    rw [if_neg inside, List.getElem?_eq_none (Nat.le_of_not_lt inside)]
    simp [List.getElem?_singleton, behind, eq_comm]

/-- An event that replaces another leaves the ids alone, because both are about the same issue. -/
theorem InStep.ids_add_of_known (inStep : window.InStep) {event : IssueEvent} {position : Nat}
    (known : window.positions.lookup event.issue.id = some position) :
    (window.add event).ids = window.ids := by
  obtain ⟨inside, same⟩ := List.getElem?_eq_some_iff.mp ((inStep _ position).mp known)
  rw [add_of_known known]
  show (window.events.set position event).map _ = window.ids
  rw [List.map_set, ← same]
  exact List.set_getElem_self inside

/-- An event about another issue adds the id of that issue to the others, at the end, where its
position points. -/
theorem ids_add_of_unknown {event : IssueEvent}
    (unknown : window.positions.lookup event.issue.id = none) :
    (window.add event).ids = window.ids ++ [event.issue.id] := by
  rw [add_of_unknown unknown]
  exact List.map_append

/-- Taking an event in keeps a window in step. Either neither the ids nor the map change, or the
same id comes to the same position in both, behind all positions that were there. -/
theorem InStep.add (inStep : window.InStep) (event : IssueEvent) : (window.add event).InStep := by
  intro id position
  cases known : window.positions.lookup event.issue.id with
  | some place =>
    rw [inStep.ids_add_of_known known, add_of_known known]
    exact inStep id position
  | none =>
    rw [ids_add_of_unknown known, add_of_unknown known, getElem?_concat_eq_some_iff,
      ← inStep, ← length_ids]
    dsimp only
    rw [List.lookup_cons]
    by_cases same : id = event.issue.id
    · rw [same, beq_self_eq_true, known]
      simp [eq_comm]
    · rw [beq_false_of_ne same]
      simp [same]

/-- A window into which an event was taken is not empty: the event is there, also where it replaces
another. -/
theorem InStep.is_empty_add (inStep : window.InStep) (event : IssueEvent) :
    (window.add event).isEmpty = false := by
  rw [isEmpty, List.isEmpty_eq_false_iff]
  refine List.ne_nil_of_length_pos ?_
  cases known : window.positions.lookup event.issue.id with
  | none =>
    rw [add_of_unknown known, List.length_append, List.length_singleton]
    exact Nat.succ_pos _
  | some position =>
    have inside := inStep.inside known
    rw [add_of_known known, List.length_set]
    omega

/-- Without events no position is left, because it would be the position of an event. -/
theorem InStep.positions_of_empty (inStep : window.InStep) (empty : window.events = []) :
    window.positions = [] := by
  cases kept : window.positions with
  | nil => rfl
  | cons first rest =>
    have known : window.positions.lookup first.1 = some first.2 := by
      rw [kept, List.lookup_cons_self]
    have inside := inStep.inside known
    rw [empty] at inside
    exact absurd inside (Nat.not_lt_zero _)

/-- Closing a window keeps it in step, since both the events and their positions are dropped, or
there are none. -/
theorem InStep.close (inStep : window.InStep) (now : Instant) : (window.close now).2.InStep := by
  rw [Window.close]
  split
  · exact inStep
  · exact empty_in_step

/-- A cleared window is in step whatever it was before, because events and positions are both
emptied. -/
theorem clear_in_step (window : Window) : window.clear.InStep := empty_in_step

end Window

end LiveTabs
