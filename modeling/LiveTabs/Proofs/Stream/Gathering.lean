import Mathlib.Data.List.Induction
import Mathlib.Data.List.Nodup
import LiveTabs.Proofs.Stream.WindowPositions

/-!
# What a window holds

What a window should hold after a list of events is said without going through them one by one: of
each issue that occurs, in the order of first occurrence, the last event, and the kinds of all
events (`Window.Holds`), with the positions of the issues in step with them. A window that holds
some events holds the longer list after it took in a further event (`Holds.add`), and it is closed
with the batch that is described in the same way (`Holds.close_eq`), so that nothing is left of it.
-/

namespace LiveTabs

namespace KindSet

/-- The kinds of a list to which one kind was added. A window collects its kinds event by event, and
the account from all events at once. -/
theorem of_list_concat (kinds : List EventKind) (kind : EventKind) :
    ofList (kinds ++ [kind]) = (ofList kinds).insert kind := by
  rw [ofList, List.foldl_append]
  rfl

end KindSet

namespace Window

/-- The ids of the issues that events are about, each at its first occurrence. -/
def firstSeen (events : List IssueEvent) : List String :=
  (events.map fun event => event.issue.id).eraseDups

/-- The last event about an issue. -/
def lastAbout (events : List IssueEvent) (id : String) : Option IssueEvent :=
  (events.filter fun event => event.issue.id == id).getLast?

/-- The last events about the issues that occur, in the order of first occurrence. -/
def latest (events : List IssueEvent) : List IssueEvent :=
  (firstSeen events).filterMap (lastAbout events)

/-- The batch of the given events at an instant. -/
def batchOf (events : List IssueEvent) (now : Instant) : Batch :=
  { issueIds := firstSeen events
    events := latest events
    kinds := KindSet.ofList (events.map IssueEvent.kind)
    timestamp := now }

/-- The window holds the given events: the last one of each issue at the position of that issue, and
the kinds of all of them. -/
structure Holds (events : List IssueEvent) (window : Window) : Prop where
  inStep : window.InStep
  latest : window.events = latest events
  kinds : window.kinds = KindSet.ofList (events.map IssueEvent.kind)

/-- An issue is seen if and only if there is an event about it. -/
theorem mem_firstSeen {events : List IssueEvent} {id : String} :
    id ∈ firstSeen events ↔ ∃ event ∈ events, event.issue.id = id := by
  rw [firstSeen, List.mem_eraseDups, List.mem_map]

/-- A further event adds its issue if that was not seen before, at the end, so the order is that of
first sight. -/
theorem first_seen_concat (events : List IssueEvent) (event : IssueEvent) :
    firstSeen (events ++ [event]) =
      if event.issue.id ∈ firstSeen events then firstSeen events
      else firstSeen events ++ [event.issue.id] := by
  simp only [firstSeen, List.map_append, List.map_singleton, List.eraseDups_append,
    List.mem_eraseDups]
  generalize events.map (fun event => event.issue.id) = ids
  by_cases seen : event.issue.id ∈ ids
  · simp [List.removeAll, seen]
  · simp [List.removeAll, seen, List.eraseDups_cons]

/-- No issue is listed twice, because each further event adds its issue only if it is a new one. -/
theorem nodup_firstSeen (events : List IssueEvent) : (firstSeen events).Nodup := by
  induction events using List.reverseRecOn with
  | nil => exact List.nodup_nil
  | append_singleton events event inductionHypothesis =>
    rw [first_seen_concat]
    split
    · exact inductionHypothesis
    · rename_i unseen
      exact List.nodup_append.mpr ⟨inductionHypothesis, List.nodup_singleton _,
        fun id there other last => by
          rintro rfl
          exact unseen (List.mem_singleton.mp last ▸ there)⟩

/-- A further event is the last one about its issue, and the last ones about other issues stay
so. -/
theorem last_about_concat (events : List IssueEvent) (event : IssueEvent) :
    lastAbout (events ++ [event]) =
      Function.update (lastAbout events) event.issue.id (some event) := by
  funext id
  rw [lastAbout, List.filter_append]
  by_cases same : event.issue.id = id
  · simp [same]
  · simp [same, Ne.symm same, lastAbout]

/-- The last event about an issue is about that issue, so the kept events tell which issues were
seen. -/
theorem id_of_lastAbout {events : List IssueEvent} {id : String} {event : IssueEvent}
    (last : lastAbout events id = some event) : event.issue.id = id := by
  have kept := List.mem_filter.mp (List.mem_of_getLast? last)
  simpa using kept.2

/-- Every issue that was seen has a last event, so none is lost from a batch. -/
theorem exists_lastAbout {events : List IssueEvent} {id : String} (seen : id ∈ firstSeen events) :
    ∃ event, lastAbout events id = some event := by
  obtain ⟨event, there, same⟩ := mem_firstSeen.mp seen
  have kept : event ∈ events.filter fun event => event.issue.id == id :=
    List.mem_filter.mpr ⟨there, by simpa using same⟩
  exact ⟨_, List.getLast?_eq_some_getLast (List.ne_nil_of_mem kept)⟩

/-- Each issue that was seen has one of these events, so they correspond position by position. -/
theorem latest_eq (events : List IssueEvent) :
    (latest events).map some = (firstSeen events).map (lastAbout events) := by
  have found : ∀ ids : List String, (∀ id ∈ ids, id ∈ firstSeen events) →
      (ids.filterMap (lastAbout events)).map some = ids.map (lastAbout events) := by
    intro ids
    induction ids with
    | nil => exact fun _ => rfl
    | cons id rest inductionHypothesis =>
      intro seen
      obtain ⟨event, last⟩ := exists_lastAbout (seen id List.mem_cons_self)
      rw [List.filterMap_cons_some last, List.map_cons, List.map_cons, last,
        inductionHypothesis fun other there => seen other (List.mem_cons_of_mem _ there)]
  exact found _ fun _ there => there

/-- So they are about the issues that were seen, in the same order, which is the order of a
batch. -/
theorem ids_of_latest (events : List IssueEvent) :
    (latest events).map (fun event => event.issue.id) = firstSeen events := by
  refine (List.map_inj_right fun _ _ => Option.some.inj).mp ?_
  have about : ∀ id ∈ firstSeen events,
      (lastAbout events id).map (fun event => event.issue.id) = some id := by
    intro id seen
    obtain ⟨event, last⟩ := exists_lastAbout seen
    rw [last, Option.map_some, id_of_lastAbout last]
  calc ((latest events).map fun event => event.issue.id).map some
      = ((latest events).map some).map (Option.map fun event => event.issue.id) := by
        rw [List.map_map, List.map_map]
        rfl
    _ = ((firstSeen events).map (lastAbout events)).map
      (Option.map fun event => event.issue.id) := by
        rw [latest_eq]
    _ = (firstSeen events).map some := by
        rw [List.map_map]
        exact List.map_congr_left about

section Holds

variable {events : List IssueEvent} {window : Window}

/-- The issues of a window that holds some events are those that were seen, in the same order. -/
theorem Holds.ids_eq (holds : Holds events window) : window.ids = firstSeen events := by
  rw [ids, holds.latest, ids_of_latest]

/-- A window in which nothing is kept holds no events. New windows, cleared ones and closed ones are
like this. -/
theorem empty_holds : Holds [] {} := ⟨empty_in_step, rfl, rfl⟩

/-- Nothing but the empty window holds no events: neither a position nor a kind is left in it. -/
theorem Holds.eq_empty (holds : Holds [] window) : window = {} := by
  have positions := holds.inStep.positions_of_empty holds.latest
  obtain ⟨kept, places, kinds⟩ := window
  cases holds.latest
  cases holds.kinds
  cases positions
  rfl

/-- Taking in a further event keeps the window in agreement with all events: it takes the place of
the last one about its issue, or comes last together with its issue. -/
theorem Holds.add (holds : Holds events window) (event : IssueEvent) :
    Holds (events ++ [event]) (window.add event) := by
  refine ⟨holds.inStep.add event, ?_, ?_⟩
  · refine (List.map_inj_right fun _ _ => Option.some.inj).mp ?_
    have distinct := nodup_firstSeen events
    rw [latest_eq, last_about_concat, first_seen_concat]
    cases known : window.positions.lookup event.issue.id with
    | some position =>
      have found := (holds.inStep _ position).mp known
      rw [holds.ids_eq] at found
      obtain ⟨inside, same⟩ := List.getElem?_eq_some_iff.mp found
      have seen : event.issue.id ∈ firstSeen events := List.mem_of_getElem? found
      have place : (firstSeen events).idxOf event.issue.id = position := by
        rw [← same]
        exact distinct.idxOf_getElem position inside
      rw [if_pos seen, add_of_known known, List.map_set, holds.latest, latest_eq,
        distinct.map_update, if_pos seen, place]
    | none =>
      have unseen : event.issue.id ∉ firstSeen events :=
        holds.ids_eq ▸ holds.inStep.not_mem_ids known
      rw [if_neg unseen, add_of_unknown known, List.map_append, List.map_append, holds.latest,
        latest_eq, distinct.map_update, if_neg unseen]
      simp
  · have kinds : (window.add event).kinds = window.kinds.insert event.kind := by
      cases known : window.positions.lookup event.issue.id with
      | some position => rw [add_of_known known]
      | none => rw [add_of_unknown known]
    rw [kinds, holds.kinds, List.map_append, List.map_singleton, KindSet.of_list_concat]

/-- The number of issues in a window that holds some events is that of the issues that were seen. -/
theorem Holds.size_eq (holds : Holds events window) : window.size = (firstSeen events).length := by
  rw [← holds.ids_eq, length_ids, size]

/-- A window that holds some events is empty if and only if these are none, so only events open a
window. -/
theorem Holds.is_empty_iff (holds : Holds events window) : window.isEmpty = true ↔ events = [] := by
  cases events with
  | nil =>
    rw [holds.eq_empty]
    exact ⟨fun _ => rfl, fun _ => rfl⟩
  | cons event rest =>
    have seen : event.issue.id ∈ firstSeen (event :: rest) :=
      mem_firstSeen.mpr ⟨event, List.mem_cons_self, rfl⟩
    have filled : 0 < window.events.length := by
      rw [← length_ids, holds.ids_eq]
      exact List.length_pos_of_mem seen
    rw [isEmpty, List.isEmpty_iff]
    exact ⟨fun empty => absurd empty (List.ne_nil_of_length_pos filled),
      fun none => absurd none (List.cons_ne_nil event rest)⟩

/-- A window that holds some events is closed with their batch, and nothing is left of it. -/
theorem Holds.close_eq (holds : Holds events window) (now : Instant) :
    window.close now = if events = [] then (none, {}) else (some (batchOf events now), {}) := by
  by_cases none : events = []
  · subst none
    rw [holds.eq_empty]
    rfl
  · have filled : ¬window.isEmpty = true := fun empty => none (holds.is_empty_iff.mp empty)
    rw [close, if_neg filled, if_neg none, batchOf, ← holds.ids_eq, ← holds.latest, ← holds.kinds]
    rfl

end Holds

end Window

end LiveTabs
