import LiveTabs.Proofs.TabGroup.Deeds

/-!
# Connections of a group of tabs

Only tabs that lead have a connection, so there are never more connections than leaders. Each tab
holds to this by itself (`Tab.InRole`), whatever the others do, so it does not matter how many tabs
there are and which of them take themselves for the leader.
-/

namespace LiveTabs

namespace StreamState

/-- A state is active unless it is one of rest. -/
theorem is_active_eq_false_iff (state : StreamState) :
    state.isActive = false ↔ state = .idle ∨ state = .stopped ∨ state = .unsupported := by
  cases state <;> simp [isActive]

end StreamState

/-- A tab with a connection leads, because the subscription of any other tab is at rest. -/
theorem Tab.Reached.leads_of_connected {history : List TabEffect} {tab : Tab}
    (reached : Tab.Reached history tab) (connected : tab.subscription.connection.isSome = true) :
    tab.candidate.isLeader = true := by
  obtain ⟨inRole, -⟩ := reached.sound
  by_cases leads : tab.role = some .leader
  · exact tab.is_leader_iff.mpr leads
  · have resting := inRole.coherent.resting (inRole.resting leads)
    rw [resting.disconnected] at connected
    cases connected

namespace TabGroup

/-- In a group that comes about there are no more connections than leaders: each connection belongs
to a tab that leads. -/
theorem Sound.connected_length_le {group : TabGroup} (sound : group.Sound) :
    group.connected.length ≤ group.leaders.length := by
  refine Roster.those_length_le sound.proper ?_
  intro name member found connected
  obtain ⟨history, reached⟩ := sound.reached name member found
  exact Roster.mem_those found (reached.leads_of_connected connected)

/-- A tab that leads has its subscription under way, unless its host cannot connect; any other tab
has it at rest, with no connection, no deadline and no event in the window. The connection of a tab
is the one that it opened and did not hang up. So among tabs that exist at the same time, in a group
or however else they are run, there are never more connections than leaders.

Proof: every response of a tab leaves its subscription as its role demands, and its calls are those
of the subscription, which come in turn. -/
theorem only_leaders_connect :
    (∀ history tab, Tab.Reached history tab →
      (tab.role = some .leader → tab.subscription.state = .connecting ∨
        tab.subscription.state = .connected ∨ tab.subscription.state = .waiting ∨
        tab.subscription.state = .unsupported) ∧
      (tab.role ≠ some .leader →
        (tab.subscription.state = .idle ∨ tab.subscription.state = .stopped ∨
          tab.subscription.state = .unsupported) ∧
        tab.subscription.connection = none ∧ tab.subscription.reconnectAt = none ∧
        tab.subscription.debounceAt = none ∧ tab.subscription.warningAt = none ∧
        tab.subscription.window = {}) ∧
      NetworkCall.unclosed (TabEffect.calls history) = tab.subscription.connection.toList) ∧
    (∀ tabs : List Tab, (∀ tab ∈ tabs, ∃ history, Tab.Reached history tab) →
      (tabs.countP fun tab => tab.subscription.connection.isSome) ≤
        tabs.countP fun tab => tab.candidate.isLeader) ∧
    ∀ group, Reachable group → group.connected.length ≤ group.leaders.length := by
  refine ⟨?_, ?_, fun group reachable => reachable.sound.connected_length_le⟩
  · intro history tab reached
    obtain ⟨inRole, orderly⟩ := reached.sound
    refine ⟨?_, ?_, orderly.inTurn.present⟩
    · intro leads
      have settled := inRole.coherent.settled
      obtain active | unsupported := inRole.leading leads
      · cases state : tab.subscription.state <;> simp_all [StreamState.isActive]
      · exact .inr (.inr (.inr unsupported))
    · intro other
      have inactive := inRole.resting other
      have resting := inRole.coherent.resting inactive
      exact ⟨(StreamState.is_active_eq_false_iff _).mp inactive, resting.disconnected,
        resting.reconnectAt, resting.debounceAt, resting.warningAt, resting.window⟩
  · intro tabs reached
    refine List.countP_mono_left ?_
    intro tab there connected
    obtain ⟨history, reached⟩ := reached tab there
    exact reached.leads_of_connected connected

/-- Two tabs that find no storage both lead and connect; then the storage comes back, one of them
takes the lease, and the other notices it. -/
def storageReturns : List Deed :=
  [.disturb (.switchOff true), .join "a" "a" {} true true {}, .join "b" "b" {} true true {},
    .act "a" .start, .act "b" .start, .disturb (.switchOff false),
    .setClock (Instant.epoch.after (.ofMilliseconds 8000)), .act "a" .deadline,
    .act "b" (.news "tabsync:leader")]

/-- The tab that gives way hangs up, and one connection is left. -/
theorem one_connection_once_storage_returns :
    ∃ group, Reachable group ∧ group.leaders = ["a"] ∧ group.connected.length ≤ 1 ∧
      ∃ history tab, Tab.Reached history tab ∧ tab.id = "b" ∧ tab.role ≠ some .leader ∧
        tab.subscription.connection = none := by
  have reachable : Reachable (run storageReturns {}).state := ⟨{}, storageReturns, rfl, rfl⟩
  have course : (run storageReturns {}).state.leaders = ["a"] ∧
      ((run storageReturns {}).state.members.get? "b").any (fun member =>
        decide (member.tab.id = "b" ∧ member.tab.role ≠ some .leader)) = true := by
    decide +kernel
  obtain ⟨leaders, present⟩ := course
  obtain ⟨member, found, second⟩ := (Option.any_eq_true _ _).mp present
  obtain ⟨name, other⟩ := of_decide_eq_true second
  obtain ⟨history, reached⟩ := reachable.sound.reached "b" member found
  obtain ⟨tabs, -, groups⟩ := only_leaders_connect
  refine ⟨_, reachable, leaders, ?_, history, member.tab, reached, name, other, ?_⟩
  · have fewer := groups _ reachable
    rwa [leaders] at fewer
  · exact ((tabs history member.tab reached).2.1 other).2.1

end TabGroup

end LiveTabs
