import LiveTabs.Proofs.Tab.Polling

/-!
# Closed tabs

Inputs of every kind may still come in when a tab is closed: signals of the connection that it just
hung up, messages of other tabs and changes in the storage, and its host may poll it once more. None
of them has any effect. The candidate has withdrawn and the subscription is at rest, each of which
is enough for its own part to do nothing, and the tab has no role in which it would show or answer a
message. So a closed tab takes up everything but a start by a program that calls nobody
(`Closed.perform`), and stays closed for as long as it is not started again.
-/

namespace LiveTabs

namespace Candidate

/-- A candidate that takes no part in the election: it has no role and waits for nothing. -/
structure Withdrawn (candidate : Candidate) : Prop where
  role : candidate.role = none
  renewAt : candidate.renewAt = none
  checkAt : candidate.checkAt = none

variable {candidate : Candidate}

/-- A candidate that was released has withdrawn, whatever the storage answered. -/
theorem withdrawn_of_released {released : Candidate}
    (gives : Access.MayGive released candidate.release) : released.Withdrawn := by
  rw [eq_of_released gives]
  exact ⟨rfl, rfl, rfl⟩

/-- A release has nothing to do for a candidate that has withdrawn, so a second request to close
does not touch the lease. -/
theorem Withdrawn.release (withdrawn : candidate.Withdrawn) :
    candidate.release = pure candidate := by
  obtain ⟨tabId, config, role, renewAt, checkAt⟩ := candidate
  obtain ⟨rfl, rfl, rfl⟩ := withdrawn
  rfl

/-- A candidate that has withdrawn does not look at a lease that was changed, so it never takes part
again by itself. -/
theorem Withdrawn.notice_change (withdrawn : candidate.Withdrawn) (now : Instant) (key : String) :
    candidate.noticeChange now key = pure (candidate, none) :=
  if_pos (.inr withdrawn.role)

/-- A candidate that has withdrawn waits for nothing, neither for a renewal nor for a check. -/
theorem Withdrawn.next_deadline (withdrawn : candidate.Withdrawn) :
    candidate.nextDeadline = none := by
  rw [nextDeadline, withdrawn.renewAt, withdrawn.checkAt]
  rfl

end Candidate

namespace Subscription

/-- There is nothing to stop in a subscription that was stopped or cannot be started. -/
theorem Resting.stop_eq {subscription : Subscription} (resting : subscription.Resting)
    (ended : subscription.state = .stopped ∨ subscription.state = .unsupported) :
    subscription.stop = ⟨subscription, []⟩ := by
  obtain stopped | unsupported := ended
  · rw [Subscription.stop_eq (by simp [stopped]), if_pos stopped, resting.clear_eq stopped,
      resting.disconnected]
    rfl
  · rw [stop, if_pos unsupported]

/-- A subscription that was stopped is at rest, and its state is stopped unless its host cannot
connect. -/
theorem Coherent.stopped {subscription : Subscription} (coherent : subscription.Coherent) :
    subscription.stop.state.Resting ∧
      (subscription.stop.state.state = .stopped ∨
        subscription.stop.state.state = .unsupported) := by
  have after := coherent.moves (stop_moves coherent)
  refine ⟨after.resting (stop_inactive subscription), ?_⟩
  by_cases unsupported : subscription.state = .unsupported
  · right
    rw [stop, if_pos unsupported]
    exact unsupported
  · left
    rw [Subscription.stop_eq unsupported]
    rfl

end Subscription

namespace Tab

/-- A tab that was closed: both of its parts are done. -/
structure Closed (tab : Tab) : Prop where
  withdrawn : tab.candidate.Withdrawn
  resting : tab.subscription.Resting
  ended : tab.subscription.state = .stopped ∨ tab.subscription.state = .unsupported

variable {line : Line} {now : Instant} {tab : Tab} {input : TabInput} {outcome : Result}

/-- A tab is closed in whatever role and state it was, and whatever the storage answers. -/
theorem InRole.closed (inRole : tab.InRole)
    (closes : Access.MayGive outcome (tab.perform line now .close)) : outcome.state.Closed := by
  obtain ⟨released, release, gives⟩ := Access.may_give_bind _ closes
  cases Access.eq_of_may_give_pure gives
  obtain ⟨resting, ended⟩ := inRole.coherent.stopped
  exact ⟨Candidate.withdrawn_of_released release, resting, ended⟩

/-- A closed tab waits for nothing, because neither its candidate nor its subscription does. -/
theorem Closed.next_deadline (closed : tab.Closed) : tab.nextDeadline = none := by
  rw [nextDeadline, closed.withdrawn.next_deadline, Subscription.nextDeadline,
    closed.resting.reconnectAt, closed.resting.debounceAt, closed.resting.warningAt]
  rfl

/-- A closed tab neither shows nor answers a message, because it neither leads nor follows. -/
theorem Closed.receive_message (closed : tab.Closed) (now : Instant) (message : Message) :
    tab.receiveMessage now message = [] := by
  have idle : tab.role = none := closed.withdrawn.role
  rw [receiveMessage, idle]
  cases tab.relay.receive message <;> rfl

/-- Whatever a closed tab takes up but a start, it calls nobody, does nothing and stays as it is. -/
theorem Closed.perform (closed : tab.Closed) (line : Line) (now : Instant) {input : TabInput}
    (late : input ≠ .start) : tab.perform line now input = pure ⟨tab, []⟩ := by
  cases input with
  | start => exact absurd rfl late
  | close =>
    show tab.shutdown = _
    rw [shutdown, closed.withdrawn.release, closed.resting.stop_eq closed.ended]
    rfl
  | signal connection signal =>
    show pure (tab.subscribe (Subscription.receive now connection signal) now) = _
    rw [subscribe, closed.resting.receive_eq]
    rfl
  | news key =>
    show tab.elect line now (·.noticeChange now key) = _
    rw [elect, closed.withdrawn.notice_change]
    rfl
  | message message =>
    show (pure (Outcome.mk tab (tab.receiveMessage now message)) : Access Result) = _
    rw [closed.receive_message]
  | deadline =>
    refine poll_of_undue line ?_
    rw [closed.next_deadline]
    rfl

/-- An input of a tab, over a line and at a time, on a store that others have changed meanwhile. -/
structure Visit (σ : Type) where
  now : Instant
  input : TabInput
  line : Line := {}
  meanwhile : σ → σ := fun store => store

/-- What a tab does about inputs that it takes up one after the other, and the store in the end. -/
def attend {σ : Type} (storage : Storage σ) : List (Visit σ) → Tab → σ → Result × σ
  | [], tab, store => (⟨tab, []⟩, store)
  | visit :: rest, tab, store =>
    let (outcome, left) := Access.run storage (visit.meanwhile store)
      (tab.perform visit.line visit.now visit.input)
    let (last, remaining) := attend storage rest outcome.state left
    (⟨last.state, outcome.effects ++ last.effects⟩, remaining)

/-- Whatever a tab went through before it was closed, and whatever the storage answered then, it is
silent from then on until it is started: in whatever order signals of any connections, changes in
the storage, messages, polls and requests to close come in, at any times and on any storage, it
tells and posts nothing, dials and hangs up nothing, and leaves the store as others made it. It
keeps no role and no deadline.

Proof: by induction on the inputs. Each of them is taken up by a program without calls that gives
the same tab back. -/
theorem closed_tab_is_silent {history : List TabEffect} {closed : Result}
    (reached : Reached history tab) (closes : Access.MayGive closed (tab.perform line now .close)) :
    closed.state.role = none ∧ closed.state.nextDeadline = none ∧
      ∀ (σ : Type) (storage : Storage σ) (store : σ) (visits : List (Visit σ)),
        (∀ visit ∈ visits, visit.input ≠ .start) →
          attend storage visits closed.state store =
            (⟨closed.state, []⟩, visits.foldl (fun left visit => visit.meanwhile left) store) := by
  have after : closed.state.Closed := reached.sound.1.closed closes
  refine ⟨after.withdrawn.role, after.next_deadline, ?_⟩
  intro σ storage store visits late
  induction visits generalizing store with
  | nil => rfl
  | cons visit rest inductionHypothesis =>
    obtain ⟨first, later⟩ := List.forall_mem_cons.mp late
    rw [attend, after.perform visit.line visit.now first, Access.run_pure]
    dsimp only
    rw [inductionHypothesis (visit.meanwhile store) later]
    rfl

/-- What is still under way when a leading tab is closed while the storage fails: its connection
gives signals and fails, another tab asks for the state, the lease that it could not remove is
removed by somebody else, and it is polled when that lease would have been renewed. -/
def stragglers : List (Visit SharedStore) :=
  [{ now := .sinceEpoch 2000, input := .signal 1 (.message "heartbeat" "") },
    { now := .sinceEpoch 2000, input := .signal 1 (.failed "reset") },
    { now := .sinceEpoch 3000, input := .message ⟨.sync, "b", .sinceEpoch 3000⟩ },
    { now := .sinceEpoch 4000, input := .news "tabsync:leader"
      meanwhile := fun store => (store.apply (.disable false)).apply (.erase "tabsync:leader") },
    { now := .sinceEpoch 9000, input := .deadline }]

/-- None of what comes after the request to close comes to anything. -/
theorem stragglers_come_to_nothing :
    ∃ history tab closed, Reached history tab ∧ tab.role = some .leader ∧
      tab.subscription.state = .connected ∧
      Access.MayGive closed (tab.perform {} (.sinceEpoch 1000) .close) ∧
      TabEffect.calls closed.effects = [.hangUp 1] ∧
      (attend SharedStore.storage stragglers closed.state { memory := { disabled := true } }).1 =
        ⟨closed.state, []⟩ := by
  let fresh : Tab := { candidate := { tabId := "a", config := {} }, subscription := .create {}
                       relay := { sender := "a", hasChannel := true } }
  have created : Tab.create "a" {} true = .ok fresh := rfl
  let opening : List (SharedStore × Instant × TabInput) :=
    [({}, .epoch, .start), ({}, .epoch, .signal 1 .opened)]
  let tab := (fresh.live {} opening).state
  have reached := (Reached.created created).live {} opening
  let failing : SharedStore := { memory := { disabled := true } }
  let closed :=
    (Access.run SharedStore.storage failing (tab.perform {} (.sinceEpoch 1000) .close)).1
  have closes : Access.MayGive closed (tab.perform {} (.sinceEpoch 1000) .close) :=
    Access.run_may_give _ _ _
  have course : tab.role = some .leader ∧ tab.subscription.state = .connected ∧
      TabEffect.calls closed.effects = [.hangUp 1] := by
    decide +kernel
  obtain ⟨leads, connected, hangsUp⟩ := course
  obtain ⟨-, -, silent⟩ := closed_tab_is_silent reached closes
  have nothing := silent SharedStore SharedStore.storage failing stragglers (by simp [stragglers])
  exact ⟨_, tab, closed, reached, leads, connected, closes, hangsUp, congrArg Prod.fst nothing⟩

end Tab

end LiveTabs
