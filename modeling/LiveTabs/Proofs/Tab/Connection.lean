import LiveTabs.Proofs.Lease.Deadlines
import LiveTabs.Proofs.Stream.Activity
import LiveTabs.Proofs.Stream.Connections
import LiveTabs.Proofs.Tab.Response

/-!
# The connection of a tab

A tab has its subscription at work while it leads, unless its host cannot connect, and at rest
otherwise. The two have deadlines of their own, and every input may be for both, so this is shown
response by response (`InRole.responds`) and then for every tab that can come about, whatever it
takes up and whatever its storage answers (`Reached`). The connections that a tab dials and hangs up
are those of its subscription, in the same order.
-/

namespace LiveTabs

namespace Tab

/-- A tab that can come about, with all that it did: one that was set up, and then took up any
inputs at any times, over any line, with any answers of the storage. -/
inductive Reached : List TabEffect → Tab → Prop
  | created {tabId : String} {config : Config} {hasChannel : Bool} {tab : Tab} :
    Tab.create tabId config hasChannel = .ok tab → Reached [] tab
  | next {history : List TabEffect} {tab : Tab} {outcome : Result} (line : Line) (now : Instant)
    (input : TabInput) : Reached history tab →
    Access.MayGive outcome (tab.perform line now input) →
    Reached (history ++ outcome.effects) outcome.state

/-- What a tab does about inputs that it takes up one after the other, each at a time and on a store
as it is then. -/
def live (line : Line) : List (SharedStore × Instant × TabInput) → Tab → Result
  | [], tab => ⟨tab, []⟩
  | (store, now, input) :: rest, tab =>
    (Access.run SharedStore.storage store (tab.perform line now input)).1.andThen (live line rest)

/-- A tab that takes up inputs one after the other can come about, with what it did as its
history. -/
theorem Reached.live {history : List TabEffect} {tab : Tab} (reached : Reached history tab)
    (line : Line) (steps : List (SharedStore × Instant × TabInput)) :
    Reached (history ++ (tab.live line steps).effects) (tab.live line steps).state := by
  induction steps generalizing history tab with
  | nil =>
    rw [Tab.live, List.append_nil]
    exact reached
  | cons step rest inductionHypothesis =>
    obtain ⟨store, now, input⟩ := step
    have after := reached.next line now input (Access.run_may_give SharedStore.storage store _)
    have last := inductionHypothesis after
    rwa [List.append_assoc] at last

/-- A tab leads if and only if its candidate does, which is all that it knows of the election. -/
theorem is_leader_iff (tab : Tab) : tab.candidate.isLeader = true ↔ tab.role = some .leader := by
  simp [Candidate.isLeader, role]

/-- The subscription of a tab is at work or at rest as its role demands. -/
structure InRole (tab : Tab) : Prop where
  coherent : tab.subscription.Coherent
  leading : tab.role = some .leader →
    tab.subscription.state.isActive = true ∨ tab.subscription.state = .unsupported
  resting : tab.role ≠ some .leader → tab.subscription.state.isActive = false

/-- All that a tab did about connections is what its subscription did in a sequence of moves. -/
def Moves (before : Tab) (outcome : Result) : Prop :=
  ∃ effects, before.subscription.Moves effects outcome.state.subscription ∧
    TabEffect.calls outcome.effects = StreamEffect.calls effects

variable {line : Line} {now : Instant} {tab : Tab} {outcome : Result}

/-- A tab that leaves its subscription alone and calls nobody makes no moves, which is a special
case of making moves. -/
theorem moves_of_still (same : outcome.state.subscription = tab.subscription)
    (silent : TabEffect.calls outcome.effects = []) : tab.Moves outcome := by
  refine ⟨[], ?_, silent⟩
  rw [same]
  exact .none _

/-- Moves may be followed by moves, and their calls are made in this order. -/
theorem Moves.andThen {next : Tab → Result} (moves : tab.Moves outcome)
    (onward : outcome.state.Moves (next outcome.state)) : tab.Moves (outcome.andThen next) := by
  obtain ⟨first, moved, made⟩ := moves
  obtain ⟨second, movedOn, madeLater⟩ := onward
  refine ⟨first ++ second, moved.append movedOn, ?_⟩
  rw [Outcome.effects_andThen, TabEffect.calls_append, StreamEffect.calls_append, made, madeLater]

/-- Posting calls nobody: messages go over the channel and not over the network. -/
@[simp] theorem calls_post_effects (tab : Tab) (notice : Notice) (now : Instant) :
    TabEffect.calls (tab.postEffects notice now) = [] := by
  rw [postEffects]
  cases tab.relay.post notice now <;> rfl

/-- What a tab calls in forwarding the effects of its subscription is what the subscription
calls. -/
theorem calls_forwarded (tab : Tab) (now : Instant) (effects : List StreamEffect) :
    TabEffect.calls (effects.flatMap (tab.forward now)) = StreamEffect.calls effects := by
  have reported : ∀ report, TabEffect.calls (tab.leadReport now report) = [] := by
    intro report
    cases report with
    | event event => rfl
    | deleted event => exact calls_post_effects tab (.deleted event) now
    | batch batch => exact calls_post_effects tab (.update batch) now
    | stateChanged state => exact calls_post_effects tab (.state state) now
    | disconnectWarning lost => exact calls_post_effects tab (Relay.warning lost) now
  induction effects with
  | nil => rfl
  | cons effect rest inductionHypothesis =>
    rw [List.flatMap_cons, TabEffect.calls_append, inductionHypothesis]
    cases effect with
    | call made => rfl
    | report content =>
      rw [StreamEffect.calls_report, forward]
      by_cases leads : tab.candidate.isLeader = true
      · rw [if_pos leads, reported, List.nil_append]
      · rw [if_neg leads]
        rfl

/-- An operation of the subscription that comes to moves makes them for the tab, and its calls are
those of the tab. -/
theorem subscribe_moves {operation : Subscription → Subscription.Result}
    (moves : tab.subscription.Moves (operation tab.subscription).effects
      (operation tab.subscription).state) : tab.Moves (tab.subscribe operation now) :=
  ⟨_, moves, calls_forwarded tab now _⟩

/-- Saying that one follows leaves the candidate and the subscription, and calls nobody. -/
theorem announce_following_same (now : Instant) (tab : Tab) :
    (tab.announceFollowing now).state.candidate = tab.candidate ∧
      (tab.announceFollowing now).state.subscription = tab.subscription ∧
      TabEffect.calls (tab.announceFollowing now).effects = [] := by
  unfold announceFollowing
  split
  · exact ⟨rfl, rfl, calls_post_effects tab .sync now⟩
  split
  · exact ⟨rfl, rfl, rfl⟩
  · exact ⟨rfl, rfl, rfl⟩

/-- What a follower does with its subscription: it is stopped if it is at work. -/
def rest (subscription : Subscription) : Subscription.Result :=
  if subscription.state.isActive then subscription.stop else ⟨subscription, []⟩

/-- A follower's subscription comes to rest by moves: it is stopped if it is at work, and is not at
work afterwards. -/
theorem rest_moves {subscription : Subscription} (coherent : subscription.Coherent) :
    subscription.Moves (rest subscription).effects (rest subscription).state ∧
      (rest subscription).state.state.isActive = false := by
  unfold rest
  by_cases active : subscription.state.isActive = true
  · rw [if_pos active]
    exact ⟨Subscription.stop_moves coherent, Subscription.stop_inactive subscription⟩
  · rw [if_neg active]
    exact ⟨.none subscription, by simpa using active⟩

/-- Taking up a role makes moves and leaves the subscription as the role demands: a leader's is
started, every other one is at rest. -/
theorem take_role_moves (line : Line) (now : Instant) (role : Role)
    (coherent : tab.subscription.Coherent) (taken : tab.role = some role) :
    tab.Moves (tab.takeRole line now role) ∧ (tab.takeRole line now role).state.InRole := by
  have told : tab.Moves ⟨tab, [.tell (.roleChanged role)]⟩ := moves_of_still rfl rfl
  cases role with
  | leader =>
    have started := Subscription.start_moves line now coherent
    have starts : tab.Moves (tab.subscribe (Subscription.start line now) now) :=
      subscribe_moves started
    refine ⟨told.andThen starts, coherent.moves started, ?_, ?_⟩
    · intro _
      exact Subscription.start_active line now coherent
    · intro other
      exact absurd taken other
  | follower =>
    obtain ⟨rested, inactive⟩ := rest_moves coherent
    have rests : tab.Moves (tab.subscribe rest now) := subscribe_moves rested
    obtain ⟨candidate, subscription, silent⟩ :=
      announce_following_same now (tab.subscribe rest now).state
    have announces := moves_of_still subscription silent
    refine ⟨(told.andThen rests).andThen announces, ?_, ?_, ?_⟩
    · show ((tab.subscribe rest now).state.announceFollowing now).state.subscription.Coherent
      rw [subscription]
      exact coherent.moves rested
    · intro leads
      have follows : (tab.takeRole line now .follower).state.role = some .follower := by
        rw [role] at taken ⊢
        exact (congrArg Candidate.role candidate).trans taken
      rw [follows] at leads
      cases leads
    · intro _
      show ((tab.subscribe rest now).state.announceFollowing
        now).state.subscription.state.isActive = false
      rw [subscription]
      exact inactive

/-- An election makes moves and leaves the subscription as the role demands, whether or not the role
changes. -/
theorem InRole.elects (inRole : tab.InRole) (elects : Elects line now tab outcome) :
    tab.Moves outcome ∧ outcome.state.InRole := by
  cases elects with
  | stays candidate same =>
    refine ⟨moves_of_still rfl rfl, inRole.coherent, ?_, ?_⟩
    · intro leads
      exact inRole.leading (same.symm.trans leads)
    · intro other
      exact inRole.resting (same ▸ other)
  | changes candidate role taken new =>
    let elected : Tab := { tab with candidate }
    have coherent : elected.subscription.Coherent := inRole.coherent
    exact take_role_moves line now role coherent taken

/-- What the subscription does of itself makes moves and leaves it as the role demands. -/
theorem InRole.subscribe (inRole : tab.InRole)
    {operation : Subscription → Subscription.Result}
    (moves : tab.subscription.Moves (operation tab.subscription).effects
      (operation tab.subscription).state)
    (active : tab.subscription.state.isActive = true →
      (operation tab.subscription).state.state.isActive = true)
    (inactive : tab.subscription.Resting → operation tab.subscription = ⟨tab.subscription, []⟩) :
    tab.Moves (tab.subscribe operation now) ∧ (tab.subscribe operation now).state.InRole := by
  have rests : tab.subscription.state.isActive = false →
      (operation tab.subscription).state = tab.subscription := by
    intro still
    rw [inactive (inRole.coherent.resting still)]
  refine ⟨subscribe_moves moves, inRole.coherent.moves moves, ?_, ?_⟩
  · intro leads
    obtain works | unsupported := inRole.leading leads
    · exact .inl (active works)
    · right
      show (operation tab.subscription).state.state = .unsupported
      rw [rests (by rw [unsupported]; rfl)]
      exact unsupported
  · intro other
    have still := inRole.resting other
    show (operation tab.subscription).state.state.isActive = false
    rw [rests still]
    exact still

/-- A message makes a tab call nobody, whether it shows it, answers it or ignores it. -/
theorem calls_receive_message (tab : Tab) (now : Instant) (message : Message) :
    TabEffect.calls (tab.receiveMessage now message) = [] := by
  cases tab.heeds_message now message with
  | ignores nothing =>
    rw [nothing]
    rfl
  | answers leads channel foreign question answer => rw [answer, calls_post_effects]
  | follows follower shown =>
    rw [shown]
    cases message.notice <;> rfl

/-- Whatever a tab takes up, it makes moves and has its subscription as its role demands. -/
theorem InRole.responds (inRole : tab.InRole) {input : TabInput}
    (responds : Responds line now tab input outcome) :
    tab.Moves outcome ∧ outcome.state.InRole := by
  cases responds with
  | start elects => exact inRole.elects elects
  | news key elects => exact inRole.elects elects
  | deadline elects =>
    obtain ⟨elected, after⟩ := inRole.elects elects
    obtain ⟨polled, last⟩ := after.subscribe
      (Subscription.poll_moves line now after.coherent)
      (Subscription.poll_active line now after.coherent)
      (fun resting => resting.poll_eq line now)
    exact ⟨elected.andThen polled, last⟩
  | signal connection signal =>
    exact inRole.subscribe
      (Subscription.receive_moves now connection signal inRole.coherent)
      (Subscription.receive_active now connection signal inRole.coherent)
      (fun resting => resting.receive_eq now connection signal)
  | message message =>
    exact ⟨moves_of_still rfl (calls_receive_message tab now message), inRole⟩
  | close candidate released =>
    have stopped := Subscription.stop_moves inRole.coherent
    refine ⟨⟨_, stopped, ?_⟩, inRole.coherent.moves stopped, ?_, ?_⟩
    · exact TabEffect.calls_map_call _
    · intro leads
      rw [role, released] at leads
      cases leads
    · intro _
      exact Subscription.stop_inactive tab.subscription

/-- A setup that succeeds does so step by step, so what its first part checks holds in the end. -/
theorem exists_ok_of_bind {ε α β : Type} {first : Except ε α} {next : α → Except ε β} {result : β}
    (done : (first >>= next) = .ok result) :
    ∃ between, first = .ok between ∧ next between = .ok result := by
  cases first with
  | error fault => cases done
  | ok between => exact ⟨between, rfl, done⟩

/-- A tab is set up with valid settings; it has no role yet, and its subscription is a new one. -/
theorem of_create {tabId : String} {config : Config} {hasChannel : Bool}
    (created : Tab.create tabId config hasChannel = .ok tab) :
    config.leader.fault? = none ∧ config.stream.fault? = none ∧
      tab = { candidate := { tabId, config := config.leader }
              subscription := .create config.stream
              relay := { sender := tabId, hasChannel } } := by
  obtain ⟨-, -, created⟩ := exists_ok_of_bind created
  obtain ⟨candidate, stands, created⟩ := exists_ok_of_bind created
  obtain ⟨relay, relays, created⟩ := exists_ok_of_bind created
  obtain ⟨subscription, subscribes, created⟩ := exists_ok_of_bind created
  obtain ⟨election, rfl⟩ := Candidate.of_create stands
  unfold Relay.create at relays
  split at relays
  · cases relays
  unfold Subscription.create? at subscribes
  split at subscribes
  · cases subscribes
  rename_i stream
  cases relays
  cases subscribes
  cases created
  exact ⟨election, stream, rfl⟩

/-- What holds of every tab that can come about: its subscription is as its role demands, and its
calls are in turn. -/
theorem Reached.sound {history : List TabEffect} (reached : Reached history tab) :
    tab.InRole ∧ tab.subscription.Orderly (TabEffect.calls history) := by
  induction reached with
  | created created =>
    obtain ⟨-, -, rfl⟩ := of_create created
    refine ⟨⟨Subscription.create_coherent _, nofun, fun _ => rfl⟩, ?_⟩
    exact Subscription.create_orderly _
  | next line now input reached gives inductionHypothesis =>
    obtain ⟨inRole, orderly⟩ := inductionHypothesis
    obtain ⟨⟨effects, moves, made⟩, after⟩ := inRole.responds (responds_of_perform gives)
    refine ⟨after, ?_⟩
    rw [TabEffect.calls_append, made]
    exact orderly.moves inRole.coherent moves

end Tab

end LiveTabs
