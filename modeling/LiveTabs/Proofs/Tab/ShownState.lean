import LiveTabs.Proofs.Stream.StatePath
import LiveTabs.Proofs.TabGroup.Mirror

/-!
# The state of the connection that the user sees

A tab tells its user the state of a connection: while it leads, of its own; while it follows, of
that of the leader. A tab that takes over starts its subscription and tells of the states through
which it goes, so afterwards the user sees the state in which it is. There is one exception. Where
the host cannot connect, a subscription that found that out is not started again and has nothing
more to tell. So if such a tab gives up its lead, is shown the connection of another tab and leads
again, its user still sees that connection. `Misled` describes the tabs to which this has happened,
and no other tab that leads shows anything but its state (`leader_shows_state`).
-/

namespace LiveTabs

namespace TabEffect

/-- The state of a connection that the user is told last by effects. -/
def lastState (effects : List TabEffect) : Option StreamState :=
  (TabNote.states (notes effects)).getLast?

/-- Of effects that follow each other, the later ones count: what was shown before them counts only
if they show nothing. -/
@[simp] theorem last_state_append (first second : List TabEffect) :
    lastState (first ++ second) = (lastState second).or (lastState first) := by
  rw [lastState, notes_append, TabNote.states_append, List.getLast?_append]
  rfl

/-- Calls tell the user nothing, so a subscription that is stopped silently is not noticed. -/
theorem last_state_map_call (made : List NetworkCall) : lastState (made.map .call) = none := by
  have silent : notes (made.map .call) = [] := by
    induction made with
    | nil => rfl
    | cons first rest inductionHypothesis => exact inductionHypothesis
  rw [lastState, silent]
  rfl

end TabEffect

namespace Tab

open TabEffect (lastState)

variable {line : Line} {now : Instant} {tab : Tab} {input : TabInput} {outcome : Result}

/-- The user saw the state of the subscription, and sees it afterwards. -/
def Shows (before : Tab) (outcome : Result) : Prop :=
  (lastState outcome.effects).getD before.subscription.state = outcome.state.subscription.state

/-- What is shown twice is shown altogether. A tab does several things about one input, and each of
them shows where it ends. -/
theorem Shows.andThen {next : Tab → Result} (first : tab.Shows outcome)
    (second : outcome.state.Shows (next outcome.state)) : tab.Shows (outcome.andThen next) := by
  unfold Shows at *
  rw [Outcome.effects_andThen, TabEffect.last_state_append, Outcome.state_andThen, ← second,
    ← first]
  cases lastState (next outcome.state).effects <;> simp

/-- A leader shows what its subscription does, because it forwards every report of it to its
user. -/
theorem shows_of_subscribe (leads : tab.role = some .leader)
    {operation : Subscription → Subscription.Result}
    (moves : tab.subscription.Moves (operation tab.subscription).effects
      (operation tab.subscription).state) : tab.Shows (tab.subscribe operation now) := by
  unfold Shows lastState
  rw [subscribe, states_forwarded (tab.is_leader_iff.mpr leads)]
  exact moves.last_state

/-- A message shows nothing to the user of a tab that leads: only followers show what others say. -/
theorem last_state_receive (leads : tab.role = some .leader) (now : Instant) (message : Message) :
    lastState (tab.receiveMessage now message) = none := by
  cases tab.heeds_message now message with
  | ignores nothing =>
    rw [nothing]
    rfl
  | answers leads channel foreign question answer =>
    rw [answer, lastState, notes_post_effects]
    rfl
  | follows follower shown =>
    rw [leads] at follower
    cases follower

/-- A tab that takes up leading tells of every state through which its subscription starts. -/
theorem take_leader_shows (line : Line) (now : Instant) (coherent : tab.subscription.Coherent)
    (leads : tab.role = some .leader) : tab.Shows (tab.takeRole line now .leader) := by
  have told : tab.Shows ⟨tab, [.tell (.roleChanged .leader)]⟩ := rfl
  have starts := Subscription.start_moves line now coherent
  have started : tab.Shows (tab.subscribe (Subscription.start line now) now) :=
    shows_of_subscribe leads starts
  exact told.andThen started

/-- A tab that leads after an election shows its state, whether it led before or starts its
subscription now. -/
theorem InRole.elects_shows (inRole : tab.InRole) (elects : Elects line now tab outcome)
    (leads : outcome.state.role = some .leader) : tab.Shows outcome := by
  cases elects with
  | stays candidate same => rfl
  | changes candidate role taken new =>
    let elected : Tab := { tab with candidate }
    have leader : elected.role = some .leader :=
      (role_take_role line now role elected).symm.trans leads
    obtain rfl : role = .leader := Option.some.inj (taken.symm.trans leader)
    have shows : elected.Shows (elected.takeRole line now .leader) :=
      take_leader_shows line now inRole.coherent leader
    exact shows

/-- A tab that leads afterwards shows its state, whatever it takes up. This is the step for leaders
in the induction over what a tab goes through. -/
theorem InRole.shows (inRole : tab.InRole) (responds : Responds line now tab input outcome)
    (leads : outcome.state.role = some .leader) : tab.Shows outcome := by
  cases responds with
  | start elects => exact inRole.elects_shows elects leads
  | news key elects => exact inRole.elects_shows elects leads
  | deadline elects =>
    rename_i elected
    obtain ⟨-, after⟩ := inRole.elects elects
    have leader : elected.state.role = some .leader := leads
    have polls := Subscription.poll_moves line now after.coherent
    have polled : elected.state.Shows
        (elected.state.subscribe (Subscription.poll line now) now) :=
          shows_of_subscribe leader polls
    exact (inRole.elects_shows elects leader).andThen polled
  | signal connection signal =>
    have leader : tab.role = some .leader := leads
    have moves := Subscription.receive_moves now connection signal inRole.coherent
    have received : tab.Shows
        (tab.subscribe (Subscription.receive now connection signal) now) :=
      shows_of_subscribe leader moves
    exact received
  | message message =>
    unfold Shows
    rw [last_state_receive leads]
    rfl
  | close candidate released =>
    rw [role, released] at leads
    cases leads

/-- Nothing is shown, and a subscription that cannot connect was one before. -/
structure Unshown (before : Tab) (outcome : Result) : Prop where
  lastState : lastState outcome.effects = none
  unsupported : outcome.state.subscription.state = .unsupported →
    before.subscription.state = .unsupported

/-- A tab that takes up following shows nothing of how its subscription is stopped, so the last
state that it showed stands until it hears from the leader. -/
theorem take_follower_unshown (line : Line) (now : Instant) (follows : tab.role = some .follower) :
    tab.Unshown (tab.takeRole line now .follower) := by
  have other : tab.role ≠ some .leader := by
    rw [follows]
    decide
  let rested : Tab := (tab.subscribe rest now).state
  obtain ⟨-, same, -⟩ := announce_following_same now rested
  have quiet : lastState (rested.announceFollowing now).effects = none := by
    unfold announceFollowing
    split
    · rw [lastState, notes_post_effects]
      rfl
    split <;> rfl
  constructor
  · show lastState ([.tell (.roleChanged .follower)] ++
      (rest tab.subscription).effects.flatMap (tab.forward now) ++
      (rested.announceFollowing now).effects) = none
    rw [TabEffect.last_state_append, TabEffect.last_state_append, forward_of_other other,
      TabEffect.last_state_map_call, quiet]
    rfl
  · intro unsupported
    have ended : (rest tab.subscription).state.state = .unsupported :=
      (congrArg Subscription.state same).symm.trans unsupported
    unfold rest at ended
    split at ended
    · exact Subscription.unsupported_of_stop ended
    · exact ended

/-- A tab that does not lead after an election shows no state. -/
theorem Elects.unshown (elects : Elects line now tab outcome)
    (other : outcome.state.role ≠ some .leader) : tab.Unshown outcome := by
  cases elects with
  | stays candidate same => exact ⟨rfl, fun unsupported => unsupported⟩
  | changes candidate role taken new =>
    let elected : Tab := { tab with candidate }
    cases role with
    | leader => exact absurd ((role_take_role line now .leader elected).trans taken) other
    | follower =>
      have unshown : elected.Unshown (elected.takeRole line now .follower) :=
        take_follower_unshown line now taken
      exact ⟨unshown.lastState, unshown.unsupported⟩

/-- A tab that does not lead afterwards shows nothing, whatever it takes up apart from messages. -/
theorem InRole.unshown (inRole : tab.InRole) (responds : Responds line now tab input outcome)
    (unposted : ∀ message, input ≠ .message message)
    (other : outcome.state.role ≠ some .leader) : tab.Unshown outcome := by
  cases responds with
  | start elects => exact elects.unshown other
  | news key elects => exact elects.unshown other
  | deadline elects =>
    rw [inRole.polled_eq elects other]
    exact elects.unshown other
  | signal connection signal =>
    rw [receiveSignal, inRole.subscribe_eq other now
      (fun resting => resting.receive_eq now connection signal)]
    exact ⟨rfl, fun unsupported => unsupported⟩
  | message message => exact absurd rfl (unposted message)
  | close candidate released =>
    exact ⟨TabEffect.last_state_map_call _, Subscription.unsupported_of_stop⟩

/-- A subscription that cannot connect stays one, whatever the tab takes up. This is why a misled
tab is not put right by leading again. -/
theorem InRole.stays_unsupported (inRole : tab.InRole)
    (responds : Responds line now tab input outcome)
    (unsupported : tab.subscription.state = .unsupported) :
    outcome.state.subscription.state = .unsupported := by
  obtain ⟨⟨effects, moves, -⟩, -⟩ := inRole.responds responds
  exact moves.stays_unsupported inRole.coherent unsupported

/-- A tab whose host cannot connect, with all that it did, whose user was shown another state by a
message and has been told of no state since. -/
inductive Misled : List TabEffect → Tab → Prop
  | shown {history : List TabEffect} {tab : Tab} {state : StreamState} (now : Instant)
    (message : Message) : Reached history tab → tab.subscription.state = .unsupported →
    lastState (tab.receiveMessage now message) = some state → state ≠ .unsupported →
    Misled (history ++ tab.receiveMessage now message) tab
  | onward {history : List TabEffect} {tab : Tab} {outcome : Result} (line : Line) (now : Instant)
    (input : TabInput) : Misled history tab →
    Access.MayGive outcome (tab.perform line now input) → lastState outcome.effects = none →
    Misled (history ++ outcome.effects) outcome.state

/-- What is true of a tab whose user is misled: it can come about, it cannot connect, and the state
that the user sees is another one. -/
theorem Misled.sees_other {history : List TabEffect} (misled : Misled history tab) :
    Reached history tab ∧ tab.subscription.state = .unsupported ∧
      lastState history ≠ some .unsupported := by
  induction misled with
  | shown now message reached unsupported shows other =>
    refine ⟨.next {} now (.message message) reached rfl, unsupported, ?_⟩
    rw [TabEffect.last_state_append, shows]
    intro same
    exact other (Option.some.inj same)
  | onward line now input misled gives unshown inductionHypothesis =>
    obtain ⟨reached, unsupported, sees⟩ := inductionHypothesis
    obtain ⟨inRole, -⟩ := reached.sound
    refine ⟨.next line now input reached gives,
      inRole.stays_unsupported (responds_of_perform gives) unsupported, ?_⟩
    rw [TabEffect.last_state_append, unshown]
    exact sees

/-- What the user of a tab sees: the state of the subscription, while the tab leads and its host can
connect; and where the host cannot connect, just that, unless the user is misled. -/
structure Sees (history : List TabEffect) (tab : Tab) : Prop where
  leading : tab.role = some .leader → tab.subscription.state ≠ .unsupported →
    lastState history = some tab.subscription.state
  unsupported : tab.subscription.state = .unsupported →
    lastState history = some .unsupported ∨ Misled history tab

/-- A tab that leads after an input shows its state to its user, unless it was misled before. -/
theorem Sees.leads {history : List TabEffect} (sees : Sees history tab) (inRole : tab.InRole)
    (gives : Access.MayGive outcome (tab.perform line now input))
    (leads : outcome.state.role = some .leader) :
    Sees (history ++ outcome.effects) outcome.state := by
  have responds := responds_of_perform gives
  have shows : (lastState outcome.effects).getD tab.subscription.state =
      outcome.state.subscription.state := inRole.shows responds leads
  obtain ⟨-, after⟩ := inRole.responds responds
  cases told : lastState outcome.effects with
  | some state =>
    rw [told, Option.getD_some] at shows
    constructor
    · intro _ _
      rw [TabEffect.last_state_append, told, shows]
      rfl
    · intro unsupported
      left
      rw [TabEffect.last_state_append, told, shows, unsupported]
      rfl
  | none =>
    rw [told, Option.getD_none] at shows
    constructor
    · intro _ supported
      -- At work without having told of it, the tab has led before.
      have led : tab.role = some .leader := by
        by_contra other
        have active := (after.leading leads).resolve_right supported
        rw [← shows, inRole.resting other] at active
        cases active
      rw [TabEffect.last_state_append, told, ← shows]
      exact sees.leading led (shows ▸ supported)
    · intro unsupported
      rw [TabEffect.last_state_append, told]
      exact (sees.unsupported (shows.trans unsupported)).imp_right
        fun misled => .onward line now input misled gives told

/-- A tab that does not lead after an input has told its user nothing, or was shown something by a
message. -/
theorem Sees.follows {history : List TabEffect} (sees : Sees history tab)
    (reached : Reached history tab) (gives : Access.MayGive outcome (tab.perform line now input))
    (other : outcome.state.role ≠ some .leader) :
    Sees (history ++ outcome.effects) outcome.state := by
  have responds := responds_of_perform gives
  obtain ⟨inRole, -⟩ := reached.sound
  refine ⟨fun leads => absurd leads other, ?_⟩
  intro unsupported
  have quiet (before : tab.subscription.state = .unsupported)
      (told : lastState outcome.effects = none) :
      lastState (history ++ outcome.effects) = some .unsupported ∨
        Misled (history ++ outcome.effects) outcome.state := by
    rw [TabEffect.last_state_append, told]
    exact (sees.unsupported before).imp_right
      fun misled => .onward line now input misled gives told
  by_cases unposted : ∀ message, input ≠ .message message
  · have unshown := inRole.unshown responds unposted other
    exact quiet (unshown.unsupported unsupported) unshown.lastState
  · obtain ⟨message, posted⟩ := not_forall_not.mp unposted
    subst posted
    cases responds with
    | message =>
      cases told : lastState (tab.receiveMessage now message) with
      | none => exact quiet unsupported told
      | some state =>
        by_cases same : state = .unsupported
        · left
          rw [TabEffect.last_state_append, told, same]
          rfl
        · exact .inr (.shown now message reached unsupported told same)

/-- Every tab that can come about lets its user see what it should, by induction on how it came
about. -/
theorem Reached.sees {history : List TabEffect} (reached : Reached history tab) :
    Sees history tab := by
  induction reached with
  | created created =>
    obtain ⟨-, -, rfl⟩ := of_create created
    exact ⟨nofun, nofun⟩
  | next line now input reached gives inductionHypothesis =>
    rename_i earlier before outcome
    by_cases leads : outcome.state.role = some .leader
    · exact inductionHypothesis.leads reached.sound.1 gives leads
    · exact inductionHypothesis.follows reached gives leads

/-- A leading tab shows its user the state of its connection, whatever it and the others went
through, unless its host cannot connect and the user is misled.

Proof: by induction on what the tab took up. While it leads, the last state that it told is that of
its subscription; when it begins to lead, it tells of every state through which the subscription
goes, and only a subscription that cannot connect goes through none. -/
theorem leader_shows_state {history : List TabEffect} (reached : Reached history tab)
    (leads : tab.role = some .leader) :
    (tab.subscription.state ≠ .unsupported →
        lastState history = some tab.subscription.state) ∧
      (lastState history = some tab.subscription.state ↔ ¬Misled history tab) := by
  have sees := reached.sees
  refine ⟨sees.leading leads, ?_, ?_⟩
  · intro shown misled
    obtain ⟨-, unsupported, other⟩ := misled.sees_other
    exact other (shown.trans (congrArg some unsupported))
  · intro right
    by_cases unsupported : tab.subscription.state = .unsupported
    · rw [unsupported]
      exact (sees.unsupported unsupported).resolve_right right
    · exact sees.leading leads unsupported

/-- A store with a lease that was taken at the epoch. -/
def heldBy (owner : String) : SharedStore :=
  { memory := { entries := ({} : Entries).put "tabsync:leader" (Lease.render ⟨owner, .epoch⟩) } }

/-- A tab leads and its connection opens; another tab takes the lease and posts that it waits; then
the lease is gone. -/
def leadsTwice : List (SharedStore × Instant × TabInput) :=
  [({}, .epoch, .start), ({}, .epoch, .signal 1 .opened),
    (heldBy "b", .epoch, .news "tabsync:leader"),
    (heldBy "b", .epoch, .message ⟨.state .waiting, "b", .epoch⟩),
    ({}, .epoch, .news "tabsync:leader")]

/-- A tab that leads again was told the state of another one's connection in between, and now shows
that of its own. -/
theorem own_state_after_another :
    ∃ history tab, Reached history tab ∧ tab.role = some .leader ∧
      TabNote.states (TabEffect.notes history) =
        [.connecting, .connected, .waiting, .idle, .connecting] ∧
      lastState history = some tab.subscription.state ∧ ¬Misled history tab := by
  let tab : Tab := { candidate := { tabId := "a", config := {} }, subscription := .create {}
                     relay := { sender := "a", hasChannel := true } }
  have created : Tab.create "a" {} true = .ok tab := rfl
  have reached := (Reached.created created).live {} leadsTwice
  have course : (tab.live {} leadsTwice).state.role = some .leader ∧
      TabNote.states (TabEffect.notes (tab.live {} leadsTwice).effects) =
        [.connecting, .connected, .waiting, .idle, .connecting] ∧
      (tab.live {} leadsTwice).state.subscription.state ≠ .unsupported := by
    decide +kernel
  obtain ⟨leads, told, supported⟩ := course
  obtain ⟨shown, right⟩ := leader_shows_state reached leads
  exact ⟨_, _, reached, leads, told, shown supported, right.mp (shown supported)⟩

end Tab

namespace TabGroup

/-- A tab whose host cannot connect and another one find no storage and both lead. The storage comes
back, the other tab takes the lease, and the first one follows it and is shown its connection. Then
the other tab is closed, and the first one leads again. -/
def leadsUnsupported : List Deed :=
  [.disturb (.switchOff true), .join "a" "a" {} true true { supported := false },
    .join "b" "b" {} true true {}, .act "a" .start, .act "b" .start, .act "b" (.signal 1 .opened),
    .disturb (.switchOff false), .setClock (Instant.epoch.after (.ofMilliseconds 8000)),
    .act "b" .deadline, .act "a" (.news "tabsync:leader"), .deliver, .deliver, .act "b" .close,
    .act "a" (.news "tabsync:leader")]

/-- The user of a leading tab sees an open connection, which its host cannot have: it was shown by
another leader before. -/
theorem open_connection_shown_by_unsupported_leader :
    let course := run leadsUnsupported {}
    course.state.leaders = ["a"] ∧
      (TabNote.states (told "a" course.effects)).getLast? = some .connected ∧
      (course.state.members.get? "a").map (fun member => member.tab.subscription.state) =
        some .unsupported := by
  decide +kernel

end TabGroup

end LiveTabs
