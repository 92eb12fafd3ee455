import LiveTabs.Proofs.Stream.Reports
import LiveTabs.Proofs.Tab.Connection

/-!
# What tabs pass on

A tab that leads posts what it tells its user, in the same order, apart from single events, and
answers the questions of other tabs. A tab that does not lead posts its question when it begins to
follow, and nothing else. A follower shows what others post, and while it goes on following it does
nothing of itself.
-/

namespace LiveTabs

namespace TabNote

/-- Whether a note is about the issues or warns of the connection, and may come from another tab. -/
def isNews : TabNote → Bool
  | .deleted _ | .batch _ | .disconnectWarning _ => true
  | .roleChanged _ | .event _ | .stateChanged _ | .relayMissing => false

/-- A note as it reaches another tab: of a span of time, only whole milliseconds do. -/
def relayed : TabNote → TabNote
  | .disconnectWarning disconnectedFor =>
    .disconnectWarning (.ofMilliseconds disconnectedFor.milliseconds)
  | note => note

/-- The state that a note tells of. -/
def state? : TabNote → Option StreamState
  | .stateChanged state => some state
  | _ => none

/-- The news among notes. -/
def news (notes : List TabNote) : List TabNote := notes.filter isNews

/-- The states that notes tell of. -/
def states (notes : List TabNote) : List StreamState := notes.filterMap state?

/-- The news of notes that follow each other are those of the first and then those of the second. -/
@[simp] theorem news_append (first second : List TabNote) :
    news (first ++ second) = news first ++ news second :=
  List.filter_append ..

/-- The states of notes that follow each other are those of the first and then those of the
second. -/
@[simp] theorem states_append (first second : List TabNote) :
    states (first ++ second) = states first ++ states second :=
  List.filterMap_append

end TabNote

namespace Message

/-- What messages make a follower tell its user. -/
def shown (messages : List Message) : List TabNote :=
  messages.flatMap fun message => TabEffect.notes (Tab.followNotice message.notice)

/-- What messages show that follow each other is what the first show and then what the second
show. -/
@[simp] theorem shown_append (first second : List Message) :
    shown (first ++ second) = shown first ++ shown second :=
  List.flatMap_append

/-- Questions show nothing, so they may be left out of what a follower makes of a queue. -/
theorem shown_of_sync {messages : List Message}
    (asked : ∀ message ∈ messages, message.notice = .sync) :
    shown messages = [] := by
  rw [shown, List.flatMap_eq_nil_iff]
  intro message there
  rw [asked message there]
  rfl

end Message

namespace Tab

variable {line : Line} {now : Instant} {tab : Tab} {input : TabInput} {outcome : Result}

/-- What is posted where there is a channel is one message with the time and the sender of the
tab. -/
theorem posts_post_effects (channel : tab.relay.hasChannel = true) (notice : Notice)
    (now : Instant) :
    TabEffect.posts (tab.postEffects notice now) = [⟨notice, tab.relay.sender, now⟩] := by
  rw [postEffects, Relay.post, if_pos channel]
  rfl

/-- Posting tells the user nothing, so what a leader's user is told is what the leader forwards. -/
theorem notes_post_effects (tab : Tab) (notice : Notice) (now : Instant) :
    TabEffect.notes (tab.postEffects notice now) = [] := by
  rw [postEffects]
  cases tab.relay.post notice now <;> rfl

/-- What a leader passes on: messages of its own, which show the news that it tells its user, with
spans of time cut, and the same states. -/
structure PassesOn (sender : String) (effects : List TabEffect) : Prop where
  news : (TabNote.news (TabEffect.notes effects)).map TabNote.relayed =
    TabNote.news (Message.shown (TabEffect.posts effects))
  states : TabNote.states (TabEffect.notes effects) =
    TabNote.states (Message.shown (TabEffect.posts effects))
  own : ∀ message ∈ TabEffect.posts effects, message.sender = sender

/-- Where there is nothing to pass on, nothing need be posted. Calls and roles are such effects. -/
theorem passes_on_of_unposted {sender : String} {effects : List TabEffect}
    (unposted : TabEffect.posts effects = [])
    (news : TabNote.news (TabEffect.notes effects) = [])
    (states : TabNote.states (TabEffect.notes effects) = []) : PassesOn sender effects := by
  constructor
  · rw [news, unposted]
    rfl
  · rw [states, unposted]
    rfl
  · rw [unposted]
    intro message there
    cases there

/-- What is passed on twice is passed on altogether, so effects can be looked at one by one. -/
theorem PassesOn.append {sender : String} {first second : List TabEffect}
    (left : PassesOn sender first) (right : PassesOn sender second) :
    PassesOn sender (first ++ second) := by
  constructor
  · simp [left.news, right.news]
  · simp [left.states, right.states]
  · intro message there
    rw [TabEffect.posts_append] at there
    obtain earlier | later := List.mem_append.mp there
    · exact left.own message earlier
    · exact right.own message later

/-- A note is passed on by the message that shows it: what the leader's user is told, the followers'
users are. -/
theorem passes_on_posted (channel : tab.relay.hasChannel = true) (now : Instant) (note : TabNote)
    (notice : Notice)
    (news : (TabNote.news [note]).map TabNote.relayed =
      TabNote.news (TabEffect.notes (followNotice notice)))
    (states : TabNote.states [note] = TabNote.states (TabEffect.notes (followNotice notice))) :
    PassesOn tab.relay.sender (.tell note :: tab.postEffects notice now) := by
  have told : TabEffect.notes (.tell note :: tab.postEffects notice now) = [note] :=
    congrArg (note :: ·) (notes_post_effects tab notice now)
  have posted : TabEffect.posts (.tell note :: tab.postEffects notice now) =
      [⟨notice, tab.relay.sender, now⟩] := posts_post_effects channel notice now
  constructor
  · rw [told, posted, news]
    simp [Message.shown]
  · rw [told, posted, states]
    simp [Message.shown]
  · rw [posted]
    intro message there
    rw [List.mem_singleton.mp there]

/-- A leader with a channel passes on what its subscription does.

Proof: by induction on the effects. Each of them is passed on by the message that belongs to it. -/
theorem passes_on_forwarded (leads : tab.candidate.isLeader = true)
    (channel : tab.relay.hasChannel = true) (now : Instant) (effects : List StreamEffect)
    (short : ∀ disconnectedFor ∈ StreamEffect.warnings effects,
      disconnectedFor.milliseconds < Nat.pow 2 64) :
    PassesOn tab.relay.sender (effects.flatMap (tab.forward now)) := by
  induction effects with
  | nil => exact passes_on_of_unposted rfl rfl rfl
  | cons effect rest inductionHypothesis =>
    have later : ∀ disconnectedFor ∈ StreamEffect.warnings rest,
        disconnectedFor.milliseconds < Nat.pow 2 64 := by
      intro disconnectedFor there
      obtain ⟨warning, among, content⟩ := List.mem_filterMap.mp there
      exact short disconnectedFor
        (List.mem_filterMap.mpr ⟨warning, List.mem_cons_of_mem effect among, content⟩)
    rw [List.flatMap_cons]
    refine PassesOn.append ?_ (inductionHypothesis later)
    cases effect with
    | call made => exact passes_on_of_unposted rfl rfl rfl
    | report content =>
      rw [forward, if_pos leads]
      cases content with
      | event event => exact passes_on_of_unposted rfl rfl rfl
      | deleted event => exact passes_on_posted channel now (.deleted event) _ rfl rfl
      | batch batch => exact passes_on_posted channel now (.batch batch) _ rfl rfl
      | stateChanged state => exact passes_on_posted channel now (.stateChanged state) _ rfl rfl
      | disconnectWarning lost =>
        have whole := short lost (List.mem_filterMap.mpr ⟨_, List.mem_cons_self, rfl⟩)
        have kept : Relay.warning lost = .warning lost.milliseconds := by
          rw [Relay.warning, Nat.min_eq_left (Nat.le_sub_one_of_lt whole)]
        rw [leadReport, kept]
        exact passes_on_posted channel now (.disconnectWarning lost) _ rfl rfl

/-- A leader's user is told the states that the subscription reports, all of them and in their
order. -/
theorem states_forwarded (leads : tab.candidate.isLeader = true) (now : Instant)
    (effects : List StreamEffect) :
    TabNote.states (TabEffect.notes (effects.flatMap (tab.forward now))) =
      StreamEffect.states effects := by
  induction effects with
  | nil => rfl
  | cons effect rest inductionHypothesis =>
    rw [List.flatMap_cons, TabEffect.notes_append, TabNote.states_append, inductionHypothesis,
      ← List.singleton_append (x := effect), StreamEffect.states_append]
    congr 1
    cases effect with
    | call made => rfl
    | report content =>
      have told : ∀ note notice,
          TabEffect.notes (.tell note :: tab.postEffects notice now) = [note] :=
        fun note notice => congrArg (note :: ·) (notes_post_effects tab notice now)
      rw [forward, if_pos leads]
      cases content with
      | event event => rfl
      | deleted event | batch batch | stateChanged state | disconnectWarning lost =>
        rw [leadReport, told]
        rfl

/-- What a tab does while it leads: all of it is passed on, and the last state that its user is told
is that of its subscription. -/
structure KeepsUp (tab : Tab) (outcome : Result) : Prop where
  passesOn : PassesOn tab.relay.sender outcome.effects
  lastState : (TabNote.states (TabEffect.notes outcome.effects)).getLast?.getD
    tab.subscription.state = outcome.state.subscription.state
  relay : outcome.state.relay = tab.relay

/-- A leader keeps up with what its subscription does: it passes everything on, and the last state
that it passed on is that of its connection. -/
theorem keeps_up_of_subscribe (leads : tab.role = some .leader)
    (channel : tab.relay.hasChannel = true) {operation : Subscription → Subscription.Result}
    (moves : tab.subscription.Moves (operation tab.subscription).effects
      (operation tab.subscription).state) : tab.KeepsUp (tab.subscribe operation now) := by
  have isLeader := tab.is_leader_iff.mpr leads
  refine ⟨passes_on_forwarded isLeader channel now _ moves.warnings_short, ?_, rfl⟩
  rw [subscribe, states_forwarded isLeader]
  exact moves.last_state

/-- Taking up a role leaves the candidate and the relay. Only the subscription changes with it. -/
theorem take_role_same (line : Line) (now : Instant) (role : Role) (tab : Tab) :
    (tab.takeRole line now role).state.candidate = tab.candidate ∧
      (tab.takeRole line now role).state.relay = tab.relay := by
  cases role with
  | leader => exact ⟨rfl, rfl⟩
  | follower =>
    let rested : Tab := (tab.subscribe rest now).state
    show (rested.announceFollowing now).state.candidate = rested.candidate ∧
      (rested.announceFollowing now).state.relay = rested.relay
    unfold announceFollowing
    split
    · exact ⟨rfl, rfl⟩
    split
    · exact ⟨rfl, rfl⟩
    · exact ⟨rfl, rfl⟩

/-- A role that is taken up is the one that the candidate has, because taking it up leaves the
candidate. -/
theorem role_take_role (line : Line) (now : Instant) (role : Role) (tab : Tab) :
    (tab.takeRole line now role).state.role = tab.role :=
  congrArg Candidate.role (take_role_same line now role tab).1

/-- An election that leaves the role does nothing that anybody is told of, and changes only the
candidate. -/
theorem Elects.eq_of_same (elects : Elects line now tab outcome)
    (same : outcome.state.role = tab.role) :
    ∃ candidate : Candidate, candidate.role = tab.role ∧
      outcome = ⟨{ tab with candidate }, []⟩ := by
  cases elects with
  | stays candidate same => exact ⟨candidate, same, rfl⟩
  | changes candidate role taken new =>
    rw [role_take_role] at same
    exact absurd (same.symm.trans taken) new

/-- A tab that leads before and after keeps up with its subscription, whatever it takes up apart
from messages. -/
theorem InRole.keeps_up (inRole : tab.InRole) (responds : Responds line now tab input outcome)
    (unposted : ∀ message, input ≠ .message message) (channel : tab.relay.hasChannel = true)
    (leads : tab.role = some .leader) (stays : outcome.state.role = some .leader) :
    tab.KeepsUp outcome := by
  have still : ∀ candidate : Candidate, tab.KeepsUp ⟨{ tab with candidate }, []⟩ :=
    fun candidate => ⟨passes_on_of_unposted rfl rfl rfl, rfl, rfl⟩
  cases responds with
  | start elects =>
    obtain ⟨candidate, -, rfl⟩ := elects.eq_of_same (stays.trans leads.symm)
    exact still candidate
  | news key elects =>
    obtain ⟨candidate, -, rfl⟩ := elects.eq_of_same (stays.trans leads.symm)
    exact still candidate
  | deadline elects =>
    obtain ⟨candidate, same, rfl⟩ := elects.eq_of_same (stays.trans leads.symm)
    let elected : Tab := { tab with candidate }
    have leadsOn : elected.role = some .leader := same.trans leads
    have polled : elected.KeepsUp (elected.subscribe (Subscription.poll line now) now) :=
      keeps_up_of_subscribe leadsOn channel (Subscription.poll_moves line now inRole.coherent)
    exact ⟨polled.passesOn, polled.lastState, polled.relay⟩
  | signal connection signal =>
    exact keeps_up_of_subscribe leads channel
      (Subscription.receive_moves now connection signal inRole.coherent)
  | message message => exact absurd rfl (unposted message)
  | close candidate released =>
    rw [role, released] at stays
    cases stays

/-- The subscription of a tab that does not lead does nothing of itself, because it is at rest. -/
theorem InRole.subscribe_eq (inRole : tab.InRole) (other : tab.role ≠ some .leader)
    {operation : Subscription → Subscription.Result} (now : Instant)
    (inactive : tab.subscription.Resting → operation tab.subscription = ⟨tab.subscription, []⟩) :
    tab.subscribe operation now = ⟨tab, []⟩ := by
  rw [Tab.subscribe, inactive (inRole.coherent.resting (inRole.resting other))]
  rfl

/-- A poll of a tab that does not lead afterwards comes to the election alone, whatever time it
is. -/
theorem InRole.polled_eq (inRole : tab.InRole) (elects : Elects line now tab outcome)
    (other : outcome.state.role ≠ some .leader) :
    outcome.andThen (Tab.subscribe (Subscription.poll line now) now) = outcome := by
  obtain ⟨-, after⟩ := inRole.elects elects
  rw [Outcome.andThen, after.subscribe_eq other now (fun resting => resting.poll_eq line now),
    List.append_nil]

/-- A follower that goes on following does nothing, whatever it takes up apart from messages. -/
theorem InRole.quiet (inRole : tab.InRole) (responds : Responds line now tab input outcome)
    (unposted : ∀ message, input ≠ .message message) (follows : tab.role = some .follower)
    (stays : outcome.state.role = some .follower) : outcome.effects = [] := by
  have other : tab.role ≠ some .leader := by
    rw [follows]
    exact nofun
  cases responds with
  | start elects =>
    obtain ⟨candidate, -, rfl⟩ := elects.eq_of_same (stays.trans follows.symm)
    rfl
  | news key elects =>
    obtain ⟨candidate, -, rfl⟩ := elects.eq_of_same (stays.trans follows.symm)
    rfl
  | deadline elects =>
    have same := stays.trans follows.symm
    rw [inRole.polled_eq elects (same ▸ other)]
    obtain ⟨candidate, -, rfl⟩ := elects.eq_of_same same
    rfl
  | signal connection signal =>
    rw [receiveSignal, inRole.subscribe_eq other now
      (fun resting => resting.receive_eq now connection signal)]
  | message message => exact absurd rfl (unposted message)
  | close candidate released =>
    rw [role, released] at stays
    cases stays

/-- Of what its subscription does, a tab that does not lead passes on the calls alone. -/
theorem forward_of_other (other : tab.role ≠ some .leader) (effects : List StreamEffect) :
    effects.flatMap (tab.forward now) = (StreamEffect.calls effects).map .call := by
  have silent : ¬tab.candidate.isLeader = true := mt tab.is_leader_iff.mp other
  induction effects with
  | nil => rfl
  | cons effect rest inductionHypothesis =>
    rw [List.flatMap_cons, inductionHypothesis]
    cases effect with
    | call made => rfl
    | report content =>
      rw [forward, if_neg silent]
      rfl

/-- A tab that takes up following asks for the state of the connection, and posts nothing else. -/
theorem posts_take_follower (line : Line) (now : Instant) (follows : tab.role = some .follower) :
    TabEffect.posts (tab.takeRole line now .follower).effects =
      (tab.relay.post .sync now).toList := by
  have other : tab.role ≠ some .leader := by
    rw [follows]
    exact nofun
  have asked : ∀ tab : Tab, TabEffect.posts (tab.announceFollowing now).effects =
      (tab.relay.post .sync now).toList := by
    intro tab
    unfold announceFollowing
    by_cases channel : tab.relay.hasChannel = true
    · rw [if_pos channel, posts_post_effects channel, Relay.post, if_pos channel]
      rfl
    · rw [if_neg channel, Relay.post, if_neg channel]
      split <;> rfl
  show TabEffect.posts ([.tell (.roleChanged .follower)] ++
    (rest tab.subscription).effects.flatMap (tab.forward now) ++
    ((tab.subscribe rest now).state.announceFollowing now).effects) = _
  rw [TabEffect.posts_append, TabEffect.posts_append, forward_of_other other,
    TabEffect.posts_map_call, asked]
  rfl

/-- What an election makes a tab post that does not lead afterwards: a question, if it begins to
follow, and nothing otherwise. -/
theorem Elects.posts_of_other (elects : Elects line now tab outcome)
    (other : outcome.state.role ≠ some .leader) :
    TabEffect.posts outcome.effects =
      if outcome.state.role = some .follower ∧ tab.role ≠ some .follower then
        (outcome.state.relay.post .sync now).toList else [] := by
  cases elects with
  | stays candidate same =>
    have kept : ¬(candidate.role = some .follower ∧ tab.role ≠ some .follower) :=
      fun begins => begins.2 (same.symm.trans begins.1)
    exact (if_neg kept).symm
  | changes candidate role taken new =>
    obtain ⟨-, relay⟩ := take_role_same line now role { tab with candidate }
    have takes : (takeRole line now role { tab with candidate }).state.role = some role :=
      (role_take_role line now role _).trans taken
    cases role with
    | leader => exact absurd takes other
    | follower =>
      rw [if_pos ⟨takes, new⟩, relay]
      exact posts_take_follower line now taken

/-- A tab that does not lead afterwards asks for the state of the connection if it begins to follow,
and posts nothing else. -/
theorem InRole.posts_of_other (inRole : tab.InRole)
    (responds : Responds line now tab input outcome)
    (unposted : ∀ message, input ≠ .message message) (other : outcome.state.role ≠ some .leader) :
    TabEffect.posts outcome.effects =
      if outcome.state.role = some .follower ∧ tab.role ≠ some .follower then
        (outcome.state.relay.post .sync now).toList else [] := by
  cases responds with
  | start elects => exact elects.posts_of_other other
  | news key elects => exact elects.posts_of_other other
  | deadline elects =>
    rw [inRole.polled_eq elects other]
    exact elects.posts_of_other other
  | signal connection signal =>
    rw [receiveSignal, inRole.subscribe_eq other now
      (fun resting => resting.receive_eq now connection signal),
      if_neg (fun begins => begins.2 begins.1)]
    rfl
  | message message => exact absurd rfl (unposted message)
  | close candidate released =>
    rw [if_neg]
    · exact TabEffect.posts_map_call _
    · intro begins
      rw [role, released] at begins
      cases begins.1

/-- All that a tab posts that does not lead afterwards are questions, apart from what it makes of
messages. -/
theorem InRole.questions_of_other (inRole : tab.InRole)
    (responds : Responds line now tab input outcome)
    (unposted : ∀ message, input ≠ .message message) (other : outcome.state.role ≠ some .leader) :
    ∀ message ∈ TabEffect.posts outcome.effects, message.notice = .sync := by
  intro message there
  rw [inRole.posts_of_other responds unposted other] at there
  split at there
  · unfold Relay.post at there
    split at there
    · rw [List.mem_singleton.mp there]
    · cases there
  · cases there

/-- A leader answers the question of another tab with the state of its connection. This puts a new
follower in step. -/
theorem receive_question (leads : tab.role = some .leader) (channel : tab.relay.hasChannel = true)
    (now : Instant) {message : Message} (question : message.notice = .sync)
    (foreign : message.sender ≠ tab.relay.sender) :
    tab.receiveMessage now message = tab.postEffects (.state tab.subscription.state) now := by
  unfold receiveMessage
  rw [Relay.receive, if_pos ⟨channel, foreign⟩, leads]
  dsimp only
  rw [question]

/-- A tab makes nothing of what it posted itself, although the channel brings it back. -/
theorem receive_own (now : Instant) {message : Message} (own : message.sender = tab.relay.sender) :
    tab.receiveMessage now message = [] := by
  unfold receiveMessage
  rw [Relay.receive, if_neg (fun foreign => foreign.2 own)]

/-- A follower shows what other tabs post, in the order in which it comes, and answers no
question. -/
theorem receive_following (follows : tab.role = some .follower)
    (channel : tab.relay.hasChannel = true) (now : Instant) {message : Message}
    (foreign : message.notice = .sync ∨ message.sender ≠ tab.relay.sender) :
    tab.receiveMessage now message = followNotice message.notice := by
  by_cases own : message.sender = tab.relay.sender
  · rw [receive_own now own, foreign.resolve_right (fun other => other own)]
    rfl
  · unfold receiveMessage
    rw [Relay.receive, if_pos ⟨channel, own⟩, follows]

/-- All that a tab posts about a message is the answer of a leader to the question of another
tab. -/
theorem posts_about_message (tab : Tab) (now : Instant) (message : Message) :
    TabEffect.posts (tab.receiveMessage now message) = [] ∨
      (tab.role = some .leader ∧ message.notice = .sync ∧ message.sender ≠ tab.relay.sender ∧
        TabEffect.posts (tab.receiveMessage now message) =
          [⟨.state tab.subscription.state, tab.relay.sender, now⟩]) := by
  cases tab.heeds_message now message with
  | ignores nothing =>
    rw [nothing]
    exact .inl rfl
  | answers leads channel foreign question answer =>
    rw [answer]
    exact .inr ⟨leads, question, foreign, posts_post_effects channel _ now⟩
  | follows follower shown =>
    rw [shown]
    left
    cases message.notice <;> rfl

/-- Only a leader posts something about a message, so no exchange goes on among followers. -/
theorem posts_receive_message (other : tab.role ≠ some .leader) (now : Instant)
    (message : Message) : TabEffect.posts (tab.receiveMessage now message) = [] :=
  (tab.posts_about_message now message).resolve_right fun answered => other answered.1

end Tab

end LiveTabs
