import LiveTabs.Proofs.Storage.Faults
import LiveTabs.Proofs.Tab.Relayed
import Mathlib.Data.List.Chain

/-!
# The roles that a user is told

What a user is told of the role of a tab is the history of this role, from the setup of the tab or
from its last closing on. An operation that changes the role says so once and before it does
anything else, however often it looked at the lease on the way, and one that leaves the role says
nothing of it. So no role is told twice in a row, and the last one told is the present one. Closing
a tab takes its role without a word.
-/

namespace LiveTabs

namespace TabEffect

/-- The role that an effect tells of. -/
def role? : TabEffect → Option Role
  | .tell (.roleChanged role) => some role
  | _ => none

/-- The roles that the user is told, first to last. -/
def roles (effects : List TabEffect) : List Role := effects.filterMap role?

/-- The roles told by effects that follow each other are those of the first and then those of the
second. -/
@[simp] theorem roles_append (first second : List TabEffect) :
    roles (first ++ second) = roles first ++ roles second :=
  List.filterMap_append

end TabEffect

namespace Tab

/-- How an operation tells of the role, given the one before: not at all if the tab still has it,
and otherwise with the new role, once and before everything else that it does. -/
inductive TellsRole (before : Option Role) : Result → Prop
  | same {outcome : Result} : outcome.state.role = before →
    TabEffect.roles outcome.effects = [] → TellsRole before outcome
  | changed {outcome : Result} (role : Role) (rest : List TabEffect) :
    outcome.state.role = some role → before ≠ some role →
    outcome.effects = .tell (.roleChanged role) :: rest → TabEffect.roles rest = [] →
    TellsRole before outcome

/-- A tab since it was set up or last closed, with all that it did since: it took up any inputs
apart from the request to close, at any times, over any line, with any answers of the storage. -/
inductive Course : List TabEffect → Tab → Prop
  | created {tabId : String} {config : Config} {hasChannel : Bool} {tab : Tab} :
    Tab.create tabId config hasChannel = .ok tab → Course [] tab
  | closed {earlier : List TabEffect} {tab : Tab} {outcome : Result} (line : Line) (now : Instant) :
    Course earlier tab → Access.MayGive outcome (tab.perform line now .close) →
    Course [] outcome.state
  | next {history : List TabEffect} {tab : Tab} {outcome : Result} (line : Line) (now : Instant)
    (input : TabInput) : Course history tab → input ≠ .close →
    Access.MayGive outcome (tab.perform line now input) →
    Course (history ++ outcome.effects) outcome.state

variable {line : Line} {now : Instant} {tab : Tab} {input : TabInput} {outcome : Result}
  {before : Option Role}

/-- Posting tells of no role: what is posted is for other tabs. -/
@[simp] theorem roles_post_effects (tab : Tab) (notice : Notice) (now : Instant) :
    TabEffect.roles (tab.postEffects notice now) = [] := by
  rw [postEffects]
  cases tab.relay.post notice now <;> rfl

/-- What a tab makes of an effect of its subscription tells of no role, whether it is shown or made
a call. -/
theorem roles_forward (tab : Tab) (now : Instant) (effect : StreamEffect) :
    TabEffect.roles (tab.forward now effect) = [] := by
  cases effect with
  | call made => rfl
  | report content =>
    rw [forward]
    split
    · cases content with
      | event event => rfl
      | deleted event => exact roles_post_effects tab (.deleted event) now
      | batch batch => exact roles_post_effects tab (.update batch) now
      | stateChanged state => exact roles_post_effects tab (.state state) now
      | disconnectWarning lost => exact roles_post_effects tab (Relay.warning lost) now
    · rfl

/-- What the subscription does tells of no role, so only the part of an election that takes up a
role can. -/
theorem roles_subscribe (operation : Subscription → Subscription.Result) (now : Instant)
    (tab : Tab) : TabEffect.roles (tab.subscribe operation now).effects = [] := by
  rw [subscribe, TabEffect.roles, List.filterMap_flatMap, List.flatMap_eq_nil_iff]
  intro effect _
  exact roles_forward tab now effect

/-- Saying that one follows tells of no role: the leader is asked for the state, or the user is told
that this cannot be done. -/
theorem roles_announce_following (now : Instant) (tab : Tab) :
    TabEffect.roles (tab.announceFollowing now).effects = [] := by
  rw [announceFollowing]
  split
  · exact roles_post_effects tab .sync now
  split
  · rfl
  · rfl

/-- A message tells of no role, whoever it is from. -/
theorem roles_receive_message (tab : Tab) (now : Instant) (message : Message) :
    TabEffect.roles (tab.receiveMessage now message) = [] := by
  cases tab.heeds_message now message with
  | ignores nothing =>
    rw [nothing]
    rfl
  | answers leads channel foreign question answer => rw [answer, roles_post_effects]
  | follows follower shown =>
    rw [shown]
    cases message.notice <;> rfl

/-- What leaves the role and tells of none may follow, since a role is told of first. -/
theorem TellsRole.andThen (tells : TellsRole before outcome) {next : Tab → Result}
    (kept : (next outcome.state).state.role = outcome.state.role)
    (silent : TabEffect.roles (next outcome.state).effects = []) :
    TellsRole before (outcome.andThen next) := by
  cases tells with
  | same same untold =>
    refine .same (kept.trans same) ?_
    rw [Outcome.effects_andThen, TabEffect.roles_append, untold, silent]
    rfl
  | changed role rest taken new first untold =>
    refine .changed role (rest ++ (next outcome.state).effects) (kept.trans taken) new ?_ ?_
    · rw [Outcome.effects_andThen, first, List.cons_append]
    · rw [TabEffect.roles_append, untold, silent]
      rfl

/-- A tab that takes up a new role says so first, and only then does what the role demands. -/
theorem tells_of_take_role (line : Line) (now : Instant) {role : Role}
    (taken : tab.role = some role)
    (new : before ≠ some role) : TellsRole before (tab.takeRole line now role) := by
  have told : TellsRole before ⟨tab, [.tell (.roleChanged role)]⟩ :=
    .changed role [] taken new rfl rfl
  cases role with
  | leader => exact told.andThen rfl (roles_subscribe (Subscription.start line now) now tab)
  | follower =>
    have rests := told.andThen rfl (roles_subscribe rest now tab)
    obtain ⟨candidate, -, -⟩ := announce_following_same now (tab.subscribe rest now).state
    exact rests.andThen (congrArg Candidate.role candidate) (roles_announce_following now _)

/-- An election tells of the role exactly if it has changed, and does so before anything else. -/
theorem Elects.tells (elects : Elects line now tab outcome) : TellsRole tab.role outcome := by
  cases elects with
  | stays candidate same => exact .same same rfl
  | changes candidate role taken new => exact tells_of_take_role line now taken new

/-- Whatever a tab takes up apart from the request to close, it tells of its role as an election
does. -/
theorem Responds.tells (responds : Responds line now tab input outcome)
    (unclosed : input ≠ .close) :
    TellsRole tab.role outcome := by
  cases responds with
  | start elects => exact elects.tells
  | news key elects => exact elects.tells
  | deadline elects =>
    exact elects.tells.andThen rfl (roles_subscribe (Subscription.poll line now) now _)
  | signal connection signal => exact .same rfl (roles_subscribe _ now tab)
  | message message => exact .same rfl (roles_receive_message tab now message)
  | close candidate released => exact absurd rfl unclosed

/-- Whatever the storage answers, an operation tells of the role unless it closes the tab. -/
theorem tells_of_perform (unclosed : input ≠ .close)
    (gives : Access.MayGive outcome (tab.perform line now input)) : TellsRole tab.role outcome :=
  (responds_of_perform gives).tells unclosed

/-- The last role told is the present one, and no two neighbours among the roles told are the
same. -/
theorem Course.told {history : List TabEffect} (course : Course history tab) :
    (TabEffect.roles history).getLast? = tab.role ∧ (TabEffect.roles history).IsChain (· ≠ ·) := by
  induction course with
  | created created =>
    obtain ⟨-, -, rfl⟩ := of_create created
    exact ⟨rfl, .nil⟩
  | closed line now course gives =>
    cases responds_of_perform gives with
    | close candidate released => exact ⟨released.symm, .nil⟩
  | next line now input course unclosed gives inductionHypothesis =>
    obtain ⟨last, apart⟩ := inductionHypothesis
    rw [TabEffect.roles_append]
    cases tells_of_perform unclosed gives with
    | same same untold =>
      rw [untold, List.append_nil, same]
      exact ⟨last, apart⟩
    | changed role rest taken new first untold =>
      have told : TabEffect.roles (.tell (.roleChanged role) :: rest) = [role] :=
        congrArg (role :: ·) untold
      rw [first, told, List.getLast?_concat, taken]
      refine ⟨rfl, apart.append (.singleton role) ?_⟩
      -- The neighbour of the role that is told now is the one told last, which the tab had so far.
      intro earlier lastTold later only same
      cases only
      rw [last, same] at lastTold
      exact new lastTold

/-- From the setup of a tab or from its last closing on, and as long as it is not closed, whatever
it takes up at whatever times and whatever the storage answers: each operation tells of the role if
and only if it leaves the tab with another one than before; it then tells of that role, once, and
before anything else that it does. Of all roles told so far, the last is the present one, and no two
neighbours are the same.

Proof: every response tells of the role as it should, by what it may be. The rest is by induction on
the course. A role is only told that differs from the one before, which was the last one told. -/
theorem told_roles_are_the_history {history : List TabEffect} (course : Course history tab) :
    (TabEffect.roles history).getLast? = tab.role ∧ (TabEffect.roles history).IsChain (· ≠ ·) ∧
      ∀ (line : Line) (now : Instant) (input : TabInput) (outcome : Result), input ≠ .close →
        Access.MayGive outcome (tab.perform line now input) → TellsRole tab.role outcome := by
  obtain ⟨last, apart⟩ := course.told
  refine ⟨last, apart, ?_⟩
  intro line now input outcome unclosed gives
  exact tells_of_perform unclosed gives

/-- A store in which another tab has just taken the lease. -/
def takenOver : SharedStore :=
  let lease : Lease := ⟨"b", .sinceEpoch 9000⟩
  ({} : SharedStore).apply (.put "tabsync:leader" lease.render)

/-- A leader whose lease was taken by another tab looks at it twice in one poll, since both of its
deadlines have passed. If it finds the other's lease both times, its user is told once that it
follows. If the storage fails before the second look, it still leads in the end, without a renewal,
and nothing is told. -/
theorem two_looks_tell_the_net_change :
    ∃ history tab lost kept, Course history tab ∧ TabEffect.roles history = [.leader] ∧
      Instant.isDue tab.candidate.renewAt (.sinceEpoch 9000) = true ∧
      Instant.isDue tab.candidate.checkAt (.sinceEpoch 9000) = true ∧
      Access.MayGive lost (tab.perform {} (.sinceEpoch 9000) .deadline) ∧
      TellsRole tab.role lost ∧ TabEffect.roles lost.effects = [.follower] ∧
      Access.MayGive kept (tab.perform {} (.sinceEpoch 9000) .deadline) ∧
      TellsRole tab.role kept ∧ TabEffect.roles kept.effects = [] ∧
      kept.state.role = some .leader ∧ kept.state.candidate.renewAt = none := by
  let fresh : Tab := { candidate := { tabId := "a", config := {} }, subscription := .create {}
                       relay := { sender := "a", hasChannel := true } }
  have created : Tab.create "a" {} true = .ok fresh := rfl
  -- The tab is started and closed once before, so that this course does not begin with its setup.
  let first := (Access.run SharedStore.storage {} (fresh.perform {} .epoch .start)).1
  let closed := (Access.run SharedStore.storage {} (first.state.perform {} .epoch .close)).1
  -- Only a name from here on, so that what the tab may do next is not computed to state it.
  obtain ⟨again, isAgain⟩ : ∃ again, again =
      (Access.run SharedStore.storage {} (closed.state.perform {} .epoch .start)).1 := ⟨_, rfl⟩
  have starts : Access.MayGive first (fresh.perform {} .epoch .start) := Access.run_may_give _ _ _
  have closes : Access.MayGive closed (first.state.perform {} .epoch .close) :=
    Access.run_may_give _ _ _
  have restarts : Access.MayGive again (closed.state.perform {} .epoch .start) := by
    rw [isAgain]
    exact Access.run_may_give _ _ _
  have before : Course [] closed.state :=
    .closed {} .epoch (.next {} .epoch .start (.created created) nofun starts) closes
  have course : Course ([] ++ again.effects) again.state :=
    .next {} .epoch .start before nofun restarts
  let lost := (Access.run SharedStore.storage takenOver
    (again.state.perform {} (.sinceEpoch 9000) .deadline)).1
  let kept := (Access.runFaulty SharedStore.storage [none, none, none, some .unavailable] takenOver
    (again.state.perform {} (.sinceEpoch 9000) .deadline)).1
  have loses : Access.MayGive lost (again.state.perform {} (.sinceEpoch 9000) .deadline) :=
    Access.run_may_give _ _ _
  have keeps : Access.MayGive kept (again.state.perform {} (.sinceEpoch 9000) .deadline) :=
    Access.run_faulty_may_give _ _ _ _
  obtain ⟨-, -, tells⟩ := told_roles_are_the_history course
  have looks : TabEffect.roles ([] ++ again.effects) = [.leader] ∧
      Instant.isDue again.state.candidate.renewAt (.sinceEpoch 9000) = true ∧
      Instant.isDue again.state.candidate.checkAt (.sinceEpoch 9000) = true ∧
      TabEffect.roles lost.effects = [.follower] ∧ TabEffect.roles kept.effects = [] ∧
      kept.state.role = some .leader ∧ kept.state.candidate.renewAt = none := by
    subst isAgain
    decide +kernel
  obtain ⟨leads, renewalDue, checkDue, follows, silent, still, unarmed⟩ := looks
  exact ⟨_, _, lost, kept, course, leads, renewalDue, checkDue,
    loses, tells {} _ .deadline lost nofun loses, follows,
    keeps, tells {} _ .deadline kept nofun keeps, silent, still, unarmed⟩

end Tab

end LiveTabs
