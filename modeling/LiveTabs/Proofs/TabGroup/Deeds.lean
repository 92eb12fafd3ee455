import LiveTabs.Proofs.RosterView
import LiveTabs.Proofs.Tab.Connection
import LiveTabs.TabGroup

/-!
# Runs of a group of tabs

What can happen to a group of tabs is one of a few deeds: a tab opens, crashes or takes something
up, the clock is set, the network changes for a tab, something happens to the store, posting begins
or ceases to fail, and messages are delivered, all that are on the queue or the first of them. A run
is any number of deeds.

A group is seen through the member that each name has. Messages change no tab (`receive_all_eq`):
each tab makes its reply, and what is posted goes to the end of the queue.
-/

namespace LiveTabs

/-- What can happen to a group of tabs. -/
inductive TabGroup.Deed where
  | setClock (now : Instant)
  | join (name tabId : String) (config : Config) (hasStorage hasChannel : Bool) (line : Line)
  | crash (name : String)
  | setLine (name : String) (line : Line)
  | disturb (event : SharedStore.Event)
  /-- From now on posting fails, or does not. -/
  | jam (broken : Bool)
  | act (name : String) (input : TabInput)
  /-- The first message on the queue reaches every tab. -/
  | deliverNext
  | deliver

namespace TabGroup

/-- The first message on the queue reaches every tab; what is posted goes to the end of the
queue. -/
def deliverNext (group : TabGroup) : Result :=
  match group.queue with
  | [] => ⟨group, []⟩
  | message :: rest => receiveAll message { group with queue := rest }

/-- A tab takes something up. -/
def actOn (name : String) : TabInput → TabGroup → Result
  | .start => init name
  | .close => shutdown name
  | .signal connection content => signal name (some connection) content
  | .news key => noticeChange name (some key)
  | .message message => receive name message
  | .deadline => poll name

/-- What a deed does. A tab that cannot be set up does not join. -/
def take : Deed → TabGroup → Result
  | .setClock now, group => ⟨group.setClock now, []⟩
  | .join name tabId config hasStorage hasChannel line, group =>
    match group.join name tabId config hasStorage hasChannel line with
    | .ok joined => ⟨joined, []⟩
    | .error _ => ⟨group, []⟩
  | .crash name, group => ⟨group.crash name, []⟩
  | .setLine name line, group => ⟨group.setLine name fun _ => line, []⟩
  | .disturb event, group => ⟨group.disturb event, []⟩
  | .jam broken, group => ⟨{ group with broken }, []⟩
  | .act name input, group => group.actOn name input
  | .deliverNext, group => group.deliverNext
  | .deliver, group => group.deliver

/-- What deeds do, one after the other. -/
def run : List Deed → TabGroup → Result
  | [], group => ⟨group, []⟩
  | deed :: rest, group => (group.take deed).andThen (run rest)

/-- A condition holds of the group before, between and after deeds. -/
def Throughout (holds : TabGroup → Prop) : List Deed → TabGroup → Prop
  | [], group => holds group
  | deed :: rest, group => holds group ∧ Throughout holds rest (group.take deed).state

/-- Whether a condition that can be decided holds throughout is decided along the run. -/
instance decidableThroughout (holds : TabGroup → Prop) [DecidablePred holds] :
    ∀ (deeds : List Deed) (group : TabGroup), Decidable (Throughout holds deeds group)
  | [], group => inferInstanceAs (Decidable (holds group))
  | deed :: rest, group =>
    have := decidableThroughout holds rest (group.take deed).state
    inferInstanceAs (Decidable (holds group ∧ Throughout holds rest (group.take deed).state))

/-- What holds throughout holds at once, before anything is done. -/
theorem Throughout.here {holds : TabGroup → Prop} {deeds : List Deed} {group : TabGroup}
    (throughout : Throughout holds deeds group) : holds group := by
  cases deeds with
  | nil => exact throughout
  | cons deed rest => exact throughout.1

/-- A group that comes about by any deeds from one without tabs. -/
def Reachable (group : TabGroup) : Prop :=
  ∃ start deeds, start.members = {} ∧ (run deeds start).state = group

/-- The tabs that lead. -/
def leaders (group : TabGroup) : List String :=
  group.members.those fun member => member.tab.candidate.isLeader

/-- The tabs that have a connection. -/
def connected (group : TabGroup) : List String :=
  group.members.those fun member => member.tab.subscription.connection.isSome

/-- What holds of every group: every name stands once, and every tab can come about. -/
structure Sound (group : TabGroup) : Prop where
  proper : group.members.IsProper
  reached : ∀ name member, group.members.get? name = some member →
    ∃ history, Tab.Reached history member.tab

variable {group : TabGroup} {name : String} {member : GroupMember}

/-- A tab that takes something up performs it. -/
theorem act_on_eq (name : String) (input : TabInput) (group : TabGroup) :
    group.actOn name input =
      act name (fun member now => member.tab.perform member.line now input) group := by
  cases input <;> rfl

/-- A name that is not in the group does nothing, so deeds may be about tabs that are gone. -/
theorem act_of_absent (operation : GroupMember → Instant → Access Tab.Result)
    (absent : group.members.get? name = none) : act name operation group = ⟨group, []⟩ := by
  unfold act
  rw [absent]

/-- What a tab does changes the store, its member and the queue, and no other member. -/
theorem act_of_present (operation : GroupMember → Instant → Access Tab.Result)
    (present : group.members.get? name = some member) :
    ∃ outcome store, Access.MayGive outcome (operation member group.now) ∧
      act name operation group =
        ⟨accept { group with store, members := group.members.update name fun member =>
            { member with tab := outcome.state } } outcome.effects,
          outcome.effects.map fun effect => (name, effect)⟩ := by
  let ended := Access.run (storageOf member) group.store (operation member group.now)
  refine ⟨ended.1, ended.2, Access.run_may_give _ _ _, ?_⟩
  unfold act
  rw [present]

/-- What is posted is put on the queue and nowhere else, and is lost where posting fails. -/
theorem accept_eq (group : TabGroup) (effects : List TabEffect) :
    group.accept effects = { group with
      queue := group.queue ++ if group.broken then [] else TabEffect.posts effects } := by
  unfold accept
  by_cases broken : group.broken = true
  · rw [if_pos broken, if_pos broken, List.append_nil]
  · rw [if_neg broken, if_neg broken]

/-- Posting nothing changes nothing. -/
theorem accept_nil (group : TabGroup) : group.accept [] = group := by
  rw [accept_eq]
  simp [TabEffect.posts]

/-- What is posted in turn is posted altogether, in the same order. -/
theorem accept_append (group : TabGroup) (first second : List TabEffect) :
    (group.accept first).accept second = group.accept (first ++ second) := by
  rw [accept_eq group first, accept_eq, accept_eq]
  by_cases broken : group.broken = true <;> simp [broken]

/-- What a tab does leaves every name where it was, and the new tab in its place. So a group is
followed member by member. -/
theorem act_members (operation : GroupMember → Instant → Access Tab.Result)
    (present : group.members.get? name = some member) :
    ∃ outcome, Access.MayGive outcome (operation member group.now) ∧
      (act name operation group).effects = outcome.effects.map (fun effect => (name, effect)) ∧
      (act name operation group).state.members =
        group.members.update name (fun member => { member with tab := outcome.state }) ∧
      (act name operation group).state.queue =
        group.queue ++ (if group.broken then [] else TabEffect.posts outcome.effects) ∧
      (act name operation group).state.broken = group.broken := by
  obtain ⟨outcome, store, gives, done⟩ := act_of_present operation present
  rw [done, accept_eq]
  exact ⟨outcome, gives, rfl, rfl, rfl, rfl⟩

/-- What the tab with a name makes of a message. -/
def reply (group : TabGroup) (message : Message) (name : String) : List TabEffect :=
  match group.members.get? name with
  | none => []
  | some member => member.tab.receiveMessage group.now message

/-- A message changes no tab: the tab replies, and what it posts goes to the end of the queue. -/
theorem receive_eq (proper : group.members.IsProper) (name : String) (message : Message) :
    receive name message group =
      ⟨group.accept (group.reply message name),
        (group.reply message name).map fun effect => (name, effect)⟩ := by
  unfold reply
  cases present : group.members.get? name with
  | none =>
    rw [receive, act_of_absent _ present, accept_nil]
    rfl
  | some member =>
    have same : group.members.update name (fun found => { found with tab := member.tab }) =
        group.members := Roster.update_same proper present rfl
    unfold receive act
    rw [present]
    show Outcome.mk (accept { group with members := group.members.update name _ } _) _ = _
    rw [same]

/-- A message that reaches every tab changes none: all of them reply, and what they post goes to the
end of the queue. -/
theorem receive_all_eq (proper : group.members.IsProper) (message : Message) :
    receiveAll message group =
      ⟨group.accept (group.members.names.flatMap (group.reply message)),
        group.members.names.flatMap fun name =>
          (group.reply message name).map fun effect => (name, effect)⟩ := by
  -- No reply changes a tab, so all of them are those of the group before.
  have inTurn :
      ∀ (names : List String) (posted : List TabEffect) (made : List (String × TabEffect)),
      names.foldl (fun result name => result.andThen (receive name message))
        (⟨group.accept posted, made⟩ : Result) =
      ⟨group.accept (posted ++ names.flatMap (group.reply message)),
        made ++ names.flatMap fun name =>
          (group.reply message name).map fun effect => (name, effect)⟩ := by
    intro names
    induction names with
    | nil =>
      intro posted made
      simp
    | cons name rest inductionHypothesis =>
      intro posted made
      have stillProper : (group.accept posted).members.IsProper := by
        rw [accept_eq]
        exact proper
      have same : (group.accept posted).reply message name = group.reply message name := by
        rw [accept_eq]
        rfl
      rw [List.foldl_cons, Outcome.andThen, receive_eq stillProper, same, accept_append,
        inductionHypothesis]
      simp
  have fromStart := inTurn group.members.names [] []
  rw [accept_nil] at fromStart
  simpa [receiveAll, forEach] using fromStart

/-- What holds when a delivery begins, and is kept by every message that is delivered, holds in the
end. It may speak of the messages that are still to be delivered. -/
theorem deliver_keeps (holds : List Message → Result → Prop)
    (begins : holds group.queue ⟨{ group with queue := [] }, []⟩)
    (kept : ∀ message rest result, holds (message :: rest) result →
      holds rest (result.andThen (receiveAll message))) : holds [] group.deliver := by
  have carried : ∀ messages result, holds messages result →
      holds [] (messages.foldl (fun result message => result.andThen (receiveAll message))
        result) := by
    intro messages
    induction messages with
    | nil => exact fun result held => held
    | cons message rest inductionHypothesis =>
      intro result held
      exact inductionHypothesis _ (kept message rest result held)
  exact carried group.queue _ begins

/-- A tab of a group made something of an input, and no other tab changed. -/
structure Acts (group : TabGroup) (name : String) (member : GroupMember) (input : TabInput)
    (outcome : Tab.Result) (result : Result) : Prop where
  inRole : member.tab.InRole
  responds : Tab.Responds member.line group.now member.tab input outcome
  effects : result.effects = outcome.effects.map fun effect => (name, effect)
  queue : result.state.queue =
    group.queue ++ if group.broken then [] else TabEffect.posts outcome.effects
  broken : result.state.broken = group.broken
  present : result.state.members.get? name = some { member with tab := outcome.state }
  others : ∀ other, other ≠ name → result.state.members.get? other = group.members.get? other

/-- A tab that takes something up makes something of it that it may make, so what is known of single
tabs applies within the group. -/
theorem Sound.acts (sound : group.Sound) (input : TabInput)
    (present : group.members.get? name = some member) :
    ∃ outcome, Acts group name member input outcome (group.actOn name input) := by
  obtain ⟨outcome, gives, effects, members, queue, broken⟩ := act_members
    (fun member now => member.tab.perform member.line now input) present
  rw [← act_on_eq] at effects members queue broken
  obtain ⟨history, reached⟩ := sound.reached name member present
  obtain ⟨inRole, -⟩ := reached.sound
  refine ⟨outcome, inRole, Tab.responds_of_perform gives, effects, queue, broken, ?_, ?_⟩
  · rw [members, Roster.get?_update, if_pos rfl, present]
    rfl
  · intro other different
    rw [members, Roster.get?_update, if_neg different]

/-- Whatever a tab takes up, the group stays sound: that tab by what it makes of it, and the others
because they stay. -/
theorem Sound.act_on (sound : group.Sound) (name : String) (input : TabInput) :
    (group.actOn name input).state.Sound := by
  rw [act_on_eq]
  cases present : group.members.get? name with
  | none =>
    rw [act_of_absent _ present]
    exact sound
  | some member =>
    obtain ⟨outcome, gives, -, members, -, -⟩ := act_members
      (fun member now => member.tab.perform member.line now input) present
    obtain ⟨history, reached⟩ := sound.reached name member present
    constructor
    · rw [members]
      exact sound.proper.update _ _
    · intro other there found
      rw [members, Roster.get?_update] at found
      by_cases same : other = name
      · subst same
        rw [if_pos rfl, present] at found
        cases found
        exact ⟨_, .next member.line group.now input reached gives⟩
      · rw [if_neg same] at found
        exact sound.reached other there found

/-- A message leaves the group sound, although every tab takes it up. -/
theorem Sound.receive_all (sound : group.Sound) (message : Message) :
    (receiveAll message group).state.Sound := by
  rw [receive_all_eq sound.proper, accept_eq]
  exact ⟨sound.proper, sound.reached⟩

/-- A tab that joins was set up, and changes nothing else. Its name may have been that of another
tab, which it replaces. -/
theorem eq_of_join {tabId : String} {config : Config} {hasStorage hasChannel : Bool} {line : Line}
    {joined : TabGroup}
    (joins : group.join name tabId config hasStorage hasChannel line = .ok joined) :
    ∃ tab, Tab.create tabId config hasChannel = .ok tab ∧
      joined = { group with members := group.members.enrol name { tab, hasStorage, line } } := by
  obtain ⟨tab, created, joins⟩ := Tab.exists_ok_of_bind joins
  cases joins
  exact ⟨tab, created, rfl⟩

/-- Every deed leaves the group sound, one kind of deed after the other. This is the step of the
invariant. -/
theorem Sound.take (sound : group.Sound) (deed : Deed) : (group.take deed).state.Sound := by
  obtain ⟨proper, reached⟩ := sound
  cases deed with
  | setClock now => exact ⟨proper, reached⟩
  | disturb event => exact ⟨proper, reached⟩
  | jam broken => exact ⟨proper, reached⟩
  | act name input => exact Sound.act_on ⟨proper, reached⟩ name input
  | join name tabId config hasStorage hasChannel line =>
    unfold TabGroup.take
    dsimp only
    split
    · rename_i joined joins
      obtain ⟨tab, created, rfl⟩ := eq_of_join joins
      refine ⟨proper.enrol name _, ?_⟩
      intro other member found
      rw [Roster.get?_enrol] at found
      by_cases same : other = name
      · rw [if_pos same] at found
        cases found
        exact ⟨[], .created created⟩
      · rw [if_neg same] at found
        exact reached other member found
    · exact ⟨proper, reached⟩
  | crash name =>
    refine ⟨proper.remove name, ?_⟩
    intro other member found
    have there : (group.members.remove name).get? other = some member := found
    rw [Roster.get?_remove] at there
    by_cases same : other = name
    · rw [if_pos same] at there
      cases there
    · rw [if_neg same] at there
      exact reached other member there
  | setLine name line =>
    refine ⟨proper.update name _, ?_⟩
    intro other member found
    have there : (group.members.update name fun member => { member with line }).get? other =
        some member := found
    rw [Roster.get?_update] at there
    by_cases same : other = name
    · rw [if_pos same] at there
      obtain ⟨before, present, rfl⟩ := Option.map_eq_some_iff.mp there
      exact reached other before present
    · rw [if_neg same] at there
      exact reached other member there
  | deliverNext =>
    show group.deliverNext.state.Sound
    unfold deliverNext
    split
    · exact ⟨proper, reached⟩
    · rename_i message rest queue
      have remaining : { group with queue := rest }.Sound := ⟨proper, reached⟩
      exact remaining.receive_all message
  | deliver =>
    exact deliver_keeps (fun _ result => result.state.Sound) ⟨proper, reached⟩
      (fun message _ _ sound => sound.receive_all message)

/-- Every run leaves the group sound.

Proof: by induction on the deeds. -/
theorem Sound.run (sound : group.Sound) (deeds : List Deed) : (group.run deeds).state.Sound := by
  induction deeds generalizing group with
  | nil => exact sound
  | cons deed rest inductionHypothesis => exact inductionHypothesis (sound.take deed)

/-- Every group that comes about is sound, so every member of it is a tab that comes about by
itself. -/
theorem Reachable.sound (reachable : group.Reachable) : group.Sound := by
  obtain ⟨start, deeds, empty, rfl⟩ := reachable
  refine Sound.run ⟨?_, ?_⟩ deeds
  · rw [empty]
    exact List.nodup_nil
  · intro name member found
    rw [empty] at found
    cases found

end TabGroup

end LiveTabs
