import LiveTabs.Proofs.Tab.InStep
import LiveTabs.Proofs.TabGroup.Deeds

/-!
# Followers mirror the leader

While one tab leads alone and another one follows it, every message on the queue comes from the
leader or is a question, and reaches both tabs in the order in which it was posted. So the follower
stays in step with the leader (`Tab.InStep`), deed by deed, and has shown all that the leader told
whenever the queue is empty.
-/

namespace LiveTabs

namespace TabGroup

/-- A deed that brings a message to a tab past the queue. -/
def Deed.strays : Deed → Bool
  | .act _ (.message _) => true
  | _ => false

/-- What the user of one of several tabs was told. -/
def told (name : String) (made : List (String × TabEffect)) : List TabNote :=
  TabEffect.notes (TabEffect.ofTab name made)

/-- One tab leads, no other does, and another one follows. The two have different ids and a channel
on which nothing gets lost. -/
def Mirroring (leader follower : String) (group : TabGroup) : Prop :=
  group.broken = false ∧ group.leaders = [leader] ∧
    ∃ first ∈ group.members.get? leader, ∃ second ∈ group.members.get? follower,
      second.tab.role = some .follower ∧
      first.tab.relay.hasChannel = true ∧ second.tab.relay.hasChannel = true ∧
      first.tab.relay.sender ≠ second.tab.relay.sender

/-- Whether a tab follows another one is decided by looking at the two. -/
instance (leader follower : String) (group : TabGroup) :
    Decidable (Mirroring leader follower group) :=
  inferInstanceAs (Decidable (_ ∧ _ ∧ _))

/-- The follower is in step with the tab that leads now. -/
def Abreast (leader follower : String) (made : List (String × TabEffect)) (pending : List Message)
    (group : TabGroup) : Prop :=
  ∃ member, group.members.get? leader = some member ∧
    member.tab.InStep (told leader made) (told follower made) pending

variable {leader follower : String} {group after : TabGroup} {made : List (String × TabEffect)}

/-- What a user is told by effects that follow each other. -/
@[simp] theorem told_append (name : String) (first second : List (String × TabEffect)) :
    told name (first ++ second) = told name first ++ told name second := by
  simp [told]

/-- The tab that leads alone leads. -/
theorem leads_of_leaders (proper : group.members.IsProper) (alone : group.leaders = [leader])
    {member : GroupMember} (found : group.members.get? leader = some member) :
    member.tab.role = some .leader := by
  have listed : leader ∈ group.leaders := by
    rw [alone]
    exact List.mem_singleton_self leader
  obtain ⟨other, present, leads⟩ := Roster.has_of_mem_those proper listed
  rw [found] at present
  cases present
  exact member.tab.is_leader_iff.mp leads

/-- Where one tab leads alone, no other one leads, so no other one posts anything but questions. -/
theorem role_ne_of_leaders (alone : group.leaders = [leader]) {name : String}
    {member : GroupMember} (found : group.members.get? name = some member) (other : name ≠ leader) :
    member.tab.role ≠ some .leader := by
  intro leads
  have listed : name ∈ group.leaders :=
    Roster.mem_those found (member.tab.is_leader_iff.mpr leads)
  rw [alone] at listed
  exact other (List.mem_singleton.mp listed)

/-- What neither changes the leader nor posts nor does anything leaves the follower in step. -/
theorem Abreast.of_same (abreast : Abreast leader follower made group.queue group)
    (queue : after.queue = group.queue)
    (kept : ∀ member, group.members.get? leader = some member →
      ∃ now, after.members.get? leader = some now ∧ now.tab = member.tab) :
    Abreast leader follower (made ++ []) after.queue after := by
  obtain ⟨member, present, inStep⟩ := abreast
  obtain ⟨now, presentNow, same⟩ := kept member present
  refine ⟨now, presentNow, ?_⟩
  rw [same, queue, List.append_nil]
  exact inStep

/-- Whatever the leader takes up apart from messages, the follower stays in step: what the leader's
user is told is on its way to the follower. -/
theorem Abreast.leader_acts {member : GroupMember} {input : TabInput} {outcome : Tab.Result}
    {result : Result} (abreast : Abreast leader follower made group.queue group)
    (found : group.members.get? leader = some member)
    (acts : Acts group leader member input outcome result)
    (unposted : ∀ message, input ≠ .message message) (posting : group.broken = false)
    (channel : member.tab.relay.hasChannel = true) (leads : member.tab.role = some .leader)
    (stays : outcome.state.role = some .leader) (apart : leader ≠ follower) :
    Abreast leader follower (made ++ result.effects) result.state.queue result.state := by
  obtain ⟨same, present, inStep⟩ := abreast
  rw [found] at present
  cases present
  refine ⟨_, acts.present, ?_⟩
  have still := inStep.leads (acts.inRole.keeps_up acts.responds unposted channel leads stays)
  rw [acts.effects, acts.queue, posting]
  simpa [told, TabEffect.of_tab_own, TabEffect.of_tab_other apart] using still

/-- Whatever another tab takes up apart from messages, the follower stays in step, as that tab posts
no more than a question. -/
theorem Abreast.other_acts {name : String} {member : GroupMember} {input : TabInput}
    {outcome : Tab.Result} {result : Result}
    (abreast : Abreast leader follower made group.queue group)
    (acts : Acts group name member input outcome result)
    (unposted : ∀ message, input ≠ .message message) (posting : group.broken = false)
    (other : name ≠ leader) (unled : outcome.state.role ≠ some .leader)
    (follows : name = follower →
      member.tab.role = some .follower ∧ outcome.state.role = some .follower) :
    Abreast leader follower (made ++ result.effects) result.state.queue result.state := by
  obtain ⟨leading, present, inStep⟩ := abreast
  have silent : told leader result.effects = [] := by
    rw [acts.effects, told, TabEffect.of_tab_other other]
    rfl
  have unseen : told follower result.effects = [] := by
    rw [acts.effects]
    by_cases same : name = follower
    · obtain ⟨before, after⟩ := follows same
      rw [acts.inRole.quiet acts.responds unposted before after]
      rfl
    · rw [told, TabEffect.of_tab_other same]
      rfl
  refine ⟨leading, (acts.others leader (Ne.symm other)).trans present, ?_⟩
  rw [told_append, told_append, silent, unseen, List.append_nil, List.append_nil, acts.queue,
    posting]
  exact inStep.asked (acts.inRole.questions_of_other acts.responds unposted unled)

/-- Whatever a tab takes up apart from messages, the follower stays in step, be it the leader or
another one. -/
theorem Abreast.act_on (sound : group.Sound) (name : String) {input : TabInput}
    (unposted : ∀ message, input ≠ .message message) (here : Mirroring leader follower group)
    (later : Mirroring leader follower (group.actOn name input).state)
    (abreast : Abreast leader follower made group.queue group) :
    Abreast leader follower (made ++ (group.actOn name input).effects)
      (group.actOn name input).state.queue (group.actOn name input).state := by
  have soundLater := sound.act_on name input
  cases present : group.members.get? name with
  | none =>
    rw [act_on_eq, act_of_absent _ present]
    exact abreast.of_same rfl fun member found => ⟨member, found, rfl⟩
  | some member =>
    obtain ⟨outcome, acts⟩ := sound.acts input present
    obtain ⟨posting, alone, first, firstFound, second, secondFound, follows, channel, -, -⟩ := here
    obtain ⟨-, aloneLater, -, -, next, nextFound, followsOn, -, -, -⟩ := later
    by_cases acting : name = leader
    · subst acting
      rw [present] at firstFound
      cases firstFound
      have leads := leads_of_leaders sound.proper alone present
      refine abreast.leader_acts present acts unposted posting channel leads
        (leads_of_leaders soundLater.proper aloneLater acts.present) ?_
      rintro rfl
      rw [present] at secondFound
      cases secondFound
      rw [leads] at follows
      cases follows
    · refine abreast.other_acts acts unposted posting acting
        (role_ne_of_leaders aloneLater acts.present acting) ?_
      rintro rfl
      rw [present] at secondFound
      rw [acts.present] at nextFound
      cases secondFound
      cases nextFound
      exact ⟨follows, followsOn⟩

/-- What tabs are told by what several of them do. -/
theorem told_flat_map (name : String) (names : List String) (made : String → List TabEffect) :
    told name (names.flatMap fun other => (made other).map fun effect => (other, effect)) =
      names.flatMap fun other => if other = name then TabEffect.notes (made name) else [] := by
  induction names with
  | nil => rfl
  | cons first rest inductionHypothesis =>
    rw [List.flatMap_cons, List.flatMap_cons, told_append, inductionHypothesis]
    congr 1
    by_cases same : first = name
    · rw [if_pos same, same, told, TabEffect.of_tab_own]
    · rw [if_neg same, told, TabEffect.of_tab_other same]
      rfl

/-- What a user is told of a message is what the tab makes of it, whatever the others make of it. -/
theorem told_receive_all (proper : group.members.IsProper) {name : String} {member : GroupMember}
    (found : group.members.get? name = some member) (message : Message) :
    told name (receiveAll message group).effects =
      TabEffect.notes (member.tab.receiveMessage group.now message) := by
  have listed : name ∈ group.members.names := (group.members.mem_names_iff name).mpr ⟨member, found⟩
  rw [receive_all_eq proper, told_flat_map, Roster.flat_map_names proper listed, if_pos rfl, reply,
    found]
  intro other _ different
  exact if_neg different

/-- What the leader posts about a message is all that is posted about it, so its answers are the
only messages that a delivery adds. -/
theorem queue_receive_all (proper : group.members.IsProper) (alone : group.leaders = [leader])
    (posting : group.broken = false) {member : GroupMember}
    (found : group.members.get? leader = some member) (message : Message) :
    (receiveAll message group).state.queue =
      group.queue ++ TabEffect.posts (member.tab.receiveMessage group.now message) := by
  have listed : leader ∈ group.members.names :=
    (group.members.mem_names_iff leader).mpr ⟨member, found⟩
  have posted : TabEffect.posts (group.members.names.flatMap (group.reply message)) =
      group.members.names.flatMap fun name => TabEffect.posts (group.reply message name) :=
    List.filterMap_flatMap
  rw [receive_all_eq proper, accept_eq, posting]
  show group.queue ++ TabEffect.posts (group.members.names.flatMap (group.reply message)) = _
  rw [posted, Roster.flat_map_names proper listed, reply, found]
  intro other there different
  obtain ⟨another, present⟩ := (group.members.mem_names_iff other).mp there
  rw [reply, present]
  exact Tab.posts_receive_message (role_ne_of_leaders alone present different) group.now message

/-- A message that reaches every tab leaves the tabs and whether posting fails. Only the queue and
what users are told change. -/
theorem receive_all_same (proper : group.members.IsProper) (message : Message) :
    (receiveAll message group).state.members = group.members ∧
      (receiveAll message group).state.broken = group.broken := by
  rw [receive_all_eq proper, accept_eq]
  exact ⟨rfl, rfl⟩

/-- A message that reaches every tab leaves the one following the other. -/
theorem Mirroring.receive_all (here : Mirroring leader follower group)
    (proper : group.members.IsProper) (message : Message) :
    Mirroring leader follower (receiveAll message group).state := by
  obtain ⟨members, broken⟩ := receive_all_same proper message
  unfold Mirroring leaders at here ⊢
  rw [members, broken]
  exact here

/-- The first of the messages on their way reaches every tab, and the follower stays in step. -/
theorem Abreast.receive_all (sound : group.Sound) (here : Mirroring leader follower group)
    {message : Message} {remaining : List Message}
    (abreast : Abreast leader follower made (message :: remaining ++ group.queue) group) :
    Abreast leader follower (made ++ (receiveAll message group).effects)
      (remaining ++ (receiveAll message group).state.queue) (receiveAll message group).state := by
  obtain ⟨posting, alone, first, firstFound, second, secondFound, follows, channel, hears, apart⟩ :=
    here
  obtain ⟨same, present, inStep⟩ := abreast
  rw [firstFound] at present
  cases present
  have foreign : message.notice = .sync ∨ message.sender ≠ second.tab.relay.sender := by
    refine (inStep.senders message List.mem_cons_self).imp_right ?_
    intro own
    rw [own]
    exact apart
  refine ⟨first, ?_, ?_⟩
  · rw [(receive_all_same sound.proper message).1]
    exact firstFound
  · rw [told_append, told_append, told_receive_all sound.proper firstFound,
      told_receive_all sound.proper secondFound, Tab.receive_following follows hears _ foreign,
      queue_receive_all sound.proper alone posting firstFound, ← List.append_assoc]
    exact inStep.arrives (leads_of_leaders sound.proper alone firstFound) channel group.now

/-- All messages on the queue reach every tab, and the follower stays in step, because it does so
with each of them. -/
theorem Abreast.deliver (sound : group.Sound) (here : Mirroring leader follower group)
    (abreast : Abreast leader follower made group.queue group) :
    Abreast leader follower (made ++ group.deliver.effects) group.deliver.state.queue
      group.deliver.state := by
  -- What is posted meanwhile is on its way after what is still to be delivered.
  have last := @deliver_keeps group (fun messages result => result.state.Sound ∧
      Mirroring leader follower result.state ∧
      Abreast leader follower (made ++ result.effects) (messages ++ result.state.queue)
        result.state) ?_ ?_
  · exact last.2.2
  · refine ⟨⟨sound.proper, sound.reached⟩, here, ?_⟩
    rw [List.append_nil, List.append_nil]
    exact abreast
  · rintro message rest result ⟨sound, here, abreast⟩
    have next := abreast.receive_all sound here
    rw [List.append_assoc] at next
    exact ⟨sound.receive_all message, here.receive_all sound.proper message, next⟩

/-- The first message on the queue reaches every tab, and the follower stays in step. -/
theorem Abreast.deliver_next (sound : group.Sound) (here : Mirroring leader follower group)
    (abreast : Abreast leader follower made group.queue group) :
    Abreast leader follower (made ++ group.deliverNext.effects) group.deliverNext.state.queue
      group.deliverNext.state := by
  unfold deliverNext
  split
  · exact abreast.of_same rfl fun member found => ⟨member, found, rfl⟩
  · rename_i message rest queue
    rw [queue] at abreast
    have remaining : Sound { group with queue := rest } := ⟨sound.proper, sound.reached⟩
    exact @Abreast.receive_all leader follower { group with queue := rest } made remaining here
      message [] abreast

/-- Every deed keeps the follower in step that leaves the one tab leading and the other
following. -/
theorem Abreast.take (sound : group.Sound) {deed : Deed} (kept : deed.strays = false)
    (here : Mirroring leader follower group)
    (later : Mirroring leader follower (group.take deed).state)
    (abreast : Abreast leader follower made group.queue group) :
    Abreast leader follower (made ++ (group.take deed).effects) (group.take deed).state.queue
      (group.take deed).state := by
  obtain ⟨-, aloneLater, first, firstFound, -⟩ := id later
  have leadsLater := leads_of_leaders (sound.take deed).proper aloneLater firstFound
  cases deed with
  | setClock now => exact abreast.of_same rfl fun member found => ⟨member, found, rfl⟩
  | disturb event => exact abreast.of_same rfl fun member found => ⟨member, found, rfl⟩
  | jam broken => exact abreast.of_same rfl fun member found => ⟨member, found, rfl⟩
  | act name input =>
    refine abreast.act_on sound name ?_ here later
    rintro message rfl
    cases kept
  | deliverNext => exact abreast.deliver_next sound here
  | deliver => exact abreast.deliver sound here
  | crash name =>
    have stays : leader ≠ name := by
      rintro rfl
      have gone : (group.members.remove leader).get? leader = some first := firstFound
      rw [Roster.get?_remove, if_pos rfl] at gone
      cases gone
    refine abreast.of_same rfl fun member found => ⟨member, ?_, rfl⟩
    show (group.members.remove name).get? leader = some member
    rw [Roster.get?_remove, if_neg stays, found]
  | setLine name line =>
    refine abreast.of_same rfl fun member found => ?_
    show ∃ now, (group.members.update name fun member => { member with line }).get? leader =
      some now ∧ now.tab = member.tab
    rw [Roster.get?_update, found]
    by_cases same : leader = name
    · rw [if_pos same]
      exact ⟨_, rfl, rfl⟩
    · rw [if_neg same]
      exact ⟨_, rfl, rfl⟩
  | join name tabId config hasStorage hasChannel line =>
    unfold TabGroup.take at firstFound ⊢
    dsimp only at firstFound ⊢
    split at firstFound
    · rename_i joined joins
      obtain ⟨tab, created, rfl⟩ := eq_of_join joins
      have stays : leader ≠ name := by
        rintro rfl
        rw [Roster.get?_enrol, if_pos rfl] at firstFound
        cases firstFound
        obtain ⟨-, -, rfl⟩ := Tab.of_create created
        cases leadsLater
      refine abreast.of_same rfl fun member found => ⟨member, ?_, rfl⟩
      rw [Roster.get?_enrol, if_neg stays, found]
    · exact abreast.of_same rfl fun member found => ⟨member, found, rfl⟩

/-- A run that leaves the one tab leading and the other following at every moment keeps the follower
in step. -/
theorem Abreast.run {deeds : List Deed} (sound : group.Sound)
    (kept : ∀ deed ∈ deeds, deed.strays = false)
    (throughout : Throughout (Mirroring leader follower) deeds group)
    (abreast : Abreast leader follower made group.queue group) :
    Abreast leader follower (made ++ (group.run deeds).effects) (group.run deeds).state.queue
      (group.run deeds).state := by
  induction deeds generalizing group made with
  | nil => exact abreast.of_same rfl fun member found => ⟨member, found, rfl⟩
  | cons deed rest inductionHypothesis =>
    obtain ⟨here, onward⟩ := throughout
    have next := abreast.take sound (kept deed List.mem_cons_self) here onward.here
    have rest := inductionHypothesis (sound.take deed)
      (fun other there => kept other (List.mem_cons_of_mem deed there)) onward next
    rw [List.append_assoc] at rest
    exact rest

/-- A tab that begins to follow is in step: its question is all that is on its way. -/
theorem abreast_of_begins (sound : group.Sound) {input : TabInput} (idle : group.queue = [])
    (other : ∀ member, group.members.get? follower = some member →
      member.tab.role ≠ some .follower)
    (later : Mirroring leader follower (group.actOn follower input).state) :
    Abreast leader follower [] (group.actOn follower input).state.queue
      (group.actOn follower input).state := by
  obtain ⟨posting, alone, first, firstFound, second, secondFound, follows, -, channel, apart⟩ :=
    later
  cases present : group.members.get? follower with
  | none =>
    rw [act_on_eq, act_of_absent _ present] at secondFound
    rw [present] at secondFound
    cases secondFound
  | some member =>
    obtain ⟨outcome, acts⟩ := sound.acts input present
    rw [acts.present] at secondFound
    cases secondFound
    have begins := other member present
    have unposted : ∀ message, input ≠ .message message := by
      rintro message rfl
      cases acts.responds
      exact begins follows
    have unled : outcome.state.role ≠ some .leader := by
      rw [follows]
      exact nofun
    have posted := acts.inRole.posts_of_other acts.responds unposted unled
    rw [if_pos ⟨follows, begins⟩, Relay.post, if_pos channel] at posted
    rw [acts.broken] at posting
    have queue : (group.actOn follower input).state.queue =
        [⟨.sync, outcome.state.relay.sender, group.now⟩] := by
      rw [acts.queue, idle, posting, posted]
      rfl
    refine ⟨first, firstFound, ?_⟩
    rw [queue]
    exact Tab.in_step_of_question rfl (Ne.symm apart)

/-- Let one tab lead alone, and let another one begin to follow while no message is on the queue,
and go on following. Whatever else happens, whenever the queue is empty again, the follower's user
was told the same deletions, batches and warnings as the leader's since then, in the same order,
with spans of time cut to whole milliseconds; no single event; and as the last state that of the
leader's connection.

Proof: the question of the follower is the first message on the queue, so the follower is in step
(`Tab.InStep`), and every deed keeps it there. -/
theorem follower_mirrors_leader {leader follower : String} {before : TabGroup} {input : TabInput}
    {deeds : List Deed} (reachable : before.Reachable) (idle : before.queue = [])
    (other : ∀ member, before.members.get? follower = some member →
      member.tab.role ≠ some .follower)
    (kept : ∀ deed ∈ deeds, deed.strays = false)
    (throughout : Throughout (Mirroring leader follower) deeds (before.actOn follower input).state)
    (emptied : (run deeds (before.actOn follower input).state).state.queue = []) :
    let course := run deeds (before.actOn follower input).state
    TabNote.news (told follower course.effects) =
        (TabNote.news (told leader course.effects)).map TabNote.relayed ∧
      (∀ event, TabNote.event event ∉ told follower course.effects) ∧
      ∃ member, course.state.members.get? leader = some member ∧
        (TabNote.states (told follower course.effects)).getLast? =
          some member.tab.subscription.state := by
  have sound := reachable.sound
  have begun := abreast_of_begins sound idle other throughout.here
  have last := begun.run (sound.act_on follower input) kept throughout
  rw [emptied] at last
  obtain ⟨member, found, inStep⟩ := last
  obtain ⟨news, events, states⟩ := inStep.settled
  exact ⟨news, events, member, found, states⟩

/-- Two tabs of which the first leads; the other one is not started yet. -/
def oneLeader : List Deed :=
  [.join "a" "a" {} true true {}, .join "b" "b" {} true true {}, .act "a" .start, .deliver]

/-- The connection opens, tells of a deletion and fails, and the leader warns of that after a time
that is no whole number of milliseconds. Meanwhile a third tab begins to follow. -/
def deletionAndFailure : List Deed :=
  [.act "a" (.signal 1 .opened), .deliverNext,
    .act "a" (.signal 1 (.message "deleted"
      "\x7b\"issue\":\x7b\"id\":\"bd-1\",\"title\":\"\",\"status\":\"closed\"\x7d\x7d")),
    .join "c" "c" {} true true {}, .act "c" .start,
    .setClock (Instant.epoch.after (.ofMilliseconds 200)), .act "a" .deadline,
    .act "a" (.signal 1 (.failed "reset")), .deliver,
    .setClock (Instant.epoch.after ⟨10200500000⟩), .act "a" .deadline, .deliver]

/-- The other tab is told of the deletion, of the batch and of the failure as the first one is. -/
theorem failure_reaches_the_follower :
    let before := (run oneLeader {}).state
    let course := run deletionAndFailure (before.actOn "b" .start).state
    course.state.queue = [] ∧ (TabNote.news (told "a" course.effects)).length = 3 ∧
      TabNote.news (told "b" course.effects) =
        (TabNote.news (told "a" course.effects)).map TabNote.relayed ∧
      (TabNote.states (told "b" course.effects)).getLast? = some .connecting := by
  intro before course
  have reachable : before.Reachable := ⟨{}, oneLeader, rfl, rfl⟩
  have begins : before.queue.length = 0 ∧
      ∀ member ∈ before.members.get? "b", member.tab.role ≠ some .follower := by
    decide +kernel
  have throughout : Throughout (Mirroring "a" "b") deletionAndFailure
      (before.actOn "b" .start).state := by
    decide +kernel
  have ends : course.state.queue.length = 0 ∧
      (TabNote.news (told "a" course.effects)).length = 3 ∧
      ∀ member ∈ course.state.members.get? "a", member.tab.subscription.state = .connecting := by
    decide +kernel
  obtain ⟨emptied, several, connecting⟩ := ends
  have empty : course.state.queue = [] := List.eq_nil_of_length_eq_zero emptied
  obtain ⟨news, -, member, found, states⟩ := follower_mirrors_leader reachable
    (List.eq_nil_of_length_eq_zero begins.1) begins.2 (by decide) throughout empty
  rw [connecting member found] at states
  exact ⟨empty, several, news, states⟩

end TabGroup

end LiveTabs
