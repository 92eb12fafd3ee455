import LiveTabs.Proofs.Tab.Relayed
import LiveTabs.Proofs.TabGroup.Deeds
import Mathlib.Data.List.Forall2
import Mathlib.Data.List.Perm.Subperm

/-!
# Deliveries

A delivery takes all messages off the queue and brings each of them to every tab, in whatever order.
No tab changes by that, and the only message that a tab posts about another one is the answer of a
leader to a question. Answers are no questions. So a delivery posts at most one message for every
question and every leader that it reaches, and the delivery after it posts nothing.
-/

namespace LiveTabs

/-- Whether a notice is a question for the state of the connection. -/
def Notice.isSync : Notice → Bool
  | .sync => true
  | _ => false

namespace TabGroup

/-- Messages reach tabs, one after the other. -/
def hand : List (Message × String) → TabGroup → Result
  | [], group => ⟨group, []⟩
  | (message, name) :: rest, group => (receive name message group).andThen (hand rest)

/-- All messages on the queue, each with the name of every tab. -/
def handovers (group : TabGroup) : List (Message × String) :=
  group.queue.flatMap fun message => group.members.names.map fun name => (message, name)

/-- A delivery: the messages are taken off the queue, and each of them reaches every tab once, in
any order of messages and tabs. -/
def Delivers (group : TabGroup) (result : Result) : Prop :=
  ∃ order, order.Perm group.handovers ∧ result = hand order { group with queue := [] }

/-- Whether a message is a question and a tab leads to which it comes from another one. -/
def isAsked (group : TabGroup) (handover : Message × String) : Bool :=
  handover.1.notice.isSync && (group.members.get? handover.2).any fun member =>
    member.tab.candidate.isLeader && handover.1.sender != member.tab.relay.sender

/-- The questions on the queue, each with every leading tab apart from the one that asks. -/
def questions (group : TabGroup) : List (Message × String) := group.handovers.filter group.isAsked

/-- A message tells the state of the connection of the tab that was asked. -/
def IsAnswer (group : TabGroup) (question : Message × String) (answer : Message) : Prop :=
  ∃ member, group.members.get? question.2 = some member ∧
    answer = ⟨.state member.tab.subscription.state, member.tab.relay.sender, group.now⟩

/-- The messages that tabs posted. -/
def posted (effects : List (String × TabEffect)) : List Message :=
  TabEffect.posts (effects.map (·.2))

variable {group : TabGroup} {result : Result}

/-- Messages that reach tabs in two parts. -/
theorem hand_append (first second : List (Message × String)) (group : TabGroup) :
    hand (first ++ second) group = (hand first group).andThen (hand second) := by
  induction first generalizing group with
  | nil => rfl
  | cons handover rest inductionHypothesis =>
    have onward :
        hand (rest ++ second) = fun between => (hand rest between).andThen (hand second) :=
      funext inductionHypothesis
    rw [List.cons_append, hand, hand, onward, Outcome.andThen_assoc]

/-- Messages that reach tabs change none: each of them replies as the group is, and what is posted
goes to the end of the queue. -/
theorem hand_eq (proper : group.members.IsProper) (order : List (Message × String)) :
    hand order group =
      ⟨group.accept (order.flatMap fun handover => group.reply handover.1 handover.2),
        order.flatMap fun handover =>
          (group.reply handover.1 handover.2).map fun effect => (handover.2, effect)⟩ := by
  induction order generalizing group with
  | nil =>
    rw [List.flatMap_nil, List.flatMap_nil, accept_nil]
    rfl
  | cons handover rest inductionHypothesis =>
    obtain ⟨message, name⟩ := handover
    have stillProper : (group.accept (group.reply message name)).members.IsProper := by
      rw [accept_eq]
      exact proper
    have same : (group.accept (group.reply message name)).reply = group.reply := by
      rw [accept_eq]
      rfl
    rw [hand, receive_eq proper, Outcome.andThen, inductionHypothesis stillProper, accept_append,
      same]
    rfl

/-- A message reaches every tab if it reaches them one after the other, in the order in which they
joined. -/
theorem receive_all_eq_hand (proper : group.members.IsProper) (message : Message) :
    receiveAll message group =
      hand (group.members.names.map fun name => (message, name)) group := by
  rw [receive_all_eq proper, hand_eq proper, List.flatMap_map, List.flatMap_map]

/-- What reaches tabs leaves them, so who leads and who is asked does not change during a
delivery. -/
theorem members_hand (proper : group.members.IsProper) (order : List (Message × String)) :
    (hand order group).state.members = group.members := by
  rw [hand_eq proper, accept_eq]

/-- The messages of the queue, one after the other to every tab, are one way to deliver it. -/
theorem delivers_deliver (proper : group.members.IsProper) : group.Delivers group.deliver := by
  refine ⟨group.handovers, .rfl, ?_⟩
  -- What was handed over so far and what remains are all handovers.
  have last := @deliver_keeps group (fun remaining result =>
    ∃ handed, handed ++ handovers { group with queue := remaining } = group.handovers ∧
      result = hand handed { group with queue := [] }) ⟨[], rfl, rfl⟩ ?_
  · obtain ⟨handed, complete, ends⟩ := last
    rw [← complete, ends, handovers, List.flatMap_nil, List.append_nil]
  · rintro message rest result ⟨handed, complete, rfl⟩
    have same := @members_hand { group with queue := [] } proper handed
    have stillProper : (hand handed { group with queue := [] }).state.members.IsProper := by
      rw [same]
      exact proper
    refine ⟨handed ++ group.members.names.map fun name => (message, name), ?_, ?_⟩
    · rw [← complete, List.append_assoc]
      rfl
    · rw [hand_append, Outcome.andThen, Outcome.andThen, receive_all_eq_hand stillProper, same]

/-- A tab posts nothing about a message, or it was asked and answers. So answers are matched with
questions one to one. -/
theorem posts_reply (group : TabGroup) (message : Message) (name : String) :
    TabEffect.posts (group.reply message name) = [] ∨
      group.isAsked (message, name) = true ∧ ∃ answer, group.IsAnswer (message, name) answer ∧
        TabEffect.posts (group.reply message name) = [answer] := by
  unfold reply
  cases present : group.members.get? name with
  | none => exact .inl rfl
  | some member =>
    refine (member.tab.posts_about_message group.now message).imp_right ?_
    rintro ⟨leads, question, foreign, answers⟩
    refine ⟨?_, _, ⟨member, present, rfl⟩, answers⟩
    simp [isAsked, question, Notice.isSync, present, member.tab.is_leader_iff.mpr leads, foreign]

/-- What is posted about messages that reach tabs answers questions among them, each no more than
once. -/
theorem answers_of_replies (group : TabGroup) (order : List (Message × String)) :
    ∃ asked, asked.Sublist (order.filter group.isAsked) ∧
      List.Forall₂ group.IsAnswer asked
        (TabEffect.posts (order.flatMap fun handover => group.reply handover.1 handover.2)) := by
  induction order with
  | nil => exact ⟨[], .slnil, .nil⟩
  | cons handover rest inductionHypothesis =>
    obtain ⟨asked, among, answers⟩ := inductionHypothesis
    rw [List.flatMap_cons, TabEffect.posts_append]
    obtain silent | ⟨isAsked, answer, isAnswer, answered⟩ :=
      group.posts_reply handover.1 handover.2
    · rw [silent]
      exact ⟨asked, among.trans ((List.sublist_cons_self handover rest).filter _), answers⟩
    · rw [answered, List.filter_cons_of_pos isAsked]
      exact ⟨handover :: asked, among.cons_cons handover, .cons isAnswer answers⟩

/-- A delivery leaves the tabs as they are, and the queue with what is posted meanwhile: answers to
questions on the queue. -/
theorem Delivers.settles (delivers : group.Delivers result) (proper : group.members.IsProper) :
    (∃ asked, asked.Subperm group.questions ∧
      List.Forall₂ group.IsAnswer asked (posted result.effects)) ∧
    result.state = { group with queue := if group.broken then [] else posted result.effects } := by
  obtain ⟨order, complete, rfl⟩ := delivers
  have replies : posted (hand order { group with queue := [] }).effects =
      TabEffect.posts (order.flatMap fun handover => group.reply handover.1 handover.2) := by
    rw [@hand_eq { group with queue := [] } proper, posted, List.map_flatMap]
    simp [Function.comp_def, reply]
  rw [replies]
  constructor
  · obtain ⟨asked, among, answers⟩ := group.answers_of_replies order
    exact ⟨asked, among.subperm.trans (complete.filter group.isAsked).subperm, answers⟩
  · rw [@hand_eq { group with queue := [] } proper, accept_eq]
    rfl

/-- Answers are no questions, which is why a second delivery brings no more of them. -/
theorem is_sync_of_answers {asked : List (Message × String)} {answers : List Message}
    (answer : List.Forall₂ group.IsAnswer asked answers) :
    ∀ message ∈ answers, message.notice.isSync = false := by
  induction answer with
  | nil => simp
  | cons isAnswer rest inductionHypothesis =>
    obtain ⟨member, -, rfl⟩ := isAnswer
    exact List.forall_mem_cons.mpr ⟨rfl, inductionHypothesis⟩

/-- Where no question is on the queue, nobody is asked, and the delivery posts nothing. -/
theorem questions_of_answered (answered : ∀ message ∈ group.queue, message.notice.isSync = false) :
    group.questions = [] := by
  rw [questions, List.filter_eq_nil_iff]
  intro handover handed
  obtain ⟨message, queued, named⟩ := List.mem_flatMap.mp handed
  obtain ⟨name, -, rfl⟩ := List.mem_map.mp named
  simp [isAsked, answered message queued]

/-- However many tabs there are, each under its own name, in whatever states and as many of them
leading as may be, and whatever messages of whatever senders are on their queue: a delivery of the
whole queue, in any order, posts only answers that tell the state of a connection, at most one for a
question on the queue and a leading tab apart from the one that asks. They are all that is on the
queue then, if posting works. A delivery of this second queue, in any order, posts nothing and
leaves the queue empty. To bring every message to all tabs in turn is one of these orders.

Proof: messages change no tab, so a delivery posts what the tabs reply as they are at its beginning.
That is nothing or an answer, which is no question. -/
theorem two_deliveries_empty_the_queue (proper : group.members.IsProper) :
    (∀ first, group.Delivers first →
      (∃ asked, asked.Subperm group.questions ∧
        List.Forall₂ group.IsAnswer asked (posted first.effects)) ∧
      first.state.queue = (if group.broken then [] else posted first.effects) ∧
      ∀ second, first.state.Delivers second →
        posted second.effects = [] ∧ second.state.queue = []) ∧
    group.Delivers group.deliver := by
  refine ⟨?_, delivers_deliver proper⟩
  intro first delivers
  obtain ⟨⟨asked, among, answers⟩, ends⟩ := delivers.settles proper
  have queue : first.state.queue = if group.broken then [] else posted first.effects := by
    rw [ends]
  refine ⟨⟨asked, among, answers⟩, queue, ?_⟩
  intro second again
  have properStill : first.state.members.IsProper := by
    rw [ends]
    exact proper
  obtain ⟨⟨askedAgain, amongAgain, answersAgain⟩, endsAgain⟩ := again.settles properStill
  have nobody : first.state.questions = [] := by
    apply questions_of_answered
    rw [queue]
    split
    · simp
    · exact is_sync_of_answers answers
  have nothing : posted second.effects = [] := by
    rw [nobody] at amongAgain
    rw [List.subperm_nil.mp amongAgain] at answersAgain
    exact List.forall₂_nil_left_iff.mp answersAgain
  refine ⟨nothing, ?_⟩
  rw [endsAgain, nothing]
  exact ite_self []

/-- Two tabs lead, one of which has no storage, and a third one follows. -/
def twoLeaders : List Deed :=
  [.join "a" "a" {} false true {}, .join "b" "b" {} true true {}, .join "c" "c" {} true true {},
    .act "a" .start, .act "b" .start, .act "c" .start]

/-- Messages of the follower, of both leaders and of a stranger. Three of them are questions. -/
def backlog : List Message :=
  [⟨.sync, "c", .epoch⟩, ⟨.state .connected, "b", .epoch⟩, ⟨.sync, "a", .epoch⟩,
    ⟨.warning 10000, "x", .epoch⟩, ⟨.sync, "x", .epoch⟩]

/-- The leaders answer the follower and the stranger both, and the one that asks is answered by the
other, if the messages reach the tabs from the last to the first. Then nothing is left to say. -/
theorem five_answers_end_the_exchange :
    let group := { (run twoLeaders {}).state with queue := backlog }
    let first := hand group.handovers.reverse { group with queue := [] }
    (run twoLeaders {}).state.Reachable ∧ group.leaders = ["a", "b"] ∧
      group.questions.length = 5 ∧ (posted first.effects).length = 5 ∧
      first.state.queue = posted first.effects ∧ posted first.state.deliver.effects = [] ∧
      first.state.deliver.state.queue = [] := by
  intro group first
  have reachable : (run twoLeaders {}).state.Reachable := ⟨{}, twoLeaders, rfl, rfl⟩
  have proper : group.members.IsProper := reachable.sound.proper
  have delivers : group.Delivers first := ⟨_, List.reverse_perm _, rfl⟩
  have properStill : first.state.members.IsProper := by
    rw [@members_hand { group with queue := [] } proper]
    exact proper
  have course : group.leaders = ["a", "b"] ∧ group.questions.length = 5 ∧
      (posted first.effects).length = 5 ∧ group.broken = false := by
    decide +kernel
  obtain ⟨leaders, asked, answered, posting⟩ := course
  obtain ⟨-, queue, onward⟩ := (two_deliveries_empty_the_queue proper).1 first delivers
  obtain ⟨nothing, empty⟩ := onward _ (delivers_deliver properStill)
  rw [posting] at queue
  exact ⟨reachable, leaders, asked, answered, queue, nothing, empty⟩

end TabGroup

end LiveTabs
