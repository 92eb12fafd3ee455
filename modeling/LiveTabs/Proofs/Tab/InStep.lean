import LiveTabs.Proofs.Tab.Relayed

/-!
# A follower in step with the leader

What a follower is going to have shown is what it has shown, and then what the messages on their way
make it show. `InStep` says how this stands to what the leader told: the news are the same, and the
last state is that of the leader's connection as soon as the last question is answered. It is kept
whatever the leader does, whatever other tabs ask, and when the first message arrives. Once nothing
is on its way, the follower has shown what the leader told.
-/

namespace LiveTabs

namespace Tab

/-- How a follower that asked stands to the leader: what the leader told since then, what the
follower has shown, and the messages on their way, first to last. -/
structure InStep (leader : Tab) (told seen : List TabNote) (pending : List Message) : Prop where
  /-- The news that the leader told are those that the follower has shown and is going to show. -/
  news : (TabNote.news told).map TabNote.relayed = TabNote.news (seen ++ Message.shown pending)
  /-- The last state is that of the leader's connection, unless there is a question to answer. -/
  state : (TabNote.states (seen ++ Message.shown pending)).getLast? =
      some leader.subscription.state ∨
    ∃ message ∈ pending, message.notice = .sync ∧ message.sender ≠ leader.relay.sender
  /-- All but the leader post nothing but questions. -/
  senders : ∀ message ∈ pending, message.notice = .sync ∨ message.sender = leader.relay.sender
  /-- No single event was shown. -/
  events : ∀ event, TabNote.event event ∉ seen

variable {leader : Tab} {outcome : Result} {told seen : List TabNote}
  {pending rest : List Message} {message : Message}

/-- A follower is in step when its question is all that is on its way: the answer will show it the
state of the leader. -/
theorem in_step_of_question (question : message.notice = .sync)
    (foreign : message.sender ≠ leader.relay.sender) : InStep leader [] [] [message] := by
  have silent : Message.shown [message] = [] := Message.shown_of_sync (by simpa using question)
  constructor
  · rw [silent]
    rfl
  · exact .inr ⟨message, List.mem_singleton_self message, question, foreign⟩
  · intro other there
    rw [List.mem_singleton.mp there]
    exact .inl question
  · intro event there
    cases there

/-- What the leader does keeps the follower in step, because what it tells its own user is posted as
well, apart from single events. -/
theorem InStep.leads (inStep : InStep leader told seen pending) (keeps : leader.KeepsUp outcome) :
    InStep outcome.state (told ++ TabEffect.notes outcome.effects) seen
      (pending ++ TabEffect.posts outcome.effects) := by
  obtain ⟨passesOn, lastState, relay⟩ := keeps
  constructor
  · rw [TabNote.news_append, List.map_append, inStep.news, passesOn.news, ← TabNote.news_append,
      List.append_assoc, ← Message.shown_append]
  · rw [Message.shown_append, ← List.append_assoc, TabNote.states_append _ (Message.shown _),
      ← passesOn.states, List.getLast?_append, ← lastState, relay]
    cases last : (TabNote.states (TabEffect.notes outcome.effects)).getLast? with
    | some state => exact .inl rfl
    | none =>
      obtain known | ⟨message, there, asks⟩ := inStep.state
      · left
        simpa using known
      · exact .inr ⟨message, List.mem_append_left _ there, asks⟩
  · rw [relay]
    intro message there
    obtain earlier | later := List.mem_append.mp there
    · exact inStep.senders message earlier
    · exact .inr (passesOn.own message later)
  · exact inStep.events

/-- Questions of other tabs keep the follower in step: they only make the leader repeat its
state. -/
theorem InStep.asked (inStep : InStep leader told seen pending) {more : List Message}
    (questions : ∀ message ∈ more, message.notice = .sync) :
    InStep leader told seen (pending ++ more) := by
  have silent : Message.shown (pending ++ more) = Message.shown pending := by
    rw [Message.shown_append, Message.shown_of_sync questions, List.append_nil]
  constructor
  · rw [silent]
    exact inStep.news
  · rw [silent]
    exact inStep.state.imp_right fun ⟨message, there, asks⟩ =>
      ⟨message, List.mem_append_left more there, asks⟩
  · intro message there
    obtain earlier | later := List.mem_append.mp there
    · exact inStep.senders message earlier
    · exact .inl (questions message later)
  · exact inStep.events

/-- A message that needs no answer keeps the follower in step when it is shown, as the next of those
on their way. -/
theorem InStep.shows (inStep : InStep leader told seen (message :: rest))
    (own : message.sender = leader.relay.sender) :
    InStep leader told (seen ++ TabEffect.notes (followNotice message.notice)) rest := by
  have moved : seen ++ Message.shown (message :: rest) =
      seen ++ TabEffect.notes (followNotice message.notice) ++ Message.shown rest := by
    rw [List.append_assoc]
    rfl
  constructor
  · rw [← moved]
    exact inStep.news
  · rw [← moved]
    refine inStep.state.imp_right ?_
    rintro ⟨question, there, asks, foreign⟩
    obtain rfl | later := List.mem_cons.mp there
    · exact absurd own foreign
    · exact ⟨question, later, asks, foreign⟩
  · intro other there
    exact inStep.senders other (List.mem_cons_of_mem message there)
  · intro event there
    obtain earlier | later := List.mem_append.mp there
    · exact inStep.events event earlier
    · cases notice : message.notice <;> simp [notice, followNotice, TabEffect.notes] at later

/-- A question that is answered keeps the follower in step, which has nothing to show for it. -/
theorem InStep.answers (inStep : InStep leader told seen (message :: rest))
    (question : message.notice = .sync) {answer : Message}
    (state : answer.notice = .state leader.subscription.state)
    (own : answer.sender = leader.relay.sender) : InStep leader told seen (rest ++ [answer]) := by
  have silent : Message.shown (message :: rest) = Message.shown rest := by
    rw [Message.shown, List.flatMap_cons, question]
    rfl
  have shown : seen ++ Message.shown (rest ++ [answer]) =
      seen ++ Message.shown rest ++ [.stateChanged leader.subscription.state] := by
    rw [Message.shown_append, List.append_assoc]
    congr 2
    rw [Message.shown, List.flatMap_singleton, state]
    rfl
  constructor
  · rw [shown, TabNote.news_append, inStep.news, silent]
    exact (List.append_nil _).symm
  · left
    rw [shown, TabNote.states_append]
    exact List.getLast?_concat
  · intro other there
    obtain earlier | last := List.mem_append.mp there
    · exact inStep.senders other (List.mem_cons_of_mem message earlier)
    · rw [List.mem_singleton.mp last]
      exact .inr own
  · exact inStep.events

/-- The first message keeps the follower in step when it arrives at the leader and at the follower.
The leader tells nothing about it. -/
theorem InStep.arrives (inStep : InStep leader told seen (message :: rest))
    (leads : leader.role = some .leader) (channel : leader.relay.hasChannel = true)
    (now : Instant) :
    InStep leader (told ++ TabEffect.notes (leader.receiveMessage now message))
      (seen ++ TabEffect.notes (followNotice message.notice))
      (rest ++ TabEffect.posts (leader.receiveMessage now message)) := by
  by_cases own : message.sender = leader.relay.sender
  · rw [receive_own now own]
    simpa [TabEffect.notes, TabEffect.posts] using inStep.shows own
  · have question := (inStep.senders message List.mem_cons_self).resolve_right own
    rw [receive_question leads channel now question own, notes_post_effects,
      posts_post_effects channel, List.append_nil, question]
    let answer : Message := ⟨.state leader.subscription.state, leader.relay.sender, now⟩
    have answered : InStep leader told seen (rest ++ [answer]) := inStep.answers question rfl rfl
    simpa [followNotice, TabEffect.notes] using answered

/-- Once nothing is on its way, the follower has shown what the leader told, apart from single
events. -/
theorem InStep.settled (inStep : InStep leader told seen []) :
    TabNote.news seen = (TabNote.news told).map TabNote.relayed ∧
      (∀ event, TabNote.event event ∉ seen) ∧
      (TabNote.states seen).getLast? = some leader.subscription.state := by
  have shown : seen ++ Message.shown [] = seen := List.append_nil seen
  refine ⟨?_, inStep.events, ?_⟩
  · rw [inStep.news, shown]
  · obtain known | ⟨message, there, -⟩ := inStep.state
    · rwa [shown] at known
    · cases there

end Tab

end LiveTabs
