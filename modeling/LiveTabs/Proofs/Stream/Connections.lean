import LiveTabs.Proofs.Stream.Moves

/-!
# The connections of a subscription

Connections are opened one at a time and under growing numbers, and each is hung up once, before the
next is dialled; the present connection is the one that is open (`InTurn`). This is shown call by
call: a dial finds nothing open, and what is hung up is the open connection. So a signal of a
connection that was hung up never is a signal of the present one, and a run into which such signals
are put comes to the same as without them.
-/

namespace LiveTabs

namespace NetworkCall

/-- The number of the connection that a call is about. -/
def number : NetworkCall → Nat
  | .dial connection _ _ => connection
  | .hangUp connection => connection

/-- The numbers that are dialled. -/
def dialled (calls : List NetworkCall) : List Nat :=
  calls.filterMap fun call => match call with
    | .dial connection _ _ => some connection
    | .hangUp _ => none

/-- The numbers of the connections that are opened: those that are dialled and taken up. -/
def opened (calls : List NetworkCall) : List Nat :=
  calls.filterMap fun call => match call with
    | .dial connection _ accepted => if accepted then some connection else none
    | .hangUp _ => none

/-- The numbers of the connections that are hung up. -/
def hungUp (calls : List NetworkCall) : List Nat :=
  calls.filterMap fun call => match call with
    | .dial _ _ _ => none
    | .hangUp connection => some connection

/-- The numbers of the connections that are opened and not hung up. -/
def unclosed (calls : List NetworkCall) : List Nat :=
  (opened calls).filter fun connection => !(hungUp calls).contains connection

/-- Calls that open one connection at a time, with the connection that is open in the end. -/
structure InTurn (calls : List NetworkCall) (present : Option Nat) : Prop where
  /-- Every connection has a greater number than all before it. -/
  increasing : (dialled calls).Pairwise (· < ·)
  /-- At no time are two connections open. -/
  single : ∀ earlier, earlier <+: calls → (unclosed earlier).length ≤ 1
  /-- What is hung up is the open connection. -/
  closesOpen : ∀ earlier connection, earlier ++ [.hangUp connection] <+: calls →
    unclosed earlier = [connection]
  /-- When a connection is dialled, all before it were hung up, each of them once. -/
  closedBefore : ∀ earlier number url accepted,
    earlier ++ [.dial number url accepted] <+: calls →
      ∀ connection ∈ opened earlier, (hungUp earlier).count connection = 1
  /-- In the end all other connections than the present one were hung up, each of them once. -/
  closedOnce : ∀ connection ∈ opened calls, present ≠ some connection →
    (hungUp calls).count connection = 1
  /-- The present connection is the one that is open. -/
  present : unclosed calls = present.toList

variable {calls : List NetworkCall} {present : Option Nat}

/-- The number of a connection that is dialled or hung up is that of a call. So a number greater
than those of all calls is a new one. -/
theorem exists_call_of_mem {connection : Nat}
    (there : connection ∈ dialled calls ∨ connection ∈ opened calls ∨ connection ∈ hungUp calls) :
    ∃ call ∈ calls, call.number = connection := by
  obtain there | there | there := there <;>
    obtain ⟨call, made, found⟩ := List.mem_filterMap.mp there <;>
      cases call <;> simp at found <;> exact ⟨_, made, by simp [number, found]⟩

/-- A connection that was hung up is not open, hence it is not the present one. -/
theorem not_mem_unclosed {connection : Nat} (closed : .hangUp connection ∈ calls) :
    connection ∉ unclosed calls := by
  intro unclosed
  have there : connection ∈ hungUp calls := List.mem_filterMap.mpr ⟨_, closed, rfl⟩
  have kept := (List.mem_filter.mp unclosed).2
  simp [there] at kept

/-- The calls before the last one of a list that ends with a call. What is claimed of every call is
kept by a further one if it holds for that one. -/
theorem prefix_concat {earlier : List NetworkCall} {call last : NetworkCall}
    (before : earlier ++ [call] <+: calls ++ [last]) :
    (earlier = calls ∧ call = last) ∨ earlier ++ [call] <+: calls := by
  obtain whole | within := List.prefix_concat_iff.mp before
  · exact .inl ⟨(List.append_inj' whole rfl).1, by simpa using (List.append_inj' whole rfl).2⟩
  · exact .inr within

/-- No calls are in turn, and nothing is open, which is where a new subscription begins. -/
theorem in_turn_nil : InTurn [] none := by
  refine ⟨List.Pairwise.nil, ?_, ?_, ?_, nofun, rfl⟩
  · intro earlier before
    rw [List.prefix_nil.mp before]
    exact Nat.zero_le 1
  · intro earlier connection before
    simp at before
  · intro earlier number url accepted before
    simp at before

/-- Where nothing is open, a connection with a new number may be dialled. Afterwards it is the open
one if it was taken up. -/
theorem InTurn.dial (turn : InTurn calls none) {number : Nat} (url : String) (accepted : Bool)
    (new : ∀ call ∈ calls, call.number < number) :
    InTurn (calls ++ [.dial number url accepted]) (if accepted then some number else none) := by
  have dials : dialled (calls ++ [.dial number url accepted]) = dialled calls ++ [number] := by
    simp [dialled]
  have opens : opened (calls ++ [.dial number url accepted]) =
      opened calls ++ if accepted then [number] else [] := by
    cases accepted <;> simp [opened]
  have closes : hungUp (calls ++ [.dial number url accepted]) = hungUp calls := by simp [hungUp]
  have unused : number ∉ hungUp calls := by
    intro used
    obtain ⟨call, made, same⟩ := exists_call_of_mem (.inr (.inr used))
    have below := new call made
    omega
  have nothing := turn.present
  have remains : unclosed (calls ++ [.dial number url accepted]) =
      (if accepted then some number else none : Option Nat).toList := by
    unfold unclosed at nothing ⊢
    rw [opens, closes, List.filter_append, nothing]
    cases accepted <;> simp [unused]
  refine ⟨?_, ?_, ?_, ?_, ?_, remains⟩
  · rw [dials, List.pairwise_append]
    refine ⟨turn.increasing, List.pairwise_singleton _ _, ?_⟩
    intro earlier before later last
    rw [List.mem_singleton.mp last]
    obtain ⟨call, made, same⟩ := exists_call_of_mem (.inl before)
    exact same ▸ new call made
  · intro earlier before
    obtain rfl | within := List.prefix_concat_iff.mp before
    · rw [remains]
      cases accepted <;> simp
    · exact turn.single earlier within
  · intro earlier connection before
    obtain ⟨-, different⟩ | within := prefix_concat before
    · cases different
    · exact turn.closesOpen earlier connection within
  · intro earlier later address taken before
    obtain ⟨rfl, -⟩ | within := prefix_concat before
    · exact fun connection there => turn.closedOnce connection there nofun
    · exact turn.closedBefore earlier later address taken within
  · intro connection there absent
    rw [opens] at there
    rw [closes]
    obtain before | last := List.mem_append.mp there
    · exact turn.closedOnce connection before nofun
    · cases accepted <;> simp_all

/-- The open connection may be hung up, and nothing is open afterwards. -/
theorem InTurn.hangUp {connection : Nat} (turn : InTurn calls (some connection)) :
    InTurn (calls ++ [.hangUp connection]) none := by
  have dials : dialled (calls ++ [.hangUp connection]) = dialled calls := by simp [dialled]
  have opens : opened (calls ++ [.hangUp connection]) = opened calls := by simp [opened]
  have closes : hungUp (calls ++ [.hangUp connection]) = hungUp calls ++ [connection] := by
    simp [hungUp]
  have only := turn.present
  have before : connection ∉ hungUp calls := by
    have listed : connection ∈ unclosed calls := by simp [only]
    simpa using (List.mem_filter.mp listed).2
  have remains : unclosed (calls ++ [.hangUp connection]) = [] := by
    have rest : unclosed (calls ++ [.hangUp connection]) =
        (unclosed calls).filter fun other => !decide (other = connection) := by
      unfold unclosed
      rw [opens, closes, List.filter_filter]
      refine List.filter_congr ?_
      intro other _
      rw [List.contains_append, Bool.not_or, Bool.and_comm]
      simp
    rw [rest, only]
    simp
  refine ⟨?_, ?_, ?_, ?_, ?_, remains⟩
  · rw [dials]
    exact turn.increasing
  · intro earlier there
    obtain rfl | within := List.prefix_concat_iff.mp there
    · simp [remains]
    · exact turn.single earlier within
  · intro earlier other there
    obtain ⟨rfl, same⟩ | within := prefix_concat there
    · cases same
      exact only
    · exact turn.closesOpen earlier other within
  · intro earlier number url accepted there
    obtain ⟨-, different⟩ | within := prefix_concat there
    · cases different
    · exact turn.closedBefore earlier number url accepted within
  · intro other there _
    rw [opens] at there
    rw [closes, List.count_append]
    by_cases same : connection = other
    · subst same
      simp [List.count_eq_zero.mpr before]
    · have once := turn.closedOnce other there (by simpa using same)
      simp [once, same]

end NetworkCall

namespace Subscription

open NetworkCall (InTurn)

/-- The calls that a subscription has made are in turn, and under lower numbers than are left. -/
structure Orderly (calls : List NetworkCall) (subscription : Subscription) : Prop where
  inTurn : InTurn calls subscription.connection
  numbered : ∀ call ∈ calls, call.number < subscription.nextConnection

variable {calls : List NetworkCall} {before after : Subscription} {config : StreamConfig}

/-- Dialling keeps the order, because nothing is present before it and the next number is greater
than all that were used. -/
theorem Orderly.dial (orderly : Orderly calls before) (disconnected : before.connection = none)
    (url : String) (accepted : Bool)
    (connection : after.connection = if accepted then some before.nextConnection else none)
    (next : after.nextConnection = before.nextConnection + 1) :
    Orderly (calls ++ [.dial before.nextConnection url accepted]) after := by
  obtain ⟨inTurn, numbered⟩ := orderly
  constructor
  · rw [connection]
    exact (disconnected ▸ inTurn).dial url accepted numbered
  · intro call there
    rw [next]
    obtain earlier | last := List.mem_append.mp there
    · exact Nat.lt_succ_of_lt (numbered call earlier)
    · rw [List.mem_singleton.mp last]
      exact Nat.lt_succ_self _

/-- Hanging up the present connection keeps the order, because the present connection is the open
one. -/
theorem Orderly.hangUp (orderly : Orderly calls before) {present : Nat}
    (connection : before.connection = some present) (disconnected : after.connection = none)
    (next : after.nextConnection = before.nextConnection) :
    Orderly (calls ++ [.hangUp present]) after := by
  obtain ⟨inTurn, numbered⟩ := orderly
  rw [connection] at inTurn
  constructor
  · rw [disconnected]
    exact inTurn.hangUp
  · intro call there
    rw [next]
    obtain earlier | last := List.mem_append.mp there
    · exact numbered call earlier
    · rw [List.mem_singleton.mp last]
      have opened : present ∈ NetworkCall.opened calls := by
        have unclosed : present ∈ NetworkCall.unclosed calls := by simp [inTurn.present]
        exact (List.mem_filter.mp unclosed).1
      obtain ⟨made, there, same⟩ := NetworkCall.exists_call_of_mem (.inr (.inl opened))
      exact same ▸ numbered made there

/-- Every move keeps the order: most of them make no call, and the others dial or hang up as
above. -/
theorem Orderly.move {effects : List StreamEffect} (coherent : before.Coherent)
    (orderly : Orderly calls before) (move : Move before effects after) :
    Orderly (calls ++ StreamEffect.calls effects) after := by
  -- A move without a call leaves the connection and the numbers as they are.
  have quiet : StreamEffect.calls effects = [] → after.connection = before.connection →
      after.nextConnection = before.nextConnection →
      Orderly (calls ++ StreamEffect.calls effects) after := by
    intro silent connection next
    rw [silent, List.append_nil]
    exact ⟨connection ▸ orderly.inTurn, next ▸ orderly.numbered⟩
  cases move with
  | dial ready => exact orderly.dial (coherent.disconnected ready) _ true rfl rfl
  | beRefused now ready =>
    exact orderly.dial (coherent.disconnected ready) _ false (by simp [lose_eq])
      (by simp [lose_eq, redial])
  | fail now connection present =>
    exact orderly.hangUp present (by simp [lose_eq]) (by simp [lose_eq])
  | stop running supported =>
    obtain nothing | ⟨present, connection⟩ := Option.eq_none_or_eq_some before.connection
    · exact quiet (by simp [nothing]) nothing.symm rfl
    · rw [connection]
      exact orderly.hangUp connection rfl rfl
  | takeIn now event connected =>
    exact quiet (by cases kind : event.kind <;> simp [eventReports, kind]) rfl rfl
  | wake | giveUp | openUp | stayOpen | hear | report | warn => exact quiet rfl rfl rfl

/-- Any moves keep the order, one after the other, hence so does every operation. -/
theorem Orderly.moves {effects : List StreamEffect} (coherent : before.Coherent)
    (orderly : Orderly calls before) (moves : Moves before effects after) :
    Orderly (calls ++ StreamEffect.calls effects) after := by
  refine moves.keep (fun made => Orderly (calls ++ StreamEffect.calls made)) coherent ?_ ?_
  · rwa [StreamEffect.calls_nil, List.append_nil]
  · intro history effects before after coherent orderly move
    rw [StreamEffect.calls_append, ← List.append_assoc]
    exact orderly.move coherent move

/-- A subscription that was just created has made no calls, so they are in turn. -/
theorem create_orderly (config : StreamConfig) : Orderly [] (create config) :=
  ⟨NetworkCall.in_turn_nil, nofun⟩

/-- The calls of every run are in turn, and the subscription holds the connection that they leave
open. -/
theorem run_orderly (config : StreamConfig) (inputs : List StreamInput) :
    Orderly (StreamEffect.calls ((create config).run inputs).effects)
      ((create config).run inputs).state :=
  (create_orderly config).moves (create_coherent config)
    (run_moves inputs (create_coherent config))

/-- An entry of a run into which signals of closed connections were put. -/
inductive RunEntry where
  | regular (input : StreamInput)
  | late (now : Instant) (connection : Nat) (signal : StreamSignal)

namespace RunEntry

/-- What is done with the subscription at an entry. -/
def input : RunEntry → StreamInput
  | .regular input => input
  | .late now connection signal => .signal now connection signal

/-- What would be done if nothing had been put into the run. -/
def regular? : RunEntry → Option StreamInput
  | .regular input => some input
  | .late _ _ _ => none

end RunEntry

/-- A run into which only such signals were put whose connections were hung up by then. -/
def PutLate (config : StreamConfig) (entries : List RunEntry) : Prop :=
  ∀ count now connection signal, entries[count]? = some (.late now connection signal) →
    .hangUp connection ∈ StreamEffect.calls
      ((create config).run ((entries.take count).map RunEntry.input)).effects

/-- Signals of connections that were hung up change nothing, wherever in a run they come. -/
theorem run_without_late {entries : List RunEntry} (late : PutLate config entries) (count : Nat) :
    (create config).run ((entries.take count).map RunEntry.input) =
      (create config).run ((entries.take count).filterMap RunEntry.regular?) := by
  induction count with
  | zero => rfl
  | succ count inductionHypothesis =>
    rw [List.take_add_one]
    cases entry : entries[count]? with
    | none => simpa using inductionHypothesis
    | some next =>
      rw [Option.toList_some, List.map_append, List.filterMap_append]
      cases next with
      | regular input =>
        show (create config).run (_ ++ [input]) = (create config).run (_ ++ [input])
        rw [run_concat, run_concat, inductionHypothesis]
      | late now connection signal =>
        show (create config).run (_ ++ [.signal now connection signal]) =
          (create config).run (_ ++ [])
        rw [List.append_nil, run_concat, ← inductionHypothesis]
        have orderly := run_orderly config ((entries.take count).map RunEntry.input)
        have closed := NetworkCall.not_mem_unclosed (late count now connection signal entry)
        generalize (create config).run ((entries.take count).map RunEntry.input) = outcome at *
        have other : outcome.state.connection ≠ some connection := by
          intro present
          rw [orderly.inTurn.present, present] at closed
          simp at closed
        have ignored :
            outcome.state.take (.signal now connection signal) = ⟨outcome.state, []⟩ := by
          unfold take receive
          exact if_neg other
        rw [Outcome.andThen, ignored, List.append_nil]

/-- A subscription opens its connections one at a time and under growing numbers, hangs up each of
them once before it dials the next, and its present connection is the one that is open. So signals
of connections that were hung up change nothing: wherever and however often they are put into a run,
the subscription and all its effects are at every point what they are without them.

Proof: every call of a move comes where it is in turn. A connection that was hung up is not open, so
it is not the present one, whose signals alone are taken up. -/
theorem connections_in_turn (config : StreamConfig) :
    (∀ inputs, InTurn (StreamEffect.calls ((create config).run inputs).effects)
      ((create config).run inputs).state.connection) ∧
    ∀ entries, PutLate config entries → ∀ count,
      (create config).run ((entries.take count).map RunEntry.input) =
        (create config).run ((entries.take count).filterMap RunEntry.regular?) :=
  ⟨fun inputs => (run_orderly config inputs).inTurn,
    fun _ late count => run_without_late late count⟩

/-- Two connections, with signals of the first one after it failed: while the second is waited for,
while it is being opened, and while it is open. -/
def failureAndEchoes : List RunEntry :=
  [.regular (.start {} .epoch), .regular (.signal .epoch 1 .opened),
    .regular (.signal .epoch 1 (.failed "reset")), .late .epoch 1 .opened,
    .regular (.poll {} (Instant.epoch.after (.ofMilliseconds 1000))),
    .late .epoch 1 (.failed "reset"), .regular (.signal .epoch 2 .opened),
    .late .epoch 1 (.failed "reset")]

/-- The echoes of the first connection, which come after it failed, do not touch the second one. -/
theorem echoes_change_nothing :
    PutLate {} failureAndEchoes ∧
      StreamEffect.calls ((create {}).run (failureAndEchoes.map RunEntry.input)).effects =
        [.dial 1 "http://127.0.0.1:3030/events" true, .hangUp 1,
          .dial 2 "http://127.0.0.1:3030/events" true] ∧
      ∀ count, (create {}).run ((failureAndEchoes.take count).map RunEntry.input) =
        (create {}).run ((failureAndEchoes.take count).filterMap RunEntry.regular?) := by
  have late : PutLate {} failureAndEchoes := by
    intro count now connection signal entry
    obtain _ | _ | _ | _ | _ | _ | _ | _ | count := count <;> simp [failureAndEchoes] at entry
    all_goals
      obtain ⟨-, rfl, -⟩ := entry
      decide +kernel
  exact ⟨late, by decide +kernel, (connections_in_turn {}).2 failureAndEchoes late⟩

end Subscription

end LiveTabs
