import LiveTabs.Browser
import LiveTabs.Proofs.Lease.ReportedRole

/-!
# How a tab responds

Everything that a tab takes up comes to one of a few responses, whatever its storage answers: the
election leaves its role and nothing is done, or it gives the tab a new role, which is taken up; the
subscription does something of its own; a message is shown or answered; or the tab is closed.
`Responds` lists them, and `responds_of_perform` says that there are no others. A message is
ignored, answered by a leader or shown by a follower (`heeds_message`).
-/

namespace LiveTabs

namespace Tab

/-- What a tab does about an input at a time. Its numbers as a user of the storage and a member of
the channel play no part in it. -/
def perform (line : Line) (now : Instant) (input : TabInput) (tab : Tab) : Access Result :=
  Browser.perform { tab, line, storageNumber := 0, channelNumber := none } now input

/-- What an election makes of a tab. -/
inductive Elects (line : Line) (now : Instant) (tab : Tab) : Result → Prop
  /-- The role stays. -/
  | stays (candidate : Candidate) (same : candidate.role = tab.role) :
    Elects line now tab ⟨{ tab with candidate }, []⟩
  /-- A new role is taken up. -/
  | changes (candidate : Candidate) (role : Role) (taken : candidate.role = some role)
    (new : tab.role ≠ some role) :
    Elects line now tab (takeRole line now role { tab with candidate })

/-- What a tab may make of an input. -/
inductive Responds (line : Line) (now : Instant) (tab : Tab) : TabInput → Result → Prop
  | start {elected : Result} : Elects line now tab elected → Responds line now tab .start elected
  | news (key : String) {elected : Result} :
    Elects line now tab elected → Responds line now tab (.news key) elected
  | deadline {elected : Result} : Elects line now tab elected →
    Responds line now tab .deadline
      (elected.andThen (subscribe (Subscription.poll line now) now))
  | signal (connection : Nat) (signal : StreamSignal) :
    Responds line now tab (.signal connection signal) (tab.receiveSignal now connection signal)
  | message (message : Message) :
    Responds line now tab (.message message) ⟨tab, tab.receiveMessage now message⟩
  | close (candidate : Candidate) (released : candidate.role = none) :
    Responds line now tab .close
      ⟨{ tab with candidate, subscription := tab.subscription.stop.state },
        (StreamEffect.calls tab.subscription.stop.effects).map .call⟩

/-- What a tab makes of a message. -/
inductive Heeds (tab : Tab) (now : Instant) (message : Message) : Prop
  | ignores (nothing : tab.receiveMessage now message = [])
  /-- A leader answers the question of another tab with the state of its connection. -/
  | answers (leads : tab.role = some .leader) (channel : tab.relay.hasChannel = true)
    (foreign : message.sender ≠ tab.relay.sender) (question : message.notice = .sync)
    (answer : tab.receiveMessage now message = tab.postEffects (.state tab.subscription.state) now)
  | follows (follower : tab.role = some .follower)
    (shown : tab.receiveMessage now message = followNotice message.notice)

variable {line : Line} {now : Instant} {tab : Tab} {outcome : Result}

/-- Whatever the message, a tab ignores, answers or shows it. The ways are told apart once here, for
all that is said of messages. -/
theorem heeds_message (tab : Tab) (now : Instant) (message : Message) : tab.Heeds now message := by
  by_cases heard : tab.relay.hasChannel = true ∧ message.sender ≠ tab.relay.sender
  · have received : tab.relay.receive message = some message := if_pos heard
    cases taken : tab.role with
    | none => exact .ignores (by rw [receiveMessage, received, taken])
    | some role =>
      cases role with
      | follower => exact .follows taken (by rw [receiveMessage, received, taken])
      | leader =>
        cases content : message.notice with
        | sync =>
          refine .answers taken heard.1 heard.2 content ?_
          rw [receiveMessage, received, taken]
          dsimp only
          rw [content]
        | update | state | deleted | warning =>
          refine .ignores ?_
          rw [receiveMessage, received, taken]
          dsimp only
          rw [content]
  · exact .ignores (by rw [receiveMessage, Relay.receive, if_neg heard])

/-- An operation of the candidate that reports new roles elects: the tab takes up the role that is
reported, if any. -/
theorem elects_of_elect (operation : Candidate → Access (Candidate × Option Role))
    (reports : ∀ result, Access.MayGive result (operation tab.candidate) →
      tab.candidate.Reports result)
    (gives : Access.MayGive outcome (tab.elect line now operation)) :
    Elects line now tab outcome := by
  obtain ⟨result, reached, gives⟩ := Access.may_give_bind _ gives
  cases reports result reached with
  | same candidate kept =>
    cases Access.eq_of_may_give_pure gives
    exact .stays candidate kept
  | changed candidate role taken different =>
    cases Access.eq_of_may_give_pure gives
    exact .changes candidate role taken different

/-- Whatever a tab does about an input is one of its responses. Statements about all inputs are
proved response by response. -/
theorem responds_of_perform {input : TabInput}
    (gives : Access.MayGive outcome (tab.perform line now input)) :
    Responds line now tab input outcome := by
  cases input with
  | start => exact .start (elects_of_elect (·.init now) (fun _ => Candidate.reports_of_init) gives)
  | news key =>
    exact .news key
      (elects_of_elect (·.noticeChange now key) (fun _ => Candidate.reports_of_notice) gives)
  | deadline =>
    obtain ⟨elected, reached, gives⟩ := Access.may_give_bind _ gives
    cases Access.eq_of_may_give_pure gives
    exact .deadline
      (elects_of_elect (·.poll now) (fun _ => Candidate.reports_of_poll) reached)
  | signal connection signal =>
    cases Access.eq_of_may_give_pure gives
    exact .signal connection signal
  | message message =>
    cases Access.eq_of_may_give_pure gives
    exact .message message
  | close =>
    obtain ⟨candidate, released, gives⟩ := Access.may_give_bind _ gives
    cases Access.eq_of_may_give_pure gives
    exact .close candidate (Candidate.role_of_released released)

end Tab

end LiveTabs
