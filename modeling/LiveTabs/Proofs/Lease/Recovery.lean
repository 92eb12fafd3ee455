import LiveTabs.Proofs.Lease.PunctualLeader

/-!
# Recovery after an outage

While storage fails, tabs that look at the lease lead without one, so several tabs may lead when it
works again. From then on every tab looks at the lease within one interval of regular looks. There
are two phases. As long as nobody has written the lease since the outset, each leader has not looked
yet or has found the lease its own. Whoever writes it then reigns, and every other tab follows as
soon as it looks.

A tab that has found the lease its own may be late to look again, because the lease may grow stale
between its looks, and another tab may take it then. `recovers` says for how long both of them lead
at most.
-/

namespace LiveTabs

namespace Candidate

/-- A leader that has not looked at the lease since the outset: what it waits for was set by
then. -/
structure Waits (outset now : Instant) (candidate : Candidate) : Prop where
  early : now.nanoseconds ≤
    outset.nanoseconds + candidate.config.safetyCheckInterval.nanoseconds
  check : ∃ deadline, candidate.checkAt = some deadline ∧ deadline.nanoseconds ≤
    outset.nanoseconds + candidate.config.safetyCheckInterval.nanoseconds
  renewal : ∀ deadline, candidate.renewAt = some deadline → deadline.nanoseconds ≤
    outset.nanoseconds + candidate.config.heartbeatInterval.nanoseconds

/-- A leader that has found the lease of the outset its own: it has a renewal set, and it looks
again at most one interval after the lease has grown stale, if not at the time it would have
anyway. -/
structure Owns (outset : Instant) (lease : Lease) (now : Instant) (candidate : Candidate) :
    Prop where
  owner : lease.owner = candidate.tabId
  check : ∃ deadline, candidate.checkAt = some deadline ∧
    (now.nanoseconds ≤ outset.nanoseconds + candidate.config.safetyCheckInterval.nanoseconds ∨
      now ≤ deadline) ∧
    (deadline.nanoseconds ≤
        outset.nanoseconds + candidate.config.safetyCheckInterval.nanoseconds ∨
      deadline.nanoseconds ≤ lease.acquiredAt.nanoseconds +
        candidate.config.leaseTtl.nanoseconds +
        candidate.config.safetyCheckInterval.nanoseconds)
  renewal : ∃ deadline, candidate.renewAt = some deadline ∧
    (now.nanoseconds ≤ outset.nanoseconds + candidate.config.safetyCheckInterval.nanoseconds ∨
      now ≤ deadline) ∧
    deadline.nanoseconds ≤
      outset.nanoseconds + candidate.config.safetyCheckInterval.nanoseconds +
        candidate.config.heartbeatInterval.nanoseconds

variable {outset now later : Instant} {lease : Lease} {candidate after : Candidate}

/-- Time that does not pass the deadlines of a waiting leader leaves it waiting, so it looks again
in good time. -/
theorem Waits.pass (waits : candidate.Waits outset now)
    (inTime : ∀ deadline ∈ candidate.nextDeadline, later ≤ deadline) :
    candidate.Waits outset later := by
  obtain ⟨deadline, set, bound⟩ := waits.check
  have checked := ((Instant.before_earliest_iff _ _ _).mp inTime).2 deadline set
  rw [Instant.le_iff] at checked
  exact { waits with early := by omega }

/-- Time that does not pass the deadlines of a leader that owns the lease leaves it so. -/
theorem Owns.pass (owns : candidate.Owns outset lease now)
    (inTime : ∀ deadline ∈ candidate.nextDeadline, later ≤ deadline) :
    candidate.Owns outset lease later := by
  have waits := (Instant.before_earliest_iff _ _ _).mp inTime
  obtain ⟨check, setCheck, -, checkBound⟩ := owns.check
  obtain ⟨renewal, setRenewal, -, renewalBound⟩ := owns.renewal
  exact ⟨owns.owner, ⟨check, setCheck, .inr (waits.2 check setCheck), checkBound⟩,
    ⟨renewal, setRenewal, .inr (waits.1 renewal setRenewal), renewalBound⟩⟩

/-- A waiting leader that finds a fresh lease its own comes to own it, and need not look again to
stay leader. -/
theorem Waits.keeps (waits : candidate.Waits outset now) (same : candidate.SameTab after)
    (owned : lease.owner = candidate.tabId)
    (fresh : now.nanoseconds ≤
      lease.acquiredAt.nanoseconds + candidate.config.leaseTtl.nanoseconds)
    (renewal : after.renewAt =
      some (candidate.renewAt.getD (now.after candidate.config.heartbeatInterval)))
    (check : after.checkAt = candidate.checkAt ∨
      after.checkAt = some (now.after candidate.config.safetyCheckInterval)) :
    after.Owns outset lease now := by
  have early := waits.early
  rw [← same.config] at *
  refine ⟨owned.trans same.tabId.symm, ?_, _, renewal, .inl early, ?_⟩
  · obtain kept | rearmed := check
    · obtain ⟨deadline, set, bound⟩ := waits.check
      exact ⟨deadline, kept.trans set, .inl early, .inl (same.config ▸ bound)⟩
    · have bound := Instant.after_le now after.config.safetyCheckInterval
      exact ⟨_, rearmed, .inl early, .inr (by omega)⟩
  · cases set : candidate.renewAt with
    | some deadline =>
      have bound := waits.renewal deadline set
      rw [← same.config] at bound
      rw [Option.getD_some]
      omega
    | none =>
      have bound := Instant.after_le now after.config.heartbeatInterval
      rw [Option.getD_none]
      omega

/-- A leader that owns the lease and finds it fresh goes on owning it, by each of its looks until
the next renewal. -/
theorem Owns.keeps (owns : candidate.Owns outset lease now) (same : candidate.SameTab after)
    (fresh : now.nanoseconds ≤
      lease.acquiredAt.nanoseconds + candidate.config.leaseTtl.nanoseconds)
    (renewal : after.renewAt =
      some (candidate.renewAt.getD (now.after candidate.config.heartbeatInterval)))
    (check : after.checkAt = candidate.checkAt ∨
      after.checkAt = some (now.after candidate.config.safetyCheckInterval)) :
    after.Owns outset lease now := by
  obtain ⟨due, set, ahead, bound⟩ := owns.renewal
  obtain ⟨deadline, setCheck, aheadCheck, boundCheck⟩ := owns.check
  rw [set, Option.getD_some] at renewal
  rw [← same.config] at *
  refine ⟨owns.owner.trans same.tabId.symm, ?_, due, renewal, ahead, bound⟩
  obtain kept | rearmed := check
  · exact ⟨deadline, kept.trans setCheck, aheadCheck, boundCheck⟩
  · have limit := Instant.after_le now after.config.safetyCheckInterval
    exact ⟨_, rearmed, .inr (Instant.le_after _ _), .inr (by omega)⟩

end Candidate

namespace Scene

/-- What may happen while all tabs are attended to: the store works, the clock does not pass the
next deadline of any tab, no tab opens, closes or begins to take part, and those that take part may
look at the lease at any time. -/
def Attended (scene : Scene) : Deed → Prop
  | .pass later => ∀ member ∈ scene.election.contenders.members,
      ∀ deadline ∈ member.2.candidate.nextDeadline, later ≤ deadline
  | .act tabId (.init _) => scene.role? tabId ≠ none
  | .act tabId (.evaluate _) => scene.role? tabId ≠ none
  | .act _ (.poll _) => True
  | .act _ (.noticeChange _ _) => True
  | _ => False

instance (scene : Scene) : (deed : Deed) → Decidable (Attended scene deed)
  | .pass later =>
    inferInstanceAs (Decidable (∀ member ∈ scene.election.contenders.members,
      ∀ deadline ∈ member.2.candidate.nextDeadline, later ≤ deadline))
  | .act tabId (.init _) | .act tabId (.evaluate _) =>
    inferInstanceAs (Decidable (scene.role? tabId ≠ none))
  | .act _ (.poll _) | .act _ (.noticeChange _ _) => inferInstanceAs (Decidable True)
  | .act _ .release | .join _ | .dropOut _ | .falter _ _ _ => inferInstanceAs (Decidable False)

/-- Every leader has its regular look set, as it has since its first evaluation. A tab that was told
to look at the lease without one leads until it is told to look again. -/
def Watching (scene : Scene) : Prop :=
  ∀ member ∈ scene.election.contenders.members,
    member.2.candidate.role = some .leader → member.2.candidate.checkAt ≠ none

instance (scene : Scene) : Decidable scene.Watching :=
  inferInstanceAs (Decidable (∀ member ∈ scene.election.contenders.members, _))

/-- A tab still leads on the lease of the outset, which has grown stale. That lasts for one interval
of regular looks at most, and only until the renewal that it has set meanwhile. -/
def Overstays (config : LeaderConfig) (outset scene : Scene) (tabId : String) : Prop :=
  ∃ candidate lease renewal, scene.candidate? tabId = some candidate ∧
    candidate.role = some .leader ∧ Lease.held (outset.text config) = some lease ∧
    lease.owner = tabId ∧
    lease.acquiredAt.nanoseconds + config.leaseTtl.nanoseconds < scene.now.nanoseconds ∧
    scene.now.nanoseconds ≤ lease.acquiredAt.nanoseconds + config.leaseTtl.nanoseconds +
      config.safetyCheckInterval.nanoseconds ∧
    candidate.renewAt = some renewal ∧ scene.now ≤ renewal ∧
    renewal.nanoseconds ≤ outset.now.nanoseconds + config.safetyCheckInterval.nanoseconds +
      config.heartbeatInterval.nanoseconds

/-- A leader that has not been put in its place by the lease of the outset: it waits for its look,
or owns that lease. -/
def Lingers (config : LeaderConfig) (outset : Scene) (now : Instant) (candidate : Candidate) :
    Prop :=
  candidate.Waits outset.now now ∨
    ∃ lease, Lease.held (outset.text config) = some lease ∧ candidate.Owns outset.now lease now

/-- Nobody has written the lease since the outset, and every leader lingers. -/
structure Untouched (config : LeaderConfig) (outset scene : Scene) : Prop where
  sound : scene.Sound config
  text : scene.text config = outset.text config
  leaders : ∀ tabId candidate, scene.candidate? tabId = some candidate →
    candidate.role = some .leader → Lingers config outset scene.now candidate

/-- Somebody has written the lease since the outset and reigns, and every other leader lingers. The
lease of the outset was stale by then, unless it belongs to nobody else. -/
structure Taken (config : LeaderConfig) (outset : Scene) (winner : String) (scene : Scene) :
    Prop where
  reigns : scene.Reigns config winner
  leaders : ∀ tabId candidate, tabId ≠ winner → scene.candidate? tabId = some candidate →
    candidate.role = some .leader → Lingers config outset scene.now candidate
  stale : ∀ lease, Lease.held (outset.text config) = some lease → lease.owner ≠ winner →
    lease.acquiredAt.nanoseconds + config.leaseTtl.nanoseconds < scene.now.nanoseconds

variable {config : LeaderConfig} {outset scene next : Scene}

/-- Time that passes while all tabs are attended to leaves the lingering leaders lingering. -/
theorem Lingers.pass {tabId : String} {candidate : Candidate} {later : Instant}
    (lingers : Lingers config outset scene.now candidate)
    (attended : Attended scene (.pass later)) (present : scene.candidate? tabId = some candidate) :
    Lingers config outset later candidate := by
  obtain ⟨contender, found, rfl⟩ := Option.map_eq_some_iff.mp present
  have inTime := attended _ (Roster.mem_of_get? found)
  obtain waits | ⟨lease, held, owns⟩ := lingers
  · exact .inl (waits.pass inTime)
  · exact .inr ⟨lease, held, owns.pass inTime⟩

/-- Only tabs that take part look at the lease while all tabs are attended to. Tabs without a role
have no deadlines. -/
theorem role_of_looks (sound : scene.Sound config) {tabId : String} {candidate : Candidate}
    (present : scene.candidate? tabId = some candidate) {action : Candidate.Action}
    (attended : Attended scene (.act tabId action)) (looks : candidate.Looks action) :
    candidate.role ≠ none := by
  have tab := sound.tabs tabId candidate present
  cases action with
  | init now => simpa [Attended, role?, present] using attended
  | evaluate now => simpa [Attended, role?, present] using attended
  | poll now =>
    intro idle
    have unset := tab.timed.unarmed (by simp [idle])
    have unwatched := tab.timed.idle idle
    simp [Candidate.Looks, unset, unwatched, Instant.isDue] at looks
  | noticeChange now key => exact looks.2
  | release => exact looks.elim

/-- No tab releases while all tabs are attended to. -/
theorem stays_of_attended {tabId : String} {action : Candidate.Action}
    (attended : Attended scene (.act tabId action)) : action ≠ .release := by
  rintro rfl
  exact attended

/-- While nobody has written the lease, a tab that finds a fresh lease its own lingers on. -/
theorem Untouched.keeps (untouched : Untouched config outset scene) {tabId : String}
    {candidate after : Candidate} (present : scene.candidate? tabId = some candidate)
    {action : Candidate.Action} (attended : Attended scene (.act tabId action))
    (same : candidate.SameTab after) (looks : candidate.Looks action) {lease : Lease}
    (held : Lease.held (scene.text config) = some lease) (owned : lease.owner = candidate.tabId)
    (fresh : scene.now.nanoseconds ≤
      lease.acquiredAt.nanoseconds + candidate.config.leaseTtl.nanoseconds)
    (renewal : after.renewAt =
      some (candidate.renewAt.getD (scene.now.after candidate.config.heartbeatInterval)))
    (check : after.checkAt = candidate.checkAt ∨
      after.checkAt = some (scene.now.after candidate.config.safetyCheckInterval)) :
    Lingers config outset scene.now after := by
  have takesPart := role_of_looks untouched.sound present attended looks
  have honest := (untouched.sound.tabs tabId candidate present).honest
  have leads : candidate.role = some .leader := by
    cases role : candidate.role with
    | none => exact absurd role takesPart
    | some taken =>
      cases taken with
      | leader => rfl
      | follower => exact absurd ⟨lease, held, owned⟩ (honest role)
  rw [untouched.text] at held
  obtain waits | ⟨other, again, owns⟩ := untouched.leaders tabId candidate present leads
  · exact .inr ⟨lease, held, waits.keeps same owned fresh renewal check⟩
  · cases held.symm.trans again
    exact .inr ⟨lease, held, owns.keeps same fresh renewal check⟩

/-- While nobody has written the lease, a tab that leaves its text stays untouched, if the tab
lingers as long as it leads. -/
theorem Untouched.kept (untouched : Untouched config outset scene) (sound : next.Sound config)
    (time : next.now = scene.now) (text : next.text config = scene.text config) {tabId : String}
    {after : Candidate}
    (view : ∀ other, next.candidate? other =
      if other = tabId then some after else scene.candidate? other)
    (lingers : after.role = some .leader → Lingers config outset scene.now after) :
    Untouched config outset next := by
  refine ⟨sound, text.trans untouched.text, ?_⟩
  intro other bystander there leads
  rw [view] at there
  rw [time]
  split at there
  · cases there
    exact lingers leads
  · exact untouched.leaders other bystander there leads

/-- While nobody has written the lease, a tab that writes it reigns from then on, and the lease of
the outset, if it belonged to another tab, had grown stale. -/
theorem Untouched.taken (untouched : Untouched config outset scene) (sound : next.Sound config)
    (time : next.now = scene.now) {tabId : String} {candidate : Candidate}
    (present : scene.candidate? tabId = some candidate) {action : Candidate.Action}
    (atNow : action.IsAt scene.now)
    (text : next.text config = (candidate.respond (scene.text config) action).2)
    (view : ∀ other, next.candidate? other =
      if other = tabId then some (candidate.respond (scene.text config) action).1
      else scene.candidate? other)
    (punctual : (candidate.respond (scene.text config) action).1.Punctual scene.now scene.now
      (candidate.respond (scene.text config) action).2) :
    Taken config outset tabId next := by
  have tab := untouched.sound.tabs tabId candidate present
  have acting := (view tabId).trans (if_pos rfl)
  have identity := (sound.tabs tabId _ acting).identity
  refine ⟨⟨sound, _, scene.now, acting, ?_⟩, ?_, ?_⟩
  · rw [time, text]
    exact punctual
  · intro other bystander apart there leads
    rw [view, if_neg apart] at there
    rw [time]
    exact untouched.leaders other bystander there leads
  · intro lease held foreign
    refine Int.not_le.mp ?_
    intro fresh
    rw [time, ← tab.settings] at fresh
    rw [← untouched.text] at held
    rw [← tab.identity] at foreign
    have kept := (candidate.respond_foreign held fresh foreign atNow).1
    have written := punctual.held
    rw [kept, held] at written
    cases written
    exact foreign (identity.trans tab.identity.symm)

/-- While nobody has written the lease, every deed leaves it so or is a write after which its tab
reigns. -/
theorem Untouched.after (untouched : Untouched config outset scene) {deed : Deed}
    (attended : Attended scene deed) (done : scene.after? config deed = some next) :
    Untouched config outset next ∨ ∃ winner, Taken config outset winner next := by
  have sound := untouched.sound
  cases deed with
  | pass later =>
    obtain ⟨soundAfter, -, time, text, view⟩ := after_pass sound done
    refine .inl ⟨soundAfter, text.trans untouched.text, ?_⟩
    intro tabId candidate present leads
    rw [view] at present
    rw [time]
    exact (untouched.leaders tabId candidate present leads).pass attended present
  | act tabId action =>
    obtain ⟨soundAfter, time, atNow, candidate, present, text, view⟩ := after_act sound done
    have tab := sound.tabs tabId candidate present
    have tabAfter := soundAfter.tabs tabId _ ((view tabId).trans (if_pos rfl))
    have same : candidate.SameTab (candidate.respond (scene.text config) action).1 :=
      ⟨tabAfter.identity.trans tab.identity.symm, tabAfter.settings.trans tab.settings.symm⟩
    have stays := fun kept => untouched.kept soundAfter time (text.trans kept) view
    cases Candidate.reply_of_respond (tab.settings ▸ tab.valid) sound.whole tab.timed atNow
      (stays_of_attended attended) with
    | writes looks punctual =>
      exact .inr ⟨tabId, untouched.taken soundAfter time present atNow text view punctual⟩
    | ignores unchanged looksAway =>
      rw [unchanged] at stays
      exact .inl (stays rfl fun leads => untouched.leaders tabId candidate present leads)
    | follows looks role kept => exact .inl (stays kept fun leads => by simp [role] at leads)
    | keeps looks lease held owned fresh renewal check kept =>
      exact .inl (stays kept fun _ => untouched.keeps present attended same looks held owned fresh
        renewal check)
  | _ => exact attended.elim

/-- Whoever is attended to is in time, so what was proved of a punctual leader applies. -/
theorem in_time_of_attended {tabId : String} {deed : Deed} (attended : Attended scene deed) :
    InTime tabId scene deed := by
  cases deed with
  | pass later =>
    intro candidate present deadline set
    obtain ⟨contender, found, rfl⟩ := Option.map_eq_some_iff.mp present
    exact attended _ (Roster.mem_of_get? found) deadline set
  | act other action =>
    cases action with
    | release => exact attended.elim
    | _ => trivial
  | _ => exact attended.elim

/-- Once a tab reigns, whoever else leads after a deed has led before and has done nothing, because
it follows as soon as it looks. The clock has not passed its deadlines. -/
theorem Reigns.unmoved {winner : String} (reigns : scene.Reigns config winner) {deed : Deed}
    (attended : Attended scene deed) (done : scene.after? config deed = some next)
    {tabId : String} {candidate : Candidate} (apart : tabId ≠ winner)
    (there : next.candidate? tabId = some candidate) (leads : candidate.role = some .leader) :
    scene.candidate? tabId = some candidate ∧
      (next.now = scene.now ∨ Attended scene (.pass next.now)) := by
  have sound := reigns.sound
  cases deed with
  | pass later =>
    obtain ⟨-, -, time, -, view⟩ := after_pass sound done
    exact ⟨view ▸ there, .inr (time ▸ attended)⟩
  | act other action =>
    obtain ⟨-, time, atNow, acting, present, -, view⟩ := after_act sound done
    refine ⟨?_, .inl time⟩
    rw [view] at there
    split at there
    · rename_i here
      subst here
      cases there
      have tab := sound.tabs tabId acting present
      have bound := reigns.bound_others apart present atNow
      cases Candidate.reply_of_respond (tab.settings ▸ tab.valid) sound.whole tab.timed atNow
        (stays_of_attended attended) with
      | ignores unchanged looksAway =>
        rw [unchanged]
        exact present
      | writes looks | follows looks | keeps looks =>
        rw [bound.2 looks] at leads
        cases leads
    · exact there
  | _ => exact attended.elim

/-- Once a tab reigns, every deed leaves it reigning, and nobody begins to linger. -/
theorem Taken.after {winner : String} (taken : Taken config outset winner scene) {deed : Deed}
    (attended : Attended scene deed) (done : scene.after? config deed = some next) :
    Taken config outset winner next := by
  refine ⟨taken.reigns.after (in_time_of_attended attended) done, ?_, ?_⟩
  · intro tabId candidate apart there leads
    obtain ⟨present, time | waits⟩ := taken.reigns.unmoved attended done apart there leads
    · rw [time]
      exact taken.leaders tabId candidate apart present leads
    · exact (taken.leaders tabId candidate apart present leads).pass waits present
  · intro lease held foreign
    have stale := taken.stale lease held foreign
    have forward := now_le_after done
    rw [Instant.le_iff] at forward
    omega

/-- At the outset every leader lingers, if it has its regular look set. -/
theorem untouched_of_outset (sound : outset.Sound config) (watching : outset.Watching) :
    Untouched config outset outset := by
  refine ⟨sound, rfl, fun tabId candidate present leads => .inl ⟨by omega, ?_, ?_⟩⟩
  · obtain ⟨contender, found, rfl⟩ := Option.map_eq_some_iff.mp present
    obtain ⟨deadline, set⟩ :=
      Option.ne_none_iff_exists'.mp (watching _ (Roster.mem_of_get? found) leads)
    exact ⟨deadline, set, (sound.tabs tabId _ present).timed.bounded.check deadline set⟩
  · exact (sound.tabs tabId candidate present).timed.bounded.renewal

/-- A leader that lingers for longer than one interval of regular looks owns the lease of the outset
and looks again soon. -/
theorem Lingers.late {tabId : String} {candidate : Candidate} (sound : scene.Sound config)
    (present : scene.candidate? tabId = some candidate)
    (lingers : Lingers config outset scene.now candidate)
    (late : outset.now.nanoseconds + config.safetyCheckInterval.nanoseconds <
      scene.now.nanoseconds) :
    ∃ lease renewal, Lease.held (outset.text config) = some lease ∧ lease.owner = tabId ∧
      scene.now.nanoseconds ≤ lease.acquiredAt.nanoseconds + config.leaseTtl.nanoseconds +
        config.safetyCheckInterval.nanoseconds ∧
      candidate.renewAt = some renewal ∧ scene.now ≤ renewal ∧
      renewal.nanoseconds ≤ outset.now.nanoseconds + config.safetyCheckInterval.nanoseconds +
        config.heartbeatInterval.nanoseconds := by
  have tab := sound.tabs tabId candidate present
  obtain waits | ⟨lease, held, owns⟩ := lingers
  · have early := waits.early
    rw [tab.settings] at early
    omega
  · obtain ⟨check, -, aheadCheck, boundCheck⟩ := owns.check
    obtain ⟨renewal, set, ahead, bound⟩ := owns.renewal
    rw [tab.settings] at aheadCheck boundCheck ahead bound
    rw [Instant.le_iff] at aheadCheck ahead
    refine ⟨lease, renewal, held, owns.owner.trans tab.identity, by omega, set, ?_, bound⟩
    rw [Instant.le_iff]
    omega

/-- If nobody has written the lease by the time every tab has had its regular look, the leaders that
are left hold the lease of the outset, and that has one holder. -/
theorem Untouched.one_leader (untouched : Untouched config outset scene)
    (late : outset.now.nanoseconds + config.safetyCheckInterval.nanoseconds <
      scene.now.nanoseconds) : scene.leaders.length ≤ 1 := by
  have sound := untouched.sound
  refine sound.leaders_length_le_one ?_
  intro first second candidate other left right leads alsoLeads
  obtain ⟨lease, -, held, owner, -⟩ :=
    (untouched.leaders first candidate left leads).late sound left late
  obtain ⟨lease', -, again, owner', -⟩ :=
    (untouched.leaders second other right alsoLeads).late sound right late
  cases held.symm.trans again
  exact owner.symm.trans owner'

/-- If somebody has written the lease by the time every tab has had its regular look, no tab but the
holder of the lease of the outset leads beside the one that reigns. -/
theorem Taken.one_leader_or_overstays {winner : String}
    (taken : Taken config outset winner scene)
    (late : outset.now.nanoseconds + config.safetyCheckInterval.nanoseconds <
      scene.now.nanoseconds) :
    scene.leaders.length ≤ 1 ∨
      ∃ tabId, Overstays config outset scene tabId ∧ scene.leaders.length ≤ 2 := by
  have sound := taken.reigns.sound
  by_cases lingers : ∃ tabId candidate, tabId ≠ winner ∧ scene.candidate? tabId = some candidate ∧
      candidate.role = some .leader
  · obtain ⟨tabId, candidate, apart, present, leads⟩ := lingers
    obtain ⟨lease, renewal, held, owner, soon, set, ahead, bound⟩ :=
      (taken.leaders tabId candidate apart present leads).late sound present late
    have stale := taken.stale lease held (owner ▸ apart)
    have among : ∀ other bystander, scene.candidate? other = some bystander →
        bystander.role = some .leader → other ∈ [winner, tabId] := by
      intro other bystander there alsoLeads
      by_cases reigns : other = winner
      · simp [reigns]
      · obtain ⟨lease', -, again, owner', -⟩ :=
          (taken.leaders other bystander reigns there alsoLeads).late sound there late
        cases held.symm.trans again
        simp [← owner, ← owner']
    exact .inr ⟨tabId, ⟨candidate, lease, renewal, present, leads, held, owner, stale, soon, set,
      ahead, bound⟩, sound.leaders_length_le among⟩
  · have among : ∀ tabId candidate, scene.candidate? tabId = some candidate →
        candidate.role = some .leader → tabId ∈ [winner] := by
      intro tabId candidate present leads
      by_cases reigns : tabId = winner
      · simp [reigns]
      · exact absurd ⟨tabId, candidate, reigns, present, leads⟩ lingers
    exact .inl (sound.leaders_length_le among)

/-- After an outage at most one tab leads as soon as every tab has had its regular look. Only the
holder of the lease of the outset may lead on beside one other tab while it overstays.

Proof: as long as nobody has written the lease, the leaders that are left have found it their own,
and it has one holder. Once somebody has, that tab reigns, and every other leader has held the lease
of the outset until it grew stale. -/
theorem recovers {config : LeaderConfig} {outset last : Scene} (deeds : List Deed)
    (reachable : outset.Reachable config) (watching : outset.Watching)
    (ran : outset.run config Attended deeds = some last)
    (late : outset.now.nanoseconds + config.safetyCheckInterval.nanoseconds <
      last.now.nanoseconds) :
    last.leaders.length ≤ 1 ∨
      ∃ tabId, Overstays config outset last tabId ∧ last.leaders.length ≤ 2 := by
  have begins : Untouched config outset outset := untouched_of_outset reachable.sound watching
  have phase : Untouched config outset last ∨ ∃ winner, Taken config outset winner last := by
    refine run_keeps (fun scene => Untouched config outset scene ∨
      ∃ winner, Taken config outset winner scene) ?_ (.inl begins) deeds ran
    rintro scene deed next (untouched | ⟨winner, taken⟩) attended done
    · exact untouched.after attended done
    · exact .inr ⟨winner, taken.after attended done⟩
  obtain untouched | ⟨winner, taken⟩ := phase
  · exact .inl (untouched.one_leader late)
  · exact taken.one_leader_or_overstays late

/-- A tab holds the lease, and another one leads since its read of it failed. -/
def outage : List Deed :=
  [.join "a", .act "a" (.init .epoch), .pass (.sinceEpoch 1000), .join "b",
    .falter "b" (.init (.sinceEpoch 1000)) [none, some .unavailable]]

/-- Both tabs poll at their deadlines until both have had their regular look. -/
def afterOutage : List Deed :=
  [.pass (.sinceEpoch 4000), .act "a" (.poll (.sinceEpoch 4000)),
    .pass (.sinceEpoch 8000), .act "a" (.poll (.sinceEpoch 8000)),
    .pass (.sinceEpoch 9000), .act "b" (.poll (.sinceEpoch 9000)), .pass (.sinceEpoch 9001)]

/-- Two tabs that lead after an outage come to one leader. -/
theorem outage_ends :
    ∃ outset last : Scene, outset.Reachable {} ∧ outset.Watching ∧
      outset.run {} Attended afterOutage = some last ∧ outset.leaders = ["a", "b"] ∧
      last.now = .sinceEpoch 9001 ∧
      (last.leaders.length ≤ 1 ∨
        ∃ tabId, Overstays {} outset last tabId ∧ last.leaders.length ≤ 2) := by
  have course : ((new {} .epoch).run {} (fun _ _ => True) outage).any (fun outset =>
      decide (outset.Watching ∧ outset.now = .sinceEpoch 1000 ∧ outset.leaders = ["a", "b"]) &&
        (outset.run {} Attended afterOutage).any fun last =>
          decide (last.now = .sinceEpoch 9001)) = true := by
    decide +kernel
  obtain ⟨outset, came, course⟩ := (Option.any_eq_true _ _).mp course
  obtain ⟨begun, course⟩ := Bool.and_eq_true_iff.mp course
  obtain ⟨watching, start, leaders⟩ := of_decide_eq_true begun
  obtain ⟨last, ran, ended⟩ := (Option.any_eq_true _ _).mp course
  have time : last.now = .sinceEpoch 9001 := of_decide_eq_true ended
  have reachable : outset.Reachable {} := ⟨{}, .epoch, outage, by decide, came⟩
  refine ⟨outset, last, reachable, watching, ran, leaders, time, ?_⟩
  refine recovers afterOutage reachable watching ran ?_
  rw [start, time]
  decide +kernel

/-- Settings under which the lease outlives one interval of renewal only by a little, and regular
looks come more often than renewals. -/
def hasty : LeaderConfig :=
  { leaseTtl := .ofMilliseconds 5000, safetyCheckSetting := some (.ofMilliseconds 1000) }

/-- The write of a renewal fails, and the next one is due after the lease has grown stale. -/
def failedRenewal : List Deed :=
  [.join "a", .act "a" (.init .epoch), .pass (.sinceEpoch 3100), .join "b",
    .act "b" (.init (.sinceEpoch 3100)), .pass (.sinceEpoch 4000),
    .falter "a" (.poll (.sinceEpoch 4000)) [none, some (.backend "quota")]]

/-- The holder looks at its lease for the last time at the end of the time to live, and another tab
takes it soon after. -/
def takeover : List Deed :=
  [.pass (.sinceEpoch 4100), .act "b" (.poll (.sinceEpoch 4100)),
    .pass (.sinceEpoch 5000), .act "a" (.poll (.sinceEpoch 5000)),
    .pass (.sinceEpoch 5100), .act "b" (.poll (.sinceEpoch 5100))]

/-- A tab that looks at the lease without regular looks, while it cannot be read, and another one
that takes it. -/
def unwatched : List Deed :=
  [.join "a", .falter "a" (.evaluate .epoch) [none, some .unavailable], .join "b",
    .act "b" (.init .epoch)]

/-- The tab with the lease renews it twice. -/
def renewals : List Deed :=
  [.pass (.sinceEpoch 4000), .act "b" (.poll (.sinceEpoch 4000)), .pass (.sinceEpoch 8000),
    .act "b" (.poll (.sinceEpoch 8000)), .pass (.sinceEpoch 8001)]

/-- Two tabs lead later than one interval of regular looks after an outset. -/
def StillTwo (config : LeaderConfig) (outset last : Scene) : Prop :=
  outset.now.nanoseconds + config.safetyCheckInterval.nanoseconds < last.now.nanoseconds ∧
    last.leaders = ["a", "b"]

instance (config : LeaderConfig) (outset last : Scene) : Decidable (StillTwo config outset last) :=
  inferInstanceAs (Decidable (_ ∧ _))

/-- Two courses before and after an outset, when they can be taken, make it reachable and the second
one attended. -/
theorem still_two_of_courses (config : LeaderConfig) (before after : List Deed)
    (courses : ((new {} .epoch).run config (fun _ _ => True) before).any (fun outset =>
      (outset.run config Attended after).any fun last => decide (StillTwo config outset last)) =
        true) :
    ∃ outset last : Scene, outset.Reachable config ∧
      outset.run config Attended after = some last ∧ StillTwo config outset last := by
  obtain ⟨outset, came, courses⟩ := (Option.any_eq_true _ _).mp courses
  obtain ⟨last, ran, still⟩ := (Option.any_eq_true _ _).mp courses
  exact ⟨outset, last, ⟨{}, .epoch, before, by decide, came⟩, ran, of_decide_eq_true still⟩

/-- Two tabs may lead later than one interval of regular looks after an outage: when a renewal
failed, and when a leader has no regular look set. -/
theorem two_leaders_after_outage :
    (∃ outset last : Scene, outset.Reachable hasty ∧
      outset.run hasty Attended takeover = some last ∧ StillTwo hasty outset last) ∧
    ∃ outset last : Scene, outset.Reachable {} ∧
      outset.run {} Attended renewals = some last ∧ StillTwo {} outset last :=
  ⟨still_two_of_courses hasty failedRenewal takeover (by decide +kernel),
    still_two_of_courses {} unwatched renewals (by decide +kernel)⟩

end Scene

end LiveTabs
