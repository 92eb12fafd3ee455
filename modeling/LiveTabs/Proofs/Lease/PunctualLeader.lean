import LiveTabs.Proofs.Lease.FreshLease
import LiveTabs.Proofs.Lease.Scene

/-!
# Punctual leaders

A tab that has written its lease and is told to poll in time keeps leading, whatever the other tabs
do: they find a fresh lease of another tab at every instant, the one of the renewal included. What
happened before the tab wrote its lease does not matter, failures of the storage included.
-/

namespace LiveTabs

namespace Scene

/-- What may happen while a tab is punctual: anything but failures, as long as the clock does not
pass the next deadline of the tab, and the tab neither releases nor drops out. -/
def InTime (tabId : String) (scene : Scene) : Deed → Prop
  | .pass later => ∀ candidate ∈ scene.candidate? tabId, ∀ deadline ∈ candidate.nextDeadline,
      later ≤ deadline
  | .join _ => True
  | .dropOut other => other ≠ tabId
  | .act other .release => other ≠ tabId
  | .act _ _ => True
  | .falter _ _ _ => False

instance (tabId : String) (scene : Scene) : (deed : Deed) → Decidable (InTime tabId scene deed)
  | .pass _ =>
    inferInstanceAs (Decidable (∀ candidate ∈ scene.candidate? tabId, ∀ deadline ∈ _, _ ≤ deadline))
  | .join _ => inferInstanceAs (Decidable True)
  | .dropOut other => inferInstanceAs (Decidable (other ≠ tabId))
  | .act other .release => inferInstanceAs (Decidable (other ≠ tabId))
  | .act _ (.init _) | .act _ (.evaluate _) | .act _ (.poll _) | .act _ (.noticeChange _ _) =>
    inferInstanceAs (Decidable True)
  | .falter _ _ _ => inferInstanceAs (Decidable False)

/-- A tab leads in good time. -/
structure Reigns (config : LeaderConfig) (tabId : String) (scene : Scene) : Prop where
  sound : scene.Sound config
  punctual : ∃ candidate acquired, scene.candidate? tabId = some candidate ∧
    candidate.Punctual acquired scene.now (scene.text config)

variable {config : LeaderConfig} {tabId : String} {scene next : Scene}

/-- No other tab changes the lease of a punctual leader, and whoever looks at it follows. -/
theorem Reigns.bound_others (reigns : scene.Reigns config tabId) {other : String}
    (different : other ≠ tabId) {candidate : Candidate}
    (present : scene.candidate? other = some candidate) {action : Candidate.Action}
    (atNow : action.IsAt scene.now) :
    (candidate.respond (scene.text config) action).2 = scene.text config ∧
      (candidate.Looks action →
        (candidate.respond (scene.text config) action).1.role = some .follower) := by
  obtain ⟨leader, acquired, found, punctual⟩ := reigns.punctual
  have ruling := reigns.sound.tabs tabId leader found
  have ruled := reigns.sound.tabs other candidate present
  have valid : leader.config.fault? = none := ruling.settings ▸ ruling.valid
  have fresh := punctual.fresh valid
  rw [ruling.settings, ← ruled.settings] at fresh
  have foreign : leader.tabId ≠ candidate.tabId := by
    rw [ruling.identity, ruled.identity]
    exact Ne.symm different
  obtain ⟨same, standsBack⟩ := candidate.respond_foreign punctual.held fresh foreign atNow
  exact ⟨same, fun looks => (standsBack looks).follows⟩

/-- A tab goes on leading in good time, whatever happens in time. This is the step of the run, in
which others may do whatever they like. -/
theorem Reigns.after (reigns : scene.Reigns config tabId) {deed : Deed}
    (inTime : InTime tabId scene deed) (done : scene.after? config deed = some next) :
    next.Reigns config tabId := by
  obtain ⟨leader, acquired, found, punctual⟩ := reigns.punctual
  have sound := sound_after reigns.sound done
  refine ⟨sound, ?_⟩
  cases deed with
  | pass later =>
    obtain ⟨-, -, time, text, view⟩ := after_pass reigns.sound done
    obtain ⟨renewal, armed, -, bound⟩ := punctual.renews
    have waits := ((Instant.before_earliest_iff _ _ _).mp (inTime leader found)).1 renewal armed
    refine ⟨leader, acquired, view ▸ found, ?_⟩
    rw [time, text]
    exact { punctual with renews := ⟨renewal, armed, waits, bound⟩ }
  | join other =>
    obtain ⟨-, time, text, free, view⟩ := after_join reigns.sound done
    have different : tabId ≠ other := by
      rintro rfl
      rw [free] at found
      cases found
    exact ⟨leader, acquired, by rw [view, if_neg different, found], time ▸ text ▸ punctual⟩
  | dropOut other =>
    obtain ⟨-, time, text, view⟩ := after_drop_out reigns.sound done
    have different : tabId ≠ other := Ne.symm inTime
    exact ⟨leader, acquired, by rw [view, if_neg different, found], time ▸ text ▸ punctual⟩
  | act other action =>
    obtain ⟨-, time, atNow, candidate, present, text, view⟩ := after_act reigns.sound done
    by_cases same : other = tabId
    · subst same
      rw [found] at present
      cases present
      have ruling := reigns.sound.tabs other leader found
      have stays : action ≠ .release := by
        rintro rfl
        exact inTime rfl
      obtain ⟨renewed, still⟩ := punctual.respond (ruling.settings ▸ ruling.valid)
        reigns.sound.whole atNow stays
      exact ⟨_, renewed, by rw [view, if_pos rfl], time ▸ text ▸ still⟩
    · have kept := (reigns.bound_others same present atNow).1
      exact ⟨leader, acquired, by rw [view, if_neg (Ne.symm same), found],
        time ▸ (text.trans kept) ▸ punctual⟩
  | falter other action faults => exact inTime.elim

/-- A tab that has just written the lease and leads does so in good time. -/
theorem reigns_of_written (sound : scene.Sound config) {action : Candidate.Action}
    (done : scene.after? config (.act tabId action) = some next)
    (wrote : next.text config ≠ scene.text config) (leads : next.role? tabId = some .leader) :
    next.Reigns config tabId := by
  obtain ⟨soundAfter, time, atNow, candidate, present, text, view⟩ := after_act sound done
  have tab := sound.tabs tabId candidate present
  have found : next.candidate? tabId =
      some (candidate.respond (scene.text config) action).1 := by
    rw [view, if_pos rfl]
  rw [role?, found] at leads
  rw [text] at wrote
  refine ⟨soundAfter, _, scene.now, found, ?_⟩
  rw [time, text]
  exact Candidate.punctual_of_change (tab.settings ▸ tab.valid) sound.whole tab.timed atNow wrote
    leads

/-- Once a tab has written the lease and leads, and from then on polls in time, it leads on: the
stored lease is its own and at most one interval of renewal old, and every other tab that looks at
it follows.

Proof: the tab reigns after its write, and every deed in time leaves it reigning. -/
theorem punctual_leader_stays {config : LeaderConfig} {before first last : Scene} {tabId : String}
    {action : Candidate.Action} (deeds : List Deed) (reachable : before.Reachable config)
    (took : before.after? config (.act tabId action) = some first)
    (wrote : first.text config ≠ before.text config) (leads : first.role? tabId = some .leader)
    (ran : first.run config (InTime tabId) deeds = some last) :
    last.role? tabId = some .leader ∧
      (∃ lease, Lease.held (last.text config) = some lease ∧ lease.owner = tabId ∧
        Instant.elapsed lease.acquiredAt last.now ≤ config.heartbeatInterval) ∧
      ∀ other candidate action next, other ≠ tabId → last.candidate? other = some candidate →
        candidate.Looks action → last.after? config (.act other action) = some next →
        next.role? other = some .follower := by
  have begins : first.Reigns config tabId := reigns_of_written reachable.sound took wrote leads
  have reigns : last.Reigns config tabId :=
    run_keeps (Reigns config tabId) (fun _ _ _ reigns inTime done => reigns.after inTime done)
      begins deeds ran
  obtain ⟨leader, acquired, found, punctual⟩ := reigns.punctual
  have ruling := reigns.sound.tabs tabId leader found
  refine ⟨?_, ⟨_, punctual.held, ruling.identity, ?_⟩, ?_⟩
  · rw [role?, found]
    exact punctual.leads
  · have age := punctual.age
    rw [ruling.settings] at age
    show (last.now.nanoseconds - acquired.nanoseconds).toNat ≤ config.heartbeatInterval.nanoseconds
    omega
  · intro other candidate action next different present looks done
    obtain ⟨-, -, atNow, candidate', present', -, view⟩ := after_act reigns.sound done
    rw [present] at present'
    cases present'
    have follows := (reigns.bound_others different present atNow).2 looks
    rw [role?, view, if_pos rfl]
    exact follows

/-- What happens during two renewals of a tab: another tab opens, looks at the instant of the first
renewal before it is done, and again after the second. -/
def twoRenewals : List Deed :=
  [.join "b", .act "b" (.init .epoch), .pass (.sinceEpoch 4000),
    .act "b" (.evaluate (.sinceEpoch 4000)), .act "a" (.poll (.sinceEpoch 4000)),
    .pass (.sinceEpoch 8000), .act "a" (.poll (.sinceEpoch 8000)),
    .act "b" (.poll (.sinceEpoch 8000))]

/-- A tab that takes the lease leads on through two renewals. -/
theorem leader_through_two_renewals :
    ∃ before first last : Scene, before.Reachable {} ∧
      before.after? {} (.act "a" (.init .epoch)) = some first ∧
      first.text {} ≠ before.text {} ∧ first.role? "a" = some .leader ∧
      first.run {} (InTime "a") twoRenewals = some last ∧
      last.now = .sinceEpoch 8000 ∧ last.role? "a" = some .leader := by
  have course : ((new {} .epoch).run {} (fun _ _ => True) [.join "a"]).any (fun before =>
      (before.after? {} (.act "a" (.init .epoch))).any fun first =>
        decide (first.text {} ≠ before.text {} ∧ first.role? "a" = some .leader) &&
          (first.run {} (InTime "a") twoRenewals).any fun last =>
            decide (last.now = .sinceEpoch 8000)) = true := by
    decide +kernel
  obtain ⟨before, opened, course⟩ := (Option.any_eq_true _ _).mp course
  obtain ⟨first, took, course⟩ := (Option.any_eq_true _ _).mp course
  obtain ⟨written, course⟩ := Bool.and_eq_true_iff.mp course
  obtain ⟨wrote, leads⟩ := of_decide_eq_true written
  obtain ⟨last, ran, time⟩ := (Option.any_eq_true _ _).mp course
  have reachable : before.Reachable {} := ⟨{}, .epoch, _, by decide, opened⟩
  exact ⟨before, first, last, reachable, took, wrote, leads, ran, of_decide_eq_true time,
    (punctual_leader_stays twoRenewals reachable took wrote leads ran).1⟩

end Scene

end LiveTabs
