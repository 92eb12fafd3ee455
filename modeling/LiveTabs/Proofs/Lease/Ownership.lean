import LiveTabs.Proofs.Lease.Response
import LiveTabs.Proofs.Storage.Faults

/-!
# Whose lease is touched

Whichever of its calls fail, an operation writes no lease but its tab's own and removes no other,
and a tab that follows is not the holder of the stored lease. `always_act` says so of every
operation.
-/

namespace LiveTabs

/-- Between two texts, nobody but one tab has got or renewed the lease. -/
def Lease.Spares (tabId : String) (before after : Option String) : Prop :=
  ∀ lease, Lease.held after = some lease → lease.owner ≠ tabId → Lease.held before = some lease

/-- Where the text stays, nobody's lease is touched. Most branches of most operations are of this
kind. -/
theorem Lease.spares_refl (tabId : String) (text : Option String) :
    Lease.Spares tabId text text :=
  fun _ held _ => held

/-- What spares others twice spares them altogether, so a renewal may be followed by a look in one
poll. -/
theorem Lease.Spares.trans {tabId : String} {first second third : Option String}
    (left : Lease.Spares tabId first second) (right : Lease.Spares tabId second third) :
    Lease.Spares tabId first third :=
  fun lease held foreign => left lease (right lease held foreign) foreign

namespace Candidate

/-- A candidate that does not follow while it holds the stored lease. -/
def Honest (candidate : Candidate) (text : Option String) : Prop :=
  candidate.role = some .follower → ¬ Lease.IsHeldBy text candidate.tabId

/-- A written lease is the candidate's own, so whoever is said to hold the text after the write is
the candidate. -/
theorem spares_of_claim (candidate : Candidate) (now : Instant) (before : Option String) :
    Lease.Spares candidate.tabId before (some (candidate.claim now).render) := by
  intro lease held foreign
  rw [Lease.held_render] at held
  cases held
  exact absurd rfl foreign

/-- Reading the lease fails or gives the stored one: there are two cases for what follows, and no
third. -/
theorem always_read {α : Type} {property : α → Option String → Prop} (key : String)
    (text : Option String) {next : Except StorageError (Option Lease) → Access α}
    (reads : Access.Always property text (next (.ok (Lease.held text))))
    (fails : ∀ error, Access.Always property text (next (.error error))) :
    Access.Always property text (Lease.read key >>= next) :=
  ⟨reads, fails⟩

/-- What an operation makes of the candidate of a tab and a text: it touches no lease of another
tab, and its tab does not follow while it holds the lease. -/
structure Upholds (tabId : String) (text : Option String) (result : Candidate)
    (after : Option String) : Prop where
  identity : result.tabId = tabId
  spares : Lease.Spares tabId text after
  honest : result.Honest after

/-- What upholds one tab leaves another one honest. So honesty has to be shown only of the tab that
acts. -/
theorem Upholds.others_honest {tabId : String} {text after : Option String}
    {result other : Candidate} (upholds : Upholds tabId text result after)
    (apart : other.tabId ≠ tabId) (honest : other.Honest text) : other.Honest after := by
  intro follows
  rintro ⟨lease, held, owner⟩
  exact honest follows ⟨lease, upholds.spares lease held (owner ▸ apart), owner⟩

/-- Whoever does not follow and leaves the text upholds it: there is no claim about another holder
to be backed. -/
theorem upholds_of_leader {tabId : String} (text : Option String) {result : Candidate}
    (identity : result.tabId = tabId) (leads : result.role ≠ some .follower) :
    Upholds tabId text result text :=
  ⟨identity, Lease.spares_refl _ text, fun follows => absurd follows leads⟩

/-- Whoever does not follow and has written its lease upholds it. -/
theorem upholds_of_claim (candidate : Candidate) (now : Instant) (text : Option String)
    {result : Candidate} (identity : result.tabId = candidate.tabId)
    (leads : result.role ≠ some .follower) :
    Upholds candidate.tabId text result (some (candidate.claim now).render) :=
  ⟨identity, candidate.spares_of_claim now text, fun follows => absurd follows leads⟩

/-- A decision as a candidate with the role that was decided on. -/
def inRole (decision : Candidate × Role) : Candidate :=
  { decision.1 with role := some decision.2 }

/-- Taking the lease is upheld, both if it was written and if the write failed. -/
theorem always_acquire (candidate : Candidate) (now : Instant) (text : Option String) :
    Access.Always (fun decision => Upholds candidate.tabId text (inRole decision)) text
      (candidate.acquire now) := by
  exact ⟨candidate.upholds_of_claim now text rfl (by simp [inRole]),
    fun _ => upholds_of_leader text rfl (by simp [inRole])⟩

/-- Whichever calls fail, a decision to follow was made on a lease of another tab. Where nothing can
be read the candidate leads. -/
theorem always_decide (candidate : Candidate) (now : Instant) (text : Option String) :
    Access.Always (fun decision => Upholds candidate.tabId text (inRole decision)) text
      (candidate.decide now) := by
  have leads : ∀ decided : Candidate, decided.tabId = candidate.tabId →
      Upholds candidate.tabId text (inRole (decided, .leader)) text := fun decided identity =>
    upholds_of_leader text identity (by simp [inRole])
  rintro (_ | _)
  · exact leads _ rfl
  refine always_read candidate.config.leaseKey text ?_ fun _ => leads _ rfl
  cases held : Lease.held text with
  | none => exact candidate.always_acquire now text
  | some lease =>
    dsimp only
    split
    · exact candidate.always_acquire now text
    split
    · split <;> exact leads _ rfl
    · rename_i foreign
      refine ⟨rfl, Lease.spares_refl _ text, ?_⟩
      intro _
      rintro ⟨other, again, owner⟩
      rw [held] at again
      cases again
      exact foreign (beq_iff_eq.mpr owner)

/-- Whichever calls fail, a look at the lease is upheld, as the role that it sets is the one that
was decided on. -/
theorem always_evaluate (candidate : Candidate) (now : Instant) (text : Option String) :
    Access.Always (fun result => Upholds candidate.tabId text result.1) text
      (candidate.evaluate now) :=
  Access.always_bind text _ _ (candidate.always_decide now text)

/-- Whichever calls fail, a renewal by a leader is upheld. It writes the leader's own lease, or
gives way to a look. -/
theorem always_renew (candidate : Candidate) (now : Instant) (text : Option String)
    (leads : candidate.role = some .leader) :
    Access.Always (Upholds candidate.tabId text) text (candidate.renew now) := by
  have still : (candidate.armRenewal now).role ≠ some .follower := by
    simp [armRenewal, leads]
  have kept : Upholds candidate.tabId text (candidate.armRenewal now) text :=
    upholds_of_leader text rfl still
  refine always_read candidate.config.leaseKey text ?_ fun _ => kept
  dsimp only
  split
  · exact Access.always_bind text _ _ (candidate.disarmRenewal.always_evaluate now text)
  · exact ⟨candidate.upholds_of_claim now text rfl still, fun _ => kept⟩

/-- Whichever calls fail, what poll does after the renewal is upheld: a regular look, or nothing,
which leaves an honest candidate honest. -/
theorem always_poll_check (candidate : Candidate) (before : Option Role) (now : Instant)
    {text : Option String} (honest : candidate.Honest text) :
    Access.Always (fun result => Upholds candidate.tabId text result.1) text
      (if Instant.isDue candidate.checkAt now then do
          let checked ← candidate.check now
          pure (checked, changedRole before checked.role)
        else pure (candidate, changedRole before candidate.role)) := by
  split
  · exact Access.always_bind text _ _
      (Access.always_bind text _ _ ((candidate.armCheck now).always_evaluate now text))
  · exact ⟨rfl, Lease.spares_refl _ text, honest⟩

/-- Whichever calls fail, poll is upheld. The renewal in it is one by a leader, because no other
candidate has one set. -/
theorem always_poll (candidate : Candidate) (now : Instant) {text : Option String}
    (leading : candidate.renewAt ≠ none → candidate.role = some .leader)
    (honest : candidate.Honest text) :
    Access.Always (fun result => Upholds candidate.tabId text result.1) text
      (candidate.poll now) := by
  unfold poll
  split
  · rename_i due
    obtain ⟨deadline, set, -⟩ := (Instant.is_due_iff _ _).mp due
    have leads := leading (by simp [set])
    refine Access.always_bind text _ _
      (Access.always_mono text _ (candidate.always_renew now text leads) ?_)
    rintro renewed after ⟨identity, spares, honest⟩
    refine Access.always_mono after _
      (renewed.always_poll_check candidate.role now honest) ?_
    rintro result last ⟨still, further, honestAfter⟩
    rw [identity] at further
    exact ⟨still.trans identity, spares.trans further, honestAfter⟩
  · exact candidate.always_poll_check candidate.role now honest

/-- Whichever calls fail, a release is upheld: it removes at most the candidate's own lease, and
leaves no role to be backed. -/
theorem always_release (candidate : Candidate) (text : Option String) :
    Access.Always (Upholds candidate.tabId text) text candidate.release := by
  have leaves : ∀ after, Lease.Spares candidate.tabId text after →
      Upholds candidate.tabId text { candidate with role := none, renewAt := none, checkAt := none }
        after := by
    intro after spares
    refine ⟨rfl, spares, ?_⟩
    intro leads
    cases leads
  have kept := leaves text (Lease.spares_refl _ text)
  unfold release
  split
  · rintro (_ | _)
    · exact kept
    refine Access.always_bind text candidate.clearOwnLease _ ?_
    refine always_read candidate.config.leaseKey text ?_ fun _ => kept
    cases Lease.held text with
    | none => exact kept
    | some lease =>
      dsimp only
      split
      · have removed : Lease.Spares candidate.tabId text none := by
          intro _ held _
          cases held
        exact ⟨leaves none removed, fun _ => kept⟩
      · exact kept
  · exact kept

/-- Whichever of its calls fail and whenever it happens, an operation touches no lease of another
tab, and does not leave its tab following while it holds the stored lease. -/
theorem always_act (candidate : Candidate) {text : Option String}
    (leading : candidate.renewAt ≠ none → candidate.role = some .leader)
    (honest : candidate.Honest text) (action : Candidate.Action) :
    Access.Always (fun result => Upholds candidate.tabId text result.1) text
      (candidate.act action) := by
  cases action with
  | init time => exact (candidate.armCheck time).always_evaluate time text
  | evaluate time => exact candidate.always_evaluate time text
  | poll time => exact candidate.always_poll time leading honest
  | noticeChange time key =>
    simp only [act, noticeChange]
    split
    · exact ⟨rfl, Lease.spares_refl _ text, honest⟩
    · exact candidate.always_evaluate time text
  | release => exact Access.always_bind text _ _ (candidate.always_release text)

/-- So it is when no call fails. -/
theorem upholds_respond (candidate : Candidate) {text : Option String}
    (leading : candidate.renewAt ≠ none → candidate.role = some .leader)
    (honest : candidate.Honest text) (action : Candidate.Action) :
    Upholds candidate.tabId text (candidate.respond text action).1
      (candidate.respond text action).2 := by
  rw [← outcome_act]
  exact Access.run_always text _ (candidate.always_act leading honest action)

end Candidate

end LiveTabs
