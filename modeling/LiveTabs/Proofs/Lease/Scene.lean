import LiveTabs.Proofs.Lease.Ownership
import LiveTabs.Proofs.RosterView

/-!
# Elections on a clock

An election whose operations happen one after the other on a clock that never goes back and shows
whole milliseconds. Tabs with one configuration come and go under their ids, which are distinct at
any time. The store keeps what it is given; single calls may fail, but only where a deed says so.

A scene is seen through the candidate of each tab and the text of the lease. The lemmas `after_*`
say for each deed what it does to this view, and `Sound` holds of every scene that can come about.
-/

namespace LiveTabs

/-- An election at a time. -/
structure Scene where
  election : Election := {}
  now : Instant

namespace Scene

/-- What can happen next. -/
inductive Deed where
  /-- Time passes. -/
  | pass (later : Instant)
  /-- A tab opens. -/
  | join (tabId : String)
  /-- A tab is gone without a word. -/
  | dropOut (tabId : String)
  /-- A tab does one of its operations. -/
  | act (tabId : String) (action : Candidate.Action)
  /-- A tab does one of its operations while some of its calls fail. -/
  | falter (tabId : String) (action : Candidate.Action) (faults : List (Option StorageError))

/-- Whether no storage call fails in a deed. -/
def Deed.Works : Deed → Prop
  | .falter _ _ _ => False
  | _ => True

instance : (deed : Deed) → Decidable deed.Works
  | .falter _ _ _ => inferInstanceAs (Decidable False)
  | .pass _ | .join _ | .dropOut _ | .act _ _ => inferInstanceAs (Decidable True)

/-- The scene that begins at a given time with given texts in the store and no tabs. -/
def new (entries : Entries) (now : Instant) : Scene :=
  { election := { store := { memory := { entries } } }, now }

/-- The scene after a tab did an operation some of whose calls failed. -/
def falter (scene : Scene) (tabId : String) (action : Candidate.Action)
    (faults : List (Option StorageError)) : Option Scene :=
  (scene.election.contenders.get? tabId).map fun contender =>
    let ended := Access.runFaulty (Election.storageOf contender) faults scene.election.store
      (contender.candidate.act action)
    let contenders := scene.election.contenders.update tabId fun contender =>
      { contender with candidate := ended.1.1 }
    { scene with election := { contenders, store := ended.2 } }

/-- The scene after a deed, if it can be done. The clock does not go back, an id that is taken
cannot be used, and operations happen at the time of the scene. -/
def after? (config : LeaderConfig) (scene : Scene) : Deed → Option Scene
  | .pass later =>
    if scene.now ≤ later ∧ later.IsWhole then some { scene with now := later } else none
  | .join tabId =>
    match scene.election.contenders.get? tabId, scene.election.join tabId tabId config true with
    | none, .ok election => some { scene with election }
    | _, _ => none
  | .dropOut tabId => some { scene with election := scene.election.dropOut tabId }
  | .act tabId action =>
    if action.IsAt scene.now then
      (scene.election.act tabId action).map fun acted => { scene with election := acted.2.2 }
    else none
  | .falter tabId action faults =>
    if action.IsAt scene.now then scene.falter tabId action faults else none

/-- The scene after a number of deeds, one after the other, if they can be done and are allowed. -/
def run (config : LeaderConfig) (allowed : Scene → Deed → Prop)
    [∀ scene deed, Decidable (allowed scene deed)] (scene : Scene) (deeds : List Deed) :
    Option Scene :=
  deeds.foldlM
    (fun scene deed => if allowed scene deed then scene.after? config deed else none) scene

/-- A deed with the scenes before and after it. -/
structure Turn where
  before : Scene
  deed : Deed
  after : Scene

/-- The turns of a run, up to the first deed that cannot be done. -/
def turns (config : LeaderConfig) (scene : Scene) : List Deed → List Turn
  | [] => []
  | deed :: rest =>
    match scene.after? config deed with
    | none => []
    | some next => ⟨scene, deed, next⟩ :: turns config next rest

/-- A scene that comes about by any deeds from one without tabs. -/
def Reachable (config : LeaderConfig) (scene : Scene) : Prop :=
  ∃ entries start deeds, start.IsWhole ∧
    (new entries start).run config (fun _ _ => True) deeds = some scene

/-- The candidate of a tab. -/
def candidate? (scene : Scene) (tabId : String) : Option Candidate :=
  (scene.election.contenders.get? tabId).map (·.candidate)

/-- The role of a tab. -/
def role? (scene : Scene) (tabId : String) : Option Role :=
  (scene.candidate? tabId).bind Candidate.role

/-- The stored text of the lease. -/
def text (config : LeaderConfig) (scene : Scene) : Option String :=
  scene.election.store.peek config.leaseKey

/-- The tabs that lead. -/
def leaders (scene : Scene) : List String :=
  scene.election.contenders.those fun contender => contender.candidate.isLeader

/-- What holds of a candidate in every scene. -/
structure TabSound (config : LeaderConfig) (now : Instant) (text : Option String) (tabId : String)
    (candidate : Candidate) : Prop where
  identity : candidate.tabId = tabId
  settings : candidate.config = config
  valid : config.fault? = none
  timed : candidate.WellTimed now
  honest : candidate.Honest text

/-- What holds of every scene. -/
structure Sound (config : LeaderConfig) (scene : Scene) : Prop where
  proper : scene.election.contenders.IsProper
  works : scene.election.store.Works config.leaseKey
  whole : scene.now.IsWhole
  equipped : ∀ tabId contender, scene.election.contenders.get? tabId = some contender →
    contender.hasStorage = true
  tabs : ∀ tabId candidate, scene.candidate? tabId = some candidate →
    TabSound config scene.now (scene.text config) tabId candidate

/-- A new scene is sound, whatever is stored: there are no tabs to be unsound. -/
theorem sound_of_new (config : LeaderConfig) (entries : Entries) {now : Instant}
    (whole : now.IsWhole) : (new entries now).Sound config where
  proper := List.nodup_nil
  works := ⟨rfl, rfl, rfl, by simp [new]⟩
  whole := whole
  equipped := by simp [new]
  tabs := by simp [new, candidate?]

variable {config : LeaderConfig} {scene next : Scene}

/-- The candidate of a tab that takes part in the election. -/
theorem candidate?_of_found {tabId : String} {contender : Contender}
    (found : scene.election.contenders.get? tabId = some contender) :
    scene.candidate? tabId = some contender.candidate := by
  rw [candidate?, found]
  rfl

/-- A tab in a sound scene keeps to the shared store in an operation at the time of the scene. -/
theorem Sound.ready (sound : scene.Sound config) {tabId : String} {contender : Contender}
    (found : scene.election.contenders.get? tabId = some contender) {action : Candidate.Action}
    (atNow : action.IsAt scene.now) :
    TabSound config scene.now (scene.text config) tabId contender.candidate ∧
      Election.storageOf contender = SharedStore.storage ∧
      Access.Confined config.leaseKey
        (fun result => Candidate.Succeeds scene.now contender.candidate result.1)
        (contender.candidate.act action) := by
  have tab := sound.tabs tabId contender.candidate (candidate?_of_found found)
  have confined := contender.candidate.confined_act atNow
  rw [tab.settings] at confined
  exact ⟨tab, if_pos (sound.equipped tabId contender found), confined⟩

/-- The clock does not go back, whatever is done. Only the passing of time moves it. -/
theorem now_le_after {deed : Deed} (done : scene.after? config deed = some next) :
    scene.now ≤ next.now := by
  cases deed with
  | pass later =>
    obtain ⟨forward, same⟩ := Option.ite_none_right_eq_some.mp done
    cases same
    exact forward.1
  | join tabId =>
    simp only [after?] at done
    split at done
    · cases done
      exact Int.le_refl _
    · cases done
  | dropOut tabId =>
    cases done
    exact Int.le_refl _
  | act tabId action =>
    obtain ⟨-, done⟩ := Option.ite_none_right_eq_some.mp done
    obtain ⟨acted, -, rfl⟩ := Option.map_eq_some_iff.mp done
    exact Int.le_refl _
  | falter tabId action faults =>
    obtain ⟨-, done⟩ := Option.ite_none_right_eq_some.mp done
    obtain ⟨contender, -, rfl⟩ := Option.map_eq_some_iff.mp done
    exact Int.le_refl _

/-- When time passes, the view stays: no text and no candidate changes, and deadlines stay well
timed. -/
theorem after_pass (sound : scene.Sound config) {later : Instant}
    (done : scene.after? config (.pass later) = some next) :
    next.Sound config ∧ scene.now ≤ later ∧ next.now = later ∧
      next.text config = scene.text config ∧ next.candidate? = scene.candidate? := by
  simp only [after?] at done
  split at done
  · rename_i forward
    cases done
    refine ⟨?_, forward.1, rfl, rfl, rfl⟩
    exact { sound with
      whole := forward.2
      tabs := fun tabId candidate present =>
        let tab := sound.tabs tabId candidate present
        { tab with timed := tab.timed.later forward.1 } }
  · cases done

/-- A tab that opens has no role, no deadline and an id of its own. -/
theorem after_join (sound : scene.Sound config) {tabId : String}
    (done : scene.after? config (.join tabId) = some next) :
    next.Sound config ∧ next.now = scene.now ∧ next.text config = scene.text config ∧
      scene.candidate? tabId = none ∧ ∀ other, next.candidate? other =
        if other = tabId then some { tabId, config } else scene.candidate? other := by
  simp only [after?] at done
  split at done
  · rename_i election free joined
    cases done
    obtain ⟨valid, rfl⟩ := Candidate.of_join joined
    have view : ∀ other, ((scene.election.contenders.enrol tabId
        ⟨{ tabId, config }, true⟩).get? other).map (·.candidate) =
        if other = tabId then some { tabId, config } else scene.candidate? other := by
      intro other
      rw [candidate?, Roster.get?_enrol]
      split <;> rfl
    refine ⟨?_, rfl, rfl, by rw [candidate?, free]; rfl, view⟩
    refine { sound with proper := sound.proper.enrol _ _, equipped := ?_, tabs := ?_ }
    · intro other contender present
      simp only [Roster.get?_enrol] at present
      split at present
      · cases present
        rfl
      · exact sound.equipped other contender present
    · intro other candidate present
      rw [candidate?, view] at present
      split at present
      · rename_i same
        cases present
        refine ⟨same.symm, rfl, valid, Candidate.well_timed_of_new _ _ _, ?_⟩
        intro leads
        cases leads
      · exact sound.tabs other candidate present
  · cases done

/-- A tab that is gone leaves the others and the text as they are. Its lease stays behind, as that
of a crashed tab does. -/
theorem after_drop_out (sound : scene.Sound config) {tabId : String}
    (done : scene.after? config (.dropOut tabId) = some next) :
    next.Sound config ∧ next.now = scene.now ∧ next.text config = scene.text config ∧
      ∀ other, next.candidate? other =
        if other = tabId then none else scene.candidate? other := by
  cases done
  have view : ∀ other, candidate? { scene with election := scene.election.dropOut tabId } other =
      if other = tabId then none else scene.candidate? other := by
    intro other
    rw [candidate?, Election.dropOut, Roster.get?_remove]
    split <;> rfl
  refine ⟨?_, rfl, rfl, view⟩
  refine { sound with proper := sound.proper.remove tabId, equipped := ?_, tabs := ?_ }
  · intro other contender present
    simp only [Election.dropOut, Roster.get?_remove] at present
    split at present
    · cases present
    · exact sound.equipped other contender present
  · intro other candidate present
    rw [view] at present
    split at present
    · cases present
    · exact sound.tabs other candidate present

/-- A tab whose candidate is replaced by a later one of the same tab leaves the others as they
are. -/
theorem Sound.replace (sound : scene.Sound config) {tabId : String} {before after : Candidate}
    (present : scene.candidate? tabId = some before) (same : before.SameTab after)
    (timed : after.WellTimed scene.now) {store : SharedStore} (works : store.Works config.leaseKey)
    (upholds : Candidate.Upholds before.tabId (scene.text config) after
      (store.peek config.leaseKey))
    (replaced : next = { scene with election := {
      contenders := scene.election.contenders.update tabId fun contender =>
        { contender with candidate := after }
      store } }) :
    next.Sound config ∧ ∀ other, next.candidate? other =
      if other = tabId then some after else scene.candidate? other := by
  subst replaced
  have view : ∀ other, ((scene.election.contenders.update tabId fun contender =>
      { contender with candidate := after }).get? other).map (·.candidate) =
      if other = tabId then some after else scene.candidate? other := by
    intro other
    rw [candidate?, Roster.get?_update]
    split
    · rename_i here
      obtain ⟨contender, found, -⟩ := Option.map_eq_some_iff.mp present
      rw [here, found]
      rfl
    · rfl
  have tab := sound.tabs tabId before present
  refine ⟨⟨sound.proper.update _ _, works, sound.whole, ?_, ?_⟩, view⟩
  · intro other contender there
    rw [Roster.get?_update] at there
    split at there
    · obtain ⟨old, found, rfl⟩ := Option.map_eq_some_iff.mp there
      exact sound.equipped other old found
    · exact sound.equipped other contender there
  · intro other candidate there
    rw [candidate?, view] at there
    split at there
    · rename_i here
      cases there
      exact ⟨here ▸ same.tabId.trans tab.identity, same.config.trans tab.settings, tab.valid,
        timed, upholds.honest⟩
    · rename_i apart
      have others := sound.tabs other candidate there
      refine { others with honest := upholds.others_honest ?_ others.honest }
      rw [others.identity, tab.identity]
      exact apart

/-- A tab that does an operation responds to the stored text, and nobody else is changed. This is
the inversion that invariants of scenes rest on. -/
theorem after_act (sound : scene.Sound config) {tabId : String} {action : Candidate.Action}
    (done : scene.after? config (.act tabId action) = some next) :
    next.Sound config ∧ next.now = scene.now ∧ action.IsAt scene.now ∧
      ∃ candidate, scene.candidate? tabId = some candidate ∧
        next.text config = (candidate.respond (scene.text config) action).2 ∧
        ∀ other, next.candidate? other =
          if other = tabId then some (candidate.respond (scene.text config) action).1
          else scene.candidate? other := by
  simp only [after?] at done
  split at done
  · rename_i atNow
    rw [Election.act, Option.map_map] at done
    obtain ⟨contender, found, replaced⟩ := Option.map_eq_some_iff.mp done
    have present := candidate?_of_found found
    obtain ⟨tab, seen, confined⟩ := sound.ready found atNow
    obtain ⟨ended, left, works⟩ := Candidate.run_act (SharedStore.serves config.leaseKey)
      contender.candidate action confined scene.election.store sound.works
    obtain ⟨same, timed⟩ := Access.confined_run SharedStore.storage scene.election.store _ confined
    have upholds := contender.candidate.upholds_respond tab.timed.leading tab.honest action
    rw [text, ← ended, ← left] at upholds
    rw [Function.comp_apply, seen] at replaced
    obtain ⟨soundAfter, view⟩ :=
      sound.replace present same (timed tab.timed) works upholds replaced.symm
    refine ⟨soundAfter, ?_, atNow, contender.candidate, present, ?_, ?_⟩
    · rw [← replaced]
    · rw [text, text, ← left, ← replaced]
    · rw [text, ← ended]
      exact view
  · cases done

/-- A tab that does an operation while calls fail keeps the scene sound. That is all that is claimed
of such deeds. -/
theorem after_falter (sound : scene.Sound config) {tabId : String} {action : Candidate.Action}
    {faults : List (Option StorageError)}
    (done : scene.after? config (.falter tabId action faults) = some next) :
    next.Sound config := by
  simp only [after?] at done
  split at done
  · rename_i atNow
    obtain ⟨contender, found, replaced⟩ := Option.map_eq_some_iff.mp done
    have present := candidate?_of_found found
    obtain ⟨tab, seen, confined⟩ := sound.ready found atNow
    have ends : ∀ {property : Candidate × Option Role → Option String → Prop},
        Access.Always property (scene.text config) (contender.candidate.act action) → _ :=
      Access.run_faulty_always (SharedStore.serves config.leaseKey).falters _ confined faults
        scene.election.store sound.works
    obtain ⟨upholds, works⟩ :=
      ends (contender.candidate.always_act tab.timed.leading tab.honest action)
    obtain ⟨⟨same, timed⟩, -⟩ := ends (Access.always_of_confined _ _ confined)
    rw [seen] at replaced
    exact (sound.replace present same (timed tab.timed) works upholds replaced.symm).1
  · cases done

/-- No more tabs lead than there are ids of tabs that may, which turns statements about who leads
into bounds on how many do. -/
theorem Sound.leaders_length_le (sound : scene.Sound config) {tabIds : List String}
    (among : ∀ tabId candidate, scene.candidate? tabId = some candidate →
      candidate.role = some .leader → tabId ∈ tabIds) :
    scene.leaders.length ≤ tabIds.length := by
  refine Roster.those_length_le sound.proper ?_
  intro tabId contender found leads
  exact among tabId contender.candidate (candidate?_of_found found)
    (by simpa [Candidate.isLeader] using leads)

/-- At most one tab leads if no two tabs do. This is the form in which the claim of one leader is
proved. -/
theorem Sound.leaders_length_le_one (sound : scene.Sound config)
    (unique : ∀ first second candidate other, scene.candidate? first = some candidate →
      scene.candidate? second = some other → candidate.role = some .leader →
      other.role = some .leader → first = second) : scene.leaders.length ≤ 1 := by
  refine Roster.those_length_le_one sound.proper ?_
  intro first second contender other left right leads alsoLeads
  exact unique first second contender.candidate other.candidate (candidate?_of_found left)
    (candidate?_of_found right) (by simpa [Candidate.isLeader] using leads)
    (by simpa [Candidate.isLeader] using alsoLeads)

/-- Every deed keeps a scene sound, one kind of deed after the other. This is the step of the
invariant. -/
theorem sound_after (sound : scene.Sound config) {deed : Deed}
    (done : scene.after? config deed = some next) : next.Sound config := by
  cases deed with
  | pass later => exact (after_pass sound done).1
  | join tabId => exact (after_join sound done).1
  | dropOut tabId => exact (after_drop_out sound done).1
  | act tabId action => exact (after_act sound done).1
  | falter tabId action faults => exact after_falter sound done

/-- What every allowed deed keeps holds at the end of a run. Invariants of scenes go by this one
induction, which is on the deeds. -/
theorem run_keeps (invariant : Scene → Prop) {allowed : Scene → Deed → Prop}
    [∀ scene deed, Decidable (allowed scene deed)]
    (step : ∀ scene deed next, invariant scene → allowed scene deed →
      scene.after? config deed = some next → invariant next)
    {first last : Scene} (begins : invariant first) (deeds : List Deed)
    (ran : first.run config allowed deeds = some last) : invariant last := by
  induction deeds generalizing first with
  | nil =>
    cases ran
    exact begins
  | cons deed rest inductionHypothesis =>
    rw [run, List.foldlM_cons] at ran
    obtain ⟨next, done, onward⟩ := Option.bind_eq_some_iff.mp ran
    split at done
    · exact inductionHypothesis (step first deed next begins ‹_› done) onward
    · cases done

/-- The turns of a run are made of its deeds, so a condition on the deeds holds of every turn. -/
theorem deed_of_turn {first : Scene} (deeds : List Deed) :
    ∀ turn ∈ turns config first deeds, turn.deed ∈ deeds := by
  induction deeds generalizing first with
  | nil => simp [turns]
  | cons deed rest inductionHypothesis =>
    rw [turns]
    split
    · simp
    · rintro turn (_ | ⟨_, later⟩)
      · exact List.mem_cons_self
      · exact List.mem_cons_of_mem deed (inductionHypothesis turn later)

/-- What holds at the beginning and is kept by every turn gives what it implies for every turn. -/
theorem turns_keep (invariant : Scene → Prop) (assumed : Turn → Prop) {good : Turn → Prop}
    (step : ∀ turn : Turn, invariant turn.before →
      turn.before.after? config turn.deed = some turn.after → assumed turn →
      invariant turn.after ∧ good turn)
    {first : Scene} (begins : invariant first) (deeds : List Deed)
    (assumes : ∀ turn ∈ turns config first deeds, assumed turn) :
    ∀ turn ∈ turns config first deeds, good turn := by
  induction deeds generalizing first with
  | nil => simp [turns]
  | cons deed rest inductionHypothesis =>
    rw [turns] at assumes ⊢
    split at assumes
    · simp
    · rename_i next done
      obtain ⟨kept, holds⟩ := step ⟨first, deed, next⟩ begins done (assumes _ List.mem_cons_self)
      rintro turn (_ | ⟨_, later⟩)
      · exact holds
      · exact inductionHypothesis kept
          (fun turn later => assumes turn (List.mem_cons_of_mem _ later)) turn later

/-- A scene that comes about is sound, so statements about reachable scenes may start from this. -/
theorem Reachable.sound (reachable : scene.Reachable config) : scene.Sound config := by
  obtain ⟨entries, start, deeds, whole, ran⟩ := reachable
  exact run_keeps (Sound config) (fun _ _ _ sound _ done => sound_after sound done)
    (sound_of_new config entries whole) deeds ran

end Scene

end LiveTabs
