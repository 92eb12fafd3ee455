import LiveTabs.Proofs.Storage.Answers

/-!
# Programs whose calls may fail

A storage may fail any of the calls of a program and answer the others. A call that fails changes
nothing. `Always` says of a program that all its runs on a text end well, whichever calls fail, and
is shown along the calls of the program. A run in which no call fails is one of them, and so is a
run on a storage that itself fails some calls (`Falters`), as a shared store does that is disabled,
switched off or full. A run of which no call failed (`succeeds`) is one on a single text.
-/

namespace LiveTabs

/-- A storage that answers each call under a key as a single text would, or fails it and keeps the
text, in the states that are named. -/
structure Storage.Falters {σ : Type} (storage : Storage σ) (key : String) (usable : σ → Prop)
    (text : σ → Option String) : Prop where
  get : ∀ state, usable state → storage.get state key = .ok (text state) ∨
    ∃ error, storage.get state key = .error error
  set : ∀ state value, usable state → usable (storage.set state key value).2 ∧
    (((storage.set state key value).1 = .ok () ∧
        text (storage.set state key value).2 = some value) ∨
      ∃ error, (storage.set state key value).1 = .error error ∧
        text (storage.set state key value).2 = text state)
  remove : ∀ state, usable state → usable (storage.remove state key).2 ∧
    (((storage.remove state key).1 = .ok () ∧ text (storage.remove state key).2 = none) ∨
      ∃ error, (storage.remove state key).1 = .error error ∧
        text (storage.remove state key).2 = text state)

/-- A storage that works as a single text fails no call, so it is a special case of one that may
fail. -/
theorem Storage.Serves.falters {σ : Type} {storage : Storage σ} {key : String} {working : σ → Prop}
    {text : σ → Option String} (serves : storage.Serves key working text) :
    storage.Falters key working text where
  get state works := .inl (serves.get state works)
  set state value works :=
    have ⟨answered, worksStill, written⟩ := serves.set state value works
    ⟨worksStill, .inl ⟨answered, written⟩⟩
  remove state works :=
    have ⟨answered, worksStill, removed⟩ := serves.remove state works
    ⟨worksStill, .inl ⟨answered, removed⟩⟩

namespace Access

variable {α β σ : Type}

/-- Makes all calls of a program, some of which fail: a call with an error at the head of the faults
fails with it, and all calls after the last of the faults work. -/
def runFaulty (storage : Storage σ) :
    List (Option StorageError) → σ → Access α → α × σ
  | _, state, .done result => (result, state)
  | faults, state, .supported next =>
    let answer := faults.head?.join.isNone && storage.supported state
    runFaulty storage faults.tail state (next answer)
  | faults, state, .get key next =>
    match faults.head?.join with
    | some error => runFaulty storage faults.tail state (next (.error error))
    | none => runFaulty storage faults.tail state (next (storage.get state key))
  | faults, state, .set key value next =>
    match faults.head?.join with
    | some error => runFaulty storage faults.tail state (next (.error error))
    | none =>
      let (answer, after) := storage.set state key value
      runFaulty storage faults.tail after (next answer)
  | faults, state, .remove key next =>
    match faults.head?.join with
    | some error => runFaulty storage faults.tail state (next (.error error))
    | none =>
      let (answer, after) := storage.remove state key
      runFaulty storage faults.tail after (next answer)

/-- All runs of a program on a text end with a property, whichever calls fail. -/
def Always (property : α → Option String → Prop) : Option String → Access α → Prop
  | text, .done result => property result text
  | text, .supported next => ∀ answer, Always property text (next answer)
  | text, .get _ next =>
    Always property text (next (.ok text)) ∧ ∀ error, Always property text (next (.error error))
  | text, .set _ value next =>
    Always property (some value) (next (.ok ())) ∧
      ∀ error, Always property text (next (.error error))
  | text, .remove _ next =>
    Always property none (next (.ok ())) ∧ ∀ error, Always property text (next (.error error))

/-- A sequence always ends well if its second part does from wherever the first part ends. -/
theorem always_bind {property : β → Option String → Prop} (text : Option String)
    (first : Access α) (next : α → Access β)
    (leads : Always (fun result after => Always property after (next result)) text first) :
    Always property text (first >>= next) := by
  show Always property text (bind first next)
  induction first generalizing text with
  | done result => exact leads
  | supported answered inductionHypothesis =>
    exact fun answer => inductionHypothesis answer text (leads answer)
  | get key answered inductionHypothesis =>
    exact ⟨inductionHypothesis _ text leads.1,
      fun error => inductionHypothesis _ text (leads.2 error)⟩
  | set key value answered inductionHypothesis =>
    exact ⟨inductionHypothesis _ _ leads.1,
      fun error => inductionHypothesis _ text (leads.2 error)⟩
  | remove key answered inductionHypothesis =>
    exact ⟨inductionHypothesis _ _ leads.1,
      fun error => inductionHypothesis _ text (leads.2 error)⟩

/-- A property of all ends may be weakened, which is how a part of a program is used for the
whole. -/
theorem always_mono {property weaker : α → Option String → Prop} (text : Option String)
    (program : Access α) (always : Always property text program)
    (implies : ∀ result after, property result after → weaker result after) :
    Always weaker text program := by
  induction program generalizing text with
  | done result => exact implies result text always
  | supported next inductionHypothesis =>
    exact fun answer => inductionHypothesis answer text (always answer)
  | get key next inductionHypothesis =>
    exact ⟨inductionHypothesis _ text always.1,
      fun error => inductionHypothesis _ text (always.2 error)⟩
  | set key value next inductionHypothesis =>
    exact ⟨inductionHypothesis _ _ always.1,
      fun error => inductionHypothesis _ text (always.2 error)⟩
  | remove key next inductionHypothesis =>
    exact ⟨inductionHypothesis _ _ always.1,
      fun error => inductionHypothesis _ text (always.2 error)⟩

/-- What holds of all results of a confined program holds at all its ends, whatever the text is by
then. -/
theorem always_of_confined {key : String} {property : α → Prop} (text : Option String)
    (program : Access α) (confined : Confined key property program) :
    Always (fun result _ => property result) text program := by
  induction program generalizing text with
  | done result => exact confined
  | supported next inductionHypothesis =>
    exact fun answer => inductionHypothesis answer text (confined answer)
  | get key next inductionHypothesis =>
    exact ⟨inductionHypothesis _ text (confined.2 _),
      fun error => inductionHypothesis _ text (confined.2 _)⟩
  | set key value next inductionHypothesis =>
    exact ⟨inductionHypothesis _ _ (confined.2 _),
      fun error => inductionHypothesis _ text (confined.2 _)⟩
  | remove key next inductionHypothesis =>
    exact ⟨inductionHypothesis _ _ (confined.2 _),
      fun error => inductionHypothesis _ text (confined.2 _)⟩

/-- A run in which no call fails ends as the program always does, as one of the courses that faults
allow. -/
theorem run_always {property : α → Option String → Prop} (text : Option String)
    (program : Access α) (always : Always property text program) :
    property (run .singleText text program).1 (run .singleText text program).2 := by
  induction program generalizing text with
  | done result => exact always
  | supported next inductionHypothesis => exact inductionHypothesis _ text (always _)
  | get key next inductionHypothesis => exact inductionHypothesis _ text always.1
  | set key value next inductionHypothesis => exact inductionHypothesis _ _ always.1
  | remove key next inductionHypothesis => exact inductionHypothesis _ _ always.1

/-- On a storage that works as a single text or fails, a confined program that always ends well does
so with any further faults, and the storage is left usable. -/
theorem run_faulty_always {storage : Storage σ} {key : String} {usable : σ → Prop}
    {text : σ → Option String} (falters : storage.Falters key usable text)
    {limits : α → Prop} {property : α → Option String → Prop} (program : Access α)
    (confined : Confined key limits program) (faults : List (Option StorageError)) (state : σ)
    (usableNow : usable state) (always : Always property (text state) program) :
    property (runFaulty storage faults state program).1
        (text (runFaulty storage faults state program).2) ∧
      usable (runFaulty storage faults state program).2 := by
  induction program generalizing faults state with
  | done result => exact ⟨always, usableNow⟩
  | supported next inductionHypothesis =>
    exact inductionHypothesis _ (confined _) _ state usableNow (always _)
  | get other next inductionHypothesis =>
    obtain ⟨rfl, later⟩ := confined
    unfold runFaulty
    split
    · exact inductionHypothesis _ (later _) _ state usableNow (always.2 _)
    · obtain answered | ⟨error, failed⟩ := falters.get state usableNow
      · rw [answered]
        exact inductionHypothesis _ (later _) _ state usableNow always.1
      · rw [failed]
        exact inductionHypothesis _ (later _) _ state usableNow (always.2 _)
  | set other value next inductionHypothesis =>
    obtain ⟨rfl, later⟩ := confined
    unfold runFaulty
    split
    · exact inductionHypothesis _ (later _) _ state usableNow (always.2 _)
    · obtain ⟨usableStill, ⟨answered, written⟩ | ⟨error, failed, kept⟩⟩ :=
        falters.set state value usableNow
      · have onward := always.1
        rw [← written] at onward
        dsimp only
        rw [answered]
        exact inductionHypothesis _ (later _) _ _ usableStill onward
      · have onward := always.2 error
        rw [← kept] at onward
        dsimp only
        rw [failed]
        exact inductionHypothesis _ (later _) _ _ usableStill onward
  | remove other next inductionHypothesis =>
    obtain ⟨rfl, later⟩ := confined
    unfold runFaulty
    split
    · exact inductionHypothesis _ (later _) _ state usableNow (always.2 _)
    · obtain ⟨usableStill, ⟨answered, removed⟩ | ⟨error, failed, kept⟩⟩ :=
        falters.remove state usableNow
      · have onward := always.1
        rw [← removed] at onward
        dsimp only
        rw [answered]
        exact inductionHypothesis _ (later _) _ _ usableStill onward
      · have onward := always.2 error
        rw [← kept] at onward
        dsimp only
        rw [failed]
        exact inductionHypothesis _ (later _) _ _ usableStill onward

/-- Whether no call of a run with faults fails: there is storage, and it answers every call. -/
def succeeds (storage : Storage σ) : List (Option StorageError) → σ → Access α → Bool
  | _, _, .done _ => true
  | faults, state, .supported next =>
    faults.head?.join.isNone && storage.supported state &&
      succeeds storage faults.tail state (next true)
  | faults, state, .get key next =>
    faults.head?.join.isNone && (storage.get state key).isOk &&
      succeeds storage faults.tail state (next (storage.get state key))
  | faults, state, .set key value next =>
    let (answer, after) := storage.set state key value
    faults.head?.join.isNone && answer.isOk && succeeds storage faults.tail after (next answer)
  | faults, state, .remove key next =>
    let (answer, after) := storage.remove state key
    faults.head?.join.isNone && answer.isOk && succeeds storage faults.tail after (next answer)

/-- A run of which no call fails is the run on the single text, even if the storage would fail other
calls. -/
theorem run_faulty_of_succeeds {storage : Storage σ} {key : String} {usable : σ → Prop}
    {text : σ → Option String} (falters : storage.Falters key usable text)
    {limits : α → Prop} (program : Access α) (confined : Confined key limits program)
    (faults : List (Option StorageError)) (state : σ) (usableNow : usable state)
    (succeeded : succeeds storage faults state program = true) :
    (runFaulty storage faults state program).1 = (run .singleText (text state) program).1 ∧
      text (runFaulty storage faults state program).2 =
        (run .singleText (text state) program).2 := by
  induction program generalizing faults state with
  | done result => exact ⟨rfl, rfl⟩
  | supported next inductionHypothesis =>
    simp only [succeeds, Bool.and_eq_true] at succeeded
    obtain ⟨⟨spared, present⟩, onward⟩ := succeeded
    simp only [runFaulty, spared, present, Bool.and_self]
    exact inductionHypothesis true (confined true) _ state usableNow onward
  | get other next inductionHypothesis =>
    obtain ⟨rfl, later⟩ := confined
    simp only [succeeds, Bool.and_eq_true, Option.isNone_iff_eq_none] at succeeded
    obtain ⟨⟨spared, answers⟩, onward⟩ := succeeded
    obtain answered | ⟨error, failed⟩ := falters.get state usableNow
    · simp only [runFaulty, spared]
      rw [answered] at onward ⊢
      exact inductionHypothesis _ (later _) _ state usableNow onward
    · rw [failed] at answers
      cases answers
  | set other value next inductionHypothesis =>
    obtain ⟨rfl, later⟩ := confined
    simp only [succeeds, Bool.and_eq_true, Option.isNone_iff_eq_none] at succeeded
    obtain ⟨⟨spared, answers⟩, onward⟩ := succeeded
    obtain ⟨usableStill, ⟨answered, written⟩ | ⟨error, failed, -⟩⟩ :=
      falters.set state value usableNow
    · simp only [runFaulty, spared]
      rw [answered] at onward ⊢
      have followed := inductionHypothesis _ (later _) _ _ usableStill onward
      rw [written] at followed
      exact followed
    · rw [failed] at answers
      cases answers
  | remove other next inductionHypothesis =>
    obtain ⟨rfl, later⟩ := confined
    simp only [succeeds, Bool.and_eq_true, Option.isNone_iff_eq_none] at succeeded
    obtain ⟨⟨spared, answers⟩, onward⟩ := succeeded
    obtain ⟨usableStill, ⟨answered, removed⟩ | ⟨error, failed, -⟩⟩ :=
      falters.remove state usableNow
    · simp only [runFaulty, spared]
      rw [answered] at onward ⊢
      have followed := inductionHypothesis _ (later _) _ _ usableStill onward
      rw [removed] at followed
      exact followed
    · rw [failed] at answers
      cases answers

/-- A run with faults gives a result that the program may give, so what holds whatever the storage
answers holds here too. -/
theorem run_faulty_may_give (storage : Storage σ) (faults : List (Option StorageError)) (state : σ)
    (program : Access α) : MayGive (runFaulty storage faults state program).1 program := by
  induction program generalizing faults state with
  | done result => rfl
  | supported next inductionHypothesis => exact ⟨_, inductionHypothesis _ _ _⟩
  | get key next inductionHypothesis =>
    unfold runFaulty
    split <;> exact ⟨_, inductionHypothesis _ _ _⟩
  | set key value next inductionHypothesis =>
    unfold runFaulty
    split <;> exact ⟨_, inductionHypothesis _ _ _⟩
  | remove key next inductionHypothesis =>
    unfold runFaulty
    split <;> exact ⟨_, inductionHypothesis _ _ _⟩

end Access

namespace SharedStore

/-- A shared store on which reads of a key are not held back. -/
def Unpinned (key : String) (store : SharedStore) : Prop := ∀ pin ∈ store.pinned, pin.1 ≠ key

/-- Whatever faults are laid on a shared store, a change that works on the memory or fails works on
the store or fails. -/
theorem change_falters {key : String} {store : SharedStore} (unpinned : Unpinned key store)
    (call : MemoryStore → Except StorageError Unit × MemoryStore) {left : Option String}
    (falters : (∃ error, call store.memory = (.error error, store.memory)) ∨
      ((call store.memory).1 = .ok () ∧ (call store.memory).2.peek key = left)) :
    Unpinned key (store.change call).2 ∧
      (((store.change call).1 = .ok () ∧ (store.change call).2.peek key = left) ∨
        ∃ error, (store.change call).1 = .error error ∧
          (store.change call).2.peek key = store.peek key) := by
  unfold change
  split
  · exact ⟨unpinned, .inr ⟨_, rfl, rfl⟩⟩
  split
  · exact ⟨unpinned, .inr ⟨_, rfl, rfl⟩⟩
  obtain ⟨error, failed⟩ | worked := falters
  · rw [failed]
    exact ⟨unpinned, .inr ⟨error, rfl, rfl⟩⟩
  · exact ⟨unpinned, .inl worked⟩

/-- Whatever faults are laid on a shared store, each call under a key that is not pinned works as on
a single text or fails. -/
theorem falters (key : String) : storage.Falters key (Unpinned key) (peek · key) where
  get store unpinned := by
    have free : store.pinned.find? (fun pin => pin.1 == key) = none := by
      rw [List.find?_eq_none]
      intro pin listed
      simpa using unpinned pin listed
    by_cases off : store.off = true
    · simp [storage, get, off]
    by_cases disabled : store.memory.disabled = true
    · simp [storage, get, off, MemoryStore.get, disabled]
    · simp [storage, get, off, MemoryStore.get, disabled, free, peek]
  set store value unpinned := by
    refine change_falters unpinned (·.set key value) ?_
    dsimp only [MemoryStore.set]
    split
    · exact .inl ⟨_, rfl⟩
    · exact .inr ⟨rfl, by simp [MemoryStore.peek]⟩
  remove store unpinned := by
    refine change_falters unpinned (·.remove key) ?_
    dsimp only [MemoryStore.remove]
    split
    · exact .inl ⟨_, rfl⟩
    · exact .inr ⟨rfl, by simp [MemoryStore.peek]⟩

end SharedStore

end LiveTabs
