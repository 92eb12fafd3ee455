import LiveTabs.Storage.Memory
import LiveTabs.Storage.Watched

/-!
# Programs on a single text

The candidates of an election make all their storage calls under one key. To such a program every
working store is a store for one text: `run_serves` carries a run on the single text over to the
shared store and to the watched store, and `step_serves` does so for one call at a time. What a
program does to its text can then be settled without regard to other keys, faults or notices.

`Confined` and `AfterWrite` speak of a program apart from any store: the first says that all its
calls are under a key and all its results have a property, whatever it is answered; the second that
it ends well from wherever it has just written.
-/

namespace LiveTabs

/-- A store for one text, which answers every call under whatever key. -/
def Storage.singleText : Storage (Option String) where
  supported _ := true
  get text _ := .ok text
  set _ _ value := (.ok (), some value)
  remove _ _ := (.ok (), none)

/-- A storage that works, in the states that are named, as a single text under a key. -/
structure Storage.Serves {σ : Type} (storage : Storage σ) (key : String) (working : σ → Prop)
    (text : σ → Option String) : Prop where
  supported : ∀ state, working state → storage.supported state = true
  get : ∀ state, working state → storage.get state key = .ok (text state)
  set : ∀ state value, working state → (storage.set state key value).1 = .ok () ∧
    working (storage.set state key value).2 ∧ text (storage.set state key value).2 = some value
  remove : ∀ state, working state → (storage.remove state key).1 = .ok () ∧
    working (storage.remove state key).2 ∧ text (storage.remove state key).2 = none

namespace Access

variable {α β σ : Type}

/-- All calls of a program are under one key, and all its results have a property, whatever it is
answered. -/
def Confined (key : String) (property : α → Prop) : Access α → Prop
  | .done result => property result
  | .supported next => ∀ answer, Confined key property (next answer)
  | .get other next => other = key ∧ ∀ answer, Confined key property (next answer)
  | .set other _ next => other = key ∧ ∀ answer, Confined key property (next answer)
  | .remove other next => other = key ∧ ∀ answer, Confined key property (next answer)

/-- A sequence is confined if its first part is, with results that lead to a confined second
part. -/
theorem confined_bind {key : String} {property : β → Prop} (first : Access α)
    (next : α → Access β)
    (leads : Confined key (fun result => Confined key property (next result)) first) :
    Confined key property (first >>= next) := by
  show Confined key property (bind first next)
  induction first with
  | done result => exact leads
  | supported answered inductionHypothesis =>
    exact fun answer => inductionHypothesis answer (leads answer)
  | get other answered inductionHypothesis =>
    exact ⟨leads.1, fun answer => inductionHypothesis answer (leads.2 answer)⟩
  | set other value answered inductionHypothesis =>
    exact ⟨leads.1, fun answer => inductionHypothesis answer (leads.2 answer)⟩
  | remove other answered inductionHypothesis =>
    exact ⟨leads.1, fun answer => inductionHypothesis answer (leads.2 answer)⟩

/-- A program that first asks for storage is confined if it is in either case, because the answer is
no part of the text. -/
theorem confined_if_supported {key : String} {property : α → Prop} {there absent : Access α}
    (answered : Confined key property there) (unanswered : Confined key property absent) :
    Confined key property (do if ← isSupported then there else absent) := by
  rintro (_ | _)
  · exact unanswered
  · exact answered

/-- A property of all results may be weakened, which is how a part of a program is used for the
whole. -/
theorem confined_mono {key : String} {property weaker : α → Prop} (program : Access α)
    (confined : Confined key property program)
    (implies : ∀ result, property result → weaker result) : Confined key weaker program := by
  induction program with
  | done result => exact implies result confined
  | supported next inductionHypothesis =>
    exact fun answer => inductionHypothesis answer (confined answer)
  | get other next inductionHypothesis =>
    exact ⟨confined.1, fun answer => inductionHypothesis answer (confined.2 answer)⟩
  | set other value next inductionHypothesis =>
    exact ⟨confined.1, fun answer => inductionHypothesis answer (confined.2 answer)⟩
  | remove other next inductionHypothesis =>
    exact ⟨confined.1, fun answer => inductionHypothesis answer (confined.2 answer)⟩

/-- Every run of a confined program ends with a result that has the property, whatever the storage
is. -/
theorem confined_run {key : String} {property : α → Prop} (storage : Storage σ) (state : σ)
    (program : Access α) (confined : Confined key property program) :
    property (run storage state program).1 := by
  induction program generalizing state with
  | done result => exact confined
  | supported next inductionHypothesis => exact inductionHypothesis _ _ (confined _)
  | get other next inductionHypothesis => exact inductionHypothesis _ _ (confined.2 _)
  | set other value next inductionHypothesis => exact inductionHypothesis _ _ (confined.2 _)
  | remove other next inductionHypothesis => exact inductionHypothesis _ _ (confined.2 _)

/-- A run that begins with a write goes on with the answer to it, from the storage that the write
leaves. -/
theorem run_set (storage : Storage σ) (state : σ) (key value : String)
    (next : Except StorageError Unit → Access α) :
    run storage state (.set key value next) =
      run storage (storage.set state key value).2 (next (storage.set state key value).1) := rfl

/-- A run that begins with a removal goes on with the answer to it, from the storage that the
removal leaves. -/
theorem run_remove (storage : Storage σ) (state : σ) (key : String)
    (next : Except StorageError Unit → Access α) :
    run storage state (.remove key next) =
      run storage (storage.remove state key).2 (next (storage.remove state key).1) := rfl

/-- On a storage that serves as a single text, a program confined to its key gives the result
that it gives on the text, leaves the same text, and leaves the storage working. -/
theorem run_serves {storage : Storage σ} {key : String} {working : σ → Prop}
    {text : σ → Option String} (serves : storage.Serves key working text)
    {property : α → Prop} (program : Access α) (confined : Confined key property program)
    (state : σ) (works : working state) :
    (run storage state program).1 = (run .singleText (text state) program).1 ∧
      text (run storage state program).2 = (run .singleText (text state) program).2 ∧
      working (run storage state program).2 := by
  induction program generalizing state with
  | done result => exact ⟨rfl, rfl, works⟩
  | supported next inductionHypothesis =>
    have onward := inductionHypothesis _ (confined (storage.supported state)) state works
    rw [serves.supported state works] at onward
    rw [run, serves.supported state works]
    exact onward
  | get other next inductionHypothesis =>
    obtain ⟨rfl, later⟩ := confined
    rw [run, serves.get state works]
    exact inductionHypothesis _ (later _) state works
  | set other value next inductionHypothesis =>
    obtain ⟨rfl, later⟩ := confined
    obtain ⟨answered, worksStill, written⟩ := serves.set state value works
    have onward := inductionHypothesis _ (later (.ok ())) _ worksStill
    rw [written] at onward
    rw [run_set, answered]
    exact onward
  | remove other next inductionHypothesis =>
    obtain ⟨rfl, later⟩ := confined
    obtain ⟨answered, worksStill, removed⟩ := serves.remove state works
    have onward := inductionHypothesis _ (later (.ok ())) _ worksStill
    rw [removed] at onward
    rw [run_remove, answered]
    exact onward

/-- One call of a confined program on such a storage leaves it working and the program confined, and
does not change what a run on the text comes to. -/
theorem step_serves {storage : Storage σ} {key : String} {working : σ → Prop}
    {text : σ → Option String} (serves : storage.Serves key working text)
    {property : α → Prop} (program : Access α) (confined : Confined key property program)
    (state : σ) (works : working state) :
    working (step storage state program).2 ∧
      Confined key property (step storage state program).1 ∧
      run .singleText (text (step storage state program).2) (step storage state program).1 =
        run .singleText (text state) program := by
  cases program with
  | done result => exact ⟨works, confined, rfl⟩
  | supported next =>
    refine ⟨works, confined _, ?_⟩
    rw [step, serves.supported state works]
    rfl
  | get other next =>
    obtain ⟨rfl, later⟩ := confined
    refine ⟨works, later _, ?_⟩
    rw [step, serves.get state works]
    rfl
  | set other value next =>
    obtain ⟨rfl, later⟩ := confined
    obtain ⟨answered, worksStill, written⟩ := serves.set state value works
    refine ⟨worksStill, later _, ?_⟩
    simp only [step]
    rw [answered, written]
    rfl
  | remove other next =>
    obtain ⟨rfl, later⟩ := confined
    obtain ⟨answered, worksStill, removed⟩ := serves.remove state works
    refine ⟨worksStill, later _, ?_⟩
    simp only [step]
    rw [answered, removed]
    rfl

/-- Whenever a program has written or removed its text, the run that goes on from there undisturbed
has a property. -/
def AfterWrite (property : α × Option String → Prop) : Access α → Prop
  | .done _ => True
  | .supported next => ∀ answer, AfterWrite property (next answer)
  | .get _ next => ∀ answer, AfterWrite property (next answer)
  | .set _ value next =>
    property (run .singleText (some value) (next (.ok ()))) ∧
      ∀ answer, AfterWrite property (next answer)
  | .remove _ next =>
    property (run .singleText none (next (.ok ()))) ∧ ∀ answer, AfterWrite property (next answer)

/-- A property of the end may be weakened, which is how a part of a program is used for the
whole. -/
theorem after_write_mono {property weaker : α × Option String → Prop} (program : Access α)
    (settles : AfterWrite property program) (implies : ∀ ended, property ended → weaker ended) :
    AfterWrite weaker program := by
  induction program with
  | done result => trivial
  | supported next inductionHypothesis =>
    exact fun answer => inductionHypothesis answer (settles answer)
  | get other next inductionHypothesis =>
    exact fun answer => inductionHypothesis answer (settles answer)
  | set other value next inductionHypothesis =>
    exact ⟨implies _ settles.1, fun answer => inductionHypothesis answer (settles.2 answer)⟩
  | remove other next inductionHypothesis =>
    exact ⟨implies _ settles.1, fun answer => inductionHypothesis answer (settles.2 answer)⟩

/-- What holds at every end holds in particular at the ends after a write. -/
theorem after_write_of_always {property : α × Option String → Prop} (program : Access α)
    (always : ∀ ended, property ended) : AfterWrite property program := by
  induction program with
  | done result => trivial
  | supported next inductionHypothesis => exact inductionHypothesis
  | get other next inductionHypothesis => exact inductionHypothesis
  | set other value next inductionHypothesis => exact ⟨always _, inductionHypothesis⟩
  | remove other next inductionHypothesis => exact ⟨always _, inductionHypothesis⟩

/-- A sequence settles after a write if its second part does, and leads from where the first part
ends to an end with the property. -/
theorem after_write_bind {property : β × Option String → Prop} (first : Access α)
    (next : α → Access β)
    (onward : AfterWrite (fun ended => property (run .singleText ended.2 (next ended.1))) first)
    (leads : ∀ result, AfterWrite property (next result)) :
    AfterWrite property (first >>= next) := by
  show AfterWrite property (bind first next)
  have sequence : ∀ (text : Option String) (program : Access α),
      run .singleText text (bind program next) =
        run .singleText (run .singleText text program).2 (next (run .singleText text program).1) :=
    fun text program => run_bind .singleText text program next
  induction first with
  | done result => exact leads result
  | supported answered inductionHypothesis =>
    exact fun answer => inductionHypothesis answer (onward answer)
  | get other answered inductionHypothesis =>
    exact fun answer => inductionHypothesis answer (onward answer)
  | set other value answered inductionHypothesis =>
    refine ⟨?_, fun answer => inductionHypothesis answer (onward.2 answer)⟩
    rw [sequence]
    exact onward.1
  | remove other answered inductionHypothesis =>
    refine ⟨?_, fun answer => inductionHypothesis answer (onward.2 answer)⟩
    rw [sequence]
    exact onward.1

/-- A call that changes the text leaves the rest of the program to a run with the property. -/
theorem step_after_write {storage : Storage σ} {key : String} {working : σ → Prop}
    {text : σ → Option String} (serves : storage.Serves key working text)
    {property : α × Option String → Prop} {limits : α → Prop} (program : Access α)
    (confined : Confined key limits program) (settles : AfterWrite property program) (state : σ)
    (works : working state) :
    AfterWrite property (step storage state program).1 ∧
      (text (step storage state program).2 ≠ text state →
        property (run .singleText (text (step storage state program).2)
          (step storage state program).1)) := by
  cases program with
  | done result => exact ⟨settles, fun changed => absurd rfl changed⟩
  | supported next => exact ⟨settles _, fun changed => absurd rfl changed⟩
  | get other next => exact ⟨settles _, fun changed => absurd rfl changed⟩
  | set other value next =>
    obtain ⟨rfl, -⟩ := confined
    obtain ⟨answered, -, written⟩ := serves.set state value works
    refine ⟨settles.2 _, ?_⟩
    intro _
    simp only [step]
    rw [answered, written]
    exact settles.1
  | remove other next =>
    obtain ⟨rfl, -⟩ := confined
    obtain ⟨answered, -, removed⟩ := serves.remove state works
    refine ⟨settles.2 _, ?_⟩
    intro _
    simp only [step]
    rw [answered, removed]
    exact settles.1

end Access

namespace SharedStore

/-- A shared store on which calls under a key neither fail nor see an old text. -/
structure Works (key : String) (store : SharedStore) : Prop where
  on : store.off = false
  writable : store.readOnly = false
  enabled : store.memory.disabled = false
  unpinned : ∀ pin ∈ store.pinned, pin.1 ≠ key

/-- A shared store that works is a single text under each of its keys, so what is proved of one text
holds in it. -/
theorem serves (key : String) : storage.Serves key (Works key) (peek · key) where
  supported store works := by simp [storage, works.on]
  get store works := by
    have free : store.pinned.find? (fun pin => pin.1 == key) = none := by
      simpa using works.unpinned
    simp [storage, get, works.on, MemoryStore.get, works.enabled, free, peek]
  set store value works := by
    obtain ⟨on, writable, enabled, unpinned⟩ := works
    refine ⟨?_, ⟨?_, ?_, ?_, ?_⟩, ?_⟩ <;>
      simp [storage, change, on, writable, MemoryStore.set, enabled, peek, MemoryStore.peek]
    exact fun first second member => unpinned (first, second) member
  remove store works := by
    obtain ⟨on, writable, enabled, unpinned⟩ := works
    refine ⟨?_, ⟨?_, ?_, ?_, ?_⟩, ?_⟩ <;>
      simp [storage, change, on, writable, MemoryStore.remove, enabled, peek, MemoryStore.peek]
    exact fun first second member => unpinned (first, second) member

end SharedStore

end LiveTabs
