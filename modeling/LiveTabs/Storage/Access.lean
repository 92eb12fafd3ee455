/-!
# Access to shared storage

The tabs of a browser share a store of texts under keys. A program that uses the store is written
as the calls it makes and what it does with every answer, so one definition serves both for running
a program at a stretch (`Access.run`) and for running it one call at a time, with the calls of other
tabs in between (`Access.step`). What a store answers, faults included, is data (`Storage`).
-/

namespace LiveTabs

/-- Why a storage call failed. -/
inductive StorageError where
  /-- The host has no storage, or has switched it off. -/
  | unavailable
  /-- The storage refused the call. -/
  | backend (reason : String)
deriving DecidableEq

/-- The description of a failed call for the user. -/
def StorageError.message : StorageError → String
  | .unavailable => "Storage unavailable"
  | .backend reason => "Storage backend error: " ++ reason

/-- A program that may call the shared storage before it gives a result. -/
inductive Access (α : Type) where
  | done (result : α)
  /-- Asks whether there is storage at all. -/
  | supported (next : Bool → Access α)
  | get (key : String) (next : Except StorageError (Option String) → Access α)
  | set (key value : String) (next : Except StorageError Unit → Access α)
  | remove (key : String) (next : Except StorageError Unit → Access α)

/-- How a store in a state of type `σ` answers calls. -/
structure Storage (σ : Type) where
  supported : σ → Bool
  get : σ → String → Except StorageError (Option String)
  set : σ → String → String → Except StorageError Unit × σ
  remove : σ → String → Except StorageError Unit × σ

/-- The store of a host that has none: every call fails and changes nothing. -/
def Storage.absent {σ : Type} : Storage σ where
  supported _ := false
  get _ _ := .error .unavailable
  set state _ _ := (.error .unavailable, state)
  remove state _ := (.error .unavailable, state)

namespace Access

variable {α β : Type}

/-- Runs a program and then one that depends on its result. -/
def bind : Access α → (α → Access β) → Access β
  | .done result, next => next result
  | .supported answered, next => .supported fun answer => bind (answered answer) next
  | .get key answered, next => .get key fun answer => bind (answered answer) next
  | .set key value answered, next => .set key value fun answer => bind (answered answer) next
  | .remove key answered, next => .remove key fun answer => bind (answered answer) next

instance : Monad Access where
  pure := .done
  bind := bind

/-- The call that asks whether there is storage. -/
def isSupported : Access Bool := .supported .done

/-- The call that reads the text under a key. -/
def getItem (key : String) : Access (Except StorageError (Option String)) := .get key .done

/-- The call that puts a text under a key. -/
def setItem (key value : String) : Access (Except StorageError Unit) := .set key value .done

/-- The call that removes the text under a key. -/
def removeItem (key : String) : Access (Except StorageError Unit) := .remove key .done

/-- Makes the next call of a program. A finished program makes none. -/
def step {σ : Type} (storage : Storage σ) (state : σ) : Access α → Access α × σ
  | .done result => (.done result, state)
  | .supported next => (next (storage.supported state), state)
  | .get key next => (next (storage.get state key), state)
  | .set key value next =>
    let (answer, after) := storage.set state key value
    (next answer, after)
  | .remove key next =>
    let (answer, after) := storage.remove state key
    (next answer, after)

/-- Makes all calls of a program with nothing in between. -/
def run {σ : Type} (storage : Storage σ) (state : σ) : Access α → α × σ
  | .done result => (result, state)
  | .supported next => run storage state (next (storage.supported state))
  | .get key next => run storage state (next (storage.get state key))
  | .set key value next =>
    let (answer, after) := storage.set state key value
    run storage after (next answer)
  | .remove key next =>
    let (answer, after) := storage.remove state key
    run storage after (next answer)

/-- A finished program gives its result and leaves the store alone. -/
@[simp] theorem run_pure {σ : Type} (storage : Storage σ) (state : σ) (result : α) :
    run storage state (pure result) = (result, state) := rfl

/-- Running two programs one after the other is running their sequence. -/
@[simp] theorem run_bind {σ : Type} (storage : Storage σ) (state : σ) (first : Access α)
    (next : α → Access β) :
    run storage state (first >>= next) =
      run storage (run storage state first).2 (next (run storage state first).1) := by
  show run storage state (bind first next) = _
  induction first generalizing state with
  | done result => rfl
  | supported answered inductionHypothesis => exact inductionHypothesis _ _
  | get key answered inductionHypothesis => exact inductionHypothesis _ _
  | set key value answered inductionHypothesis => exact inductionHypothesis _ _
  | remove key answered inductionHypothesis => exact inductionHypothesis _ _

end Access

end LiveTabs
