import LiveTabs.Storage.Access
import LiveTabs.Storage.Entries

/-!
# Storage in memory

A store that keeps its texts in memory and can be disabled, after which every call fails and leaves
the contents as they are. `SharedStore` adds the faults that storage of a browser shows: it can be
switched off, it can be full, and reads of a key can lag behind its writes.
-/

namespace LiveTabs

/-- A store in memory. -/
structure MemoryStore where
  entries : Entries := {}
  disabled : Bool := false

namespace MemoryStore

/-- The fault of a disabled store. -/
def disabledError : StorageError := .backend "storage disabled"

/-- The text under a key, whether or not the store is disabled. -/
def peek (store : MemoryStore) (key : String) : Option String := store.entries.get? key

/-- Reads the text under a key. -/
def get (store : MemoryStore) (key : String) : Except StorageError (Option String) :=
  if store.disabled then .error disabledError else .ok (store.peek key)

/-- Puts a text under a key. -/
def set (store : MemoryStore) (key value : String) : Except StorageError Unit × MemoryStore :=
  if store.disabled then (.error disabledError, store)
  else (.ok (), { store with entries := store.entries.put key value })

/-- Removes the text under a key, if there is one. -/
def remove (store : MemoryStore) (key : String) : Except StorageError Unit × MemoryStore :=
  if store.disabled then (.error disabledError, store)
  else (.ok (), { store with entries := store.entries.erase key })

/-- How a store in memory answers calls. -/
def storage : Storage MemoryStore where
  supported _ := true
  get := get
  set := set
  remove := remove

end MemoryStore

/-- A store in memory with the faults that can be laid on it. -/
structure SharedStore where
  memory : MemoryStore := {}
  /-- Whether the host says that it has no storage. -/
  off : Bool := false
  /-- Whether writing fails for want of room. -/
  readOnly : Bool := false
  /-- What reads of a key give instead of its text; the first entry of a key counts. -/
  pinned : List (String × Option String) := []

namespace SharedStore

/-- The fault of a full store. -/
def quotaError : StorageError := .backend "quota"

/-- The text under a key, whatever the faults. -/
def peek (store : SharedStore) (key : String) : Option String := store.memory.peek key

/-- Reads a key: a pinned answer is given as long as the memory itself can be read. -/
def get (store : SharedStore) (key : String) : Except StorageError (Option String) :=
  if store.off then .error .unavailable
  else match store.memory.get key with
    | .error error => .error error
    | .ok value =>
      match store.pinned.find? fun pin => pin.1 == key with
      | some pin => .ok pin.2
      | none => .ok value

/-- Changes the memory by a call, unless a fault keeps the call from it. -/
def change (store : SharedStore) (call : MemoryStore → Except StorageError Unit × MemoryStore) :
    Except StorageError Unit × SharedStore :=
  if store.off then (.error .unavailable, store)
  else if store.readOnly then (.error quotaError, store)
  else
    let (answer, memory) := call store.memory
    (answer, { store with memory })

/-- How a shared store answers calls. -/
def storage : Storage SharedStore where
  supported store := !store.off
  get := get
  set store key value := store.change (·.set key value)
  remove store key := store.change (·.remove key)

/-- What can happen to a store other than by the calls of tabs. -/
inductive Event where
  | disable (on : Bool)
  | switchOff (on : Bool)
  | fill (on : Bool)
  /-- Somebody else puts a text. -/
  | put (key value : String)
  /-- Somebody else removes a text. -/
  | erase (key : String)
  /-- From now on reads of the key give its present text. -/
  | pin (key : String)
  | unpin (key : String)

/-- The store after an event. -/
def apply (store : SharedStore) : Event → SharedStore
  | .disable on => { store with memory := { store.memory with disabled := on } }
  | .switchOff on => { store with off := on }
  | .fill on => { store with readOnly := on }
  | .put key value => { store with memory := (store.memory.set key value).2 }
  | .erase key => { store with memory := (store.memory.remove key).2 }
  | .pin key => { store with pinned := (key, store.peek key) :: store.pinned }
  | .unpin key => { store with pinned := store.pinned.filter fun pin => !(pin.1 == key) }

end SharedStore

end LiveTabs
