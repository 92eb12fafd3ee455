import LiveTabs.Feed
import LiveTabs.Storage.Memory

/-!
# Watched storage

The shared storage of a browser tells each tab what the others change. A call that succeeds and
leaves another text under its key than before is a change, and every tab but the caller hears of it.
Tabs hear of the key only and read the text for themselves.
-/

namespace LiveTabs

/-- A text under a key was changed by a tab. -/
structure StorageChange where
  key : String
  /-- The number of the tab. -/
  origin : Nat
deriving DecidableEq

/-- A store in memory and the feed of its changes. -/
structure WatchedStore where
  memory : MemoryStore := {}
  changes : Feed StorageChange := {}

namespace WatchedStore

/-- Lets a tab use the store and gives the tab its number. Hosts number tabs in 64 bits, which no
browser uses up, so numbers are never given twice. -/
def attach (store : WatchedStore) : Nat × WatchedStore :=
  let (number, changes) := store.changes.join
  (number, { store with changes })

/-- Makes a call of a tab that leaves a given text under a key, and tells of it if it is a
change. -/
def change (store : WatchedStore) (origin : Nat) (key : String) (value : Option String)
    (call : MemoryStore → Except StorageError Unit × MemoryStore) :
    Except StorageError Unit × WatchedStore :=
  match store.memory.get key, call store.memory with
  | .error error, _ => (.error error, store)
  | .ok _, (.error error, memory) => (.error error, { store with memory })
  | .ok before, (.ok (), memory) =>
    if before = value then (.ok (), { store with memory })
    else (.ok (), { memory, changes := store.changes.send { key, origin } })

/-- Puts a text under a key for a tab. -/
def set (store : WatchedStore) (origin : Nat) (key value : String) :
    Except StorageError Unit × WatchedStore :=
  store.change origin key (some value) (·.set key value)

/-- Removes the text under a key for a tab. -/
def remove (store : WatchedStore) (origin : Nat) (key : String) :
    Except StorageError Unit × WatchedStore :=
  store.change origin key none (·.remove key)

/-- How the store answers the calls of a tab. -/
def storage (origin : Nat) : Storage WatchedStore where
  supported _ := true
  get store key := store.memory.get key
  set store key value := store.set origin key value
  remove store key := store.remove origin key

/-- The changes by others that a tab has not heard of, as keys in order. -/
def news (store : WatchedStore) (number : Nat) : List String :=
  ((store.changes.pending number).filter fun change => change.origin != number).map (·.key)

/-- A tab has heard of everything. -/
def markHeard (store : WatchedStore) (number : Nat) : WatchedStore :=
  { store with changes := store.changes.leave number 0 }

/-- A tab hears of the next change by another tab, if there is one. Its own changes are passed
over. -/
def hearNext (store : WatchedStore) (number : Nat) : Option String × WatchedStore :=
  let ahead := (store.changes.pending number).dropWhile fun change => change.origin == number
  match ahead with
  | [] => (none, store.markHeard number)
  | change :: later =>
    (some change.key, { store with changes := store.changes.leave number later.length })

end WatchedStore

end LiveTabs
