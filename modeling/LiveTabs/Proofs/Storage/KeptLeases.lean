import LiveTabs.Proofs.Lease.StoredLease
import LiveTabs.Storage.Memory

/-!
# Leases kept in memory

A store in memory keeps leases under keys as texts, beside texts that were put there by others, and
can be disabled at any time. It is a map of leases all the same (`leases_are_kept`): what a read
finds under a key is decided by the last call that changed this key and did not fail. A lease comes
back with its holder, whatever characters the name has, and with its time cut to whole milliseconds;
a text that is no lease counts as none. `Lease.Says` tells which texts are leases without reading
them in any order: the two fields stand in an object, each once and among others, or make an array.
-/

namespace LiveTabs

namespace Json.Document

/-- A field is given exactly if it stands once: twice is an error, and not at all is left out. -/
theorem field_eq_some_iff (fields : List (String × Document)) (name : String) (given : Document) :
    field? fields name = some (some given) ↔
      (fields.filter fun field => field.1 == name) = [(name, given)] := by
  have named : ∀ field ∈ fields.filter fun field => field.1 == name, field.1 = name := by
    intro field there
    simpa using (List.mem_filter.mp there).2
  rw [field?]
  generalize (fields.filter fun field => field.1 == name) = found at named ⊢
  rcases found with _ | ⟨⟨key, value⟩, _ | ⟨next, rest⟩⟩
  · simp
  · have same : key = name := named (key, value) List.mem_cons_self
    simp [same]
  · simp

/-- A field that has to be given is given, if the whole was read. -/
theorem given_of_required {α : Type} {take : Document → Option α} {given : Option Document}
    {value : α} (taken : required take given = some value) :
    ∃ document, given = some document ∧ take document = some value := by
  cases given with
  | none => cases taken
  | some document => exact ⟨document, rfl, taken⟩

end Json.Document

/-- Milliseconds lead to an instant exactly if they are its nanoseconds without a rest, and the
calendar has them. -/
theorem Instant.of_milliseconds_eq_some_iff (milliseconds : Int) (instant : Instant) :
    ofMilliseconds? milliseconds = some instant ↔
      instant.nanoseconds = milliseconds * 1000000 := by
  rw [ofMilliseconds?, ofNanoseconds?]
  constructor
  · intro reached
    split at reached
    · cases reached
      rfl
    · cases reached
  · intro same
    rw [← same, dif_pos ⟨instant.notBefore, instant.notAfter⟩]

namespace Lease

open Json (Document)

/-- A document has the two fields of a lease with the given values. -/
inductive FieldsOf : Document → Document → Document → Prop
  | listed (owner acquiredAt : Document) : FieldsOf (.array [owner, acquiredAt]) owner acquiredAt
  | named {members : List (List Json.Piece × Document)} {fields : List (String × Document)}
    {owner acquiredAt : Document} (keys : Document.namedMembers members = some fields)
    (holder : (fields.filter fun field => field.1 == "ownerId") = [("ownerId", owner)])
    (time : (fields.filter fun field => field.1 == "acquiredAt") = [("acquiredAt", acquiredAt)]) :
    FieldsOf (.object members) owner acquiredAt

/-- A text says a lease: it is a document with the two fields, the name of the holder and the
milliseconds of an instant. -/
def Says (text : String) (lease : Lease) : Prop :=
  ∃ document owner acquiredAt milliseconds,
    Document.ofText text = some document ∧ FieldsOf document owner acquiredAt ∧
      owner.text? = some lease.owner ∧ acquiredAt.integer? = some milliseconds ∧
      lease.acquiredAt.nanoseconds = milliseconds * 1000000

/-- Both fields of a document are read exactly if it has them, in whichever of the two spellings of
a record. -/
theorem fields_eq_some_iff (document owner acquiredAt : Document) :
    document.fields ["ownerId", "acquiredAt"] = some [some owner, some acquiredAt] ↔
      FieldsOf document owner acquiredAt := by
  constructor
  · intro read
    cases document with
    | object members =>
      obtain ⟨fields, keys, given⟩ := Option.bind_eq_some_iff.mp read
      have both : Document.field? fields "ownerId" = some (some owner) ∧
          Document.field? fields "acquiredAt" = some (some acquiredAt) := by
        rcases holder : Document.field? fields "ownerId" with _ | found
        · simp [holder] at given
        · rcases time : Document.field? fields "acquiredAt" with _ | other
          · simp [holder, time] at given
          · simpa [holder, time] using given
      rw [Document.field_eq_some_iff, Document.field_eq_some_iff] at both
      exact .named keys both.1 both.2
    | array items =>
      have pair : items = [owner, acquiredAt] := by
        rw [Document.fields] at read
        split at read
        · obtain ⟨first, rest, rfl, same, others⟩ := List.map_eq_cons_iff.mp (Option.some.inj read)
          obtain ⟨second, rest, rfl, again, ended⟩ := List.map_eq_cons_iff.mp others
          rw [List.map_eq_nil_iff.mp ended, Option.some.inj same, Option.some.inj again]
        · cases read
      rw [pair]
      exact .listed owner acquiredAt
    | _ => cases read
  · intro has
    cases has with
    | listed => rfl
    | named keys holder time =>
      rw [← Document.field_eq_some_iff] at holder time
      simp [Document.fields, keys, holder, time]

/-- A text is read as a lease exactly if it says the lease. Every other text reads as no lease. -/
theorem of_text_eq_some_iff (text : String) (lease : Lease) :
    ofText text = some lease ↔ Says text lease := by
  constructor
  · intro read
    obtain ⟨document, written, read⟩ := Option.bind_eq_some_iff.mp read
    obtain ⟨given, found, read⟩ := Option.bind_eq_some_iff.mp read
    split at read
    · rename_i owner acquiredAt
      obtain ⟨holder, held, read⟩ := Option.bind_eq_some_iff.mp read
      obtain ⟨milliseconds, time, read⟩ := Option.bind_eq_some_iff.mp read
      obtain ⟨instant, inside, read⟩ := Option.bind_eq_some_iff.mp read
      cases read
      obtain ⟨owner, rfl, held⟩ := Document.given_of_required held
      obtain ⟨acquiredAt, rfl, time⟩ := Document.given_of_required time
      rw [fields_eq_some_iff] at found
      exact ⟨document, owner, acquiredAt, milliseconds, written, found, held, time,
        (Instant.of_milliseconds_eq_some_iff milliseconds instant).mp inside⟩
    · cases read
  · rintro ⟨document, owner, acquiredAt, milliseconds, written, has, holder, time, same⟩
    rw [← fields_eq_some_iff] at has
    have instant : Instant.ofMilliseconds? milliseconds = some lease.acquiredAt :=
      (Instant.of_milliseconds_eq_some_iff milliseconds lease.acquiredAt).mpr same
    rw [ofText, written, Option.bind_some, ofDocument, has]
    simp only [Option.bind_eq_bind, Option.bind_some, Document.required, holder, time, instant]

end Lease

namespace MemoryStore

/-- What can be asked of a store: leases are read, written and removed, texts are put and removed by
others, and the store is enabled or disabled. -/
inductive Request where
  | read (key : String)
  | write (key : String) (lease : Lease)
  | clear (key : String)
  | put (key text : String)
  | erase (key : String)
  | enable (on : Bool)

/-- What a request is answered. -/
inductive Answer where
  | lease (found : Except StorageError (Option Lease))
  | done (result : Except StorageError Unit)

/-- Whether a request has failed. -/
def Answer.isError : Answer → Bool
  | .lease (.error _) | .done (.error _) => true
  | .lease (.ok _) | .done (.ok ()) => false

/-- The answer to a request, and the store after it. -/
def ask (store : MemoryStore) : Request → Answer × MemoryStore
  | .read key => (Access.run storage store (Lease.read key)).map .lease id
  | .write key lease => (Access.run storage store (Lease.write key lease)).map .done id
  | .clear key => (Access.run storage store (Lease.clear key)).map .done id
  | .put key text => (Access.run storage store (Access.setItem key text)).map .done id
  | .erase key => (Access.run storage store (Access.removeItem key)).map .done id
  | .enable on => (.done (.ok ()), { store with disabled := !on })

/-- The store after some requests. -/
def after (store : MemoryStore) (requests : List Request) : MemoryStore :=
  requests.foldl (fun store request => (store.ask request).2) store

/-- The requests with their answers, first to last. -/
def log (store : MemoryStore) : List Request → List (Request × Answer)
  | [] => []
  | request :: requests =>
    (request, (store.ask request).1) :: (store.ask request).2.log requests

/-- The key of a request, if it has one. -/
def Request.key? : Request → Option String
  | .read key | .write key _ | .clear key | .put key _ | .erase key => some key
  | .enable _ => none

/-- What a request leaves under its key if it succeeds: a lease as it comes back from the storage,
or none. No answer if it does not change the key. -/
def Request.leaves : Request → Option (Option Lease)
  | .write _ lease => some (some { lease with acquiredAt := lease.acquiredAt.truncate })
  | .clear _ | .erase _ => some none
  | .put _ text => some (Lease.ofText text)
  | .read _ | .enable _ => none

/-- What a request leaves under a key, if it is for this key and does not fail. -/
def leftBy (key : String) (entry : Request × Answer) : Option (Option Lease) :=
  if entry.1.key? = some key ∧ entry.2.isError = false then entry.1.leaves else none

/-- What was left under a key by the last request that changed it and succeeded, if there is one. -/
def lastLeft (key : String) (log : List (Request × Answer)) : Option (Option Lease) :=
  (log.filterMap (leftBy key)).getLast?

/-- Whether a request enables or disables the store, if it does either. -/
def Request.switch? : Request → Option Bool
  | .enable on => some on
  | _ => none

/-- Whether a store is enabled after some requests, by the last of them that says so. -/
def isEnabled (store : MemoryStore) (requests : List Request) : Bool :=
  (requests.filterMap Request.switch?).getLast?.getD !store.disabled

section Ask

variable (store : MemoryStore) (key : String)

/-- A read finds the lease that the text under the key says, and fails if the store is disabled. -/
theorem ask_read : store.ask (.read key) =
    (.lease ((store.get key).map fun text => text.bind Lease.ofText), store) := by
  have found : Access.run storage store (Access.getItem key) = (store.get key, store) := rfl
  show ((Access.run storage store (Lease.read key)).map Answer.lease id) = _
  rw [Lease.read, Access.run_bind, found]
  cases store.get key <;> rfl

/-- A lease is put as its text, in the same way as any text. -/
theorem ask_write (lease : Lease) :
    store.ask (.write key lease) = (store.set key lease.render).map .done id := rfl

/-- A lease is removed with its key, in the same way as any text. -/
theorem ask_clear : store.ask (.clear key) = (store.remove key).map .done id := rfl

/-- A text is put as it is, also one that says no lease. -/
theorem ask_put (text : String) :
    store.ask (.put key text) = (store.set key text).map .done id := rfl

/-- A text is removed with its key, whether or not there is one. -/
theorem ask_erase : store.ask (.erase key) = (store.remove key).map .done id := rfl

/-- A store is enabled and disabled as it is told, and keeps its texts. -/
theorem ask_enable (on : Bool) :
    store.ask (.enable on) = (.done (.ok ()), { store with disabled := !on }) := rfl

end Ask

/-- Exactly the requests for a key fail, as long as the store is disabled. No other error comes
about. -/
theorem is_error_ask_iff (store : MemoryStore) (request : Request) :
    (store.ask request).1.isError = true ↔ request.key?.isSome = true ∧ store.disabled = true := by
  cases off : store.disabled <;> cases request <;>
    simp [ask_read, ask_write, ask_clear, ask_put, ask_erase, ask_enable, get, set, remove, off,
      Answer.isError, Request.key?, Except.map]

/-- A request that fails leaves the store, so the history of a store is that of the requests that
succeed. -/
theorem ask_of_error {store : MemoryStore} {request : Request}
    (failed : (store.ask request).1.isError = true) : (store.ask request).2 = store := by
  obtain ⟨keyed, off⟩ := (store.is_error_ask_iff request).mp failed
  cases request <;>
    simp_all [ask_read, ask_write, ask_clear, ask_put, ask_erase, set, remove, Request.key?]

/-- A request leaves the text under every other key, whether it succeeds or fails. -/
theorem peek_ask_of_ne (store : MemoryStore) {request : Request} {key : String}
    (other : request.key? ≠ some key) : (store.ask request).2.peek key = store.peek key := by
  cases off : store.disabled <;> cases request <;>
    simp_all [ask_read, ask_write, ask_clear, ask_put, ask_erase, ask_enable, set, remove, peek,
      Request.key?, Ne.symm]

/-- After a request that does not fail, what is read under its key is what the request leaves there,
or else what was there. -/
theorem held_ask (store : MemoryStore) {request : Request} {key : String}
    (same : request.key? = some key) (worked : (store.ask request).1.isError = false) :
    Lease.held ((store.ask request).2.peek key) =
      request.leaves.getD (Lease.held (store.peek key)) := by
  have on : store.disabled = false := by
    rcases off : store.disabled with _ | _
    · rfl
    · rw [(store.is_error_ask_iff request).mpr ⟨by simp [same], off⟩] at worked
      cases worked
  cases request <;> cases same
  case read => simp [ask_read, Request.leaves]
  case write => simp [ask_write, set, on, peek, Request.leaves, Lease.stored]
  case clear => simp [ask_clear, remove, on, peek, Request.leaves, Lease.held]
  case put => simp [ask_put, set, on, peek, Request.leaves, Lease.held]
  case erase => simp [ask_erase, remove, on, peek, Request.leaves, Lease.held]

/-- A request changes what is read under a key to what it leaves there, and nothing else does. -/
theorem held_ask_eq (store : MemoryStore) (request : Request) (key : String) :
    Lease.held ((store.ask request).2.peek key) =
      (leftBy key (request, (store.ask request).1)).getD (Lease.held (store.peek key)) := by
  rw [leftBy]
  by_cases same : request.key? = some key
  · rcases failed : (store.ask request).1.isError with _ | _
    · rw [if_pos ⟨same, rfl⟩, held_ask store same failed]
    · rw [if_neg (by simp), ask_of_error failed, Option.getD_none]
  · rw [if_neg (by simp [same]), peek_ask_of_ne store same, Option.getD_none]

/-- After some requests, what is read under a key is what the last of them left there. -/
theorem held_after (store : MemoryStore) (requests : List Request) (key : String) :
    Lease.held ((store.after requests).peek key) =
      (lastLeft key (store.log requests)).getD (Lease.held (store.peek key)) := by
  induction requests generalizing store with
  | nil => rfl
  | cons request requests inductionHypothesis =>
    have later := inductionHypothesis (store.ask request).2
    rw [held_ask_eq] at later
    rw [after, List.foldl_cons, ← after, later, log, lastLeft, lastLeft, List.filterMap_cons]
    cases leftBy key (request, (store.ask request).1) with
    | none => rfl
    | some left => simp [List.getLast?_cons]

/-- Only a request that says so enables or disables a store, and it always succeeds. -/
theorem disabled_ask (store : MemoryStore) (request : Request) :
    (store.ask request).2.disabled = !request.switch?.getD !store.disabled := by
  cases off : store.disabled <;> cases request <;>
    simp [ask_read, ask_write, ask_clear, ask_put, ask_erase, ask_enable, set, remove, off,
      Request.switch?]

/-- A store is enabled as the last request said that told it so, or as it was at first. -/
theorem disabled_after (store : MemoryStore) (requests : List Request) :
    (store.after requests).disabled = !store.isEnabled requests := by
  induction requests generalizing store with
  | nil => simp [after, isEnabled]
  | cons request requests inductionHypothesis =>
    have later := inductionHypothesis (store.ask request).2
    rw [isEnabled, disabled_ask] at later
    rw [after, List.foldl_cons, ← after, later, isEnabled, List.filterMap_cons]
    cases request.switch? with
    | none => simp
    | some on => simp [List.getLast?_cons]

/-- Whatever was asked of a store in memory before, and whenever it was disabled meanwhile: a read
finds under a key what was left there by the last request that changed the key and did not fail, and
fails exactly while the store is disabled. No request changes the text under another key, and one
that fails changes nothing. A text counts as a lease exactly if it says one.

Proof: a request leaves under its key what `Request.leaves` says, since a lease that was written is
read back, and the requests are followed one after the other. -/
theorem leases_are_kept (store : MemoryStore) (requests : List Request) :
    let now := store.after requests
    (∀ key, (now.ask (.read key)).1 = .lease (
      if store.isEnabled requests then
        .ok ((lastLeft key (store.log requests)).getD ((store.peek key).bind Lease.ofText))
      else .error disabledError)) ∧
    (∀ request key, request.key? ≠ some key → (now.ask request).2.peek key = now.peek key) ∧
    (∀ request, (now.ask request).1.isError = true ↔
      request.key?.isSome = true ∧ store.isEnabled requests = false) ∧
    (∀ request, (now.ask request).1.isError = true → (now.ask request).2 = now) ∧
    ∀ text lease, Lease.ofText text = some lease ↔ Lease.Says text lease := by
  intro now
  have off : now.disabled = !store.isEnabled requests := store.disabled_after requests
  refine ⟨?_, fun request key => now.peek_ask_of_ne, ?_, fun request => ask_of_error,
    Lease.of_text_eq_some_iff⟩
  · intro key
    have held := store.held_after requests key
    rw [Lease.held, Lease.held] at held
    rw [ask_read, get, off, ← held]
    cases store.isEnabled requests <;> rfl
  · intro request
    rw [is_error_ask_iff, off, Bool.not_eq_true']

/-- A lease of an odd name from just before the epoch, one from the end of the calendar under
another key, and what does not succeed or concerns other keys. -/
theorem odd_leases_are_kept :
    let early : Lease := ⟨"tab \"ä\\\n\u0001", ⟨-1, by decide, by decide⟩⟩
    let late : Lease := ⟨"", .last⟩
    let requests : List Request :=
      [.put "a" "no lease", .write "a" early, .write "b" late, .clear "c",
      .enable false, .clear "a", .put "b" "1", .read "b", .enable true]
    let now := ({} : MemoryStore).after requests
    (now.ask (.read "a")).1 = .lease (.ok (some ⟨early.owner, ⟨-1000000, by decide, by decide⟩⟩)) ∧
      (now.ask (.read "b")).1 =
        .lease (.ok (some ⟨"", ⟨8210266876799999000000, by decide, by decide⟩⟩)) := by
  intro early late requests now
  obtain ⟨reads, -⟩ := leases_are_kept {} requests
  exact ⟨(reads "a").trans rfl, (reads "b").trans rfl⟩

end MemoryStore

end LiveTabs
