import LiveTabs.Lease
import LiveTabs.Proofs.Json.WrittenRecord
import LiveTabs.Proofs.Time.WholeMilliseconds

/-!
# Leases that are read back

A lease that was stored is read with the same holder, whatever characters its name has, and with
its time cut to whole milliseconds. So the holder of a stored lease is known from its text, and on
a clock in whole milliseconds a lease comes back exactly as it was written.
-/

namespace LiveTabs

namespace Lease

/-- A lease as it comes back from the storage. -/
def stored (lease : Lease) : Lease := { lease with acquiredAt := lease.acquiredAt.truncate }

/-- A lease that was stored is read back with its holder and its whole milliseconds. -/
@[simp] theorem of_text_render (lease : Lease) : ofText lease.render = some lease.stored := by
  have written : Json.Document.ofText lease.render = some lease.toValue.document :=
    Json.Value.document_of_render _ rfl
  have fields : lease.toValue.document.fields ["ownerId", "acquiredAt"] =
      some [some (Json.Value.text lease.owner).document,
        some (Json.Value.number (.integer lease.acquiredAt.milliseconds)).document] :=
    Json.fields_written [("ownerId", .text lease.owner),
      ("acquiredAt", .number (.integer lease.acquiredAt.milliseconds))]
      (by show ["ownerId", "acquiredAt"].Nodup; decide)
  rw [ofText, written, Option.bind_some, ofDocument, fields]
  simp only [Option.bind_eq_bind, Option.bind_some, Json.Document.required, Json.text_written,
    Json.integer_written lease.acquiredAt.milliseconds_bounds, Instant.of_milliseconds_of_instant]
  rfl

/-- A lease in whole milliseconds comes back as it was written. Of others the part of a millisecond
is lost. -/
theorem stored_of_whole (lease : Lease) (whole : lease.acquiredAt.IsWhole) :
    lease.stored = lease := by
  rw [stored, Instant.truncate_of_whole lease.acquiredAt whole]

/-- The lease that a store has, if the text under its key is one. -/
def held (text : Option String) : Option Lease := text.bind ofText

/-- The lease in a text that was just written. -/
@[simp] theorem held_render (lease : Lease) : held (some lease.render) = some lease.stored := by
  simp [held]

/-- Whether the lease in a text has a given holder. -/
def IsHeldBy (text : Option String) (tabId : String) : Prop :=
  ∃ lease, held text = some lease ∧ lease.owner = tabId

/-- A lease has one holder, so two tabs that hold it are the same one. -/
theorem holder_unique {text : Option String} {first second : String}
    (left : IsHeldBy text first) (right : IsHeldBy text second) : first = second := by
  obtain ⟨lease, read, rfl⟩ := left
  obtain ⟨other, again, rfl⟩ := right
  rw [read] at again
  cases again
  rfl

/-- A tab that has written a lease holds it, although the time of the lease may come back cut. -/
theorem held_by_writer (lease : Lease) : IsHeldBy (some lease.render) lease.owner :=
  ⟨lease.stored, held_render lease, rfl⟩

/-- A lease is stale exactly when it was taken longer ago than its time to live. Arguments about
times use this form, which has no subtraction. -/
theorem is_stale_iff (lease : Lease) (now : Instant) (ttl : Duration) :
    lease.isStale now ttl = true ↔
      lease.acquiredAt.nanoseconds + ttl.nanoseconds < now.nanoseconds := by
  simp [isStale, Instant.lt_elapsed_iff]

end Lease

end LiveTabs
