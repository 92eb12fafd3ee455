import LiveTabs.Proofs.Storage.SingleText

/-!
# Notices of changes

Every change of the watched store comes before all tabs but the one that made it. What a tab has not
heard of is its news, and nothing that another tab does takes a notice away from it. The feed keeps
a bounded number of notices, so old ones may be lost; the last one is always kept.
-/

namespace LiveTabs

namespace Feed

variable {α : Type}

/-- The place of a member that receives. -/
def place? (feed : Feed α) (number : Nat) : Option Nat :=
  feed.members[number]?.bind FeedMember.place

/-- A feed keeps no more than was sent, and nobody is ahead of what was sent. -/
structure InOrder (feed : Feed α) : Prop where
  kept : feed.recent.length ≤ feed.sent
  reached : ∀ number place, feed.place? number = some place → place ≤ feed.sent

/-- A new feed is in order, which is where histories begin. -/
theorem in_order_of_new : ({} : Feed α).InOrder :=
  ⟨Nat.le_refl _, fun number place found => by simp [place?] at found⟩

/-- What a member has before it follows from its place, so it is enough to follow the places. -/
theorem pending_eq (feed : Feed α) (number : Nat) :
    feed.pending number = ((feed.place? number).map feed.after).getD [] := by
  rw [pending, place?]
  cases feed.members[number]?.bind FeedMember.place <;> rfl

/-- What a member has before it are the last of the items that are kept, so the members differ only
in how many. -/
theorem pending_suffix (feed : Feed α) (number : Nat) :
    feed.pending number <:+ feed.recent := by
  rw [pending_eq]
  cases feed.place? number with
  | none => exact List.nil_suffix
  | some place => exact List.drop_suffix _ _

/-- A change of one member leaves the places of the others. All operations on members are such
changes. -/
theorem place?_setMember (feed : Feed α) (number other : Nat) (change : FeedMember → FeedMember) :
    (feed.setMember number change).place? other =
      if other = number then (feed.members[other]?.map change).bind FeedMember.place
      else feed.place? other := by
  rw [place?, setMember, List.getElem?_modify]
  by_cases same : other = number
  · simp [same]
  · simp [same, Ne.symm same, place?]

/-- A member that moves on is left with the given number of items, and others stay where they
are. -/
@[simp] theorem place?_leave (feed : Feed α) (number left other : Nat) :
    (feed.leave number left).place? other =
      if other = number then (feed.place? other).map fun _ => feed.sent - left
      else feed.place? other := by
  rw [leave, place?_setMember, place?]
  congr 1
  cases feed.members[other]? <;> rfl

/-- Closing the sending side moves nobody, not even the member itself. -/
@[simp] theorem place?_closeSender (feed : Feed α) (number other : Nat) :
    (feed.closeSender number).place? other = feed.place? other := by
  rw [closeSender, place?_setMember, place?]
  cases feed.members[other]? <;> simp

/-- Closing a receiving side moves nobody else, and the member itself has no place any more. -/
@[simp] theorem place?_closeReceiver (feed : Feed α) (number other : Nat) :
    (feed.closeReceiver number).place? other =
      if other = number then none else feed.place? other := by
  rw [closeReceiver, place?_setMember]
  congr 1
  cases feed.members[other]? <;> rfl

/-- A new member receives what is sent from now on, and others stay where they are. -/
theorem place?_join (feed : Feed α) (other : Nat) :
    feed.join.2.place? other =
      if other = feed.join.1 then some feed.sent else feed.place? other := by
  show (feed.members ++ [_])[other]?.bind FeedMember.place =
    if other = feed.members.length then some feed.sent else feed.members[other]?.bind _
  rw [List.getElem?_append]
  split
  · rw [if_neg (by omega)]
  · by_cases same : other = feed.members.length
    · simp [same]
    · rw [if_neg same, List.getElem?_eq_none (by simp; omega), List.getElem?_eq_none (by omega)]

/-- The number of a new member is not that of one that receives, so nothing that was known of a
member is lost. -/
theorem place?_new (feed : Feed α) : feed.place? feed.join.1 = none := by
  simp [join, place?]

/-- Sending moves nobody: what is sent comes before everybody, and each goes on from where it
was. -/
@[simp] theorem place?_send (feed : Feed α) (item : α) (other : Nat) :
    (feed.send item).place? other = feed.place? other := rfl

/-- A member that moves on keeps the feed in order, since it does not move beyond what was sent. -/
theorem InOrder.leave {feed : Feed α} (inOrder : feed.InOrder) (number left : Nat) :
    (feed.leave number left).InOrder := by
  refine ⟨inOrder.kept, ?_⟩
  intro other place found
  have bound := inOrder.reached other
  rw [place?_leave] at found
  show place ≤ feed.sent
  split at found
  · obtain ⟨-, -, rfl⟩ := Option.map_eq_some_iff.mp found
    exact Nat.sub_le _ _
  · exact bound place found

/-- A new member keeps the feed in order, because it begins at the end of what was sent. -/
theorem InOrder.join {feed : Feed α} (inOrder : feed.InOrder) : feed.join.2.InOrder := by
  refine ⟨inOrder.kept, ?_⟩
  intro other place found
  rw [place?_join] at found
  show place ≤ feed.sent
  split at found
  · exact Nat.le_of_eq (Option.some.inj found).symm
  · exact inOrder.reached other place found

/-- A member that closes both sides keeps the feed in order, because the others keep their
places. -/
theorem InOrder.close {feed : Feed α} (inOrder : feed.InOrder) (number : Nat) :
    ((feed.closeSender number).closeReceiver number).InOrder := by
  refine ⟨inOrder.kept, ?_⟩
  intro other place found
  rw [place?_closeReceiver, place?_closeSender] at found
  split at found
  · cases found
  · exact inOrder.reached other place found

/-- Sending keeps the feed in order: places stay, and more was sent than before. -/
theorem InOrder.send {feed : Feed α} (inOrder : feed.InOrder) (item : α) :
    (feed.send item).InOrder := by
  constructor
  · have kept := inOrder.kept
    simp only [Feed.send, List.length_drop, List.length_append, List.length_singleton]
    omega
  · intro other place found
    exact Nat.le_succ_of_le (inOrder.reached other place found)

/-- What was just sent is before every member that receives, however far behind the member is: the
last item is always kept. -/
theorem mem_pending_send {feed : Feed α} (inOrder : feed.InOrder) (item : α) {number place : Nat}
    (found : feed.place? number = some place) : item ∈ (feed.send item).pending number := by
  have reached := inOrder.reached number place found
  have kept := inOrder.kept
  obtain ⟨older, items⟩ : ∃ older, (feed.send item).recent = older ++ [item] ∧
      older.length ≤ feed.sent := by
    refine ⟨feed.recent.drop (feed.recent.length + 1 - capacity), ?_, ?_⟩
    · rw [Feed.send, List.length_append, List.length_singleton, List.drop_append_of_le_length]
      simp [capacity]
    · rw [List.length_drop]
      omega
  rw [pending_eq, place?_send, found, Option.map_some, Option.getD_some, after, items.1,
    List.drop_append_of_le_length]
  · simp
  · have sent : (feed.send item).sent = feed.sent + 1 := rfl
    have later := items.2
    rw [sent, List.length_append, List.length_singleton]
    omega

/-- A member that moves on to the last of what was before it has just those before it. -/
theorem pending_leave {feed : Feed α} (inOrder : feed.InOrder) {number place : Nat}
    (found : feed.place? number = some place) {later : List α} (last : later <:+ feed.recent) :
    (feed.leave number later.length).pending number = later := by
  have kept := inOrder.kept
  have shorter := last.length_le
  rw [pending_eq, place?_leave, if_pos rfl, found]
  show feed.recent.drop (feed.sent - later.length - (feed.sent - feed.recent.length)) = later
  rw [List.suffix_iff_eq_drop.mp last]
  congr 1
  rw [← List.suffix_iff_eq_drop.mp last]
  omega

/-- What others have before them does not depend on a member that moves on, so members can be
followed one by one. -/
theorem pending_leave_other (feed : Feed α) (number left : Nat) {other : Nat}
    (different : other ≠ number) : (feed.leave number left).pending other = feed.pending other := by
  rw [pending_eq, pending_eq, place?_leave, if_neg different]
  rfl

end Feed

namespace WatchedStore

/-- A watched store whose calls succeed. -/
def Works (store : WatchedStore) : Prop := store.memory.disabled = false

/-- A call that succeeds is told of if it leaves another text than before. Puts and removals both
come down to this. -/
theorem change_works {store : WatchedStore} (works : store.Works) (origin : Nat) (key : String)
    (value : Option String) {call : MemoryStore → Except StorageError Unit × MemoryStore}
    {memory : MemoryStore} (called : call store.memory = (.ok (), memory)) :
    store.change origin key value call =
      (.ok (), { memory, changes := if store.memory.peek key = value then store.changes
        else store.changes.send { key, origin } }) := by
  have read : store.memory.get key = .ok (store.memory.peek key) := by
    rw [MemoryStore.get, works, if_neg Bool.false_ne_true]
  rw [change, read, called]
  dsimp only
  split <;> rfl

/-- Putting a text succeeds, and is told of if the text is another one than before. -/
theorem set_works {store : WatchedStore} (works : store.Works) (origin : Nat)
    (key value : String) :
    store.set origin key value = (.ok (), {
      memory := ⟨store.memory.entries.put key value, false⟩
      changes := if store.memory.peek key = some value then store.changes
        else store.changes.send { key, origin } }) := by
  refine change_works works origin key (some value) ?_
  rw [MemoryStore.set, works, if_neg Bool.false_ne_true]

/-- Removing a text succeeds, and is told of if there was one. -/
theorem remove_works {store : WatchedStore} (works : store.Works) (origin : Nat)
    (key : String) :
    store.remove origin key = (.ok (), {
      memory := ⟨store.memory.entries.erase key, false⟩
      changes := if store.memory.peek key = none then store.changes
        else store.changes.send { key, origin } }) := by
  refine change_works works origin key none ?_
  rw [MemoryStore.remove, works, if_neg Bool.false_ne_true]

/-- A watched store that works is a single text for each tab under each key, so what is proved of
programs on a single text holds of programs on it. -/
theorem serves (origin : Nat) (key : String) :
    (storage origin).Serves key Works (·.memory.peek key) where
  supported store works := rfl
  get store works := by
    show store.memory.get key = _
    rw [MemoryStore.get, works, if_neg Bool.false_ne_true]
  set store value works := by
    simp only [storage]
    rw [set_works works]
    exact ⟨rfl, rfl, by simp [MemoryStore.peek]⟩
  remove store works := by
    simp only [storage]
    rw [remove_works works]
    exact ⟨rfl, rfl, by simp [MemoryStore.peek]⟩

/-- A call of a program confined to a key is told of exactly if it changes the text. -/
theorem step_changes {α : Type} {store : WatchedStore} (works : store.Works) (origin : Nat)
    {key : String} {property : α → Prop} (program : Access α)
    (confined : Access.Confined key property program) :
    let after := (Access.step (storage origin) store program).2
    (after.memory.peek key = store.memory.peek key ∧ after.changes = store.changes) ∨
      (after.memory.peek key ≠ store.memory.peek key ∧
        after.changes = store.changes.send { key, origin }) := by
  cases program with
  | done result => exact .inl ⟨rfl, rfl⟩
  | supported next => exact .inl ⟨rfl, rfl⟩
  | get other next => exact .inl ⟨rfl, rfl⟩
  | set other value next =>
    obtain ⟨rfl, -⟩ := confined
    simp only [Access.step, storage]
    rw [set_works works]
    by_cases same : store.memory.peek other = some value
    · exact .inl ⟨by simp [MemoryStore.peek, ← same], if_pos same⟩
    · exact .inr ⟨by simpa [MemoryStore.peek] using Ne.symm same, if_neg same⟩
  | remove other next =>
    obtain ⟨rfl, -⟩ := confined
    simp only [Access.step, storage]
    rw [remove_works works]
    by_cases same : store.memory.peek other = none
    · exact .inl ⟨by simp [MemoryStore.peek, ← same], if_pos same⟩
    · exact .inr ⟨by simpa [MemoryStore.peek] using Ne.symm same, if_neg same⟩

/-- The notices of others are the same with or without the tab's own before them, which a tab passes
over. -/
theorem filter_dropWhile_own (number : Nat) (changes : List StorageChange) :
    (changes.dropWhile fun change => change.origin == number).filter
        (fun change => change.origin != number) =
      changes.filter fun change => change.origin != number := by
  induction changes with
  | nil => rfl
  | cons change later inductionHypothesis =>
    by_cases own : change.origin = number <;> simp [own, inductionHypothesis]

/-- What a tab hears first is the first of its news, and hearing it changes nothing but its
place. -/
theorem hear_next {store : WatchedStore} (inOrder : store.changes.InOrder) {number place : Nat}
    (found : store.changes.place? number = some place) :
    ∃ left, (store.hearNext number).2 =
        { store with changes := store.changes.leave number left } ∧
      store.news number =
        (store.hearNext number).1.toList ++ (store.hearNext number).2.news number := by
  have others := filter_dropWhile_own number (store.changes.pending number)
  have last := (List.dropWhile_suffix (l := store.changes.pending number)
    (fun change => change.origin == number)).trans (Feed.pending_suffix _ _)
  have first := List.head?_dropWhile_not
    (fun change : StorageChange => change.origin == number) (store.changes.pending number)
  unfold hearNext
  cases ahead : (store.changes.pending number).dropWhile fun change => change.origin == number with
  | nil =>
    refine ⟨0, rfl, ?_⟩
    have nothing := Feed.pending_leave inOrder found (List.nil_suffix (l := store.changes.recent))
    rw [ahead] at others
    simp only [news, markHeard, ← others]
    rw [List.length_nil] at nothing
    rw [nothing]
    rfl
  | cons change later =>
    refine ⟨later.length, rfl, ?_⟩
    rw [ahead] at others last first
    have rest := Feed.pending_leave inOrder found ((List.suffix_cons change later).trans last)
    simp only [news, ← others, rest]
    have foreign : change.origin ≠ number := by simpa using first
    simp [foreign]

/-- What other tabs have not heard of does not depend on a tab that hears, so tabs can be followed
one by one. -/
theorem news_leave_other (store : WatchedStore) (number left : Nat) {other : Nat}
    (different : other ≠ number) :
    news { store with changes := store.changes.leave number left } other = store.news other := by
  rw [news, Feed.pending_leave_other _ _ _ different, news]

/-- A change that is told of is news to every other tab. This is what an election relies on when it
waits for no deadline. -/
theorem mem_news_send {store : WatchedStore} (inOrder : store.changes.InOrder)
    {number place origin : Nat} (found : store.changes.place? number = some place)
    (different : origin ≠ number) (key : String) (memory : MemoryStore) :
    key ∈ news ⟨memory, store.changes.send { key, origin }⟩ number := by
  have sent := Feed.mem_pending_send inOrder { key, origin : StorageChange } found
  exact List.mem_map.mpr ⟨_, List.mem_filter.mpr ⟨sent, by simpa using different⟩, rfl⟩

end WatchedStore

end LiveTabs
