import LiveTabs.Proofs.Storage.Notices

/-!
# Tabs hear of what the others change, and of nothing else

A tab attaches to the watched store and hears of changes at any pace, while any number of tabs put,
remove and read texts and the store is disabled and enabled. What a tab heard, and then what it is
still going to hear, are the changes that others made since it attached, in their order
(`notices_are_foreign_changes`): no other notices come, and none is lost as long as the tab does not
fall further behind than the feed reaches back.

Every request keeps a balance (`Attached.ask`): the news before it and the change that it makes are
what it makes the tab hear and the news after it. Along a run the balances add up.
-/

namespace LiveTabs

namespace Feed

variable {α : Type} {feed : Feed α} {number place : Nat}

/-- How many items a member has before it, those included that are no longer kept. -/
def unread (feed : Feed α) (number : Nat) : Nat := feed.sent - (feed.place? number).getD feed.sent

/-- A feed is in order and keeps as many of the last items as it can. -/
structure Intact (feed : Feed α) : Prop extends InOrder feed where
  full : feed.recent.length = min feed.sent capacity

/-- A new feed is intact, which is where histories begin. -/
theorem intact_of_new : ({} : Feed α).Intact := ⟨in_order_of_new, rfl⟩

/-- A feed that is sent an item stays intact: what is dropped for it is the oldest item, and only if
the feed is full. -/
theorem Intact.send (intact : feed.Intact) (item : α) : (feed.send item).Intact := by
  refine ⟨intact.toInOrder.send item, ?_⟩
  have full := intact.full
  have room : 0 < capacity := by decide
  simp only [Feed.send, List.length_drop, List.length_append, List.length_singleton]
  omega

/-- A new member keeps a feed intact, and begins with what is sent from then on. -/
theorem Intact.join (intact : feed.Intact) : feed.join.2.Intact :=
  ⟨intact.toInOrder.join, intact.full⟩

/-- A member that moves on keeps a feed intact, because nothing is dropped or sent. -/
theorem Intact.leave (intact : feed.Intact) (number left : Nat) : (feed.leave number left).Intact :=
  ⟨intact.toInOrder.leave number left, intact.full⟩

/-- As long as a member does not fall further behind than the feed reaches back, an item that is
sent comes after those before it. -/
theorem Intact.pending_send (intact : feed.Intact) (found : feed.place? number = some place)
    (item : α) (near : (feed.send item).unread number ≤ capacity) :
    (feed.send item).pending number = feed.pending number ++ [item] := by
  have reached := intact.reached number place found
  have full := intact.full
  have behind : feed.sent + 1 - place ≤ capacity := by
    rw [unread, place?_send, found] at near
    exact near
  have sent : (feed.send item).sent = feed.sent + 1 := rfl
  have recent : (feed.send item).recent =
      (feed.recent ++ [item]).drop (feed.recent.length + 1 - capacity) := by
    rw [Feed.send, List.length_append, List.length_singleton]
  -- The items that are dropped lie before the member's place.
  have dropped : feed.recent.length + 1 - capacity +
      (place - (feed.sent + 1 - (feed.recent.length + 1 - (feed.recent.length + 1 - capacity)))) =
        place - (feed.sent - feed.recent.length) := by
    have room : 0 < capacity := by decide
    omega
  rw [pending_eq, pending_eq, place?_send, found, Option.map_some, Option.getD_some,
    Option.map_some, Option.getD_some, after, after, sent, recent, List.drop_drop,
    List.length_drop, List.length_append, List.length_singleton, dropped,
    List.drop_append_of_le_length (by omega)]

/-- A new member has nothing before it, so what it hears of later was sent after it joined. -/
theorem Intact.pending_new (intact : feed.Intact) : feed.join.2.pending feed.join.1 = [] := by
  have kept := intact.kept
  rw [pending_eq, place?_join, if_pos rfl, Option.map_some, Option.getD_some, after]
  refine List.drop_eq_nil_of_le ?_
  show feed.recent.length ≤ feed.sent - (feed.sent - feed.recent.length)
  omega

end Feed

namespace WatchedStore

/-- What a watched store is asked. -/
inductive Request where
  /-- A tab begins to use the store. -/
  | attach
  | get (tab : Nat) (key : String)
  | set (tab : Nat) (key value : String)
  | remove (tab : Nat) (key : String)
  | enable (on : Bool)
  /-- A tab wants to hear of the next change. -/
  | hear (tab : Nat)
deriving DecidableEq

/-- What a request is answered. -/
inductive Answer where
  | attached (tab : Nat)
  | text (found : Except StorageError (Option String))
  | done (result : Except StorageError Unit)
  | heard (key : Option String)

/-- Whether a request has failed. -/
def Answer.isError : Answer → Bool
  | .text (.error _) | .done (.error _) => true
  | _ => false

/-- The answer to a request, and the store after it. -/
def ask (store : WatchedStore) : Request → Answer × WatchedStore
  | .attach => store.attach.map .attached id
  | .get tab key => (.text ((storage tab).get store key), store)
  | .set tab key value => ((storage tab).set store key value).map .done id
  | .remove tab key => ((storage tab).remove store key).map .done id
  | .enable on => (.done (.ok ()), { store with memory := { store.memory with disabled := !on } })
  | .hear tab => (store.hearNext tab).map .heard id

/-- The store after some requests. -/
def after (store : WatchedStore) (requests : List Request) : WatchedStore :=
  requests.foldl (fun store request => (store.ask request).2) store

/-- The tab and the key of a request to put or remove a text. -/
def Request.target? : Request → Option StorageChange
  | .set tab key _ | .remove tab key => some ⟨key, tab⟩
  | _ => none

/-- The change that a request makes: it succeeds, and the text under its key is another one
afterwards. -/
def changed? (store : WatchedStore) (request : Request) : Option StorageChange :=
  match request.target? with
  | none => none
  | some target =>
    if (store.ask request).1.isError = false ∧
      (store.ask request).2.memory.peek target.key ≠ store.memory.peek target.key then some target
    else none

/-- The changes that requests make, in order. -/
def changesBy (store : WatchedStore) : List Request → List StorageChange
  | [] => []
  | request :: rest => (store.changed? request).toList ++ (store.ask request).2.changesBy rest

/-- The key of which a request makes a tab hear, if it does. -/
def heard? (tab : Nat) (store : WatchedStore) (request : Request) : Option String :=
  match request, (store.ask request).1 with
  | .hear other, .heard key => if other = tab then key else none
  | _, _ => none

/-- The keys of which a tab hears by requests, in order. -/
def heardBy (tab : Nat) (store : WatchedStore) : List Request → List String
  | [] => []
  | request :: rest => (store.heard? tab request).toList ++ heardBy tab (store.ask request).2 rest

/-- The keys of the changes that others than a tab made. -/
def foreignKeys (tab : Nat) (changes : List StorageChange) : List String :=
  (changes.filter fun change => change.origin != tab).map (·.key)

/-- The foreign keys of changes that follow each other are those of the first and then those of the
second. -/
@[simp] theorem foreign_keys_append (tab : Nat) (first second : List StorageChange) :
    foreignKeys tab (first ++ second) = foreignKeys tab first ++ foreignKeys tab second := by
  rw [foreignKeys, List.filter_append, List.map_append, foreignKeys, foreignKeys]

/-- The news of a tab are the foreign keys of what is before it: its own changes are passed over. -/
theorem news_eq (store : WatchedStore) (tab : Nat) :
    store.news tab = foreignKeys tab (store.changes.pending tab) := rfl

section Ask

variable (store : WatchedStore) (tab : Nat) (key : String)

/-- A disabled store refuses to change, and is left as it is. Nobody is told of anything. -/
theorem change_of_disabled (off : store.memory.disabled = true) (value : Option String)
    (call : MemoryStore → Except StorageError Unit × MemoryStore) :
    store.change tab key value call = (.error MemoryStore.disabledError, store) := by
  rw [change, MemoryStore.get, if_pos off]

/-- A text is put unless the store is disabled, and told of if it is another one than before. -/
theorem ask_set (value : String) : store.ask (.set tab key value) =
    if store.memory.disabled then (.done (.error MemoryStore.disabledError), store)
    else (.done (.ok ()), {
      memory := ⟨store.memory.entries.put key value, false⟩
      changes := if store.memory.peek key = some value then store.changes
        else store.changes.send { key, origin := tab } }) := by
  show (store.set tab key value).map Answer.done id = _
  cases works : store.memory.disabled with
  | true =>
    rw [set, change_of_disabled store tab key works, if_pos rfl]
    rfl
  | false =>
    rw [set_works works, if_neg Bool.false_ne_true]
    rfl

/-- A text is removed unless the store is disabled, and told of if there was one. To remove what is
not there succeeds without a notice. -/
theorem ask_remove : store.ask (.remove tab key) =
    if store.memory.disabled then (.done (.error MemoryStore.disabledError), store)
    else (.done (.ok ()), {
      memory := ⟨store.memory.entries.erase key, false⟩
      changes := if store.memory.peek key = none then store.changes
        else store.changes.send { key, origin := tab } }) := by
  show (store.remove tab key).map Answer.done id = _
  cases works : store.memory.disabled with
  | true =>
    rw [remove, change_of_disabled store tab key works, if_pos rfl]
    rfl
  | false =>
    rw [remove_works works, if_neg Bool.false_ne_true]
    rfl

/-- What is put is a change in a store that works, if it is another text than before. -/
theorem changed_set (value : String) : store.changed? (.set tab key value) =
    if store.memory.disabled = false ∧ store.memory.peek key ≠ some value then some ⟨key, tab⟩
    else none := by
  simp only [changed?, Request.target?, ask_set]
  cases store.memory.disabled with
  | true => rfl
  | false => simp [Answer.isError, MemoryStore.peek, eq_comm]

/-- What is removed is a change in a store that works, if there was a text. -/
theorem changed_remove : store.changed? (.remove tab key) =
    if store.memory.disabled = false ∧ store.memory.peek key ≠ none then some ⟨key, tab⟩
      else none := by
  simp only [changed?, Request.target?, ask_remove]
  cases store.memory.disabled with
  | true => rfl
  | false => simp [Answer.isError, MemoryStore.peek, eq_comm]

end Ask

/-- What is asked of the texts is sent to the feed exactly if it is a change. So the feed carries
the changes of the history, and nothing else. -/
theorem changes_ask (store : WatchedStore) {request : Request} (kept : request ≠ .attach)
    (unheard : ∀ tab, request ≠ .hear tab) :
    (store.ask request).2.changes =
      (store.changed? request).elim store.changes store.changes.send := by
  cases request with
  | attach => exact absurd rfl kept
  | hear tab => exact absurd rfl (unheard tab)
  | get tab key => rfl
  | enable on => rfl
  | set tab key value =>
    rw [ask_set, changed_set]
    cases store.memory.disabled with
    | true => rfl
    | false => by_cases same : store.memory.peek key = some value <;> simp [same]
  | remove tab key =>
    rw [ask_remove, changed_remove]
    cases store.memory.disabled with
    | true => rfl
    | false => by_cases same : store.memory.peek key = none <;> simp [same]

/-- A tab that hears moves on and changes nothing else, so hearing has no effect on what others
hear. -/
theorem hear_next_leaves (store : WatchedStore) (tab : Nat) :
    ∃ left, (store.hearNext tab).2 = { store with changes := store.changes.leave tab left } := by
  unfold hearNext
  dsimp only
  split
  · exact ⟨0, rfl⟩
  · exact ⟨_, rfl⟩

/-- A tab hears of the first of its news, and of nothing if it has none. Its own changes are passed
over on the way. -/
theorem hear_next_eq_head (store : WatchedStore) (tab : Nat) :
    (store.hearNext tab).1 = (store.news tab).head? := by
  have others := filter_dropWhile_own tab (store.changes.pending tab)
  have first := List.head?_dropWhile_not
    (fun change : StorageChange => change.origin == tab) (store.changes.pending tab)
  unfold hearNext news
  rw [← others]
  cases ahead : (store.changes.pending tab).dropWhile fun change => change.origin == tab with
  | nil => rfl
  | cons change later =>
    rw [ahead] at first
    have foreign : change.origin ≠ tab := by simpa using first
    simp [foreign]

/-- A request leaves the feed intact, whichever tab makes it and whether or not it succeeds. -/
theorem intact_ask {store : WatchedStore} (intact : store.changes.Intact) (request : Request) :
    (store.ask request).2.changes.Intact := by
  have texts (kept : request ≠ .attach) (unheard : ∀ tab, request ≠ .hear tab) :
      (store.ask request).2.changes.Intact := by
    rw [store.changes_ask kept unheard]
    cases store.changed? request with
    | none => exact intact
    | some change => exact intact.send change
  cases request with
  | attach => exact intact.join
  | hear tab =>
    obtain ⟨left, moved⟩ := store.hear_next_leaves tab
    have after :
        (store.ask (.hear tab)).2 = { store with changes := store.changes.leave tab left } := moved
    rw [after]
    exact intact.leave tab left
  | get tab key => exact texts nofun (fun _ => nofun)
  | set tab key value => exact texts nofun (fun _ => nofun)
  | remove tab key => exact texts nofun (fun _ => nofun)
  | enable on => exact texts nofun (fun _ => nofun)

/-- Requests leave the feed intact, by induction on them. -/
theorem intact_after {store : WatchedStore} (intact : store.changes.Intact)
    (requests : List Request) : (store.after requests).changes.Intact := by
  induction requests generalizing store with
  | nil => exact intact
  | cons request rest inductionHypothesis => exact inductionHypothesis (intact_ask intact request)

/-- A tab has attached, and the feed brings it what is sent. -/
structure Attached (tab : Nat) (store : WatchedStore) : Prop where
  intact : store.changes.Intact
  placed : ∃ place, store.changes.place? tab = some place

/-- What a request does for a tab: the tab stays attached, and the news before it and the change
that the request makes are what it makes the tab hear and the news after it. -/
structure Balances (tab : Nat) (store : WatchedStore) (request : Request) : Prop where
  placed : ∃ place, (store.ask request).2.changes.place? tab = some place
  balance : store.news tab ++ foreignKeys tab (store.changed? request).toList =
    (store.heard? tab request).toList ++ (store.ask request).2.news tab

variable {tab : Nat} {store : WatchedStore}

/-- Another tab that attaches is of no concern: it changes no text, and the places of the others
stay. -/
theorem Attached.attach (attached : store.Attached tab) : store.Balances tab .attach := by
  obtain ⟨place, found⟩ := attached.placed
  have other : tab ≠ store.changes.join.1 := by
    rintro rfl
    rw [Feed.place?_new] at found
    cases found
  have same : store.changes.join.2.place? tab = store.changes.place? tab := by
    rw [Feed.place?_join, if_neg other]
  have before : (store.ask .attach).2.news tab = store.news tab := by
    rw [news_eq, news_eq, Feed.pending_eq, Feed.pending_eq]
    show foreignKeys tab (((store.changes.join.2.place? tab).map store.changes.after).getD []) = _
    rw [same]
  refine ⟨⟨place, same.trans found⟩, ?_⟩
  rw [before]
  exact List.append_nil _

/-- A tab that hears is told of the first of its news, and another one that does is of no
concern. -/
theorem Attached.hear (attached : store.Attached tab) (other : Nat) :
    store.Balances tab (.hear other) := by
  obtain ⟨place, found⟩ := attached.placed
  obtain ⟨left, moved⟩ := store.hear_next_leaves other
  have after : (store.ask (.hear other)).2 =
    { store with changes := store.changes.leave other left } := moved
  constructor
  · rw [after, Feed.place?_leave, found]
    by_cases same : tab = other <;> simp [same]
  · by_cases same : other = tab
    · subst same
      obtain ⟨-, -, balance⟩ := hear_next attached.intact.toInOrder found
      have heard : store.heard? other (.hear other) = (store.hearNext other).1 := if_pos rfl
      rw [heard]
      exact (List.append_nil _).trans balance
    · have silent : store.heard? tab (.hear other) = none := if_neg same
      rw [silent, after, news_leave_other store other left (Ne.symm same)]
      exact List.append_nil _

/-- What is asked of the texts is news for the other tabs, if it is a change, and for the tab that
asks it is none. -/
theorem Attached.ask_texts (attached : store.Attached tab) {request : Request}
    (kept : request ≠ .attach) (unheard : ∀ tab, request ≠ .hear tab)
    (near : (store.ask request).2.changes.unread tab ≤ Feed.capacity) :
    store.Balances tab request := by
  obtain ⟨place, found⟩ := attached.placed
  have told := store.changes_ask kept unheard
  have silent : store.heard? tab request = none := by
    cases request with
    | hear other => exact absurd rfl (unheard other)
    | _ => rfl
  rw [told] at near
  constructor
  · refine ⟨place, ?_⟩
    rw [told]
    cases store.changed? request with
    | none => exact found
    | some change => exact found
  · rw [silent, news_eq, news_eq, told]
    cases made : store.changed? request with
    | none => exact List.append_nil _
    | some change =>
      rw [made] at near
      rw [Option.elim_some, attached.intact.pending_send found change near, foreign_keys_append]
      rfl

/-- Every request keeps the balance between the changes by others and what a tab has heard of or has
still before it. This is the step of the run. -/
theorem Attached.ask (attached : store.Attached tab) (request : Request)
    (near : (store.ask request).2.changes.unread tab ≤ Feed.capacity) :
    store.Balances tab request := by
  cases request with
  | attach => exact attached.attach
  | hear other => exact attached.hear other
  | get other key => exact attached.ask_texts nofun (fun _ => nofun) near
  | set other key value => exact attached.ask_texts nofun (fun _ => nofun) near
  | remove other key => exact attached.ask_texts nofun (fun _ => nofun) near
  | enable on => exact attached.ask_texts nofun (fun _ => nofun) near

/-- A tab never falls further behind than the feed reaches back while some requests are made. -/
def KeepsUp (tab : Nat) (store : WatchedStore) (requests : List Request) : Prop :=
  ∀ count ≤ requests.length, (store.after (requests.take count)).changes.unread tab ≤ Feed.capacity

/-- Along a run the balances add up: what a tab had before it and what others changed since is what
it heard and what it has before it now.

Proof: by induction on the requests. -/
theorem Attached.run (attached : store.Attached tab) {requests : List Request}
    (near : store.KeepsUp tab requests) :
    store.news tab ++ foreignKeys tab (store.changesBy requests) =
      store.heardBy tab requests ++ (store.after requests).news tab := by
  induction requests generalizing store with
  | nil => exact List.append_nil _
  | cons request rest inductionHypothesis =>
    have first := near 1 (Nat.succ_le_succ (Nat.zero_le _))
    have later : (store.ask request).2.KeepsUp tab rest := fun count within =>
      near (count + 1) (Nat.succ_le_succ within)
    obtain ⟨placed, balance⟩ := attached.ask request first
    have onward := inductionHypothesis ⟨intact_ask attached.intact request, placed⟩ later
    calc store.news tab ++ foreignKeys tab (store.changesBy (request :: rest))
        = store.news tab ++ foreignKeys tab (store.changed? request).toList ++
            foreignKeys tab ((store.ask request).2.changesBy rest) := by
          rw [changesBy, foreign_keys_append, List.append_assoc]
      _ = (store.heard? tab request).toList ++ ((store.ask request).2.news tab ++
            foreignKeys tab ((store.ask request).2.changesBy rest)) := by
          rw [balance, List.append_assoc]
      _ = store.heardBy tab (request :: rest) ++ (store.after (request :: rest)).news tab := by
          rw [onward, heardBy, List.append_assoc]
          rfl

/-- What a tab hears are exactly the changes that the others make. Whatever was asked of the store
before the tab attached and whatever is asked of it since, by any tabs and with failures at any
time, as long as the tab does not fall further behind than the feed reaches back: the keys of which
the tab has heard are the first of the keys that others changed since it attached, in their order,
and the next that it hears of is the next of them, or none if it has heard of all. A text that is
put is a change if the store works and had another text or none under the key, and one that is
removed if the store works and had a text; nothing else is a change.

Proof: a tab that attaches has nothing before it. Along the requests the balances of news and
changes add up, and a tab always hears of the first of its news. -/
theorem notices_are_foreign_changes {before requests : List Request} {tab : Nat}
    {start : WatchedStore} (attaches : (({} : WatchedStore).after before).attach = (tab, start))
    (near : start.KeepsUp tab requests) :
    (∃ later, foreignKeys tab (start.changesBy requests) = start.heardBy tab requests ++ later ∧
      ((start.after requests).hearNext tab).1 = later.head?) ∧
    (∀ (store : WatchedStore) other key value, store.changed? (.set other key value) =
      if store.memory.disabled = false ∧ store.memory.peek key ≠ some value then some ⟨key, other⟩
      else none) ∧
    (∀ (store : WatchedStore) other key, store.changed? (.remove other key) =
      if store.memory.disabled = false ∧ store.memory.peek key ≠ none then some ⟨key, other⟩
        else none) ∧
    ∀ (store : WatchedStore) request, request.target? = none → store.changed? request = none := by
  refine ⟨?_, fun store => store.changed_set, fun store => store.changed_remove, ?_⟩
  · have intact : (({} : WatchedStore).after before).changes.Intact :=
      intact_after Feed.intact_of_new before
    have attached : start.Attached tab ∧ start.news tab = [] := by
      cases attaches
      refine ⟨⟨intact.join, (({} : WatchedStore).after before).changes.sent, ?_⟩, ?_⟩
      · exact (Feed.place?_join _ _).trans (if_pos rfl)
      · exact congrArg (foreignKeys _) intact.pending_new
    obtain ⟨attached, nothing⟩ := attached
    have balance := attached.run near
    rw [nothing, List.nil_append] at balance
    exact ⟨_, balance, hear_next_eq_head _ _⟩
  · intro store request untargeted
    rw [changed?, untargeted]

/-- What is asked before a tab attaches: another one has put a text. -/
def earlyRequests : List Request := [.attach, .set 0 "k" "1"]

/-- What is asked since: three tabs change texts, put the same again, remove what is not there, and
find the store disabled. -/
def laterRequests : List Request :=
  [.attach, .set 0 "k" "1", .set 0 "k" "2", .set 1 "k" "3", .hear 1, .hear 0, .enable false,
    .remove 0 "k",
    .enable true, .remove 0 "j", .remove 2 "k", .get 1 "k", .set 1 "k" "4", .set 2 "m" "", .hear 1]

/-- The tab has heard of two changes by others, and one is left that it has not heard of yet. -/
theorem changes_of_three_tabs :
    ∃ start : WatchedStore, (({} : WatchedStore).after earlyRequests).attach = (1, start) ∧
      start.KeepsUp 1 laterRequests ∧ start.heardBy 1 laterRequests = ["k", "k"] ∧
      foreignKeys 1 (start.changesBy laterRequests) = ["k", "k", "m"] ∧
      ((start.after laterRequests).hearNext 1).1 = some "m" := by
  let start := (({} : WatchedStore).after earlyRequests).attach.2
  have attaches : (({} : WatchedStore).after earlyRequests).attach = (1, start) := rfl
  have near : start.KeepsUp 1 laterRequests := by
    unfold KeepsUp
    decide +kernel
  have course : start.heardBy 1 laterRequests = ["k", "k"] ∧
      foreignKeys 1 (start.changesBy laterRequests) = ["k", "k", "m"] := by
    decide +kernel
  obtain ⟨heard, changed⟩ := course
  obtain ⟨⟨later, all, next⟩, -⟩ := notices_are_foreign_changes attaches near
  refine ⟨start, attaches, near, heard, changed, ?_⟩
  rw [heard, changed] at all
  obtain rfl : later = ["m"] := by simpa using all.symm
  exact next

end WatchedStore

end LiveTabs
