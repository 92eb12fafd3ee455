/-!
# Feeds

A feed brings what is sent to all of its members, in the order of sending. It keeps the last 128
items, so a member that falls further behind goes on with the oldest item that is kept. A member has
a sending and a receiving side, and either can be closed; the feed itself has a sending side too,
and is closed for its receivers when nobody is left who could send.
-/

namespace LiveTabs

/-- Why an item could not be posted. -/
inductive ChannelError where
  /-- Nobody is there to receive it. -/
  | closed
  /-- The channel refused it. -/
  | backend (reason : String)
deriving DecidableEq

/-- The description of an item that could not be posted for the user. -/
def ChannelError.message : ChannelError → String
  | .closed => "Channel closed"
  | .backend reason => "Channel backend error: " ++ reason

/-- A member of a feed. -/
structure FeedMember where
  canSend : Bool := true
  /-- The number of items that were sent before the next one to receive, if the receiving side is
  open. -/
  place : Option Nat

/-- A feed of items. -/
structure Feed (α : Type) where
  /-- The number of items sent so far. -/
  sent : Nat := 0
  /-- The last items, first to last. -/
  recent : List α := []
  members : List FeedMember := []
  /-- Whether the feed itself can still send. -/
  isHeld : Bool := true

namespace Feed

variable {α : Type}

/-- How many items a feed keeps. -/
def capacity : Nat := 128

/-- Adds a member, which receives what is sent from now on, and gives its number. -/
def join (feed : Feed α) : Nat × Feed α :=
  (feed.members.length, { feed with members := feed.members ++ [{ place := some feed.sent }] })

/-- Changes the member with a number. -/
def setMember (feed : Feed α) (number : Nat) (change : FeedMember → FeedMember) : Feed α :=
  { feed with members := feed.members.modify number change }

/-- The number of members that receive. -/
def receiverCount (feed : Feed α) : Nat :=
  (feed.members.filter fun member => member.place.isSome).length

/-- Whether nobody is left who could send. -/
def isClosed (feed : Feed α) : Bool :=
  !feed.isHeld && feed.members.all fun member => !member.canSend

/-- Sends an item. -/
def send (feed : Feed α) (item : α) : Feed α :=
  let recent := feed.recent ++ [item]
  { feed with sent := feed.sent + 1, recent := recent.drop (recent.length - capacity) }

/-- Posts an item to a channel. That fails if nobody receives, and then nothing is sent. -/
def post (feed : Feed α) (item : α) : Except ChannelError Unit × Feed α :=
  if feed.receiverCount = 0 then (.error .closed, feed) else (.ok (), feed.send item)

/-- The items that a receiver at a given place has before it. -/
def after (feed : Feed α) (place : Nat) : List α :=
  feed.recent.drop (place - (feed.sent - feed.recent.length))

/-- The items that a member has before it. -/
def pending (feed : Feed α) (number : Nat) : List α :=
  match feed.members[number]?.bind FeedMember.place with
  | some place => feed.after place
  | none => []

/-- Moves a member on, so that it has only the last `left` items before it. -/
def leave (feed : Feed α) (number left : Nat) : Feed α :=
  feed.setMember number fun member =>
    { member with place := member.place.map fun _ => feed.sent - left }

/-- The next item for a member, if there is one. -/
def takeNext (feed : Feed α) (number : Nat) : Option α × Feed α :=
  match feed.pending number with
  | [] => (none, feed)
  | item :: later => (some item, feed.leave number later.length)

/-- Closes the sending side of a member. -/
def closeSender (feed : Feed α) (number : Nat) : Feed α :=
  feed.setMember number fun member => { member with canSend := false }

/-- Closes the receiving side of a member. -/
def closeReceiver (feed : Feed α) (number : Nat) : Feed α :=
  feed.setMember number fun member => { member with place := none }

/-- Lets go of the feed. -/
def release (feed : Feed α) : Feed α := { feed with isHeld := false }

end Feed

end LiveTabs
