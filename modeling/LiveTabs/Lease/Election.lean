import LiveTabs.Lease.Candidate
import LiveTabs.Roster
import LiveTabs.Storage.Memory

/-!
# Elections

Several candidates on one store. Candidates join and drop out, each may be told to do one of its
operations at a given time, and the store may fail or be changed by others. An operation makes all
its storage calls at a stretch.
-/

namespace LiveTabs

/-- A candidate and whether its host has storage. -/
structure Contender where
  candidate : Candidate
  hasStorage : Bool

/-- Candidates on one store. -/
structure Election where
  contenders : Roster Contender := {}
  store : SharedStore := {}

/-- What a candidate can be told to do. -/
inductive Candidate.Action where
  | init (now : Instant)
  | evaluate (now : Instant)
  | poll (now : Instant)
  /-- Another tab changed the text under a key; without a key, under that of the lease. -/
  | noticeChange (now : Instant) (key : Option String)
  | release

/-- What a candidate does when it is told so. A release reports no role. -/
def Candidate.act (candidate : Candidate) :
    Candidate.Action → Access (Candidate × Option Role)
  | .init now => candidate.init now
  | .evaluate now => candidate.evaluate now
  | .poll now => candidate.poll now
  | .noticeChange now key => candidate.noticeChange now (key.getD candidate.config.leaseKey)
  | .release => do
    let released ← candidate.release
    pure (released, none)

namespace Election

/-- The storage that a contender sees. -/
def storageOf (contender : Contender) : Storage SharedStore :=
  if contender.hasStorage then SharedStore.storage else Storage.absent

/-- A candidate joins under a name. A candidate that cannot be set up does not. -/
def join (election : Election) (name tabId : String) (config : LeaderConfig) (hasStorage : Bool) :
    Except SetupError Election := do
  let candidate ← Candidate.create tabId config
  pure { election with contenders := election.contenders.enrol name ⟨candidate, hasStorage⟩ }

/-- A candidate drops out without a word. -/
def dropOut (election : Election) (name : String) : Election :=
  { election with contenders := election.contenders.remove name }

/-- A contender does something; none if there is no contender of that name. Gives the role that it
reports and the contender afterwards. -/
def act (election : Election) (name : String) (action : Candidate.Action) :
    Option (Option Role × Candidate × Election) :=
  (election.contenders.get? name).map fun contender =>
    let ((candidate, reported), store) :=
      Access.run (storageOf contender) election.store (contender.candidate.act action)
    let contenders := election.contenders.update name fun contender => { contender with candidate }
    (reported, candidate, { election with contenders, store })

/-- Something happens to the store. -/
def disturb (election : Election) (event : SharedStore.Event) : Election :=
  { election with store := election.store.apply event }

end Election

end LiveTabs
