/-
# HotSwap.Phase -- the stages of a session

A session goes from `connecting` through its stages to one of three ends.  From
every stage that is no end it may fail; `next` lists all moves, and `advance`
refuses any other.
-/
namespace HotSwap

set_option autoImplicit false

/-- A stage of a session. -/
inductive Phase where
  | connecting
  | awaitingRequest
  | capabilityAcquisition
  | bootstrapCheck
  | versionCheck
  | alreadyInstrumented
  | instrumentOnce
  | dispatch
  | immediateSwap
  | respond
  | deferredHandoff
  | respondPending
  | done
  | doneDeferred
  | failed
  deriving DecidableEq, Repr

namespace Phase

/-- Every stage, in the order in which a session may come to it. -/
def all : List Phase :=
  [connecting, awaitingRequest, capabilityAcquisition, bootstrapCheck, versionCheck,
    alreadyInstrumented, instrumentOnce, dispatch, immediateSwap, respond, deferredHandoff,
    respondPending, done, doneDeferred, failed]

def name : Phase → String
  | connecting => "Connecting"
  | awaitingRequest => "AwaitingRequest"
  | capabilityAcquisition => "CapabilityAcquisition"
  | bootstrapCheck => "BootstrapCheck"
  | versionCheck => "VersionCheck"
  | alreadyInstrumented => "AlreadyInstrumented"
  | instrumentOnce => "InstrumentOnce"
  | dispatch => "Dispatch"
  | immediateSwap => "ImmediateSwap"
  | respond => "Respond"
  | deferredHandoff => "DeferredHandoff"
  | respondPending => "RespondPending"
  | done => "Done"
  | doneDeferred => "DoneDeferred"
  | failed => "Failed"

def ofName? (s : String) : Option Phase := all.find? fun p => p.name == s

def isTerminal : Phase → Bool
  | done | doneDeferred | failed => true
  | _ => false

def next : Phase → List Phase
  | connecting => [awaitingRequest, failed]
  | awaitingRequest => [capabilityAcquisition, failed]
  | capabilityAcquisition => [bootstrapCheck, failed]
  | bootstrapCheck => [versionCheck, failed]
  | versionCheck => [alreadyInstrumented, instrumentOnce, failed]
  | alreadyInstrumented => [dispatch, failed]
  | instrumentOnce => [dispatch, failed]
  | dispatch => [immediateSwap, deferredHandoff, failed]
  | immediateSwap => [respond, failed]
  | respond => [done, failed]
  | deferredHandoff => [respondPending, failed]
  | respondPending => [doneDeferred, failed]
  | done | doneDeferred | failed => []

structure IllegalMove where
  source : Phase
  target : Phase
  deriving DecidableEq, Repr

def IllegalMove.message (m : IllegalMove) : String :=
  "illegal transition " ++ m.source.name ++ " -> " ++ m.target.name

/-- Moves from one stage to another. -/
def advance (source target : Phase) : Except IllegalMove Phase :=
  if source.next.contains target then .ok target else .error ⟨source, target⟩

end Phase

end HotSwap
