/-
# HotSwap.Session.Attach -- one session from connect to its end

`attach` connects, reads one request, brings the payload into the process, makes
sure that it is the payload of this build, hooks the process if that was not done
yet, and binds the native functions.  Then it swaps at once, or parks the swap.

Each stage is a `Phase`; the session notes every phase it comes to.  Whatever goes
wrong moves it to `failed`, with nothing undone, and the connection is hung up.  The
controller has no response then, unless the handler refused the token of a swap: by
that time it was told to wait, and it is told of the refusal.
-/
import HotSwap.Session.Handoff
import HotSwap.Session.Instrument
import HotSwap.Settings.Basic

namespace HotSwap

set_option autoImplicit false

/-- What an agent is made of: the payload of its build, where payloads are kept, and
how the process is hooked. -/
structure Agent where
  payload : Payload
  payloadDir : PayloadDir
  plan : Session.Plan

/-- How a session went well. -/
inductive Completion where
  | immediate (response : Response)
  | deferred (token : Int)
  deriving DecidableEq

structure SessionReport where
  phase : Phase
  history : List Phase
  outcome : Except AttachError Completion

namespace SessionReport

def isSuccess (r : SessionReport) : Bool :=
  match r.outcome with
  | .ok _ => true
  | .error _ => false

def isDeferred (r : SessionReport) : Bool :=
  match r.outcome with
  | .ok (.deferred _) => true
  | _ => false

def response? (r : SessionReport) : Option Response :=
  match r.outcome with
  | .ok (.immediate response) => some response
  | _ => none

def token? (r : SessionReport) : Option Int :=
  match r.outcome with
  | .ok (.deferred token) => some token
  | _ => none

def error? (r : SessionReport) : Option AttachError :=
  match r.outcome with
  | .error e => some e
  | .ok _ => none

def visited (r : SessionReport) (phase : Phase) : Bool := r.history.contains phase

end SessionReport

namespace Session

open Procedure (connect receive send hangUp)

/-- How far a session is, and the phases it came to, the first one first. -/
structure Progress where
  phase : Phase
  history : List Phase
  deriving DecidableEq

def Progress.start : Progress := ⟨.connecting, [.connecting]⟩

/-- A part of a session: it may move on, and it may fail. -/
abbrev Stage := ExceptT AttachError (StateT Progress Procedure)

variable {α ε : Type}

/-- A procedure that does not fail, as a part of a session. -/
def perform (p : Procedure α) : Stage α := fun progress => do
  return (.ok (← p), progress)

/-- A procedure whose failure is the session's. -/
def attempt (wrap : ε → AttachError) (p : Procedure (Except ε α)) : Stage α := fun progress => do
  match ← p with
  | .ok a => return (.ok a, progress)
  | .error e => return (.error (wrap e), progress)

def advance (target : Phase) : Stage Unit := fun progress =>
  match progress.phase.advance target with
  | .ok phase => return (.ok (), ⟨phase, progress.history ++ [phase]⟩)
  | .error move => return (.error (.illegalMove move), progress)

/-- Hangs up if a part of a session fails. -/
def hangingUpOnFailure (link : LinkId) (stage : Stage α) : Stage α := fun progress => do
  match ← stage progress with
  | (.ok a, progress) => return (.ok a, progress)
  | (.error e, progress) =>
      hangUp link
      return (.error e, progress)

/-- Hangs up behind a part of a session, however it went. -/
def hangingUp (link : LinkId) (stage : Stage α) : Stage α := fun progress => do
  let result ← stage progress
  hangUp link
  return result

/-- Reads the request and makes the process ready for its swap. -/
def prepare (agent : Agent) (link : LinkId) : Stage Request := do
  advance .awaitingRequest
  let frame ← attempt .transport (receive link)
  let request ← attempt .decode (return Request.decode frame)
  advance .capabilityAcquisition
  let _ ← attempt .capability negotiate
  advance .bootstrapCheck
  match agent.payloadDir.resolve request.packageName with
  | none => throw (.install (.payloadDir request.packageName))
  | some dir =>
      let _ ← attempt .install (install agent.payload dir)
      advance .versionCheck
      let marker ← attempt .version (checkBuild agent.payload.fingerprint)
      if ← attempt .instrumentation (checkInstrumented marker) then
        advance .alreadyInstrumented
      else
        advance .instrumentOnce
        attempt .instrumentation (instrument agent.plan marker)
      attempt .handoff bindNatives
      advance .dispatch
      return request

def swapNow (request : Request) (link : LinkId) : Stage Completion := do
  advance .immediateSwap
  let response ← perform (execute request)
  advance .respond
  attempt .transport (send link response.encode)
  advance .done
  return .immediate response

/-- Parks the swap; the connection is parked with it. -/
def swapLater (request : Request) (link : LinkId) : Stage Completion := do
  advance .deferredHandoff
  advance .respondPending
  let token ← attempt id (transfer request link)
  advance .doneDeferred
  return .deferred token

def session (agent : Agent) : Stage Completion := do
  let link ← attempt .transport connect
  let request ← hangingUpOnFailure link (prepare agent link)
  if request.restartActivity then swapLater request link
  else hangingUp link (swapNow request link)

/-- The progress of a session that fails; one that has ended stays where it is. -/
def Progress.fail (p : Progress) : Progress :=
  if p.phase.isTerminal then p else ⟨.failed, p.history ++ [.failed]⟩

end Session

/-- Runs one session and reports on it. -/
def Agent.attach (agent : Agent) : Procedure SessionReport := do
  match ← Session.session agent Session.Progress.start with
  | (.ok completion, progress) => return ⟨progress.phase, progress.history, .ok completion⟩
  | (.error e, progress) =>
      let progress := progress.fail
      return ⟨progress.phase, progress.history, .error e⟩

end HotSwap
