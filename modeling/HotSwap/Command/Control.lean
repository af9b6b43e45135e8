/-
# HotSwap.Command.Control -- being the controller of one agent

The controller listens on a socket, takes one agent, sends it one request, and
prints every response until the last.  Interim responses are followed by another;
the wait for each begins anew.

What the agent does is given: where it connects, what it sends, and how long it
stays before it hangs up.  Its frames are there as soon as it has the request, so
the controller waits only for what does not come.
-/
import HotSwap.Bytes
import HotSwap.Command.Invocation
import HotSwap.Frame.Polled
import HotSwap.Message.Shown

namespace HotSwap.Command

set_option autoImplicit false

/-- A process that acts as the agent. -/
structure Caller where
  socket : String
  sent : ByteArray
  staysMs : Nat := 0

/-- What a run of the program leaves: its exit code, what it printed, and the request
that an agent got. -/
structure Outcome where
  code : UInt32
  stdout : String := ""
  stderr : String := ""
  request : Option ByteArray := none
  deriving DecidableEq

namespace Outcome

def failure (message : String) : Outcome := { code := 1, stderr := "error: " ++ message ++ "\n" }

/-- An outcome with more in front of what was printed. -/
def printing (o : Outcome) (lines : String) : Outcome := { o with stdout := lines ++ o.stdout }

end Outcome

/-- Why a controller ends without a swap. -/
inductive ControlFailure where
  | noAgent (after : Duration)
  | closedWithoutResponse
  | responseTimeout (after : Duration)
  | rejected (detail : String)
  deriving DecidableEq, Repr

namespace ControlFailure

def message : ControlFailure → String
  | noAgent after => "no agent connected within " ++ after.render
  | closedWithoutResponse => "agent closed the connection without a response"
  | responseTimeout after => "no response within " ++ after.render
  | rejected detail => "swap failed: " ++ detail

def code : ControlFailure → UInt32
  | rejected _ => 1
  | closedWithoutResponse => 2
  | responseTimeout _ | noAgent _ => 3

def outcome (f : ControlFailure) : Outcome := { code := f.code, stderr := f.message ++ "\n" }

end ControlFailure

/-! ## Responses -/

def responseLine (r : Response) : String :=
  "pid " ++ toString r.pid.toNat ++ ": " ++ Shown.status r.status ++ "\n"

def rejection (r : Response) : ControlFailure :=
  .rejected (r.errorDetail.elim "" fun d => d.kind ++ ": " ++ d.message)

def lastResponse (r : Response) : Outcome :=
  match r.status with
  | .ok => { code := 0 }
  | _ => (rejection r).outcome

/-- What comes of a wait that no frame ends: the agent hangs up first, or time runs
out. -/
def silence (staysMs : Nat) (timeout : UInt64) : ControlFailure :=
  if timeout.toNat < staysMs then .responseTimeout (.ofMillis timeout) else .closedWithoutResponse

/-- Reads responses until the last, and counts the frames it asked for; every one but
the last takes a frame, so `limit` frames are enough. -/
def awaitResponses (staysMs : Nat) (timeout : UInt64) :
    (limit : Nat) → Polled.Reader → Outcome × Nat
  | 0, _ => ((silence staysMs timeout).outcome, 0)
  | limit + 1, reader =>
      match Polled.readFrame reader with
      | (.error .closed, _) => ((silence staysMs timeout).outcome, 1)
      | (.error e, _) => (.failure e.message, 1)
      | (.ok frame, reader) =>
          match Response.decode frame with
          | .error e => (.failure e.message, 1)
          | .ok r =>
              if r.status.isInterim then
                let (outcome, reads) := awaitResponses staysMs timeout limit reader
                (outcome.printing (responseLine r ++ "Waiting for the activity to restart...\n"),
                  reads + 1)
              else ((lastResponse r).printing (responseLine r), 1)

/-! ## The whole exchange -/

def classOf (files : FileTree) (arg : String) : Except String ClassDefinition :=
  match splitAtEquals arg.toList with
  | (_, none) => .error ("expected NAME=FILE, got " ++ arg)
  | (name, some file) =>
      match files.read (String.ofList file) with
      | .error e => .error ("reading " ++ String.ofList file ++ ": " ++ e.message)
      | .ok bytecode => .ok ⟨String.ofList name, bytecode⟩

/-- Opens the socket, in place of anything that was left there. -/
def listen (files : FileTree) (socket : String) : Except String FileTree :=
  let freed :=
    if files.leadsSomewhere socket then files.removeFile socket else .ok files
  match freed with
  | .error e => .error ("removing stale " ++ socket ++ ": " ++ e.message)
  | .ok files =>
      match files.bind socket with
      | .error e => .error ("binding " ++ socket ++ ": " ++ e.message)
      | .ok files => .ok files

def serve (options : ControlOptions) (request : Request) (caller : Caller) : Outcome :=
  match (Polled.writeFrame {} request.encode).1 with
  | .error e => .failure e.message
  | .ok () =>
      let outcome :=
        if options.responseTimeoutMs = 0 then
          (ControlFailure.responseTimeout (.ofMillis 0)).outcome
        else
          (awaitResponses caller.staysMs options.responseTimeoutMs (caller.sent.size + 1)
            { input := caller.sent }).1
      { outcome with request := some request.encode }

/-- The agent that reaches a socket in time.  It looks for the socket among the files,
where different paths may lead to the same place. -/
def callerAt (files : FileTree) (socket : String) (timeout : UInt64)
    (caller : Option Caller) : Option Caller :=
  match caller with
  | none => none
  | some c =>
      match files.socketAt? c.socket with
      | none => none
      | some place =>
          if files.socketAt? socket = some place ∧ timeout ≠ 0 then some c else none

def control (options : ControlOptions) (settings : Settings) (files : FileTree)
    (caller : Option Caller) : Outcome × FileTree :=
  let socket := options.socket.getD settings.socketPath
  match options.classes.mapM (classOf files) with
  | .error message => (.failure message, files)
  | .ok changes =>
      match listen files socket with
      | .error message => (.failure message, files)
      | .ok files =>
          match callerAt files socket options.acceptTimeoutMs caller with
          | none => ((ControlFailure.noAgent (.ofMillis options.acceptTimeoutMs)).outcome, files)
          | some c => (serve options ⟨options.package, options.restart, changes⟩ c, files)

end HotSwap.Command
