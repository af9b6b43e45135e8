/-
# HotSwap.Session.Handoff -- swaps that wait for the activity to restart

Such a swap is answered at once with an interim response, then parked together
with its connection under a token, and the token is given to the hooked handler in
the process.  When the activity restarts the handler calls `tryRedefineClasses`
with the token; this takes the swap out of the table, applies it and sends the
final response.

The handler keeps one token.  Once it has accepted a new one, the older swaps of
the same process can no longer be reached: each is taken out and answered with an
error.  A handler that refuses the token leaves the new swap unreachable, which is
answered in the same way.  Whoever takes a swap out answers it, once, and hangs up.
-/
import HotSwap.Message.Shown
import HotSwap.Session.Error
import HotSwap.Session.Swap

namespace HotSwap.Session

set_option autoImplicit false

open Procedure

/-- The class in the payload that wraps the hooked handler. -/
def handlerClass : String := "com/android/tools/deploy/instrument/ActivityThreadHandlerWrapper"

/-- Gives the handler a token. -/
def prepareForHotSwap : Host.Method := ⟨"prepareForHotSwap", "(J)V"⟩

/-- The handler's call back with a token. -/
def tryRedefineClasses : Host.Method := ⟨"tryRedefineClasses", "(J)Z"⟩

/-- The handler's question for the number of the message it waits for. -/
def getApplicationInfoChangedValue : Host.Method := ⟨"getApplicationInfoChangedValue", "()I"⟩

/-- The number of the message that says that the application's files changed. -/
def applicationInfoChanged : Int := 156

/-- The kind of error by which an older swap of a process is answered. -/
def superseded : ErrorDetail :=
  ⟨"SUPERSEDED", "replaced by a newer deferred swap before the activity restarted"⟩

/-- The kind of error by which a swap is answered whose token was refused. -/
def handoffKind : String := "HANDOFF"

def nativeBindings : List NativeBinding :=
  [⟨handlerClass, getApplicationInfoChangedValue, .applicationInfoChanged⟩,
    ⟨handlerClass, tryRedefineClasses, .tryRedefineClasses⟩]

/-- Puts the agent's native functions in place of whatever was there. -/
def bindNatives : Procedure (Except HandoffError Unit) := do
  match ← registerNatives nativeBindings with
  | .error cause => return .error (.registerNatives cause)
  | .ok () => return .ok ()

/-- A parked swap as text: what was asked. -/
def shownSwap (swap : PendingSwap) : String :=
  Shown.openRecord "PendingSwap" [("request", Shown.request swap.request)]

/-! ## Swaps that were taken out of the table -/

/-- Applies a swap, sends the final response and hangs up.  Says whether the swap
was applied and the controller knows it. -/
def complete (swap : PendingSwap) : Procedure Bool := do
  let result ← executeAndRespond swap.request swap.link
  hangUp swap.link
  match result with
  | .ok response => return response.status == .ok
  | .error _ => return false

/-- Answers a swap that will not be applied, and hangs up. -/
def abandon (swap : PendingSwap) (detail : ErrorDetail) : Procedure Unit := do
  let _ ← send swap.link (Response.error swap.pid detail).encode
  hangUp swap.link

def abandonAll : List PendingSwap → Procedure Unit
  | [] => return ()
  | swap :: rest => do
      abandon swap superseded
      abandonAll rest

/-! ## Natives -/

/-- The call back with a token: takes its swap out and completes it.  Anything that
is no token of a parked swap is answered "no". -/
def redefineParked (args : List Host.Value) : Procedure Host.Value := do
  match args.head?.bind Host.Value.long? with
  | none => return .bool false
  | some token =>
      match ← take token with
      | none => return .bool false
      | some swap => return .bool (← complete swap)

def callNative (native : Native) (args : List Host.Value) : Procedure Host.Value :=
  match native with
  | .applicationInfoChanged => return .int applicationInfoChanged
  | .tryRedefineClasses => redefineParked args
  | .foreign answer => return answer args

/-! ## Parking -/

/-- Takes a swap back whose token was refused, unless it is gone already. -/
def takeBack (token : Int) (cause : Host.Error) : Procedure Unit := do
  match ← take token with
  | none => return ()
  | some swap => abandon swap ⟨handoffKind, cause.text⟩

/-- Answers a request with "needs a restart", parks it with its connection, and
gives its token to the handler. -/
def transfer (request : Request) (link : LinkId) : Procedure (Except AttachError Int) := do
  let pid ← processId
  match ← send link (Response.needRestart pid).encode with
  | .error e =>
      hangUp link
      return .error (.transport e)
  | .ok () =>
      let token ← park ⟨pid, request, link⟩
      match ← callStatic handlerClass prepareForHotSwap [.long token] with
      | .error cause =>
          takeBack token cause
          return .error (.handoff (.transfer cause))
      | .ok _ =>
          abandonAll (← takeSuperseded pid token)
          return .ok token

end HotSwap.Session
