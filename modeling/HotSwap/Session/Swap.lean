/-
# HotSwap.Session.Swap -- applying a change set and saying how it went

A swap is tried once.  What the host refuses once it would refuse again, so a
refusal is an answer to the controller and no failure of the session.
-/
import HotSwap.Message.Response
import HotSwap.Procedure

namespace HotSwap.Session

set_option autoImplicit false

open Procedure

def apply (request : Request) : Procedure (Except Host.Error Unit) :=
  redefineClasses request.changes

def refusal (cause : Host.Error) : String := "swap rejected: " ++ cause.text

/-- Applies the changes of a request and says how it went. -/
def execute (request : Request) : Procedure Response := do
  let pid ← processId
  match ← apply request with
  | .ok () => return .ok pid
  | .error cause => return .error pid (.ofHost cause)

/-- Applies the changes of a request and sends how it went. -/
def executeAndRespond (request : Request) (link : LinkId) :
    Procedure (Except TransportError Response) := do
  let response ← execute request
  match ← send link response.encode with
  | .error e => return .error e
  | .ok () => return .ok response

end HotSwap.Session
