/-
# HotSwap.Session.Marker -- the facts a process keeps for its lifetime

The marker class holds two facts: which build claimed the process, and whether the
one-time hook is in place.  A marker of another build may not even be spoken to,
so its other methods hang off a `VerifiedMarker`, which only `checkBuild` gives.
-/
import HotSwap.Session.Bootstrap

namespace HotSwap.Session

set_option autoImplicit false

open Procedure

/-- Claims the process for a build, or says whether that build has claimed it. -/
def checkHash : Host.Method := ⟨"checkHash", "(Ljava/lang/String;)Z"⟩

/-- Says whether the one-time hook is in place. -/
def isFinishedInstrumenting : Host.Method := ⟨"isFinishedInstrumenting", "()Z"⟩

/-- Notes that the one-time hook is in place. -/
def setFinishedInstrumenting : Host.Method := ⟨"setFinishedInstrumenting", "()V"⟩

/-- An answer of the marker that makes no sense. -/
def unexpectedReply (method : Host.Method) (reply : Host.Value) : Host.Error :=
  ⟨.internal, markerClass ++ "." ++ method.text ++ " returned " ++ reply.shown⟩

/-- A marker that belongs to a build. -/
structure VerifiedMarker where
  build : Fingerprint
  deriving DecidableEq

/-- Makes sure that the payload in the process is that of a build. -/
def checkBuild (build : Fingerprint) : Procedure (Except VersionError VerifiedMarker) := do
  match ← callStatic markerClass checkHash [.str build.hex] with
  | .error cause => return .error (.unverifiable build cause)
  | .ok reply =>
      match reply.bool? with
      | some true => return .ok ⟨build⟩
      | some false => return .error (.mismatch build)
      | none => return .error (.unverifiable build (unexpectedReply checkHash reply))

namespace VerifiedMarker

def isInstrumented (_ : VerifiedMarker) : Procedure (Except Host.Error Bool) := do
  match ← callStatic markerClass isFinishedInstrumenting [] with
  | .error cause => return .error cause
  | .ok reply =>
      match reply.bool? with
      | some b => return .ok b
      | none => return .error (unexpectedReply isFinishedInstrumenting reply)

def markInstrumented (_ : VerifiedMarker) : Procedure (Except Host.Error Unit) := do
  match ← callStatic markerClass setFinishedInstrumenting [] with
  | .error cause => return .error cause
  | .ok _ => return .ok ()

end VerifiedMarker

end HotSwap.Session
