/-
# HotSwap.Session.Instrument -- the one-time hook

One class of the process is transformed once, so that a later restart of the
activity calls back.  It is transformed by making the host load it again while load
notification is on and a load hook is installed.  Both tax or affect the whole
process, so both are undone on every way out: notification right behind the
retransform, whatever that answered, and the hook, its registry emptied first,
behind everything that happens under it.
-/
import HotSwap.Session.Marker

namespace HotSwap.Session

set_option autoImplicit false

open Procedure

/-- The class that is transformed. -/
def hookTarget : String := "android/app/ActivityThread$H"

/-- Which class is transformed, and how. -/
structure Plan where
  target : String := hookTarget
  transform : Transform

/-- A plan as text; how it transforms is not shown. -/
def Plan.shown (p : Plan) : String :=
  "InstrumentationPlan \x7b target_class: " ++ Text.Quoted.text p.target ++ ", .. \x7d"

def openWindow : Procedure (Except Host.Error Unit) := setLoadNotification true

/-- Turns load notification off; that it might fail is no reason to do anything else. -/
def closeWindow : Procedure Unit := do
  let _ ← setLoadNotification false

/-- Takes the hook away again, and with its rules any effect it could still have. -/
def removeHook (registry : Nat) : Procedure Unit := do
  emptyRegistry registry
  let _ ← setLoadHook none

/-- What happens while the hook is installed: the target is loaded again. -/
def retransformHooked (target : String) :
    Procedure (Except InstrumentationError (Except Host.Error Unit)) := do
  if ← findClass target then
    match ← openWindow with
    | .error cause => return .error (.notification cause)
    | .ok () =>
        let retransformed ← retransformClass target
        closeWindow
        return .ok retransformed
  else return .error (.targetNotFound target)

/-- Transforms the target once and notes that it was done. -/
def instrument (plan : Plan) (marker : VerifiedMarker) :
    Procedure (Except InstrumentationError Unit) := do
  let registry ← openRegistry plan.target plan.transform
  match ← setLoadHook (some (.registry registry)) with
  | .error cause => return .error (.loadHook cause)
  | .ok () =>
      let outcome ← retransformHooked plan.target
      removeHook registry
      match outcome with
      | .error e => return .error e
      | .ok (.error cause) => return .error (.retransform plan.target cause)
      | .ok (.ok ()) =>
          match ← marker.markInstrumented with
          | .error cause => return .error (.marker cause)
          | .ok () => return .ok ()

/-- Whether the hook is in place, as a step of a session. -/
def checkInstrumented (marker : VerifiedMarker) :
    Procedure (Except InstrumentationError Bool) := do
  match ← marker.isInstrumented with
  | .error cause => return .error (.marker cause)
  | .ok b => return .ok b

end HotSwap.Session
