/-
# HotSwap.Session.Bootstrap -- bringing the payload into the process

Before anything is swapped the host must grant the abilities that are needed, and
the payload must be visible to its bootstrap loader.  Visibility cannot be undone,
so the archive is injected only if the marker class does not resolve by name; a
process in which it resolves already got the payload in an earlier session.
-/
import HotSwap.Procedure
import HotSwap.Session.Error

namespace HotSwap.Session

set_option autoImplicit false

open Procedure

/-- The class inside the payload by which its presence shows. -/
def markerClass : String := "com/android/tools/deploy/instrument/Breadcrumb"

/-- Gets the abilities that every session needs, if the host has them all. -/
def negotiate : Procedure (Except CapabilityError Capabilities) := do
  let potential ← potentialCapabilities
  match Capabilities.required.missingFrom potential with
  | [] =>
      match ← addCapabilities .required with
      | .ok () => return .ok .required
      | .error cause => return .error (.rejected cause)
  | names => return .error (.missing names)

def isResident : Procedure Bool := findClass markerClass

/-- Where the payload lies, and whether it was injected just now. -/
structure Installed where
  path : String
  injected : Bool
  deriving DecidableEq, Repr

/-- Puts the payload on disk and, unless it is resident, injects it. -/
def install (payload : Payload) (dir : String) : Procedure (Except InstallError Installed) := do
  match ← deposit dir payload with
  | .error cause => return .error (.deposit cause)
  | .ok path =>
      if ← isResident then return .ok ⟨path, false⟩
      else
        match ← appendToBootstrapSearch path with
        | .error cause => return .error (.inject path cause)
        | .ok () =>
            if ← isResident then return .ok ⟨path, true⟩
            else return .error (.markerUnresolvable markerClass path)

end HotSwap.Session
