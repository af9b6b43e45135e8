/-
# HotSwap.Session.Error -- why a session fails

One type for each part of a session, and `AttachError` for all of them.  Every
one of these errors ends the session, and all but one of them without a response: a
controller that was told to wait is told as well that the handler refused the token.
A refused redefinition is none of these; it is what the controller is told.
-/
import HotSwap.Files.Depot
import HotSwap.Frame.Basic
import HotSwap.Host.Value
import HotSwap.Message.Request
import HotSwap.Phase

namespace HotSwap

set_option autoImplicit false

/-- The host does not give the abilities that are needed. -/
inductive CapabilityError where
  | missing (names : List String)
  | rejected (cause : Host.Error)
  deriving DecidableEq, Repr

def CapabilityError.message : CapabilityError → String
  | .missing names => "host lacks capabilities: " ++ ", ".intercalate names
  | .rejected cause => "host rejected capabilities: " ++ cause.text

/-- The payload is not in the process. -/
inductive InstallError where
  | payloadDir (package : String)
  | deposit (cause : DepositError)
  | inject (path : String) (cause : Host.Error)
  | markerUnresolvable (className : String) (path : String)
  deriving DecidableEq, Repr

def InstallError.message : InstallError → String
  | .payloadDir package => "no payload directory for package " ++ Text.Quoted.text package
  | .deposit cause => cause.message
  | .inject path cause => "cannot inject " ++ path ++ ": " ++ cause.text
  | .markerUnresolvable className path =>
      "marker " ++ className ++ " not resolvable after injecting " ++ path

/-- The payload in the process is not known to be that of this build. -/
inductive VersionError where
  | mismatch (build : Fingerprint)
  | unverifiable (build : Fingerprint) (cause : Host.Error)
  deriving DecidableEq

def VersionError.message : VersionError → String
  | .mismatch build =>
      "resident payload is not build " ++ build.hex ++ "; the application must be restarted"
  | .unverifiable build cause =>
      "cannot verify resident payload against build " ++ build.hex ++ ": " ++ cause.text

/-- The one-time hook is not installed. -/
inductive InstrumentationError where
  | targetNotFound (className : String)
  | loadHook (cause : Host.Error)
  | notification (cause : Host.Error)
  | retransform (className : String) (cause : Host.Error)
  | marker (cause : Host.Error)
  deriving DecidableEq, Repr

def InstrumentationError.message : InstrumentationError → String
  | .targetNotFound className => "hook target " ++ className ++ " not found"
  | .loadHook cause => "cannot install load hook: " ++ cause.text
  | .notification cause => "cannot enable load notification: " ++ cause.text
  | .retransform className cause => "retransform of " ++ className ++ " failed: " ++ cause.text
  | .marker cause => "marker call failed: " ++ cause.text

/-- The swap cannot be left to the process. -/
inductive HandoffError where
  | registerNatives (cause : Host.Error)
  | transfer (cause : Host.Error)
  deriving DecidableEq, Repr

def HandoffError.message : HandoffError → String
  | .registerNatives cause => "cannot register native bindings: " ++ cause.text
  | .transfer cause => "cannot hand off pending swap: " ++ cause.text

inductive AttachError where
  | transport (cause : TransportError)
  | decode (cause : Request.DecodeError)
  | capability (cause : CapabilityError)
  | install (cause : InstallError)
  | version (cause : VersionError)
  | instrumentation (cause : InstrumentationError)
  | handoff (cause : HandoffError)
  | illegalMove (cause : Phase.IllegalMove)
  deriving DecidableEq

namespace AttachError

def message : AttachError → String
  | transport cause => "transport error: " ++ cause.message
  | decode cause => "decode error: " ++ cause.message
  | capability cause => "capability error: " ++ cause.message
  | install cause => "install error: " ++ cause.message
  | version cause => "version mismatch: " ++ cause.message
  | instrumentation cause => "instrumentation error: " ++ cause.message
  | handoff cause => "handoff error: " ++ cause.message
  | illegalMove cause => "state machine error: " ++ cause.message

/-- The name of an error within its part of a session. -/
def name : AttachError → String
  | transport cause => cause.name
  | decode cause => cause.name
  | capability (.missing _) => "Missing"
  | capability (.rejected _) => "Rejected"
  | install (.payloadDir _) => "PayloadDir"
  | install (.deposit (.createDir ..)) => "CreateDir"
  | install (.deposit (.write ..)) => "Write"
  | install (.deposit (.publish ..)) => "Publish"
  | install (.inject ..) => "Inject"
  | install (.markerUnresolvable ..) => "MarkerUnresolvable"
  | version (.mismatch _) => "Mismatch"
  | version (.unverifiable ..) => "Unverifiable"
  | instrumentation (.targetNotFound _) => "TargetNotFound"
  | instrumentation (.loadHook _) => "LoadHook"
  | instrumentation (.notification _) => "Notification"
  | instrumentation (.retransform ..) => "Retransform"
  | instrumentation (.marker _) => "Marker"
  | handoff (.registerNatives _) => "RegisterNatives"
  | handoff (.transfer _) => "Transfer"
  | illegalMove _ => "IllegalTransition"

/-- The kinds of errors, one for each part of a session. -/
inductive Kind where
  | transport | decode | capability | install | versionMismatch | instrumentation | handoff
  | internal
  deriving DecidableEq, Repr

def Kind.name : Kind → String
  | .transport => "Transport"
  | .decode => "Decode"
  | .capability => "Capability"
  | .install => "Install"
  | .versionMismatch => "VersionMismatch"
  | .instrumentation => "Instrumentation"
  | .handoff => "Handoff"
  | .internal => "Internal"

def kind : AttachError → Kind
  | transport _ => .transport
  | decode _ => .decode
  | capability _ => .capability
  | install _ => .install
  | version _ => .versionMismatch
  | instrumentation _ => .instrumentation
  | handoff _ => .handoff
  | illegalMove _ => .internal

/-- Whether only a restart of the application helps. -/
def isRestartRequired : AttachError → Bool
  | version _ => true
  | _ => false

end AttachError

end HotSwap
