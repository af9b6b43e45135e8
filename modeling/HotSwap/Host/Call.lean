/-
# HotSwap.Host.Call -- everything an agent may ask of its host

`HostCall` lists the calls and `HostCall.Answer` what comes back.  Two kinds of
thing are handed to the host and used by it later: a load hook, which is offered
every class the host loads while load notification is on, and native functions,
which code in the process may call.  Both are named here by what they are; what
they do is told elsewhere, so that a host can keep them as plain data.
-/
import HotSwap.Host.Capability
import HotSwap.Host.Value
import HotSwap.Message.Request

namespace HotSwap

set_option autoImplicit false

/-- A transformation of class bytes, by class name; nothing means "leave it as it is". -/
abbrev Transform := String → ByteArray → Option ByteArray

namespace Transform

def identity : Transform := fun _ _ => none

def append (suffix : ByteArray) : Transform := fun _ data => some (data ++ suffix)

end Transform

/-- What is offered every class that is loaded. -/
inductive LoadHook where
  | registry (id : Nat)
  | always (transform : Transform)

/-- A function that code in the process may call.  Two belong to the agent; any
other is known only by what it answers. -/
inductive Native where
  | applicationInfoChanged
  | tryRedefineClasses
  | foreign (answer : List Host.Value → Host.Value)

structure NativeBinding where
  className : String
  method : Host.Method
  native : Native

inductive HostCall where
  | potentialCapabilities
  | addCapabilities (wanted : Capabilities)
  | setLoadHook (hook : Option LoadHook)
  | setLoadNotification (enabled : Bool)
  | retransformClass (name : String)
  | redefineClasses (changes : ChangeSet)
  | findClass (name : String)
  | appendToBootstrapSearch (archive : String)
  | callStatic (className : String) (method : Host.Method) (args : List Host.Value)
  | registerNatives (bindings : List NativeBinding)
  | processId

@[reducible] def HostCall.Answer : HostCall → Type
  | .potentialCapabilities => Capabilities
  | .findClass _ => Bool
  | .callStatic .. => Except Host.Error Host.Value
  | .processId => UInt32
  | .addCapabilities _ | .setLoadHook _ | .setLoadNotification _ | .retransformClass _
  | .redefineClasses _ | .appendToBootstrapSearch _ | .registerNatives _ =>
      Except Host.Error Unit

end HotSwap
