/-
# HotSwap.Host.Scripted -- a host that answers as it was told

Every kind of call has a row of replies that are used up in order; when none is
left the call goes well.  The host notes every call before it answers, and offers
the classes it was given to the load hook whenever a retransform goes well.
-/
import HotSwap.World.Basic

namespace HotSwap

set_option autoImplicit false

inductive Reply where
  | well
  | truth (b : Bool)
  | value (v : Host.Value)
  | refusal (e : Host.Error)

inductive Note where
  | call (call : HostCall)
  | load (className : String) (transformed : Option ByteArray)
  | inside

/-- A host that answers as it was told. -/
structure ScriptedHost where
  pid : UInt32 := 1
  potential : Capabilities := .all
  replies : List (String × List Reply) := []
  loads : List (String × ByteArray) := []
  hook : Option LoadHook := none
  notes : List Note := []

namespace ScriptedHost

def note (h : ScriptedHost) (n : Note) : ScriptedHost := { h with notes := h.notes ++ [n] }

/-- The next reply for a kind of call. -/
def next (h : ScriptedHost) (kind : String) : Option Reply × ScriptedHost :=
  match h.replies.lookup kind with
  | some (reply :: rest) =>
      (some reply,
        { h with replies := h.replies.map fun r => if r.1 = kind then (kind, rest) else r })
  | _ => (none, h)

/-- Whether a call that brings nothing goes well. -/
def acknowledge (h : ScriptedHost) (kind : String) : Except Host.Error Unit × ScriptedHost :=
  match h.next kind with
  | (some (.refusal e), h) => (.error e, h)
  | (_, h) => (.ok (), h)

/-- Offers one class to the load hook that is installed. -/
def offer (h : ScriptedHost) (w : World) (entry : String × ByteArray) : ScriptedHost × World :=
  match h.hook with
  | none => (h.note (.load entry.1 none), w)
  | some hook =>
      let (transformed, w) := w.load hook entry.1 entry.2
      (h.note (.load entry.1 transformed), w)

def offerAll : List (String × ByteArray) → ScriptedHost → World → ScriptedHost × World
  | [], h, w => (h, w)
  | entry :: rest, h, w =>
      let (h, w) := h.offer w entry
      offerAll rest h w

def reply : (call : HostCall) → ScriptedHost → World → call.Answer × ScriptedHost × World
  | .potentialCapabilities, h, w => (h.potential, h, w)
  | .addCapabilities _, h, w =>
      let (a, h) := h.acknowledge "add_capabilities"
      (a, h, w)
  | .setLoadHook hook, h, w =>
      match h.acknowledge "set_load_hook" with
      | (.ok (), h) => (.ok (), { h with hook }, w)
      | (.error e, h) => (.error e, h, w)
  | .setLoadNotification _, h, w =>
      let (a, h) := h.acknowledge "set_load_notification"
      (a, h, w)
  | .retransformClass _, h, w =>
      match h.acknowledge "retransform_class" with
      | (.ok (), h) =>
          let (h, w) := offerAll h.loads h w
          (.ok (), h, w)
      | (.error e, h) => (.error e, h, w)
  | .redefineClasses _, h, w =>
      let (a, h) := h.acknowledge "redefine_classes"
      (a, h, w)
  | .findClass _, h, w =>
      match h.next "find_class" with
      | (some (.truth b), h) => (b, h, w)
      | (_, h) => (true, h, w)
  | .appendToBootstrapSearch _, h, w =>
      let (a, h) := h.acknowledge "append_to_bootstrap_search"
      (a, h, w)
  | .callStatic .., h, w =>
      match h.next "call_static" with
      | (some (.value v), h) => (.ok v, h, w)
      | (some (.refusal e), h) => (.error e, h, w)
      | (_, h) => (.ok (.bool true), h, w)
  | .registerNatives _, h, w =>
      let (a, h) := h.acknowledge "register_natives"
      (a, h, w)
  | .processId, h, w => (h.pid, h, w)

instance : Host.Model ScriptedHost where
  answer
    | .processId, h, w => (h.pid, h, w)
    | call, h, w => reply call (h.note (.call call)) w

end ScriptedHost

end HotSwap
