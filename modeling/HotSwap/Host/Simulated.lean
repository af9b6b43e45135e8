/-
# HotSwap.Host.Simulated -- a process that only pretends to be one

Enough of a process for whole sessions to run in it: abilities, loaded classes and
their bytes, the archives of its bootstrap loader, the marker class that comes with
the payload, the load hook and its switch, redefinition, and the table of native
functions.  Every call but the one for its number is counted.

Redefinition is all or nothing: the first definition that cannot be applied decides
the error, and nothing has changed then.
-/
import HotSwap.Session.Attach
import HotSwap.World.Basic

namespace HotSwap

set_option autoImplicit false

/-- A simulated process. -/
structure SimulatedHost where
  pid : UInt32
  potential : Capabilities := .all
  granted : Capabilities := .none
  classes : List (String × ByteArray) := []
  incompatible : List String := []
  archives : List String := []
  residentFingerprint : Option String := none
  instrumented : Bool := false
  hooked : Bool := false
  hook : Option LoadHook := none
  notification : Bool := false
  retransforms : List (String × Nat) := []
  redefinitions : Nat := 0
  natives : List ((String × Host.Method) × Native) := []
  pendingToken : Option Int := none
  calls : Nat := 0

/-- A list of pairs with the value of a key replaced, or added at the end. -/
def assign {α β : Type} [BEq α] (key : α) (value : β) : List (α × β) → List (α × β)
  | [] => [(key, value)]
  | p :: rest => if p.1 == key then (key, value) :: rest else p :: assign key value rest

namespace SimulatedHost

def firstPid : UInt32 := 4242

/-- A fresh process: the class to be hooked is loaded, and nothing else. -/
def fresh (pid : UInt32) : SimulatedHost :=
  { pid, classes := [(Session.hookTarget, "ActivityThread$H".toUTF8)] }

/-- A process that can grant only some abilities. -/
def withCapabilities (h : SimulatedHost) (potential : Capabilities) : SimulatedHost :=
  { h with potential }

def withClass (h : SimulatedHost) (name : String) (data : ByteArray) : SimulatedHost :=
  { h with classes := assign name data h.classes }

/-- A process in which a class refuses every new definition. -/
def withIncompatibleClass (h : SimulatedHost) (name : String) : SimulatedHost :=
  { h with incompatible := name :: h.incompatible }

/-- Puts a native function under a class and a method. -/
def seedNative (h : SimulatedHost) (b : NativeBinding) : SimulatedHost :=
  { h with natives := assign (b.className, b.method) b.native h.natives }

def classBytes (h : SimulatedHost) (name : String) : Option ByteArray := h.classes.lookup name

def isLoaded (h : SimulatedHost) (name : String) : Bool := (h.classes.lookup name).isSome

/-- How often a class was loaded again. -/
def retransformCount (h : SimulatedHost) (name : String) : Nat :=
  (h.retransforms.lookup name).getD 0

/-- The process with one more call counted. -/
def enter (h : SimulatedHost) : SimulatedHost := { h with calls := h.calls + 1 }

/-! ## Refusals -/

def notGranted (what : String) : Host.Error :=
  ⟨.notAvailable, what ++ " capability not granted"⟩

def classNotFound (name : String) : Host.Error := ⟨.classNotFound, name⟩

/-! ## Calls -/

/-- Grants abilities, all or none. -/
def addCapabilities (h : SimulatedHost) (wanted : Capabilities) :
    Except Host.Error Unit × SimulatedHost :=
  match wanted.missingFrom h.potential with
  | [] => (.ok (), { h with granted := h.granted.union wanted })
  | names => (.error ⟨.notAvailable, "cannot grant " ++ ", ".intercalate names⟩, h)

/-- Loads a class again.  It is offered to the load hook if notification is on. -/
def retransform (h : SimulatedHost) (w : World) (name : String) :
    Except Host.Error Unit × SimulatedHost × World :=
  if !h.granted.retransformClasses then (.error (notGranted "retransform"), h, w)
  else
    match h.classBytes name with
    | none => (.error (classNotFound name), h, w)
    | some data =>
        let h := { h with retransforms := assign name (h.retransformCount name + 1) h.retransforms }
        match if h.notification then h.hook else none with
        | none => (.ok (), h, w)
        | some hook =>
            match w.load hook name data with
            | (none, w) => (.ok (), h, w)
            | (some transformed, w) =>
                (.ok (),
                  { h with
                    hooked := h.hooked || name == Session.hookTarget
                    classes := assign name transformed h.classes }, w)

/-- Why a definition cannot be applied. -/
def fault? (h : SimulatedHost) (d : ClassDefinition) : Option Host.Error :=
  if !h.isLoaded d.name then some (classNotFound d.name)
  else if d.bytecode.size = 0 then some ⟨.invalidClassFormat, d.name ++ " has no bytecode"⟩
  else if h.incompatible.contains d.name then
    some ⟨.unsupportedChange, d.name ++ " changes class shape"⟩
  else none

/-- Gives classes their new bytes, in order. -/
def define (changes : ChangeSet) (classes : List (String × ByteArray)) :
    List (String × ByteArray) :=
  changes.foldl (fun classes d => assign d.name d.bytecode classes) classes

/-- Redefines classes, all or none. -/
def redefine (h : SimulatedHost) (changes : ChangeSet) : Except Host.Error Unit × SimulatedHost :=
  if !h.granted.redefineClasses then (.error (notGranted "redefine"), h)
  else
    match changes.findSome? h.fault? with
    | some e => (.error e, h)
    | none =>
        (.ok (),
          { h with
            classes := define changes h.classes
            redefinitions := h.redefinitions + 1 })

/-- Loads a class without bytes, unless it is loaded. -/
def provide (h : SimulatedHost) (name : String) : SimulatedHost :=
  if h.isLoaded name then h else { h with classes := h.classes ++ [(name, .empty)] }

/-- Makes the classes of an archive visible. -/
def appendArchive (h : SimulatedHost) (w : World) (archive : String) :
    Except Host.Error Unit × SimulatedHost :=
  if !w.files.isFile archive then
    (.error ⟨.illegalArgument, archive ++ " is not a readable archive"⟩, h)
  else
    let h := { h with archives := h.archives ++ [archive] }
    (.ok (), (h.provide Session.markerClass).provide Session.handlerClass)

/-- The marker's check: the first build to ask claims the process. -/
def checkHash (h : SimulatedHost) (args : List Host.Value) :
    Except Host.Error Host.Value × SimulatedHost :=
  match args.head? with
  | some (.str fingerprint) =>
      match h.residentFingerprint with
      | some resident => (.ok (.bool (resident == fingerprint)), h)
      | none => (.ok (.bool true), { h with residentFingerprint := some fingerprint })
  | _ => (.error ⟨.illegalArgument, "checkHash needs a string"⟩, h)

/-- The handler's acceptance of a token; it must have been hooked. -/
def prepareForHotSwap (h : SimulatedHost) (args : List Host.Value) :
    Except Host.Error Host.Value × SimulatedHost :=
  if !h.hooked then (.error ⟨.exception, "activity handler is not instrumented"⟩, h)
  else
    match args.head?.bind Host.Value.long? with
    | none => (.error ⟨.illegalArgument, "prepareForHotSwap needs a long"⟩, h)
    | some token => (.ok .void, { h with pendingToken := some token })

def callStatic (h : SimulatedHost) (className : String) (method : Host.Method)
    (args : List Host.Value) : Except Host.Error Host.Value × SimulatedHost :=
  if !h.isLoaded className then (.error (classNotFound className), h)
  else if className = Session.markerClass ∧ method = Session.checkHash then h.checkHash args
  else if className = Session.markerClass ∧ method = Session.isFinishedInstrumenting then
    (.ok (.bool h.instrumented), h)
  else if className = Session.markerClass ∧ method = Session.setFinishedInstrumenting then
    (.ok .void, { h with instrumented := true })
  else if className = Session.handlerClass ∧ method = Session.prepareForHotSwap then
    h.prepareForHotSwap args
  else (.error ⟨.methodNotFound, className ++ "." ++ method.text⟩, h)

/-- Binds native functions, all or none. -/
def registerNatives (h : SimulatedHost) (bindings : List NativeBinding) :
    Except Host.Error Unit × SimulatedHost :=
  match bindings.find? fun b => !h.isLoaded b.className with
  | some missing => (.error (classNotFound missing.className), h)
  | none => (.ok (), bindings.foldl seedNative h)

instance : Host.Model SimulatedHost where
  answer
    | .potentialCapabilities, h, w => (h.potential, h.enter, w)
    | .addCapabilities wanted, h, w =>
        let (a, h) := h.enter.addCapabilities wanted
        (a, h, w)
    | .setLoadHook hook, h, w => (.ok (), { h.enter with hook }, w)
    | .setLoadNotification enabled, h, w => (.ok (), { h.enter with notification := enabled }, w)
    | .retransformClass name, h, w => h.enter.retransform w name
    | .redefineClasses changes, h, w =>
        let (a, h) := h.enter.redefine changes
        (a, h, w)
    | .findClass name, h, w => (h.isLoaded name, h.enter, w)
    | .appendToBootstrapSearch archive, h, w =>
        let (a, h) := h.enter.appendArchive w archive
        (a, h, w)
    | .callStatic className method args, h, w =>
        let (a, h) := h.enter.callStatic className method args
        (a, h, w)
    | .registerNatives bindings, h, w =>
        let (a, h) := h.enter.registerNatives bindings
        (a, h, w)
    | .processId, h, w => (h.pid, h, w)

end SimulatedHost

namespace Scene

def invokeNative (s : Scene SimulatedHost) (className : String) (method : Host.Method)
    (args : List Host.Value) : Option Host.Value × Scene SimulatedHost :=
  match s.host.natives.lookup (className, method) with
  | none => (none, s)
  | some native =>
      let (value, s) := s.perform (.refusing .closed) (Session.callNative native args)
      (some value, s)

/-- The activity of a simulated process restarts: its hooked handler gives the token
back that it holds.  Says whether the swap was applied, and nothing if there was
none to apply. -/
def signalRestart (s : Scene SimulatedHost) : Option Bool × Scene SimulatedHost :=
  match if s.host.hooked then s.host.pendingToken else none with
  | none => (none, s)
  | some token =>
      let s := { s with host := { s.host with pendingToken := none } }
      let (value, s) := s.invokeNative Session.handlerClass Session.tryRedefineClasses [.long token]
      (value.bind Host.Value.bool?, s)

end Scene

end HotSwap
