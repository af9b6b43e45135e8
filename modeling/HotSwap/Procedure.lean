/-
# HotSwap.Procedure -- what an agent does, as a tree of questions

A `Procedure` is finished, or asks one question and goes on with the answer.  The
questions are the only way in which an agent touches anything: the host, its
connection, the disk, the registries of class transformations, and the table of parked
swaps.  Each question is one atomic step.  So a procedure says what happens on
every answer to every question, and nothing about who answers; `Procedure.run`
plays it against one way of answering.
-/
import HotSwap.Files.Depot
import HotSwap.Frame.Basic
import HotSwap.Host.Call

namespace HotSwap

set_option autoImplicit false

/-- A connection, by its number. -/
abbrev LinkId := Nat

/-- A swap that waits for the activity to restart: the process it is for, what was
asked, and the connection on which the final answer is due. -/
structure PendingSwap where
  pid : UInt32
  request : Request
  link : LinkId
  deriving DecidableEq

/-- One step of an agent. -/
inductive Question where
  | host (call : HostCall)
  | connect
  | receive (link : LinkId)
  | send (link : LinkId) (frame : ByteArray)
  | hangUp (link : LinkId)
  | deposit (dir : String) (payload : Payload)
  | openRegistry (className : String) (transform : Transform)
  | emptyRegistry (id : Nat)
  | park (swap : PendingSwap)
  | take (token : Int)
  | takeSuperseded (pid : UInt32) (current : Int)

@[reducible] def Question.Answer : Question → Type
  | .host call => call.Answer
  | .connect => Except TransportError LinkId
  | .receive _ => Except TransportError ByteArray
  | .send .. => Except TransportError Unit
  | .hangUp _ => Unit
  | .deposit .. => Except DepositError String
  | .openRegistry .. => Nat
  | .emptyRegistry _ => Unit
  | .park _ => Int
  | .take _ => Option PendingSwap
  | .takeSuperseded .. => List PendingSwap

/-- What an agent does. -/
inductive Procedure (α : Type) where
  | done (a : α)
  | ask (question : Question) (next : question.Answer → Procedure α)

namespace Procedure

variable {α β γ : Type}

def bind : Procedure α → (α → Procedure β) → Procedure β
  | done a, f => f a
  | ask q next, f => ask q fun answer => (next answer).bind f

instance : Monad Procedure where
  pure := done
  bind := bind

@[simp] theorem pure_eq (a : α) : (pure a : Procedure α) = done a := rfl

@[simp] theorem bind_eq (p : Procedure α) (f : α → Procedure β) : p >>= f = p.bind f := rfl

@[simp] theorem done_bind (a : α) (f : α → Procedure β) : (done a).bind f = f a := rfl

@[simp] theorem ask_bind (q : Question) (next : q.Answer → Procedure α) (f : α → Procedure β) :
    (ask q next).bind f = ask q fun answer => (next answer).bind f := rfl

@[simp] theorem bind_done (p : Procedure α) : p.bind done = p := by
  induction p with
  | done a => rfl
  | ask q next ih => simp [ih]

theorem bind_assoc (p : Procedure α) (f : α → Procedure β) (g : β → Procedure γ) :
    (p.bind f).bind g = p.bind fun a => (f a).bind g := by
  induction p with
  | done a => rfl
  | ask q next ih => simp [ih]

/-- Plays a procedure against one way of answering, which may keep a state. -/
def run {σ : Type} (answer : (q : Question) → σ → q.Answer × σ) : Procedure α → σ → α × σ
  | done a, s => (a, s)
  | ask q next, s => run answer (next (answer q s).1) (answer q s).2

@[simp] theorem run_done {σ : Type} (answer : (q : Question) → σ → q.Answer × σ) (a : α) (s : σ) :
    run answer (done a) s = (a, s) := rfl

theorem run_bind {σ : Type} (answer : (q : Question) → σ → q.Answer × σ) (p : Procedure α)
    (f : α → Procedure β) (s : σ) :
    run answer (p.bind f) s = run answer (f (run answer p s).1) (run answer p s).2 := by
  induction p generalizing s with
  | done a => rfl
  | ask q next ih => exact ih _ _

/-! ## One question each -/

def potentialCapabilities : Procedure Capabilities := ask (.host .potentialCapabilities) done

def addCapabilities (wanted : Capabilities) : Procedure (Except Host.Error Unit) :=
  ask (.host (.addCapabilities wanted)) done

def setLoadHook (hook : Option LoadHook) : Procedure (Except Host.Error Unit) :=
  ask (.host (.setLoadHook hook)) done

def setLoadNotification (enabled : Bool) : Procedure (Except Host.Error Unit) :=
  ask (.host (.setLoadNotification enabled)) done

def retransformClass (name : String) : Procedure (Except Host.Error Unit) :=
  ask (.host (.retransformClass name)) done

def redefineClasses (changes : ChangeSet) : Procedure (Except Host.Error Unit) :=
  ask (.host (.redefineClasses changes)) done

def findClass (name : String) : Procedure Bool := ask (.host (.findClass name)) done

def appendToBootstrapSearch (archive : String) : Procedure (Except Host.Error Unit) :=
  ask (.host (.appendToBootstrapSearch archive)) done

def callStatic (className : String) (method : Host.Method) (args : List Host.Value) :
    Procedure (Except Host.Error Host.Value) :=
  ask (.host (.callStatic className method args)) done

def registerNatives (bindings : List NativeBinding) : Procedure (Except Host.Error Unit) :=
  ask (.host (.registerNatives bindings)) done

def processId : Procedure UInt32 := ask (.host .processId) done

def connect : Procedure (Except TransportError LinkId) := ask .connect done

def receive (link : LinkId) : Procedure (Except TransportError ByteArray) :=
  ask (.receive link) done

def send (link : LinkId) (frame : ByteArray) : Procedure (Except TransportError Unit) :=
  ask (.send link frame) done

def hangUp (link : LinkId) : Procedure Unit := ask (.hangUp link) done

def deposit (dir : String) (payload : Payload) : Procedure (Except DepositError String) :=
  ask (.deposit dir payload) done

def openRegistry (className : String) (transform : Transform) : Procedure Nat :=
  ask (.openRegistry className transform) done

def emptyRegistry (id : Nat) : Procedure Unit := ask (.emptyRegistry id) done

def park (swap : PendingSwap) : Procedure Int := ask (.park swap) done

def take (token : Int) : Procedure (Option PendingSwap) := ask (.take token) done

def takeSuperseded (pid : UInt32) (current : Int) : Procedure (List PendingSwap) :=
  ask (.takeSuperseded pid current) done

end Procedure

end HotSwap
