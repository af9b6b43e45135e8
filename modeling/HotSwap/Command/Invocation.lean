/-
# HotSwap.Command.Invocation -- what a command line asks for

The program has three tasks: to simulate attaches in one mode, to do so in every
mode, and to be the controller of one agent.  Settings may be named before the task
or behind it; the name behind it counts.
-/
import HotSwap.Command.Options
import HotSwap.Simulation.Run

namespace HotSwap.Command

set_option autoImplicit false

structure SimulateOptions where
  attaches : Nat := 10
  mode : Simulation.Mode := .immediate
  payload : Option String := none
  payloadDir : Option String := none
  stopOnViolation : Bool := false
  deriving DecidableEq, Repr

structure ControlOptions where
  socket : Option String := none
  package : String
  classes : List String := []
  restart : Bool := false
  acceptTimeoutMs : UInt64 := 30000
  responseTimeoutMs : UInt64 := 60000
  deriving DecidableEq, Repr

inductive Task where
  | overview
  | simulate (options : SimulateOptions)
  | certify (attaches : Nat)
  | control (options : ControlOptions)
  deriving DecidableEq, Repr

/-- What a command line asks for. -/
inductive Invocation where
  | misuse
  | help
  | version
  | run (config : Option String) (task : Task)
  deriving DecidableEq, Repr

/-! ## The options of every level -/

def configRule : OptionRule := ⟨"config", .path, false⟩

def simulateRules : List OptionRule :=
  [configRule, ⟨"attaches", .number, false⟩,
    ⟨"mode", .oneOf (Simulation.Mode.all.map Simulation.Mode.name), false⟩,
    ⟨"payload", .path, false⟩, ⟨"payload-dir", .path, false⟩,
    ⟨"stop-on-violation", .nothing, false⟩]

def certifyRules : List OptionRule := [configRule, ⟨"attaches", .number, false⟩]

def controlRules : List OptionRule :=
  [configRule, ⟨"socket", .path, false⟩, ⟨"package", .text, false⟩, ⟨"class", .text, true⟩,
    ⟨"restart", .nothing, false⟩, ⟨"accept-timeout-ms", .number, false⟩,
    ⟨"response-timeout-ms", .number, false⟩]

/-! ## Reading them -/

def number? (given : Given) (name : String) : Option UInt64 :=
  (given.lookup name).bind fun value => Settings.word? value.toList

def valuesOf (given : Given) (name : String) : List String :=
  (given.filter fun g => g.1 == name).map (·.2)

def simulateOptions (given : Given) : SimulateOptions :=
  { attaches := (number? given "attaches").elim 10 UInt64.toNat
    mode := ((given.lookup "mode").bind Simulation.Mode.ofName?).getD .immediate
    payload := given.lookup "payload"
    payloadDir := given.lookup "payload-dir"
    stopOnViolation := (given.lookup "stop-on-violation").isSome }

/-- What a controller is told, if it is told a package. -/
def controlOptions? (given : Given) : Option ControlOptions := do
  let package ← given.lookup "package"
  return {
    socket := given.lookup "socket"
    package
    classes := valuesOf given "class"
    restart := (given.lookup "restart").isSome
    acceptTimeoutMs := (number? given "accept-timeout-ms").getD 30000
    responseTimeoutMs := (number? given "response-timeout-ms").getD 60000 }

/-- The invocation of a task whose level was read; `config` was named before it. -/
def taskOf (config : Option String) (level : Level) (build : Given → Option Task) : Invocation :=
  match level with
  | .misuse | .word .. | .version => .misuse
  | .help => .help
  | .finished given =>
      match build given with
      | none => .misuse
      | some task => .run ((given.lookup "config").or config) task

def taskNamed (config : Option String) (name : String) (args : List String) : Invocation :=
  match name with
  | "simulate" =>
      taskOf config (scan simulateRules false [] args) fun given =>
        some (.simulate (simulateOptions given))
  | "certify" =>
      taskOf config (scan certifyRules false [] args) fun given =>
        some (.certify ((number? given "attaches").elim 25 UInt64.toNat))
  | "control" =>
      taskOf config (scan controlRules false [] args) fun given =>
        (controlOptions? given).map .control
  | _ => .misuse

def topics : List String := ["simulate", "certify", "control", "help"]

/-- The invocation that asks for help on a topic, or on everything. -/
def helpOn : List String → Invocation
  | [] => .help
  | [topic] => if topics.contains topic then .help else .misuse
  | _ => .misuse

/-- What a command line asks for. -/
def parse (args : List String) : Invocation :=
  match scan [configRule] true [] args with
  | .misuse => .misuse
  | .help => .help
  | .version => .version
  | .finished given => .run (given.lookup "config") .overview
  | .word _ "help" rest => helpOn rest
  | .word given name rest => taskNamed (given.lookup "config") name rest

end HotSwap.Command
