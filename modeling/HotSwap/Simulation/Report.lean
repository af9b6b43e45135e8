/-
# HotSwap.Simulation.Report -- what a simulated run found

A run attaches again and again to one simulated process and counts what came back.
Whatever broke a promise is a `Violation`; a run without any has passed.
-/
import HotSwap.Message.Shown
import HotSwap.World.Link

namespace HotSwap.Simulation

set_option autoImplicit false

/-- What every attach of a run asks for: a swap that is applied at once, one that
waits for a restart, or one that the process refuses. -/
inductive Mode where
  | immediate
  | restart
  | reject
  deriving DecidableEq, Repr

namespace Mode

def all : List Mode := [immediate, restart, reject]

def name : Mode → String
  | immediate => "immediate"
  | restart => "restart"
  | reject => "reject"

/-- How a mode is shown as a value. -/
def shown : Mode → String
  | immediate => "Immediate"
  | restart => "Restart"
  | reject => "Reject"

def ofName? (s : String) : Option Mode := all.find? fun m => m.name == s

def unknown (s : String) : String := "unknown swap mode: " ++ s

end Mode

/-- A promise that was broken. -/
inductive Violation where
  | sessionFailed (attach : Nat) (error : String)
  | unexpectedResponse (attach : Nat) (expected : Status) (received : String)
  | wrongPid (attach : Nat) (pid : UInt32)
  | restartNotCompleted (attach : Nat)
  | connectionLeftOpen (attach : Nat)
  | retransformCount (count : Nat)
  | injectionCount (count : Nat)
  | notificationLeftOn (attach : Nat)
  | loadHookLeftInstalled (attach : Nat)
  deriving DecidableEq

def Violation.shown : Violation → String
  | sessionFailed attach error =>
      Shown.record "SessionFailed"
        [("attach", toString attach), ("error", Text.Quoted.text error)]
  | unexpectedResponse attach expected received =>
      Shown.record "UnexpectedResponse"
        [("attach", toString attach), ("expected", Shown.status expected),
          ("received", Text.Quoted.text received)]
  | wrongPid attach pid =>
      Shown.record "WrongPid" [("attach", toString attach), ("pid", toString pid.toNat)]
  | restartNotCompleted attach =>
      Shown.record "RestartNotCompleted" [("attach", toString attach)]
  | connectionLeftOpen attach => Shown.record "ConnectionLeftOpen" [("attach", toString attach)]
  | retransformCount count => Shown.record "RetransformCount" [("count", toString count)]
  | injectionCount count => Shown.record "InjectionCount" [("count", toString count)]
  | notificationLeftOn attach => Shown.record "NotificationLeftOn" [("attach", toString attach)]
  | loadHookLeftInstalled attach =>
      Shown.record "LoadHookLeftInstalled" [("attach", toString attach)]

def receivedShown : Received → String
  | .response r => "Response(" ++ Shown.response r ++ ")"
  | .garbage frame => "Garbage(" ++ Shown.bytes frame ++ ")"
  | .closed => "Closed"
  | .timedOut => "TimedOut"

structure Stats where
  attaches : Nat := 0
  sessionsFailed : Nat := 0
  responsesOk : Nat := 0
  responsesError : Nat := 0
  responsesInterim : Nat := 0
  redefinitions : Nat := 0
  hookRetransforms : Nat := 0
  deriving DecidableEq, Repr

structure Report where
  mode : Mode
  stats : Stats
  violations : List Violation
  deriving DecidableEq

namespace Report

def passed (r : Report) : Bool := r.violations.isEmpty

/-- Lines with numbers in front, counted from one. -/
def numbered (lines : List String) : List String :=
  lines.zipIdx.map fun l => toString (l.2 + 1) ++ ". " ++ l.1

def lines (r : Report) : List String :=
  ["=== Swap Agent Simulator Report ===", "",
    "Mode: " ++ r.mode.name,
    "Attaches: " ++ toString r.stats.attaches,
    "Sessions Failed: " ++ toString r.stats.sessionsFailed,
    "Responses OK: " ++ toString r.stats.responsesOk,
    "Responses ERROR: " ++ toString r.stats.responsesError,
    "Responses NEED_ACTIVITY_RESTART: " ++ toString r.stats.responsesInterim,
    "Redefinitions: " ++ toString r.stats.redefinitions,
    "Hook Retransforms: " ++ toString r.stats.hookRetransforms ++ " (SHOULD BE 1)",
    "Violations: " ++ toString r.violations.length] ++
  (if r.violations.isEmpty then []
    else ["", "=== Violations ==="] ++ numbered (r.violations.map Violation.shown)) ++
  ["", "=== Result: " ++ (if r.passed then "PASS" else "FAIL") ++ " ==="]

def text (r : Report) : String := String.join (r.lines.map (· ++ "\n"))

end Report

end HotSwap.Simulation
