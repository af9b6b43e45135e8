/-
# HotSwap.Command.Run -- running the program

A run reads its settings, lets the environment override them, and does its task.
Nothing is printed before the settings are known, nor before the payload of a
simulation was read.  The environment also says where temporary files lie: the
socket does where no setting names another, and so does what a simulation writes
where no option names a directory.
-/
import HotSwap.Command.Control
import HotSwap.Settings.Document
import HotSwap.Text.Quoted

namespace HotSwap.Command

set_option autoImplicit false

def programName : String := "swap-agent"

def programVersion : String := "0.1.0"

/-- What surrounds a run: the file system, the environment, and a process that acts as
the agent. -/
structure Surroundings where
  files : FileTree := {}
  env : String → Option String := fun _ => none
  caller : Option Caller := none

def temporaryKey : String := "TMPDIR"

def environmentKeys : List String :=
  [temporaryKey, Settings.socketKey, Settings.timeoutKey, Settings.payloadDirKey]

def Surroundings.temporaryDir (s : Surroundings) : String :=
  (s.env temporaryKey).getD Settings.commonTemporaryDir

/-- A settings error, followed by what caused it. -/
def settingsFault (e : SettingsError) : String :=
  match e with
  | .read _ cause => e.message ++ ": " ++ cause.message
  | _ => e.message

/-- The settings before the environment is asked: those of a file, if one is named. -/
def baseSettings (s : Surroundings) : Option String → Except String Settings
  | none => .ok (.initial s.temporaryDir)
  | some path =>
      match Settings.load (.initial s.temporaryDir) s.files path with
      | .error e => .error ("loading " ++ path ++ ": " ++ settingsFault e)
      | .ok settings => .ok settings

def settingsOf (s : Surroundings) (config : Option String) : Except String Settings :=
  match baseSettings s config with
  | .error message => .error message
  | .ok settings =>
      match settings.withOverrides s.env with
      | .error e => .error (settingsFault e)
      | .ok settings => .ok settings

/-! ## Simulations -/

def payloadAt (files : FileTree) (path : String) : Except String Payload :=
  match files.read path with
  | .error e => .error ("reading " ++ path ++ ": " ++ e.message)
  | .ok bytes => .ok (.of bytes)

/-- The payload of a simulation, if it names one. -/
def payloadOf (files : FileTree) : Option String → Except String (Option Payload)
  | none => .ok none
  | some path => (payloadAt files path).map some

def exitCode (passed : Bool) : UInt32 := if passed then 0 else 1

/-- The place of the directory of temporary files, which has to have room for a
scratch directory. -/
def temporaryPlace (s : Surroundings) : Except String Place :=
  match s.files.room s.temporaryDir Depot.stagingName with
  | .ok place => .ok place
  | .error e =>
      .error (e.message ++ " at path " ++
        Text.Quoted.text (Path.join s.temporaryDir Depot.stagingName))

/-- What a simulation needs to know of the directory of temporary files: nothing, if
it has a payload directory. -/
def scratchPlace (s : Surroundings) : Option String → Except String Place
  | some _ => .ok []
  | none => temporaryPlace s

def simulateHeading (options : SimulateOptions) : String :=
  "Running swap agent simulator...\nAttaches: " ++ toString options.attaches ++
    "\nMode: " ++ options.mode.name ++ "\n\n"

/-- Simulates attaches in one mode. -/
def simulate (options : SimulateOptions) (s : Surroundings) : Outcome × FileTree :=
  match payloadOf s.files options.payload with
  | .error message => (.failure message, s.files)
  | .ok payload =>
      match scratchPlace s options.payloadDir with
      | .error message => ((Outcome.failure message).printing (simulateHeading options), s.files)
      | .ok temporary =>
          let config : Simulation.Config :=
            { attaches := options.attaches
              mode := options.mode
              payload
              payloadDir := options.payloadDir
              stopOnFirstViolation := options.stopOnViolation
              temporary }
          let (report, files) := Simulation.run config s.files SimulatedHost.firstPid
          let outcome : Outcome :=
            { code := exitCode report.passed, stdout := report.text ++ "\n" }
          (outcome.printing (simulateHeading options), files)

def certifyHeading : String := "Running certification suite...\n\n"

def certificate (reports : List Simulation.Report) : String :=
  String.join (reports.map fun r => r.text ++ "\n") ++
    "Certification Report:\n  Modes Tested: " ++ toString reports.length ++
    "\n  Total Violations: " ++ toString (reports.flatMap (·.violations)).length ++
    "\n  Status: " ++ (if reports.all (·.passed) then "PASSED" else "FAILED") ++ "\n"

/-- Simulates attaches in every mode. -/
def certify (attaches : Nat) (s : Surroundings) : Outcome :=
  match temporaryPlace s with
  | .error message => (Outcome.failure message).printing certifyHeading
  | .ok _ =>
      let reports := Simulation.certify attaches SimulatedHost.firstPid
      let outcome : Outcome :=
        { code := exitCode (reports.all (·.passed)), stdout := certificate reports }
      outcome.printing certifyHeading

/-! ## The program -/

def usage : String :=
  "Usage: " ++ programName ++ " [--config FILE] <simulate|certify|control> [OPTIONS]\n"

def perform (s : Surroundings) (settings : Settings) : Task → Outcome × FileTree
  | .overview => ({ code := 0, stdout := usage }, s.files)
  | .simulate options => simulate options s
  | .certify attaches => (certify attaches s, s.files)
  | .control options => control options settings s.files s.caller

def Invocation.outcome (s : Surroundings) : Invocation → Outcome × FileTree
  | .misuse => ({ code := 2, stderr := usage }, s.files)
  | .help => ({ code := 0, stdout := usage }, s.files)
  | .version => ({ code := 0, stdout := programName ++ " " ++ programVersion ++ "\n" }, s.files)
  | .run config task =>
      match settingsOf s config with
      | .error message => (.failure message, s.files)
      | .ok settings => perform s settings task

/-- The paths that a run may read or write. -/
def Invocation.paths : Invocation → List String
  | .run config task =>
      config.toList ++
        match task with
        | .simulate options => options.payload.toList ++ options.payloadDir.toList
        | _ => []
  | _ => []

end HotSwap.Command
