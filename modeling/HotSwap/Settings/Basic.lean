/-
# HotSwap.Settings.Basic -- what an agent is told beforehand

Where the controller listens, how long a connect may take, where payloads are
kept, and what is logged.  A payload directory is either fixed or lies in the
private directory of the application; in the second case `PayloadDir.resolve`
accepts only a package name that is one plain component, so that nothing outside
the root can be named.

Settings come from defaults, from a document, and from the environment, which
overrides the others one setting at a time.  A timeout of zero is refused.
-/
import HotSwap.Files.Path
import HotSwap.IoFault
import HotSwap.Text.Blank
import HotSwap.Text.Digits
import HotSwap.Text.Duration

namespace HotSwap

set_option autoImplicit false

/-- Where payloads are kept. -/
inductive PayloadDir where
  | appPrivate (root : String)
  | fixed (dir : String)
  deriving DecidableEq, Repr

namespace PayloadDir

/-- The directory below an application's own that holds payloads. -/
def subdirectory : String := ".studio"

/-- The directory for a package, if the package names one. -/
def resolve (d : PayloadDir) (package : String) : Option String :=
  match d with
  | .fixed dir => some dir
  | .appPrivate root =>
      match Path.components package with
      | [.name name] => some (Path.join (Path.join root name) subdirectory)
      | _ => none

end PayloadDir

inductive LogFormat where
  | text
  | json
  deriving DecidableEq, Repr

structure LogSettings where
  filter : String := "swap_agent=info"
  format : LogFormat := .text
  deriving DecidableEq, Repr

/-- What an agent is told beforehand. -/
structure Settings where
  socketPath : String := "/tmp/swap-agent.sock"
  connectTimeoutMs : UInt64 := 1000
  payloadDir : PayloadDir := .appPrivate "/data/data"
  log : LogSettings := {}
  deriving DecidableEq, Repr

inductive SettingsError where
  | malformed
  | read (path : String) (cause : IoFault)
  | invalidValue (key value : String)
  deriving DecidableEq, Repr

/-- The text of an error.  What exactly is wrong with a malformed document is not
kept. -/
def SettingsError.message : SettingsError → String
  | .malformed => "invalid config"
  | .read path cause => "cannot read config " ++ path ++ ": " ++ cause.message
  | .invalidValue key value => "invalid value for " ++ key ++ ": " ++ value

namespace Settings

/-- The name of the socket where only a directory is known. -/
def socketName : String := "swap-agent.sock"

/-- The settings before anything is said, where temporary files lie in a given
directory. -/
def initial (temporaryDir : String) : Settings :=
  { socketPath := Path.join temporaryDir socketName }

/-- The directory of temporary files where nothing names another. -/
def commonTemporaryDir : String := "/tmp"

/-- Settings that say nothing are those where nothing names a directory. -/
theorem initial_commonTemporaryDir : initial commonTemporaryDir = {} := by decide

def socketKey : String := "SWAP_AGENT_SOCKET"

def timeoutKey : String := "SWAP_AGENT_CONNECT_TIMEOUT_MS"

def payloadDirKey : String := "SWAP_AGENT_PAYLOAD_DIR"

def maxWord : Nat := 18446744073709551615

def connectTimeout (s : Settings) : Duration := .ofMillis s.connectTimeoutMs

/-- The settings with another connect timeout: whole milliseconds, and the most
that 64 bits hold if there are more. -/
def withConnectTimeout (s : Settings) (timeout : Duration) : Settings :=
  { s with connectTimeoutMs := UInt64.ofNat (min timeout.millis maxWord) }

/-- Refuses a timeout of zero. -/
def validate (s : Settings) : Except SettingsError Settings :=
  if s.connectTimeoutMs = 0 then .error (.invalidValue "connect_timeout_ms" "0") else .ok s

/-- A number of 64 bits: decimal digits, perhaps behind a plus. -/
def word? (text : List Char) : Option UInt64 :=
  let digits := match text with
    | '+' :: rest => rest
    | cs => cs
  if digits.isEmpty || !digits.all fun c => '0' ≤ c && c ≤ '9' then none
  else
    (Text.Digits.natUpTo? 10 maxWord (digits.map fun c => c.toNat - 48)).map UInt64.ofNat

/-- What the environment says about the timeout, blanks around it left out. -/
def overrideTimeout (s : Settings) : Option String → Except SettingsError Settings
  | none => .ok s
  | some text =>
      match word? (Text.trimChars text.toList) with
      | none => .error (.invalidValue timeoutKey text)
      | some ms => .ok { s with connectTimeoutMs := ms }

/-- The settings with what the environment says in place of theirs. -/
def withOverrides (s : Settings) (lookup : String → Option String) :
    Except SettingsError Settings := do
  let s := match lookup socketKey with
    | none => s
    | some path => { s with socketPath := path }
  let s ← s.overrideTimeout (lookup timeoutKey)
  let s := match lookup payloadDirKey with
    | none => s
    | some dir => { s with payloadDir := .fixed dir }
  s.validate

end Settings

end HotSwap
