/-
# HotSwap.Settings.Document -- settings from a document

Every setting may be left out, and a name that is no setting is passed over.  A
choice between alternatives is a table with exactly one member, named for the
alternative; one that holds nothing may also be a plain string.  A record may be
written as an array of its fields.
-/
import HotSwap.Files.Tree
import HotSwap.Settings.Basic
import HotSwap.Toml.Document

namespace HotSwap.Settings

set_option autoImplicit false

open Toml

def string? : Node → Option String
  | .string s => some s
  | _ => none

/-- The members of a table of either kind. -/
def members? : Node → Option Members
  | .inline _ _ members => some members
  | .table _ _ members => some members
  | _ => none

def millis? : Node → Option UInt64
  | .integer n => if 0 ≤ n then some (UInt64.ofNat n.toNat) else none
  | _ => none

/-- The one member of a choice. -/
def choice? (node : Node) : Option (String × Node) :=
  match members? node with
  | some [member] => some member
  | _ => none

/-- The root of a payload directory that is private to the application. -/
def root? (node : Node) : Option String :=
  match members? node, node with
  | some members, _ =>
      if members.all fun m => m.1 == "root" then (members.lookup "root").bind string? else none
  | none, .array (first :: _) => string? first
  | none, _ => none

def payloadDir? (node : Node) : Option PayloadDir :=
  match choice? node with
  | some ("fixed", dir) => (string? dir).map .fixed
  | some ("app_private", inner) => (root? inner).map .appPrivate
  | _ => none

/-- Whether a value holds nothing. -/
def isNothing (node : Node) : Bool :=
  match node with
  | .array items => items.isEmpty
  | _ => (members? node).any List.isEmpty

def formatNamed? (name : String) : Option LogFormat :=
  if name = "text" then some .text else if name = "json" then some .json else none

def format? (node : Node) : Option LogFormat :=
  match node with
  | .string name => formatNamed? name
  | _ =>
      match choice? node with
      | some (name, inner) => if isNothing inner then formatNamed? name else none
      | none => none

/-- A field that keeps its value when it is left out. -/
def field? {α : Type} (absent : α) (read : Node → Option α) : Option Node → Option α
  | none => some absent
  | some node => read node

def log? (node : Node) : Option LogSettings :=
  match members? node, node with
  | some members, _ => do
      let filter ← field? ({} : LogSettings).filter string? (members.lookup "filter")
      let format ← field? .text format? (members.lookup "format")
      return ⟨filter, format⟩
  | none, .array items => do
      let filter ← field? ({} : LogSettings).filter string? items[0]?
      let format ← field? .text format? items[1]?
      return ⟨filter, format⟩
  | none, .datetime => some {}
  | none, _ => none

/-- The settings of a document, not yet validated; those of `base` where it says
nothing. -/
def ofMembers? (base : Settings) (members : Members) : Option Settings := do
  let socketPath ← field? base.socketPath string? (members.lookup "socket_path")
  let connectTimeoutMs ← field? base.connectTimeoutMs millis? (members.lookup "connect_timeout_ms")
  let payloadDir ← field? base.payloadDir payloadDir? (members.lookup "payload_dir")
  let log ← field? base.log log? (members.lookup "log")
  return { socketPath, connectTimeoutMs, payloadDir, log }

def ofText (base : Settings) (text : String) : Except SettingsError Settings :=
  match (parse? text).bind (ofMembers? base) with
  | none => .error .malformed
  | some s => s.validate

def load (base : Settings) (files : FileTree) (path : String) :
    Except SettingsError Settings :=
  match files.read path with
  | .error cause => .error (.read path cause)
  | .ok data =>
      match String.fromUTF8? data with
      | none => .error (.read path .notText)
      | some text => ofText base text

end HotSwap.Settings
