/-
# HotSwap.Message.Request -- what a controller asks for

A request names the application package, says whether the swap has to wait for
the activity to restart, and brings the classes to redefine.  It travels as a
document with the fields `package_name`, `restart_activity` and `change_set`; the
last two may be left out.

The package name becomes the name of one directory, so a name that could mean
another place is refused: `isPlainName` holds of a name that is not the current
directory and has no two dots in a row, no slash, no backslash and no NUL.
-/
import HotSwap.Bytes
import HotSwap.Json.Printer
import HotSwap.Json.Record
import HotSwap.Text.Blank

namespace HotSwap

set_option autoImplicit false

structure ClassDefinition where
  name : String
  bytecode : ByteArray
  deriving DecidableEq

/-- The classes to redefine, in order; a name may come more than once. -/
abbrev ChangeSet := List ClassDefinition

structure Request where
  packageName : String
  restartActivity : Bool
  changes : ChangeSet
  deriving DecidableEq

namespace Request

inductive DecodeError where
  | empty
  | malformed
  | missingPackageName
  | invalidPackageName (name : String)
  deriving DecidableEq, Repr

/-- The text of an error.  What exactly is wrong with a malformed document is not
kept. -/
def DecodeError.message : DecodeError → String
  | .empty => "empty message"
  | .malformed => "malformed message"
  | .missingPackageName => "request has no package name"
  | .invalidPackageName name => "invalid package name: " ++ Text.Quoted.text name

def DecodeError.name : DecodeError → String
  | .empty => "Empty"
  | .malformed => "Malformed"
  | .missingPackageName => "MissingPackageName"
  | .invalidPackageName _ => "InvalidPackageName"

def hasDoubleDot : List Char → Bool
  | '.' :: '.' :: _ => true
  | _ :: rest => hasDoubleDot rest
  | [] => false

/-- A name of one directory entry that cannot mean another place. -/
def isPlainName (name : String) : Bool :=
  let cs := name.toList
  cs != ['.'] && !hasDoubleDot cs && !cs.any fun c => c == '/' || c == '\\' || c == '\x00'

open Json

/-! ## Writing -/

def bytesValue (bytes : ByteArray) : Value :=
  .array (bytes.data.toList.map fun b => Value.ofNat b.toNat)

def classValue (c : ClassDefinition) : Value :=
  .record [("name", .ofString c.name), ("bytecode", bytesValue c.bytecode)]

def toValue (r : Request) : Value :=
  .record [("package_name", .ofString r.packageName),
    ("restart_activity", .bool r.restartActivity),
    ("change_set", .record [("classes", .array (r.changes.map classValue))])]

def encode (r : Request) : ByteArray := ⟨r.toValue.print.toArray⟩

/-! ## Reading -/

def bytesOf? (v : Value) : Option ByteArray := do
  let items ← v.items?
  let bytes ← readAll? Value.byte? items
  return ⟨bytes.toArray⟩

/-- A class from a document; the bytecode may be left out. -/
def classOf? (v : Value) : Option ClassDefinition := do
  let fields ← v.record? ["name", "bytecode"]
  let name ← fields.required "name" Value.string?
  let bytecode ← fields.optional "bytecode" .empty bytesOf?
  return ⟨name, bytecode⟩

/-- The classes from a document; they may be left out. -/
def changesOf? (v : Value) : Option ChangeSet := do
  let fields ← v.record? ["classes"]
  fields.optional "classes" [] fun classes => do readAll? classOf? (← classes.items?)

def ofValue? (v : Value) : Option Request := do
  let fields ← v.record? ["package_name", "restart_activity", "change_set"]
  let packageName ← fields.required "package_name" Value.string?
  let restartActivity ← fields.optional "restart_activity" false Value.bool?
  let changes ← fields.optional "change_set" [] changesOf?
  return ⟨packageName, restartActivity, changes⟩

/-- Refuses a request whose package name is blank or could mean another place. -/
def check (r : Request) : Except DecodeError Request :=
  if Text.isAllBlank r.packageName then .error .missingPackageName
  else if isPlainName r.packageName then .ok r
  else .error (.invalidPackageName r.packageName)

def decode (frame : ByteArray) : Except DecodeError Request :=
  if frame.size = 0 then .error .empty
  else
    match parse? frame.data.toList with
    | none => .error .malformed
    | some v =>
        match ofValue? v with
        | none => .error .malformed
        | some r => check r

end Request

end HotSwap
