/-
# HotSwap.Message.Shown -- messages in full, for people

The text of a whole message with the names of its parts, used where a message
itself is the evidence: in the report of a run, and in a log.
-/
import HotSwap.Message.Request
import HotSwap.Message.Response

namespace HotSwap

set_option autoImplicit false

namespace Shown

open Text.Quoted (text)

def list (items : List String) : String := "[" ++ ", ".intercalate items ++ "]"

/-- The name of a record and its fields between braces. -/
def record (name : String) (fields : List (String × String)) : String :=
  name ++ " \x7b " ++ ", ".intercalate (fields.map fun f => f.1 ++ ": " ++ f.2) ++ " \x7d"

/-- A record of which only some fields are shown. -/
def openRecord (name : String) (fields : List (String × String)) : String :=
  name ++ " \x7b " ++ ", ".intercalate (fields.map (fun f => f.1 ++ ": " ++ f.2) ++ [".."]) ++
    " \x7d"

/-- A byte string as a list of numbers. -/
def bytes (b : ByteArray) : String := list (b.data.toList.map fun x => toString x.toNat)

def classDefinition (c : ClassDefinition) : String :=
  record "ClassDefinition" [("name", text c.name), ("bytecode", bytes c.bytecode)]

def request (r : Request) : String :=
  record "Request"
    [("package_name", text r.packageName), ("restart_activity", Host.Value.word r.restartActivity),
      ("change_set", record "ChangeSet" [("classes", list (r.changes.map classDefinition))])]

def status : Status → String
  | .ok => "Ok"
  | .error => "Error"
  | .needActivityRestart => "NeedActivityRestart"

def errorDetail : Option ErrorDetail → String
  | none => "None"
  | some d =>
      "Some(" ++ record "ErrorDetail" [("kind", text d.kind), ("message", text d.message)] ++ ")"

def response (r : Response) : String :=
  record "Response"
    [("pid", toString r.pid.toNat), ("status", status r.status),
      ("error_detail", errorDetail r.errorDetail)]

end Shown

end HotSwap
