/-
# HotSwap.Message.Response -- what a controller is told

A response names the process and says how the swap went.  `needActivityRestart`
is an interim answer: another response follows on the same connection.  A
document that leaves out `error_detail` and one that gives it as null say the
same.
-/
import HotSwap.Bytes
import HotSwap.Host.Value
import HotSwap.Json.Printer
import HotSwap.Json.Record

namespace HotSwap

set_option autoImplicit false

inductive Status where
  | ok
  | error
  | needActivityRestart
  deriving DecidableEq, Repr

namespace Status

def name : Status → String
  | .ok => "OK"
  | .error => "ERROR"
  | .needActivityRestart => "NEED_ACTIVITY_RESTART"

def ofName? (s : String) : Option Status :=
  [ok, error, needActivityRestart].find? fun status => status.name == s

/-- Whether another response follows. -/
def isInterim : Status → Bool
  | .needActivityRestart => true
  | _ => false

end Status

/-- What went wrong: a class of failure and a description. -/
structure ErrorDetail where
  kind : String
  message : String
  deriving DecidableEq, Repr

def ErrorDetail.ofHost (e : Host.Error) : ErrorDetail := ⟨e.code.name, e.message⟩

structure Response where
  pid : UInt32
  status : Status
  errorDetail : Option ErrorDetail
  deriving DecidableEq, Repr

namespace Response

def ok (pid : UInt32) : Response := ⟨pid, .ok, none⟩

def error (pid : UInt32) (detail : ErrorDetail) : Response := ⟨pid, .error, some detail⟩

def needRestart (pid : UInt32) : Response := ⟨pid, .needActivityRestart, none⟩

inductive DecodeError where
  | empty
  | malformed
  deriving DecidableEq, Repr

/-- The text of an error.  What exactly is wrong with a malformed document is not
kept. -/
def DecodeError.message : DecodeError → String
  | .empty => "empty message"
  | .malformed => "malformed message"

open Json

/-! ## Writing -/

def detailValue (d : ErrorDetail) : Value :=
  .record [("kind", .ofString d.kind), ("message", .ofString d.message)]

/-- A response as a document; an absent detail is left out. -/
def toValue (r : Response) : Value :=
  .record <|
    [("pid", .ofNat r.pid.toNat), ("status", .ofString r.status.name)] ++
      match r.errorDetail with
      | none => []
      | some d => [("error_detail", detailValue d)]

def encode (r : Response) : ByteArray := ⟨r.toValue.print.toArray⟩

/-! ## Reading -/

/-- A status: its name, or an object whose one member has that name and no value. -/
def statusOf? : Value → Option Status
  | .string raw => do Status.ofName? (← raw.decode?)
  | .object [(key, .null)] => do Status.ofName? (← key.decode?)
  | _ => none

def detailOf? : Value → Option (Option ErrorDetail)
  | .null => some none
  | v => do
      let fields ← v.record? ["kind", "message"]
      let kind ← fields.required "kind" Value.string?
      let message ← fields.required "message" Value.string?
      return some ⟨kind, message⟩

def ofValue? (v : Value) : Option Response := do
  let fields ← v.record? ["pid", "status", "error_detail"]
  let pid ← fields.required "pid" (Value.natUpTo? 4294967295)
  let status ← fields.required "status" statusOf?
  let errorDetail ← fields.optional "error_detail" none detailOf?
  return ⟨UInt32.ofNat pid, status, errorDetail⟩

def decode (frame : ByteArray) : Except DecodeError Response :=
  if frame.size = 0 then .error .empty
  else
    match parse? frame.data.toList with
    | none => .error .malformed
    | some v =>
        match ofValue? v with
        | none => .error .malformed
        | some r => .ok r

end Response

end HotSwap
