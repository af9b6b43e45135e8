/-
# HotSwap.Host.Value -- what is passed to and from the host

The values that static methods take and return, the methods themselves, and the
errors a host answers with.
-/
import HotSwap.Text.Quoted

namespace HotSwap

set_option autoImplicit false

namespace Host

inductive Value where
  | void
  | bool (b : Bool)
  | int (n : Int)
  | long (n : Int)
  | str (s : String)
  deriving DecidableEq, Repr

namespace Value

def bool? : Value → Option Bool
  | .bool b => some b
  | _ => none

/-- The long number, if it is one; a plain number is none. -/
def long? : Value → Option Int
  | .long n => some n
  | _ => none

def word : Bool → String
  | true => "true"
  | false => "false"

def shown : Value → String
  | .void => "Void"
  | .bool b => "Bool(" ++ word b ++ ")"
  | .int n => "Int(" ++ toString n ++ ")"
  | .long n => "Long(" ++ toString n ++ ")"
  | .str s => "Str(" ++ Text.Quoted.text s ++ ")"

end Value

/-- A method: its name and the signature that tells it from others of that name. -/
structure Method where
  name : String
  signature : String
  deriving DecidableEq, Repr

def Method.text (m : Method) : String := m.name ++ m.signature

/-- Why a host refuses a call. -/
inductive ErrorCode where
  | notAvailable
  | classNotFound
  | methodNotFound
  | invalidClassFormat
  | unsupportedChange
  | illegalArgument
  | exception
  | internal
  deriving DecidableEq, Repr

def ErrorCode.all : List ErrorCode :=
  [.notAvailable, .classNotFound, .methodNotFound, .invalidClassFormat, .unsupportedChange,
    .illegalArgument, .exception, .internal]

def ErrorCode.name : ErrorCode → String
  | .notAvailable => "NOT_AVAILABLE"
  | .classNotFound => "CLASS_NOT_FOUND"
  | .methodNotFound => "METHOD_NOT_FOUND"
  | .invalidClassFormat => "INVALID_CLASS_FORMAT"
  | .unsupportedChange => "UNSUPPORTED_CHANGE"
  | .illegalArgument => "ILLEGAL_ARGUMENT"
  | .exception => "EXCEPTION"
  | .internal => "INTERNAL"

structure Error where
  code : ErrorCode
  message : String
  deriving DecidableEq, Repr

def Error.text (e : Error) : String := e.code.name ++ ": " ++ e.message

end Host

end HotSwap
