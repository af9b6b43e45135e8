/-
# HotSwap.Frame.Basic -- length-delimited frames

A frame on the wire is its length as four bytes, the highest first, and then its
bytes.  No frame is longer than `maxLength`.  This module holds the two ends of
that format and the ways in which moving a frame can fail.
-/
import HotSwap.IoFault
import HotSwap.Text.Duration

namespace HotSwap

set_option autoImplicit false

/-- Why a frame was not moved. -/
inductive TransportError where
  | connect (path : String) (cause : IoFault)
  | timeout (path : String) (after : Duration)
  | io (cause : IoFault)
  | frameTooLarge (size : Nat)
  | closed
  | nestedRuntime
  deriving DecidableEq, Repr

namespace Frame

/-- The longest frame that is sent or accepted. -/
def maxLength : Nat := 16777216

/-- A number below 2^32 as four bytes, the highest first. -/
def header (length : Nat) : List UInt8 :=
  [UInt8.ofNat (length / 16777216), UInt8.ofNat (length / 65536),
    UInt8.ofNat (length / 256), UInt8.ofNat length]

/-- The number that a row of bytes stands for, the highest byte first. -/
def headerValue (bytes : List UInt8) : Nat := bytes.foldl (fun n b => 256 * n + b.toNat) 0

end Frame

def TransportError.message : TransportError → String
  | .connect path cause => "cannot connect to " ++ path ++ ": " ++ cause.message
  | .timeout path after => "connect to " ++ path ++ " timed out after " ++ after.render
  | .io cause => "I/O error: " ++ cause.message
  | .frameTooLarge size =>
      "frame too large: " ++ toString size ++ " bytes (max " ++ toString Frame.maxLength ++ ")"
  | .closed => "connection closed by peer"
  | .nestedRuntime => "blocking connect called from inside an async runtime"

def TransportError.name : TransportError → String
  | .connect .. => "Connect"
  | .timeout .. => "Timeout"
  | .io _ => "Io"
  | .frameTooLarge _ => "FrameTooLarge"
  | .closed => "Closed"
  | .nestedRuntime => "NestedRuntime"

end HotSwap
