/-
# HotSwap.IoFault -- what can go wrong below the agent

The refusals of the file system and of sockets, each with the text and number by
which the operating system knows it, and the failures of a byte stream.
-/
namespace HotSwap

set_option autoImplicit false

/-- The kinds of failure a byte stream may show.  Only the first two are ever told apart from
the others, so every further kind is known by its name. -/
inductive StreamFault where
  | interrupted
  | unexpectedEnd
  | brokenPipe
  | connectionReset
  | other (kind : String) (apart : kind ≠ "Interrupted" ∧ kind ≠ "UnexpectedEof")
  deriving DecidableEq, Repr

def StreamFault.name : StreamFault → String
  | .interrupted => "Interrupted"
  | .unexpectedEnd => "UnexpectedEof"
  | .brokenPipe => "BrokenPipe"
  | .connectionReset => "ConnectionReset"
  | .other kind _ => kind

/-- Why an operation on files, sockets or streams failed. -/
inductive IoFault where
  | notFound
  | alreadyExists
  | notDirectory
  | isDirectory
  | nameTooLong
  | refused
  | addressInUse
  | zeroByteInPath
  | zeroByteInSocketPath
  | socketPathTooLong
  | socketNameTooLong
  | notText
  | nothingAccepted
  | stream (fault : StreamFault)
  | other (text : String)
  deriving DecidableEq, Repr

namespace IoFault

/-- A text of the operating system with its number. -/
def numbered (text : String) (number : Nat) : String :=
  text ++ " (os error " ++ toString number ++ ")"

def message : IoFault → String
  | .notFound => numbered "No such file or directory" 2
  | .alreadyExists => numbered "File exists" 17
  | .notDirectory => numbered "Not a directory" 20
  | .isDirectory => numbered "Is a directory" 21
  | .nameTooLong => numbered "File name too long" 36
  | .refused => numbered "Connection refused" 111
  | .addressInUse => numbered "Address already in use" 98
  | .zeroByteInPath => "file name contained an unexpected NUL byte"
  | .zeroByteInSocketPath => "paths must not contain interior null bytes"
  | .socketPathTooLong => "path must be shorter than SUN_LEN"
  | .socketNameTooLong => "abstract socket name must be shorter than SUN_LEN"
  | .notText => "stream did not contain valid UTF-8"
  | .nothingAccepted => "failed to write whole buffer"
  | .stream fault => "fault " ++ fault.name
  | .other text => text

end IoFault

end HotSwap
