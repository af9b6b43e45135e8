/-
# HotSwap.Files.Depot -- payloads on disk, written once

`deposit` makes sure that a payload lies in a directory under the name made from
its fingerprint.  A file that is there already is left as it is.  Otherwise the
bytes are written to a staging file beside it, readable by the owner alone, which
then takes the final name unless something else has it; so nobody ever reads half
a payload, and no staging file is left behind.
-/
import HotSwap.Files.Tree
import HotSwap.Payload

namespace HotSwap

set_option autoImplicit false

inductive DepositError where
  | createDir (dir : String) (cause : IoFault)
  | write (target : String) (cause : IoFault)
  | publish (target : String) (cause : IoFault)
  deriving DecidableEq, Repr

def DepositError.message : DepositError → String
  | .createDir dir cause => "cannot create payload directory " ++ dir ++ ": " ++ cause.message
  | .write target cause => "cannot write payload " ++ target ++ ": " ++ cause.message
  | .publish target cause => "cannot publish payload " ++ target ++ ": " ++ cause.message

namespace Depot

/-- The permissions of a payload: its owner may read and write it. -/
def mode : Nat := 0o600

/-- A name of the kind that staging files have: the last six letters are drawn
until the name is free. -/
def stagingName : String := ".tmpXXXXXX"

def target (dir : String) (payload : Payload) : String := Path.join dir payload.fileName

/-- Whether a staging file can be made in a directory. -/
def stage (t : FileTree) (dir : String) : Except IoFault Unit :=
  match t.create (Path.join dir stagingName) mode .empty with
  | .error .alreadyExists => .ok ()
  | .error e => .error e
  | .ok _ => .ok ()

/-- Gives a staged payload its final name.  Something that has the name already is
left alone. -/
def publish (t : FileTree) (path : String) (payload : Payload) :
    Except DepositError String × FileTree :=
  match t.create path mode payload.bytes with
  | .ok t => (.ok path, t)
  | .error .alreadyExists => (.ok path, t)
  | .error e => (.error (.publish path e), t)

/-- Makes sure that a payload lies in a directory, and says where. -/
def deposit (t : FileTree) (dir : String) (payload : Payload) :
    Except DepositError String × FileTree :=
  let path := target dir payload
  if t.isFile path then (.ok path, t)
  else
    match t.makeAll dir with
    | (.error e, t) => (.error (.createDir dir e), t)
    | (.ok (), t) =>
        match stage t dir with
        | .error e => (.error (.write path e), t)
        | .ok () => publish t path payload

end Depot

end HotSwap
