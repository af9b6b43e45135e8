/-
# HotSwap.Main -- the program

The thin layer around `Command.Invocation.outcome`: it looks at the files that the
command line names, reads the environment, runs, puts what is new on disk, and
prints.  There are no sockets of the needed kind to be had here, so being a
controller fails once the settings are known.
-/
import HotSwap.Command.Run

namespace HotSwap.Command

set_option autoImplicit false

def placeOf (home : Place) (path : String) : Place :=
  (Path.segments path).foldl
    (fun place segment =>
      if segment = "." then place else if segment = ".." then place.dropLast
      else place ++ [segment])
    (if Path.isAbsolute path then [] else home)

def absolute (place : Place) : String := "/" ++ "/".intercalate place

/-- Adds what stands at a place; says whether there can be anything below it. -/
def look (files : FileTree) (place : Place) : IO (Bool × FileTree) := do
  match ← (IO.FS.readBinFile (absolute place)).toBaseIO with
  | .ok data => return (false, files.put place (.file 0o644 data))
  | .error (.noFileOrDirectory ..) => return (false, files)
  | .error _ => return (true, files.put place .directory)

/-- Adds what stands on the way from one place on. -/
def lookAlong (files : FileTree) (place : Place) : List String → IO FileTree
  | [] => return files
  | segment :: rest => do
      match ← look files (place ++ [segment]) with
      | (true, files) => lookAlong files (place ++ [segment]) rest
      | (false, files) => return files

/-- Puts a new entry on disk, unless something has come there in between. -/
def save (place : Place) : Entry → IO Unit
  | .directory => IO.FS.createDirAll (absolute place)
  | .file _ data => do
      match ← (IO.FS.Handle.mk (absolute place) .writeNew).toBaseIO with
      | .error _ => return
      | .ok handle =>
          handle.write data
          IO.setAccessRights (absolute place) { user := { read := true, write := true } }
  | .socket => return

/-- Puts on disk what a run added. -/
def saveNew (before after : FileTree) : IO Unit := do
  for (place, entry) in after.entries.reverse do
    if (before.at? place).isNone then save place entry

def readEnvironment : IO (List (String × String)) := do
  let found ← environmentKeys.mapM fun key => return (key, ← IO.getEnv key)
  return found.filterMap fun entry => entry.2.map fun value => (entry.1, value)

/-- The outcome of an invocation where there are no sockets. -/
def outcomeHere (s : Surroundings) (invocation : Invocation) : Outcome × FileTree :=
  match invocation with
  | .run config (.control _) =>
      match settingsOf s config with
      | .error message => (.failure message, s.files)
      | .ok _ => (.failure "control needs Unix-domain sockets", s.files)
  | _ => invocation.outcome s

end HotSwap.Command

open HotSwap HotSwap.Command

def main (args : List String) : IO UInt32 := do
  let invocation := parse args
  let home := Path.segments (← IO.currentDir).toString
  let environment ← readEnvironment
  let bare : Surroundings := { env := fun key => environment.lookup key }
  let files ← (bare.temporaryDir :: invocation.paths).foldlM
    (fun files path => lookAlong files [] (placeOf home path)) ({ home } : FileTree)
  let (outcome, after) := outcomeHere { bare with files } invocation
  saveNew files after
  IO.print outcome.stdout
  IO.eprint outcome.stderr
  return outcome.code
