/-
# HotSwap.Files.Tree -- a file system

A `FileTree` maps places, which are the names from the root down, to directories,
files and sockets, and knows where relative paths begin.  Every operation takes a
path, walks it, and fails as the system would: a segment that is not there, a file
where a directory is needed, a name of more than 255 bytes or a path of 4096, a
zero byte.  There are no symbolic links, pipes or devices, there is always room for one
more entry, and nobody lacks permission.

`makeAll` creates a directory with all its parents.  Whatever it could not create
is forgiven if the path is a directory in the end.
-/
import HotSwap.Bytes
import HotSwap.Files.Path
import HotSwap.IoFault

namespace HotSwap

set_option autoImplicit false

inductive Entry where
  | directory
  | file (mode : Nat) (data : ByteArray)
  | socket
  deriving DecidableEq

/-- The names from the root down. -/
abbrev Place := List String

/-- The entries of a file system below its root, each place at most once, and the
place where relative paths begin. -/
structure FileTree where
  entries : List (Place × Entry) := []
  home : Place := []

namespace FileTree

/-- What stands at a place; the root is a directory. -/
def at? (t : FileTree) (place : Place) : Option Entry :=
  if place = [] then some .directory else t.entries.lookup place

def isDirectoryAt (t : FileTree) (place : Place) : Bool :=
  match t.at? place with
  | some .directory => true
  | _ => false

def put (t : FileTree) (place : Place) (entry : Entry) : FileTree :=
  { t with entries := (place, entry) :: t.entries.filter fun e => e.1 != place }

/-- The file system with nothing at a place and below it. -/
def remove (t : FileTree) (place : Place) : FileTree :=
  { t with entries := t.entries.filter fun e => !place.isPrefixOf e.1 }

/-! ## Walking -/

/-- The most bytes of a name. -/
def maxName : Nat := 255

/-- The number of bytes that no path reaches. -/
def pathLimit : Nat := 4096

def enter (t : FileTree) (dir : Place) (segment : String) : Except IoFault Place :=
  if !t.isDirectoryAt dir then .error .notDirectory
  else if segment = "." then .ok dir
  else if segment = ".." then .ok dir.dropLast
  else if maxName < segment.utf8ByteSize then .error .nameTooLong
  else
    match t.at? (dir ++ [segment]) with
    | none => .error .notFound
    | some _ => .ok (dir ++ [segment])

def walk (t : FileTree) : Place → List String → Except IoFault Place
  | dir, [] => .ok dir
  | dir, s :: rest =>
      match t.enter dir s with
      | .error e => .error e
      | .ok place => t.walk place rest

def start (t : FileTree) (path : String) : Place := if Path.isAbsolute path then [] else t.home

/-- Refuses a path that the system does not even begin to walk. -/
def checkPath (path : String) : Except IoFault Unit :=
  if path.toList.contains '\x00' then .error .zeroByteInPath
  else if path.isEmpty then .error .notFound
  else if pathLimit ≤ path.utf8ByteSize then .error .nameTooLong
  else .ok ()

def find (t : FileTree) (path : String) : Except IoFault Place := do
  checkPath path
  let place ← t.walk (t.start path) (Path.segments path)
  if Path.endsWithSlash path && !t.isDirectoryAt place then .error .notDirectory
  else .ok place

def stat (t : FileTree) (path : String) : Except IoFault Entry := do
  let place ← t.find path
  match t.at? place with
  | none => .error .notFound
  | some entry => .ok entry

def isFile (t : FileTree) (path : String) : Bool :=
  match t.stat path with
  | .ok (.file ..) => true
  | _ => false

def leadsSomewhere (t : FileTree) (path : String) : Bool := (t.stat path).toOption.isSome

def isDirectory (t : FileTree) (path : String) : Bool :=
  match t.stat path with
  | .ok .directory => true
  | _ => false

def read (t : FileTree) (path : String) : Except IoFault ByteArray := do
  match ← t.stat path with
  | .file _ data => .ok data
  | .directory => .error .isDirectory
  | .socket => .error (.other (IoFault.numbered "No such device or address" 6))

/-! ## Making entries -/

/-- The place for a new entry: its parent must be a directory, and nothing may be
there.  A segment that only moves about names what exists already. -/
def vacancy (t : FileTree) (start : Place) (steps : List String) : Except IoFault Place :=
  match steps.getLast? with
  | none => .error .alreadyExists
  | some last => do
      let dir ← t.walk start steps.dropLast
      if !t.isDirectoryAt dir then .error .notDirectory
      else if last = "." || last = ".." then .error .alreadyExists
      else if maxName < last.utf8ByteSize then .error .nameTooLong
      else
        match t.at? (dir ++ [last]) with
        | some _ => .error .alreadyExists
        | none => .ok (dir ++ [last])

/-- The place of a directory in which an entry of a given name can be made. -/
def room (t : FileTree) (dir name : String) : Except IoFault Place := do
  checkPath (Path.join dir name)
  let place ← t.walk (t.start dir) (Path.segments dir)
  if t.isDirectoryAt place then .ok place else .error .notDirectory

def makeOne (t : FileTree) (start : Place) (steps : List String) : Except IoFault FileTree :=
  match t.vacancy start steps with
  | .error e => .error e
  | .ok place => .ok (t.put place .directory)

def leadsToDirectory (t : FileTree) (start : Place) (steps : List String) : Bool :=
  match t.walk start steps with
  | .ok place => t.isDirectoryAt place
  | .error _ => false

/-- Makes a directory and its parents; the segments come last first. -/
def makeChain (start : Place) (t : FileTree) : List String → Except IoFault Unit × FileTree
  | [] => (.ok (), t)
  | last :: parents =>
      match t.makeOne start (last :: parents).reverse with
      | .ok t => (.ok (), t)
      | .error .notFound =>
          match makeChain start t parents with
          | (.error e, t) => (.error e, t)
          | (.ok (), t) =>
              match t.makeOne start (last :: parents).reverse with
              | .ok t => (.ok (), t)
              | .error e =>
                  if t.leadsToDirectory start (last :: parents).reverse then (.ok (), t)
                  else (.error e, t)
      | .error e =>
          if t.leadsToDirectory start (last :: parents).reverse then (.ok (), t) else (.error e, t)

/-- The segments above the last component of a path, last first. -/
def parentSteps (path : String) : List String :=
  ((Path.segments path).filter (· != ".")).reverse.tail

def makeAll (t : FileTree) (path : String) : Except IoFault Unit × FileTree :=
  if path.isEmpty then (.ok (), t)
  else
    match checkPath path with
    | .error e => (.error e, t)
    | .ok () =>
        match t.makeOne (t.start path) (Path.segments path) with
        | .ok t => (.ok (), t)
        | .error .notFound =>
            match makeChain (t.start path) t (parentSteps path) with
            | (.error e, t) => (.error e, t)
            | (.ok (), t) =>
                match t.makeOne (t.start path) (Path.segments path) with
                | .ok t => (.ok (), t)
                | .error e => if t.isDirectory path then (.ok (), t) else (.error e, t)
        | .error e => if t.isDirectory path then (.ok (), t) else (.error e, t)

/-- Puts a file at a path where nothing is yet. -/
def create (t : FileTree) (path : String) (mode : Nat) (data : ByteArray) :
    Except IoFault FileTree := do
  checkPath path
  if Path.endsWithSlash path then .error .isDirectory
  else
    let place ← t.vacancy (t.start path) (Path.segments path)
    .ok (t.put place (.file mode data))

def parent (path : String) : String :=
  let chain := "/".intercalate (parentSteps path).reverse
  if Path.isAbsolute path then "/" ++ chain else chain

/-- Puts a file at a path with all directories above it, replacing what it held. -/
def write (t : FileTree) (path : String) (mode : Nat) (data : ByteArray) :
    Except IoFault Unit × FileTree :=
  match t.makeAll (parent path) with
  | (.error e, t) => (.error e, t)
  | (.ok (), t) =>
      match t.find path with
      | .ok place =>
          match t.at? place with
          | some (.file mode _) => (.ok (), t.put place (.file mode data))
          | _ => (.error .isDirectory, t)
      | .error _ =>
          match t.create path mode data with
          | .ok t => (.ok (), t)
          | .error e => (.error e, t)

def removeFile (t : FileTree) (path : String) : Except IoFault FileTree := do
  let place ← t.find path
  if t.isDirectoryAt place then .error .isDirectory else .ok (t.remove place)

/-! ## Sockets -/

/-- The number of bytes that no path of a socket reaches. -/
def socketPathLimit : Nat := 108

/-- Whether a socket's path is a name apart from the file system: it begins with a zero
byte, which counts as one of its bytes. -/
def isAbstract (path : String) : Bool := path.toList.head? == some '\x00'

/-- The place of the socket that a path leads to.  The path of a connection has the
same limit as the path of a socket. -/
def socketAt? (t : FileTree) (path : String) : Option Place :=
  if socketPathLimit ≤ path.utf8ByteSize then none
  else
    match t.find path with
    | .error _ => none
    | .ok place => if t.at? place = some .socket then some place else none

/-- Puts a socket at a path where nothing is yet.  One without a name, or with a name
apart from the file system, is not seen. -/
def bind (t : FileTree) (path : String) : Except IoFault FileTree :=
  if path.isEmpty then .ok t
  else if isAbstract path then
    if path.utf8ByteSize ≤ socketPathLimit then .ok t else .error .socketNameTooLong
  else if path.toList.contains '\x00' then .error .zeroByteInSocketPath
  else if socketPathLimit ≤ path.utf8ByteSize then .error .socketPathTooLong
  else
    match t.vacancy (t.start path) (Path.segments path) with
    | .error .alreadyExists => .error .addressInUse
    | .error e => .error e
    | .ok place => if Path.endsWithSlash path then .error .notFound else .ok (t.put place .socket)

/-! ## Listing -/

/-- The entries below a directory with their paths, in the order of the paths. -/
def below (t : FileTree) (top : Place) : List (String × Entry) :=
  let inside := t.entries.filter fun e => top.isPrefixOf e.1 && e.1 != top
  (inside.map fun e => ("/".intercalate e.1, e.2)).mergeSort fun a b => !(b.1 < a.1)

end FileTree

end HotSwap
