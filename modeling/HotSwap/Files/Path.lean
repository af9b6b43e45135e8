/-
# HotSwap.Files.Path -- paths as text

A path is a row of segments between slashes.  `segments` is what the system walks
along; `components` is how a path is read as a name: a segment that means "here"
is left out unless a relative path begins with it, and neither repeated nor
trailing slashes count.  `join` puts a path behind another one, unless the second
is absolute and stands for itself.
-/
namespace HotSwap.Path

set_option autoImplicit false

/-- One part of a path that is read as a name. -/
inductive Component where
  | root
  | here
  | up
  | name (s : String)
  deriving DecidableEq, Repr

/-- The pieces between the slashes, empty ones included. -/
def pieces : List Char → List (List Char)
  | [] => [[]]
  | c :: rest =>
      if c = '/' then [] :: pieces rest
      else
        match pieces rest with
        | [] => [[c]]
        | p :: ps => (c :: p) :: ps

def segments (path : String) : List String :=
  ((pieces path.toList).filter fun p => !p.isEmpty).map String.ofList

def isAbsolute (path : String) : Bool := path.toList.head? == some '/'

/-- Whether a path ends with a slash, and so can only mean a directory. -/
def endsWithSlash (path : String) : Bool := path.toList.getLast? == some '/'

def component (segment : String) : Component := if segment = ".." then .up else .name segment

def components (path : String) : List Component :=
  let start :=
    if isAbsolute path then [.root]
    else if (segments path).head? = some "." then [.here]
    else []
  start ++ ((segments path).filter (· != ".")).map component

def join (base path : String) : String :=
  if isAbsolute path then path
  else if base.isEmpty || endsWithSlash base then base ++ path
  else base ++ "/" ++ path

end HotSwap.Path
