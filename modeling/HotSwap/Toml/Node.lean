/-
# HotSwap.Toml.Node -- documents of named values

A document is a tree of tables.  A table remembers how it came to be: `implicit`
if it was only passed through on the way to another one, `dotted` if that way was
a key with dots in it.  These two marks decide which later lines may still add to
it.  Of floats and dates only that they are there is kept.
-/
namespace HotSwap.Toml

set_option autoImplicit false

inductive Node where
  | string (s : String)
  | integer (n : Int)
  | float
  | boolean (b : Bool)
  | datetime
  | array (items : List Node)
  | inline (implicit dotted : Bool) (members : List (String × Node))
  | table (implicit dotted : Bool) (members : List (String × Node))
  | tables (elements : List Node)

/-- The members of a table, in the order in which they were first named. -/
abbrev Members := List (String × Node)

namespace Members

/-- The members with the value of a name replaced, or added at the end. -/
def set (name : String) (value : Node) : Members → Members
  | [] => [(name, value)]
  | m :: rest => if m.1 = name then (name, value) :: rest else m :: set name value rest

def remove (name : String) (members : Members) : Members := members.filter fun m => m.1 != name

end Members

end HotSwap.Toml
