/-
# HotSwap.World.Registry -- transformations by class name

A registry is the load hook of an agent: it holds at most one transformation for each
class and is offered every class that is loaded.  It counts how often one of its
transformations was applied.
-/
import HotSwap.Host.Call

namespace HotSwap

set_option autoImplicit false

/-- Transformations by class name, in the order in which the classes were first named. -/
structure Registry where
  rules : List (String × Transform) := []
  uses : Nat := 0

namespace Registry

/-- Gives a class its transformation, in place of one it had. -/
def add (r : Registry) (className : String) (transform : Transform) : Registry :=
  if (r.rules.lookup className).isSome then
    { r with rules := r.rules.map fun rule =>
        if rule.1 = className then (className, transform) else rule }
  else { r with rules := r.rules ++ [(className, transform)] }

def clear (r : Registry) : Registry := { r with rules := [] }

/-- Offers a class that is loaded: its new bytes, if it is transformed. -/
def load (r : Registry) (className : String) (data : ByteArray) : Option ByteArray × Registry :=
  match r.rules.lookup className with
  | none => (none, r)
  | some transform => (transform className data, { r with uses := r.uses + 1 })

/-- A registry as text: the classes it transforms. -/
def shown (r : Registry) : String :=
  "TransformRegistry \x7b classes: [" ++
    ", ".intercalate (r.rules.map fun rule => Text.Quoted.text rule.1) ++ "] \x7d"

end Registry

end HotSwap
