/-
# HotSwap.Host.Capability -- what a host process may be asked to do

Four abilities, each granted or not.  `Capabilities.missingFrom` lists, in a
fixed order, what is wanted and not available; it is empty exactly when one set
covers the other (`missingFrom_eq_nil_iff`).
-/
namespace HotSwap

set_option autoImplicit false

/-- The abilities of a host process that an agent may want. -/
structure Capabilities where
  redefineClasses : Bool
  retransformClasses : Bool
  allClassHookEvents : Bool
  redefineAnyClass : Bool
  deriving DecidableEq, Repr

namespace Capabilities

def all : Capabilities := ⟨true, true, true, true⟩

def none : Capabilities := ⟨false, false, false, false⟩

/-- What a session needs: redefinition for the swap itself, retransformation and
load events for the one-time hook. -/
def required : Capabilities := all

def named (c : Capabilities) : List (String × Bool) :=
  [("redefine_classes", c.redefineClasses),
    ("retransform_classes", c.retransformClasses),
    ("all_class_hook_events", c.allClassHookEvents),
    ("redefine_any_class", c.redefineAnyClass)]

def missingFrom (wanted available : Capabilities) : List String :=
  ((wanted.named.zip available.named).filter fun p => p.1.2 && !p.2.2).map fun p => p.1.1

def union (a b : Capabilities) : Capabilities :=
  ⟨a.redefineClasses || b.redefineClasses, a.retransformClasses || b.retransformClasses,
    a.allClassHookEvents || b.allClassHookEvents, a.redefineAnyClass || b.redefineAnyClass⟩

/-- One set holds nothing that the other lacks. -/
def Covers (available wanted : Capabilities) : Prop := union available wanted = available

theorem missingFrom_eq_nil_iff (wanted available : Capabilities) :
    wanted.missingFrom available = [] ↔ available.Covers wanted := by
  rcases wanted with ⟨_ | _, _ | _, _ | _, _ | _⟩ <;>
    rcases available with ⟨_ | _, _ | _, _ | _, _ | _⟩ <;>
      simp [missingFrom, named, Covers, union]

end Capabilities

end HotSwap
