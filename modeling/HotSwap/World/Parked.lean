/-
# HotSwap.World.Parked -- the table of parked swaps

Tokens count up from one and are never used again: they are whole numbers without
bound, where a count of 64 bits would come round to its beginning.  `take` hands a
swap out once; `takeSuperseded` hands out every swap of a process but the current one.
It begins with the oldest, but no order is promised.
-/
import HotSwap.Procedure

namespace HotSwap

set_option autoImplicit false

/-- The swaps that wait, under their tokens, the oldest first. -/
structure Parked where
  next : Int := 1
  swaps : List (Int × PendingSwap) := []
  deriving DecidableEq

namespace Parked

/-- Parks a swap under the next token.  That the token is drawn and that the swap is in
the table is one step. -/
def park (t : Parked) (swap : PendingSwap) : Int × Parked :=
  (t.next, ⟨t.next + 1, t.swaps ++ [(t.next, swap)]⟩)

def take (t : Parked) (token : Int) : Option PendingSwap × Parked :=
  (t.swaps.lookup token, { t with swaps := t.swaps.filter fun s => s.1 != token })

/-- Whether a swap is one of a process's older ones. -/
def isStale (pid : UInt32) (current : Int) (s : Int × PendingSwap) : Bool :=
  s.1 != current && s.2.pid == pid

/-- Takes the older swaps of a process out, in the order in which they were parked. -/
def takeSuperseded (t : Parked) (pid : UInt32) (current : Int) : List PendingSwap × Parked :=
  ((t.swaps.filter (isStale pid current)).map (·.2),
    { t with swaps := t.swaps.filter fun s => !isStale pid current s })

end Parked

end HotSwap
