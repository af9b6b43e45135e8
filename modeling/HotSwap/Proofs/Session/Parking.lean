/-
# HotSwap.Proofs.Session.Parking -- what a session leaves in the table of parked swaps

A session that fails leaves the table with the swaps that it found, and disturbs none of them:
nothing is written on their connections, and none is hung up.  That holds at whatever point it
fails, also where its own swap was parked already and the handler would not take the token; the
swap is taken out again, and by its token nothing else is.  A session that swaps at once leaves
the table as it was, too.  One whose swap waits has replaced the older swaps of its process,
which it answered, and parked its own behind all others (`Parked.LeftBy`, `attach_leaves`).
-/
import HotSwap.Proofs.Session.Frames

namespace HotSwap

set_option autoImplicit false

namespace Session

open Procedure

/-- What the peer at the other end of a connection is told: a frame, or that it is hung up. -/
def Disturbs (link : LinkId) : Question → Prop
  | .send other _ | .hangUp other => other = link
  | _ => False

/-- Only some connections were disturbed. -/
def Only (own : LinkId → Prop) (log : List Event) : Prop :=
  ∀ event ∈ log, ∀ link, Disturbs link event.question → own link

namespace Only

variable {own wider : LinkId → Prop} {log later : List Event}

theorem mono (only : Only own log) (within : ∀ link, own link → wider link) : Only wider log :=
  fun event member link disturbed => within link (only event member link disturbed)

theorem append (only : Only own log) (also : Only own later) : Only own (log ++ later) := by
  intro event member
  rcases List.mem_append.1 member with early | late
  · exact only event early
  · exact also event late

theorem snoc {q : Question} (only : Only own log) (answer : q.Answer)
    (allowed : ∀ link, Disturbs link q → own link) : Only own (log ++ [⟨q, answer⟩]) := by
  refine only.append fun event member => ?_
  rw [List.mem_singleton.1 member]
  exact allowed

end Only

end Session

namespace Session

open Procedure

variable {held t : Parked} {link : LinkId} {past log : List Event} {progress : Progress}

/-- A session that is alone with the table, and may ask anything. -/
def served (held : Parked) : Rules (Parked × List Event) :=
  held.serving.recalling fun _ _ => True

/-- A session that has opened its connection, and neither touched the table nor disturbed any
other connection, may have read one frame. -/
structure Reading (held : Parked) (link : LinkId) (read : Option ByteArray)
    (s : Parked × List Event) : Prop where
  table : s.1 = held
  connected : connections s.2 = [link]
  only : Only (· = link) s.2
  arrived : ∀ frame ∈ read, ⟨.receive link, .ok frame⟩ ∈ s.2

theorem Preparatory.undisturbed {q : Question} (preparatory : Preparatory q) (other : LinkId) :
    ¬ Disturbs other q := by
  cases q <;> first | exact id | exact preparatory.elim

theorem Reading.kept {read : Option ByteArray} {q : Question} {s s' : Parked × List Event}
    {answer : q.Answer} (reading : Reading held link read s) (preparatory : Preparatory q)
    (comes : (served held).answers s q answer s') : Reading held link read s' := by
  obtain ⟨serves, grows⟩ := comes
  have same : s'.1 = s.1 := by
    cases q <;> first | exact serves | exact preparatory.elim
  exact
    { table := same.trans reading.table
      connected := by
        rw [grows, connections_append, reading.connected, (preparatory.unread answer).1,
          List.append_nil]
      only := by
        rw [grows]
        exact reading.only.snoc answer fun other disturbed =>
          absurd disturbed (preparatory.undisturbed other)
      arrived := fun frame member => by
        rw [grows]
        exact List.mem_append_left _ (reading.arrived frame member) }

end Session

end HotSwap
