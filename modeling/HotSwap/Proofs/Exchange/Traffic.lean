/-
# HotSwap.Proofs.Exchange.Traffic -- controllers and agents take turns at an exchange

Controllers dial in at an exchange and agents take up the ends that were dialled.  Every line
so made has two ends, and whoever holds one uses it until it is dropped.  A `Turn` is what one
of them does next; the turns of all of them fall in any order, and a turn that nobody can take
-- the end was never handed out, or it is gone, or the agent would wait for a frame -- changes
nothing.

`run` keeps a log of what was done and what came of it.  `dials` and `connects` say which lines
were made and taken up, and `traffic` what went over one of them.

`Traffic.Matches` is what ties a line to its traffic, and one lemma for each use of an end says
that it goes on to hold and what the use brings (`Traffic.Admits`).  Nothing here knows of more
than one line.
-/
import HotSwap.World.Basic

namespace HotSwap

namespace Exchange

set_option autoImplicit false

/-! ## Turns and what comes of them -/

/-- What a controller or an agent does next.  Agents that share an exchange have copies of one
number, so it does not matter which of them connects. -/
inductive Turn where
  | dial
  | connect
  | send (link : LinkId) (frame : ByteArray)
  | read (link : LinkId)
  | write (link : LinkId) (frame : ByteArray)
  | receive (link : LinkId)
  | drain (link : LinkId)
  | leave (link : LinkId)
  | hangUp (link : LinkId)

/-- What was done, and what came of it.  A controller that looks for responses takes some
frames from its line, and finds something. -/
inductive Deed where
  | dialled (link : LinkId)
  | connected (opened : Except TransportError LinkId)
  | sent (link : LinkId) (frame : ByteArray)
  | read (link : LinkId) (result : Except TransportError ByteArray)
  | wrote (link : LinkId) (frame : ByteArray) (result : Except TransportError Unit)
  | received (link : LinkId) (taken : List ByteArray) (found : Received)
  | drained (link : LinkId) (taken : List ByteArray) (found : List Response)
  | left (link : LinkId)
  | hungUp (link : LinkId)

/-- Whether a deed is what was done in a turn, whatever came of it. -/
def Turn.Makes : Turn → Deed → Prop
  | .dial, .dialled _ => True
  | .connect, .connected _ => True
  | .send link frame, .sent other given => other = link ∧ given = frame
  | .read link, .read other _ => other = link
  | .write link frame, .wrote other given _ => other = link ∧ given = frame
  | .receive link, .received other _ _ => other = link
  | .drain link, .drained other _ _ => other = link
  | .leave link, .left other => other = link
  | .hangUp link, .hungUp other => other = link
  | _, _ => False

/-- The line on which something was done. -/
def Deed.link? : Deed → Option LinkId
  | dialled _ | connected _ => none
  | sent link _ | read link _ | wrote link _ _ | received link _ _ | drained link _ _ | left link
  | hungUp link => some link

/-- The lines that were made, in the order in which they were dialled. -/
def dials (log : List Deed) : List LinkId :=
  log.filterMap fun deed =>
    match deed with
    | .dialled link => some link
    | _ => none

/-- The lines that agents took up, in the order in which they did. -/
def connects (log : List Deed) : List LinkId :=
  log.filterMap fun deed =>
    match deed with
    | .connected (.ok link) => some link
    | _ => none

/-- What went over a line, and which of its ends were dropped. -/
structure Traffic where
  sent : List ByteArray := []
  read : List ByteArray := []
  written : List ByteArray := []
  taken : List ByteArray := []
  left : Bool := false
  hungUp : Bool := false

namespace Traffic

/-- The traffic with one more deed on the line. -/
def note (t : Traffic) : Deed → Traffic
  | .sent _ frame => { t with sent := t.sent ++ [frame] }
  | .read _ (.ok frame) => { t with read := t.read ++ [frame] }
  | .wrote _ frame (.ok _) => { t with written := t.written ++ [frame] }
  | .received _ taken _ | .drained _ taken _ => { t with taken := t.taken ++ taken }
  | .left _ => { t with left := true }
  | .hungUp _ => { t with hungUp := true }
  | _ => t

end Traffic

/-- What went over one line. -/
def traffic (link : LinkId) (log : List Deed) : Traffic :=
  (log.filter fun deed => deed.link? == some link).foldl Traffic.note {}

/-! ## The run -/

/-- Everything around the controllers and agents, and what they did so far. -/
structure Board where
  world : World
  log : List Deed := []

/-- The frames that wait for the controller of a line. -/
def queued (w : World) (link : LinkId) : List ByteArray :=
  ((w.links[link]?.bind Link.line?).map FrameLine.toController).getD []

/-- Whether the agent would wait for a frame. -/
def waits (w : World) (link : LinkId) : Bool :=
  (w.links[link]?.bind Link.line?).any FrameLine.wouldBlock

/-- What went from the front of a queue, of which the second list is left. -/
def gone (before after : List ByteArray) : List ByteArray :=
  before.take (before.length - after.length)

/-- Whether somebody can take a turn: an end is used by its holder, from when it is handed out
to when it is dropped, and the agent does not wait. -/
def Board.Able (b : Board) : Turn → Prop
  | .dial | .connect => True
  | .send link _ | .receive link | .drain link | .leave link =>
      link ∈ dials b.log ∧ (traffic link b.log).left = false
  | .read link =>
      link ∈ connects b.log ∧ (traffic link b.log).hungUp = false ∧ waits b.world link = false
  | .write link _ | .hangUp link => link ∈ connects b.log ∧ (traffic link b.log).hungUp = false

instance (b : Board) : (turn : Turn) → Decidable (b.Able turn)
  | .dial | .connect => inferInstanceAs (Decidable True)
  | .send _ _ | .receive _ | .drain _ | .leave _ => inferInstanceAs (Decidable (_ ∧ _))
  | .read _ => inferInstanceAs (Decidable (_ ∧ _ ∧ _))
  | .write _ _ | .hangUp _ => inferInstanceAs (Decidable (_ ∧ _))

/-- Takes a turn at an exchange. -/
def act (exchange : Nat) (w : World) : Turn → Deed × World
  | .dial => (.dialled (w.dial exchange).1, (w.dial exchange).2)
  | .connect =>
      let answer := (Connector.exchange exchange).connect w
      (.connected answer.1, answer.2)
  | .send link frame => (.sent link frame, w.sendToAgent link frame)
  | .read link =>
      let answer := w.onLink link (.error .closed) Link.read
      (.read link answer.1, answer.2)
  | .write link frame =>
      let answer := w.onLink link (.error .closed) (Link.write frame)
      (.wrote link frame answer.1, answer.2)
  | .receive link =>
      let answer := w.receive link
      (.received link (gone (queued w link) (queued answer.2 link)) answer.1, answer.2)
  | .drain link =>
      let answer := w.drain link
      (.drained link (gone (queued w link) (queued answer.2 link)) answer.1, answer.2)
  | .leave link => (.left link, w.closeController link)
  | .hangUp link => (.hungUp link, (w.onLink link () fun l => ((), l.close)).2)

/-- One turn; what nobody can do is not done. -/
def Board.play (exchange : Nat) (b : Board) (turn : Turn) : Board :=
  if b.Able turn then
    ⟨(act exchange b.world turn).2, b.log ++ [(act exchange b.world turn).1]⟩
  else b

/-- All that is done at a new exchange of a world. -/
def run (w : World) (turns : List Turn) : Board :=
  turns.foldl (Board.play w.addExchange.1) ⟨w.addExchange.2, []⟩

theorem makes_act (exchange : Nat) (w : World) (turn : Turn) :
    turn.Makes (act exchange w turn).1 := by
  cases turn <;> simp [act, Turn.Makes]

theorem run_concat (w : World) (turns : List Turn) (turn : Turn) :
    run w (turns ++ [turn]) = (run w turns).play w.addExchange.1 turn := by
  simp [run]

/-! ## Reading the log -/

section Log

variable {log : List Deed} {deed : Deed} {link : LinkId}

theorem dials_concat (log : List Deed) (deed : Deed) :
    dials (log ++ [deed]) = dials log ++ dials [deed] := List.filterMap_append

theorem connects_concat (log : List Deed) (deed : Deed) :
    connects (log ++ [deed]) = connects log ++ connects [deed] := List.filterMap_append

/-- What is done on a line makes none and takes none up. -/
theorem Deed.idle {deed : Deed} {link : LinkId} (here : deed.link? = some link) :
    dials [deed] = [] ∧ connects [deed] = [] := by
  cases deed with
  | dialled link => cases here
  | connected opened => cases here
  | _ => exact ⟨rfl, rfl⟩

theorem traffic_here (here : deed.link? = some link) :
    traffic link (log ++ [deed]) = (traffic link log).note deed := by
  simp [traffic, List.filter_append, here]

theorem traffic_elsewhere (elsewhere : deed.link? ≠ some link) :
    traffic link (log ++ [deed]) = traffic link log := by
  simp [traffic, List.filter_append, elsewhere]

/-- Nothing went over a line on which nothing was done. -/
theorem traffic_unused (unused : ∀ deed ∈ log, deed.link? ≠ some link) : traffic link log = {} := by
  have none : (log.filter fun deed => deed.link? == some link) = [] := by
    apply List.filter_eq_nil_iff.2
    intro deed member
    simpa using unused deed member
  rw [traffic, none]
  rfl

end Log

theorem gone_append (taken rest : List ByteArray) : gone (taken ++ rest) rest = taken := by
  simp [gone]

/-! ## One line -/

namespace Traffic

/-- How a line stands after its traffic: what was sent was read or waits for the agent, and what
was written was taken or waits for the controller; nothing waits for a controller that left. -/
structure Matches (t : Traffic) (line : FrameLine) : Prop where
  roomy : line.room = none
  requests : t.sent = t.read ++ line.toAgent
  responses : t.taken ++ line.toController <+: t.written
  kept : t.left = false → t.taken ++ line.toController = t.written
  listens : line.controllerOpen = !t.left
  answers : line.agentOpen = !t.hungUp

/-- What may be done on a line behind its traffic, and what comes of it. -/
def Admits (t : Traffic) : Deed → Prop
  | .dialled _ | .connected _ => True
  | .sent _ _ | .left _ => t.left = false
  | .hungUp _ => t.hungUp = false
  | .read _ (.ok frame) => t.hungUp = false ∧ t.read ++ [frame] <+: t.sent
  | .read _ (.error error) =>
      t.hungUp = false ∧ error = .closed ∧ t.read = t.sent ∧ t.left = true
  | .wrote _ _ (.ok _) => t.hungUp = false ∧ t.left = false
  | .wrote _ _ (.error error) => t.hungUp = false ∧ error = .closed ∧ t.left = true
  | .received _ taken found =>
      t.left = false ∧ t.taken ++ taken <+: t.written ∧
        match found with
        | .response response =>
            ∃ frame, taken = [frame] ∧ Response.decode frame = .ok response
        | .garbage frame => taken = [frame] ∧ ∃ error, Response.decode frame = .error error
        | .closed => taken = [] ∧ t.taken = t.written ∧ t.hungUp = true
        | .timedOut => taken = [] ∧ t.taken = t.written ∧ t.hungUp = false
  | .drained _ taken found =>
      t.left = false ∧ t.taken ++ taken = t.written ∧
        found = taken.filterMap fun frame => (Response.decode frame).toOption

variable {t : Traffic} {line : FrameLine}

theorem matches_new : Matches {} {} :=
  ⟨rfl, rfl, List.prefix_rfl, fun _ => rfl, rfl, rfl⟩

namespace Matches

theorem send (stands : t.Matches line) (link : LinkId) (frame : ByteArray) :
    (t.note (.sent link frame)).Matches (line.sendToAgent frame) where
  roomy := stands.roomy
  requests := by
    show t.sent ++ [frame] = t.read ++ (line.toAgent ++ [frame])
    rw [stands.requests, List.append_assoc]
  responses := stands.responses
  kept := stands.kept
  listens := stands.listens
  answers := stands.answers

theorem leave (stands : t.Matches line) (link : LinkId) :
    (t.note (.left link)).Matches line.closeController where
  roomy := stands.roomy
  requests := stands.requests
  responses := by
    show t.taken ++ [] <+: t.written
    rw [List.append_nil]
    exact (List.prefix_append ..).trans stands.responses
  kept present := by cases present
  listens := rfl
  answers := stands.answers

theorem hangUp (stands : t.Matches line) (link : LinkId) :
    (t.note (.hungUp link)).Matches line.closeAgent where
  roomy := stands.roomy
  requests := stands.requests
  responses := stands.responses
  kept := stands.kept
  listens := stands.listens
  answers := rfl

/-- An agent that does not wait reads the next frame, or is told that the controller left. -/
theorem read (stands : t.Matches line) (held : t.hungUp = false) (link : LinkId)
    (ready : line.wouldBlock = false) :
    (t.note (.read link line.read.1)).Matches line.read.2 ∧ t.Admits (.read link line.read.1) := by
  unfold FrameLine.read
  split
  · rename_i frame rest waiting
    refine ⟨⟨stands.roomy, ?_, stands.responses, stands.kept, stands.listens, stands.answers⟩,
      held, ?_⟩
    · show t.sent = t.read ++ [frame] ++ rest
      rw [stands.requests, waiting, List.append_assoc, List.singleton_append]
    · rw [stands.requests, waiting]
      exact ⟨rest, by simp⟩
  · rename_i waiting
    have shut : line.controllerOpen = false := by simpa [FrameLine.wouldBlock, waiting] using ready
    refine ⟨stands, held, rfl, ?_, ?_⟩
    · rw [stands.requests, waiting, List.append_nil]
    · simpa [shut] using stands.listens

/-- What an agent writes waits for the controller, unless it left. -/
theorem write (stands : t.Matches line) (held : t.hungUp = false) (link : LinkId)
    (frame : ByteArray) :
    (t.note (.wrote link frame (line.write frame).1)).Matches (line.write frame).2 ∧
      t.Admits (.wrote link frame (line.write frame).1) := by
  have listens := stands.listens
  cases left : t.left with
  | true =>
      have shut : line.write frame = (.error .closed, line) := by
        simp [FrameLine.write, listens, left]
      rw [shut]
      exact ⟨stands, held, rfl, left⟩
  | false =>
      have grown : line.write frame =
          (.ok (), { line with toController := line.toController ++ [frame] }) := by
        simp [FrameLine.write, listens, left, stands.roomy]
      have kept : t.taken ++ (line.toController ++ [frame]) = t.written ++ [frame] := by
        rw [← List.append_assoc, stands.kept left]
      rw [grown]
      exact ⟨⟨stands.roomy, stands.requests, kept ▸ List.prefix_rfl, fun _ => kept,
        stands.listens, stands.answers⟩, held, left⟩

/-- A controller takes one frame, or it took all and is told whether the agent is there. -/
theorem receive (stands : t.Matches line) (held : t.left = false) (link : LinkId) :
    ∃ taken, line.toController = taken ++ line.receive.2.toController ∧
      (t.note (.received link taken line.receive.1)).Matches line.receive.2 ∧
      t.Admits (.received link taken line.receive.1) := by
  have all := stands.kept held
  unfold FrameLine.receive
  split
  · rename_i frame rest waiting
    rw [waiting] at all
    have kept : t.taken ++ [frame] ++ rest = t.written := by simpa using all
    have stays : (t.note (.received link [frame] .closed)).Matches
        { line with toController := rest } :=
      ⟨stands.roomy, stands.requests, kept ▸ List.prefix_rfl, fun _ => kept, stands.listens,
        stands.answers⟩
    have first : t.taken ++ [frame] <+: t.written := ⟨rest, kept⟩
    refine ⟨[frame], ?_⟩
    dsimp only
    split
    · rename_i response decoded
      exact ⟨waiting, stays, held, first, frame, rfl, decoded⟩
    · rename_i error decoded
      exact ⟨waiting, stays, held, first, rfl, error, decoded⟩
  · rename_i waiting
    rw [waiting, List.append_nil] at all
    have none : t.taken ++ [] = t.written := by rw [List.append_nil, all]
    have stays : (t.note (.received link [] .closed)).Matches line := by
      simpa [Traffic.note] using stands
    refine ⟨[], rfl, ?_⟩
    cases hungUp : t.hungUp with
    | true =>
        have shut : line.agentOpen = false := by simp [stands.answers, hungUp]
        simp only [shut, Bool.false_eq_true, if_false]
        exact ⟨stays, held, none ▸ List.prefix_rfl, rfl, all, hungUp⟩
    | false =>
        have there : line.agentOpen = true := by simp [stands.answers, hungUp]
        simp only [there, if_true]
        exact ⟨stays, held, none ▸ List.prefix_rfl, rfl, all, hungUp⟩

/-- A controller that drains its line has taken all that was written. -/
theorem drain (stands : t.Matches line) (held : t.left = false) (link : LinkId) :
    (t.note (.drained link line.toController line.drain.1)).Matches line.drain.2 ∧
      t.Admits (.drained link line.toController line.drain.1) := by
  have all := stands.kept held
  have none : t.taken ++ line.toController ++ [] = t.written := by rw [List.append_nil, all]
  exact ⟨⟨stands.roomy, stands.requests, none ▸ List.prefix_rfl, fun _ => none, stands.listens,
    stands.answers⟩, held, all, rfl⟩

end Matches

end Traffic

end Exchange

end HotSwap
