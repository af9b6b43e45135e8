/-
# HotSwap.Proofs.Exchange.Delivery -- an exchange delivers in order

However controllers and agents take turns at an exchange (`run`), agents take up the lines in
the order in which they were dialled, and on every line frames come out in the order in which
they went in, each once and none from another line.  `Fair` says so of a log, `Allowed` says
what one deed may be behind a log, and `run_delivers` that both hold at every point of a run,
and that the log is that of the turns.

`Stands` is the invariant: every line that was dialled stands as its traffic says, and what was
dialled and not taken up waits at the exchange, first come first served.  A turn on a line
changes that line only (`Stands.here`), so the invariant of the line carries the turn; dialling
and connecting change the exchange only.
-/
import HotSwap.Proofs.Exchange.Traffic

namespace HotSwap

namespace Exchange

set_option autoImplicit false

/-! ## What a log says -/

/-- Lines are made once and taken up in order, and what comes out of a line went in before. -/
structure Fair (log : List Deed) : Prop where
  distinct : (dials log).Nodup
  inOrder : connects log <+: dials log
  requests : ∀ link, (traffic link log).read <+: (traffic link log).sent
  responses : ∀ link, (traffic link log).taken <+: (traffic link log).written

/-- What may be done behind a log, and what comes of it. -/
def Allowed (past : List Deed) : Deed → Prop
  | .dialled link => link ∉ dials past
  | .connected (.ok link) => connects past ++ [link] <+: dials past
  | .connected (.error error) => error = .closed ∧ connects past = dials past
  | deed => ∀ link, deed.link? = some link → link ∈ dials past ∧ (traffic link past).Admits deed

/-- A log is fair at every point, and every deed is allowed where it was done. -/
def Delivers (log : List Deed) : Prop :=
  ∀ past, past <+: log → Fair past ∧ ∀ deed, past ++ [deed] <+: log → Allowed past deed

/-- What was written for a controller that is there was taken, or waits for it. -/
def NothingLost (b : Board) : Prop :=
  ∀ link ∈ dials b.log, (traffic link b.log).left = false →
    (traffic link b.log).written = (traffic link b.log).taken ++ queued b.world link

/-- A deed on a line that was dialled is allowed if its traffic admits it. -/
theorem Allowed.on {past : List Deed} {deed : Deed} {link : LinkId}
    (here : deed.link? = some link) (dialled : link ∈ dials past)
    (admitted : (traffic link past).Admits deed) : Allowed past deed := by
  have only : ∀ other, deed.link? = some other →
      other ∈ dials past ∧ (traffic other past).Admits deed := by
    intro other same
    obtain rfl := Option.some.inj (here.symm.trans same)
    exact ⟨dialled, admitted⟩
  cases deed with
  | dialled _ => cases here
  | connected _ => cases here
  | _ => exact only

theorem Delivers.nil : Delivers [] := by
  intro past before
  obtain rfl := List.prefix_nil.1 before
  refine ⟨⟨List.nodup_nil, List.prefix_rfl, fun _ => List.prefix_rfl,
    fun _ => List.prefix_rfl⟩, ?_⟩
  intro deed more
  cases List.prefix_nil.1 more

theorem Delivers.concat {log : List Deed} {deed : Deed} (delivers : Delivers log)
    (allowed : Allowed log deed) (fair : Fair (log ++ [deed])) : Delivers (log ++ [deed]) := by
  intro past before
  rcases List.prefix_concat_iff.1 before with rfl | earlier
  · refine ⟨fair, ?_⟩
    intro next more
    have longer := more.length_le
    simp only [List.length_append, List.length_singleton] at longer
    omega
  · refine ⟨(delivers past earlier).1, ?_⟩
    intro next more
    rcases List.prefix_concat_iff.1 more with last | more
    · obtain ⟨rfl, same⟩ := List.append_inj' last rfl
      obtain rfl := List.singleton_inj.1 same
      exact allowed
    · exact (delivers past earlier).2 next more

/-! ## How an exchange stands -/

/-- A line carries frames and stands as its traffic says. -/
def InStep (b : Board) (link : LinkId) : Prop :=
  ∃ line, b.world.links[link]? = some (.frames line) ∧ (traffic link b.log).Matches line

/-- How an exchange stands after what was done there. -/
structure Stands (exchange : Nat) (b : Board) : Prop where
  queue : ∃ waiting, b.world.exchanges[exchange]? = some waiting ∧
    dials b.log = connects b.log ++ waiting
  distinct : (dials b.log).Nodup
  lines : ∀ link ∈ dials b.log, InStep b link
  known : ∀ deed ∈ b.log, ∀ link, deed.link? = some link → link ∈ dials b.log

namespace Stands

variable {exchange : Nat} {b : Board} {link : LinkId}

theorem unused (stands : Stands exchange b) (strange : link ∉ dials b.log) :
    traffic link b.log = {} :=
  traffic_unused fun deed member here => strange (stands.known deed member link here)

theorem connected (stands : Stands exchange b) (taken : link ∈ connects b.log) :
    link ∈ dials b.log := by
  obtain ⟨waiting, -, split⟩ := stands.queue
  rw [split]
  exact List.mem_append_left _ taken

/-- Where an exchange stands, its log is fair. -/
theorem fair (stands : Stands exchange b) : Fair b.log where
  distinct := stands.distinct
  inOrder := by
    obtain ⟨waiting, -, split⟩ := stands.queue
    exact ⟨waiting, split.symm⟩
  requests link := by
    by_cases dialled : link ∈ dials b.log
    · obtain ⟨line, -, inStep⟩ := stands.lines link dialled
      exact ⟨line.toAgent, inStep.requests.symm⟩
    · simp [stands.unused dialled]
  responses link := by
    by_cases dialled : link ∈ dials b.log
    · obtain ⟨line, -, inStep⟩ := stands.lines link dialled
      exact (List.prefix_append ..).trans inStep.responses
    · simp [stands.unused dialled]

/-- A deed on one line that changes this line as its traffic says leaves the exchange and all
other lines as they were. -/
theorem here (stands : Stands exchange b) {deed : Deed} (on : deed.link? = some link)
    (dialled : link ∈ dials b.log) {line : FrameLine}
    (inStep : ((traffic link b.log).note deed).Matches line) :
    Stands exchange
      ⟨{ b.world with links := b.world.links.setIfInBounds link (.frames line) },
        b.log ++ [deed]⟩ := by
  have sameDials : dials (b.log ++ [deed]) = dials b.log := by
    rw [dials_concat, (Deed.idle on).1, List.append_nil]
  have sameConnects : connects (b.log ++ [deed]) = connects b.log := by
    rw [connects_concat, (Deed.idle on).2, List.append_nil]
  obtain ⟨old, at_, -⟩ := stands.lines link dialled
  have inside : link < b.world.links.size := (Array.getElem?_eq_some_iff.1 at_).1
  refine ⟨?_, ?_, ?_, ?_⟩
  · rw [sameDials, sameConnects]
    exact stands.queue
  · rw [sameDials]
    exact stands.distinct
  · intro other member
    rw [sameDials] at member
    by_cases same : link = other
    · subst same
      exact ⟨line, by simp [inside], by rw [traffic_here on]; exact inStep⟩
    · obtain ⟨kept, at_, inStep⟩ := stands.lines other member
      refine ⟨kept, ?_, ?_⟩
      · show (b.world.links.setIfInBounds link _)[other]? = _
        rw [Array.getElem?_setIfInBounds_ne same, at_]
      · rw [traffic_elsewhere (by rw [on]; exact fun eq => same (Option.some.inj eq))]
        exact inStep
  · intro earlier member other on'
    rw [sameDials]
    rcases List.mem_append.1 member with member | member
    · exact stands.known earlier member other on'
    · obtain rfl := List.mem_singleton.1 member
      obtain rfl := Option.some.inj (on.symm.trans on')
      exact dialled

/-- Lines that a deed at the exchange does not touch stay in step. -/
theorem lines_aside (stands : Stands exchange b) {deed : Deed} (off : deed.link? = none)
    {w : World} (same : ∀ link ∈ dials b.log, w.links[link]? = b.world.links[link]?)
    (dialled : link ∈ dials b.log) : InStep ⟨w, b.log ++ [deed]⟩ link := by
  obtain ⟨line, there, inStep⟩ := stands.lines link dialled
  refine ⟨line, (same link dialled).trans there, ?_⟩
  rw [traffic_elsewhere (by rw [off]; exact nofun)]
  exact inStep

theorem known_aside (stands : Stands exchange b) {deed : Deed} (off : deed.link? = none) :
    ∀ earlier ∈ b.log ++ [deed], ∀ link, earlier.link? = some link →
      link ∈ dials (b.log ++ [deed]) := by
  intro earlier member link on
  rw [dials_concat]
  rcases List.mem_append.1 member with member | member
  · exact List.mem_append_left _ (stands.known earlier member link on)
  · obtain rfl := List.mem_singleton.1 member
    cases off.symm.trans on

end Stands

/-! ## One turn -/

/-- A turn keeps the exchange as it should stand, and what comes of it is allowed. -/
def Kept (exchange : Nat) (b : Board) (turn : Turn) : Prop :=
  Stands exchange ⟨(act exchange b.world turn).2, b.log ++ [(act exchange b.world turn).1]⟩ ∧
    Allowed b.log (act exchange b.world turn).1

section OneTurn

variable {exchange : Nat} {b : Board} {link : LinkId}

/-- A turn that changes one line as the traffic of this line admits. -/
theorem kept_of_line (stands : Stands exchange b) {turn : Turn} {deed : Deed} {line : FrameLine}
    (on : deed.link? = some link) (dialled : link ∈ dials b.log)
    (acted : act exchange b.world turn =
      (deed, { b.world with links := b.world.links.setIfInBounds link (.frames line) }))
    (inStep : ((traffic link b.log).note deed).Matches line)
    (admitted : (traffic link b.log).Admits deed) : Kept exchange b turn := by
  unfold Kept
  rw [acted]
  exact ⟨stands.here on dialled inStep, Allowed.on on dialled admitted⟩

theorem queued_set {w : World} {old : Link} (there : w.links[link]? = some old)
    (line : FrameLine) :
    queued { w with links := w.links.setIfInBounds link (.frames line) } link =
      line.toController := by
  have inside : link < w.links.size := (Array.getElem?_eq_some_iff.1 there).1
  simp [queued, Link.line?, inside]

theorem queued_frames {w : World} {line : FrameLine}
    (there : w.links[link]? = some (.frames line)) : queued w link = line.toController := by
  simp [queued, Link.line?, there]

theorem Stands.nothingLost (stands : Stands exchange b) : NothingLost b := by
  intro link dialled present
  obtain ⟨line, there, inStep⟩ := stands.lines link dialled
  rw [queued_frames there]
  exact (inStep.kept present).symm

/-- A controller that dials in makes a new line, behind all that wait. -/
theorem dial_kept (stands : Stands exchange b) : Kept exchange b .dial := by
  obtain ⟨waiting, at_, split⟩ := stands.queue
  have earlier : ∀ link ∈ dials b.log, link < b.world.links.size := by
    intro link member
    obtain ⟨line, there, -⟩ := stands.lines link member
    exact (Array.getElem?_eq_some_iff.1 there).1
  have fresh : b.world.links.size ∉ dials b.log :=
    fun member => Nat.lt_irrefl _ (earlier _ member)
  have acted : act exchange b.world .dial =
      (.dialled b.world.links.size,
        { b.world with
          links := b.world.links.push (.frames {})
          exchanges := b.world.exchanges.modify exchange (· ++ [b.world.links.size]) }) := rfl
  have more : dials (b.log ++ [.dialled b.world.links.size]) =
      dials b.log ++ [b.world.links.size] := dials_concat ..
  have kept : connects (b.log ++ [.dialled b.world.links.size]) = connects b.log := by
    rw [connects_concat]
    exact List.append_nil _
  have same : ∀ link ∈ dials b.log,
      (b.world.links.push (.frames {}))[link]? = b.world.links[link]? := by
    intro link member
    rw [Array.getElem?_push, if_neg (Nat.ne_of_lt (earlier link member))]
  rw [Kept, acted]
  refine ⟨⟨⟨waiting ++ [b.world.links.size], ?_, ?_⟩, ?_, ?_, stands.known_aside rfl⟩, fresh⟩
  · simp [Array.getElem?_modify, at_]
  · rw [more, kept, split, List.append_assoc]
  · rw [more, List.nodup_append]
    refine ⟨stands.distinct, by simp, ?_⟩
    intro link member other last same
    exact fresh ((same.trans (List.mem_singleton.1 last)) ▸ member)
  · intro link member
    rw [more] at member
    rcases List.mem_append.1 member with member | member
    · exact stands.lines_aside rfl same member
    · obtain rfl := List.mem_singleton.1 member
      refine ⟨{}, by simp, ?_⟩
      rw [traffic_elsewhere (by nofun), stands.unused fresh]
      exact Traffic.matches_new

/-- An agent takes up the line that waits longest, and is refused where none waits. -/
theorem connect_kept (stands : Stands exchange b) : Kept exchange b .connect := by
  obtain ⟨waiting, at_, split⟩ := stands.queue
  have same : ∀ opened, dials (b.log ++ [.connected opened]) = dials b.log := by
    intro opened
    rw [dials_concat]
    exact List.append_nil _
  have distinct : ∀ opened, (dials (b.log ++ [.connected opened])).Nodup :=
    fun opened => (same opened).symm ▸ stands.distinct
  cases waiting with
  | nil =>
      have acted : act exchange b.world .connect = (.connected (.error .closed), b.world) := by
        simp [act, Connector.connect, World.pickUp, at_]
      rw [Kept, acted]
      refine ⟨⟨⟨[], at_, ?_⟩, distinct _, ?_, stands.known_aside rfl⟩, rfl, ?_⟩
      · rw [same, connects_concat, split]
        simp [connects]
      · intro link member
        exact stands.lines_aside rfl (fun _ _ => rfl) (same _ ▸ member)
      · rw [split, List.append_nil]
  | cons link rest =>
      have acted : act exchange b.world .connect =
          (.connected (.ok link),
            { b.world with exchanges := b.world.exchanges.setIfInBounds exchange rest }) := by
        simp [act, Connector.connect, World.pickUp, at_]
      have inside : exchange < b.world.exchanges.size := (Array.getElem?_eq_some_iff.1 at_).1
      rw [Kept, acted]
      refine ⟨⟨⟨rest, by simp [inside], ?_⟩, distinct _, ?_, stands.known_aside rfl⟩, rest, ?_⟩
      · rw [same, connects_concat, split]
        exact List.append_cons ..
      · intro link member
        exact stands.lines_aside rfl (fun _ _ => rfl) (same _ ▸ member)
      · rw [split]
        exact (List.append_cons ..).symm

/-- Every turn that somebody can take keeps the exchange as it should stand. -/
theorem Stands.turn (stands : Stands exchange b) {turn : Turn} (able : b.Able turn) :
    Kept exchange b turn := by
  cases turn with
  | dial => exact dial_kept stands
  | connect => exact connect_kept stands
  | send link frame =>
      obtain ⟨dialled, held⟩ := able
      obtain ⟨line, there, inStep⟩ := stands.lines link dialled
      exact kept_of_line stands rfl dialled
        (by rw [act, World.sendToAgent, World.onLine, World.onLink_at there])
        (inStep.send link frame) held
  | read link =>
      obtain ⟨taken, held, ready⟩ := able
      have dialled := stands.connected taken
      obtain ⟨line, there, inStep⟩ := stands.lines link dialled
      replace ready : line.wouldBlock = false := by simpa [waits, there, Link.line?] using ready
      obtain ⟨next, admitted⟩ := inStep.read held link ready
      exact kept_of_line stands rfl dialled (by rw [act, World.onLink_at there]; rfl) next admitted
  | write link frame =>
      obtain ⟨taken, held⟩ := able
      have dialled := stands.connected taken
      obtain ⟨line, there, inStep⟩ := stands.lines link dialled
      obtain ⟨next, admitted⟩ := inStep.write held link frame
      exact kept_of_line stands rfl dialled (by rw [act, World.onLink_at there]; rfl) next admitted
  | receive link =>
      obtain ⟨dialled, held⟩ := able
      obtain ⟨line, there, inStep⟩ := stands.lines link dialled
      obtain ⟨taken, split, next, admitted⟩ := inStep.receive held link
      apply kept_of_line stands rfl dialled ?_ next admitted
      rw [act, World.receive, World.onLine, World.onLink_at there]
      simp only [queued_set there, queued_frames there, split, gone_append]
  | drain link =>
      obtain ⟨dialled, held⟩ := able
      obtain ⟨line, there, inStep⟩ := stands.lines link dialled
      obtain ⟨next, admitted⟩ := inStep.drain held link
      apply kept_of_line stands rfl dialled ?_ next admitted
      rw [act, World.drain, World.onLine, World.onLink_at there]
      simp [queued_set there, queued_frames there, FrameLine.drain, gone]
  | leave link =>
      obtain ⟨dialled, held⟩ := able
      obtain ⟨line, there, inStep⟩ := stands.lines link dialled
      exact kept_of_line stands rfl dialled
        (by rw [act, World.closeController, World.onLine, World.onLink_at there])
        (inStep.leave link) held
  | hangUp link =>
      obtain ⟨taken, held⟩ := able
      have dialled := stands.connected taken
      obtain ⟨line, there, inStep⟩ := stands.lines link dialled
      exact kept_of_line stands rfl dialled (by rw [act, World.onLink_at there]; rfl)
        (inStep.hangUp link) held

end OneTurn

/-! ## The run -/

/-- A new exchange stands as it should. -/
theorem stands_new (w : World) : Stands w.addExchange.1 ⟨w.addExchange.2, []⟩ where
  queue := ⟨[], by simp [World.addExchange], rfl⟩
  distinct := List.nodup_nil
  lines _ member := by cases member
  known _ member := by cases member

/-- However the rest of the turns is taken, the exchange goes on to stand and to deliver. -/
theorem play_delivers {exchange : Nat} (turns : List Turn) (b : Board)
    (stands : Stands exchange b) (delivers : Delivers b.log) :
    Stands exchange (turns.foldl (Board.play exchange) b) ∧
      Delivers (turns.foldl (Board.play exchange) b).log := by
  induction turns generalizing b with
  | nil => exact ⟨stands, delivers⟩
  | cons turn rest next =>
      rw [List.foldl_cons, Board.play]
      split
      · rename_i able
        obtain ⟨kept, allowed⟩ := stands.turn able
        exact next _ kept (delivers.concat allowed kept.fair)
      · exact next b stands delivers

/-- Whatever controllers and agents do at an exchange, agents take up the lines in the order in
which they were dialled and are refused exactly when none waits; on every line, frames arrive
in the order in which they were sent, each once; and a controller is told that an agent is
there, or gone, only when it took all that this agent wrote.  The log is that of the turns: one
that can be taken is logged as what it is, and one that cannot changes nothing. -/
theorem run_delivers (w : World) (turns : List Turn) :
    Delivers (run w turns).log ∧ NothingLost (run w turns) ∧
      ∀ turn, ((run w turns).Able turn → ∃ deed, turn.Makes deed ∧
          (run w (turns ++ [turn])).log = (run w turns).log ++ [deed]) ∧
        (¬ (run w turns).Able turn → run w (turns ++ [turn]) = run w turns) := by
  obtain ⟨stands, delivers⟩ := play_delivers turns _ (stands_new w) Delivers.nil
  refine ⟨delivers, stands.nothingLost, fun turn => ⟨fun able => ?_, fun unable => ?_⟩⟩
  · refine ⟨_, makes_act w.addExchange.1 (run w turns).world turn, ?_⟩
    rw [run_concat, Board.play, if_pos able]
  · rw [run_concat, Board.play, if_neg unable]

/-- An agent that took up the first of two lines reads what the controller sent before it left,
and then hears of that; the second line is the next that is taken up, and the last. -/
example (frame : ByteArray) :
    (run {} [.dial, .dial, .send 0 frame, .connect, .read 1, .leave 0, .read 0, .read 0,
      .connect, .connect]).log =
    [.dialled 0, .dialled 1, .sent 0 frame, .connected (.ok 0), .left 0, .read 0 (.ok frame),
      .read 0 (.error .closed), .connected (.ok 1), .connected (.error .closed)] := by
  cbv

end Exchange

end HotSwap
