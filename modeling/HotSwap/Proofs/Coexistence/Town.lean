/-
# HotSwap.Proofs.Coexistence.Town -- processes that live in one world

A `Town` has any number of simulated processes in one world.  To each belong its controllers,
each with a connection, and the sessions and restarts that were begun in it and may still be
going on (`Party`).  The parties move one at a time: a controller does something, an agent
attaches, the activity restarts, or one task asks its next question.  So the steps of sessions
and restarts fall in any order, of different processes and of the same one.

`Party.move_same` says what one move does: a party that moves in a larger world goes on mirroring
the same party alone, and touches nothing but what is its own.  The two are compared up to
`Names` by `SameParty`.
-/
import HotSwap.Proofs.Coexistence.Mirror

namespace HotSwap

set_option autoImplicit false

open Procedure Session

/-! ## Parties -/

/-- What a controller does on its connection. -/
inductive Gesture where
  | sends (frame : ByteArray)
  | looks
  | drains
  | hangsUp

/-- What a controller takes from its connection. -/
inductive Heard where
  | one (received : Received)
  | all (responses : List Response)
  deriving DecidableEq

/-- A controller's move on a connection, and what it takes. -/
def Gesture.on (w : World) (id : LinkId) : Gesture → Option Heard × World
  | sends frame => (none, w.sendToAgent id frame)
  | looks => (some (.one (w.receive id).1), (w.receive id).2)
  | drains => (some (.all (w.drain id).1), (w.drain id).2)
  | hangsUp => (none, w.closeController id)

/-- What comes of a session or a restart. -/
inductive Upshot where
  | report (report : SessionReport)
  | restarted (applied : Option Bool)

/-- A session or a restart that was begun, and what is left of it to do. -/
structure Task where
  door : Connector
  rest : Procedure Upshot

/-- A process, the connections of its controllers, what was begun in it, and what its
controllers took, each by the place of its connection. -/
structure Party where
  host : SimulatedHost
  lines : List LinkId := []
  tasks : List Task := []
  heard : List (Nat × Option Heard) := []

/-- Where an agent connects to: a connection that is refused, one of the party's own, or one
that is taken up where the party's controllers dial in. -/
inductive Door where
  | refusing (error : TransportError)
  | ready (line : Nat)
  | exchange (id : Nat)

/-- A connection that the party does not have counts as one that is closed. -/
def Door.connector (lines : List LinkId) : Door → Connector
  | refusing error => .refusing error
  | ready line =>
      match lines[line]? with
      | some id => .ready id
      | none => .refusing .closed
  | exchange id => .exchange id

/-- What a party may do next. -/
inductive Move where
  | opens (link : Link)
  | dials (exchange : Nat)
  | controls (line : Nat) (gesture : Gesture)
  | attaches (agent : Agent) (door : Door)
  | restarts
  | proceeds (task : Nat)

/-- The token that the hooked handler of a process gives back when its activity restarts. -/
def SimulatedHost.held (h : SimulatedHost) : Option Int := if h.hooked then h.pendingToken else none

/-- What the handler does then, and the process that it begins with. -/
def SimulatedHost.restart (h : SimulatedHost) : Procedure (Option Bool) × SimulatedHost :=
  match h.held with
  | none => (done none, h)
  | some token =>
      (match h.natives.lookup (handlerClass, tryRedefineClasses) with
        | none => done none
        | some native =>
            (callNative native [.long token]).bind fun value => done value.bool?,
        { h with pendingToken := none })

/-- A restart that nothing comes between is played to its end. -/
theorem Scene.signalRestart_eq (s : Scene SimulatedHost) :
    s.signalRestart =
      ({ s with host := s.host.restart.2 } : Scene SimulatedHost).perform (.refusing .closed)
        s.host.restart.1 := by
  unfold Scene.signalRestart SimulatedHost.restart SimulatedHost.held
  generalize (if s.host.hooked then s.host.pendingToken else none) = held
  cases held with
  | none => rfl
  | some token =>
      simp only [Scene.invokeNative]
      cases s.host.natives.lookup (handlerClass, tryRedefineClasses) with
      | none => rfl
      | some native =>
          simp only [Scene.perform, run_bind]
          rfl

/-- A task asks its next question, if it has one. -/
def Task.proceed (s : Scene SimulatedHost) : Task → Task × Scene SimulatedHost
  | ⟨door, .ask q next⟩ => (⟨door, next (Scene.answer door q s).1⟩, (Scene.answer door q s).2)
  | task => (task, s)

namespace Party

/-- A party moves.  What is not there does not move. -/
def move (p : Party) (w : World) : Move → Party × World
  | .opens link => ({ p with lines := p.lines ++ [(w.addLink link).1] }, (w.addLink link).2)
  | .dials exchange => ({ p with lines := p.lines ++ [(w.dial exchange).1] }, (w.dial exchange).2)
  | .controls line gesture =>
      match p.lines[line]? with
      | none => (p, w)
      | some id =>
          ({ p with heard := p.heard ++ [(line, (gesture.on w id).1)] }, (gesture.on w id).2)
  | .attaches agent door =>
      let task := ⟨door.connector p.lines, agent.attach.bind fun report => done (.report report)⟩
      ({ p with tasks := p.tasks ++ [task] }, w)
  | .restarts =>
      let task := ⟨.refusing .closed, p.host.restart.1.bind fun applied => done (.restarted applied)⟩
      ({ p with host := p.host.restart.2, tasks := p.tasks ++ [task] }, w)
  | .proceeds i =>
      match p.tasks[i]? with
      | none => (p, w)
      | some task =>
          let (task, s) := task.proceed ⟨p.host, w⟩
          ({ p with host := s.host, tasks := p.tasks.set i task }, s.world)

/-- What has come of what was begun, as far as it has ended. -/
def upshots (p : Party) : List (Option Upshot) :=
  p.tasks.map fun task =>
    match task.rest with
    | .done upshot => some upshot
    | .ask .. => none

/-- The reports of the sessions that have ended. -/
def reports (p : Party) : List SessionReport :=
  p.upshots.filterMap fun
    | some (.report report) => some report
    | _ => none

end Party

/-! ## The same party in two worlds -/

variable {x : Tenant} {ν ν' : Names}

/-- The same came of it, up to the token of a swap that was parked. -/
def SameUpshot (ν : Names) : Upshot → Upshot → Prop
  | .report report, .report report' => SameReport ν report report'
  | .restarted applied, .restarted applied' => applied' = applied
  | _, _ => False

theorem SameUpshot.mono (ν ν' : Names) (upshot upshot' : Upshot) (within : ν.Within ν')
    (same : SameUpshot ν upshot upshot') : SameUpshot ν' upshot upshot' := by
  cases upshot with
  | restarted applied => cases upshot' <;> exact same
  | report report =>
      cases upshot' with
      | restarted applied => exact same
      | report report' =>
          obtain ⟨phase, history, outcome⟩ := same
          refine ⟨phase, history, ?_⟩
          generalize report.outcome = r at outcome
          generalize report'.outcome = r' at outcome
          rcases r with e | c <;> rcases r' with e' | c' <;>
            first | exact outcome | exact SameCompletion.mono within outcome

/-- The same is left to do. -/
structure SameTask (x : Tenant) (ν : Names) (task task' : Task) : Prop where
  door : SameDoor x ν task.door task'.door
  rest : Twin x SameUpshot ν task.rest task'.rest

theorem SameTask.mono (within : ν.Within ν') {task task' : Task} (same : SameTask x ν task task') :
    SameTask x ν' task task' :=
  ⟨same.door.mono within, same.rest.mono SameUpshot.mono within⟩

/-- A party that moves in a larger world mirrors the party alone. -/
structure SameParty (x : Tenant) (ν : Names) (p p' : Party) (w w' : World) : Prop where
  scene : SameScene x ν ⟨p.host, w⟩ ⟨p'.host, w'⟩
  lines : List.Forall₂ (fun id id' => (id, id') ∈ ν.links) p.lines p'.lines
  tasks : List.Forall₂ (SameTask x ν) p.tasks p'.tasks
  heard : p'.heard = p.heard

/-- A move that touches nothing but what is the process's own: a place where its controllers
dial in, and the directories of its payloads. -/
def Move.Keeps (x : Tenant) : Move → Prop
  | .dials exchange => x.exchanges exchange
  | .attaches agent door =>
      Session.KeepsTo x agent ∧ ∀ id, door = .exchange id → x.exchanges id
  | _ => True

section Moves

variable {p p' : Party} {u w : World}

/-- What stands at one place of both lists, or at neither. -/
theorem forall₂_getElem? {α β : Type} {R : α → β → Prop} {l : List α} {l' : List β}
    (same : List.Forall₂ R l l') (i : Nat) : Option.Rel R l[i]? l'[i]? := by
  induction same generalizing i with
  | nil => exact .none
  | cons first later ih =>
      cases i with
      | zero => exact .some first
      | succ i => exact ih i

/-- Whatever stands at one place of both lists is replaced. -/
theorem forall₂_set {α β : Type} {R : α → β → Prop} {l : List α} {l' : List β}
    (same : List.Forall₂ R l l') (i : Nat) {a : α} {b : β} (new : R a b) :
    List.Forall₂ R (l.set i a) (l'.set i b) := by
  induction same generalizing i with
  | nil => exact .nil
  | cons first later ih =>
      cases i with
      | zero => exact .cons new later
      | succ i => exact .cons first (ih i)

/-- A controller does the same in both worlds. -/
theorem SameWorld.gesture (same : SameWorld x ν u w) {i j : LinkId} (known : (i, j) ∈ ν.links)
    (gesture : Gesture) :
    (gesture.on w j).1 = (gesture.on u i).1 ∧
      Follows x ν ν w (gesture.on u i).2 (gesture.on w j).2 := by
  cases gesture with
  | sends frame =>
      have follows := (same.onLine known () fun line => ((), line.sendToAgent frame)).2
      exact ⟨rfl, follows⟩
  | hangsUp =>
      have follows := (same.onLine known () fun line => ((), line.closeController)).2
      exact ⟨rfl, follows⟩
  | looks =>
      obtain ⟨found, follows⟩ := same.onLine known .closed FrameLine.receive
      exact ⟨congrArg (some <| Heard.one ·) found, follows⟩
  | drains =>
      obtain ⟨found, follows⟩ := same.onLine known [] FrameLine.drain
      exact ⟨congrArg (some <| Heard.all ·) found, follows⟩

/-- Own connections mean the same. -/
theorem sameDoor_connector {lines lines' : List LinkId}
    (same : List.Forall₂ (fun id id' => (id, id') ∈ ν.links) lines lines') {door : Door}
    (own : ∀ id, door = .exchange id → x.exchanges id) :
    SameDoor x ν (door.connector lines) (door.connector lines') := by
  cases door with
  | refusing error => exact .refusing error
  | exchange id => exact .exchange (own id rfl)
  | ready line =>
      have found := forall₂_getElem? same line
      simp only [Door.connector]
      generalize lines[line]? = alone at found
      generalize lines'[line]? = both at found
      cases found with
      | none => exact .refusing .closed
      | some known => exact .ready known

/-- A restart hands the same swap to the agent's call back, if the handler holds a token. -/
theorem SameHost.restart {h h' : SimulatedHost} (same : SameHost x ν h h') :
    Twin x (fun _ a b => b = a) ν h.restart.1 h'.restart.1 ∧
      SameHost x ν h.restart.2 h'.restart.2 := by
  have hooked : h'.hooked = h.hooked := by rw [same.state]; rfl
  have natives : h'.natives = h.natives := by rw [same.state]; rfl
  have held : Option.Rel (fun token token' => (token, token') ∈ ν.tokens) h.held h'.held := by
    unfold SimulatedHost.held
    rw [hooked]
    cases h.hooked with
    | false => exact .none
    | true => exact same.token
  have callable {token : Int} (held : h.held = some token) : h.Callable := by
    refine same.callable (same.bound ?_)
    unfold SimulatedHost.held at held
    split at held
    · rw [held]
      rfl
    · cases held
  unfold SimulatedHost.restart
  rw [natives]
  cases alone : h.held with
  | none =>
      cases both : h'.held with
      | none => exact ⟨rfl, same⟩
      | some token' => simp [alone, both] at held
  | some token =>
      cases both : h'.held with
      | none => simp [alone, both] at held
      | some token' =>
          have known : (token, token') ∈ ν.tokens := by simpa [alone, both] using held
          have bound : h.natives.lookup _ = _ := callable alone
          simp only [bound]
          constructor
          · refine (redefineParked_twin known).bind ?_
            rintro _ _ value _ rfl
            rfl
          · exact ⟨same.pid, by rw [same.state]; rfl, .none, same.hook, same.callable, nofun⟩

/-- A task that asks its next question in both worlds is answered alike. -/
theorem SameTask.proceed {task task' : Task} {s s' : Scene SimulatedHost}
    (same : SameTask x ν task task') (scene : SameScene x ν s s')
    (direct : ∀ dir, x.dirs dir → FileTree.Direct dir) :
    ∃ ν', SameTask x ν' (task.proceed s).1 (task'.proceed s').1 ∧
      Step x ν ν' s'.world (task.proceed s).2 (task'.proceed s').2 := by
  obtain ⟨door, rest⟩ := task
  obtain ⟨door', rest'⟩ := task'
  obtain ⟨doors, twin⟩ := same
  cases rest with
  | done upshot =>
      cases rest' with
      | done upshot' => exact ⟨ν, ⟨doors, twin⟩, scene.host, scene.world.still⟩
      | ask q' next' => exact twin.elim
  | ask q next =>
      cases rest' with
      | done upshot' => exact twin.elim
      | ask q' next' =>
          obtain ⟨S, alike, later⟩ := twin
          obtain ⟨ν', answered, step⟩ := scene.answer direct doors alike
          have within := step.world.within
          exact ⟨ν', ⟨doors.mono within, later ν' within _ _ answered⟩, step⟩

/-- A connection that is new stands at the end of both lists. -/
theorem SameParty.joins (same : SameParty x ν p p' u w) {u' w' : World}
    (follows : Follows x ν (ν.withLink u.links.size w.links.size) w u' w') :
    SameParty x (ν.withLink u.links.size w.links.size)
      { p with lines := p.lines ++ [u.links.size] } { p' with lines := p'.lines ++ [w.links.size] }
      u' w' := by
  have within := follows.within
  refine ⟨⟨same.scene.host.mono within same.scene.host.callable, follows.same⟩, ?_,
    same.tasks.imp fun _ _ => SameTask.mono within, same.heard⟩
  refine List.rel_append (same.lines.imp fun _ _ known => within.links known) (.cons ?_ .nil)
  exact List.mem_append_right _ (List.mem_singleton_self _)

/-- A task that begins stands at the end of both lists. -/
theorem SameParty.begins (same : SameParty x ν p p' u w) {h h' : SimulatedHost}
    (host : SameHost x ν h h') {task task' : Task} (begun : SameTask x ν task task') :
    SameParty x ν { p with host := h, tasks := p.tasks ++ [task] }
      { p' with host := h', tasks := p'.tasks ++ [task'] } u w :=
  ⟨⟨host, same.scene.world⟩, same.lines, List.rel_append same.tasks (.cons begun .nil), same.heard⟩

/-- What a move comes to in the larger world, beside what it comes to alone. -/
def MovesAlike (x : Tenant) (ν : Names) (p p' : Party) (u w : World) (move : Move) : Prop :=
  ∃ ν', SameParty x ν' (p.move u move).1 (p'.move w move).1 (p.move u move).2 (p'.move w move).2 ∧
    Follows x ν ν' w (p.move u move).2 (p'.move w move).2

theorem SameParty.controls (same : SameParty x ν p p' u w) (line : Nat) (gesture : Gesture) :
    MovesAlike x ν p p' u w (.controls line gesture) := by
  have world : SameWorld x ν u w := same.scene.world
  have found := forall₂_getElem? same.lines line
  simp only [MovesAlike, Party.move]
  generalize p.lines[line]? = alone at found
  generalize p'.lines[line]? = both at found
  cases found with
  | none => exact ⟨ν, same, world.still⟩
  | some known =>
      obtain ⟨taken, follows⟩ := world.gesture known gesture
      exact ⟨ν, ⟨⟨same.scene.host, follows.same⟩, same.lines, same.tasks,
        by simp only [same.heard, taken]⟩, follows⟩

theorem SameParty.attaches (same : SameParty x ν p p' u w) {agent : Agent} {door : Door}
    (keeps : Session.KeepsTo x agent) (own : ∀ id, door = .exchange id → x.exchanges id) :
    MovesAlike x ν p p' u w (.attaches agent door) := by
  have begun : SameTask x ν
      ⟨door.connector p.lines, agent.attach.bind fun report => done (.report report)⟩
      ⟨door.connector p'.lines, agent.attach.bind fun report => done (.report report)⟩ :=
    ⟨sameDoor_connector same.lines own,
      (Agent.attach_twin keeps).bind fun _ _ _ _ same => same⟩
  exact ⟨ν, same.begins same.scene.host begun, same.scene.world.still⟩

theorem SameParty.restarts (same : SameParty x ν p p' u w) :
    MovesAlike x ν p p' u w .restarts := by
  obtain ⟨twin, host⟩ := same.scene.host.restart
  have begun : SameTask x ν
      ⟨.refusing .closed, p.host.restart.1.bind fun applied => done (.restarted applied)⟩
      ⟨.refusing .closed, p'.host.restart.1.bind fun applied => done (.restarted applied)⟩ :=
    ⟨.refusing .closed, twin.bind fun _ _ _ _ same => same⟩
  exact ⟨ν, same.begins host begun, same.scene.world.still⟩

theorem SameParty.proceeds (same : SameParty x ν p p' u w)
    (direct : ∀ dir, x.dirs dir → FileTree.Direct dir) (i : Nat) :
    MovesAlike x ν p p' u w (.proceeds i) := by
  have world : SameWorld x ν u w := same.scene.world
  have found := forall₂_getElem? same.tasks i
  simp only [MovesAlike, Party.move]
  generalize p.tasks[i]? = alone at found
  generalize p'.tasks[i]? = both at found
  cases found with
  | none => exact ⟨ν, same, world.still⟩
  | some task =>
      obtain ⟨ν', task, host, follows⟩ := task.proceed same.scene direct
      have within := follows.within
      refine ⟨ν', ⟨⟨host, follows.same⟩, same.lines.imp fun _ _ known => within.links known, ?_,
        same.heard⟩, follows⟩
      exact forall₂_set (same.tasks.imp fun _ _ => SameTask.mono within) i task

/-- A party that moves in a larger world goes on mirroring the party alone, and touches nothing
but what is its own. -/
theorem Party.move_same (same : SameParty x ν p p' u w)
    (direct : ∀ dir, x.dirs dir → FileTree.Direct dir) {move : Move} (keeps : move.Keeps x) :
    MovesAlike x ν p p' u w move := by
  have world : SameWorld x ν u w := same.scene.world
  cases move with
  | opens link =>
      have follows := world.addLink link
      exact ⟨_, same.joins follows, follows⟩
  | dials exchange =>
      have follows := world.dial keeps
      exact ⟨_, same.joins follows, follows⟩
  | controls line gesture => exact same.controls line gesture
  | attaches agent door => exact same.attaches keeps.1 keeps.2
  | restarts => exact same.restarts
  | proceeds i => exact same.proceeds direct i

end Moves

end HotSwap
