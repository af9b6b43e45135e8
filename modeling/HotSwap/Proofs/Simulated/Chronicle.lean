/-
# HotSwap.Proofs.Simulated.Chronicle -- the whole life of a process

A `Chronicle` is what a simulated process lived through since it was started: sessions of
whatever agents, each on a connection that none had before, and restarts of its activity.
Between them the world may change in any way that leaves the swaps alone which the process
has in the table.  It is a list of `Moment`s: what was asked, what came back, and the
classes just before and just behind it.

Three accounts are kept of a chronicle, and `Chronicle.accounts` shows that each stays in order:
no class changes but by what a moment does to it (`Told`), every request that was read is
decided once or still due (`Desk`), and a class was loaded again once if the marker says
so (`Hooked`).
-/
import HotSwap.Proofs.Session.Desk
import HotSwap.Proofs.Simulated.Code
import HotSwap.Proofs.Simulated.Rewriting
import HotSwap.Proofs.Simulated.TokenAgreement

namespace HotSwap

set_option autoImplicit false

open Procedure Session

/-! ## Moments -/

/-- What was asked and answered, and the classes of the process before and behind it. -/
structure Moment where
  event : Event
  before : Code
  after : Code

/-- What happened at some moments. -/
def eventsOf (past : List Moment) : List Event := past.map (·.event)

section Events

variable {past before after : List Moment} {m : Moment}

theorem eventsOf_append : eventsOf (before ++ after) = eventsOf before ++ eventsOf after :=
  List.map_append

theorem eventsOf_split (split : past = before ++ m :: after) :
    eventsOf past = eventsOf before ++ m.event :: eventsOf after := by
  rw [split]
  exact eventsOf_append

end Events

/-- The moments of a procedure that is played in a scene. -/
def Scene.moments {α : Type} (door : Connector) : Procedure α → Scene SimulatedHost → List Moment
  | done _, _ => []
  | ask q next, s =>
      ⟨⟨q, (Scene.answer door q s).1⟩, s.host.code, (Scene.answer door q s).2.host.code⟩ ::
        moments door (next (Scene.answer door q s).1) (Scene.answer door q s).2

/-- The moments of a restart. -/
def Scene.restartMoments (s : Scene SimulatedHost) : List Moment :=
  match if s.host.hooked then s.host.pendingToken else none with
  | none => []
  | some token =>
      let s := { s with host := { s.host with pendingToken := none } }
      match s.host.natives.lookup (handlerClass, tryRedefineClasses) with
      | none => []
      | some native => Scene.moments (.refusing .closed) (callNative native [.long token]) s

/-- The classes change by what the moments do to them one after another, and by nothing else. -/
inductive Told : Code → List Moment → Code → Prop where
  | nil (c : Code) : Told c [] c
  | cons {m : Moment} {rest : List Moment} {now : Code} (does : Effect m.event m.before m.after)
      (later : Told m.after rest now) : Told m.before (m :: rest) now

section Telling

variable {first middle now : Code} {past later : List Moment}

/-- Where nothing happened nothing changed. -/
theorem Told.eq_of_nil (told : Told first [] now) : now = first := by
  cases told
  rfl

theorem Told.append (told : Told first past middle) (more : Told middle later now) :
    Told first (past ++ later) now := by
  induction told with
  | nil c => exact more
  | cons does _ ih => exact .cons does (ih more)

/-- What a moment adds to the number of redefinitions. -/
theorem Effect.redefinitions {event : Event} {c c' : Code} (does : Effect event c c') :
    c'.redefinitions = c.redefinitions + if applies event then 1 else 0 := by
  obtain ⟨q, answer⟩ := event
  cases q with
  | host call =>
      cases call with
      | redefineClasses changes =>
          rcases answer with cause | _ <;> exact congrArg Code.redefinitions does
      | retransformClass name =>
          rcases answer with cause | _
          · exact congrArg Code.redefinitions does
          · obtain ⟨data, rfl⟩ := does
            rfl
      | appendToBootstrapSearch path =>
          rcases answer with cause | _
          · exact congrArg Code.redefinitions does
          · have provided : c' = (c.provided markerClass).provided handlerClass := does
            rw [provided]
            rfl
      | _ => exact congrArg Code.redefinitions does
  | _ => exact congrArg Code.redefinitions does

theorem Told.redefinitions (told : Told first past now) :
    now.redefinitions = first.redefinitions + (eventsOf past).countP applies := by
  induction told with
  | nil c => rfl
  | @cons m rest now does later ih =>
      show _ = m.before.redefinitions + (m.event :: eventsOf rest).countP applies
      rw [ih, does.redefinitions, List.countP_cons, Nat.add_right_comm, Nat.add_assoc]

/-- What lies before a moment led to it, it does what it does, and the rest goes on from there. -/
theorem Told.split (told : Told first past now) {before after : List Moment} {m : Moment}
    (split : past = before ++ m :: after) :
    Told first before m.before ∧ Effect m.event m.before m.after ∧ Told m.after after now := by
  induction told generalizing before with
  | nil c => simp at split
  | @cons m' rest now does later ih =>
      cases before with
      | nil =>
          obtain ⟨rfl, rfl⟩ := List.cons.inj split
          exact ⟨.nil _, does, later⟩
      | cons first before =>
          obtain ⟨rfl, same⟩ := List.cons.inj split
          obtain ⟨led, does', goes⟩ := ih same
          exact ⟨.cons does led, does', goes⟩

variable {α : Type} (door : Connector) (p : Procedure α) (s : Scene SimulatedHost)

theorem eventsOf_moments : eventsOf (Scene.moments door p s) = p.events (Scene.answer door) s := by
  induction p generalizing s with
  | done a => rfl
  | ask q next ih => exact congrArg (_ :: ·) (ih _ _)

theorem told_moments :
    Told s.host.code (Scene.moments door p s) (s.perform door p).2.host.code := by
  induction p generalizing s with
  | done a => exact .nil _
  | ask q next ih => exact .cons (m := ⟨⟨q, _⟩, _, _⟩) (answer_effect door q s) (ih _ _)

/-- A process tells its own number. -/
theorem pid_of_mem_events {number : UInt32}
    (asked : ⟨.host .processId, number⟩ ∈ p.events (Scene.answer door) s) :
    number = s.host.pid := by
  induction p generalizing s with
  | done a => cases asked
  | ask q next ih =>
      rcases List.mem_cons.1 asked with here | later
      · cases here
        rfl
      · exact (ih _ _ later).trans (answer_pid door s)

end Telling

/-! ## Lives -/

/-- What a process lived through since it was started. -/
inductive Chronicle (first : SimulatedHost) : List Moment → Scene SimulatedHost → Prop where
  | start (world : World) (started : first.Started) (sound : world.parked.Sound)
      (none : world.parked.waiting first.pid = []) : Chronicle first [] ⟨first, world⟩
  | attach {past : List Moment} {s : Scene SimulatedHost} (lived : Chronicle first past s)
      (agent : Agent) (door : Connector)
      (new : ∀ link, ⟨.connect, .ok link⟩ ∈ eventsOf (Scene.moments door agent.attach s) →
        ⟨.connect, .ok link⟩ ∉ eventsOf past) :
      Chronicle first (past ++ Scene.moments door agent.attach s) (s.perform door agent.attach).2
  | restart {past : List Moment} {s : Scene SimulatedHost} (lived : Chronicle first past s) :
      Chronicle first (past ++ s.restartMoments) s.signalRestart.2
  | around {past : List Moment} {s : Scene SimulatedHost} (lived : Chronicle first past s)
      (world : World) (sound : world.parked.Sound)
      (own : world.parked.swaps.filter (·.2.pid == s.host.pid) =
        s.world.parked.swaps.filter (·.2.pid == s.host.pid)) :
      Chronicle first past { s with world }

/-- The accounts that are kept of a life. -/
structure Accounts (first : SimulatedHost) (past : List Moment) (s : Scene SimulatedHost) :
    Prop where
  pid : s.host.pid = first.pid
  told : Told first.code past s.host.code
  agrees : s.own.Agrees
  desk : Desk first.pid [] s.world.parked (eventsOf past)
  hooked : Hooked (s.host.facts, eventsOf past)

section Lives

variable {first : SimulatedHost} {past : List Moment} {s : Scene SimulatedHost}

theorem possible_of_mem {α : Type} {p : Procedure α} {door : Connector} {log : List Event}
    (new : ∀ link, ⟨.connect, .ok link⟩ ∈ p.events (Scene.answer door) s →
      ⟨.connect, .ok link⟩ ∉ log) :
    ∀ event ∈ p.events (Scene.answer door) s, Possible s.host.pid log event := by
  intro event member
  unfold Possible
  split
  · exact pid_of_mem_events door p s member
  · exact new _ member
  · trivial

/-- Where a procedure keeps each of the accounts, they are in order behind it. -/
theorem Accounts.perform {α : Type} {p : Procedure α} {door : Connector} {start : List Event}
    (pid : s.host.pid = first.pid) (told : Told first.code past s.host.code)
    (agrees : (s.perform door p).2.own.Agrees ∧
      Apart s.host.pid s.world.parked (s.perform door p).2)
    (desk : p.Obeys (attending first.pid start) (Holds first.pid [])
      (s.world.parked, eventsOf past))
    (hooked : p.Obeys recording (fun _ s => Hooked s) (s.host.facts, eventsOf past))
    (new : ∀ link, ⟨.connect, .ok link⟩ ∈ p.events (Scene.answer door) s →
      ⟨.connect, .ok link⟩ ∉ start) :
    Accounts first (past ++ Scene.moments door p s) (s.perform door p).2 := by
  have events : eventsOf (past ++ Scene.moments door p s) =
      eventsOf past ++ p.events (Scene.answer door) s := by
    rw [← eventsOf_moments]
    exact eventsOf_append
  have course := course_events (Scene.answer door) p s
  have possible : ∀ event ∈ p.events (Scene.answer door) s, Possible first.pid start event :=
    pid ▸ possible_of_mem new
  have serves := (events_plays (answer_serving door) p s).guarded possible
  have sees (q : Question) (t : Scene SimulatedHost) :
      seeing.answers t.host.facts q (Scene.answer door q t).1
        (Scene.answer door q t).2.host.facts :=
    ⟨door, t, rfl, rfl, rfl⟩
  exact
    { pid := agrees.2.1.trans pid
      told := told.append (told_moments door p s)
      agrees := agrees.1
      desk := by rw [events]; exact desk.ends course (serves.recalling _)
      hooked := by rw [events]; exact hooked.ends course ((events_plays sees p s).recalling _) }

theorem Accounts.start (world : World) (started : first.Started) (sound : world.parked.Sound)
    (none : world.parked.waiting first.pid = []) : Accounts first [] ⟨first, world⟩ where
  pid := rfl
  told := .nil _
  agrees := by
    have given := started.blank.pendingToken
    have empty : share first.pid world.parked = [] := by
      simpa [share, Parked.waiting] using none
    exact ⟨by simp [Scene.own, given, empty], by simp [Scene.own, given]⟩
  desk := ⟨sound, .nil, by simp [none], by simp [none]⟩
  hooked := by
    have unhooked : first.facts.instrumented = false := started.blank.instrumented
    simp [Hooked, eventsOf, unhooked]

theorem Accounts.attach (accounts : Accounts first past s) (agent : Agent) {door : Connector}
    (new : ∀ link, ⟨.connect, .ok link⟩ ∈ eventsOf (Scene.moments door agent.attach s) →
      ⟨.connect, .ok link⟩ ∉ eventsOf past) :
    Accounts first (past ++ Scene.moments door agent.attach s) (s.perform door agent.attach).2 :=
  .perform accounts.pid accounts.told
    (perform_handling door accounts.desk.sound (attach_agrees agent accounts.agrees))
    (attach_desk agent accounts.desk) (attach_hooked agent accounts.hooked)
    (eventsOf_moments door agent.attach s ▸ new)

/-- What a restart does: nothing where no token is held, and else the call back with it. -/
theorem restart_cases (agrees : s.own.Agrees) :
    s.restartMoments = [] ∧ s.signalRestart.2 = s ∨
      ∃ token, s.host.pendingToken = some token ∧
        let given : Scene SimulatedHost := { s with host := { s.host with pendingToken := none } }
        s.restartMoments =
            Scene.moments (.refusing .closed) (callNative .tryRedefineClasses [.long token]) given ∧
          s.signalRestart.2 =
            (given.perform (.refusing .closed)
              (callNative .tryRedefineClasses [.long token])).2 := by
  cases held : s.host.pendingToken with
  | none => exact .inl (by simp [Scene.restartMoments, Scene.signalRestart, held])
  | some token =>
      obtain ⟨hooked, callable⟩ := agrees.hooked (by simp [Scene.own, held])
      have hooked : s.host.hooked = true := hooked
      have callable : s.host.natives.lookup (handlerClass, tryRedefineClasses) =
        some .tryRedefineClasses := callable
      refine .inr ⟨token, rfl, ?_⟩
      simp [Scene.restartMoments, Scene.signalRestart, Scene.invokeNative, held, hooked, callable]

/-- The token that the handler holds is one of the process's own. -/
theorem Accounts.own (accounts : Accounts first past s) {token : Int}
    (held : s.host.pendingToken = some token) {swap : PendingSwap}
    (found : (s.world.parked.take token).1 = some swap) : swap.pid = first.pid := by
  have tokens : share s.host.pid s.world.parked = [token] := by
    simpa [Scene.own, held] using accounts.agrees.tokens
  have mine : token ∈ share s.host.pid s.world.parked := by simp [tokens]
  obtain ⟨own, parked, pid⟩ := Parked.mem_share.1 mine
  have member : (token, swap) ∈ s.world.parked.swaps := by
    obtain ⟨before, after, split, -⟩ := List.lookup_eq_some_iff.1 found
    simp [split]
  rw [accounts.desk.sound.ordered.swap_eq member parked, pid, accounts.pid]

theorem Accounts.restart (accounts : Accounts first past s) :
    Accounts first (past ++ s.restartMoments) s.signalRestart.2 := by
  have restarted := signalRestart_agrees accounts.desk.sound accounts.agrees
  rcases restart_cases accounts.agrees with ⟨none, same⟩ | ⟨token, held, moments, leaves⟩
  · rw [none, same, List.append_nil]
    exact accounts
  rw [leaves] at restarted ⊢
  rw [moments]
  refine .perform accounts.pid accounts.told ⟨restarted.1.2.2, restarted.2⟩ ?_
    (callNative_hooked _ _ accounts.hooked) (fun _ _ => List.not_mem_nil)
  exact callBack_desk accounts.desk fun swap found => accounts.own held found

/-- What happens around the process is none of its business. -/
theorem Accounts.around (accounts : Accounts first past s) {world : World}
    (sound : world.parked.Sound)
    (own : world.parked.swaps.filter (·.2.pid == s.host.pid) =
      s.world.parked.swaps.filter (·.2.pid == s.host.pid)) :
    Accounts first past { s with world } := by
  have tokens : share s.host.pid world.parked = share s.host.pid s.world.parked :=
    congrArg (List.map Prod.fst) own
  have swaps : world.parked.waiting first.pid = s.world.parked.waiting first.pid := by
    rw [← accounts.pid]
    exact congrArg (List.map Prod.snd) own
  have seen : ({ s with world } : Scene SimulatedHost).own = s.own := by
    rw [Scene.own, tokens, Scene.own]
  exact
    { accounts with
      agrees := seen ▸ accounts.agrees
      desk := accounts.desk.move sound (by rw [swaps]) }

theorem Chronicle.started (lived : Chronicle first past s) : first.Started := by
  induction lived with
  | start world started => exact started
  | attach _ _ _ _ started => exact started
  | restart _ started => exact started
  | around _ _ _ _ started => exact started

/-- The accounts of every life are in order. -/
theorem Chronicle.accounts (lived : Chronicle first past s) : Accounts first past s := by
  induction lived with
  | start world started sound none => exact .start world started sound none
  | attach lived agent door new accounts => exact accounts.attach agent new
  | restart lived accounts => exact accounts.restart
  | around lived world sound own accounts => exact accounts.around sound own

end Lives

end HotSwap
