/-
# HotSwap.Proofs.Simulated.Outcomes -- what a controller is told is what was done

A controller sees frames, and a process has classes.  `Truthful` says of the whole life of
a simulated process that the two agree.  A request is told "OK" directly behind the one
redefinition that was made for it, and its classes have the bytes that it brought; as long
as it was told nothing else than that a restart is needed, and for good where it is told
an error, nothing was changed for it.  So the redefinitions of a process are as many as the
requests that were told "OK", and its classes change by these and by the one time that the
hooked class is loaded again.

A redefinition does not say for whom it is made.  It is counted for the request that is told
something next (`MadeFor`), and every redefinition is counted so for one request.
-/
import HotSwap.Proofs.Simulated.Chronicle

namespace HotSwap

set_option autoImplicit false

open Procedure Session

namespace Chronicle

/-- A redefinition was made for the request of a connection: what came next was told there. -/
def MadeFor (link : LinkId) (past : List Moment) (r : Moment) : Prop :=
  ∃ earlier d later changes answer frame arrived,
    past = earlier ++ r :: d :: later ∧ r.event = ⟨.host (.redefineClasses changes), answer⟩ ∧
      d.event = ⟨.send link frame, arrived⟩

/-- No class was changed for the request of a connection, and no redefinition counted. -/
def Spared (link : LinkId) (past : List Moment) : Prop :=
  ∀ r, MadeFor link past r → r.after = r.before

/-- What a frame says that is written at a moment for a request, and what was done for it. -/
inductive Outcome (pid : UInt32) (link : LinkId) (request : Request) (before : List Moment)
    (m : Moment) : ByteArray → Prop where
  | ok {earlier : List Moment} {r : Moment} (behind : before = earlier ++ [r])
      (redefined : r.event = ⟨.host (.redefineClasses request.changes), .ok ()⟩)
      (bytes : m.before = r.before.redefined request.changes) (spared : Spared link before) :
      Outcome pid link request before m (Response.ok pid).encode
  | error {detail : ErrorDetail} (spared : Spared link (before ++ [m])) :
      Outcome pid link request before m (Response.error pid detail).encode
  | needRestart (spared : Spared link (before ++ [m])) :
      Outcome pid link request before m (Response.needRestart pid).encode

/-- The frames that a process wrote, and its classes, over its whole life. -/
structure Truthful (first : SimulatedHost) (past : List Moment) (now : SimulatedHost) : Prop where
  /-- A connection brings one request. -/
  asked : ∀ link request other, Asked link request (eventsOf past) →
    Asked link other (eventsOf past) → request = other
  /-- Every frame is for a request that has no outcome yet, and says what was done for it. -/
  outcome : ∀ before m after link frame arrived, past = before ++ m :: after →
    m.event = ⟨.send link frame, arrived⟩ →
      ∃ request, Asked link request (eventsOf before) ∧
        Undecided first.pid link (eventsOf before) ∧
          Outcome first.pid link request before m frame
  /-- Nothing is changed for a request as long as it has no outcome. -/
  waiting : ∀ before after link, past = before ++ after →
    Undecided first.pid link (eventsOf before) → Spared link before
  /-- Nor is anything changed for it when it was told an error. -/
  refused : ∀ before m after link detail arrived, past = before ++ m :: after →
    m.event = ⟨.send link (Response.error first.pid detail).encode, arrived⟩ → Spared link past
  /-- Every redefinition is made for a request with these changes, and it is told how it went. -/
  redefinition : ∀ before r after changes answer, past = before ++ r :: after →
    r.event = ⟨.host (.redefineClasses changes), answer⟩ →
      ∃ link request d later arrived, after = d :: later ∧
        d.event = ⟨.send link (verdict first.pid answer).encode, arrived⟩ ∧
          Asked link request (eventsOf before) ∧ request.changes = changes
  /-- Redefinitions are counted exactly for the requests that are told so. -/
  counted : now.redefinitions = (eventsOf past).countP (tells (.ok first.pid))
  /-- No class changes but by what the moments do: it was redefined or loaded again, or it came
  with the payload and had no bytes before. -/
  told : Told first.code past now.code
  changed : ∀ m ∈ past, ∀ name, m.after.bytes name ≠ m.before.bytes name →
    Cause name m.before m.after m.event
  /-- A class is loaded again once at most, in all. -/
  rewritten : (eventsOf past).countP reloads = if now.instrumented then 1 else 0

section Reading

variable {first : SimulatedHost} {past before after : List Moment} {m : Moment} {link : LinkId}
  {s : Scene SimulatedHost}

/-- A request that was not told "OK" was spared. -/
theorem spared_of_untold (accounts : Accounts first past s) (split : past = before ++ after)
    (untold : ∀ frame arrived, ⟨.send link frame, arrived⟩ ∈ eventsOf before →
      frame ≠ (Response.ok first.pid).encode) : Spared link before := by
  rintro r ⟨earlier, d, later, changes, answer, frame, arrived, rfl, redefined, sent⟩
  have place : past = earlier ++ r :: (d :: (later ++ after)) := by simp [split]
  have does := (accounts.told.split place).2.1
  have events := eventsOf_split place
  rw [redefined] at events
  obtain ⟨addressee, request, arrived', rest, -, -, next⟩ := accounts.desk.docket.redefined events
  have same : d.event = ⟨.send addressee (verdict first.pid answer).encode, arrived'⟩ :=
    (List.cons.inj next).1
  obtain ⟨rfl, rfl⟩ := send_inj (sent.symm.trans same)
  rcases answer with cause | _
  · rw [redefined] at does
    exact does
  · refine absurd rfl (untold (Response.ok first.pid).encode arrived ?_)
    rw [eventsOf_append]
    refine List.mem_append_right _ ?_
    exact List.mem_cons_of_mem _ (List.mem_cons.2 (.inl sent.symm))

theorem spared_of_undecided (accounts : Accounts first past s) (split : past = before ++ after)
    (undecided : Undecided first.pid link (eventsOf before)) : Spared link before := by
  refine spared_of_untold accounts split fun frame arrived written => ?_
  rw [undecided frame arrived written]
  exact encode_ne_ok nofun

/-- What is told is true of what was done. -/
theorem outcome_of_sent (accounts : Accounts first past s) (split : past = before ++ m :: after)
    {frame : ByteArray} {arrived : Except TransportError Unit}
    (sent : m.event = ⟨.send link frame, arrived⟩) :
    ∃ request, Asked link request (eventsOf before) ∧
      Undecided first.pid link (eventsOf before) ∧
        Outcome first.pid link request before m frame := by
  have events := eventsOf_split split
  rw [sent] at events
  obtain ⟨request, due, grounds⟩ := accounts.desk.docket.sent events
  refine ⟨request, due.asked, due.undecided, ?_⟩
  have grown : past = (before ++ [m]) ++ after := by simp [split]
  -- What is told now is the only thing that may be an "OK".
  have spares (other : frame ≠ (Response.ok first.pid).encode) : Spared link (before ++ [m]) := by
    refine spared_of_untold accounts grown fun frame' arrived' written => ?_
    rw [eventsOf_append] at written
    rcases List.mem_append.1 written with earlier | last
    · rw [due.undecided frame' arrived' earlier]
      exact encode_ne_ok nofun
    · rw [(send_inj ((List.mem_singleton.1 last).trans sent)).2]
      exact other
  cases grounds with
  | postponed => exact .needRestart (spares (encode_ne_ok nofun))
  | abandoned kind => exact .error (spares (encode_ne_ok nofun))
  | @tried earlier answer behind =>
      obtain ⟨first', last, rfl, same, one⟩ := List.map_eq_append_iff.1 behind
      obtain ⟨r, rfl, redefined⟩ := List.map_eq_singleton_iff.1 one
      rcases answer with cause | _
      · exact .error (spares (encode_ne_ok nofun))
      · obtain ⟨led, -, -⟩ := accounts.told.split split
        obtain ⟨-, does, goes⟩ := led.split rfl
        rw [redefined] at does
        exact .ok rfl redefined (goes.eq_of_nil.trans does)
          (spared_of_undecided accounts split due.undecided)

/-- A request that was told an error is told nothing else later. -/
theorem spared_of_error (accounts : Accounts first past s) (split : past = before ++ m :: after)
    {detail : ErrorDetail} {arrived : Except TransportError Unit}
    (sent : m.event = ⟨.send link (Response.error first.pid detail).encode, arrived⟩) :
    Spared link past := by
  refine spared_of_untold accounts (List.append_nil past).symm fun frame arrived' written => ?_
  rw [eventsOf_split split] at written
  rcases List.mem_append.1 written with earlier | written
  · obtain ⟨request, -, undecided, -⟩ := outcome_of_sent accounts split sent
    rw [undecided frame arrived' earlier]
    exact encode_ne_ok nofun
  rcases List.mem_cons.1 written with here | later
  · rw [(send_inj (here.trans sent)).2]
    exact encode_ne_ok nofun
  · -- A later frame would find the error among those written before it.
    obtain ⟨m', member, event⟩ := List.mem_map.1 later
    obtain ⟨between, rest, rfl⟩ := List.append_of_mem member
    have again : past = (before ++ m :: between) ++ m' :: rest := by simp [split]
    obtain ⟨request, -, undecided, -⟩ := outcome_of_sent accounts again event
    have told : ⟨.send link (Response.error first.pid detail).encode, arrived⟩ ∈
        eventsOf (before ++ m :: between) := by
      rw [eventsOf_split rfl, sent]
      exact List.mem_append_right _ (List.mem_cons_self ..)
    exact absurd (undecided _ _ told) (Response.encode_ne nofun)

/-- A redefinition is made for one request. -/
theorem redefinition_of_made (accounts : Accounts first past s) {r : Moment}
    (split : past = before ++ r :: after) {changes : ChangeSet} {answer : Except Host.Error Unit}
    (redefined : r.event = ⟨.host (.redefineClasses changes), answer⟩) :
    ∃ link request d later arrived, after = d :: later ∧
      d.event = ⟨.send link (verdict first.pid answer).encode, arrived⟩ ∧
        Asked link request (eventsOf before) ∧ request.changes = changes := by
  have events := eventsOf_split split
  rw [redefined] at events
  obtain ⟨link, request, arrived, rest, same, due, next⟩ := accounts.desk.docket.redefined events
  obtain ⟨d, later, rfl, told, -⟩ := List.map_eq_cons_iff.1 next
  exact ⟨link, request, d, later, arrived, rfl, told, due.asked, same⟩

end Reading

/-- Whatever a process lived through, what controllers were told is what was done to it. -/
theorem truthful_of_chronicle {first : SimulatedHost} {past : List Moment}
    {s : Scene SimulatedHost} (lived : Chronicle first past s) : Truthful first past s.host where
  asked link request other asked also := lived.accounts.desk.docket.asked_unique asked also
  outcome before m after link frame arrived split sent := outcome_of_sent lived.accounts split sent
  waiting before after link split undecided :=
    spared_of_undecided lived.accounts split undecided
  refused before m after link detail arrived split sent := spared_of_error lived.accounts split sent
  redefinition before r after changes answer split redefined :=
    redefinition_of_made lived.accounts split redefined
  counted := by
    have none : first.code.redefinitions = 0 := lived.started.blank.redefinitions
    have counted := lived.accounts.told.redefinitions
    rw [none, Nat.zero_add, lived.accounts.desk.docket.count] at counted
    exact counted
  told := lived.accounts.told
  changed m member name changed := by
    obtain ⟨before, after, split⟩ := List.append_of_mem member
    exact (lived.accounts.told.split split).2.1.cause changed
  rewritten := lived.accounts.hooked

/-! ## A swap that waited -/

/-- A process, and a controller that wants a swap to wait for the activity to restart. -/
def asking : Scene SimulatedHost where
  host := Simulation.Fixture.host 7
  world := { links := #[.frames { toAgent := [(Simulation.Fixture.request true).encode] }] }

/-- An agent that hooks the process. -/
def hooking : Agent :=
  { Simulation.Fixture.agent with plan := { transform := .append "hooked".toUTF8 } }

/-- The process behind the session. -/
def served : Scene SimulatedHost := (asking.perform (.ready 0) hooking.attach).2

/-- The session, and the restart behind it. -/
def sampleLife : List Moment :=
  Scene.moments (.ready 0) hooking.attach asking ++ served.restartMoments

theorem sampleLife_truthful :
    served.signalRestart.2.host.redefinitions = 1 ∧
      served.signalRestart.2.host.classBytes Simulation.Fixture.className =
        some "MainActivity v1".toUTF8 ∧
      Truthful asking.host sampleLife served.signalRestart.2.host := by
  have started : Chronicle asking.host [] asking :=
    .start asking.world ((SimulatedHost.Started.fresh 7).withClass _ _) Parked.sound_empty rfl
  have attached := started.attach hooking (.ready 0) fun _ _ => List.not_mem_nil
  have applied : served.signalRestart.2.host.redefinitions = 1 ∧
      served.signalRestart.2.host.classBytes Simulation.Fixture.className =
        some "MainActivity v1".toUTF8 := by
    decide +kernel
  exact ⟨applied.1, applied.2, truthful_of_chronicle attached.restart⟩

end Chronicle

end HotSwap
