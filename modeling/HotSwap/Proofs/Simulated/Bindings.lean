/-
# HotSwap.Proofs.Simulated.Bindings -- stale natives are always replaced

The table of natives of a process outlives the agents that wrote it: a session finds there
whatever was put under any class and method before it, by earlier sessions or by others.
Binding natives is the one thing that touches the table (`SimulatedHost.answer_natives`), and
where it is granted every function that is bound stands in place of what was there, and nothing
else has changed (`Updates`).

`rebinds_of_history` says so of every moment of every session, after whatever natives were put
in the table, sessions attached and restarts signalled before it: up to the granted call the
table is as the session found it, and from then on the agent's two natives stand in it.  So a
restart right behind a session whose swap waits runs the agent's own call back, on the token
under which the session parked its swap (`CallsBack`).
-/
import HotSwap.Proofs.Session.Parting
import HotSwap.Proofs.Simulated.Answers
import HotSwap.Proofs.Simulated.TokenAgreement

namespace HotSwap

set_option autoImplicit false

open Procedure Session

namespace SimulatedHost

/-- No call but the binding of natives touches their table. -/
theorem answer_natives {call : HostCall} (other : ∀ bindings, call ≠ .registerNatives bindings)
    (h : SimulatedHost) (w : World) : (Host.Model.answer call h w).2.1.natives = h.natives := by
  cases call with
  | addCapabilities wanted =>
      show (h.enter.addCapabilities wanted).2.natives = _
      rcases h.enter.addCapabilities_cases wanted with ⟨e, same⟩ | ⟨-, granted⟩
      · rw [same]
        rfl
      · rw [granted]
        rfl
  | retransformClass name =>
      show (h.enter.retransform w name).2.1.natives = _
      rcases h.enter.retransform_cases w name with ⟨e, same, -⟩ | ⟨_, _, _, -, -, loaded⟩
      · rw [same]
        rfl
      · rw [loaded]
        rfl
  | redefineClasses changes =>
      show (h.enter.redefine changes).2.natives = _
      rcases h.enter.redefine_cases changes with ⟨e, same⟩ | ⟨_, _, -, redefined⟩
      · rw [same]
        rfl
      · rw [redefined]
        rfl
  | appendToBootstrapSearch archive =>
      show (h.enter.appendArchive w archive).2.natives = _
      rcases h.enter.appendArchive_cases w archive with ⟨e, same⟩ | ⟨_, -, appended⟩
      · rw [same]
        rfl
      · rw [appended]
        rfl
  | callStatic className method args =>
      show (h.enter.callStatic className method args).2.natives = _
      by_cases marker : className = markerClass
      · subst marker
        obtain ⟨_, _, called⟩ := h.enter.callStatic_marker_cases method args
        rw [called]
        rfl
      · obtain ⟨_, called⟩ := h.enter.callStatic_other_cases marker method args
        rw [called]
        rfl
  | registerNatives bindings => exact absurd rfl (other bindings)
  | _ => rfl

end SimulatedHost

/-! ## One question, and a whole run -/

section Moments

variable {α : Type} {door : Connector} {s t : Scene SimulatedHost} {log : List Event}

/-- The scene behind questions that were asked in it. -/
def Scene.behind (door : Connector) (s : Scene SimulatedHost) (log : List Event) :
    Scene SimulatedHost :=
  log.foldl (fun s event => (Scene.answer door event.question s).2) s

theorem Scene.behind_of_plays (plays : (playing door).Plays s log t) : s.behind door log = t := by
  induction plays with
  | nil s => rfl
  | cons comes later ih =>
      rw [← ih]
      exact congrArg (fun r => Scene.behind door r.2 _) comes

/-- The events of a procedure that is performed lead to where it ends. -/
theorem Scene.events_plays (door : Connector) (s : Scene SimulatedHost) (p : Procedure α) :
    (playing door).Plays s (p.events (Scene.answer door) s) (s.perform door p).2 := by
  have sees (q : Question) (t : Scene SimulatedHost) :
      (playing door).answers (id t) q (Scene.answer door q t).1 (id (Scene.answer door q t).2) :=
    rfl
  exact Procedure.events_plays sees p s

/-- No question but the binding of natives touches their table. -/
theorem Scene.answer_natives {q : Question} (unbinding : Unbinding q) (door : Connector)
    (s : Scene SimulatedHost) : (Scene.answer door q s).2.host.natives = s.host.natives := by
  by_cases aside : Aside q
  · exact congrArg SimulatedHost.natives (answer_aside aside door s).1
  cases q with
  | host call =>
      have other (bindings : List NativeBinding) : call ≠ .registerNatives bindings :=
        fun same => unbinding bindings (congrArg _ same)
      exact SimulatedHost.answer_natives other s.host s.world
  | park swap => rfl
  | take token => rfl
  | takeSuperseded pid current => rfl
  | _ => exact absurd trivial aside

/-- One question leaves the table as it was, or binds the agent's natives. -/
theorem natives_of_answer {q : Question} {answer : q.Answer}
    (own : ∀ bindings, q = .host (.registerNatives bindings) → bindings = nativeBindings)
    (comes : Scene.answer door q s = (answer, t)) :
    ¬ Bound [⟨q, answer⟩] ∧ t.host.natives = s.host.natives ∨
      Bound [⟨q, answer⟩] ∧ Updates nativeBindings s.host.natives t.host.natives := by
  by_cases unbinding : Unbinding q
  · refine .inl ⟨fun bound => ?_, ?_⟩
    · exact unbinding _ (congrArg Event.question (List.mem_singleton.1 bound)).symm
    · rw [← Scene.answer_natives unbinding door s, comes]
  · obtain ⟨bindings, binds⟩ := not_forall_not.1 unbinding
    subst binds
    obtain rfl := own bindings rfl
    rw [Scene.answer_registerNatives] at comes
    rcases s.host.enter.registerNatives_cases with ⟨e, refused⟩ | ⟨natives, updates, granted⟩
    · rw [refused] at comes
      cases comes
      exact .inl ⟨by simp [Bound], rfl⟩
    · rw [granted] at comes
      cases comes
      exact .inr ⟨by simp [Bound], updates⟩

/-- The table is as it was until the agent's natives were bound, and from then on they are. -/
theorem natives_of_plays (plays : (playing door).Plays s log t)
    (own : ∀ event ∈ log, ∀ bindings, event.question = .host (.registerNatives bindings) →
      bindings = nativeBindings) :
    (¬ Bound log → t.host.natives = s.host.natives) ∧
      (Bound log → Updates nativeBindings s.host.natives t.host.natives) := by
  induction plays with
  | nil s => exact ⟨fun _ => rfl, nofun⟩
  | @cons s s' t q answer log comes later ih =>
      obtain ⟨first, rest⟩ := List.forall_mem_cons.1 own
      obtain ⟨kept, bound⟩ := ih rest
      have either : Bound (⟨q, answer⟩ :: log) ↔ Bound [⟨q, answer⟩] ∨ Bound log := by
        simp [Bound]
      rw [either]
      rcases natives_of_answer first comes with ⟨here, same⟩ | ⟨here, updates⟩
      · rw [← same]
        exact ⟨fun unbound => kept fun there => unbound (.inr there), fun either =>
          bound (either.resolve_left here)⟩
      · refine ⟨fun unbound => absurd (.inl here) unbound, fun _ => ?_⟩
        by_cases again : Bound log
        · exact updates.trans (bound again)
        · rw [kept again]
          exact updates

/-- No procedure mixes up the tokens of the table, or gives one twice. -/
theorem perform_sound (p : Procedure α) (sound : s.world.parked.Sound) :
    (s.perform door p).2.world.parked.Sound := by
  induction p generalizing s with
  | done a => exact sound
  | ask q next ih => exact ih _ (answer_sound q door sound)

end Moments

/-! ## What a process lives through -/

/-- What may happen to a simulated process, and around it. -/
inductive Scene.Happens : Scene SimulatedHost → Scene SimulatedHost → Prop where
  /-- Any function is put under any class and method. -/
  | seed {s : Scene SimulatedHost} (binding : NativeBinding) :
      Happens s { s with host := s.host.seedNative binding }
  | attach {s : Scene SimulatedHost} (agent : Agent) (door : Connector) :
      Happens s (s.perform door agent.attach).2
  | restart {s : Scene SimulatedHost} : Happens s s.signalRestart.2
  /-- Controllers, files and other processes do what they like, but no token is given twice. -/
  | elsewhere {s : Scene SimulatedHost} (world : World) (sound : world.parked.Sound) :
      Happens s { s with world := world }

section Histories

variable {s s' : Scene SimulatedHost}

theorem signalRestart_sound (sound : s.world.parked.Sound) :
    s.signalRestart.2.world.parked.Sound := by
  unfold Scene.signalRestart
  cases if s.host.hooked then s.host.pendingToken else none with
  | none => exact sound
  | some token =>
      dsimp only [Scene.invokeNative]
      cases s.host.natives.lookup (handlerClass, tryRedefineClasses) with
      | none => exact sound
      | some native => exact perform_sound _ sound

theorem Scene.Happens.sound (happens : Happens s s') (sound : s.world.parked.Sound) :
    s'.world.parked.Sound := by
  cases happens with
  | seed binding => exact sound
  | attach agent door => exact perform_sound _ sound
  | restart => exact signalRestart_sound sound
  | elsewhere world kept => exact kept

/-- Whatever happened, no token of the table was given twice. -/
theorem Scene.sound_of_history (history : Relation.ReflTransGen Scene.Happens s s')
    (sound : s.world.parked.Sound) : s'.world.parked.Sound := by
  induction history with
  | refl => exact sound
  | tail _ happens ih => exact happens.sound ih

end Histories

/-! ## A swap that waits -/

/-- One who follows a session in its scene, lets it ask anything, and remembers all of it. -/
def following (door : Connector) : Rules (Scene SimulatedHost × List Event) :=
  (playing door).recalling fun _ _ => True

/-- A request was read from a connection. -/
def ReadFrom (link : LinkId) (request : Request) (past : List Event) : Prop :=
  ∃ frame, ⟨.receive link, .ok frame⟩ ∈ past ∧ Request.decode frame = .ok request

theorem ReadFrom.snoc {link : LinkId} {request : Request} {past : List Event}
    (read : ReadFrom link request past) (event : Event) :
    ReadFrom link request (past ++ [event]) := by
  obtain ⟨frame, received, decoded⟩ := read
  exact ⟨frame, List.mem_append_left _ received, decoded⟩

/-- The hooked handler holds a token, under which a swap is parked whose request was read. -/
structure HandedOver (token : Int) (request : Request) (link : LinkId)
    (now : Scene SimulatedHost × List Event) : Prop where
  hooked : now.1.host.hooked = true
  held : now.1.host.pendingToken = some token
  found : (now.1.world.parked.take token).1 = some ⟨now.1.host.pid, request, link⟩
  parked : ⟨.park ⟨now.1.host.pid, request, link⟩, token⟩ ∈ now.2
  read : ReadFrom link request now.2

/-- What a session leaves whose swap waits. -/
def LeavesWaiting (outcome : Except AttachError Completion)
    (now : Scene SimulatedHost × List Event) : Prop :=
  ∀ token, outcome = .ok (.deferred token) → ∃ link request, HandedOver token request link now

section Waiting

variable {α : Type} {door : Connector} {s t : Scene SimulatedHost} {past : List Event}
  {request : Request} {link : LinkId} {progress : Progress}

theorem following_step {q : Question} {next : q.Answer → Procedure α}
    {post : α → Scene SimulatedHost × List Event → Prop} {a : q.Answer}
    (comes : Scene.answer door q s = (a, t))
    (later : (next a).Obeys (following door) post (t, past ++ [⟨q, a⟩])) :
    (ask q next).Obeys (following door) post (s, past) := by
  refine recalling_ask.2 ⟨trivial, fun answer s' comes' => ?_⟩
  have same : (answer, s') = (a, t) := comes'.symm.trans comes
  cases same
  exact later

theorem following_free {post : α → Scene SimulatedHost × List Event → Prop}
    (holds : ∀ a now, post a now) (p : Procedure α) (now : Scene SimulatedHost × List Event) :
    p.Obeys (following door) post now :=
  obeys_of_free (fun _ _ => trivial) holds p now

/-- The older swaps are answered, which leaves the token and its swap where they are. -/
theorem abandonAll_handedOver {token : Int} {now : Scene SimulatedHost × List Event}
    (swaps : List PendingSwap) (holds : HandedOver token request link now) :
    (abandonAll swaps).Obeys (following door) (fun _ now => HandedOver token request link now)
      now := by
  have asks : (abandonAll swaps).Asks Aside := by
    induction swaps with
    | nil => trivial
    | cons swap rest ih => exact ⟨trivial, fun _ => ⟨trivial, fun _ => ih⟩⟩
  refine Obeys.of_asks asks (fun _ _ _ _ => trivial) ?_ holds
  rintro q now answer now' aside holds ⟨comes, grown⟩
  obtain ⟨host, table⟩ := answer_aside aside door now.1
  rw [show Scene.answer door q now.1 = (answer, now'.1) from comes] at host table
  exact
    { hooked := by rw [host, holds.hooked]
      held := by rw [host, holds.held]
      found := by rw [host, table, holds.found]
      parked := by
        rw [host, grown]
        exact List.mem_append_left _ holds.parked
      read := by
        rw [grown]
        exact holds.read.snoc _ }

/-- A swap is parked under a token that the handler holds in the end, or it is not parked. -/
theorem transfer_handedOver (sound : s.world.parked.Sound) (read : ReadFrom link request past) :
    (transfer request link).Obeys (following door)
      (fun r now => ∀ token, r = .ok token → HandedOver token request link now) (s, past) := by
  refine following_step (a := s.host.pid) (t := s) rfl ?_
  rcases told : Scene.answer door (.send link (Response.needRestart s.host.pid).encode) s with
    ⟨arrived, h, w⟩
  obtain ⟨rfl, table⟩ : h = s.host ∧ w.parked = s.world.parked := by
    have aside := answer_aside (q := .send link (Response.needRestart s.host.pid).encode)
      trivial door s
    rwa [told] at aside
  rw [← table] at sound
  refine following_step told ?_
  rcases arrived with cause | _
  · exact following_step rfl nofun
  refine following_step (a := w.parked.next)
    (t := ⟨s.host, { w with parked := (w.parked.park ⟨s.host.pid, request, link⟩).2 }⟩) rfl ?_
  rcases s.host.enter.callStatic_prepareForHotSwap_cases w.parked.next with
    ⟨e, refused⟩ | ⟨hooked, handed⟩
  · refine following_step (by rw [Scene.answer_callStatic, refused]) ?_
    exact (following_free (fun _ _ => trivial) (takeBack w.parked.next e) _).andThen
      fun _ _ _ => nofun
  refine following_step (by rw [Scene.answer_callStatic, handed]) ?_
  refine following_step rfl ?_
  refine (abandonAll_handedOver _ (show HandedOver w.parked.next request link _ from
    { hooked
      held := rfl
      found := sound.take_supersede ⟨s.host.pid, request, link⟩
      parked := List.mem_append_left _ (List.mem_append_left _ (List.mem_concat_self ..))
      read := ((((read.snoc _).snoc _).snoc _).snoc _).snoc _ })).andThen fun _ _ holds => ?_
  rintro _ ⟨⟩
  exact holds

theorem swapLater_waits (sound : s.world.parked.Sound) (read : ReadFrom link request past) :
    (swapLater request link progress).Obeys (following door) (fun r => LeavesWaiting r.1)
      (s, past) := by
  refine advance_either (fun _ => advance_either (fun _ => attempt_andThen ?_) fun _ => nofun)
    fun _ => nofun
  refine (transfer_handedOver sound read).mono fun r now holds => ?_
  rcases r with e | token
  · exact nofun
  · refine advance_either (fun _ => ?_) fun _ => nofun
    rintro _ ⟨⟩
    exact ⟨link, request, holds token rfl⟩

/-- A swap that is tried at once does not wait. -/
theorem swapNow_waits (now : Scene SimulatedHost × List Event) :
    (swapNow request link progress).Obeys (following door)
      (fun r _ => ∀ now, LeavesWaiting r.1 now) now := by
  refine advance_either (fun _ => perform_andThen (following_free (fun response now => ?_) _ _))
    fun _ _ => nofun
  refine advance_either (fun _ => attempt_andThen (following_free (fun sent now => ?_) _ _))
    fun _ _ => nofun
  rcases sent with e | _
  · exact fun _ => nofun
  · exact advance_either (fun _ _ => nofun) fun _ _ => nofun

/-- Before its swap a session has a sound table, and has read what it read. -/
def Preparing (link : LinkId) (read : Option ByteArray) (now : Scene SimulatedHost × List Event) :
    Prop :=
  now.1.world.parked.Sound ∧ ∀ frame ∈ read, ⟨.receive link, .ok frame⟩ ∈ now.2

theorem Preparing.kept {read : Option ByteArray} {q : Question} {answer : q.Answer}
    {now now' : Scene SimulatedHost × List Event} (before : Preparing link read now)
    (comes : (following door).answers now q answer now') : Preparing link read now' := by
  obtain ⟨answers, grown⟩ := comes
  refine ⟨?_, fun frame member => ?_⟩
  · have sound := answer_sound q door before.1
    rwa [show Scene.answer door q now.1 = (answer, now'.1) from answers] at sound
  · rw [grown]
    exact List.mem_append_left _ (before.2 frame member)

theorem session_waits (agent : Agent) (sound : s.world.parked.Sound) :
    (session agent Progress.start).Obeys (following door) (fun r => LeavesWaiting r.1) (s, []) := by
  have sound := answer_sound .connect door sound
  rcases opens : Scene.answer door .connect s with ⟨opened, t⟩
  rw [opens] at sound
  refine attempt_andThen (following_step opens ?_)
  rcases opened with cause | link
  · exact nofun
  have prepared : (prepare agent link Progress.start).Obeys (following door)
      (EndsReady (Preparing link) fun _ => True) (t, [⟨.connect, .ok link⟩]) := by
    refine prepare_ready agent link (fun _ _ _ _ _ => trivial)
      (fun _ _ _ _ _ _ before comes => before.kept comes) (fun frame now comes => ?_)
      (fun _ _ _ _ _ => trivial) ⟨sound, nofun⟩
    have start : Preparing link none (t, [⟨.connect, .ok link⟩]) := ⟨sound, nofun⟩
    refine ⟨(start.kept comes).1, fun other same => ?_⟩
    obtain rfl := Option.mem_some_iff.1 same
    rw [comes.2]
    simp
  refine stage_andThen (hangingUpOnFailure_obeys (prepared.mono ?_))
  rintro ⟨e | request, progress⟩ ⟨t, past⟩ ready
  · exact following_free (fun _ _ => nofun) _ _
  obtain ⟨frame, decoded, ⟨sound, received⟩, -⟩ := ready
  cases later : request.restartActivity with
  | true =>
      simp only [later, if_true]
      exact swapLater_waits sound ⟨frame, received frame rfl, decoded⟩
  | false =>
      simp only [later]
      refine hangingUp_obeys ((swapNow_waits _).mono fun r now waits => ?_)
      exact following_free (fun _ now => waits now) _ _

theorem attach_waits (agent : Agent) (sound : s.world.parked.Sound) :
    agent.attach.Obeys (following door) (fun report => LeavesWaiting report.outcome) (s, []) := by
  refine attach_obeys ((session_waits agent sound).mono ?_)
  rintro ⟨e | completion, progress⟩ now waits <;> exact waits

end Waiting

/-! ## A restart right behind a session -/

/-- A process whose handler has given its token back. -/
def Scene.released (s : Scene SimulatedHost) : Scene SimulatedHost :=
  { s with host := { s.host with pendingToken := none } }

/-- A restart runs the agent's call back with a token, and so completes the swap under it. -/
structure Scene.CallsBack (s : Scene SimulatedHost) (token : Int) (swap : PendingSwap) : Prop where
  runs :
    let called := s.released.perform (.refusing .closed)
      (callNative .tryRedefineClasses [.long token])
    s.signalRestart = (called.1.bool?, called.2)
  found : (s.world.parked.take token).1 = some swap
  completes :
    let taken : Scene SimulatedHost :=
      ⟨s.released.host, { s.world with parked := (s.world.parked.take token).2 }⟩
    let completed := taken.perform (.refusing .closed) (complete swap)
    s.signalRestart = (some completed.1, completed.2)

/-- A handler that was hooked gives the token that it holds to the agent's call back. -/
theorem HandedOver.callsBack {s : Scene SimulatedHost} {log : List Event} {token : Int}
    {request : Request} {link : LinkId} (holds : HandedOver token request link (s, log))
    (callable : s.host.Callable) : s.CallsBack token ⟨s.host.pid, request, link⟩ := by
  have runs := SimulatedHost.signalRestart_callable holds.hooked holds.held callable
  refine ⟨runs, holds.found, ?_⟩
  intro taken completed
  have finds : Scene.answer (.refusing .closed) (.take token) s.released =
      (some ⟨s.host.pid, request, link⟩, taken) := congrArg (·, taken) holds.found
  have redeems : s.released.perform (.refusing .closed)
      (callNative .tryRedefineClasses [.long token]) = (.bool completed.1, completed.2) := by
    show Procedure.run _ (redefineParked [.long token]) s.released = _
    simp only [redefineParked, List.head?_cons, Option.bind_some, Host.Value.long?, take, bind_eq,
      ask_bind, done_bind, Procedure.run, finds, run_bind]
    rfl
  rw [runs]
  show ((some (s.released.perform _ _).1).bind _, (s.released.perform _ _).2) = _
  rw [redeems]
  rfl

/-! ## The whole -/

/-- What a session does to the natives of its process: the scene in which it starts and the one in
which it ends, everything that it asked and was told, and its report. -/
structure Rebinds (door : Connector) (s : Scene SimulatedHost) (log : List Event)
    (report : SessionReport) (last : Scene SimulatedHost) : Prop where
  /-- Its questions lead from its start to its end. -/
  whole : s.behind door log = last
  /-- It comes to the parting of its ways exactly if the agent's natives were bound. -/
  parted : report.visited .dispatch = true ↔ Bound log
  /-- Until they are, the table is as the session found it, also right behind a refusal. -/
  before : ∀ past, past <+: log → ¬ Bound past →
    (s.behind door past).host.natives = s.host.natives
  /-- Right behind their binding, and from then on, both are the agent's, whatever was there, and
  every other entry is as it was. -/
  after : ∀ past, past <+: log → Bound past →
    Updates nativeBindings s.host.natives (s.behind door past).host.natives
  /-- A session that fails before leaves the whole table as it was. -/
  spared : report.visited .dispatch = false → last.host.natives = s.host.natives
  /-- Any other leaves its own natives. -/
  replaced : report.visited .dispatch = true →
    Updates nativeBindings s.host.natives last.host.natives
  /-- A restart right behind a session whose swap waits runs the agent's call back on the token
  under which the session parked it. -/
  calledBack : ∀ token, report.outcome = .ok (.deferred token) →
    ∃ link frame request, ⟨.receive link, .ok frame⟩ ∈ log ∧ Request.decode frame = .ok request ∧
      ⟨.park ⟨last.host.pid, request, link⟩, token⟩ ∈ log ∧
      last.CallsBack token ⟨last.host.pid, request, link⟩

/-- **Stale natives are always replaced.**  Whatever natives were put in a process's table, and
whatever sessions and restarts it has lived through, a session that comes to the parting of its
ways has put its agent's natives there and touched no other entry; one that does not has touched
none; and a restart right behind one whose swap waits completes this swap. -/
theorem Scene.rebinds_of_history {start s : Scene SimulatedHost}
    (sound : start.world.parked.Sound) (history : Relation.ReflTransGen Scene.Happens start s)
    (agent : Agent) (door : Connector) :
    Rebinds door s (agent.attach.events (Scene.answer door) s) (s.perform door agent.attach).1
      (s.perform door agent.attach).2 := by
  have sound := sound_of_history history sound
  have course := course_events (Scene.answer door) agent.attach s
  have plays := s.events_plays door agent.attach
  have parted := attach_parted course
  have moments (past : List Event) (early : past <+: agent.attach.events (Scene.answer door) s) :
      (¬ Bound past → (s.behind door past).host.natives = s.host.natives) ∧
        (Bound past → Updates nativeBindings s.host.natives (s.behind door past).host.natives) := by
    obtain ⟨rest, split⟩ := id early
    obtain ⟨middle, leads, -⟩ := (split ▸ plays).split
    rw [behind_of_plays leads]
    exact natives_of_plays leads fun event member _ registers =>
      attach_registers course (early.subset member) registers
  have whole := behind_of_plays plays
  have ends := moments _ (List.prefix_refl _)
  rw [whole] at ends
  refine
    { whole
      parted := parted.1
      before := fun past early => (moments past early).1
      after := fun past early => (moments past early).2
      spared := fun missed => ends.1 fun bound => ?_
      replaced := fun came => ends.2 (parted.1.1 came)
      calledBack := fun token waits => ?_ }
  · have came := parted.1.2 bound
    exact absurd (came.symm.trans missed) nofun
  · obtain ⟨link, request, holds⟩ :=
      (attach_waits agent sound).ends course (plays.recalling []) token waits
    have updates := ends.2 (parted.2 _ waits)
    obtain ⟨frame, received, decoded⟩ := holds.read
    exact ⟨link, frame, request, received, decoded, holds.parked, holds.callsBack updates.callable⟩

/-! ## A stale call back -/

theorem SessionReport.token?_eq_some_iff {report : SessionReport} {token : Int} :
    report.token? = some token ↔ report.outcome = .ok (.deferred token) := by
  unfold SessionReport.token?
  split <;> simp_all

/-- A function that somebody left under the name of the call back. -/
def staleNative : NativeBinding :=
  ⟨handlerClass, tryRedefineClasses, .foreign fun _ => .bool true⟩

/-- A process in which it was left, and a controller that wants a swap to wait. -/
def staleScene : Scene SimulatedHost :=
  { Device.sampleScene with host := Device.sampleScene.host.seedNative staleNative }

/-- The session with it, and what is left. -/
def staleRun : SessionReport × Scene SimulatedHost :=
  staleScene.perform (.ready 0) Device.sampleAgent.attach

theorem staleRun_rebinds :
    staleScene.host.natives.lookup (handlerClass, tryRedefineClasses) = some staleNative.native ∧
      staleRun.1.token? = some 1 ∧
      Updates nativeBindings staleScene.host.natives staleRun.2.host.natives ∧
      ∃ swap, staleRun.2.CallsBack 1 swap := by
  have sound : Device.sampleScene.world.parked.Sound := Parked.sound_empty
  have history : Relation.ReflTransGen Scene.Happens Device.sampleScene staleScene :=
    .single (.seed staleNative)
  have rebinds := Scene.rebinds_of_history sound history Device.sampleAgent (.ready 0)
  rw [← staleRun] at rebinds
  have came : staleRun.1.visited .dispatch = true ∧ staleRun.1.token? = some 1 := by
    decide +kernel
  have waits := SessionReport.token?_eq_some_iff.1 came.2
  obtain ⟨_, _, _, -, -, -, calls⟩ := rebinds.calledBack 1 waits
  exact ⟨rfl, came.2, rebinds.replaced came.1, _, calls⟩

end HotSwap
