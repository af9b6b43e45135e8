/-
# HotSwap.Proofs.Simulated.TokenAgreement -- the handler's token and the table agree

Two records are kept of a swap that waits: the table of parked swaps, which all processes
share, and the token that the hooked handler in the process holds.  They are written at
different moments of a session and of a restart.  A `Device` has any number of simulated
processes; sessions are attached to idle ones, and the steps of sessions of different
processes fall in any order.

`settled_of_reachable` says that whenever no session is attached to a process, its swaps
are parked under the token that its handler holds, and nothing else; so at most one waits,
and a restart finds it and leaves none.  The invariant is `Own.Agrees` for each process,
which a session breaks only between parking and the handler's answer: `transfer_agrees`
shows how a refusal and an acceptance both mend it.  `Tended.leave` carries it over the
steps of the other processes.
-/
import HotSwap.Proofs.Simulated.Share
import HotSwap.Simulation.Fixture

namespace HotSwap

set_option autoImplicit false

open Procedure Session

/-! ## Sessions and restarts of one process -/

namespace Own

/-- A process's swaps are parked under the token that its handler holds, and nothing else; a
handler that holds one was hooked, and its call back is bound. -/
structure Agrees (own : Own) : Prop where
  tokens : own.tokens = own.host.pendingToken.toList
  hooked : own.host.pendingToken.isSome → own.host.hooked = true ∧ own.host.Callable

theorem Agrees.carried {own own' : Own} (agrees : own.Agrees) (carries : own.host.Carries own'.host)
    (same : own'.tokens = own.tokens) : own'.Agrees where
  tokens := by rw [same, carries.pendingToken, agrees.tokens]
  hooked held := by
    rw [carries.pendingToken] at held
    exact ⟨carries.hooked (agrees.hooked held).1, carries.callable (agrees.hooked held).2⟩

end Own

section Handling

variable {α : Type} {own : Own}

/-- What is asked aside, and what comes behind it. -/
theorem aside_andThen {q : Question} {next : q.Answer → Procedure α} {post : α → Own → Prop}
    (aside : Aside q) (later : ∀ answer, (next answer).Obeys handling post own) :
    (ask q next).Obeys handling post own := by
  refine ⟨?_, fun answer own' answers => ?_⟩
  · cases q <;> trivial
  · rw [handling_aside aside answers]
    exact later answer

/-- Before its swap a session asks aside, or calls its host and hands nothing over. -/
theorem aside_or_nothing {q : Question} (preparatory : Preparatory q) :
    Aside q ∨ ∃ call, q = .host call ∧ SimulatedHost.HandsNothing call := by
  cases q with
  | host call =>
      refine .inr ⟨call, rfl, ?_⟩
      cases call <;> trivial
  | _ => exact .inl (by trivial)

theorem prepare_agrees (agent : Agent) (link : LinkId) (progress : Progress) (agrees : own.Agrees) :
    (prepare agent link progress).Obeys handling
      (EndsBound Own.Agrees fun own => own.host.Callable) own := by
  refine prepare_obeys agent link ?_ ?_ ?_ agrees
  · intro q own preparatory _
    cases q <;> trivial
  · intro q own answer own' preparatory agrees answers
    rcases aside_or_nothing preparatory with aside | ⟨call, rfl, nothing⟩
    · rwa [handling_aside aside answers]
    · obtain ⟨carries, same⟩ := handling_host nothing answers
      exact agrees.carried carries same
  · intro own own' _ answers
    exact handling_registerNatives answers

theorem execute_agrees (request : Request) (agrees : own.Agrees) :
    (execute request).Obeys handling
      (fun _ own' => own'.Agrees ∧ own'.host.pendingToken = own.host.pendingToken) own := by
  refine ⟨trivial, fun pid own' answers => ?_⟩
  obtain ⟨-, rfl⟩ := handling_processId answers
  refine ⟨trivial, fun answer own'' answers => ?_⟩
  obtain ⟨carries, same⟩ := handling_host (by trivial) answers
  have kept := And.intro (agrees.carried carries same) carries.pendingToken
  rcases answer with cause | _ <;> exact kept

theorem abandon_agrees (swap : PendingSwap) (detail : ErrorDetail) {post : Unit → Own → Prop}
    (ends : post () own) : (abandon swap detail).Obeys handling post own :=
  aside_andThen trivial fun _ => aside_andThen trivial fun _ => ends

theorem abandonAll_agrees (swaps : List PendingSwap) {post : Unit → Own → Prop}
    (ends : post () own) : (abandonAll swaps).Obeys handling post own := by
  induction swaps with
  | nil => exact ends
  | cons swap rest ih => exact obeys_bind.2 (abandon_agrees swap superseded ih)

/-- A token that is new can be told from those before it. -/
theorem filter_new {tokens : List Int} {token : Int} (new : token ∉ tokens) :
    (tokens ++ [token]).filter (· != token) = tokens ∧
      (tokens ++ [token]).filter (· == token) = [token] := by
  have apart : ∀ other ∈ tokens, other ≠ token := fun other member same => new (same ▸ member)
  have kept : tokens.filter (· != token) = tokens :=
    List.filter_eq_self.2 fun other member => by simpa using apart other member
  have dropped : tokens.filter (· == token) = [] :=
    List.filter_eq_nil_iff.2 fun other member => by simpa using apart other member
  simp [kept, dropped]

/-- A token that was refused is taken back. -/
theorem takeBack_agrees {h : SimulatedHost} {tokens : List Int} {token : Int}
    (new : token ∉ tokens) (cause : Host.Error) (agrees : Own.Agrees ⟨h, tokens⟩) :
    (takeBack token cause).Obeys handling (fun _ own => own.Agrees) ⟨h, tokens ++ [token]⟩ := by
  refine ⟨List.mem_append_right tokens (List.mem_singleton_self token), fun swap own' answers => ?_⟩
  rw [handling_take answers, (filter_new new).1]
  cases swap with
  | none => exact agrees
  | some swap => exact abandon_agrees swap _ agrees

theorem transfer_agrees (request : Request) (link : LinkId) (agrees : own.Agrees)
    (callable : own.host.Callable) :
    (transfer request link).Obeys handling (fun _ own => own.Agrees) own := by
  refine ⟨trivial, fun pid own' answers => ?_⟩
  obtain ⟨rfl, rfl⟩ := handling_processId answers
  refine aside_andThen trivial fun sent => ?_
  rcases sent with e | _
  · exact aside_andThen trivial fun _ => agrees
  refine ⟨rfl, fun token own'' answers => ?_⟩
  obtain ⟨new, rfl⟩ := handling_park rfl answers
  refine ⟨trivial, fun answer own'' answers => ?_⟩
  rcases handling_prepareForHotSwap answers with ⟨cause, rfl, rfl⟩ | ⟨hooked, rfl, rfl⟩
  · have entered : Own.Agrees ⟨own'.host.enter, own'.tokens⟩ := agrees.carried ⟨rfl, rfl, id, id⟩ rfl
    exact (takeBack_agrees new cause entered).andThen
      fun _ _ agrees => agrees
  · refine ⟨rfl, fun swaps own'' answers => ?_⟩
    rw [handling_takeSuperseded answers, (filter_new new).2]
    have agrees : Own.Agrees ⟨{ own'.host.enter with pendingToken := some token }, [token]⟩ :=
      ⟨rfl, fun _ => ⟨hooked, callable⟩⟩
    exact (abandonAll_agrees swaps agrees).andThen fun _ _ agrees => agrees

theorem swapNow_agrees (request : Request) (link : LinkId) (progress : Progress)
    (agrees : own.Agrees) :
    (swapNow request link progress).Obeys handling (fun _ own => own.Agrees) own := by
  refine advance_either (fun _ => perform_andThen ?_) fun _ => agrees
  refine (execute_agrees request agrees).mono fun response own executed => ?_
  obtain ⟨agrees, -⟩ := executed
  refine advance_either (fun _ => attempt_andThen (aside_andThen trivial fun sent => ?_))
    fun _ => agrees
  rcases sent with e | _
  · exact agrees
  · exact advance_either (fun _ => agrees) fun _ => agrees

theorem swapLater_agrees (request : Request) (link : LinkId) (progress : Progress)
    (agrees : own.Agrees) (callable : own.host.Callable) :
    (swapLater request link progress).Obeys handling (fun _ own => own.Agrees) own := by
  refine advance_either (fun _ => advance_either (fun _ => attempt_andThen ?_) fun _ => agrees)
    fun _ => agrees
  refine (transfer_agrees request link agrees callable).mono fun r own agrees => ?_
  rcases r with e | token
  · exact agrees
  · exact advance_either (fun _ => agrees) fun _ => agrees

/-- A session leaves the handler's token and the process's share of the table in agreement. -/
theorem attach_agrees (agent : Agent) (agrees : own.Agrees) :
    agent.attach.Obeys handling (fun _ own => own.Agrees) own := by
  refine attach_obeys (attempt_andThen (aside_andThen trivial fun connected => ?_))
  rcases connected with e | link
  · exact agrees
  refine stage_andThen (hangingUpOnFailure_obeys ?_)
  refine (prepare_agrees agent link _ agrees).mono fun r own prepared => ?_
  obtain ⟨agrees, callable⟩ := prepared
  rcases r with ⟨e | request, progress⟩
  · exact aside_andThen trivial fun _ => agrees
  cases later : request.restartActivity with
  | true =>
      simp only [later, if_true]
      refine (swapLater_agrees request link progress agrees (callable request rfl)).mono ?_
      rintro ⟨_ | _, _⟩ own agrees <;> exact agrees
  | false =>
      simp only [later]
      refine hangingUp_obeys ((swapNow_agrees request link progress agrees).mono ?_)
      rintro ⟨_ | _, _⟩ own agrees <;> exact aside_andThen trivial fun _ => agrees

theorem complete_agrees (swap : PendingSwap) (agrees : own.Agrees) :
    (complete swap).Obeys handling
      (fun _ own' => own'.Agrees ∧ own'.host.pendingToken = own.host.pendingToken) own := by
  have responded : (executeAndRespond swap.request swap.link).Obeys handling
      (fun _ own' => own'.Agrees ∧ own'.host.pendingToken = own.host.pendingToken) own := by
    refine (execute_agrees swap.request agrees).andThen fun response own' kept => ?_
    exact aside_andThen trivial fun sent => by rcases sent with e | _ <;> exact kept
  refine responded.andThen fun result own' kept => ?_
  exact aside_andThen trivial fun _ => by rcases result with e | response <;> exact kept

/-- The call back with the token that was held takes the process's share out, and answers. -/
theorem callBack_agrees {token : Int} (held : own.tokens = [token])
    (given : own.host.pendingToken = none) :
    (callNative .tryRedefineClasses [.long token]).Obeys handling
      (fun value own => (∃ applied, value = .bool applied) ∧ own.Agrees ∧
        own.host.pendingToken = Option.none) own := by
  refine ⟨by simp [handling, held], fun swap own' answers => ?_⟩
  have emptied : own' = ⟨own.host, []⟩ := by
    rw [handling_take answers, held]
    simp
  have agrees : own'.Agrees := by
    subst emptied
    exact ⟨by simp [given], by simp [given]⟩
  have none : own'.host.pendingToken = Option.none := by rw [emptied, given]
  cases swap with
  | none => exact ⟨⟨false, rfl⟩, agrees, none⟩
  | some swap =>
      refine (complete_agrees swap agrees).andThen fun applied own'' kept => ?_
      exact ⟨⟨applied, rfl⟩, kept.1, kept.2.trans none⟩

end Handling

/-! ## Scenes -/

section Scenes

variable {s : Scene SimulatedHost}

/-- What the rules allow keeps the table sound and touches no share but the process's own. -/
theorem answer_keeps {q : Question} (door : Connector) (sound : s.world.parked.Sound)
    (allowed : handling.allows s.own q) :
    (Scene.answer door q s).2.world.parked.Sound ∧
      ∀ other, other ≠ s.host.pid →
        share other (Scene.answer door q s).2.world.parked = share other s.world.parked := by
  refine ⟨answer_sound q door sound, fun other different => ?_⟩
  by_cases aside : Aside q
  · rw [(answer_aside aside door s).2]
  cases q with
  | host call => exact congrArg (share other) (SimulatedHost.answer_parked call s.host s.world)
  | park swap =>
      show share other (s.world.parked.park swap).2 = _
      have foreign : swap.pid ≠ other := fun same => different (same ▸ allowed)
      rw [Parked.share_park, if_neg foreign]
  | take token => exact sound.share_take_of_ne allowed different
  | takeSuperseded pid current =>
      exact Parked.share_takeSuperseded_of_ne (fun same => different (same.trans allowed)) current
  | _ => exact absurd trivial aside

theorem answer_pid {q : Question} (door : Connector) (s : Scene SimulatedHost) :
    (Scene.answer door q s).2.host.pid = s.host.pid := by
  by_cases aside : Aside q
  · rw [(answer_aside aside door s).1]
  cases q with
  | host call => exact SimulatedHost.answer_pid call s.host s.world
  | park swap => rfl
  | take token => rfl
  | takeSuperseded pid current => rfl
  | _ => exact absurd trivial aside

/-- What is true of a scene while its process keeps the rules, next to a table at the start. -/
def Apart (pid : UInt32) (start : Parked) (s : Scene SimulatedHost) : Prop :=
  s.host.pid = pid ∧ s.world.parked.Sound ∧
    ∀ other, other ≠ pid → share other s.world.parked = share other start

/-- A procedure that keeps the rules is played as the rules say, and touches no other share. -/
theorem perform_handling {α : Type} {p : Procedure α} {post : α → Own → Prop} (door : Connector)
    (sound : s.world.parked.Sound) (obeys : p.Obeys handling post s.own) :
    post (s.perform door p).1 (s.perform door p).2.own ∧
      Apart s.host.pid s.world.parked (s.perform door p).2 := by
  have sees (q : Question) (t : Scene SimulatedHost) (apart : Apart s.host.pid s.world.parked t)
      (allowed : handling.allows t.own q) :
      handling.answers t.own q (Scene.answer door q t).1 (Scene.answer door q t).2.own ∧
        Apart s.host.pid s.world.parked (Scene.answer door q t).2 := by
    obtain ⟨pid, sound, others⟩ := apart
    obtain ⟨sound', same⟩ := answer_keeps door sound allowed
    refine ⟨⟨door, t, sound, rfl, rfl, rfl⟩, (answer_pid door t).trans pid, sound', ?_⟩
    intro other different
    rw [same other (pid ▸ different), others other different]
  exact obeys.run sees ⟨rfl, sound, fun _ _ => rfl⟩

/-- A restart gives the token back that is held, if one is, and empties the process's share. -/
theorem signalRestart_agrees (sound : s.world.parked.Sound) (agrees : s.own.Agrees) :
    ((s.signalRestart.1.isSome ↔ s.own.tokens ≠ []) ∧ s.signalRestart.2.own.tokens = [] ∧
      s.signalRestart.2.own.Agrees) ∧
    Apart s.host.pid s.world.parked s.signalRestart.2 := by
  have tokens : s.own.tokens = s.host.pendingToken.toList := agrees.tokens
  cases held : s.host.pendingToken with
  | none =>
      have empty : s.own.tokens = [] := by rw [tokens, held]; rfl
      have still : s.signalRestart = (none, s) := by simp [Scene.signalRestart, held]
      rw [still]
      exact ⟨⟨by simp [empty], empty, agrees⟩, rfl, sound, fun _ _ => rfl⟩
  | some token =>
      have full : s.own.tokens = [token] := by rw [tokens, held]; rfl
      have ready : s.host.hooked = true ∧ s.host.Callable :=
        agrees.hooked (by rw [show s.own.host = s.host from rfl, held]; rfl)
      obtain ⟨hooked, callable⟩ := ready
      let given : Scene SimulatedHost := { s with host := { s.host with pendingToken := none } }
      let played := given.perform (.refusing .closed) (callNative .tryRedefineClasses [.long token])
      have restarted : s.signalRestart = ((some played.1).bind Host.Value.bool?, played.2) :=
        SimulatedHost.signalRestart_callable hooked held callable
      obtain ⟨⟨⟨applied, value⟩, agrees, none⟩, apart⟩ := perform_handling (s := given)
        (.refusing .closed) sound (callBack_agrees full rfl)
      have empty : played.2.own.tokens = [] := by rw [agrees.tokens, none]; rfl
      rw [restarted]
      refine ⟨⟨?_, empty, agrees⟩, apart⟩
      rw [show played.1 = .bool applied from value, full]
      simp [Host.Value.bool?]

end Scenes

/-! ## Many processes -/

/-- A simulated process, and what is left to do of the session that is attached to it. -/
structure Running where
  host : SimulatedHost
  rest : Procedure Unit

/-- A process to which no session is attached. -/
def SimulatedHost.idle (h : SimulatedHost) : Running := ⟨h, .done ()⟩

/-- Simulated processes that share one table of parked swaps. -/
structure Device where
  processes : List Running := []
  parked : Parked := {}

namespace Device

/-- A process takes a step of its own, behind which it and the table are as in a scene. -/
def leave (d : Device) (i : Nat) (s : Scene SimulatedHost) (rest : Procedure Unit) : Device :=
  ⟨d.processes.set i ⟨s.host, rest⟩, s.world.parked⟩

/-- One step: a process with a number of its own starts; an agent attaches to an idle one; a
session is answered its next question; or an idle process restarts its activity.  Of the world
around the processes only the table is theirs. -/
inductive Step (d : Device) : Device → Prop where
  | start {h : SimulatedHost} (started : h.Started)
      (own : ∀ p ∈ d.processes, p.host.pid ≠ h.pid) :
      Step d { d with processes := d.processes ++ [h.idle] }
  | attach {i : Nat} {h : SimulatedHost} (agent : Agent) (found : d.processes[i]? = some h.idle) :
      Step d { d with processes := d.processes.set i ⟨h, agent.attach.bind fun _ => .done ()⟩ }
  | ask {i : Nat} {q : Question} {next : q.Answer → Procedure Unit} (door : Connector)
      {s : Scene SimulatedHost} (found : d.processes[i]? = some ⟨s.host, .ask q next⟩)
      (table : s.world.parked = d.parked) :
      Step d (d.leave i (Scene.answer door q s).2 (next (Scene.answer door q s).1))
  | restart {i : Nat} {s : Scene SimulatedHost} (found : d.processes[i]? = some s.host.idle)
      (table : s.world.parked = d.parked) :
      Step d (d.leave i s.signalRestart.2 (.done ()))

/-- A device that was started with nothing. -/
inductive Reachable : Device → Prop where
  | empty : Reachable {}
  | step {d d' : Device} (reached : Reachable d) (step : d.Step d') : Reachable d'

/-- What is true of a device: the table is sound, no two processes have one number, there is
nothing in the table but for them, and each session keeps the rules. -/
structure Tended (d : Device) : Prop where
  sound : d.parked.Sound
  apart : ∀ (i j : Nat) (p q : Running), d.processes[i]? = some p → d.processes[j]? = some q →
    p.host.pid = q.host.pid → i = j
  known : ∀ pid, (∀ (i : Nat) (p : Running), d.processes[i]? = some p → p.host.pid ≠ pid) →
    share pid d.parked = []
  keeps : ∀ (i : Nat) (p : Running), d.processes[i]? = some p →
    p.rest.Obeys handling (fun _ own => own.Agrees) ⟨p.host, share p.host.pid d.parked⟩

section Tending

variable {d : Device} {i : Nat}

/-- A step of one process that keeps the rules, its number and the other shares. -/
theorem Tended.leave (tended : d.Tended) {p : Running} (found : d.processes[i]? = some p)
    {s : Scene SimulatedHost} {rest : Procedure Unit} (apart : Apart p.host.pid d.parked s)
    (obeys : rest.Obeys handling (fun _ own => own.Agrees) s.own) : (d.leave i s rest).Tended := by
  obtain ⟨pid, sound, others⟩ := apart
  have short := (List.getElem?_eq_some_iff.1 found).1
  have here : (d.leave i s rest).processes[i]? = some ⟨s.host, rest⟩ := List.getElem?_set_self short
  have there {j : Nat} (different : j ≠ i) :
      (d.leave i s rest).processes[j]? = d.processes[j]? := List.getElem?_set_ne different.symm
  -- Every process of the new device has the number of the one that was at its place.
  have before {j : Nat} {q : Running} (at_ : (d.leave i s rest).processes[j]? = some q) :
      ∃ r, d.processes[j]? = some r ∧ r.host.pid = q.host.pid := by
    by_cases same : j = i
    · subst same
      obtain rfl := Option.some.inj (here.symm.trans at_)
      exact ⟨p, found, pid.symm⟩
    · exact ⟨q, (there same).symm.trans at_, rfl⟩
  refine ⟨sound, ?_, ?_, ?_⟩
  · intro j k q r atJ atK same
    obtain ⟨_, oldJ, pidJ⟩ := before atJ
    obtain ⟨_, oldK, pidK⟩ := before atK
    exact tended.apart j k _ _ oldJ oldK (pidJ.trans (same.trans pidK.symm))
  · intro other foreign
    have notOwn : other ≠ p.host.pid := fun same => foreign i _ here (pid.trans same.symm)
    refine (others other notOwn).trans (tended.known other fun j q old => ?_)
    by_cases same : j = i
    · subst same
      obtain rfl := Option.some.inj (found.symm.trans old)
      exact notOwn.symm
    · exact foreign j q ((there same).trans old)
  · intro j q atJ
    by_cases same : j = i
    · subst same
      obtain rfl := Option.some.inj (here.symm.trans atJ)
      exact obeys
    · have old := (there same).symm.trans atJ
      have notOwn : q.host.pid ≠ p.host.pid := fun shared =>
        same (tended.apart j i q p old found shared)
      rw [show share q.host.pid (d.leave i s rest).parked = share q.host.pid d.parked from
        others _ notOwn]
      exact tended.keeps j q old

theorem Tended.start (tended : d.Tended) {h : SimulatedHost} (started : h.Started)
    (own : ∀ p ∈ d.processes, p.host.pid ≠ h.pid) :
    Tended { d with processes := d.processes ++ [h.idle] } := by
  have own {i : Nat} {p : Running} (found : d.processes[i]? = some p) : p.host.pid ≠ h.pid :=
    own p (List.mem_of_getElem? found)
  have cases_ {i : Nat} {p : Running} (found : (d.processes ++ [h.idle])[i]? = some p) :
      d.processes[i]? = some p ∨ i = d.processes.length ∧ p = h.idle := by
    rcases Nat.lt_or_ge i d.processes.length with earlier | new
    · exact .inl ((List.getElem?_append_left earlier).symm.trans found)
    · rw [List.getElem?_append_right new] at found
      obtain ⟨index, rfl⟩ := List.getElem?_eq_some_iff.1 found
      simp only [List.length_singleton] at index
      exact .inr ⟨by omega, by simp⟩
  refine ⟨tended.sound, ?_, ?_, ?_⟩
  · intro i j p q atI atJ same
    rcases cases_ atI with oldI | ⟨rfl, rfl⟩
    · rcases cases_ atJ with oldJ | ⟨rfl, rfl⟩
      · exact tended.apart i j p q oldI oldJ same
      · exact absurd same (own oldI)
    · rcases cases_ atJ with oldJ | ⟨rfl, rfl⟩
      · exact absurd same.symm (own oldJ)
      · rfl
  · intro pid foreign
    refine tended.known pid fun i p old => foreign i p ?_
    have short := (List.getElem?_eq_some_iff.1 old).1
    rw [List.getElem?_append_left short, old]
  · intro i p found
    rcases cases_ found with old | ⟨rfl, rfl⟩
    · exact tended.keeps i p old
    · have given := started.blank.pendingToken
      have empty := tended.known h.pid fun i p old => own old
      exact ⟨by simp [SimulatedHost.idle, given, empty], by simp [SimulatedHost.idle, given]⟩

/-- What is true of a device stays true. -/
theorem Reachable.tended (reached : d.Reachable) : d.Tended := by
  induction reached with
  | empty => exact ⟨Parked.sound_empty, by simp, fun _ _ => rfl, by simp⟩
  | @step d d' _ step tended =>
      cases step with
      | start started own => exact tended.start started own
      | @attach i h agent found =>
          have agrees : Own.Agrees ⟨h, share h.pid d.parked⟩ := tended.keeps i _ found
          have obeys : (agent.attach.bind fun _ => Procedure.done ()).Obeys handling
              (fun _ own => own.Agrees) ⟨h, share h.pid d.parked⟩ :=
            (attach_agrees agent agrees).andThen fun _ _ agrees => agrees
          exact tended.leave found (s := ⟨h, { parked := d.parked }⟩)
            ⟨rfl, tended.sound, fun _ _ => rfl⟩ obeys
      | @ask i q next door s found table =>
          have keeps := tended.keeps i _ found
          have sound : s.world.parked.Sound := table ▸ tended.sound
          have seen : (⟨s.host, share s.host.pid d.parked⟩ : Own) = s.own := by
            rw [Scene.own, table]
          rw [seen] at keeps
          obtain ⟨sound', others⟩ := answer_keeps door sound keeps.1
          refine tended.leave found ⟨answer_pid door s, sound', table ▸ others⟩ ?_
          exact keeps.2 _ _ ⟨door, s, sound, rfl, rfl, rfl⟩
      | @restart i s found table =>
          have agrees : s.own.Agrees := by
            rw [Scene.own, table]
            exact tended.keeps i _ found
          have restarted := signalRestart_agrees (table ▸ tended.sound) agrees
          exact tended.leave found (table ▸ restarted.2) restarted.1.2.2

/-- What is promised of a process that no session is attached to. -/
structure Settled (d : Device) (h : SimulatedHost) : Prop where
  /-- Its swaps are parked under the token that its handler holds, and nothing else. -/
  tokens : share h.pid d.parked = h.pendingToken.toList
  /-- So there is at most one. -/
  one : (share h.pid d.parked).length ≤ 1
  /-- A restart finds a swap exactly if one is parked, and none is parked behind it. -/
  restart : ∀ s : Scene SimulatedHost, s.host = h → s.world.parked = d.parked →
    (s.signalRestart.1.isSome ↔ share h.pid d.parked ≠ []) ∧
      share h.pid s.signalRestart.2.world.parked = []

/-- Whatever was attached to whichever process, and however the sessions' steps fell, the token
of a process's handler and the table agree whenever no session is attached to it. -/
theorem settled_of_reachable (reached : d.Reachable) {h : SimulatedHost}
    (found : d.processes[i]? = some h.idle) : d.Settled h := by
  have tended := reached.tended
  have agrees : Own.Agrees ⟨h, share h.pid d.parked⟩ := tended.keeps i _ found
  refine ⟨agrees.tokens, ?_, ?_⟩
  · rw [show share h.pid d.parked = h.pendingToken.toList from agrees.tokens]
    cases h.pendingToken <;> simp
  · rintro s rfl table
    have own : s.own = ⟨s.host, share s.host.pid d.parked⟩ := by rw [Scene.own, table]
    obtain ⟨⟨found, emptied, -⟩, pid, -, -⟩ :=
      signalRestart_agrees (table ▸ tended.sound) (own ▸ agrees)
    rw [own] at found
    refine ⟨found, ?_⟩
    rw [← pid]
    exact emptied

theorem leave_self {s : Scene SimulatedHost} {rest : Procedure Unit}
    (found : d.processes[i]? = some ⟨s.host, rest⟩) (table : s.world.parked = d.parked) :
    d.leave i s rest = d := by
  obtain ⟨short, at_⟩ := List.getElem?_eq_some_iff.1 found
  rw [Device.leave, ← at_, List.set_getElem_self, table]

theorem leave_leave (s s' : Scene SimulatedHost) (rest rest' : Procedure Unit) :
    (d.leave i s rest).leave i s' rest' = d.leave i s' rest' := by
  simp [Device.leave]

/-- A session may run to its end with no step of another process between its own. -/
theorem Reachable.perform {p : Procedure Unit} {s : Scene SimulatedHost} (door : Connector)
    (reached : d.Reachable) (found : d.processes[i]? = some ⟨s.host, p⟩)
    (table : s.world.parked = d.parked) :
    (d.leave i (s.perform door p).2 (.done ())).Reachable := by
  induction p generalizing d s with
  | done a =>
      show (d.leave i s (.done ())).Reachable
      rwa [leave_self found table]
  | ask q next ih =>
      have short := (List.getElem?_eq_some_iff.1 found).1
      have stepped := reached.step (.ask door found table)
      have later := ih (Scene.answer door q s).1 stepped (List.getElem?_set_self short) rfl
      rw [leave_leave] at later
      exact later

end Tending

/-! ## A process that waits -/

/-- A process whose hooked class is transformed, and a controller that wants a swap to wait. -/
def sampleScene : Scene SimulatedHost where
  host := Simulation.Fixture.host 7
  world := { links := #[.frames { toAgent := [(Simulation.Fixture.request true).encode] }] }

/-- An agent that hooks the process. -/
def sampleAgent : Agent :=
  { Simulation.Fixture.agent with plan := { transform := .append "hooked".toUTF8 } }

/-- The process behind its session. -/
def sampleEnd : Scene SimulatedHost :=
  (sampleScene.perform (.ready 0) (sampleAgent.attach.bind fun _ => .done ())).2

/-- A device with this process, when the agent has just attached. -/
def sampleStart : Device :=
  ⟨[⟨sampleScene.host, sampleAgent.attach.bind fun _ => .done ()⟩], sampleScene.world.parked⟩

/-- The device behind the session. -/
def sampleDevice : Device := sampleStart.leave 0 sampleEnd (.done ())

theorem sampleDevice_settled :
    sampleEnd.host.pendingToken = some 1 ∧ share 7 sampleDevice.parked = [1] ∧
      sampleDevice.Settled sampleEnd.host := by
  have started : sampleScene.host.Started := (SimulatedHost.Started.fresh 7).withClass _ _
  have attached : sampleStart.Reachable :=
    (Reachable.empty.step (.start started (by simp))).step (.attach (i := 0) sampleAgent rfl)
  have found : sampleStart.processes[0]? =
    some ⟨sampleScene.host, sampleAgent.attach.bind fun _ => .done ()⟩ := rfl
  have reached : sampleDevice.Reachable := attached.perform (.ready 0) found rfl
  have waiting : sampleEnd.host.pendingToken = some 1 ∧ share 7 sampleDevice.parked = [1] := by
    decide +kernel
  exact ⟨waiting.1, waiting.2, settled_of_reachable (i := 0) reached rfl⟩

end Device

end HotSwap
