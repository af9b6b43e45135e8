/-
# HotSwap.Proofs.Simulated.Share -- a process and its share of the table

The table of parked swaps is shared by all processes; the `share` of a process are the
tokens under which swaps with its number are parked.  `Own` is what can be seen of one
process and its share, and `handling` are the rules about it: a process parks only for
itself, takes out only tokens of its own share, and replaces only its own older swaps.
What each question does to the process and its share is said here once
(`handling_park` and its neighbours), for whatever scene looks so from there; so other
processes may do what they like between two questions.
-/
import HotSwap.Proofs.Handoff.Table
import HotSwap.Proofs.Simulated.Process

namespace HotSwap

set_option autoImplicit false

open Procedure Session

namespace SimulatedHost

/-- Where the handler's call back is bound to the agent's native. -/
def Callable (h : SimulatedHost) : Prop :=
  h.natives.lookup (handlerClass, tryRedefineClasses) = some .tryRedefineClasses

/-- A restart hands the token that is held to the agent's call back. -/
theorem signalRestart_callable {s : Scene SimulatedHost} {token : Int} (hooked : s.host.hooked = true)
    (held : s.host.pendingToken = some token) (callable : s.host.Callable) :
    s.signalRestart =
      ((some (({ s with host := { s.host with pendingToken := none } } : Scene SimulatedHost).perform
          (.refusing .closed) (callNative .tryRedefineClasses [.long token])).1).bind Host.Value.bool?,
        (({ s with host := { s.host with pendingToken := none } } : Scene SimulatedHost).perform
          (.refusing .closed) (callNative .tryRedefineClasses [.long token])).2) := by
  have taken : (if s.host.hooked then s.host.pendingToken else none) = some token := by
    rw [hooked, held]
    rfl
  have bound : ({ s.host with pendingToken := none } : SimulatedHost).natives.lookup
      (handlerClass, tryRedefineClasses) = some .tryRedefineClasses := callable
  simp only [Scene.signalRestart, taken, Scene.invokeNative, bound]

/-- What of a process stays, or is never lost, while no token is handed over. -/
structure Carries (h h' : SimulatedHost) : Prop where
  pid : h'.pid = h.pid
  pendingToken : h'.pendingToken = h.pendingToken
  hooked : h.hooked = true → h'.hooked = true
  callable : h.Callable → h'.Callable

/-- A call that hands no token over, and binds no natives but the agent's. -/
def HandsNothing : HostCall → Prop
  | .callStatic className _ _ => className = markerClass
  | .registerNatives bindings => bindings = nativeBindings
  | _ => True

/-- What such a call leaves of the process. -/
theorem answer_carries {call : HostCall} (nothing : HandsNothing call) (h : SimulatedHost)
    (w : World) : h.Carries (Host.Model.answer call h w).2.1 := by
  have entered : h.Carries h.enter := ⟨rfl, rfl, id, id⟩
  cases call with
  | addCapabilities wanted =>
      show h.Carries (h.enter.addCapabilities wanted).2
      rcases h.enter.addCapabilities_cases wanted with ⟨e, same⟩ | ⟨-, granted⟩
      · rwa [same]
      · rw [granted]
        exact ⟨rfl, rfl, id, id⟩
  | retransformClass name =>
      show h.Carries (h.enter.retransform w name).2.1
      rcases h.enter.retransform_cases w name with
        ⟨e, same, -⟩ | ⟨hooked, classes, registries, still, -, loaded⟩
      · rwa [same]
      · rw [loaded]
        exact ⟨rfl, rfl, still, id⟩
  | redefineClasses changes =>
      show h.Carries (h.enter.redefine changes).2
      rcases h.enter.redefine_cases changes with ⟨e, same⟩ | ⟨classes, redefinitions, -, redefined⟩
      · rwa [same]
      · rw [redefined]
        exact ⟨rfl, rfl, id, id⟩
  | appendToBootstrapSearch archive =>
      show h.Carries (h.enter.appendArchive w archive).2
      rcases h.enter.appendArchive_cases w archive with ⟨e, same⟩ | ⟨classes, -, appended⟩
      · rwa [same]
      · rw [appended]
        exact ⟨rfl, rfl, id, id⟩
  | callStatic className method args =>
      obtain rfl : className = markerClass := nothing
      show h.Carries (h.enter.callStatic markerClass method args).2
      obtain ⟨resident, instrumented, marked⟩ := h.enter.callStatic_marker_cases method args
      rw [marked]
      exact ⟨rfl, rfl, id, id⟩
  | registerNatives bindings =>
      obtain rfl : bindings = nativeBindings := nothing
      show h.Carries (h.enter.registerNatives nativeBindings).2
      rcases h.enter.registerNatives_cases with ⟨e, same⟩ | ⟨natives, updates, bound⟩
      · rwa [same]
      · rw [bound]
        exact ⟨rfl, rfl, id, fun _ => updates.callable⟩
  | _ => exact ⟨rfl, rfl, id, id⟩

/-- A process keeps its number. -/
theorem answer_pid (call : HostCall) (h : SimulatedHost) (w : World) :
    (Host.Model.answer call h w).2.1.pid = h.pid := by
  by_cases nothing : HandsNothing call
  · exact (answer_carries nothing h w).pid
  cases call with
  | callStatic className method args =>
      have other : className ≠ markerClass := nothing
      obtain ⟨token, called⟩ := h.enter.callStatic_other_cases other method args
      show (h.enter.callStatic className method args).2.pid = h.pid
      rw [called]
      rfl
  | registerNatives bindings =>
      obtain ⟨natives, bound⟩ := h.enter.registerNatives_frame bindings
      show (h.enter.registerNatives bindings).2.pid = h.pid
      rw [bound]
      rfl
  | _ => exact absurd trivial nothing

/-- No call touches anything of the world but the registries. -/
theorem answer_frame (call : HostCall) (h : SimulatedHost) (w : World) :
    ∃ registries, (Host.Model.answer call h w).2.2 = { w with registries := registries } := by
  cases call with
  | retransformClass name =>
      show ∃ registries, (h.enter.retransform w name).2.2 = _
      rcases h.enter.retransform_cases w name with
        ⟨e, same, -⟩ | ⟨_, _, registries, -, -, loaded⟩
      · rw [same]
        exact ⟨w.registries, rfl⟩
      · rw [loaded]
        exact ⟨registries, rfl⟩
  | _ => exact ⟨w.registries, rfl⟩

theorem answer_parked (call : HostCall) (h : SimulatedHost) (w : World) :
    (Host.Model.answer call h w).2.2.parked = w.parked := by
  obtain ⟨registries, frame⟩ := answer_frame call h w
  rw [frame]

theorem answer_files (call : HostCall) (h : SimulatedHost) (w : World) :
    (Host.Model.answer call h w).2.2.files = w.files := by
  obtain ⟨registries, frame⟩ := answer_frame call h w
  rw [frame]

theorem answer_links (call : HostCall) (h : SimulatedHost) (w : World) :
    (Host.Model.answer call h w).2.2.links = w.links := by
  obtain ⟨registries, frame⟩ := answer_frame call h w
  rw [frame]

end SimulatedHost

/-! ## Shares of the table -/

/-- The tokens under which swaps of a process are parked. -/
def share (pid : UInt32) (t : Parked) : List Int :=
  (t.swaps.filter fun entry => entry.2.pid == pid).map (·.1)

namespace Parked

variable {t : Parked} {pid : UInt32} {token : Int}

theorem mem_share : token ∈ share pid t ↔ ∃ swap, (token, swap) ∈ t.swaps ∧ swap.pid = pid := by
  simp [share]

theorem share_park (swap : PendingSwap) :
    share pid (t.park swap).2 = if swap.pid = pid then share pid t ++ [t.next] else share pid t := by
  by_cases own : swap.pid = pid <;> simp [share, park, own]

theorem share_take (token : Int) :
    share pid (t.take token).2 = (share pid t).filter (· != token) := by
  simp only [share, take, List.filter_map, List.filter_filter]
  congr 1
  exact List.filter_congr fun entry _ => Bool.and_comm ..

theorem share_takeSuperseded (current : Int) :
    share pid (t.takeSuperseded pid current).2 = (share pid t).filter (· == current) := by
  simp only [share, takeSuperseded, List.filter_map, List.filter_filter]
  congr 1
  refine List.filter_congr fun entry _ => ?_
  cases own : entry.2.pid == pid <;> simp [isStale, own, bne]

theorem share_takeSuperseded_of_ne {other : UInt32} (different : other ≠ pid) (current : Int) :
    share other (t.takeSuperseded pid current).2 = share other t := by
  simp only [share, takeSuperseded, List.filter_filter]
  congr 1
  refine List.filter_congr fun entry _ => ?_
  by_cases same : entry.2.pid = other
  · simp [isStale, same, different]
  · simp [same]

/-- The token that is issued next is in no share. -/
theorem Sound.next_not_mem_share (sound : t.Sound) : t.next ∉ share pid t := by
  intro member
  obtain ⟨swap, member, -⟩ := mem_share.1 member
  exact absurd (sound.above _ member) (Int.lt_irrefl _)

/-- A token is in the share of one process only. -/
theorem Sound.share_take_of_ne (sound : t.Sound) (own : token ∈ share pid t) {other : UInt32}
    (different : other ≠ pid) : share other (t.take token).2 = share other t := by
  rw [share_take]
  refine List.filter_eq_self.2 fun number member => ?_
  have apart : number ≠ token := by
    rintro rfl
    obtain ⟨swap, one, rfl⟩ := mem_share.1 own
    obtain ⟨swap', two, rfl⟩ := mem_share.1 member
    exact different (by rw [sound.ordered.swap_eq one two])
  simpa using apart

end Parked

/-! ## One process and its share -/

/-- A process with the tokens under which its swaps are parked. -/
structure Own where
  host : SimulatedHost
  tokens : List Int

/-- The process of a scene, with its share of the table. -/
def Scene.own (s : Scene SimulatedHost) : Own := ⟨s.host, share s.host.pid s.world.parked⟩

/-- The rules of one who looks at a process and its share of the table: it touches no share but
its own, and is answered as in any scene that looks so. -/
def handling : Rules Own where
  allows own
    | .park swap => swap.pid = own.host.pid
    | .take token => token ∈ own.tokens
    | .takeSuperseded pid _ => pid = own.host.pid
    | _ => True
  answers own q answer own' :=
    ∃ (door : Connector) (s : Scene SimulatedHost), s.world.parked.Sound ∧ s.own = own ∧
      (Scene.answer door q s).1 = answer ∧ (Scene.answer door q s).2.own = own'

section Answers

variable {own own' : Own}

theorem handling_host {call : HostCall} {answer : call.Answer}
    (nothing : SimulatedHost.HandsNothing call) (answers : handling.answers own (.host call) answer own') :
    own.host.Carries own'.host ∧ own'.tokens = own.tokens := by
  obtain ⟨door, s, -, rfl, -, rfl⟩ := answers
  have carries := SimulatedHost.answer_carries nothing s.host s.world
  refine ⟨carries, ?_⟩
  show share (Host.Model.answer call s.host s.world).2.1.pid
    (Host.Model.answer call s.host s.world).2.2.parked = share s.host.pid s.world.parked
  rw [carries.pid, SimulatedHost.answer_parked]

theorem handling_processId {answer : UInt32}
    (answers : handling.answers own (.host .processId) answer own') :
    answer = own.host.pid ∧ own' = own := by
  obtain ⟨door, s, -, rfl, rfl, rfl⟩ := answers
  exact ⟨rfl, rfl⟩

theorem handling_prepareForHotSwap {token : Int} {answer : Except Host.Error Host.Value}
    (answers : handling.answers own
      (.host (.callStatic handlerClass prepareForHotSwap [.long token])) answer own') :
    (∃ e, answer = .error e ∧ own' = ⟨own.host.enter, own.tokens⟩) ∨
      own.host.hooked = true ∧ answer = .ok .void ∧
        own' = ⟨{ own.host.enter with pendingToken := some token }, own.tokens⟩ := by
  obtain ⟨door, s, -, rfl, rfl, rfl⟩ := answers
  have called : (Scene.answer door
      (.host (.callStatic handlerClass prepareForHotSwap [.long token])) s) =
        let result := s.host.enter.callStatic handlerClass prepareForHotSwap [.long token]
        (result.1, ⟨result.2, s.world⟩) := rfl
  rw [called]
  rcases s.host.enter.callStatic_prepareForHotSwap_cases token with ⟨e, same⟩ | ⟨hooked, handed⟩
  · rw [same]
    exact .inl ⟨e, rfl, rfl⟩
  · rw [handed]
    exact .inr ⟨hooked, rfl, rfl⟩

theorem handling_registerNatives
    (answers : handling.answers own (.host (.registerNatives nativeBindings)) (.ok ()) own') :
    own'.host.Callable := by
  obtain ⟨door, s, -, rfl, bound, rfl⟩ := answers
  have called : (Scene.answer door (.host (.registerNatives nativeBindings)) s) =
        let result := s.host.enter.registerNatives nativeBindings
        (result.1, ⟨result.2, s.world⟩) := rfl
  rw [called] at bound ⊢
  rcases s.host.enter.registerNatives_cases with ⟨e, same⟩ | ⟨natives, updates, done⟩
  · simp [same] at bound
  · rw [done]
    exact updates.callable

/-- Asked of nobody who knows the process or the table. -/
def Aside : Question → Prop
  | .host _ | .park _ | .take _ | .takeSuperseded .. => False
  | _ => True

/-- What is done on a connection touches nothing but the connections. -/
theorem onLink_frame {α : Type} (w : World) (link : LinkId) (absent : α)
    (change : Link → α × Link) :
    ∃ links, (w.onLink link absent change).2 = { w with links := links } := by
  unfold World.onLink
  cases w.links[link]? <;> exact ⟨_, rfl⟩

theorem onLink_parked {α : Type} (w : World) (link : LinkId) (absent : α)
    (change : Link → α × Link) : (w.onLink link absent change).2.parked = w.parked := by
  obtain ⟨links, frame⟩ := onLink_frame w link absent change
  rw [frame]

theorem onLink_files {α : Type} (w : World) (link : LinkId) (absent : α)
    (change : Link → α × Link) : (w.onLink link absent change).2.files = w.files := by
  obtain ⟨links, frame⟩ := onLink_frame w link absent change
  rw [frame]

theorem onLink_registries {α : Type} (w : World) (link : LinkId) (absent : α)
    (change : Link → α × Link) : (w.onLink link absent change).2.registries = w.registries := by
  obtain ⟨links, frame⟩ := onLink_frame w link absent change
  rw [frame]

theorem connect_parked (door : Connector) (w : World) : (door.connect w).2.parked = w.parked := by
  cases door with
  | exchange id =>
      show (w.pickUp id).2.parked = w.parked
      unfold World.pickUp
      split <;> rfl
  | _ => rfl

/-- What is asked aside changes neither the process nor the table. -/
theorem answer_aside {q : Question} (aside : Aside q) (door : Connector) (s : Scene SimulatedHost) :
    (Scene.answer door q s).2.host = s.host ∧
      (Scene.answer door q s).2.world.parked = s.world.parked := by
  cases q with
  | connect => exact ⟨rfl, connect_parked door s.world⟩
  | receive link => exact ⟨rfl, onLink_parked ..⟩
  | send link frame => exact ⟨rfl, onLink_parked ..⟩
  | hangUp link => exact ⟨rfl, onLink_parked ..⟩
  | deposit dir payload => simp [Scene.answer]
  | openRegistry className transform => exact ⟨rfl, rfl⟩
  | emptyRegistry id => exact ⟨rfl, rfl⟩
  | _ => cases aside

/-- No question mixes up the tokens of the table, or gives one twice. -/
theorem answer_sound (q : Question) (door : Connector) {s : Scene SimulatedHost}
    (sound : s.world.parked.Sound) : (Scene.answer door q s).2.world.parked.Sound := by
  by_cases aside : Aside q
  · rwa [(answer_aside aside door s).2]
  cases q with
  | host call =>
      show (Host.Model.answer call s.host s.world).2.2.parked.Sound
      rwa [SimulatedHost.answer_parked]
  | park swap => exact sound.park swap
  | take token => exact sound.takesOut (Parked.take_takesOut sound.ordered token)
  | takeSuperseded pid current =>
      exact sound.takesOut (s.world.parked.supersedes pid current).takesOut
  | _ => exact absurd trivial aside

/-- Nothing but a deposit changes the files of a scene. -/
theorem answer_files (door : Connector) (q : Question) (s : Scene SimulatedHost)
    (other : ∀ dir payload, q ≠ .deposit dir payload) :
    (Scene.answer door q s).2.world.files = s.world.files := by
  cases q with
  | host call => exact SimulatedHost.answer_files call s.host s.world
  | connect =>
      cases door with
      | exchange id =>
          show (s.world.pickUp id).2.files = _
          unfold World.pickUp
          split <;> rfl
      | _ => rfl
  | receive link | hangUp link | send link _ => exact onLink_files ..
  | deposit dir payload => exact absurd rfl (other dir payload)
  | _ => rfl

theorem handling_aside {q : Question} {answer : q.Answer} (aside : Aside q)
    (answers : handling.answers own q answer own') : own' = own := by
  obtain ⟨door, s, -, rfl, -, rfl⟩ := answers
  obtain ⟨host, table⟩ := answer_aside aside door s
  simp only [Scene.own, host, table]

theorem handling_park {swap : PendingSwap} {token : Int} (pid : swap.pid = own.host.pid)
    (answers : handling.answers own (.park swap) token own') :
    token ∉ own.tokens ∧ own' = ⟨own.host, own.tokens ++ [token]⟩ := by
  obtain ⟨door, s, sound, rfl, rfl, rfl⟩ := answers
  refine ⟨sound.next_not_mem_share, ?_⟩
  show (⟨s.host, share s.host.pid (s.world.parked.park swap).2⟩ : Own) = _
  rw [Parked.share_park, if_pos (show swap.pid = s.host.pid from pid)]
  rfl

theorem handling_take {token : Int} {swap : Option PendingSwap}
    (answers : handling.answers own (.take token) swap own') :
    own' = ⟨own.host, own.tokens.filter (· != token)⟩ := by
  obtain ⟨door, s, -, rfl, -, rfl⟩ := answers
  show (⟨s.host, share s.host.pid (s.world.parked.take token).2⟩ : Own) = _
  rw [Parked.share_take]
  rfl

theorem handling_takeSuperseded {current : Int} {swaps : List PendingSwap}
    (answers : handling.answers own (.takeSuperseded own.host.pid current) swaps own') :
    own' = ⟨own.host, own.tokens.filter (· == current)⟩ := by
  obtain ⟨door, s, -, rfl, -, rfl⟩ := answers
  show (⟨s.host, share s.host.pid (s.world.parked.takeSuperseded s.host.pid current).2⟩ : Own) = _
  rw [Parked.share_takeSuperseded]
  rfl

end Answers

end HotSwap
