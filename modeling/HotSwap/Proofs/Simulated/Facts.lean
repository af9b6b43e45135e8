/-
# HotSwap.Proofs.Simulated.Facts -- what a process keeps for its lifetime

The `Facts` of a simulated process are what outlives a session in it: the abilities that
it granted, the archives of its bootstrap loader, what its marker says, how often classes
were loaded again, and whether a load hook and load notification are on.  `seeing` are
the rules of one who sees nothing else of the process, and nothing of the world.

Every call that can change a fact has one lemma here that says all it can do.  The rest
is `Unmoved`: the swap itself, parking, the binding of natives and everything that is not
asked of the process leave the facts as they are, so a procedure that asks nothing else is
passed over as a whole (`unmoved_andThen`).
-/
import HotSwap.Proofs.Files.PayloadName
import HotSwap.Proofs.Simulated.Share

namespace HotSwap

set_option autoImplicit false

open Procedure Session

/-- What outlives a session in a process. -/
structure Facts where
  potential : Capabilities
  granted : Capabilities
  /-- Whether the marker class is loaded. -/
  marked : Bool
  archives : List String
  resident : Option String
  instrumented : Bool
  retransforms : List (String × Nat)
  hookless : Bool
  notification : Bool

/-- The facts of a process. -/
def SimulatedHost.facts (h : SimulatedHost) : Facts where
  potential := h.potential
  granted := h.granted
  marked := h.isLoaded markerClass
  archives := h.archives
  resident := h.residentFingerprint
  instrumented := h.instrumented
  retransforms := h.retransforms
  hookless := h.hook.isNone
  notification := h.notification

/-- The rules of one who sees only the facts of a process: it may be asked anything, and
answers as any process with these facts does, in any world. -/
def seeing : Rules Facts where
  allows _ _ := True
  answers facts q answer facts' :=
    ∃ (door : Connector) (s : Scene SimulatedHost), s.host.facts = facts ∧
      (Scene.answer door q s).1 = answer ∧ (Scene.answer door q s).2.host.facts = facts'

variable {f f' : Facts}

/-! ## Calls that may change a fact -/

theorem seeing_addCapabilities {wanted : Capabilities} {answer : Except Host.Error Unit}
    (answers : seeing.answers f (.host (.addCapabilities wanted)) answer f') :
    f' = f ∨ f.potential.Covers wanted ∧ f' = { f with granted := f.granted.union wanted } := by
  obtain ⟨door, s, rfl, -, rfl⟩ := answers
  show (s.host.enter.addCapabilities wanted).2.facts = _ ∨
    _ ∧ (s.host.enter.addCapabilities wanted).2.facts = _
  rcases s.host.enter.addCapabilities_cases wanted with ⟨e, same⟩ | ⟨covers, granted⟩
  · rw [same]
    exact .inl rfl
  · rw [granted]
    exact .inr ⟨covers, rfl⟩

theorem seeing_setLoadHook {hook : Option LoadHook} {answer : Except Host.Error Unit}
    (answers : seeing.answers f (.host (.setLoadHook hook)) answer f') :
    answer = .ok () ∧ f' = { f with hookless := hook.isNone } := by
  obtain ⟨door, s, rfl, rfl, rfl⟩ := answers
  exact ⟨rfl, rfl⟩

theorem seeing_setLoadNotification {enabled : Bool} {answer : Except Host.Error Unit}
    (answers : seeing.answers f (.host (.setLoadNotification enabled)) answer f') :
    answer = .ok () ∧ f' = { f with notification := enabled } := by
  obtain ⟨door, s, rfl, rfl, rfl⟩ := answers
  exact ⟨rfl, rfl⟩

theorem seeing_retransformClass {name : String} {answer : Except Host.Error Unit}
    (answers : seeing.answers f (.host (.retransformClass name)) answer f') :
    (∃ e, answer = .error e) ∧ f' = f ∨
      answer = .ok () ∧
        f' = { f with
          retransforms :=
            assign name ((f.retransforms.lookup name).getD 0 + 1) f.retransforms } := by
  obtain ⟨door, s, rfl, rfl, rfl⟩ := answers
  show (∃ e, (s.host.enter.retransform s.world name).1 = _) ∧
    (s.host.enter.retransform s.world name).2.1.facts = _ ∨
      (s.host.enter.retransform s.world name).1 = _ ∧
        (s.host.enter.retransform s.world name).2.1.facts = _
  rcases s.host.enter.retransform_cases s.world name with
    ⟨e, same, -⟩ | ⟨hooked, classes, registries, -, loaded, again⟩
  · rw [same]
    exact .inl ⟨⟨e, rfl⟩, rfl⟩
  · rw [again]
    refine .inr ⟨rfl, ?_⟩
    have marked : (classes.lookup markerClass).isSome = s.host.isLoaded markerClass := loaded _
    simp [SimulatedHost.facts, SimulatedHost.isLoaded, SimulatedHost.retransformCount, marked,
      SimulatedHost.enter]

theorem seeing_appendToBootstrapSearch {path : String} {answer : Except Host.Error Unit}
    (answers : seeing.answers f (.host (.appendToBootstrapSearch path)) answer f') :
    (∃ e, answer = .error e) ∧ f' = f ∨
      answer = .ok () ∧ f' = { f with archives := f.archives ++ [path], marked := true } := by
  obtain ⟨door, s, rfl, rfl, rfl⟩ := answers
  show (∃ e, (s.host.enter.appendArchive s.world path).1 = _) ∧
    (s.host.enter.appendArchive s.world path).2.facts = _ ∨
      (s.host.enter.appendArchive s.world path).1 = _ ∧
        (s.host.enter.appendArchive s.world path).2.facts = _
  rcases s.host.enter.appendArchive_cases s.world path with ⟨e, same⟩ | ⟨classes, loaded, appended⟩
  · rw [same]
    exact .inl ⟨⟨e, rfl⟩, rfl⟩
  · rw [appended]
    refine .inr ⟨rfl, ?_⟩
    have marked : (classes.lookup markerClass).isSome = true := by simp [loaded]
    simp [SimulatedHost.facts, SimulatedHost.isLoaded, marked, SimulatedHost.enter]

/-! ## The marker -/

/-- The first build to ask claims the process, and any other is told no. -/
theorem seeing_checkHash {build : Fingerprint} {answer : Except Host.Error Host.Value}
    (marked : f.marked = true)
    (answers : seeing.answers f
      (.host (.callStatic markerClass checkHash [.str build.hex])) answer f') :
    f.resident.isSome ∧ f' = f ∨
      f.resident = none ∧ answer = .ok (.bool true) ∧
        f' = { f with resident := some build.hex } := by
  obtain ⟨door, s, rfl, rfl, rfl⟩ := answers
  have loaded : s.host.enter.isLoaded markerClass = true := marked
  have called : s.host.enter.callStatic markerClass checkHash [.str build.hex] =
      s.host.enter.checkHash [.str build.hex] := by
    simp [SimulatedHost.callStatic, loaded]
  show _ ∧ (s.host.enter.callStatic markerClass checkHash [.str build.hex]).2.facts = _ ∨
    _ ∧ (s.host.enter.callStatic markerClass checkHash [.str build.hex]).1 = _ ∧
      (s.host.enter.callStatic markerClass checkHash [.str build.hex]).2.facts = _
  rw [called]
  have entered : s.host.enter.residentFingerprint = s.host.residentFingerprint := rfl
  cases resident : s.host.residentFingerprint with
  | some hex => exact .inl ⟨by simp [SimulatedHost.facts, resident],
      by simp [SimulatedHost.checkHash, entered, resident]; rfl⟩
  | none => exact .inr ⟨resident, by simp [SimulatedHost.checkHash, entered, resident],
      by simp [SimulatedHost.checkHash, entered, resident]; rfl⟩

theorem seeing_isFinishedInstrumenting {answer : Except Host.Error Host.Value}
    (marked : f.marked = true)
    (answers : seeing.answers f
      (.host (.callStatic markerClass isFinishedInstrumenting [])) answer f') :
    answer = .ok (.bool f.instrumented) ∧ f' = f := by
  obtain ⟨door, s, rfl, rfl, rfl⟩ := answers
  have loaded : s.host.enter.isLoaded markerClass = true := marked
  have called : s.host.enter.callStatic markerClass isFinishedInstrumenting [] =
      (.ok (.bool s.host.enter.instrumented), s.host.enter) := by
    simp [SimulatedHost.callStatic, loaded, isFinishedInstrumenting, checkHash]
  show (s.host.enter.callStatic markerClass isFinishedInstrumenting []).1 = _ ∧
    (s.host.enter.callStatic markerClass isFinishedInstrumenting []).2.facts = _
  rw [called]
  exact ⟨rfl, rfl⟩

theorem seeing_setFinishedInstrumenting {answer : Except Host.Error Host.Value}
    (marked : f.marked = true)
    (answers : seeing.answers f
      (.host (.callStatic markerClass setFinishedInstrumenting [])) answer f') :
    answer = .ok .void ∧ f' = { f with instrumented := true } := by
  obtain ⟨door, s, rfl, rfl, rfl⟩ := answers
  have loaded : s.host.enter.isLoaded markerClass = true := marked
  have called : s.host.enter.callStatic markerClass setFinishedInstrumenting [] =
      (.ok .void, { s.host.enter with instrumented := true }) := by
    simp [SimulatedHost.callStatic, loaded, isFinishedInstrumenting, checkHash,
      setFinishedInstrumenting]
  show (s.host.enter.callStatic markerClass setFinishedInstrumenting []).1 = _ ∧
    (s.host.enter.callStatic markerClass setFinishedInstrumenting []).2.facts = _
  rw [called]
  exact ⟨rfl, rfl⟩

/-! ## What changes no fact -/

/-- What leaves the facts as they are. -/
def Unmoved : Question → Prop
  | .host (.callStatic className _ _) => className ≠ markerClass
  | .host (.addCapabilities _) | .host (.setLoadHook _) | .host (.setLoadNotification _)
  | .host (.retransformClass _) | .host (.appendToBootstrapSearch _) => False
  | _ => True

theorem seeing_unmoved {q : Question} {answer : q.Answer} (unmoved : Unmoved q)
    (answers : seeing.answers f q answer f') : f' = f := by
  obtain ⟨door, s, rfl, -, rfl⟩ := answers
  by_cases aside : Aside q
  · rw [(answer_aside aside door s).1]
  cases q with
  | host call =>
      cases call with
      | potentialCapabilities => rfl
      | findClass name => rfl
      | processId => rfl
      | redefineClasses changes =>
          show (s.host.enter.redefine changes).2.facts = _
          rcases s.host.enter.redefine_cases changes with
            ⟨e, same⟩ | ⟨classes, redefinitions, loaded, redefined⟩
          · rw [same]
            rfl
          · rw [redefined]
            have marked : (classes.lookup markerClass).isSome = s.host.isLoaded markerClass :=
              loaded _
            simp [SimulatedHost.facts, SimulatedHost.isLoaded, marked, SimulatedHost.enter]
      | callStatic className method args =>
          obtain ⟨token, called⟩ := s.host.enter.callStatic_other_cases unmoved method args
          show (s.host.enter.callStatic className method args).2.facts = _
          rw [called]
          rfl
      | registerNatives bindings =>
          obtain ⟨natives, bound⟩ := s.host.enter.registerNatives_frame bindings
          show (s.host.enter.registerNatives bindings).2.facts = _
          rw [bound]
          rfl
      | _ => cases unmoved
  | park swap => rfl
  | take token => rfl
  | takeSuperseded pid current => rfl
  | _ => exact absurd trivial aside

/-- The marker resolves exactly if it is loaded. -/
theorem seeing_findClass {found : Bool}
    (answers : seeing.answers f (.host (.findClass markerClass)) found f') :
    found = f.marked ∧ f' = f := by
  refine ⟨?_, seeing_unmoved (q := .host (.findClass markerClass)) trivial answers⟩
  obtain ⟨door, s, rfl, rfl, -⟩ := answers
  rfl

/-- A payload is put where its build says, in the directory that was named. -/
theorem seeing_deposit {dir : String} {payload : Payload} {path : String}
    (answers : seeing.answers f (.deposit dir payload) (.ok path) f') :
    path = Depot.target dir payload := by
  obtain ⟨door, s, -, stored, -⟩ := answers
  simp only [Scene.answer] at stored
  exact Depot.path_of_deposit stored

/-! ## Procedures that change no fact -/

section Procedures

variable {α : Type}

/-- What is asked without a change of the facts, and what comes behind it. -/
theorem unmoved_andThen {q : Question} {next : q.Answer → Procedure α} {post : α → Facts → Prop}
    (unmoved : Unmoved q) (later : ∀ answer, (next answer).Obeys seeing post f) :
    (ask q next).Obeys seeing post f := by
  refine ⟨trivial, fun answer f' answers => ?_⟩
  rw [seeing_unmoved unmoved answers]
  exact later answer

/-- A procedure that changes no fact leaves them all. -/
theorem unmoved_obeys {p : Procedure α} (asks : p.Asks Unmoved) :
    p.Obeys seeing (fun _ f' => f' = f) f := by
  refine Obeys.of_asks asks (fun _ _ _ _ => trivial) ?_ rfl
  intro q f' answer f'' unmoved same answers
  rw [seeing_unmoved unmoved answers, same]

theorem bindNatives_unmoved : bindNatives.Asks Unmoved :=
  ⟨trivial, fun answer => by rcases answer with cause | _ <;> trivial⟩

theorem execute_unmoved (request : Request) : (execute request).Asks Unmoved :=
  ⟨trivial, fun _ => ⟨trivial, fun answer => by rcases answer with cause | _ <;> trivial⟩⟩

theorem abandon_unmoved (swap : PendingSwap) (detail : ErrorDetail) :
    (abandon swap detail).Asks Unmoved :=
  ⟨trivial, fun _ => ⟨trivial, fun _ => trivial⟩⟩

theorem abandonAll_unmoved (swaps : List PendingSwap) : (abandonAll swaps).Asks Unmoved := by
  induction swaps with
  | nil => trivial
  | cons swap rest ih => exact (abandon_unmoved swap superseded).bind fun _ => ih

theorem takeBack_unmoved (token : Int) (cause : Host.Error) :
    (takeBack token cause).Asks Unmoved := by
  refine ⟨trivial, fun swap => ?_⟩
  cases swap with
  | none => trivial
  | some swap => exact abandon_unmoved swap _

theorem transfer_unmoved (request : Request) (link : LinkId) :
    (transfer request link).Asks Unmoved := by
  refine ⟨trivial, fun pid => ⟨trivial, fun sent => ?_⟩⟩
  rcases sent with e | _
  · exact ⟨trivial, fun _ => trivial⟩
  have handler : handlerClass ≠ markerClass := by decide
  refine ⟨trivial, fun token => ⟨handler, fun accepted => ?_⟩⟩
  rcases accepted with cause | _
  · exact (takeBack_unmoved token cause).bind fun _ => trivial
  · exact ⟨trivial, fun swaps => (abandonAll_unmoved swaps).bind fun _ => trivial⟩

theorem complete_unmoved (swap : PendingSwap) : (complete swap).Asks Unmoved := by
  have responded : (executeAndRespond swap.request swap.link).Asks Unmoved :=
    (execute_unmoved swap.request).bind fun response =>
      ⟨trivial, fun sent => by rcases sent with e | _ <;> trivial⟩
  exact responded.bind fun result =>
    ⟨trivial, fun _ => by rcases result with e | response <;> trivial⟩

/-- Whatever native is called, the facts stay. -/
theorem callNative_unmoved (native : Native) (args : List Host.Value) :
    (callNative native args).Asks Unmoved := by
  cases native with
  | applicationInfoChanged => trivial
  | foreign answer => trivial
  | tryRedefineClasses =>
      show (redefineParked args).Asks Unmoved
      unfold redefineParked
      cases args.head?.bind Host.Value.long? with
      | none => trivial
      | some token =>
          refine ⟨trivial, fun swap => ?_⟩
          cases swap with
          | none => trivial
          | some swap => exact (complete_unmoved swap).bind fun _ => trivial

end Procedures

/-! ## Scenes -/

section Scenes

variable {s : Scene SimulatedHost}

/-- A procedure that is shown right for all answers of processes with the facts of this one is
right when it is played in it. -/
theorem perform_seeing {α : Type} {p : Procedure α} {post : α → Facts → Prop} (door : Connector)
    (obeys : p.Obeys seeing post s.host.facts) :
    post (s.perform door p).1 (s.perform door p).2.host.facts := by
  have sees (q : Question) (t : Scene SimulatedHost) (_ : True) (_ : seeing.allows t.host.facts q) :
      seeing.answers t.host.facts q (Scene.answer door q t).1 (Scene.answer door q t).2.host.facts ∧
        True :=
    ⟨⟨door, t, rfl, rfl, rfl⟩, trivial⟩
  exact (obeys.run sees trivial).1

/-- A restart changes no fact. -/
theorem signalRestart_facts : s.signalRestart.2.host.facts = s.host.facts := by
  unfold Scene.signalRestart
  cases if s.host.hooked then s.host.pendingToken else none with
  | none => rfl
  | some token =>
      dsimp only
      unfold Scene.invokeNative
      dsimp only
      cases s.host.natives.lookup (handlerClass, tryRedefineClasses) with
      | none => rfl
      | some native =>
          exact perform_seeing _ (unmoved_obeys (callNative_unmoved native [.long token]))

end Scenes

end HotSwap
