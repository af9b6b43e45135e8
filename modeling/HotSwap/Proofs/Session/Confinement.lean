/-
# HotSwap.Proofs.Session.Confinement -- where a session may put its payload

Below an application's root the payload lies in a directory that is called by the package, and the
package is named by the controller.  What the decoder lets through is one component of a path, by
the rules that `PayloadDir.resolve` reads paths by (`Request.components_of_decode`), so no session
fails for want of a directory, and none reaches another place.

`MayStore` is what a session keeps to: it puts its own payload on disk, in the directory of the
request that it read, and only once.  So all it leaves on disk is what one deposit leaves, or
nothing (`attach_stores`), and of files that is the payload's own at most (`attach_confined`),
whatever the controller, the host and the disk answer.
-/
import HotSwap.Proofs.Files.Storing
import HotSwap.Proofs.Message.Codec
import HotSwap.Proofs.Playing
import HotSwap.Proofs.Session.CallOrder
import HotSwap.Proofs.Session.Preparation
import HotSwap.Proofs.Simulated.Share

namespace HotSwap

set_option autoImplicit false

open Procedure

/-! ## Package names that are let through -/

namespace Request

variable {frame : ByteArray} {request : Request}

/-- The name of a package that is let through has a character that is no blank, and is plain. -/
theorem plain_of_decode (decoded : decode frame = .ok request) :
    Named request.packageName ∧ PlainName request.packageName := by
  obtain ⟨-, s, -, -, passed⟩ := parsed_of_decode decoded
  unfold check at passed
  split at passed
  · cases passed
  rename_i blank
  split at passed
  · rename_i plain
    obtain rfl := Except.ok.inj passed
    exact ⟨Decidable.not_not.1 (mt (isAllBlank_iff _).2 blank), (isPlainName_iff _).1 plain⟩
  · cases passed

theorem Named.ne_empty {name : String} (named : Named name) : name ≠ "" := by
  rintro rfl
  obtain ⟨c, member, -⟩ := named
  simp at member

theorem PlainName.ne_up {name : String} (plain : PlainName name) : name ≠ ".." := by
  rintro rfl
  exact plain.noDoubleDot (by decide)

/-- It is one component of a path, the name itself. -/
theorem components_of_decode (decoded : decode frame = .ok request) :
    Path.components request.packageName = [.name request.packageName] := by
  obtain ⟨named, plain⟩ := plain_of_decode decoded
  have joined := Path.components_join "" plain.noSlash named.ne_empty
    ⟨plain.notHere, plain.ne_up⟩
  have relative := Path.isAbsolute_of_plain plain.noSlash
  have alone : Path.join "" request.packageName = request.packageName := by
    simp [Path.join, relative]
  rw [alone] at joined
  exact joined

/-- Below the root of an application its package has a directory of its own. -/
theorem resolve_of_decode (decoded : decode frame = .ok request) (root : String) :
    (PayloadDir.appPrivate root).resolve request.packageName =
      some (Path.join (Path.join root request.packageName) ".studio") := by
  simp only [PayloadDir.resolve, components_of_decode decoded]
  rfl

/-- So there is a directory, wherever payloads are kept. -/
theorem resolves_of_decode (decoded : decode frame = .ok request) (payloads : PayloadDir) :
    ∃ dir, payloads.resolve request.packageName = some dir := by
  cases payloads with
  | appPrivate root => exact ⟨_, resolve_of_decode decoded root⟩
  | fixed dir => exact ⟨dir, rfl⟩

end Request

namespace Session

variable {agent : Agent} {past log : List Event} {progress : Progress} {t t' : FileTree}

/-! ## What a session asks of the disk -/

/-- A question to put something on disk. -/
def Deposits (q : Question) : Prop := ∃ dir payload, q = .deposit dir payload

/-- What must lie behind a session that puts something on disk. -/
def MayStore (agent : Agent) (past : List Event) : Question → Prop
  | .deposit dir payload =>
      payload = agent.payload ∧
        (∃ request, Accepted request past ∧
          agent.payloadDir.resolve request.packageName = some dir) ∧
        ∀ event ∈ past, ¬ Deposits event.question
  | _ => True

/-- A session did not fail because there is no directory. -/
def Placed {α : Type} (result : Except AttachError α) : Prop :=
  ∀ name, result ≠ .error (.install (.payloadDir name))

/-- A request was read, and nothing was put on disk yet. -/
structure Unstored (request : Request) (past : List Event) : Prop where
  accepted : Accepted request past
  unstored : ∀ event ∈ past, ¬ Deposits event.question

theorem Unstored.concat {request : Request} {event : Event} (unstored : Unstored request past)
    (other : ¬ Deposits event.question) : Unstored request (past ++ [event]) := by
  obtain ⟨⟨link, frame, read, decoded⟩, unstored⟩ := unstored
  refine ⟨⟨link, frame, List.mem_append_left _ read, decoded⟩, fun e member => ?_⟩
  rcases List.mem_append.1 member with old | new
  · exact unstored e old
  · obtain rfl := List.mem_singleton.1 new
    exact other

theorem mayStore_of_not {q : Question} (other : ¬ Deposits q) : MayStore agent past q := by
  cases q with
  | deposit dir payload => exact absurd ⟨dir, payload, rfl⟩ other
  | _ => trivial

section Parts

variable {α β ε : Type} {wrap : ε → AttachError} {p : Procedure (Except ε α)} {f : α → Stage β}

theorem aside_obeys {p : Procedure α} (asks : p.Asks fun q => ¬ Deposits q) (past : List Event) :
    p.Obeys (Rules.past (MayStore agent)) (fun _ _ => True) past :=
  Obeys.of_asks asks (fun _ _ other _ => mayStore_of_not other) (fun _ _ _ _ _ _ _ => trivial)
    trivial

/-- A part of a session that puts nothing on disk, and what comes behind it. -/
theorem attempt_aside (asks : p.Asks fun q => ¬ Deposits q)
    (placed : ∀ e, Placed (.error (wrap e) : Except AttachError β))
    (later : ∀ a past, (f a progress).Obeys (Rules.past (MayStore agent)) (fun r _ => Placed r.1) past)
    (past : List Event) :
    ((attempt wrap p >>= f) progress).Obeys (Rules.past (MayStore agent)) (fun r _ => Placed r.1)
      past := by
  refine attempt_andThen ((aside_obeys asks past).mono fun r past _ => ?_)
  rcases r with e | a
  · exact placed e
  · exact later a past

/-- A move asks nothing. -/
theorem advance_aside {target : Phase} {f : Unit → Stage β}
    (later : ∀ progress, (f () progress).Obeys (Rules.past (MayStore agent))
      (fun r _ => Placed r.1) past) :
    ((advance target >>= f) progress).Obeys (Rules.past (MayStore agent)) (fun r _ => Placed r.1)
      past :=
  advance_either later fun _ _ same => by cases same

end Parts

theorem install_storing {dir : String} (may : MayStore agent past (.deposit dir agent.payload)) :
    (install agent.payload dir).Obeys (Rules.past (MayStore agent))
      (fun r _ => ∀ name, r ≠ .error (.payloadDir name)) past := by
  refine ⟨may, fun stored past _ => ?_⟩
  rcases stored with cause | path
  · exact fun _ same => by cases same
  refine ⟨trivial, fun resident past _ => ?_⟩
  rcases resident with _ | _
  · refine ⟨trivial, fun injected past _ => ?_⟩
    rcases injected with cause | _
    · exact fun _ same => by cases same
    · exact ⟨trivial, fun resident past _ => by rcases resident with _ | _ <;> exact fun _ same => by cases same⟩
  · exact fun _ same => by cases same

/-- Behind the check of the build nothing is put on disk. -/
theorem checkAndHook_storing (request : Request) (past : List Event) :
    (checkAndHook agent request progress).Obeys (Rules.past (MayStore agent))
      (fun r _ => Placed r.1) past := by
  have parts (progress : Progress) (past : List Event) :
      (bindAndPart request progress).Obeys (Rules.past (MayStore agent)) (fun r _ => Placed r.1)
        past := by
    refine attempt_aside (bindNatives_questions.mono (by rintro _ rfl; simp [Deposits]))
      (by intro _ _ same; cases same) (fun _ past => ?_) past
    exact advance_aside fun progress _ => nofun
  refine advance_aside fun progress => ?_
  refine attempt_aside ((checkBuild_questions _).mono (by rintro _ rfl; simp [Deposits]))
    (by intro _ _ same; cases same) (fun marker past => ?_) past
  refine attempt_aside ((checkInstrumented_questions marker).mono (by rintro _ rfl; simp [Deposits]))
    (by intro _ _ same; cases same) (fun hooked past => ?_) past
  cases hooked with
  | true => exact advance_aside fun progress => parts progress past
  | false =>
      refine advance_aside fun progress => ?_
      refine attempt_aside ((instrument_questions agent.plan marker).mono ?_) (by intro _ _ same; cases same)
        (fun _ past => parts progress past) past
      rintro q asked ⟨dir, payload, rfl⟩
      cases asked

/-- The first half of a session puts its payload in the directory of the request. -/
theorem prepare_storing (link : LinkId) (unstored : ∀ event ∈ past, ¬ Deposits event.question) :
    (prepare agent link progress).Obeys (Rules.past (MayStore agent)) (fun r _ => Placed r.1)
      past := by
  refine advance_aside fun progress => attempt_andThen ⟨trivial, fun received past' grown => ?_⟩
  obtain rfl : past' = past ++ [Event.mk (.receive link) received] := grown
  rcases received with e | frame
  · exact fun _ => nofun
  refine attempt_andThen ?_
  cases decoded : Request.decode frame with
  | error e => exact fun _ => nofun
  | ok request =>
  have read : Unstored request (past ++ [⟨.receive link, .ok frame⟩]) := by
    refine ⟨⟨link, frame, by simp, decoded⟩, fun event member => ?_⟩
    rcases List.mem_append.1 member with old | new
    · exact unstored event old
    · obtain rfl := List.mem_singleton.1 new
      simp [Deposits]
  simp only [Procedure.pure_eq, obeys_done]
  refine advance_aside fun progress => ?_
  have negotiates : negotiate.Asks fun q => ¬ Deposits q :=
    negotiate_questions.mono (by simp [Deposits])
  have kept : ∀ (q : Question) (past : List Event) (answer : q.Answer) (past' : List Event),
      ¬ Deposits q → Unstored request past →
      (Rules.past (MayStore agent)).answers past q answer past' → Unstored request past' := by
    rintro q past answer _ other unstored rfl
    exact unstored.concat other
  refine attempt_kept negotiates (fun _ _ other _ => mayStore_of_not other) kept read
    (fun _ _ _ _ same => by cases same) fun _ past ready => ?_
  refine advance_aside fun progress => ?_
  obtain ⟨dir, resolved⟩ := Request.resolves_of_decode decoded agent.payloadDir
  rw [resolved]
  refine attempt_andThen ((install_storing ⟨rfl, ⟨request, ready.accepted, resolved⟩,
    ready.unstored⟩).mono fun r past placed => ?_)
  rcases r with e | installed
  · intro name same
    exact placed name (by simpa using same)
  · exact checkAndHook_storing request past

theorem transfer_storing (request : Request) (link : LinkId) (past : List Event) :
    (transfer request link).Obeys (Rules.past (MayStore agent)) (fun r _ => Placed r) past := by
  refine ⟨trivial, fun pid past _ => ⟨trivial, fun arrived past _ => ?_⟩⟩
  rcases arrived with e | _
  · exact ⟨trivial, fun _ _ _ _ => nofun⟩
  refine ⟨trivial, fun token past _ => ⟨trivial, fun accepted past _ => ?_⟩⟩
  rcases accepted with cause | reply
  · refine ⟨trivial, fun swap past _ => ?_⟩
    rcases swap with _ | swap
    · exact fun _ => nofun
    · exact ⟨trivial, fun _ _ _ => ⟨trivial, fun _ _ _ _ => nofun⟩⟩
  · refine ⟨trivial, fun swaps past _ => ?_⟩
    refine (aside_obeys ((abandonAll_questions swaps).mono ?_) past).andThen fun _ _ _ _ => nofun
    rintro q asked ⟨dir, payload, rfl⟩
    cases asked

theorem swapNow_storing (request : Request) (link : LinkId) (past : List Event) :
    (swapNow request link progress).Obeys (Rules.past (MayStore agent)) (fun r _ => Placed r.1)
      past := by
  have executes : (execute request).Asks fun q => ¬ Deposits q :=
    (execute_questions request).mono (by simp [Deposits])
  refine advance_aside fun progress => perform_andThen ((aside_obeys executes past).mono ?_)
  intro response past _
  refine advance_aside fun progress => attempt_andThen ⟨trivial, fun sent past _ => ?_⟩
  rcases sent with e | _
  · exact fun _ => nofun
  · exact advance_aside fun progress _ => nofun

/-- A session puts its own payload on disk, in the directory of the request that it read, and only
once. -/
theorem session_storing (agent : Agent) :
    (session agent Progress.start).Obeys (Rules.past (MayStore agent)) (fun r _ => Placed r.1)
      [] := by
  refine attempt_andThen ⟨trivial, fun opened past grown => ?_⟩
  obtain rfl : past = [Event.mk .connect opened] := grown
  rcases opened with e | link
  · exact fun _ => nofun
  refine stage_andThen (hangingUpOnFailure_obeys ((prepare_storing link ?_).mono ?_))
  · simp [Deposits]
  rintro ⟨e | request, progress⟩ past placed
  · exact ⟨trivial, fun _ _ _ name same => placed name (by simpa using same)⟩
  dsimp only
  split
  · refine advance_aside fun progress => advance_aside fun progress => attempt_andThen ?_
    refine (transfer_storing request link past).mono fun r past placed => ?_
    rcases r with e | token
    · intro name same
      exact placed name (by simpa using same)
    · exact advance_aside fun progress _ => nofun
  · have swaps : (swapNow request link progress).Obeys (Rules.past (MayStore agent))
        (fun r _ => Placed r.1) past := swapNow_storing request link past
    refine hangingUp_obeys (swaps.mono fun r past placed => ⟨trivial, fun _ _ _ => by exact placed⟩)

/-- So does an attach. -/
theorem attach_storing (agent : Agent) :
    agent.attach.Obeys (Rules.past (MayStore agent)) (fun report _ => Placed report.outcome) [] := by
  refine attach_obeys ((session_storing agent).mono ?_)
  rintro ⟨e | completion, progress⟩ past placed
  · exact placed
  · exact fun _ => nofun

/-! ## What it leaves there -/

/-- The disk does what it is asked to, and nothing else changes it. -/
def onDisk : Rules FileTree where
  allows _ _ := True
  answers t
    | .deposit dir payload, stored, t' => (stored, t') = Depot.deposit t dir payload
    | _, _, t' => t' = t

theorem onDisk_aside {q : Question} {answer : q.Answer} (other : ¬ Deposits q)
    (comes : onDisk.answers t q answer t') : t' = t := by
  cases q with
  | deposit dir payload => exact absurd ⟨dir, payload, rfl⟩ other
  | _ => exact comes

theorem onDisk_kept (plays : onDisk.Plays t log t')
    (none : ∀ event ∈ log, ¬ Deposits event.question) : t' = t := by
  induction plays with
  | nil t => rfl
  | cons comes later ih =>
      obtain ⟨other, rest⟩ := List.forall_mem_cons.1 none
      exact (ih rest).trans (onDisk_aside other comes)

/-- Where something is put on disk only once, that is all that changes. -/
theorem onDisk_once (plays : onDisk.Plays t log t')
    (once : ∀ before event after, log = before ++ event :: after → Deposits event.question →
      ∀ e ∈ before, ¬ Deposits e.question) :
    t' = t ∨ ∃ dir payload stored, ⟨.deposit dir payload, stored⟩ ∈ log ∧
      t' = (Depot.deposit t dir payload).2 := by
  induction plays with
  | nil t => exact .inl rfl
  | @cons t t' t'' q answer log comes later ih =>
      by_cases deposits : Deposits q
      · right
        obtain ⟨dir, payload, rfl⟩ := deposits
        have rest : ∀ event ∈ log, ¬ Deposits event.question := by
          intro event member second
          obtain ⟨before, after, rfl⟩ := List.append_of_mem member
          exact once (_ :: before) event after rfl second _ List.mem_cons_self ⟨dir, payload, rfl⟩
        obtain rfl := onDisk_kept later rest
        exact ⟨dir, payload, answer, by simp, congrArg Prod.snd comes⟩
      · obtain rfl := onDisk_aside deposits comes
        have rest := ih fun before event after split second e member =>
          once (_ :: before) event after (congrArg _ split) second e (by simp [member])
        refine rest.imp_right ?_
        rintro ⟨dir, payload, stored, member, same⟩
        exact ⟨dir, payload, stored, by simp [member], same⟩

/-- At any point a session has left on disk what one deposit of its payload leaves, in the directory
of a request that it read, or nothing. -/
theorem attach_stores {rest : Procedure SessionReport} (course : Course agent.attach log rest)
    (plays : onDisk.Plays t log t') :
    t' = t ∨ ∃ link frame request dir, ⟨.receive link, .ok frame⟩ ∈ log ∧
      Request.decode frame = .ok request ∧
      agent.payloadDir.resolve request.packageName = some dir ∧
      t' = (Depot.deposit t dir agent.payload).2 := by
  have may {before after : List Event} {event : Event} (split : log = before ++ event :: after) :
      MayStore agent before event.question := by
    simpa using course.allowed (attach_storing agent) split
  have once : ∀ before event after, log = before ++ event :: after → Deposits event.question →
      ∀ e ∈ before, ¬ Deposits e.question := by
    rintro before ⟨q, answer⟩ after split ⟨dir, payload, rfl⟩
    exact (may split).2.2
  rcases onDisk_once plays once with same | ⟨dir, payload, stored, member, same⟩
  · exact .inl same
  · right
    obtain ⟨before, after, rfl⟩ := List.append_of_mem member
    obtain ⟨rfl, ⟨request, ⟨link, frame, read, decoded⟩, resolved⟩, -⟩ := may rfl
    exact ⟨link, frame, request, dir, List.mem_append_left _ read, decoded, resolved, same⟩

/-! ## Where that is -/

/-- A way to a name behind a directory is a way to the directory, and the name. -/
theorem walk_join {dir name : String} {start place : Place} (plain : '/' ∉ name.toList)
    (named : name ≠ "") (apart : name ≠ "." ∧ name ≠ "..")
    (walked : t.walk start (Path.segments (Path.join dir name)) = .ok place) :
    ∃ above, t.walk start (Path.segments dir) = .ok above ∧ place = above ++ [name] := by
  rw [Path.segments_join dir plain named] at walked
  obtain ⟨above, reached, entered⟩ := FileTree.walk_concat_ok walked
  obtain ⟨-, ⟨here, -⟩ | ⟨-, up, -⟩ | ⟨-, -, -, ends, -⟩⟩ := FileTree.enter_ok entered
  · exact absurd here apart.1
  · exact absurd up apart.2
  · exact ⟨above, reached, ends⟩

/-- The artifact in the directory of a package stands below the root, at the names it is called by. -/
theorem place_of_find {frame : ByteArray} {request : Request} {root : String} {payload : Payload}
    {place : Place} (decoded : Request.decode frame = .ok request)
    (leads : t.find (Depot.target (Path.join (Path.join root request.packageName) ".studio") payload) =
      .ok place) :
    ∃ base, t.walk (t.start root) (Path.segments root) = .ok base ∧
      place = base ++ [request.packageName, ".studio", payload.fileName] := by
  obtain ⟨named, plain⟩ := Request.plain_of_decode decoded
  have entry := Depot.entryName_fileName payload
  obtain ⟨-, walked, -⟩ := FileTree.find_ok_iff.1 leads
  have begins : t.start (Depot.target (Path.join (Path.join root request.packageName) ".studio")
      payload) = t.start root := by
    simp only [Depot.target, FileTree.start, Path.isAbsolute_join _ entry.plain,
      Path.isAbsolute_join _ (show '/' ∉ ".studio".toList by decide),
      Path.isAbsolute_join _ plain.noSlash]
  rw [begins] at walked
  rw [Depot.target] at walked
  obtain ⟨studio, toStudio, rfl⟩ := walk_join entry.plain entry.named ⟨entry.here, entry.up⟩ walked
  have studioName : '/' ∉ ".studio".toList ∧ ".studio" ≠ "" ∧ ".studio" ≠ "." ∧ ".studio" ≠ ".." := by
    decide
  obtain ⟨package, toPackage, rfl⟩ :=
    walk_join studioName.1 studioName.2.1 studioName.2.2 toStudio
  obtain ⟨base, toBase, rfl⟩ := walk_join plain.noSlash named.ne_empty
    ⟨plain.notHere, plain.ne_up⟩ toPackage
  exact ⟨base, toBase, by simp⟩

/-- **What the decoder lets through stays in the application's directory.**  The name of a package
is one component of the path of its directory, below whichever root.  So no session fails for want
of a directory; and one that keeps its payload below a root has left there, at any point, either no
new file or its artifact, in the directory of the package that a frame named. -/
theorem attach_confined :
    (∀ frame request, Request.decode frame = .ok request → ∀ root,
      (PayloadDir.appPrivate root).resolve request.packageName =
          some (Path.join (Path.join root request.packageName) ".studio") ∧
        Path.components (Path.join (Path.join root request.packageName) ".studio") =
          Path.components root ++ [.name request.packageName, .name ".studio"]) ∧
    (∀ (agent : Agent) log report, agent.attach.Course log (.done report) →
      ∀ name, report.outcome ≠ .error (.install (.payloadDir name))) ∧
    ∀ (agent : Agent) root log rest t t', agent.payloadDir = .appPrivate root →
      agent.attach.Course log rest → onDisk.Plays t log t' →
        t.SameFiles t' ∨ ∃ link frame request base digits,
          ⟨.receive link, .ok frame⟩ ∈ log ∧ Request.decode frame = .ok request ∧
          agent.payload.fileName = "instruments-" ++ String.ofList digits ++ ".jar" ∧
          digits.length = 64 ∧ (∀ c ∈ digits, c ∈ "0123456789abcdef".toList) ∧
          t'.walk (t'.start root) (Path.segments root) = .ok base ∧
          t'.find (Path.join (Path.join (Path.join root request.packageName) ".studio")
              agent.payload.fileName) =
            .ok (base ++ [request.packageName, ".studio", agent.payload.fileName]) ∧
          t.Publishes (base ++ [request.packageName, ".studio", agent.payload.fileName])
            (.file 0o600 agent.payload.bytes) t' := by
  refine ⟨fun frame request decoded root => ⟨Request.resolve_of_decode decoded root, ?_⟩, ?_, ?_⟩
  · obtain ⟨named, plain⟩ := Request.plain_of_decode decoded
    rw [Path.components_join _ (by decide) (by decide) (by decide),
      Path.components_join _ plain.noSlash named.ne_empty ⟨plain.notHere, plain.ne_up⟩]
    simp
  · intro agent log report course
    exact (attach_storing agent).ends course (by simpa using Rules.past_plays [] log)
  · intro agent root log rest t t' below course plays
    rcases attach_stores course plays with
      same | ⟨link, frame, request, dir, read, decoded, resolved, same⟩
    · rw [same]
      exact .inl (.refl t)
    rw [same]
    rw [below, Request.resolve_of_decode decoded root] at resolved
    obtain rfl := Option.some.inj resolved
    refine (Depot.deposit_adds t _ agent.payload).files.imp_right ?_
    rintro ⟨place, leads, publishes⟩
    obtain ⟨base, walked, rfl⟩ := place_of_find decoded leads
    obtain ⟨digits, long, lower, called⟩ := agent.payload.fileName_digits
    exact ⟨link, frame, request, base, digits, read, decoded, called, long, lower, walked, leads,
      publishes⟩

/-! ## A session that leaves its payload -/

/-- A simulated process does with the disk what it is asked to. -/
theorem answer_onDisk (door : Connector) (q : Question) (s : Scene SimulatedHost) :
    onDisk.answers s.world.files q (Scene.answer door q s).1
      (Scene.answer door q s).2.world.files := by
  cases q with
  | deposit dir payload => simp [onDisk, Scene.answer_deposit]
  | _ => exact answer_files door _ s (by simp)

/-- An agent that keeps its payload below the root of the applications. -/
def dataAgent : Agent := { Simulation.Fixture.agent with payloadDir := .appPrivate "/data" }

/-- A process without any files, and a controller that wants a swap. -/
def dataScene : Scene SimulatedHost where
  host := Simulation.Fixture.host 7
  world := { links := #[.frames { toAgent := [(⟨"app", false, []⟩ : Request).encode] }] }

/-- What the session leaves on disk. -/
def dataFiles : FileTree :=
  (Procedure.run (Scene.answer (.ready 0)) dataAgent.attach dataScene).2.world.files

theorem dataAgent_confined :
    dataAgent.payloadDir = .appPrivate "/data" ∧
      ∃ link frame request base,
        ⟨.receive link, .ok frame⟩ ∈ dataAgent.attach.events (Scene.answer (.ready 0)) dataScene ∧
        Request.decode frame = .ok request ∧
        dataFiles.walk (dataFiles.start "/data") (Path.segments "/data") = .ok base ∧
        ({} : FileTree).Publishes
          (base ++ [request.packageName, ".studio", dataAgent.payload.fileName])
          (.file 0o600 dataAgent.payload.bytes) dataFiles := by
  refine ⟨rfl, ?_⟩
  have stored : dataFiles.isFile
      (Depot.target "/data/app/.studio" dataAgent.payload) = true := by
    decide +kernel
  have confined := attach_confined.2.2 dataAgent "/data" _ _ {} dataFiles rfl
    (course_events (Scene.answer (.ready 0)) dataAgent.attach dataScene)
    (events_plays (answer_onDisk (.ready 0)) dataAgent.attach dataScene)
  rcases confined with same | ⟨link, frame, request, base, -, read, decoded, -, -, -, walked, -, one⟩
  · obtain ⟨mode, data, found⟩ := FileTree.isFile_iff.1 stored
    obtain ⟨place, -, there⟩ := FileTree.stat_ok_iff.1 found
    have absent := (same place _ (by simp)).1 there
    simp [FileTree.at?] at absent
  · exact ⟨link, frame, request, base, read, decoded, walked, one⟩

end Session

end HotSwap
