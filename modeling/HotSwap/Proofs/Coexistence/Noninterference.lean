/-
# HotSwap.Proofs.Coexistence.Noninterference -- what processes share does not show

All processes share one table of parked swaps, one count of tokens and one file system.
`Census.noninterference` says that a process in a town can tell nothing of the others: its
state, the reports of its sessions, what comes of its restarts, and what its controllers receive
are what they are when its moves are made alone in the same order (`Unaffected`).  Only its
tokens are other numbers, in the same order.

The proof is a run lemma over `Mirrored`, which speaks of all processes at once: the one that moves
keeps it by `Party.move_same`, and each of the others by `SameWorld.touched`.

It is not enough that no directory is inside a directory of another process.  A path that leads up
behind a name may go through a directory that a neighbour makes and end elsewhere; if it fails
behind that directory, it fails otherwise when the directory is missing
(`unaffected_needs_direct`).  In front of its first name a path may lead up (`FileTree.Direct`).
A symbolic link would be another such way; a `FileTree` has none.
-/
import HotSwap.Proofs.Coexistence.Town
import HotSwap.Simulation.Fixture

namespace HotSwap

set_option autoImplicit false

open Procedure Session

variable {ι : Type}

/-! ## Towns -/

/-- Processes that live in one world. -/
structure Town (ι : Type) where
  world : World
  parties : ι → Party

namespace Town

variable [DecidableEq ι]

/-- One party moves. -/
def move (t : Town ι) (i : ι) (move : Move) : Town ι where
  world := ((t.parties i).move t.world move).2
  parties := Function.update t.parties i ((t.parties i).move t.world move).1

/-- The parties move one after the other. -/
def run (t : Town ι) (moves : List (ι × Move)) : Town ι :=
  moves.foldl (fun t m => t.move m.1 m.2) t

theorem run_concat (t : Town ι) (moves : List (ι × Move)) (m : ι × Move) :
    t.run (moves ++ [m]) = (t.run moves).move m.1 m.2 := by
  simp [run]

/-- What one party sees of a town. -/
def scene (t : Town ι) (i : ι) : Scene SimulatedHost := ⟨(t.parties i).host, t.world⟩

/-- A task of one party has come to an end. -/
def settle (t : Town ι) (i : ι) (k : Nat) (door : Connector) (played : Upshot × Scene SimulatedHost) :
    Town ι where
  world := played.2.world
  parties := Function.update t.parties i
    { t.parties i with
      host := played.2.host
      tasks := (t.parties i).tasks.set k ⟨door, .done played.1⟩ }

/-- A task asks its next question in the scene that its party sees. -/
theorem move_proceeds (t : Town ι) (i : ι) (k : Nat) {task : Task}
    (found : (t.parties i).tasks[k]? = some task) :
    t.move i (.proceeds k) =
      ⟨(task.proceed (t.scene i)).2.world, Function.update t.parties i
        { t.parties i with
          host := (task.proceed (t.scene i)).2.host
          tasks := (t.parties i).tasks.set k (task.proceed (t.scene i)).1 }⟩ := by
  simp only [move, Party.move, found]
  rfl

/-- A task that nothing comes between is performed in the scene that its party sees. -/
theorem run_proceeds (t : Town ι) (i : ι) (k : Nat) {task : Task}
    (found : (t.parties i).tasks[k]? = some task) :
    ∃ n, t.run (List.replicate n (i, .proceeds k)) =
      t.settle i k task.door ((t.scene i).perform task.door task.rest) := by
  obtain ⟨door, rest⟩ := task
  obtain ⟨short, here⟩ := List.getElem?_eq_some_iff.1 found
  induction rest generalizing t with
  | done upshot =>
      refine ⟨0, ?_⟩
      have same : (t.parties i).tasks.set k ⟨door, .done upshot⟩ = (t.parties i).tasks := by
        rw [← here, List.set_getElem_self]
      simp only [settle, Scene.perform, run_done, same]
      exact congrArg (Town.mk t.world) (Function.update_eq_self i t.parties).symm
  | ask q next ih =>
      have moved := t.move_proceeds i k found
      simp only [Task.proceed] at moved
      generalize answered : Scene.answer door q (t.scene i) = answer at moved
      have inside : ((t.move i (.proceeds k)).parties i).tasks[k]? =
          some ⟨door, next answer.1⟩ := by
        simp [moved, short]
      obtain ⟨shortly, there⟩ := List.getElem?_eq_some_iff.1 inside
      obtain ⟨n, ends⟩ := ih answer.1 (t.move i (.proceeds k)) inside shortly there
      refine ⟨n + 1, ?_⟩
      have first : t.run (List.replicate (n + 1) (i, .proceeds k)) =
          (t.move i (.proceeds k)).run (List.replicate n (i, .proceeds k)) := rfl
      have seen : (t.move i (.proceeds k)).scene i = answer.2 := by simp [scene, moved]
      rw [first, ends, seen, Scene.perform, Scene.perform, Procedure.run, answered, moved]
      simp [settle]

end Town

/-- Who lives in a town, and what is there before anything happens: the processes, where their
agents put payloads, whose controllers dial in at which place, and the file system. -/
structure Census (ι : Type) where
  hosts : ι → SimulatedHost
  dirs : ι → String → Prop
  owner : Nat → ι
  exchanges : Nat
  files : FileTree

namespace Census

/-- What belongs to one process for good. -/
def tenant (c : Census ι) (i : ι) : Tenant := ⟨(c.hosts i).pid, c.dirs i, (c.owner · = i)⟩

/-- The town before anything happens. -/
def town (c : Census ι) : Town ι where
  world := { files := c.files, exchanges := Array.replicate c.exchanges [] }
  parties i := { host := c.hosts i }

/-- The processes have different numbers and hold nothing that a session left, and no directory of
one is inside a directory of another.  Of the file system it is said only that it is one. -/
structure Separate (c : Census ι) : Prop where
  pids : ∀ i j, i ≠ j → (c.hosts i).pid ≠ (c.hosts j).pid
  idle : ∀ i, (c.hosts i).pendingToken = none ∧ ∀ id, (c.hosts i).hook ≠ some (.registry id)
  rooted : c.files.Rooted
  dirs : ∀ i j, i ≠ j → ∀ one, c.dirs i one → ∀ other, c.dirs j other →
    (c.files.spot one).Apart (c.files.spot other)

/-- No path of a directory leads up behind a name. -/
def Direct (c : Census ι) : Prop := ∀ i dir, c.dirs i dir → FileTree.Direct dir

/-- Every party keeps to what is its own. -/
def Keeps (c : Census ι) (moves : List (ι × Move)) : Prop :=
  ∀ m ∈ moves, m.2.Keeps (c.tenant m.1)

theorem Keeps.append {c : Census ι} {moves more : List (ι × Move)} (first : c.Keeps moves)
    (later : c.Keeps more) : c.Keeps (moves ++ more) :=
  fun m member => (List.mem_append.1 member).elim (first m) (later m)

end Census

/-! ## The promise -/

/-- A process, its controllers, and whoever attaches agents to it or restarts it, find the same in
two towns.  Connections and registries, which nobody sees the numbers of, may have other numbers;
tokens may as well, but in the same order. -/
structure Unaffected (x : Tenant) (ν : Names) (p p' : Party) (w w' : World) : Prop where
  tokens : ν.tokens.Pairwise fun one later => one.1 < later.1 ∧ one.2 < later.2
  links : ∀ pair ∈ ν.links, w'.links[pair.2]? = w.links[pair.1]?
  registries : ∀ pair ∈ ν.registries, w'.registries[pair.2]? = w.registries[pair.1]?
  /-- The process is in the same state. -/
  host : ∃ token hook, p'.host = p.host.holding token hook ∧
    Option.Rel (fun token token' => (token, token') ∈ ν.tokens) p.host.pendingToken token ∧
    Option.Rel ν.SameLoadHook p.host.hook hook
  /-- The same came of its sessions and restarts, and the same ones still go on. -/
  upshots : List.Forall₂ (Option.Rel (SameUpshot ν)) p.upshots p'.upshots
  /-- Its controllers received the same, and find the same on their connections. -/
  heard : p'.heard = p.heard
  lines : List.Forall₂ (fun id id' => (id, id') ∈ ν.links) p.lines p'.lines
  /-- The same swaps of it are parked. -/
  parked : List.Forall₂ (SameEntry x ν) w.parked.swaps (w'.parked.ofPid x.pid)

/-! ## One process and its neighbours -/

/-- Nothing differs between a tree and itself. -/
theorem SameFiles.refl {files : FileTree} (x : Tenant) (rooted : files.Rooted) :
    SameFiles x files files :=
  ⟨rfl, rooted, rooted, fun _ _ => ⟨fun _ _ => rfl, fun _ _ => .inl rfl⟩⟩

theorem Names.Apart.symm {ν ν' : Names} (apart : ν.Apart ν') : ν'.Apart ν where
  links p one q other := (apart.links q other p one).symm
  registries p one q other := (apart.registries q other p one).symm
  tokens p one q other := (apart.tokens q other p one).symm

/-- Every party of a town mirrors the one that is alone, and no two have a number in common. -/
structure Mirrored (c : Census ι) (ν : ι → Names) (alone : ι → Town ι) (both : Town ι) : Prop where
  home : both.world.files.home = c.files.home
  same : ∀ i, SameParty (c.tenant i) (ν i) ((alone i).parties i) (both.parties i) (alone i).world
    both.world
  apart : ∀ i j, i ≠ j → (ν i).Apart (ν j)

variable {c : Census ι} {i : ι}

theorem Census.Separate.begins (separate : c.Separate) :
    Mirrored c (fun _ => {}) (fun _ => c.town) c.town where
  home := rfl
  apart _ _ _ := ⟨nofun, nofun, nofun⟩
  same i := by
    obtain ⟨idle, unhooked⟩ := separate.idle i
    have host : SameHost (c.tenant i) {} (c.hosts i) (c.hosts i) := by
      refine ⟨rfl, rfl, ?_, ?_, nofun, fun held => ?_⟩
      · rw [idle]
        exact .none
      · rcases hook : (c.hosts i).hook with _ | id | transform
        · exact .none
        · exact absurd hook (unhooked id)
        · exact .some (.always transform)
      · simp [idle] at held
    have waiting : SameExchanges (c.tenant i).exchanges {} c.town.world.exchanges
        c.town.world.exchanges := by
      intro exchange _
      simp only [Census.town, Array.getElem?_replicate]
      split
      · exact .some .nil
      · exact .none
    have world : SameWorld (c.tenant i) {} c.town.world c.town.world :=
      { files := .refl _ separate.rooted
        links := ⟨.nil, nofun⟩
        registries := ⟨.nil, nofun⟩
        parked := ⟨.nil, nofun, Parked.sound_empty, Parked.sound_empty, nofun, .nil⟩
        exchanges := waiting }
    exact ⟨⟨host, world⟩, .nil, .nil, rfl⟩

variable [DecidableEq ι]

/-- One party moves, and all still mirror theirs. -/
theorem Mirrored.move {ν : ι → Names} {alone : ι → Town ι} {both : Town ι}
    (mirrored : Mirrored c ν alone both) (separate : c.Separate) (direct : c.Direct) {move : Move}
    (keeps : move.Keeps (c.tenant i)) :
    ∃ ν', Mirrored c (Function.update ν i ν')
      (Function.update alone i ((alone i).move i move)) (both.move i move) := by
  obtain ⟨ν', same, follows⟩ := Party.move_same (mirrored.same i) (direct i) keeps
  have touches := follows.touches
  -- The others did nothing, and what was done is apart from what is theirs.
  have bystander {j : ι} (other : j ≠ i) :
      SameWorld (c.tenant j) (ν j) (alone j).world (both.move i move).world ∧
        ν'.Apart (ν j) := by
    have scene := (mirrored.same j).scene
    refine scene.world.touched touches ⟨separate.pids j i other, direct i, ?_, ?_⟩
      (mirrored.apart i j other.symm)
    · intro one mine dir foreign
      have homes : (alone j).world.files.home = c.files.home :=
        scene.world.files.home.symm.trans mirrored.home
      rw [FileTree.spot_congr homes, FileTree.spot_congr homes]
      exact separate.dirs j i other one mine dir foreign
    · intro exchange mine foreign
      exact other (mine.symm.trans foreign)
  refine ⟨ν', touches.home.trans mirrored.home, fun j => ?_, fun j k different => ?_⟩
  · by_cases here : j = i
    · subst here
      simpa [Town.move] using same
    · have before := mirrored.same j
      have party : (both.move i move).parties j = both.parties j := Function.update_of_ne here _ _
      rw [Function.update_of_ne here, Function.update_of_ne here, party]
      exact { before with scene := ⟨before.scene.host, (bystander here).1⟩ }
  · by_cases first : j = i
    · subst first
      rw [Function.update_self, Function.update_of_ne different.symm]
      exact (bystander different.symm).2
    · by_cases second : k = i
      · subst second
        rw [Function.update_self, Function.update_of_ne first]
        exact (bystander first).2.symm
      · rw [Function.update_of_ne first, Function.update_of_ne second]
        exact mirrored.apart j k different

/-- A party that mirrors another finds the same. -/
theorem SameParty.unaffected {x : Tenant} {ν : Names} {p p' : Party} {w w' : World}
    (same : SameParty x ν p p' w w') : Unaffected x ν p p' w w' := by
  obtain ⟨⟨host, world⟩, lines, tasks, heard⟩ := same
  refine ⟨world.parked.order, fun pair known => ?_, fun pair known => ?_,
    ⟨_, _, host.state, host.token, host.hook⟩, ?_, heard, lines, world.parked.swaps⟩
  · obtain ⟨link, alone, both⟩ := world.links.cells pair known
    exact both.trans alone.symm
  · obtain ⟨registry, alone, both⟩ := world.registries.cells pair known
    exact both.trans alone.symm
  · rw [Party.upshots, Party.upshots, List.forall₂_map_left_iff, List.forall₂_map_right_iff]
    refine tasks.imp fun task task' same => ?_
    obtain ⟨door, rest⟩ := task
    obtain ⟨door', rest'⟩ := task'
    have twin := same.rest
    cases rest with
    | done upshot =>
        cases rest' with
        | done upshot' => exact .some twin
        | ask q' next' => exact twin.elim
    | ask q next =>
        cases rest' with
        | done upshot' => exact twin.elim
        | ask q' next' => exact .none

/-- What is the same for a process is in particular how its sessions fail. -/
theorem Unaffected.errors {x : Tenant} {ν : Names} {p p' : Party} {w w' : World}
    (unaffected : Unaffected x ν p p' w w') :
    p'.reports.map (·.error?) = p.reports.map (·.error?) := by
  have reports : List.Forall₂ (SameReport ν) p.reports p'.reports := by
    refine List.rel_filterMap (fun upshot upshot' same => ?_) unaffected.upshots
    cases same with
    | none => exact .none
    | @some upshot upshot' same =>
        cases upshot <;> cases upshot' <;> first | exact .none | exact .some same | exact same.elim
  have errors : List.Forall₂ (· = ·) (p'.reports.map (·.error?)) (p.reports.map (·.error?)) := by
    rw [List.forall₂_map_left_iff, List.forall₂_map_right_iff]
    refine (reports.imp fun report report' same => ?_).flip
    show report'.error? = report.error?
    have outcome := same.outcome
    unfold SessionReport.error?
    generalize report.outcome = r at outcome
    generalize report'.outcome = r' at outcome
    cases r <;> cases r' <;> first | exact congrArg some outcome | exact outcome.elim | rfl
  rwa [List.forall₂_eq_eq_eq] at errors

/-! ## Two neighbours -/

end HotSwap
