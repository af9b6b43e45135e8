/-
# HotSwap.Proofs.Handoff.OneAnswer -- every deferred swap is answered once

A deferred swap is taken out of the table by one of four: the handler's call back, the
session that finds its token refused, the session whose newer swap supersedes it, or a
call back that comes while its own session still waits for the handler.  `OneAnswer` says
what is promised however these fall together: at every point of a run a parked swap either
still waits, under one token and with nothing written since its interim answer, or it has
left the table once, and who took it out has tried to write one last answer on its
connection or will do so once, whatever happens until then; tokens count up; and a call
back whose token was never given out, or is spent, says "no" and does nothing else.

`oneAnswer_of_reachable` reads this off the ledger of a reachable machine.
-/
import HotSwap.Proofs.Handoff.Ledger
import HotSwap.Simulation.Fixture

namespace HotSwap

set_option autoImplicit false

open Procedure

/-! ## One answer -/

/-- The table holds a swap under one token, and nothing was done to its connection since. -/
def Waits (m : Machine) (token : Int) (swap : PendingSwap) (since : List Act) : Prop :=
  m.parked.swaps.filter (·.2.link = swap.link) = [(token, swap)] ∧ story swap.link since = []

/-- A swap was taken out once; who did it has tried to write one last answer, or is about to
do so. -/
def Left (m : Machine) (swap : PendingSwap) (since : List Act) : Prop :=
  m.parked.swaps.filter (·.2.link = swap.link) = [] ∧
    ∃ j,
      (∃ frame arrived, IsFinal frame ∧
        story swap.link since = [(j, .takenOut), (j, .wrote frame arrived)]) ∨
      (story swap.link since = [(j, .takenOut)] ∧
        ∃ thread : Thread, m.threads[j]? = some thread ∧ thread.rest.AnswersOnce swap.link)

/-- A token was never given out, or its swap was taken out of the table. -/
def Spent (token : Int) (log : List Act) : Prop :=
  (∀ swap, (token, swap) ∉ parkings log) ∨
    ∃ swap, (token, swap) ∈ parkings log ∧ ∃ act ∈ log, swap ∈ act.event.takenOut

/-- What is promised of deferred swaps. -/
structure OneAnswer (m : Machine) : Prop where
  /-- A swap is parked behind its interim answer, and then waits or has left, not both. -/
  deferred : ∀ before i swap token since, m.log = before ++ ⟨i, ⟨.park swap, token⟩⟩ :: since →
    story swap.link before = [(i, .wrote (Response.needRestart swap.pid).encode true)] ∧
      Xor (Waits m token swap since) (Left m swap since)
  /-- Tokens count up. -/
  tokens : ((parkings m.log).map (·.1)).Pairwise (· < ·)
  /-- A call back without a token says "no" and does nothing. -/
  noToken : ∀ args : List Host.Value, args.head?.bind Host.Value.long? = none →
    (Job.callBack args).procedure = .done (.value (.bool false))
  /-- A call back with a token that is spent says "no" when it has looked, and does nothing
  else. -/
  spent : ∀ i args token, m.threads[i]? = some (Job.callBack args).begin →
    args.head?.bind Host.Value.long? = some token → Spent token m.log →
      ∀ m', m.Moves i m' ↔
        m' = ⟨m.threads.set i ⟨.callBack args, .done (.value (.bool false))⟩, m.parked,
          m.log ++ [⟨i, ⟨.take token, none⟩⟩]⟩

/-- What a story tells in which a swap was parked. -/
theorem Tale.parked {told before since : List (Nat × Deed)} {standing : Standing} {i : Nat}
    {token : Int} {swap : PendingSwap} (tale : Tale told standing)
    (split : told = before ++ (i, .parked token swap) :: since) :
    before = [(i, .wrote (Response.needRestart swap.pid).encode true)] ∧
      ((standing = .waiting token swap ∧ since = []) ∨
        ∃ j, (standing = .due j ∧ since = [(j, .takenOut)]) ∨
          ∃ frame arrived, standing = .over ∧ IsFinal frame ∧
            since = [(j, .takenOut), (j, .wrote frame arrived)]) := by
  have second {by_ : Nat} {number : Int} {other : PendingSwap} {rest : List (Nat × Deed)}
      (told : parkedBy by_ number other ++ rest = before ++ (i, .parked token swap) :: since)
      (absent : (i, .parked token swap) ∉ rest) :
      before = [(i, .wrote (Response.needRestart swap.pid).encode true)] ∧ number = token ∧
        other = swap ∧ since = rest := by
    rcases before with _ | ⟨first, _ | ⟨second, before⟩⟩
    · simp [parkedBy] at told
    · simp only [parkedBy, List.cons_append, List.nil_append, List.cons.injEq, Prod.mk.injEq,
        Deed.parked.injEq] at told
      obtain ⟨rfl, ⟨rfl, rfl, rfl⟩, rfl⟩ := told
      exact ⟨rfl, rfl, rfl, rfl⟩
    · simp only [parkedBy, List.cons_append, List.nil_append, List.cons.injEq] at told
      simp [told] at absent
  cases tale with
  | unborn => simp at split
  | fresh by_ => simp at split
  | announced by_ frame => simp [List.singleton_eq_append_iff] at split
  | broken by_ frame => simp [List.singleton_eq_append_iff] at split
  | waiting by_ number other =>
      rw [← List.append_nil (parkedBy ..)] at split
      obtain ⟨first, rfl, rfl, rfl⟩ := second split (by simp)
      exact ⟨first, .inl ⟨rfl, rfl⟩⟩
  | due by_ j number other =>
      obtain ⟨first, rfl, rfl, rfl⟩ := second split (by simp)
      exact ⟨first, .inr ⟨j, .inl ⟨rfl, rfl⟩⟩⟩
  | answered by_ j number other arrived final =>
      obtain ⟨first, rfl, rfl, rfl⟩ := second split (by simp)
      exact ⟨first, .inr ⟨j, .inr ⟨_, arrived, rfl, final, rfl⟩⟩⟩

section Promise

variable {m : Machine} {before since : List Act} {i : Nat} {swap : PendingSwap} {token : Int}

theorem story_split (split : m.log = before ++ ⟨i, ⟨.park swap, token⟩⟩ :: since) :
    story swap.link m.log =
      story swap.link before ++ (i, .parked token swap) :: story swap.link since := by
  rw [split]
  simp [story, deeds]

/-- The table has no swap with a connection that does not wait. -/
theorem Agree.filter_eq_nil {hold : Nat → Hold} {stands : LinkId → Standing} {parked : Parked}
    (agree : Agree hold stands parked) {link : LinkId}
    (elsewhere : ∀ token swap, stands link ≠ .waiting token swap) :
    parked.swaps.filter (·.2.link = link) = [] := by
  refine List.filter_eq_nil_iff.2 fun entry member same => ?_
  obtain rfl := of_decide_eq_true same
  exact elsewhere _ _ (agree.waiting entry.1 entry.2 member)

/-- Behind its interim answer a parked swap waits or has left. -/
theorem deferred_of_reachable (reached : m.Reachable)
    (split : m.log = before ++ ⟨i, ⟨.park swap, token⟩⟩ :: since) :
    story swap.link before = [(i, .wrote (Response.needRestart swap.pid).encode true)] ∧
      Xor (Waits m token swap since) (Left m swap since) := by
  obtain ⟨hold, stands, kept, ledger⟩ := reached.accounts
  obtain ⟨first, rest⟩ := (ledger.tale swap.link).parked (story_split split)
  refine ⟨first, ?_⟩
  rcases rest with ⟨stood, nothing⟩ | ⟨j, ⟨stood, taken⟩ | ⟨frame, arrived, stood, final, done⟩⟩
  · have member := (ledger.agree.held _ _ _ stood).1
    have alone := filter_mark (·.2.link) (ledger.agree.links_nodup reached.counted.ordered) member
    refine .inl ⟨⟨alone, nothing⟩, fun left => ?_⟩
    simp [left.1] at alone
  · have gone := ledger.agree.filter_eq_nil fun token swap => by rw [stood]; simp
    have owes := kept.answersOnce (ledger.agree.once j) ((ledger.agree.due j swap.link).2 stood)
    refine .inr ⟨⟨gone, j, .inr ⟨taken, owes⟩⟩, fun waits => ?_⟩
    simp [waits.1] at gone
  · have gone := ledger.agree.filter_eq_nil fun token swap => by rw [stood]; simp
    refine .inr ⟨⟨gone, j, .inl ⟨frame, arrived, final, done⟩⟩, fun waits => ?_⟩
    simp [waits.1] at gone

/-- A swap that was taken out leaves a mark in the story of its connection. -/
theorem takenOut_mem_story {log : List Act} {act : Act} (member : act ∈ log)
    (taken : swap ∈ act.event.takenOut) : (act.thread, .takenOut) ∈ story swap.link log := by
  refine List.mem_flatMap.2 ⟨act, member, ?_⟩
  obtain ⟨thread, q, answer⟩ := act
  have marked {swaps : List PendingSwap} (inIt : swap ∈ swaps) :
      (thread, Deed.takenOut) ∈
        (swaps.filter (·.link = swap.link)).map fun _ => (thread, .takenOut) :=
    List.mem_map.2 ⟨swap, List.mem_filter.2 ⟨inIt, by simp⟩, rfl⟩
  cases q with
  | take token => exact marked taken
  | takeSuperseded pid current => exact marked taken
  | _ => cases taken

/-- The table knows no token that is spent. -/
theorem not_mem_of_spent (reached : m.Reachable) (spent : Spent token m.log) (swap : PendingSwap) :
    (token, swap) ∉ m.parked.swaps := by
  intro member
  have parked := reached.counted.table.subset member
  rcases spent with never | ⟨other, was, act, happened, taken⟩
  · exact never swap parked
  · obtain rfl := reached.counted.sound.ordered.swap_eq parked was
    obtain ⟨hold, stands, -, ledger⟩ := reached.accounts
    have tale := ledger.tale swap.link
    rw [ledger.agree.waiting token swap member] at tale
    have marked := takenOut_mem_story happened taken
    generalize story swap.link m.log = told at tale marked
    cases tale
    simp [parkedBy] at marked

/-- What a call back does that was given a token. -/
theorem callBack_procedure {args : List Host.Value}
    (given : args.head?.bind Host.Value.long? = some token) :
    (Job.callBack args).procedure =
      .ask (.take token) fun swap =>
        match swap with
        | none => .done (.value (.bool false))
        | some swap =>
            (Session.complete swap).bind fun applied => .done (.value (.bool applied)) := by
  simp only [Job.procedure, Session.callNative, Session.redefineParked, given]
  show Procedure.ask _ _ = _
  congr 1
  funext swap
  cases swap with
  | none => rfl
  | some swap =>
      show ((Session.complete swap).bind _).bind _ = _
      rw [Procedure.bind_assoc]
      rfl

theorem moves_of_spent (reached : m.Reachable) {args : List Host.Value}
    (found : m.threads[i]? = some (Job.callBack args).begin)
    (given : args.head?.bind Host.Value.long? = some token) (spent : Spent token m.log)
    (m' : Machine) :
    m.Moves i m' ↔
      m' = ⟨m.threads.set i ⟨.callBack args, .done (.value (.bool false))⟩, m.parked,
        m.log ++ [⟨i, ⟨.take token, none⟩⟩]⟩ := by
  have unknown := Parked.take_unknown fun swap => not_mem_of_spent reached spent swap
  rw [Job.begin, callBack_procedure given] at found
  constructor
  · rintro ⟨at_, answers⟩
    rw [found] at at_
    cases at_
    obtain ⟨rfl, rfl⟩ := Prod.mk.inj (answers.trans unknown)
    rfl
  · rintro rfl
    exact .ask found unknown.symm

/-- Whatever sessions and call backs run side by side, and however their steps fall, every
deferred swap is answered once. -/
theorem oneAnswer_of_reachable (reached : m.Reachable) : OneAnswer m where
  deferred before i swap token since split := deferred_of_reachable reached split
  tokens := List.pairwise_map.2 reached.counted.sound.ordered
  noToken args none := by simp [Job.procedure, Session.callNative, Session.redefineParked, none]
  spent i args token found given spent := moves_of_spent reached found given spent

end Promise

/-! ## Machines that can be run -/

/-- The number of a connection that no agent was given. -/
def nextLink (log : List Act) : LinkId :=
  (log.map fun act =>
    match act.event with
    | ⟨.connect, .ok link⟩ => link + 1
    | _ => 0).foldr max 0

theorem unused_nextLink (log : List Act) : Unused (nextLink log) log := by
  have below : ∀ act ∈ log, ∀ link, act.event = ⟨.connect, .ok link⟩ → link < nextLink log := by
    intro act member link same
    induction log with
    | nil => cases member
    | cons first rest ih =>
        rcases List.mem_cons.1 member with rfl | later
        · simp only [nextLink, List.map_cons, List.foldr_cons, same]
          exact Nat.lt_of_lt_of_le (Nat.lt_succ_self link) (Nat.le_max_left ..)
        · exact Nat.lt_of_lt_of_le (ih later) (Nat.le_max_right ..)
  intro act member same
  exact absurd (below act member _ same) (Nat.lt_irrefl _)

namespace Machine

variable {m : Machine}

/-- Answers a question: for the table, with a new connection, or as it is given. -/
def reply (m : Machine) (given : (q : Question) → q.Answer) : (q : Question) → q.Answer × Parked
  | .connect => (.ok (nextLink m.log), m.parked)
  | .park swap => m.parked.park swap
  | .take token => m.parked.take token
  | .takeSuperseded pid current => m.parked.takeSuperseded pid current
  | q => (given q, m.parked)

theorem answers_reply (given : (q : Question) → q.Answer) (q : Question) :
    m.Answers q (m.reply given q).1 (m.reply given q).2 := by
  cases q with
  | connect => exact ⟨unused_nextLink m.log, rfl⟩
  | takeSuperseded pid current => exact m.parked.supersedes pid current
  | _ => rfl

/-- Begins a job. -/
def start (m : Machine) (job : Job) : Machine := { m with threads := m.threads ++ [job.begin] }

/-- Lets a thread ask its next question, if it has one. -/
def serve (given : (q : Question) → q.Answer) (m : Machine) (i : Nat) : Machine :=
  match m.threads[i]? with
  | some ⟨job, .ask q next⟩ =>
      ⟨m.threads.set i ⟨job, next (m.reply given q).1⟩, (m.reply given q).2,
        m.log ++ [⟨i, ⟨q, (m.reply given q).1⟩⟩]⟩
  | _ => m

theorem Reachable.start (reached : m.Reachable) (job : Job) : (m.start job).Reachable :=
  reached.step (.start job)

theorem Reachable.serve (reached : m.Reachable) (given : (q : Question) → q.Answer) (i : Nat) :
    (m.serve given i).Reachable := by
  unfold Machine.serve
  split
  · rename_i job q next found
    exact reached.step (.move (.ask found (answers_reply given q)))
  · exact reached

theorem Reachable.serveAll (reached : m.Reachable) (given : (q : Question) → q.Answer)
    (order : List Nat) : (order.foldl (Machine.serve given) m).Reachable := by
  induction order generalizing m with
  | nil => exact reached
  | cons i rest ih => exact ih (reached.serve given i)

end Machine

/-- Answers with which a session comes to park its swap. -/
def sampleAnswer : (q : Question) → q.Answer
  | .host .potentialCapabilities => .all
  | .host (.addCapabilities _) | .host (.setLoadHook _) | .host (.setLoadNotification _)
  | .host (.retransformClass _) | .host (.redefineClasses _) | .host (.appendToBootstrapSearch _)
  | .host (.registerNatives _) => .ok ()
  | .host (.findClass _) => true
  | .host (.callStatic ..) => .ok (.bool true)
  | .host .processId => 7
  | .connect => .ok 0
  | .receive _ => .ok (⟨"app", true, []⟩ : Request).encode
  | .send .. => .ok ()
  | .hangUp _ => ()
  | .deposit .. => .ok "/payloads"
  | .openRegistry .. => 0
  | .emptyRegistry _ => ()
  | .park _ => 1
  | .take _ => none
  | .takeSuperseded .. => []

/-- A session, and two call backs with the token that it gets. -/
def sampleJobs : Machine :=
  (((({} : Machine).start (.attach Simulation.Fixture.agent)).start (.callBack [.long 1])).start
    (.callBack [.long 1]))

/-- The session parks its swap; while it waits for the handler to accept the token, the first
call back takes the swap out, the second finds nothing, and the first answers. -/
def sampleRace : Machine :=
  (List.replicate 12 0 ++ [1, 2, 0, 1, 1, 1]).foldl (Machine.serve sampleAnswer) sampleJobs

theorem sampleRace_oneAnswer :
    (parkings sampleRace.log).map (·.1) = [1] ∧ (story 0 sampleRace.log).map (·.1) = [0, 0, 1, 1] ∧
      OneAnswer sampleRace := by
  have reached : sampleRace.Reachable :=
    (((Machine.Reachable.empty.start _).start _).start _).serveAll _ _
  exact ⟨by decide +kernel, by decide +kernel, oneAnswer_of_reachable reached⟩

end HotSwap
