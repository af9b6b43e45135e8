/-
# HotSwap.Proofs.Handoff.Ledger -- where every connection of a machine is

The `story` of a connection is what the log tells of it: each try to write on it, and each
time that a swap was parked with it or taken out of the table.  A connection stands in one
way at a time (`Standing`): nobody has it yet, a thread has it in its hands, a swap waits
with it in the table, or nothing more will be done to it; and each way goes with the
stories that `Tale` lists.

A `Ledger` says that the hands of all threads, the table, and the stories agree.  No state
of the machine is kept for it: `Machine.Reachable.accounts` shows that it can be written
at every point of every run.  Its step lemmas follow the questions that touch a connection:
one is made, a first frame is written, a swap is parked, some are taken out, and a last
answer is written.  Each goes with the rules of `custody` on the one side and with the
answers of the table on the other.
-/
import HotSwap.Proofs.Handoff.Custody
import HotSwap.Proofs.Handoff.Interleaving
import Mathlib.Logic.Function.Basic

namespace HotSwap

set_option autoImplicit false

open Procedure Function

/-! ## The story of a connection -/

/-- What is done to a connection. -/
inductive Deed where
  | wrote (frame : ByteArray) (arrived : Bool)
  | parked (token : Int) (swap : PendingSwap)
  | takenOut

/-- What an act does to a connection, each time with the thread that does it. -/
def deeds (link : LinkId) (act : Act) : List (Nat × Deed) :=
  match act.event with
  | ⟨.send addressee frame, answer⟩ =>
      if addressee = link then [(act.thread, .wrote frame answer.isOk)] else []
  | ⟨.park swap, token⟩ => if swap.link = link then [(act.thread, .parked token swap)] else []
  | event => (event.takenOut.filter (·.link = link)).map fun _ => (act.thread, .takenOut)

/-- All that was done to a connection: each try to write on it, and each time that a swap
was parked with it or taken out. -/
def story (link : LinkId) (log : List Act) : List (Nat × Deed) := log.flatMap (deeds link)

/-- How a connection stands: nobody has it yet, a thread has it in its hands, a swap waits
with it in the table, or nothing more will be done to it. -/
inductive Standing where
  | unborn
  | fresh (thread : Nat)
  | announced (thread : Nat) (frame : ByteArray)
  | waiting (token : Int) (swap : PendingSwap)
  | due (thread : Nat)
  | over

/-- How a story begins whose swap was parked. -/
def parkedBy (i : Nat) (token : Int) (swap : PendingSwap) : List (Nat × Deed) :=
  [(i, .wrote (Response.needRestart swap.pid).encode true), (i, .parked token swap)]

/-- The story that a connection has which stands in a certain way. -/
inductive Tale : List (Nat × Deed) → Standing → Prop where
  | unborn : Tale [] .unborn
  | fresh (i : Nat) : Tale [] (.fresh i)
  | announced (i : Nat) (frame : ByteArray) : Tale [(i, .wrote frame true)] (.announced i frame)
  | broken (i : Nat) (frame : ByteArray) : Tale [(i, .wrote frame false)] .over
  | waiting (i : Nat) (token : Int) (swap : PendingSwap) :
      Tale (parkedBy i token swap) (.waiting token swap)
  | due (i j : Nat) (token : Int) (swap : PendingSwap) :
      Tale (parkedBy i token swap ++ [(j, .takenOut)]) (.due j)
  | answered (i j : Nat) (token : Int) (swap : PendingSwap) {frame : ByteArray} (arrived : Bool)
      (final : IsFinal frame) :
      Tale (parkedBy i token swap ++ [(j, .takenOut), (j, .wrote frame arrived)]) .over

/-- Each connection stands in one way: as the hands of the threads and the table have it. -/
structure Agree (hold : Nat → Hold) (stands : LinkId → Standing) (parked : Parked) : Prop where
  fresh : ∀ i link, hold i = .fresh link → stands link = .fresh i
  announced : ∀ i link frame, hold i = .announced link frame → stands link = .announced i frame
  due : ∀ i link, link ∈ (hold i).dues ↔ stands link = .due i
  once : ∀ i, (hold i).dues.Nodup
  waiting : ∀ token swap, (token, swap) ∈ parked.swaps → stands swap.link = .waiting token swap
  held : ∀ link token swap,
    stands link = .waiting token swap → (token, swap) ∈ parked.swaps ∧ swap.link = link

namespace Agree

variable {hold : Nat → Hold} {stands : LinkId → Standing} {parked : Parked} {i : Nat}
  {link : LinkId} {frame : ByteArray}

theorem connect (agree : Agree hold stands parked) (free : hold i = .free)
    (unborn : stands link = .unborn) :
    Agree (update hold i (.fresh link)) (update stands link (.fresh i)) parked := by
  obtain ⟨fresh, announced, due, once, waiting, held⟩ := agree
  constructor <;> grind [Hold.dues]

theorem arrive (agree : Agree hold stands parked) (fresh : hold i = .fresh link) :
    Agree (update hold i (.announced link frame)) (update stands link (.announced i frame))
      parked := by
  have stood := agree.fresh i link fresh
  obtain ⟨fresh, announced, due, once, waiting, held⟩ := agree
  constructor <;> grind [Hold.dues]

theorem fail (agree : Agree hold stands parked) (fresh : hold i = .fresh link) :
    Agree (update hold i .free) (update stands link .over) parked := by
  have stood := agree.fresh i link fresh
  obtain ⟨fresh, announced, due, once, waiting, held⟩ := agree
  constructor <;> grind [Hold.dues]

theorem answer (agree : Agree hold stands parked) {links : List LinkId}
    (due : hold i = .due (link :: links)) :
    Agree (update hold i (.due links)) (update stands link .over) parked := by
  have stood := (agree.due i link).1 (by simp [due])
  have once := agree.once i
  obtain ⟨fresh, announced, due, once, waiting, held⟩ := agree
  constructor <;> grind [Hold.dues]

theorem park (agree : Agree hold stands parked) {swap : PendingSwap}
    (announced : hold i = .announced swap.link frame) :
    Agree (update hold i .free) (update stands swap.link (.waiting parked.next swap))
      (parked.park swap).2 := by
  have stood := agree.announced i swap.link frame announced
  obtain ⟨fresh, announced, due, once, waiting, held⟩ := agree
  constructor <;> grind [Hold.dues, Parked.park]

/-- No two swaps wait with one connection. -/
theorem links_nodup (agree : Agree hold stands parked) (ordered : Parked.Ordered parked.swaps) :
    (parked.swaps.map (·.2.link)).Nodup := by
  refine List.pairwise_map.2 (ordered.imp_of_mem ?_)
  rintro ⟨token, swap⟩ ⟨later, other⟩ first second below same
  have stood := agree.waiting token swap first
  rw [show swap.link = other.link from same, agree.waiting later other second] at stood
  obtain ⟨rfl, -⟩ := Standing.waiting.inj stood
  exact absurd below (Int.lt_irrefl _)

theorem takeOut (agree : Agree hold stands parked) (ordered : Parked.Ordered parked.swaps)
    (free : hold i = .free) {taken : List PendingSwap} {parked' : Parked}
    (takes : parked.TakesOut taken parked') :
    Agree (update hold i (.due (taken.map (·.link))))
      (fun link => if link ∈ taken.map (·.link) then .due i else stands link) parked' := by
  obtain ⟨-, chosen, same, rest⟩ := takes
  have same := same.map (·.link)
  have member (link : LinkId) : link ∈ taken.map (·.link) ↔
      ∃ token swap, (token, swap) ∈ parked.swaps ∧ chosen (token, swap) ∧ swap.link = link := by
    rw [same.mem_iff]
    simp [and_assoc]
  have nodup : (taken.map (·.link)).Nodup := by
    rw [same.nodup_iff, List.map_map]
    exact (agree.links_nodup ordered).sublist (List.filter_sublist.map _)
  have none (link : LinkId) : stands link ≠ .due i := fun stood => by
    simpa [free] using (agree.due i link).2 stood
  generalize taken.map (·.link) = links at member nodup
  obtain ⟨fresh, announced, due, once, waiting, held⟩ := agree
  constructor <;> grind [Hold.dues]

end Agree

/-- The hands of the threads, the table and the stories of the connections agree. -/
structure Ledger (hold : Nat → Hold) (stands : LinkId → Standing) (parked : Parked)
    (log : List Act) : Prop where
  agree : Agree hold stands parked
  born : ∀ link, Unused link log → stands link = .unborn
  tale : ∀ link, Tale (story link log) (stands link)

theorem story_concat (link : LinkId) (log : List Act) (act : Act) :
    story link (log ++ [act]) = story link log ++ deeds link act := by
  simp [story]

theorem unused_concat {link : LinkId} {log : List Act} {act : Act} :
    Unused link (log ++ [act]) ↔ Unused link log ∧ act.event ≠ ⟨.connect, .ok link⟩ := by
  simp [Unused, or_imp, forall_and]

theorem deeds_send {link : LinkId} {i : Nat} {frame : ByteArray}
    {answer : Except TransportError Unit} :
    deeds link ⟨i, ⟨.send link frame, answer⟩⟩ = [(i, .wrote frame answer.isOk)] := by
  simp [deeds]

theorem deeds_send_of_ne {link : LinkId} {i : Nat} {frame : ByteArray}
    {answer : Except TransportError Unit} (other : LinkId) (different : other ≠ link) :
    deeds other ⟨i, ⟨.send link frame, answer⟩⟩ = [] := by
  simp [deeds, different.symm]

/-- In a list in which no two have the same mark, one is found by its mark. -/
theorem filter_mark {α : Type} (mark : α → LinkId) {l : List α} (nodup : (l.map mark).Nodup) {a : α}
    (member : a ∈ l) : l.filter (fun b => mark b = mark a) = [a] := by
  induction l with
  | nil => cases member
  | cons first rest ih =>
      obtain ⟨absent, nodup⟩ := List.nodup_cons.1 nodup
      rcases List.mem_cons.1 member with rfl | later
      · have none : rest.filter (fun b => mark b = mark a) = [] := by
          refine List.filter_eq_nil_iff.2 fun b inRest same => absent ?_
          rw [← of_decide_eq_true same]
          exact List.mem_map_of_mem inRest
        simp [none]
      · have different : mark first ≠ mark a := fun same =>
          absent (same ▸ List.mem_map_of_mem later)
        simp [different, ih nodup later]

theorem filter_mark_of_not_mem {α : Type} (mark : α → LinkId) {l : List α} {link : LinkId}
    (absent : link ∉ l.map mark) : l.filter (fun b => mark b = link) = [] :=
  List.filter_eq_nil_iff.2 fun _ member same =>
    absent (of_decide_eq_true same ▸ List.mem_map_of_mem member)

namespace Ledger

variable {hold hold' : Nat → Hold} {stands : LinkId → Standing} {parked parked' : Parked}
  {log : List Act} {act : Act} {i : Nat} {link : LinkId}

/-- An act that does something to at most one connection changes how that one stands. -/
theorem moveOne (ledger : Ledger hold stands parked log) {standing : Standing}
    (agree : Agree hold' (update stands link standing) parked')
    (seen : ¬ Unused link (log ++ [act])) (others : ∀ other, other ≠ link → deeds other act = [])
    (tale : Tale (story link log ++ deeds link act) standing) :
    Ledger hold' (update stands link standing) parked' (log ++ [act]) where
  agree := agree
  born other unused := by
    have different : other ≠ link := fun same => seen (same ▸ unused)
    rw [update_of_ne different]
    exact ledger.born other (unused_concat.1 unused).1
  tale other := by
    rw [story_concat]
    by_cases same : other = link
    · subst same
      rw [update_self]
      exact tale
    · rw [update_of_ne same, others other same, List.append_nil]
      exact ledger.tale other

/-- An act that does nothing to any connection. -/
theorem idle (ledger : Ledger hold stands parked log) (nothing : ∀ link, deeds link act = [])  :
    Ledger hold stands parked (log ++ [act]) where
  agree := ledger.agree
  born link unused := ledger.born link (unused_concat.1 unused).1
  tale link := by
    rw [story_concat, nothing, List.append_nil]
    exact ledger.tale link

theorem seen_of_stands (ledger : Ledger hold stands parked log) (act : Act) (link : LinkId)
    (stood : stands link ≠ .unborn) : ¬ Unused link (log ++ [act]) :=
  fun unused => stood (ledger.born link (unused_concat.1 unused).1)

theorem connect (ledger : Ledger hold stands parked log) (free : hold i = .free)
    (unused : Unused link log) :
    Ledger (update hold i (.fresh link)) (update stands link (.fresh i)) parked
      (log ++ [⟨i, ⟨.connect, .ok link⟩⟩]) := by
  have unborn := ledger.born link unused
  refine ledger.moveOne (ledger.agree.connect free unborn) (by simp [unused_concat])
    (fun _ _ => rfl) ?_
  have tale := ledger.tale link
  rw [unborn] at tale
  generalize story link log = told at tale
  cases tale
  exact .fresh i

/-- A frame is written on a connection that is new. -/
theorem write (ledger : Ledger hold stands parked log) {frame : ByteArray}
    (fresh : hold i = .fresh link) (answer : Except TransportError Unit) :
    ∃ stands, Ledger (update hold i ((hold i).after (.send link frame) answer)) stands parked
      (log ++ [⟨i, ⟨.send link frame, answer⟩⟩]) := by
  have stood := ledger.agree.fresh i link fresh
  have seen := ledger.seen_of_stands ⟨i, ⟨.send link frame, answer⟩⟩ link (by simp [stood])
  have tale := ledger.tale link
  rw [stood] at tale
  rw [fresh]
  rcases answer with e | _
  · refine ⟨_, ledger.moveOne (ledger.agree.fail fresh) seen (deeds_send_of_ne) ?_⟩
    rw [deeds_send]
    generalize story link log = told at tale
    cases tale
    exact .broken i frame
  · refine ⟨_, ledger.moveOne (ledger.agree.arrive fresh) seen (deeds_send_of_ne) ?_⟩
    rw [deeds_send]
    generalize story link log = told at tale
    cases tale
    exact .announced i frame

/-- A last answer is written on a connection that was taken out. -/
theorem answer (ledger : Ledger hold stands parked log) {frame : ByteArray} {links : List LinkId}
    (due : hold i = .due (link :: links)) (final : IsFinal frame)
    (answer : Except TransportError Unit) :
    ∃ stands, Ledger (update hold i ((hold i).after (.send link frame) answer)) stands parked
      (log ++ [⟨i, ⟨.send link frame, answer⟩⟩]) := by
  have stood := (ledger.agree.due i link).1 (by simp [due])
  have seen := ledger.seen_of_stands ⟨i, ⟨.send link frame, answer⟩⟩ link (by simp [stood])
  have tale := ledger.tale link
  rw [stood] at tale
  have after : (hold i).after (.send link frame) answer = .due links := by
    rw [due]
    rfl
  rw [after]
  refine ⟨_, ledger.moveOne (ledger.agree.answer due) seen (deeds_send_of_ne) ?_⟩
  rw [deeds_send]
  generalize story link log = told at tale
  cases tale with
  | due by_ _ token swap =>
      rw [List.append_assoc]
      exact .answered by_ i token swap _ final

/-- The connection on which the interim answer was written is parked. -/
theorem park (ledger : Ledger hold stands parked log) {swap : PendingSwap}
    (announced : hold i = .announced swap.link (Response.needRestart swap.pid).encode) :
    ∃ stands, Ledger (update hold i .free) stands (parked.park swap).2
      (log ++ [⟨i, ⟨.park swap, (parked.park swap).1⟩⟩]) := by
  have stood := ledger.agree.announced i _ _ announced
  have seen := ledger.seen_of_stands ⟨i, ⟨.park swap, (parked.park swap).1⟩⟩ swap.link
    (by simp [stood])
  have tale := ledger.tale swap.link
  rw [stood] at tale
  refine ⟨_, ledger.moveOne (ledger.agree.park announced) seen ?_ ?_⟩
  · intro other different
    simp [deeds, different.symm]
  · have told : deeds swap.link ⟨i, ⟨.park swap, (parked.park swap).1⟩⟩ =
        [(i, .parked (parked.park swap).1 swap)] := by simp [deeds]
    rw [told]
    generalize story swap.link log = before at tale
    cases tale
    exact .waiting i _ swap

/-- Swaps are taken out of the table. -/
theorem takeOut (ledger : Ledger hold stands parked log) (act : Act)
    (ordered : Parked.Ordered parked.swaps) (free : hold i = .free)
    (takes : parked.TakesOut act.event.takenOut parked')
    (by_ : act.thread = i)
    (only : ∀ link, deeds link act =
      (act.event.takenOut.filter (·.link = link)).map fun _ => (act.thread, .takenOut)) :
    ∃ stands, Ledger (update hold i (.due (act.event.takenOut.map (·.link)))) stands parked'
      (log ++ [act]) := by
  have agree := ledger.agree.takeOut ordered free takes
  have nodup : (act.event.takenOut.map (·.link)).Nodup := by simpa using agree.once i
  have waited (link : LinkId) (member : link ∈ act.event.takenOut.map (·.link)) :
      ∃ token swap, stands link = .waiting token swap := by
    obtain ⟨-, chosen, same, -⟩ := takes
    rw [(same.map (·.link)).mem_iff, List.map_map] at member
    obtain ⟨entry, chosen, rfl⟩ := List.mem_map.1 member
    exact ⟨entry.1, entry.2, ledger.agree.waiting _ _ (List.mem_filter.1 chosen).1⟩
  refine ⟨_, agree, fun link unused => ?_, fun link => ?_⟩
  · have unborn := ledger.born link (unused_concat.1 unused).1
    have absent : link ∉ act.event.takenOut.map (·.link) := fun member => by
      obtain ⟨token, swap, stood⟩ := waited link member
      simp [unborn] at stood
    rw [if_neg absent, unborn]
  · rw [story_concat, only]
    by_cases member : link ∈ act.event.takenOut.map (·.link)
    · rw [if_pos member]
      obtain ⟨token, swap, stood⟩ := waited link member
      obtain ⟨taken, inIt, rfl⟩ := List.mem_map.1 member
      rw [filter_mark (·.link) nodup inIt]
      have tale := ledger.tale taken.link
      rw [stood] at tale
      generalize story taken.link log = told at tale
      subst by_
      cases tale with
      | waiting by_ => exact .due by_ act.thread token swap
    · rw [if_neg member, filter_mark_of_not_mem _ member, List.map_nil, List.append_nil]
      exact ledger.tale link

/-- The ledger can be kept whatever a thread asks that keeps the rules. -/
theorem move {m : Machine} (ledger : Ledger hold stands m.parked m.log)
    (counted : Counted m.parked m.log) {q : Question} {answer : q.Answer}
    (allowed : custody.allows (hold i) q) (answers : m.Answers q answer parked) :
    ∃ stands, Ledger (update hold i ((hold i).after q answer)) stands parked
      (m.log ++ [⟨i, ⟨q, answer⟩⟩]) := by
  have keeps (same : (hold i).after q answer = hold i) (table : parked = m.parked)
      (nothing : ∀ link, deeds link ⟨i, ⟨q, answer⟩⟩ = []) :
      ∃ stands, Ledger (update hold i ((hold i).after q answer)) stands parked
        (m.log ++ [⟨i, ⟨q, answer⟩⟩]) := by
    rw [same, update_eq_self, table]
    exact ⟨stands, ledger.idle nothing⟩
  cases q with
  | connect =>
      rcases answer with e | link
      · exact keeps rfl answers fun _ => rfl
      · obtain ⟨unused, rfl⟩ := answers
        exact ⟨_, ledger.connect allowed unused⟩
  | send link frame =>
      obtain rfl := answers
      rcases allowed with fresh | ⟨links, due, final⟩
      · exact ledger.write fresh answer
      · exact ledger.answer due final answer
  | park swap =>
      obtain ⟨rfl, rfl⟩ := Prod.mk.inj answers
      exact ledger.park allowed
  | take token =>
      obtain ⟨rfl, rfl⟩ := Prod.mk.inj answers
      have takes := Parked.take_takesOut counted.ordered token
      exact ledger.takeOut ⟨i, ⟨.take token, _⟩⟩ counted.ordered allowed takes rfl fun _ => rfl
  | takeSuperseded pid current =>
      have takes := Parked.Supersedes.takesOut answers
      exact ledger.takeOut ⟨i, ⟨.takeSuperseded pid current, _⟩⟩ counted.ordered allowed takes
        rfl fun _ => rfl
  | _ => exact keeps rfl answers fun _ => rfl

end Ledger

/-! ## Every reachable machine -/

/-- Every thread keeps the rules about the connections in its hands. -/
structure Kept (hold : Nat → Hold) (threads : List Thread) : Prop where
  obeys : ∀ i (thread : Thread), threads[i]? = some thread →
    thread.rest.Obeys custody (fun _ hold => hold.dues = []) (hold i)
  later : ∀ i, threads.length ≤ i → hold i = .free

namespace Kept

variable {hold : Nat → Hold} {threads : List Thread} {i : Nat}

theorem begin_custody (job : Job) :
    job.begin.rest.Obeys custody (fun _ hold => hold.dues = []) .free := by
  cases job with
  | attach agent => exact (attach_custody agent).andThen fun _ _ ends => ends
  | callBack args => exact (redefineParked_custody args).andThen fun _ _ ends => ends

theorem start (kept : Kept hold threads) (job : Job) : Kept hold (threads ++ [job.begin]) where
  obeys i thread found := by
    rcases Nat.lt_or_ge i threads.length with earlier | new
    · rw [List.getElem?_append_left earlier] at found
      exact kept.obeys i thread found
    · rw [List.getElem?_append_right new] at found
      obtain ⟨-, rfl⟩ := List.getElem?_eq_some_iff.1 found
      rw [kept.later i new]
      simpa using begin_custody job
  later i beyond := kept.later i (by simp at beyond; omega)

theorem move (kept : Kept hold threads) {job : Job} {q : Question}
    {next : q.Answer → Procedure Outcome} (found : threads[i]? = some ⟨job, .ask q next⟩)
    (answer : q.Answer) :
    Kept (update hold i ((hold i).after q answer)) (threads.set i ⟨job, next answer⟩) where
  obeys j thread at_ := by
    by_cases same : j = i
    · subst same
      have short := (List.getElem?_eq_some_iff.1 found).1
      rw [List.getElem?_set_self short] at at_
      obtain rfl := Option.some.inj at_
      rw [update_self]
      exact (kept.obeys j _ found).2 answer _ rfl
    · rw [List.getElem?_set_ne (Ne.symm same)] at at_
      rw [update_of_ne same]
      exact kept.obeys j thread at_
  later j beyond := by
    have short := (List.getElem?_eq_some_iff.1 found).1
    rw [List.length_set] at beyond
    rw [update_of_ne (by omega)]
    exact kept.later j beyond

/-- A thread that has a connection due answers it exactly once from where it is. -/
theorem answersOnce (kept : Kept hold threads) {link : LinkId} (once : (hold i).dues.Nodup)
    (due : link ∈ (hold i).dues) :
    ∃ thread : Thread, threads[i]? = some thread ∧ thread.rest.AnswersOnce link := by
  rcases Nat.lt_or_ge i threads.length with running | beyond
  · have found := List.getElem?_eq_getElem running
    refine ⟨threads[i], found, ?_⟩
    have obeys := kept.obeys i _ found
    cases held : hold i with
    | due links =>
        rw [held] at obeys once due
        exact answersOnce_of_due obeys once due
    | _ => simp [held] at due
  · simp [kept.later i beyond] at due

end Kept

/-- In every reachable machine the threads keep the rules, and their hands, the table and the
stories agree. -/
theorem Machine.Reachable.accounts {m : Machine} (reached : m.Reachable) :
    ∃ hold stands, Kept hold m.threads ∧ Ledger hold stands m.parked m.log := by
  induction reached with
  | empty =>
      refine ⟨fun _ => .free, fun _ => .unborn, ⟨by simp, fun _ _ => rfl⟩, ?_, fun _ _ => rfl,
        fun _ => .unborn⟩
      constructor <;> simp
  | @step m m' reached step ih =>
      obtain ⟨hold, stands, kept, ledger⟩ := ih
      cases step with
      | start job => exact ⟨hold, stands, kept.start job, ledger⟩
      | @move i _ moves =>
          obtain ⟨found, answers⟩ := moves
          obtain ⟨stands, ledger⟩ := ledger.move reached.counted (kept.obeys i _ found).1 answers
          exact ⟨_, stands, kept.move found _, ledger⟩

end HotSwap
