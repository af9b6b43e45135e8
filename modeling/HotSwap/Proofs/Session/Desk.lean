/-
# HotSwap.Proofs.Session.Desk -- sessions keep the docket

A request that was read and not decided lies in one of two places: its swap is parked
under the number of the process, or a session holds it and is about to answer it.  `Desk`
says so of a process: every swap in either place is due, no two of them have one
connection, and the docket is in order.  Each question that moves a swap or answers one
has a step lemma (`park`, `takesOut`, `tried`, `abandoned`), and where a session ends it
holds none.

The process is watched under the rules `attending`: it leaves the table to its sessions,
tells its number truly, and gives each session a connection that none had before.  Nothing
else is known of what it answers, so `attach_desk` and `callBack_desk` hold for every host.
-/
import HotSwap.Proofs.Session.Docket
import Mathlib.Data.List.Perm.Basic

namespace HotSwap

set_option autoImplicit false

/-- The swaps of a process that are parked. -/
def Parked.waiting (pid : UInt32) (t : Parked) : List PendingSwap :=
  (t.swaps.filter (·.2.pid == pid)).map (·.2)

namespace Parked

variable {pid : UInt32} {t t' : Parked}

theorem waiting_park {swap : PendingSwap} (own : swap.pid = pid) :
    (t.park swap).2.waiting pid = t.waiting pid ++ [swap] := by
  simp [waiting, park, own]

/-- What was taken out of a process's swaps and what is left of them are all that there were. -/
theorem TakesOut.perm {taken : List PendingSwap} (takes : t.TakesOut taken t')
    (own : ∀ swap ∈ taken, swap.pid = pid) : (taken ++ t'.waiting pid).Perm (t.waiting pid) := by
  obtain ⟨-, chosen, same, rest⟩ := takes
  have mine : t.swaps.filter chosen = (t.swaps.filter (·.2.pid == pid)).filter chosen := by
    rw [List.filter_filter]
    refine List.filter_congr fun entry member => ?_
    cases picked : chosen entry with
    | false => rfl
    | true =>
        have among : entry.2 ∈ taken :=
          same.mem_iff.2 (List.mem_map_of_mem (List.mem_filter.2 ⟨member, picked⟩))
        simp [own entry.2 among]
  have left : (t.swaps.filter (!chosen ·)).filter (·.2.pid == pid) =
      (t.swaps.filter (·.2.pid == pid)).filter (!chosen ·) := by
    simp only [List.filter_filter]
    exact List.filter_congr fun entry _ => Bool.and_comm ..
  refine (same.append_right _).trans ?_
  rw [waiting, waiting, rest, mine, left, ← List.map_append]
  simpa using (List.filter_append_perm chosen (t.swaps.filter (·.2.pid == pid))).map (·.2)

end Parked

namespace Session

open Procedure

variable {pid : UInt32} {held : List PendingSwap} {swap : PendingSwap} {t t' : Parked}
  {past : List Event} {link : LinkId} {request : Request}

/-- The swaps that a session holds and those that are parked are due, each on a connection of
its own. -/
structure Desk (pid : UInt32) (held : List PendingSwap) (t : Parked) (past : List Event) :
    Prop where
  sound : t.Sound
  docket : Docket pid past
  due : ∀ swap ∈ held ++ t.waiting pid, Due pid swap.link swap.request past
  apart : ((held ++ t.waiting pid).map (·.link)).Nodup

namespace Desk

/-- Swaps change places. -/
theorem move {held' : List PendingSwap} (desk : Desk pid held t past) (sound : t'.Sound)
    (same : (held' ++ t'.waiting pid).Perm (held ++ t.waiting pid)) : Desk pid held' t' past where
  sound := sound
  docket := desk.docket
  due swap member := desk.due swap (same.subset member)
  apart := (same.map (·.link)).nodup_iff.2 desk.apart

theorem park (desk : Desk pid (swap :: held) t past) (own : swap.pid = pid) :
    Desk pid held (t.park swap).2 past := by
  refine desk.move (desk.sound.park swap) ?_
  rw [Parked.waiting_park own, ← List.append_assoc]
  exact List.perm_append_singleton ..

theorem takesOut {taken : List PendingSwap} (desk : Desk pid [] t past)
    (takes : t.TakesOut taken t') (own : ∀ swap ∈ taken, swap.pid = pid) :
    Desk pid taken t' past :=
  desk.move (desk.sound.takesOut takes) (takes.perm own)

/-- A swap is let go of unanswered. -/
theorem drop (desk : Desk pid (swap :: held) t past) : Desk pid held t past where
  sound := desk.sound
  docket := desk.docket
  due other member := desk.due other (List.mem_cons_of_mem swap member)
  apart := (List.nodup_cons.1 desk.apart).2

theorem calm {event : Event} (desk : Desk pid held t past) (calm : Calm event) :
    Desk pid held t (past ++ [event]) where
  sound := desk.sound
  docket := .calm desk.docket calm
  due swap member := (desk.due swap member).append calm.undecided
  apart := desk.apart

theorem postponed (desk : Desk pid (swap :: held) t past) (arrived : Except TransportError Unit) :
    Desk pid (swap :: held) t
      (past ++ [⟨.send swap.link (Response.needRestart pid).encode, arrived⟩]) where
  sound := desk.sound
  docket := .postponed desk.docket (desk.due swap (List.mem_cons_self ..))
  due other member := by
    refine (desk.due other member).append fun frame arrived written => ?_
    exact (send_inj (List.mem_singleton.1 written)).2
  apart := desk.apart

/-- Where one swap is answered, the others are due as before. -/
theorem decided {later : List Event} (desk : Desk pid (swap :: held) t past)
    (docket : Docket pid (past ++ later))
    (only : ∀ link frame arrived, ⟨.send link frame, arrived⟩ ∈ later → link = swap.link) :
    Desk pid held t (past ++ later) where
  sound := desk.sound
  docket := docket
  due other member := by
    refine (desk.drop.due other member).append fun frame arrived written => ?_
    have same : other.link = swap.link := only _ _ _ written
    have apart := (List.nodup_cons.1 desk.apart).1
    exact absurd (List.mem_map.2 ⟨other, member, same⟩) apart
  apart := desk.drop.apart

theorem tried (desk : Desk pid (swap :: held) t past) (answer : Except Host.Error Unit)
    (arrived : Except TransportError Unit) :
    Desk pid held t (past ++ [⟨.host (.redefineClasses swap.request.changes), answer⟩] ++
      [⟨.send swap.link (verdict pid answer).encode, arrived⟩]) := by
  rw [List.append_assoc]
  refine desk.decided (.tried desk.docket (desk.due swap (List.mem_cons_self ..))) ?_
  intro link frame arrived written
  rcases List.mem_cons.1 written with redefined | last
  · cases redefined
  · exact (send_inj (List.mem_singleton.1 last)).1

theorem abandoned (desk : Desk pid (swap :: held) t past) {detail : ErrorDetail}
    (kind : detail.kind = superseded.kind ∨ detail.kind = handoffKind)
    (arrived : Except TransportError Unit) :
    Desk pid held t (past ++ [⟨.send swap.link (Response.error pid detail).encode, arrived⟩]) := by
  refine desk.decided (.abandoned desk.docket (desk.due swap (List.mem_cons_self ..)) kind) ?_
  intro link frame arrived written
  exact (send_inj (List.mem_singleton.1 written)).1

end Desk

/-! ## The rules -/

/-- A process with a number tells this number, and an agent that connects is given no connection
of which the log at the start knows. -/
def Possible (pid : UInt32) (start : List Event) : Event → Prop
  | ⟨.host .processId, number⟩ => number = pid
  | ⟨.connect, .ok link⟩ => ⟨.connect, .ok link⟩ ∉ start
  | _ => True

/-- A session attends to a process and the table, and remembers everything. -/
def attending (pid : UInt32) (start : List Event) : Rules (Parked × List Event) :=
  (({} : Parked).serving.guarded (Possible pid start)).recalling fun _ _ => True

variable {start : List Event}

theorem attending_ask {α : Type} {q : Question} {next : q.Answer → Procedure α}
    {post : α → Parked × List Event → Prop}
    (later : ∀ answer t', ({} : Parked).serving.answers t q answer t' →
      Possible pid start ⟨q, answer⟩ →
        (next answer).Obeys (attending pid start) post (t', past ++ [⟨q, answer⟩])) :
    (ask q next).Obeys (attending pid start) post (t, past) :=
  recalling_ask.2 ⟨trivial, fun answer t' comes => later answer t' comes.1 comes.2⟩

/-- The swaps that are held at the end of a procedure. -/
def Holds (pid : UInt32) (held : List PendingSwap) {α : Type} (_ : α) (s : Parked × List Event) :
    Prop :=
  Desk pid held s.1 s.2

/-! ## Answers -/

/-- Hanging up changes nothing. -/
theorem hangUp_desk {α : Type} {post : α → Parked × List Event → Prop} {next : Unit → Procedure α}
    (desk : Desk pid held t past)
    (later : ∀ past, Desk pid held t past →
      (next ()).Obeys (attending pid start) post (t, past)) :
    (ask (.hangUp link) next).Obeys (attending pid start) post (t, past) := by
  refine attending_ask fun _ t' same _ => ?_
  cases same
  exact later _ (desk.calm trivial)

/-- The swap that is held is tried.  Nothing lies between the redefinition and what comes next. -/
theorem execute_desk (desk : Desk pid (swap :: held) t past) :
    (execute swap.request).Obeys (attending pid start)
      (fun response s => ∃ answer before,
        response = verdict pid answer ∧ Desk pid (swap :: held) t before ∧
          s = (t, before ++ [⟨.host (.redefineClasses swap.request.changes), answer⟩]))
      (t, past) := by
  refine attending_ask fun number t' same possible => ?_
  cases same
  cases possible
  refine attending_ask fun answer t' same _ => ?_
  cases same
  have before := desk.calm (show Calm ⟨.host .processId, pid⟩ from trivial)
  rcases answer with cause | _
  · exact ⟨.error cause, _, rfl, before, rfl⟩
  · exact ⟨.ok (), _, rfl, before, rfl⟩

theorem swapNow_desk {progress : Progress} (desk : Desk pid [swap] t past)
    (parts : progress.phase = .dispatch) :
    (swapNow swap.request swap.link progress).Obeys (attending pid start) (Holds pid [])
      (t, past) := by
  refine advance_andThen (by simp [parts, Phase.next]) (perform_andThen ?_)
  refine (execute_desk desk).mono ?_
  rintro _ _ ⟨answer, before, rfl, desk, rfl⟩
  refine advance_andThen (by simp [Phase.next]) (attempt_andThen ?_)
  refine attending_ask fun arrived t' same _ => ?_
  cases same
  have answered := desk.tried answer arrived
  rcases arrived with cause | _
  · exact answered
  · exact advance_andThen (by simp [Phase.next]) answered

theorem complete_desk (desk : Desk pid [swap] t past) :
    (complete swap).Obeys (attending pid start) (Holds pid []) (t, past) := by
  have responded : (executeAndRespond swap.request swap.link).Obeys (attending pid start)
      (Holds pid []) (t, past) := by
    refine (execute_desk desk).andThen ?_
    rintro _ _ ⟨answer, before, rfl, desk, rfl⟩
    refine attending_ask fun arrived t' same _ => ?_
    cases same
    have answered := desk.tried answer arrived
    rcases arrived with cause | _ <;> exact answered
  refine responded.andThen fun result s desk => hangUp_desk desk fun past ends => ?_
  rcases result with e | response <;> exact ends

theorem abandon_desk {detail : ErrorDetail} (own : swap.pid = pid)
    (desk : Desk pid (swap :: held) t past)
    (kind : detail.kind = superseded.kind ∨ detail.kind = handoffKind) :
    (abandon swap detail).Obeys (attending pid start) (Holds pid held) (t, past) := by
  subst own
  refine attending_ask fun arrived t' same _ => ?_
  cases same
  exact hangUp_desk (desk.abandoned kind arrived) fun _ desk => desk

theorem abandonAll_desk (own : ∀ swap ∈ held, swap.pid = pid) (desk : Desk pid held t past) :
    (abandonAll held).Obeys (attending pid start) (Holds pid []) (t, past) := by
  induction held generalizing t past with
  | nil => exact desk
  | cons swap rest ih =>
      obtain ⟨first, later⟩ := List.forall_mem_cons.1 own
      exact (abandon_desk first desk (.inl rfl)).andThen fun _ _ desk => ih later desk

/-! ## Parking -/

/-- A swap that is found under a token comes into the hands of who asked for it. -/
theorem take_desk {α : Type} {token : Int} {post : α → Parked × List Event → Prop}
    {next : Option PendingSwap → Procedure α} (desk : Desk pid [] t past)
    (own : ∀ swap, (t.take token).1 = some swap → swap.pid = pid)
    (none : ∀ t' past, Desk pid [] t' past →
      (next none).Obeys (attending pid start) post (t', past))
    (some : ∀ swap t' past, swap.pid = pid → Desk pid [swap] t' past →
      (next (some swap)).Obeys (attending pid start) post (t', past)) :
    (ask (.take token) next).Obeys (attending pid start) post (t, past) := by
  refine attending_ask fun found t' takes _ => ?_
  have takes : (found, t') = t.take token := takes
  have out := Parked.take_takesOut desk.sound.ordered token
  rw [← takes] at out own
  have taken := desk.takesOut out fun swap member => own swap (Option.mem_toList.1 member)
  have calm := taken.calm (show Calm ⟨.take token, found⟩ from trivial)
  cases found with
  | none => exact none _ _ calm
  | some swap => exact some swap _ _ (own swap rfl) calm

/-- The older swaps of the process come into the hands of who asked for them. -/
theorem takeSuperseded_desk {α : Type} {current : Int} {post : α → Parked × List Event → Prop}
    {next : List PendingSwap → Procedure α} (desk : Desk pid [] t past)
    (later : ∀ swaps t' past, (∀ swap ∈ swaps, swap.pid = pid) → Desk pid swaps t' past →
      (next swaps).Obeys (attending pid start) post (t', past)) :
    (ask (.takeSuperseded pid current) next).Obeys (attending pid start) post (t, past) := by
  refine attending_ask fun swaps t' takes _ => ?_
  have takes : t.Supersedes pid current swaps t' := takes
  have own : ∀ swap ∈ swaps, swap.pid = pid := by
    intro swap member
    obtain ⟨token, -, -, same⟩ := takes.stale member
    exact same
  exact later _ _ _ own
    ((desk.takesOut takes.takesOut own).calm
      (show Calm ⟨.takeSuperseded pid current, swaps⟩ from trivial))

theorem takeBack_desk {token : Int} (cause : Host.Error) (desk : Desk pid [] t past)
    (own : ∀ swap, (t.take token).1 = some swap → swap.pid = pid) :
    (takeBack token cause).Obeys (attending pid start) (Holds pid []) (t, past) := by
  refine take_desk desk own (fun _ _ desk => desk) fun swap t' past own desk => ?_
  exact abandon_desk own desk (.inr rfl)

theorem transfer_desk (desk : Desk pid [⟨pid, request, link⟩] t past) :
    (transfer request link).Obeys (attending pid start) (Holds pid []) (t, past) := by
  refine attending_ask fun number t' same possible => ?_
  cases same
  cases possible
  have desk := desk.calm (show Calm ⟨.host .processId, pid⟩ from trivial)
  refine attending_ask fun arrived t' same _ => ?_
  cases same
  have desk := desk.postponed arrived
  rcases arrived with cause | _
  · exact hangUp_desk desk.drop fun _ desk => desk
  refine attending_ask fun token t' parks _ => ?_
  cases parks
  have parked := (desk.park rfl).calm (show Calm ⟨.park ⟨pid, request, link⟩, t.next⟩ from trivial)
  refine attending_ask fun handed t' same _ => ?_
  cases same
  have told := parked.calm
    (show Calm ⟨.host (.callStatic handlerClass prepareForHotSwap [.long t.next]), handed⟩
      from trivial)
  rcases handed with cause | _
  · refine (takeBack_desk cause told ?_).andThen fun _ _ desk => desk
    intro swap found
    cases (desk.sound.take_park ⟨pid, request, link⟩).symm.trans found
    rfl
  · refine takeSuperseded_desk told fun swaps t' past own desk => ?_
    exact (abandonAll_desk own desk).andThen fun _ _ desk => desk

theorem swapLater_desk {progress : Progress} (desk : Desk pid [⟨pid, request, link⟩] t past)
    (parts : progress.phase = .dispatch) :
    (swapLater request link progress).Obeys (attending pid start) (Holds pid []) (t, past) := by
  refine advance_andThen (by simp [parts, Phase.next]) ?_
  refine advance_andThen (by simp [Phase.next]) (attempt_andThen ?_)
  refine (transfer_desk desk).mono fun r s desk => ?_
  rcases r with e | token
  · exact desk
  · exact advance_andThen (by simp [Phase.next]) desk

/-! ## The whole -/

/-- A connection was opened that no parked swap has, and nothing was written on it. -/
structure Bare (pid : UInt32) (link : LinkId) (s : Parked × List Event) : Prop where
  desk : Desk pid [] s.1 s.2
  undecided : Undecided pid link s.2
  elsewhere : ∀ swap ∈ s.1.waiting pid, swap.link ≠ link

/-- The request of a connection is held as a swap. -/
theorem Bare.hold (bare : Bare pid link (t, past)) (asked : Asked link request past) :
    Desk pid [⟨pid, request, link⟩] t past where
  sound := bare.desk.sound
  docket := bare.desk.docket
  due swap member := by
    rcases List.mem_cons.1 member with rfl | parked
    · exact ⟨asked, bare.undecided⟩
    · exact bare.desk.due swap parked
  apart := by
    refine List.nodup_cons.2 ⟨fun member => ?_, bare.desk.apart⟩
    obtain ⟨swap, parked, same⟩ := List.mem_map.1 member
    exact bare.elsewhere swap parked same

/-- A connection of which the log did not know is bare. -/
theorem Desk.opened (desk : Desk pid [] t past) (unused : ⟨.connect, .ok link⟩ ∉ past) :
    Bare pid link (t, past ++ [⟨.connect, .ok link⟩]) where
  desk :=
    { desk with
      docket := .opened desk.docket unused
      due := fun swap member => (desk.due swap member).append nofun }
  undecided frame arrived member := by
    rcases List.mem_append.1 member with earlier | last
    · obtain ⟨before, after, split⟩ := List.append_of_mem earlier
      obtain ⟨request, due, -⟩ := desk.docket.sent split
      exact absurd (split ▸ List.mem_append_left _ due.asked.connected) unused
    · cases List.mem_singleton.1 last
  elsewhere swap parked same :=
    absurd (same ▸ (desk.due swap parked).asked.connected) unused

theorem Preparatory.calm {q : Question} (preparatory : Preparatory q) (answer : q.Answer) :
    Calm ⟨q, answer⟩ := by
  cases q with
  | host call => cases call <;> first | exact trivial | exact preparatory.elim
  | _ => first | exact trivial | exact preparatory.elim

theorem Bare.kept {q : Question} {s s' : Parked × List Event} {answer : q.Answer}
    (bare : Bare pid link s) (preparatory : Preparatory q)
    (comes : (attending pid start).answers s q answer s') : Bare pid link s' := by
  obtain ⟨t, past⟩ := s
  obtain ⟨t', _⟩ := s'
  obtain ⟨⟨serves, -⟩, rfl⟩ := comes
  have same : t' = t := by
    cases q <;> first | exact serves | exact preparatory.elim
  subst same
  have calm := preparatory.calm answer
  exact
    { desk := bare.desk.calm calm
      undecided := fun frame arrived member =>
        (List.mem_append.1 member).elim (bare.undecided frame arrived)
          (calm.undecided frame arrived)
      elsewhere := bare.elsewhere }

/-- What is known of a bare connection when one frame or none was read there. -/
structure BareBehind (pid : UInt32) (link : LinkId) (past : List Event) (read : Option ByteArray)
    (s : Parked × List Event) : Prop where
  bare : Bare pid link s
  first : ∀ frame, read = some frame →
    past ++ [⟨.connect, .ok link⟩, ⟨.receive link, .ok frame⟩] <+: s.2

/-- The first half of a session ends with the request in its hands, or with nothing. -/
theorem prepare_desk (agent : Agent) (bare : Bare pid link (t, past ++ [⟨.connect, .ok link⟩])) :
    (prepare agent link Progress.start).Obeys (attending pid start)
      (fun r s =>
        match r with
        | (.error _, _) => Desk pid [] s.1 s.2
        | (.ok request, progress) =>
            Desk pid [⟨pid, request, link⟩] s.1 s.2 ∧ progress.phase = .dispatch)
      (t, past ++ [⟨.connect, .ok link⟩]) := by
  have ready : (prepare agent link Progress.start).Obeys (attending pid start)
      (EndsReady (BareBehind pid link past) fun _ => True) (t, past ++ [⟨.connect, .ok link⟩]) := by
    refine prepare_ready agent link (fun _ _ _ _ _ => trivial) ?_ ?_ (fun _ _ _ _ _ => trivial)
      ⟨bare, nofun⟩
    · intro read q s answer s' preparatory behind comes
      exact ⟨behind.bare.kept preparatory comes, fun frame same =>
        (behind.first frame same).trans (comes.2 ▸ List.prefix_append ..)⟩
    · intro frame s' comes
      refine ⟨bare.kept (q := .receive link) trivial comes, ?_⟩
      rintro _ ⟨⟩
      simp [comes.2]
  have halfway : (prepare agent link Progress.start).Obeys (attending pid start) Halfway
      (t, past ++ [⟨.connect, .ok link⟩]) :=
    prepare_halfway (fun _ _ _ => trivial) agent link
  refine (ready.and halfway).mono ?_
  rintro ⟨e | request, progress⟩ s ⟨ends, half⟩
  · obtain ⟨read, behind⟩ := ends
    exact behind.bare.desk
  · obtain ⟨frame, decoded, behind, -⟩ := ends
    obtain ⟨later, grown⟩ := behind.first frame rfl
    refine ⟨behind.bare.hold ⟨past, frame, later, ?_, decoded⟩, half.2⟩
    simpa using grown.symm

/-- A session leaves the desk in order, and holds nothing when it ends. -/
theorem attach_desk (agent : Agent) (desk : Desk pid [] t past) :
    agent.attach.Obeys (attending pid past) (Holds pid []) (t, past) := by
  refine attach_obeys (attempt_andThen (attending_ask fun opened t' serves possible => ?_))
  obtain ⟨rfl, -⟩ := serves
  rcases opened with cause | link
  · exact desk.calm (show Calm ⟨.connect, .error cause⟩ from trivial)
  refine stage_andThen (hangingUpOnFailure_obeys ?_)
  refine (prepare_desk agent (desk.opened possible)).mono ?_
  rintro ⟨e | request, progress⟩ ⟨t, now⟩ ready
  · exact hangUp_desk ready fun _ desk => desk
  obtain ⟨desk, parts⟩ := ready
  cases later : request.restartActivity with
  | true =>
      simp only [later, if_true]
      refine (swapLater_desk desk parts).mono ?_
      rintro ⟨e | completion, progress⟩ s desk <;> exact desk
  | false =>
      simp only [later]
      refine hangingUp_obeys ((swapNow_desk desk parts).mono ?_)
      rintro ⟨e | completion, progress⟩ s desk <;> exact hangUp_desk desk fun _ desk => desk

/-- A call back with a token of the process leaves the desk in order. -/
theorem callBack_desk {token : Int} (desk : Desk pid [] t past)
    (own : ∀ swap, (t.take token).1 = some swap → swap.pid = pid) :
    (callNative .tryRedefineClasses [.long token]).Obeys (attending pid start) (Holds pid [])
      (t, past) := by
  refine take_desk desk own (fun _ _ desk => desk) fun swap t' past own desk => ?_
  exact (complete_desk desk).andThen fun _ _ desk => desk

end Session

end HotSwap
