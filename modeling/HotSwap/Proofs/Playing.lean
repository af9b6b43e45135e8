/-
# HotSwap.Proofs.Playing -- a procedure in one scene

`playing` are the rules of one who sees the whole scene: every question has the one
answer that the scene gives, and leaves the one scene behind it.  A procedure that obeys
them ends as it ends when it is performed (`perform_playing`), so what is said of the
parts of a session by rules can be put together for one scene as well.
-/
import HotSwap.Proofs.Rules
import HotSwap.World.Basic

namespace HotSwap

set_option autoImplicit false

open Procedure

variable {η α β : Type} [Host.Model η] {door : Connector} {s : Scene η}

/-- What putting a payload on disk leaves; this says it without a look into the disk. -/
theorem Scene.answer_deposit (door : Connector) (s : Scene η) (dir : String) (payload : Payload) :
    Scene.answer door (.deposit dir payload) s =
      ((Depot.deposit s.world.files dir payload).1,
        ⟨s.host, { s.world with files := (Depot.deposit s.world.files dir payload).2 }⟩) := by
  simp only [Scene.answer]

/-- Every question is answered as the scene answers it. -/
def playing (door : Connector) : Rules (Scene η) where
  allows _ _ := True
  answers s q answer s' := Scene.answer door q s = (answer, s')

@[simp] theorem playing_ask {q : Question} {next : q.Answer → Procedure α}
    {post : α → Scene η → Prop} :
    (ask q next).Obeys (playing door) post s ↔
      (next (Scene.answer door q s).1).Obeys (playing door) post (Scene.answer door q s).2 := by
  constructor
  · intro obeys
    exact obeys.2 _ _ rfl
  · rintro later
    refine ⟨trivial, fun answer s' comes => ?_⟩
    have same : (answer, s') = Scene.answer door q s := comes.symm
    rw [show answer = (Scene.answer door q s).1 from congrArg Prod.fst same,
      show s' = (Scene.answer door q s).2 from congrArg Prod.snd same]
    exact later

/-- A procedure ends as it does when it is performed. -/
theorem perform_playing {p : Procedure α} {post : α → Scene η → Prop}
    (obeys : p.Obeys (playing door) post s) :
    post (s.perform door p).1 (s.perform door p).2 := by
  induction p generalizing s with
  | done a => exact obeys
  | ask q next ih => exact ih _ (playing_ask.1 obeys)

end HotSwap
