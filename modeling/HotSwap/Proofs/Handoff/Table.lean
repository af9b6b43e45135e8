/-
# HotSwap.Proofs.Handoff.Table -- what the table of parked swaps keeps in order

Tokens count up, so no two entries have the same one.  Both ways of taking swaps out are
of one kind (`TakesOut`): some entries are chosen and handed out, all others stay, and the
next token is what it was.  In which order they are handed out is left open, also where
`takeSuperseded` has one (`Supersedes`).  A token that no entry has takes nothing out and
changes nothing.
-/
import HotSwap.World.Parked

namespace HotSwap

set_option autoImplicit false

namespace Parked

/-- Some entries of the table were taken out, and all others are still there. -/
def TakesOut (t : Parked) (taken : List PendingSwap) (t' : Parked) : Prop :=
  t'.next = t.next ∧
    ∃ chosen : Int × PendingSwap → Bool,
      taken.Perm ((t.swaps.filter chosen).map (·.2)) ∧ t'.swaps = t.swaps.filter (!chosen ·)

/-- The older swaps of a process were taken out, in any order. -/
def Supersedes (t : Parked) (pid : UInt32) (current : Int) (taken : List PendingSwap)
    (t' : Parked) : Prop :=
  taken.Perm (t.takeSuperseded pid current).1 ∧ t' = (t.takeSuperseded pid current).2

/-- Tokens are used once. -/
def Ordered (swaps : List (Int × PendingSwap)) : Prop := swaps.Pairwise (·.1 < ·.1)

theorem Ordered.swap_eq {swaps : List (Int × PendingSwap)} (ordered : Ordered swaps) {token : Int}
    {swap other : PendingSwap} (one : (token, swap) ∈ swaps) (two : (token, other) ∈ swaps) :
    swap = other := by
  induction swaps with
  | nil => cases one
  | cons first rest ih =>
      obtain ⟨above, later⟩ := List.pairwise_cons.1 ordered
      rcases List.mem_cons.1 one with rfl | oneLater
      · rcases List.mem_cons.1 two with same | twoLater
        · exact (Prod.mk.inj same).2.symm
        · exact absurd (above _ twoLater) (Int.lt_irrefl _)
      · rcases List.mem_cons.1 two with rfl | twoLater
        · exact absurd (above _ oneLater) (Int.lt_irrefl _)
        · exact ih later oneLater twoLater

theorem lookup_toList {swaps : List (Int × PendingSwap)} (ordered : Ordered swaps) (token : Int) :
    (swaps.lookup token).toList = (swaps.filter (·.1 == token)).map (·.2) := by
  induction swaps with
  | nil => rfl
  | cons first rest ih =>
      obtain ⟨above, later⟩ := List.pairwise_cons.1 ordered
      obtain ⟨number, swap⟩ := first
      by_cases same : number = token
      · subst same
        have none : rest.filter (·.1 == number) = [] := by
          refine List.filter_eq_nil_iff.2 fun other member same => ?_
          have := above other member
          simp only [beq_iff_eq] at same
          omega
        simp [none]
      · have skips : (token == number) = false := by simpa using fun h => same h.symm
        simpa [List.lookup_cons, skips, same] using ih later

theorem take_takesOut {t : Parked} (ordered : Ordered t.swaps) (token : Int) :
    t.TakesOut (t.take token).1.toList (t.take token).2 :=
  ⟨rfl, (·.1 == token), .of_eq (lookup_toList ordered token), rfl⟩

theorem supersedes (t : Parked) (pid : UInt32) (current : Int) :
    t.Supersedes pid current (t.takeSuperseded pid current).1 (t.takeSuperseded pid current).2 :=
  ⟨.refl _, rfl⟩

/-- What was taken out as older was older, and the process's own. -/
theorem Supersedes.stale {t t' : Parked} {pid : UInt32} {current : Int}
    {taken : List PendingSwap} (supersedes : t.Supersedes pid current taken t')
    {swap : PendingSwap} (member : swap ∈ taken) :
    ∃ token, (token, swap) ∈ t.swaps ∧ token ≠ current ∧ swap.pid = pid := by
  obtain ⟨⟨token, _⟩, chosen, rfl⟩ := List.mem_map.1 (supersedes.1.subset member)
  obtain ⟨there, stale⟩ := List.mem_filter.1 chosen
  exact ⟨token, there, by simpa [isStale] using stale⟩

theorem Supersedes.takesOut {t t' : Parked} {pid : UInt32} {current : Int}
    {taken : List PendingSwap} (supersedes : t.Supersedes pid current taken t') :
    t.TakesOut taken t' := by
  obtain ⟨same, rfl⟩ := supersedes
  exact ⟨rfl, isStale pid current, same, rfl⟩

/-- The table with the tokens in order and the next one above them all. -/
structure Sound (t : Parked) : Prop where
  ordered : Ordered t.swaps
  above : ∀ entry ∈ t.swaps, entry.1 < t.next

theorem sound_empty : Sound {} := ⟨List.Pairwise.nil, by simp⟩

theorem Sound.park {t : Parked} (sound : t.Sound) (swap : PendingSwap) : (t.park swap).2.Sound where
  ordered := by
    refine List.pairwise_append.2 ⟨sound.ordered, List.pairwise_singleton .., ?_⟩
    intro entry member last same
    rw [List.mem_singleton.1 same]
    exact sound.above entry member
  above := by
    intro entry member
    show entry.1 < t.next + 1
    rcases List.mem_append.1 member with earlier | last
    · have := sound.above entry earlier
      omega
    · rw [List.mem_singleton.1 last]
      omega

theorem Sound.takesOut {t t' : Parked} (sound : t.Sound) {taken : List PendingSwap}
    (takes : t.TakesOut taken t') : t'.Sound := by
  obtain ⟨next, chosen, -, rest⟩ := takes
  constructor
  · rw [rest]
    exact sound.ordered.sublist List.filter_sublist
  · rw [rest, next]
    intro entry member
    exact sound.above entry (List.mem_filter.1 member).1

/-- Behind any older swaps the one that was parked last is found by its token. -/
theorem Sound.lookup_next {t : Parked} (sound : t.Sound) {older : List (Int × PendingSwap)}
    (old : older ⊆ t.swaps) (swap : PendingSwap) :
    (older ++ [(t.next, swap)]).lookup t.next = some swap := by
  have absent : older.lookup t.next = none := by
    refine List.lookup_eq_none_iff.2 fun entry member => ?_
    have below := sound.above entry (old member)
    rw [bne_iff_ne]
    omega
  rw [List.lookup_append, absent]
  simp

/-- A swap that was parked last is taken out by its token, and nothing else is. -/
theorem Sound.take_park {t : Parked} (sound : t.Sound) (swap : PendingSwap) :
    ((t.park swap).2.take (t.park swap).1).1 = some swap :=
  sound.lookup_next (List.Subset.refl _) swap

/-- Of a swap that was parked last all older ones of its process are taken out, and no other. -/
theorem Sound.swaps_supersede {t : Parked} (sound : t.Sound) (swap : PendingSwap) :
    ((t.park swap).2.takeSuperseded swap.pid (t.park swap).1).2.swaps =
      t.swaps.filter (fun entry => entry.2.pid != swap.pid) ++ [(t.next, swap)] := by
  have others : t.swaps.filter (fun entry => !isStale swap.pid t.next entry) =
      t.swaps.filter (fun entry => entry.2.pid != swap.pid) := by
    refine List.filter_congr fun entry member => ?_
    have below := sound.above entry member
    have older : (entry.1 != t.next) = true := by
      rw [bne_iff_ne]
      omega
    rw [isStale, older, Bool.true_and, bne]
  show (t.swaps ++ [(t.next, swap)]).filter (fun entry => !isStale swap.pid t.next entry) = _
  rw [List.filter_append, others]
  simp [isStale]

/-- It is found by its token still when they are gone. -/
theorem Sound.take_supersede {t : Parked} (sound : t.Sound) (swap : PendingSwap) :
    (((t.park swap).2.takeSuperseded swap.pid (t.park swap).1).2.take (t.park swap).1).1 =
      some swap := by
  show ((t.park swap).2.takeSuperseded swap.pid (t.park swap).1).2.swaps.lookup t.next = some swap
  rw [sound.swaps_supersede]
  exact sound.lookup_next List.filter_sublist.subset swap

/-- The swaps that the last one replaces were parked before it, for the same process. -/
theorem mem_of_superseded {t t' : Parked} {swap other : PendingSwap} {pid : UInt32}
    {taken : List PendingSwap}
    (supersedes : (t.park swap).2.Supersedes pid (t.park swap).1 taken t')
    (member : other ∈ taken) : ∃ token, (token, other) ∈ t.swaps ∧ other.pid = pid := by
  obtain ⟨token, there, older, own⟩ := supersedes.stale member
  rcases List.mem_append.1 there with earlier | last
  · exact ⟨token, earlier, own⟩
  · obtain ⟨rfl, -⟩ := Prod.mk.inj (List.mem_singleton.1 last)
    exact absurd rfl older

/-- A token that the table does not know takes nothing out. -/
theorem take_unknown {t : Parked} {token : Int} (unknown : ∀ swap, (token, swap) ∉ t.swaps) :
    t.take token = (none, t) := by
  have different : ∀ entry ∈ t.swaps, (entry.1 != token) = true := by
    rintro ⟨number, swap⟩ member
    have other : number ≠ token := by
      rintro rfl
      exact unknown swap member
    simpa using other
  have absent : t.swaps.lookup token = none := by
    refine List.lookup_eq_none_iff.2 fun entry member => ?_
    have other := different entry member
    rw [bne_iff_ne] at other ⊢
    exact other.symm
  simp only [take, absent, List.filter_eq_self.2 different]

end Parked

end HotSwap
