/-
# HotSwap.Proofs.Coexistence.Likeness -- one process's part of two worlds

A process that runs alone has a world for itself; one that runs among others has a part of a
larger one.  For each kind of thing in a world there is a relation here that says that the two
hold the same for the process: connections and registries under numbers that mean the same
(`SameCells`), the places where its controllers dial in (`SameExchanges`), its parked swaps
(`SameParked`), and the directories of its payloads (`SameFiles`).

Beside each relation stands what a step of another process may do to the larger world
(`TouchesCells`, `TouchesParked`, and `Depot.Adds` for the files), and that the relation
survives it.
-/
import HotSwap.Proofs.Files.Neighbours
import HotSwap.Proofs.Handoff.Table
import HotSwap.Proofs.Session.Twins

namespace HotSwap

set_option autoImplicit false

/-- Values that are related are related by whatever follows. -/
theorem rel_imp {α β : Type} {R S : α → β → Prop} {a : Option α} {b : Option β}
    (rel : Option.Rel R a b) (imp : ∀ a b, R a b → S a b) : Option.Rel S a b := by
  cases rel with
  | none => exact .none
  | some holds => exact .some (imp _ _ holds)

/-! ## Numbered things -/

section Cells

variable {β : Type} {names names' other : List (Nat × Nat)} {a b b' : Array β} {i j : Nat}

/-- Under numbers that mean the same stand the same things, and the numbers are in the same
order. -/
structure SameCells (names : List (Nat × Nat)) (a b : Array β) : Prop where
  order : names.Pairwise fun p q => p.1 < q.1 ∧ p.2 < q.2
  cells : ∀ p ∈ names, ∃ v, a[p.1]? = some v ∧ b[p.2]? = some v

/-- In rows of pairs that both grow, one half tells the other. -/
theorem pair_iff {α : Type} [LinearOrder α] {names : List (α × α)}
    (order : names.Pairwise fun p q => p.1 < q.1 ∧ p.2 < q.2) {p q : α × α} (one : p ∈ names)
    (two : q ∈ names) : p.1 = q.1 ↔ p.2 = q.2 := by
  induction names with
  | nil => cases one
  | cons first rest ih =>
      obtain ⟨above, later⟩ := List.pairwise_cons.1 order
      rcases List.mem_cons.1 one with rfl | oneLater
      · rcases List.mem_cons.1 two with rfl | twoLater
        · simp
        · exact iff_of_false (above q twoLater).1.ne (above q twoLater).2.ne
      · rcases List.mem_cons.1 two with rfl | twoLater
        · exact iff_of_false (above p oneLater).1.ne' (above p oneLater).2.ne'
        · exact ih later oneLater twoLater

namespace SameCells

theorem sizes (same : SameCells names a b) {p : Nat × Nat} (known : p ∈ names) :
    p.1 < a.size ∧ p.2 < b.size := by
  obtain ⟨v, alone, both⟩ := same.cells p known
  exact ⟨(Array.getElem?_eq_some_iff.1 alone).1, (Array.getElem?_eq_some_iff.1 both).1⟩

/-- The same thing is put in place of the same thing. -/
theorem set (same : SameCells names a b) (known : (i, j) ∈ names) (v : β) :
    SameCells names (a.setIfInBounds i v) (b.setIfInBounds j v) := by
  refine ⟨same.order, fun p member => ?_⟩
  obtain ⟨short, short'⟩ := same.sizes known
  obtain ⟨old, alone, both⟩ := same.cells p member
  have together := pair_iff same.order known member
  by_cases here : i = p.1
  · have there : j = p.2 := together.1 here
    exact ⟨v, by simp [← here, short], by simp [← there, short']⟩
  · have there : j ≠ p.2 := fun there => here (together.2 there)
    exact ⟨old, by simpa [here] using alone, by simpa [there] using both⟩

/-- The same thing is put behind the others. -/
theorem push (same : SameCells names a b) (v : β) :
    SameCells (names ++ [(a.size, b.size)]) (a.push v) (b.push v) := by
  constructor
  · refine List.pairwise_append.2 ⟨same.order, List.pairwise_singleton _ _, ?_⟩
    intro p member last lastMember
    obtain rfl := List.mem_singleton.1 lastMember
    exact same.sizes member
  · intro p member
    rcases List.mem_append.1 member with old | last
    · obtain ⟨short, short'⟩ := same.sizes old
      obtain ⟨w, alone, both⟩ := same.cells p old
      exact ⟨w, by simpa [Array.getElem?_push, short.ne] using alone,
        by simpa [Array.getElem?_push, short'.ne] using both⟩
    · obtain rfl := List.mem_singleton.1 last
      exact ⟨v, by simp, by simp⟩

end SameCells

/-- Only what has a name is changed, and only what is new gets one. -/
structure TouchesCells (names names' : List (Nat × Nat)) (b b' : Array β) : Prop where
  kept : ∀ j v, b[j]? = some v → (∀ i, (i, j) ∉ names) → b'[j]? = some v
  news : ∀ p ∈ names', p ∈ names ∨ b.size ≤ p.2

theorem TouchesCells.refl (names : List (Nat × Nat)) (b : Array β) :
    TouchesCells names names b b := ⟨fun _ _ found _ => found, fun _ => .inl⟩

theorem TouchesCells.set (known : (i, j) ∈ names) (v : β) :
    TouchesCells names names b (b.setIfInBounds j v) := by
  refine ⟨fun k w found nameless => ?_, fun _ => .inl⟩
  have different : j ≠ k := fun same => nameless i (same ▸ known)
  simpa [different] using found

theorem TouchesCells.push (v : β) :
    TouchesCells names (names ++ [(i, b.size)]) b (b.push v) := by
  constructor
  · intro k w found _
    have short := (Array.getElem?_eq_some_iff.1 found).1
    simpa [Array.getElem?_push, short.ne] using found
  · intro p member
    refine (List.mem_append.1 member).imp_right fun last => ?_
    rw [List.mem_singleton.1 last]

/-- Numbers that are not both's. -/
def ApartNames {α : Type} (names other : List (α × α)) : Prop :=
  ∀ p ∈ names, ∀ q ∈ other, p.2 ≠ q.2

/-- What another process does to its own leaves this one's things the same. -/
theorem SameCells.touched (same : SameCells other a b) (touches : TouchesCells names names' b b')
    (apart : ApartNames names other) : SameCells other a b' ∧ ApartNames names' other := by
  constructor
  · refine ⟨same.order, fun p member => ?_⟩
    obtain ⟨v, alone, both⟩ := same.cells p member
    exact ⟨v, alone, touches.kept _ _ both fun i taken => apart _ taken p member rfl⟩
  · intro p member q known
    rcases touches.news p member with old | new
    · exact apart p old q known
    · exact (lt_of_lt_of_le (same.sizes known).2 new).ne'

end Cells

/-! ## Where controllers dial in -/

/-- At the places of a process the same connections wait. -/
def SameExchanges (mine : Nat → Prop) (ν : Names) (a b : Array (List LinkId)) : Prop :=
  ∀ exchange, mine exchange →
    Option.Rel (List.Forall₂ fun link link' => (link, link') ∈ ν.links) a[exchange]? b[exchange]?

theorem SameExchanges.mono {mine : Nat → Prop} {ν ν' : Names} {a b : Array (List LinkId)}
    (same : SameExchanges mine ν a b) (within : ν.Within ν') : SameExchanges mine ν' a b := by
  intro exchange own
  exact rel_imp (same exchange own) fun _ _ waiting =>
    waiting.imp fun _ _ known => within.links known

/-! ## Parked swaps -/

section Waiting

variable {x : Tenant} {ν ν' : Names} {t t' u : Parked} {pid : UInt32}

/-- The swaps of a process that are parked. -/
def Parked.ofPid (t : Parked) (pid : UInt32) : List (Int × PendingSwap) :=
  t.swaps.filter (·.2.pid == pid)

/-- Entries that are the same but for their tokens and connections. -/
def SameEntry (x : Tenant) (ν : Names) (entry entry' : Int × PendingSwap) : Prop :=
  (entry.1, entry'.1) ∈ ν.tokens ∧ ν.SameSwap x entry.2 entry'.2

/-- A table that holds the swaps of one process, and its part of a larger one. -/
structure SameParked (x : Tenant) (ν : Names) (t u : Parked) : Prop where
  order : ν.tokens.Pairwise fun p q => p.1 < q.1 ∧ p.2 < q.2
  bound : ∀ p ∈ ν.tokens, p.1 < t.next ∧ p.2 < u.next
  alone : t.Sound
  sound : u.Sound
  owned : ∀ entry ∈ u.swaps, (∃ token, (token, entry.1) ∈ ν.tokens) → entry.2.pid = x.pid
  swaps : List.Forall₂ (SameEntry x ν) t.swaps (u.ofPid x.pid)

/-- What a step of a process may do to the table. -/
structure TouchesParked (pid : UInt32) (tokens tokens' : List (Int × Int)) (u u' : Parked) :
    Prop where
  next : u.next ≤ u'.next
  sound : u'.Sound
  others : ∀ other, other ≠ pid → u'.ofPid other = u.ofPid other
  entries : ∀ entry ∈ u'.swaps, entry ∈ u.swaps ∨ u.next ≤ entry.1
  news : ∀ p ∈ tokens', p ∈ tokens ∨ u.next ≤ p.2

theorem SameEntry.mono (within : ν.Within ν') {entry entry' : Int × PendingSwap}
    (same : SameEntry x ν entry entry') : SameEntry x ν' entry entry' :=
  ⟨within.tokens same.1, same.2.mono within⟩

/-- The table stays the same for a process that learns other names than tokens. -/
theorem SameParked.mono (same : SameParked x ν t u) (within : ν.Within ν')
    (tokens : ν'.tokens = ν.tokens) : SameParked x ν' t u where
  order := tokens ▸ same.order
  bound := tokens ▸ same.bound
  alone := same.alone
  sound := same.sound
  owned := tokens ▸ same.owned
  swaps := same.swaps.imp fun _ _ => SameEntry.mono within

/-- A swap is parked in both tables. -/
theorem SameParked.park (same : SameParked x ν t u) {swap swap' : PendingSwap}
    (alike : ν.SameSwap x swap swap') :
    SameParked x { ν with tokens := ν.tokens ++ [(t.next, u.next)] } (t.park swap).2
        (u.park swap').2 ∧
      TouchesParked x.pid ν.tokens (ν.tokens ++ [(t.next, u.next)]) u (u.park swap').2 := by
  have within : ν.Within { ν with tokens := ν.tokens ++ [(t.next, u.next)] } :=
    ⟨List.Subset.refl _, List.Subset.refl _, List.subset_append_left .., id⟩
  have own : swap'.pid = x.pid := alike.pid.trans alike.own
  refine ⟨⟨?_, ?_, same.alone.park swap, same.sound.park swap', ?_, ?_⟩,
    ?_, same.sound.park swap', ?_, ?_, ?_⟩
  · refine List.pairwise_append.2 ⟨same.order, List.pairwise_singleton _ _, ?_⟩
    intro p member last lastMember
    obtain rfl := List.mem_singleton.1 lastMember
    exact same.bound p member
  · intro p member
    show p.1 < t.next + 1 ∧ p.2 < u.next + 1
    rcases List.mem_append.1 member with old | last
    · have := same.bound p old
      omega
    · obtain rfl := List.mem_singleton.1 last
      exact ⟨Int.lt_succ _, Int.lt_succ _⟩
  · rintro entry member ⟨token, known⟩
    rcases List.mem_append.1 member with old | last
    · rcases List.mem_append.1 known with known | new
      · exact same.owned entry old ⟨token, known⟩
      · have below := same.sound.above entry old
        rw [(Prod.mk.inj (List.mem_singleton.1 new)).2] at below
        exact absurd below (lt_irrefl _)
    · rw [List.mem_singleton.1 last]
      exact own
  · have kept : (u.park swap').2.ofPid x.pid = u.ofPid x.pid ++ [(u.next, swap')] := by
      simp [Parked.ofPid, Parked.park, own]
    rw [kept]
    refine List.rel_append (same.swaps.imp fun _ _ => SameEntry.mono within) (.cons ⟨?_, ?_⟩ .nil)
    · exact List.mem_append_right _ (List.mem_singleton_self _)
    · exact alike.mono within
  · show u.next ≤ u.next + 1
    omega
  · intro other different
    have foreign : swap'.pid ≠ other := fun same => different (same.symm.trans own)
    simp [Parked.ofPid, Parked.park, foreign]
  · intro entry member
    refine (List.mem_append.1 member).imp_right fun last => ?_
    rw [List.mem_singleton.1 last]
  · intro p member
    refine (List.mem_append.1 member).imp_right fun last => ?_
    rw [List.mem_singleton.1 last]

/-- Entries are taken out of both tables that are chosen alike, and none of another process. -/
theorem SameParked.takesOut (same : SameParked x ν t u)
    (chosen chosen' : Int × PendingSwap → Bool)
    (alike : ∀ entry entry', SameEntry x ν entry entry' → (chosen entry ↔ chosen' entry'))
    (own : ∀ entry ∈ u.swaps, chosen' entry = true → entry.2.pid = x.pid) :
    List.Forall₂ (ν.SameSwap x) ((t.swaps.filter chosen).map (·.2))
        ((u.swaps.filter chosen').map (·.2)) ∧
      SameParked x ν { t with swaps := t.swaps.filter (!chosen ·) }
        { u with swaps := u.swaps.filter (!chosen' ·) } ∧
      TouchesParked x.pid ν.tokens ν.tokens u { u with swaps := u.swaps.filter (!chosen' ·) } := by
  have sound : Parked.Sound { u with swaps := u.swaps.filter (!chosen' ·) } :=
    same.sound.takesOut ⟨rfl, chosen', .refl _, rfl⟩
  have gone : u.swaps.filter chosen' = (u.ofPid x.pid).filter chosen' := by
    rw [Parked.ofPid, List.filter_filter]
    refine List.filter_congr fun entry member => ?_
    cases picked : chosen' entry with
    | false => simp
    | true => simp [own entry member picked]
  refine ⟨?_, ⟨same.order, same.bound, same.alone.takesOut ⟨rfl, chosen, .refl _, rfl⟩, sound, ?_, ?_⟩,
    le_refl _, sound, ?_, ?_, fun _ => .inl⟩
  · rw [gone]
    have taken : List.Forall₂ (SameEntry x ν) (t.swaps.filter chosen)
        ((u.ofPid x.pid).filter chosen') :=
      List.rel_filter (fun entry entry' same => alike entry entry' same) same.swaps
    rw [List.forall₂_map_left_iff, List.forall₂_map_right_iff]
    exact taken.imp fun _ _ same => same.2
  · exact fun entry member known => same.owned entry (List.mem_filter.1 member).1 known
  · have kept : Parked.ofPid { u with swaps := u.swaps.filter (!chosen' ·) } x.pid =
        (u.ofPid x.pid).filter (!chosen' ·) := List.filter_comm _ _ _
    rw [kept]
    refine List.rel_filter (fun entry entry' same => ?_) same.swaps
    have picked := alike entry entry' same
    simp only [Bool.not_eq_true', Bool.eq_false_iff]
    exact not_congr picked
  · intro other different
    rw [Parked.ofPid, Parked.ofPid, List.filter_filter]
    refine List.filter_congr fun entry member => ?_
    cases picked : chosen' entry with
    | false => simp
    | true =>
        have foreign : entry.2.pid ≠ other := own entry member picked ▸ different.symm
        simp [foreign]
  · exact fun entry member => .inl (List.mem_filter.1 member).1

/-- The swap of a token is taken out of both tables, if it is there. -/
theorem SameParked.take (same : SameParked x ν t u) {token token' : Int}
    (known : (token, token') ∈ ν.tokens) :
    Option.Rel (ν.SameSwap x) (t.take token).1 (u.take token').1 ∧
      SameParked x ν (t.take token).2 (u.take token').2 ∧
      TouchesParked x.pid ν.tokens ν.tokens u (u.take token').2 := by
  obtain ⟨taken, kept⟩ := same.takesOut (·.1 == token) (·.1 == token') (by
      intro entry entry' alike
      simpa using pair_iff same.order alike.1 known) (by
      intro entry member picked
      obtain rfl : entry.1 = token' := by simpa using picked
      exact same.owned entry member ⟨token, known⟩)
  refine ⟨?_, kept⟩
  rw [← Parked.lookup_toList same.alone.ordered, ← Parked.lookup_toList same.sound.ordered] at taken
  show Option.Rel _ (t.swaps.lookup token) (u.swaps.lookup token')
  generalize t.swaps.lookup token = alone at taken
  generalize u.swaps.lookup token' = both at taken
  rcases alone with _ | swap <;> rcases both with _ | swap'
  · exact .none
  · simp at taken
  · simp at taken
  · exact .some (by simpa using taken)

/-- The older swaps of the process are taken out of both tables. -/
theorem SameParked.takeSuperseded (same : SameParked x ν t u) {token token' : Int}
    (known : (token, token') ∈ ν.tokens) :
    List.Forall₂ (ν.SameSwap x) (t.takeSuperseded x.pid token).1
        (u.takeSuperseded x.pid token').1 ∧
      SameParked x ν (t.takeSuperseded x.pid token).2 (u.takeSuperseded x.pid token').2 ∧
      TouchesParked x.pid ν.tokens ν.tokens u (u.takeSuperseded x.pid token').2 := by
  refine same.takesOut (Parked.isStale x.pid token) (Parked.isStale x.pid token') ?_ ?_
  · intro entry entry' alike
    have together := pair_iff same.order alike.1 known
    have own := alike.2.own
    have own' := alike.2.pid.trans own
    simp [Parked.isStale, own, own', together]
  · intro entry _ picked
    simp only [Parked.isStale, Bool.and_eq_true, beq_iff_eq] at picked
    exact picked.2

/-- What another process does to its swaps leaves this one's the same. -/
theorem SameParked.touched {tokens tokens' : List (Int × Int)} {u' : Parked}
    (same : SameParked x ν t u) (touches : TouchesParked pid tokens tokens' u u')
    (different : x.pid ≠ pid) (apart : ApartNames tokens ν.tokens) :
    SameParked x ν t u' ∧ ApartNames tokens' ν.tokens := by
  constructor
  · refine ⟨same.order, fun p known => ?_, same.alone, touches.sound, ?_, ?_⟩
    · exact ⟨(same.bound p known).1, lt_of_lt_of_le (same.bound p known).2 touches.next⟩
    · rintro entry member ⟨token, known⟩
      rcases touches.entries entry member with old | new
      · exact same.owned entry old ⟨token, known⟩
      · exact absurd (same.bound _ known).2 (not_lt.2 new)
    · rw [touches.others _ different]
      exact same.swaps
  · intro p member q known
    rcases touches.news p member with old | new
    · exact apart p old q known
    · exact (lt_of_lt_of_le (same.bound q known).2 new).ne'

end Waiting

/-! ## Payloads on disk -/

section Files

variable {x : Tenant} {f g g' : FileTree} {dir : String} {payload : Payload}

/-- Nothing differs in and below the directories of a process, nor above them but for directories
that only the larger tree has. -/
structure SameFiles (x : Tenant) (f g : FileTree) : Prop where
  home : g.home = f.home
  alone : f.Rooted
  both : g.Rooted
  around : ∀ dir, x.dirs dir → FileTree.Around (f.spot dir) f g

/-- A payload is put on disk in both trees. -/
theorem SameFiles.deposit (same : SameFiles x f g) (payload : Payload) (own : x.dirs dir)
    (direct : FileTree.Direct dir) :
    (Depot.deposit g dir payload).1 = (Depot.deposit f dir payload).1 ∧
      SameFiles x (Depot.deposit f dir payload).2 (Depot.deposit g dir payload).2 := by
  obtain ⟨answer, joint⟩ :=
    Depot.deposit_around payload same.home same.alone same.both direct (same.around dir own)
  have home := (Depot.deposit_adds f dir payload).grows.home
  refine ⟨answer, ?_, Depot.deposit_rooted same.alone .., Depot.deposit_rooted same.both .., ?_⟩
  · rw [home, (Depot.deposit_adds g dir payload).grows.home]
    exact same.home
  · intro other also
    rw [FileTree.spot_congr home]
    exact (same.around other also).jointly joint

/-- Whether a payload lies in a directory of the process is the same in both trees. -/
theorem SameFiles.isFile (same : SameFiles x f g) (own : x.dirs dir)
    (direct : FileTree.Direct dir) (payload : Payload) :
    g.isFile (Depot.target dir payload) = f.isFile (Depot.target dir payload) :=
  FileTree.isFile_around same.home same.alone same.both direct (same.around dir own)
    (Depot.entryName_fileName payload)

/-- What another process puts on disk leaves this one's directories the same. -/
theorem SameFiles.touched (same : SameFiles x f g) (direct : FileTree.Direct dir)
    (apart : ∀ own, x.dirs own → (f.spot own).Apart (f.spot dir))
    (adds : Depot.Adds g dir payload g') : SameFiles x f g' where
  home := adds.grows.home.trans same.home
  alone := same.alone
  both := same.both.adds adds
  around own mine := by
    refine (same.around own mine).adds same.both direct ?_ adds
    rw [FileTree.spot_congr same.home]
    exact apart own mine

end Files

end HotSwap
