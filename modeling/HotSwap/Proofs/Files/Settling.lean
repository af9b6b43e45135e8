/-
# HotSwap.Proofs.Files.Settling -- making a directory once more

Making a directory with its parents may stop half way and leave some of them behind.
Nothing is gained by doing it again: a directory that was made is found
(`makeAll_ok_again`), and one that could not be made is refused once more, with nothing
added (`makeAll_error`).  The refusal may be another one, for a way that ended early ends
elsewhere once a part of it is there.

A chain and a whole path are the same case, `viaParents_error`: what stands above the last
directory is there wherever that one is there or can be made (`StandsAbove`), so parents that
are stuck are reason enough for it to be stuck.
-/
import HotSwap.Proofs.Files.Growth

namespace HotSwap

set_option autoImplicit false

namespace FileTree

variable {t t' : FileTree} {start place : Place} {steps : List String} {path : String}

/-! ## One directory -/

/-- A way to a directory comes by directories. -/
theorem leadsToDirectory_of_concat {last : String}
    (leads : t.leadsToDirectory start (steps ++ [last]) = true) :
    t.leadsToDirectory start steps = true := by
  obtain ⟨place, walked, -⟩ := leadsToDirectory_iff.1 leads
  obtain ⟨before, walked, entered⟩ := walk_concat_ok walked
  exact leadsToDirectory_iff.2 ⟨before, walked, (enter_ok entered).1⟩

/-- A directory that is there cannot be made. -/
theorem makeOne_of_leads (leads : t.leadsToDirectory start steps = true) :
    t.makeOne start steps = .error .alreadyExists := by
  obtain ⟨place, walked, -⟩ := leadsToDirectory_iff.1 leads
  suffices taken : t.vacancy start steps = .error .alreadyExists by simp [makeOne, taken]
  unfold vacancy
  cases ends : steps.getLast? with
  | none => rfl
  | some last =>
      obtain ⟨front, rfl⟩ := List.getLast?_eq_some_iff.1 ends
      obtain ⟨before, walked, entered⟩ := walk_concat_ok walked
      obtain ⟨inside, leads⟩ := enter_ok entered
      simp only [List.dropLast_concat, walked, Bind.bind, Except.bind, inside, Bool.not_true,
        Bool.false_eq_true, if_false]
      rcases leads with ⟨rfl, -⟩ | ⟨-, rfl, -⟩ | ⟨here, up, short, rfl, entry, found⟩
      · simp
      · simp
      · simp [here, up, Nat.not_lt.2 short, found]

/-- Where a directory was made, its path leads to it, and led to its parent before. -/
theorem makeOne_leads (made : t.makeOne start steps = .ok t') :
    t'.leadsToDirectory start steps = true ∧
      ∃ parents last, steps = parents ++ [last] ∧ last ≠ "." ∧
        t.leadsToDirectory start parents = true := by
  refine ⟨leadsToDirectory_iff.2 (makeOne_paves made).2, ?_⟩
  obtain ⟨place, free, -⟩ := makeOne_ok made
  obtain ⟨parents, last, dir, split, walked, inside, here, -⟩ := vacancy_ok free
  exact ⟨parents, last, split, here, leadsToDirectory_iff.2 ⟨dir, walked, inside⟩⟩

theorem settle_of_leads (leads : t.leadsToDirectory start steps = true) :
    t.settle start steps = (.ok (), t) := by
  simp only [settle, makeOne_of_leads leads, leads, if_true]

/-- What was settled is there. -/
theorem settle_ok (made : t.settle start steps = (.ok (), t')) :
    t'.leadsToDirectory start steps = true := by
  unfold settle at made
  split at made
  · rename_i one
    obtain rfl := (Prod.mk.inj made).2
    exact (makeOne_leads one).1
  split at made
  · rename_i leads
    obtain rfl := (Prod.mk.inj made).2
    exact leads
  · cases made

/-- What was not settled can neither be made nor found, and nothing came of the attempt. -/
theorem settle_error {e : IoFault} (made : t.settle start steps = (.error e, t')) :
    t' = t ∧ t.makeOne start steps = .error e ∧ t.leadsToDirectory start steps = false := by
  unfold settle at made
  split at made
  · cases made
  rename_i cause one
  split at made
  · cases made
  rename_i astray
  obtain ⟨refused, rfl⟩ := Prod.mk.inj made
  obtain rfl : cause = e := Except.error.inj refused
  exact ⟨rfl, one, by simpa using astray⟩

/-! ## A directory and its parents -/

section ViaParents

variable {parents : Except IoFault Unit × FileTree}

theorem viaParents_of_leads (leads : t.leadsToDirectory start steps = true) :
    t.viaParents start steps parents = (.ok (), t) := by
  have passes : t.makeOne start steps ≠ .error .notFound := by
    rw [makeOne_of_leads leads]
    nofun
  rw [viaParents_of_passes passes, settle_of_leads leads]

/-- Where the parents are there, the directory is made or not. -/
theorem viaParents_of_parents : t.viaParents start steps (.ok (), t) = t.settle start steps := by
  by_cases missing : t.makeOne start steps = .error .notFound
  · rw [viaParents_of_notFound missing]
  · rw [viaParents_of_passes missing]

theorem viaParents_ok (made : t.viaParents start steps parents = (.ok (), t')) :
    t'.leadsToDirectory start steps = true := by
  by_cases missing : t.makeOne start steps = .error .notFound
  · rw [viaParents_of_notFound missing] at made
    obtain ⟨_ | _, t₁⟩ := parents
    · cases made
    · exact settle_ok made
  · rw [viaParents_of_passes missing] at made
    exact settle_ok made

end ViaParents

theorem makeChain_of_leads {chain : List String}
    (leads : t.leadsToDirectory start chain.reverse = true) :
    makeChain start t chain = (.ok (), t) := by
  cases chain with
  | nil => rfl
  | cons last parents => rw [makeChain_cons, viaParents_of_leads leads]

/-- A chain that was made is found the next time. -/
theorem makeChain_ok_again {chain : List String} (made : makeChain start t chain = (.ok (), t')) :
    makeChain start t' chain = (.ok (), t') := by
  cases chain with
  | nil => rfl
  | cons last parents =>
      rw [makeChain_cons] at made
      exact makeChain_of_leads (viaParents_ok made)

/-- A chain of directories stands above a way: it is there wherever the way ends in a directory,
or one can be made at its end. -/
structure StandsAbove (start : Place) (chain steps : List String) : Prop where
  leads : ∀ t : FileTree, t.leadsToDirectory start steps = true →
    makeChain start t chain = (.ok (), t)
  one : ∀ t t' : FileTree, t.makeOne start steps = .ok t' → makeChain start t chain = (.ok (), t)

theorem standsAbove_reverse (start : Place) (last : String) (parents : List String) :
    StandsAbove start parents (last :: parents).reverse := by
  rw [List.reverse_cons]
  refine ⟨fun t leads => makeChain_of_leads (leadsToDirectory_of_concat leads), fun t t' made => ?_⟩
  obtain ⟨-, front, other, split, -, leads⟩ := makeOne_leads made
  obtain ⟨rfl, -⟩ : parents.reverse = front ∧ last = other := by simpa using split
  exact makeChain_of_leads leads

/-- A directory that cannot be made with its parents is not there, and cannot be made the next
time, if that holds of the parents. -/
theorem viaParents_error {chain : List String} (above : StandsAbove start chain steps)
    (stuck : ∀ {e u}, makeChain start t chain = (.error e, u) →
      ∃ e', makeChain start u chain = (.error e', u))
    {e : IoFault} (made : t.viaParents start steps (makeChain start t chain) = (.error e, t')) :
    t'.leadsToDirectory start steps = false ∧
      ∃ e', t'.viaParents start steps (makeChain start t' chain) = (.error e', t') := by
  by_cases missing : t.makeOne start steps = .error .notFound
  · rw [viaParents_of_notFound missing] at made
    cases parents : makeChain start t chain with
    | mk r t₁ =>
    rw [parents] at made
    cases r with
    | error cause =>
        obtain rfl := (Prod.mk.inj made).2
        obtain ⟨e', again⟩ := stuck parents
        have astray : t₁.leadsToDirectory start steps = false := by
          refine Bool.eq_false_iff.2 fun leads => ?_
          rw [above.leads t₁ leads] at again
          cases again
        refine ⟨astray, ?_⟩
        rw [again]
        cases one : t₁.makeOne start steps with
        | ok t₂ =>
            rw [above.one t₁ t₂ one] at again
            cases again
        | error cause =>
            by_cases still : cause = .notFound
            · exact ⟨e', viaParents_of_notFound (still ▸ one) _⟩
            · refine ⟨cause, ?_⟩
              rw [viaParents_of_passes (by simpa [one] using still), settle, one]
              simp only [astray, Bool.false_eq_true, if_false]
    | ok _ =>
        obtain ⟨rfl, -, astray⟩ := settle_error made
        refine ⟨astray, e, ?_⟩
        rw [makeChain_ok_again parents, viaParents_of_parents]
        exact made
  · rw [viaParents_of_passes missing] at made
    obtain ⟨rfl, -, astray⟩ := settle_error made
    exact ⟨astray, e, (viaParents_of_passes missing _).trans made⟩

/-- A chain that could not be made cannot be made the next time; what was made of it stays. -/
theorem makeChain_error {chain : List String} {e : IoFault}
    (made : makeChain start t chain = (.error e, t')) :
    ∃ e', makeChain start t' chain = (.error e', t') := by
  induction chain generalizing t t' e with
  | nil => cases made
  | cons last parents ih =>
      rw [makeChain_cons] at made ⊢
      exact (viaParents_error (standsAbove_reverse start last parents) ih made).2

/-! ## A whole path -/

/-- A directory that is there is left as it is. -/
theorem makeAll_of_isDirectory (there : t.isDirectory path = true) :
    t.makeAll path = (.ok (), t) := by
  obtain ⟨checked, leads⟩ := isDirectory_iff.1 there
  cases empty : path.isEmpty with
  | true => simp [makeAll, empty]
  | false => rw [makeAll_eq_viaParents empty checked, viaParents_of_leads leads]

/-- A directory that was made is there; the empty path means where one is already. -/
theorem makeAll_ok (made : t.makeAll path = (.ok (), t')) :
    path.isEmpty = true ∧ t' = t ∨ t'.isDirectory path = true := by
  have begins := (makeAll_paves t path).grows.begins path
  rw [made] at begins
  cases empty : path.isEmpty with
  | true =>
      simp only [makeAll, empty, if_true] at made
      exact .inl ⟨rfl, (Prod.mk.inj made).2.symm⟩
  | false =>
  cases checked : checkPath path with
  | error e => simp [makeAll, empty, checked] at made
  | ok _ =>
      rw [makeAll_eq_viaParents empty checked, ← begins] at made
      exact .inr (isDirectory_iff.2 ⟨checked, viaParents_ok made⟩)

/-- What was made is found the next time. -/
theorem makeAll_ok_again (made : t.makeAll path = (.ok (), t')) :
    t'.makeAll path = (.ok (), t') := by
  rcases makeAll_ok made with ⟨empty, -⟩ | there
  · simp [makeAll, empty]
  · exact makeAll_of_isDirectory there

/-- The way to the parent is the path's route without its last segment. -/
theorem parentSteps_of_route {parents : List String} {last : String}
    (split : route path = parents ++ [last]) : (parentSteps path).reverse = parents := by
  rw [parentSteps, List.tail_reverse, List.reverse_reverse]
  show (route path).dropLast = parents
  rw [split, List.dropLast_concat]

/-- Above a directory, and above one that can be made, stand directories. -/
theorem standsAbove_parentSteps (start : Place) (path : String) :
    StandsAbove start (parentSteps path) (Path.segments path) := by
  constructor
  · intro t leads
    obtain ⟨place, walked, inside⟩ := leadsToDirectory_iff.1 leads
    have routed : t.leadsToDirectory start (route path) = true :=
      leadsToDirectory_iff.2 ⟨place, walk_filter walked, inside⟩
    cases ends : (route path).getLast? with
    | none =>
        have empty : (Path.segments path).filter (· != ".") = [] := List.getLast?_eq_none_iff.1 ends
        simp [parentSteps, empty, makeChain]
    | some last =>
        obtain ⟨parents, split⟩ := List.getLast?_eq_some_iff.1 ends
        rw [split] at routed
        apply makeChain_of_leads
        rw [parentSteps_of_route split]
        exact leadsToDirectory_of_concat routed
  · intro t t' made
    obtain ⟨-, parents, last, split, here, leads⟩ := makeOne_leads made
    obtain ⟨place, walked, inside⟩ := leadsToDirectory_iff.1 leads
    have routed : route path = parents.filter (· != ".") ++ [last] := by simp [route, split, here]
    apply makeChain_of_leads
    rw [parentSteps_of_route routed]
    exact leadsToDirectory_iff.2 ⟨place, walk_filter walked, inside⟩

/-- What could not be made is not there, and cannot be made the next time; what was made of it
stays. -/
theorem makeAll_error {e : IoFault} (made : t.makeAll path = (.error e, t')) :
    path.isEmpty = false ∧ t'.isDirectory path = false ∧
      ∃ e', t'.makeAll path = (.error e', t') := by
  have begins := (makeAll_paves t path).grows.begins path
  rw [made] at begins
  cases empty : path.isEmpty with
  | true => simp [makeAll, empty] at made
  | false =>
  refine ⟨rfl, ?_⟩
  cases checked : checkPath path with
  | error e =>
      simp only [makeAll, empty, checked, Bool.false_eq_true, if_false, Prod.mk.injEq] at made
      obtain rfl := made.2
      exact ⟨by simp [isDirectory, stat, find, checked, Bind.bind, Except.bind],
        e, by simp [makeAll, empty, checked]⟩
  | ok _ =>
      rw [makeAll_eq_viaParents empty checked, ← begins] at made
      obtain ⟨astray, again⟩ := viaParents_error (standsAbove_parentSteps _ path) makeChain_error made
      rw [makeAll_eq_viaParents empty checked]
      exact ⟨Bool.eq_false_iff.2 fun there => by simp [(isDirectory_iff.1 there).2] at astray, again⟩

end FileTree

end HotSwap
