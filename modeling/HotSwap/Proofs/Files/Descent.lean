/-
# HotSwap.Proofs.Files.Descent -- making directories on the way down

A directory is made with its parents by going up until something can be made, and down
again.  Where every entry stands in a directory (`Rooted`) and no segment behind a name
means "up" (`Direct`), that comes to the same as one way down on which whatever is missing
is made (`descend`): for a row of names this is `makeChain_eq`, for a whole path
`makeAll_eq`.

A path may begin by leading up.  The directories above its beginning are there, so nothing
is made and nothing is missing until it comes to its first name (`behind`).

On such a way down it does not matter whether a directory is there or missing, but only
what stands in its way.  That is what makes two trees comparable that differ in which
directories were made already.
-/
import HotSwap.Proofs.Files.Storing
import Mathlib.Data.List.Induction

namespace HotSwap

set_option autoImplicit false

namespace FileTree

variable {t t' : FileTree} {dir place start : Place} {steps : List String} {path : String}

/-! ## Trees whose entries stand in directories -/

/-- Every entry stands in a directory, and relative paths begin in one. -/
structure Rooted (t : FileTree) : Prop where
  home : t.isDirectoryAt t.home = true
  parent : ∀ place name entry, t.at? (place ++ [name]) = some entry →
    t.at? place = some .directory

/-- All places above an entry are directories. -/
theorem Rooted.above (rooted : t.Rooted) {entry : Entry} (found : t.at? place = some entry)
    (within : dir <+: place) (proper : dir ≠ place) : t.at? dir = some .directory := by
  obtain ⟨more, rfl⟩ := within
  induction more using List.reverseRecOn generalizing entry with
  | nil => simp at proper
  | append_singleton more name ih =>
      rw [← List.append_assoc] at found
      have parent := rooted.parent _ name entry found
      by_cases empty : more = []
      · simpa [empty] using parent
      · exact ih parent (by simpa using empty)

/-- Nothing stands below a place at which nothing stands. -/
theorem Rooted.below (rooted : t.Rooted) (absent : t.at? dir = none) (within : dir <+: place) :
    t.at? place = none := by
  cases found : t.at? place with
  | none => rfl
  | some entry =>
      by_cases same : dir = place
      · rw [← same, absent] at found
        cases found
      · rw [rooted.above found within same] at absent
        cases absent

/-- No directory stands below a place that is none. -/
theorem Rooted.isDirectoryAt (rooted : t.Rooted) (there : t.isDirectoryAt place = true)
    (within : dir <+: place) : t.isDirectoryAt dir = true := by
  by_cases same : dir = place
  · rwa [same]
  · exact isDirectoryAt_iff.2 (rooted.above (isDirectoryAt_iff.1 there) within same)

/-- Above a way's end stand directories, if they stand above its beginning. -/
theorem above_walk (begins : ∀ above, above <+: dir → above ≠ dir → t.isDirectoryAt above = true)
    (walked : t.walk dir steps = .ok place) :
    ∀ above, above <+: place → above ≠ place → t.isDirectoryAt above = true := by
  induction steps generalizing dir with
  | nil =>
      obtain rfl : dir = place := Except.ok.inj walked
      exact begins
  | cons s rest ih =>
      obtain ⟨next, entered, walked⟩ := walk_cons_ok walked
      refine ih (fun above within proper => ?_) walked
      have upTo (within : above <+: dir) (inside : t.isDirectoryAt dir = true) :
          t.isDirectoryAt above = true := by
        by_cases same : above = dir
        · rwa [same]
        · exact begins above within same
      obtain ⟨inside, ⟨-, rfl⟩ | ⟨-, -, rfl⟩ | ⟨-, -, -, rfl, -⟩⟩ := enter_ok entered
      · exact begins above within proper
      · exact upTo (within.trans (List.dropLast_prefix _)) inside
      · rcases List.prefix_concat_iff.1 within with same | within
        · exact absurd same proper
        · exact upTo within inside

theorem Rooted.begins (rooted : t.Rooted) (path : String) :
    t.isDirectoryAt (t.start path) = true := by
  unfold start
  split
  · rfl
  · exact rooted.home

/-- What putting a payload on disk adds stands in directories. -/
theorem Rooted.adds (rooted : t.Rooted) {payload : Payload} {path : String}
    (adds : Depot.Adds t path payload t') : t'.Rooted := by
  obtain ⟨grows, added⟩ := adds
  have home : t'.isDirectoryAt t'.home = true := grows.home ▸ grows.isDirectoryAt rooted.home
  have begins (path : String) (above : Place) (within : above <+: t'.start path) :
      t'.isDirectoryAt above = true := by
    rw [grows.begins] at within
    exact grows.isDirectoryAt (rooted.isDirectoryAt (rooted.begins path) within)
  have led {path : String} {steps : List String} {place : Place} {name : String}
      (walked : t'.walk (t'.start path) steps = .ok (place ++ [name])) :
      t'.at? place = some .directory :=
    isDirectoryAt_iff.1 (above_walk (fun above within _ => begins path above within) walked place
      (List.prefix_append _ _) (by simp))
  refine ⟨home, fun place name entry found => ?_⟩
  rcases added _ _ found with old | ⟨-, part, -, walked⟩ | ⟨-, found⟩
  · exact grows.kept _ _ (rooted.parent place name entry old)
  · exact led walked
  · exact led (find_ok_iff.1 found).2.1

/-! ## Where a way leads -/

/-- The place to which one segment leads from another, if it leads anywhere. -/
def toward (dir : Place) (segment : String) : Place :=
  if segment = "." then dir else if segment = ".." then dir.dropLast else dir ++ [segment]

/-- A way ends where its segments lead one after the other. -/
theorem walk_leads (walked : t.walk dir steps = .ok place) : place = steps.foldl toward dir := by
  induction steps generalizing dir with
  | nil => exact (Except.ok.inj walked).symm
  | cons s rest ih =>
      obtain ⟨next, entered, behind⟩ := walk_cons_ok walked
      suffices next = toward dir s by rw [List.foldl_cons, ← this]; exact ih behind
      obtain ⟨-, ⟨rfl, rfl⟩ | ⟨here, rfl, rfl⟩ | ⟨here, up, -, rfl, -⟩⟩ := enter_ok entered
      · rw [toward, if_pos rfl]
      · rw [toward, if_neg here, if_pos rfl]
      · rw [toward, if_neg here, if_neg up]

/-- No segment of a way is too long for a name. -/
theorem walk_short (walked : t.walk dir steps = .ok place) :
    ∀ s ∈ steps, s.utf8ByteSize ≤ maxName := by
  induction steps generalizing dir with
  | nil => simp
  | cons s rest ih =>
      obtain ⟨next, entered, behind⟩ := walk_cons_ok walked
      refine List.forall_mem_cons.2 ⟨?_, ih behind⟩
      obtain ⟨-, ⟨rfl, -⟩ | ⟨-, rfl, -⟩ | ⟨-, -, fits, -⟩⟩ := enter_ok entered
      · decide
      · decide
      · exact fits

theorem foldl_toward (direct : ".." ∉ steps) (dir : Place) :
    steps.foldl toward dir = dir ++ steps.filter (· != ".") := by
  induction steps generalizing dir with
  | nil => simp
  | cons s rest ih =>
      simp only [List.mem_cons, not_or] at direct
      rw [List.foldl_cons, ih direct.2]
      by_cases here : s = "." <;> simp [toward, here, Ne.symm direct.1]

/-- A segment that means "here" leads nowhere else. -/
theorem foldl_toward_filter (steps : List String) (dir : Place) :
    (steps.filter (· != ".")).foldl toward dir = steps.foldl toward dir := by
  induction steps generalizing dir with
  | nil => rfl
  | cons s rest ih =>
      by_cases here : s = "."
      · subst here
        exact ih dir
      · simpa [here] using ih (toward dir s)

/-- The place of the directory that a path means. -/
def spot (t : FileTree) (path : String) : Place :=
  (Path.segments path).foldl toward (t.start path)

theorem spot_congr {u : FileTree} (home : t.home = u.home) (path : String) :
    t.spot path = u.spot path := by
  simp only [spot, FileTree.start, home]

/-! ## Ways that never lead up -/

/-- A way that never leads up ends below its beginning, at the names that it goes by. -/
theorem walk_named (direct : ".." ∉ steps) (walked : t.walk dir steps = .ok place) :
    place = dir ++ steps.filter (· != ".") :=
  (walk_leads walked).trans (foldl_toward direct dir)

/-- By directories a way comes to its end. -/
theorem walk_of_directories (direct : ".." ∉ steps)
    (short : ∀ s ∈ steps.filter (· != "."), s.utf8ByteSize ≤ maxName)
    (there : ∀ place, dir <+: place → place <+: dir ++ steps.filter (· != ".") →
      t.isDirectoryAt place = true) :
    t.walk dir steps = .ok (dir ++ steps.filter (· != ".")) := by
  induction steps generalizing dir with
  | nil => simp [FileTree.walk]
  | cons s rest ih =>
      simp only [List.mem_cons, not_or] at direct
      have inside := there dir List.prefix_rfl (List.prefix_append _ _)
      by_cases here : s = "."
      · subst here
        simpa [FileTree.walk, enter, inside] using ih direct.2 (by simpa using short)
          (by simpa using there)
      · simp only [List.filter_cons, bne_iff_ne, ne_eq, here, not_false_eq_true, if_true,
          List.mem_cons, forall_eq_or_imp] at short there ⊢
        have next := there (dir ++ [s]) (List.prefix_append _ _) (by simp)
        have entered : t.enter dir s = .ok (dir ++ [s]) := by
          simp [enter, inside, here, Ne.symm direct.1, Nat.not_lt.2 short.1,
            isDirectoryAt_iff.1 next]
        have walked : t.walk (dir ++ [s]) rest =
            .ok (dir ++ [s] ++ rest.filter (· != ".")) :=
          ih direct.2 short.2 fun place below within =>
            there place ((List.prefix_append _ _).trans below) (by simpa using within)
        simpa [FileTree.walk, entered] using walked

/-- A way that is barred is barred as well where it says "here" on its way. -/
theorem walk_error_of_filter {e : IoFault}
    (barred : t.walk dir (steps.filter (· != ".")) = .error e) : t.walk dir steps = .error e := by
  induction steps generalizing dir with
  | nil => exact barred
  | cons s rest ih =>
      by_cases here : s = "."
      · subst here
        have barred : t.walk dir (rest.filter (· != ".")) = .error e := by simpa using barred
        cases inside : t.isDirectoryAt dir with
        | true => simpa [FileTree.walk, enter, inside] using ih barred
        | false =>
            suffices same : e = .notDirectory by simp [FileTree.walk, enter, inside, same]
            cases named : rest.filter (· != ".") with
            | nil => simp [named, FileTree.walk] at barred
            | cons name more => simpa [named, FileTree.walk, enter, inside] using barred.symm
      · simp only [List.filter_cons, bne_iff_ne, ne_eq, here, not_false_eq_true, if_true,
          FileTree.walk] at barred ⊢
        cases entered : t.enter dir s with
        | error e => simpa [entered] using barred
        | ok next => exact ih (by simpa [entered] using barred)

/-- What is missing on a way is missing by its names. -/
theorem walk_notFound_filter (missing : t.walk dir steps = .error .notFound) :
    t.walk dir (steps.filter (· != ".")) = .error .notFound := by
  induction steps generalizing dir with
  | nil => exact missing
  | cons s rest ih =>
      simp only [FileTree.walk] at missing
      by_cases here : s = "."
      · subst here
        cases inside : t.isDirectoryAt dir with
        | false => simp [enter, inside] at missing
        | true => simpa using ih (by simpa [enter, inside] using missing)
      · simp only [List.filter_cons, bne_iff_ne, ne_eq, here, not_false_eq_true, if_true,
          FileTree.walk]
        cases entered : t.enter dir s with
        | error e => simpa [entered] using missing
        | ok next => exact ih (by simpa [entered] using missing)

/-! ## Going down -/

/-- A name that leads down. -/
def Down (segment : String) : Prop := segment ≠ "." ∧ segment ≠ ".."

theorem filter_down (down : ∀ s ∈ steps, Down s) : steps.filter (· != ".") = steps :=
  List.filter_eq_self.2 fun s member => by simpa using (down s member).1

/-- A way by names leads to just these. -/
theorem walk_down (down : ∀ s ∈ steps, Down s) (walked : t.walk dir steps = .ok place) :
    place = dir ++ steps := by
  have direct : ".." ∉ steps := fun up => (down _ up).2 rfl
  have ends := walk_named direct walked
  rwa [filter_down down] at ends

/-- Goes down by one name, where a directory is made if nothing is there. -/
def stepDown (t : FileTree) (dir : Place) (segment : String) : Except IoFault FileTree :=
  if !t.isDirectoryAt dir then .error .notDirectory
  else if maxName < segment.utf8ByteSize then .error .nameTooLong
  else
    match t.at? (dir ++ [segment]) with
    | none => .ok (t.put (dir ++ [segment]) .directory)
    | some _ => .ok t

/-- Goes down by a row of names. -/
def descend (dir : Place) (t : FileTree) : List String → Except IoFault Unit × FileTree
  | [] => (.ok (), t)
  | s :: rest =>
      match t.stepDown dir s with
      | .error e => (.error e, t)
      | .ok t => descend (dir ++ [s]) t rest

theorem descend_cons_ok {s : String} {rest : List String}
    (made : descend dir t (s :: rest) = (.ok (), t')) :
    ∃ t₁, t.stepDown dir s = .ok t₁ ∧ descend (dir ++ [s]) t₁ rest = (.ok (), t') := by
  rw [descend] at made
  cases stepped : t.stepDown dir s with
  | error e => simp [stepped] at made
  | ok t₁ => exact ⟨t₁, rfl, by simpa only [stepped] using made⟩

theorem stepDown_ok {segment : String} (stepped : t.stepDown dir segment = .ok t') :
    t.isDirectoryAt dir = true ∧ segment.utf8ByteSize ≤ maxName ∧ t.Grows t' ∧
      ((∃ entry, t.at? (dir ++ [segment]) = some entry ∧ t' = t) ∨
        t.at? (dir ++ [segment]) = none ∧ t' = t.put (dir ++ [segment]) .directory) := by
  unfold stepDown at stepped
  split at stepped
  · cases stepped
  rename_i inside
  split at stepped
  · cases stepped
  rename_i fits
  refine ⟨by simpa using inside, Nat.le_of_not_lt fits, ?_⟩
  split at stepped
  · rename_i absent
    obtain rfl := Except.ok.inj stepped
    exact ⟨.put absent _, .inr ⟨absent, rfl⟩⟩
  · rename_i entry found
    obtain rfl := Except.ok.inj stepped
    exact ⟨.refl _, .inl ⟨entry, found, rfl⟩⟩

/-- A name leads down where one can go down by it and something is there. -/
theorem enter_down {segment : String} (down : Down segment) :
    t.enter dir segment =
      match t.stepDown dir segment with
      | .error e => .error e
      | .ok _ =>
          match t.at? (dir ++ [segment]) with
          | none => .error .notFound
          | some _ => .ok (dir ++ [segment]) := by
  unfold enter stepDown
  rw [if_neg down.1, if_neg down.2]
  split
  · rfl
  split
  · rfl
  cases t.at? (dir ++ [segment]) <;> rfl

/-- One directory is made at the end of a way by a step down, if nothing is there. -/
theorem makeOne_concat {last : String} (down : Down last) :
    t.makeOne start (steps ++ [last]) =
      match t.walk start steps with
      | .error e => .error e
      | .ok dir =>
          match t.stepDown dir last with
          | .error e => .error e
          | .ok t' =>
              match t.at? (dir ++ [last]) with
              | none => .ok t'
              | some _ => .error .alreadyExists := by
  unfold makeOne vacancy
  simp only [List.getLast?_concat, List.dropLast_concat]
  cases t.walk start steps with
  | error e => rfl
  | ok dir =>
  simp only [Bind.bind, Except.bind, down.1, down.2, decide_false, Bool.or_self,
    Bool.false_eq_true, if_false, stepDown]
  by_cases inside : t.isDirectoryAt dir = true
  · by_cases fits : maxName < last.utf8ByteSize
    · simp [inside, fits]
    · cases found : t.at? (dir ++ [last]) <;> simp [inside, fits]
  · simp [inside]

theorem descend_append (dir : Place) (t : FileTree) (front back : List String) :
    descend dir t (front ++ back) =
      match descend dir t front with
      | (.error e, t) => (.error e, t)
      | (.ok (), t) => descend (dir ++ front) t back := by
  induction front generalizing dir t with
  | nil => simp [descend]
  | cons s front ih =>
      simp only [List.cons_append, descend]
      cases t.stepDown dir s with
      | error e => rfl
      | ok t' => simpa using ih (dir ++ [s]) t'

theorem descend_grows (dir : Place) (t : FileTree) (steps : List String) :
    t.Grows (descend dir t steps).2 := by
  induction steps generalizing dir t with
  | nil => exact .refl t
  | cons s rest ih =>
      unfold descend
      cases stepped : t.stepDown dir s with
      | error e => exact .refl t
      | ok t₁ => exact (stepDown_ok stepped).2.2.1.trans (ih _ _)

/-- Behind a way down the same way is walked. -/
theorem walk_of_descend (down : ∀ s ∈ steps, Down s) (made : descend dir t steps = (.ok (), t')) :
    t'.walk dir steps = .ok (dir ++ steps) := by
  induction steps generalizing dir t with
  | nil => simp [FileTree.walk]
  | cons s rest ih =>
      obtain ⟨t₁, stepped, made⟩ := descend_cons_ok made
      have grows := descend_grows (dir ++ [s]) t₁ rest
      rw [made] at grows
      obtain ⟨inside, fits, grew, there⟩ := stepDown_ok stepped
      obtain ⟨entry, found⟩ : ∃ entry, t₁.at? (dir ++ [s]) = some entry := by
        rcases there with ⟨entry, found, rfl⟩ | ⟨-, rfl⟩
        · exact ⟨entry, found⟩
        · exact ⟨.directory, by simp [at?_put]⟩
      have entered : t'.enter dir s = .ok (dir ++ [s]) := by
        simp [enter, grows.isDirectoryAt (grew.isDirectoryAt inside), Nat.not_lt.2 fits,
          grows.kept _ _ found, (down s (by simp)).1, (down s (by simp)).2]
      simpa [FileTree.walk, entered] using ih (fun s member => down s (by simp [member])) made

/-- A way down on which nothing is missing changes nothing, and is barred where it is walked. -/
theorem descend_of_walk (down : ∀ s ∈ steps, Down s)
    (passes : t.walk dir steps ≠ .error .notFound) :
    descend dir t steps = ((t.walk dir steps).map fun _ => (), t) := by
  induction steps generalizing dir with
  | nil => rfl
  | cons s rest ih =>
      simp only [FileTree.walk, descend, enter_down (down s (by simp))] at passes ⊢
      cases stepped : t.stepDown dir s with
      | error e => rfl
      | ok t₁ =>
          obtain ⟨-, -, -, ⟨entry, found, rfl⟩ | ⟨absent, -⟩⟩ := stepDown_ok stepped
          · simp only [stepped, found] at passes ⊢
            exact ih (fun s member => down s (by simp [member])) passes
          · simp [stepped, absent] at passes

/-- Where nothing stands below, a way down ends in a directory. -/
theorem descend_empty (inside : t.isDirectoryAt dir = true)
    (empty : ∀ place, dir <+: place → place ≠ dir → t.at? place = none)
    (made : descend dir t steps = (.ok (), t')) : t'.isDirectoryAt (dir ++ steps) = true := by
  induction steps generalizing dir t with
  | nil =>
      obtain rfl : t = t' := (Prod.mk.inj made).2
      simpa using inside
  | cons s rest ih =>
      obtain ⟨t₁, stepped, made⟩ := descend_cons_ok made
      have absent := empty (dir ++ [s]) (List.prefix_append _ _) (by simp)
      obtain ⟨-, -, -, ⟨entry, found, -⟩ | ⟨-, rfl⟩⟩ := stepDown_ok stepped
      · simp [absent] at found
      have put := at?_put t (show dir ++ [s] ≠ [] by simp) .directory
      refine (by simp : dir ++ s :: rest = dir ++ [s] ++ rest) ▸
        ih (isDirectoryAt_iff.2 (by rw [put, if_pos rfl])) (fun place below proper => ?_) made
      rw [put, if_neg proper]
      refine empty place ((List.prefix_append _ _).trans below) ?_
      rintro rfl
      exact absurd below.length_le (by simp)

/-- A way down on which something was missing ends in a directory. -/
theorem descend_fresh (rooted : t.Rooted) (down : ∀ s ∈ steps, Down s)
    (missing : t.walk dir steps = .error .notFound)
    (made : descend dir t steps = (.ok (), t')) : t'.isDirectoryAt (dir ++ steps) = true := by
  induction steps generalizing dir with
  | nil => cases missing
  | cons s rest ih =>
      simp only [FileTree.walk, descend, enter_down (down s (by simp))] at missing made
      cases stepped : t.stepDown dir s with
      | error e => simp [stepped] at made
      | ok t₁ =>
      rw [(by simp : dir ++ s :: rest = dir ++ [s] ++ rest)]
      simp only [stepped] at missing made
      obtain ⟨-, -, -, ⟨entry, found, rfl⟩ | ⟨absent, rfl⟩⟩ := stepDown_ok stepped
      · exact ih (fun s member => down s (by simp [member])) (by simpa [found] using missing) made
      · have put := at?_put t (show dir ++ [s] ≠ [] by simp) .directory
        refine descend_empty (isDirectoryAt_iff.2 (by rw [put, if_pos rfl])) ?_ made
        intro place below proper
        rw [put, if_neg proper]
        exact rooted.below absent below

/-- What is missing behind a place is missing in a directory. -/
theorem isDirectoryAt_of_missing {name : String} (walked : t.walk start steps = .ok place)
    (missing : t.walk start (steps ++ [name]) = .error .notFound) :
    t.isDirectoryAt place = true := by
  rw [walk_append, walked] at missing
  cases inside : t.isDirectoryAt place with
  | true => rfl
  | false => simp [FileTree.walk, enter, inside] at missing

/-- A way down ends in a directory if something was missing on it, or behind its end. -/
theorem descend_to_missing (rooted : t.Rooted) (down : ∀ s ∈ steps, Down s)
    (missing : t.walk dir steps = .error .notFound ∨
      ∃ name, t.walk dir (steps ++ [name]) = .error .notFound)
    (made : descend dir t steps = (.ok (), t')) : t'.isDirectoryAt (dir ++ steps) = true := by
  by_cases fresh : t.walk dir steps = .error .notFound
  · exact descend_fresh rooted down fresh made
  obtain ⟨name, behind⟩ := missing.resolve_left fresh
  have stays := descend_of_walk down fresh
  cases walked : t.walk dir steps with
  | error e =>
      rw [walk_append, walked] at behind
      exact absurd (walked.trans behind) fresh
  | ok place =>
      obtain rfl := walk_down down walked
      obtain rfl : t = t' := (Prod.mk.inj (stays.symm.trans made)).2
      exact isDirectoryAt_of_missing walked behind

/-! ## Up and down again -/

/-- A way that is barred before its end is not settled. -/
theorem settle_of_barred {e : IoFault} {last : String} (barred : t.walk start steps = .error e) :
    t.makeOne start (steps ++ [last]) = .error e ∧
      t.settle start (steps ++ [last]) = (.error e, t) := by
  have one : t.makeOne start (steps ++ [last]) = .error e := by
    simp [makeOne, vacancy, barred, Bind.bind, Except.bind]
  refine ⟨one, ?_⟩
  simp [settle, one, leadsToDirectory, walk_append, barred]

/-- A directory that cannot be made because something is missing has a way on which it is. -/
theorem walk_of_makeOne_notFound {last : String}
    (one : t.makeOne start (steps ++ [last]) = .error .notFound) :
    t.walk start steps = .error .notFound := by
  unfold makeOne vacancy at one
  simp only [List.getLast?_concat, List.dropLast_concat] at one
  cases walked : t.walk start steps with
  | error e => simpa [walked, Bind.bind, Except.bind] using one
  | ok dir =>
      simp only [walked, Bind.bind, Except.bind] at one
      split at one <;> rename_i free
      · rename_i e
        obtain rfl : e = .notFound := Except.error.inj one
        split at free
        · cases free
        split at free
        · cases free
        split at free
        · cases free
        split at free <;> cases free
      · cases one

/-- What a way down comes to if a directory must stand at its end. -/
def landed (place : Place) (made : Except IoFault Unit × FileTree) : Except IoFault Unit × FileTree :=
  match made with
  | (.error e, t) => (.error e, t)
  | (.ok (), t) => if t.isDirectoryAt place then (.ok (), t) else (.error .alreadyExists, t)

/-- The names on a way, but for the last one. -/
def above (steps : List String) : List String := (steps.filter (· != ".")).dropLast

theorem down_of_mem_above (direct : ".." ∉ steps) : ∀ s ∈ above steps, Down s := by
  intro s member
  have member := List.mem_filter.1 (List.dropLast_subset _ member)
  exact ⟨by simpa using member.2, fun up => direct (up ▸ member.1)⟩

theorem above_concat (steps : List String) (last : String) :
    steps.filter (· != ".") = above (steps ++ [last]) ∨
      ∃ name, steps.filter (· != ".") = above (steps ++ [last]) ++ [name] := by
  by_cases here : last = "."
  · have same : above (steps ++ [last]) = (steps.filter (· != ".")).dropLast := by
      simp [above, here]
    rw [same]
    cases ends : (steps.filter (· != ".")).getLast? with
    | none => exact .inl (by simp [List.getLast?_eq_none_iff.1 ends])
    | some name =>
        obtain ⟨front, split⟩ := List.getLast?_eq_some_iff.1 ends
        exact .inr ⟨name, by simp [split]⟩
  · exact .inl (by simp [above, here])

/-- Going up until something can be made and down again comes to the same as the way down. -/
theorem viaParents_eq (rooted : t.Rooted) (direct : ".." ∉ steps)
    {made : Except IoFault Unit × FileTree}
    (chain : above steps = [] ∧ made = (.ok (), t) ∨
      made = landed (start ++ above steps) (descend start t (above steps))) :
    t.viaParents start steps made =
      match descend start t (above steps) with
      | (.error e, t) => (.error e, t)
      | (.ok (), t) => t.settle start steps := by
  have down := down_of_mem_above direct
  rcases List.eq_nil_or_concat' steps with rfl | ⟨front, last, rfl⟩
  · simp [viaParents, makeOne, vacancy, above, descend]
  have named := above_concat front last
  generalize above (front ++ [last]) = names at named chain down ⊢
  -- Whatever bars the names bars the way.
  have barred {e : IoFault} (astray : t.walk start names = .error e) :
      t.walk start front = .error e := by
    apply walk_error_of_filter
    rcases named with same | ⟨name, same⟩ <;> simp [same, walk_append, astray]
  by_cases missing : t.makeOne start (front ++ [last]) = .error .notFound
  · rw [viaParents_of_notFound missing]
    have absent := walk_notFound_filter (walk_of_makeOne_notFound missing)
    rcases chain with ⟨rfl, rfl⟩ | rfl
    · rfl
    cases made : descend start t names with
    | mk r t' =>
    cases r with
    | error e => rfl
    | ok _ =>
        have missing : t.walk start names = .error .notFound ∨
            ∃ name, t.walk start (names ++ [name]) = .error .notFound := by
          rcases named with same | ⟨name, same⟩
          · exact .inl (same ▸ absent)
          · exact .inr ⟨name, same ▸ absent⟩
        simp [landed, descend_to_missing rooted down missing made]
  · rw [viaParents_of_passes missing]
    have fresh : t.walk start names ≠ .error .notFound :=
      fun absent => missing (settle_of_barred (barred absent)).1
    rw [descend_of_walk down fresh]
    cases walked : t.walk start names with
    | ok place => rfl
    | error e => exact (settle_of_barred (barred walked)).2

/-- Behind a way down, one more directory is one more step down. -/
theorem settle_concat {last : String} (down : ∀ s ∈ steps, Down s) (also : Down last)
    (made : descend start t steps = (.ok (), t')) :
    t'.settle start (steps ++ [last]) =
      landed (start ++ steps ++ [last]) (descend start t (steps ++ [last])) := by
  have walked := walk_of_descend down made
  have again : t'.walk start (steps ++ [last]) = t'.enter (start ++ steps) last := by
    rw [walk_append, walked]
    simp only [FileTree.walk]
    cases t'.enter (start ++ steps) last <;> rfl
  rw [descend_append, made]
  simp only [settle, makeOne_concat also, walked, leadsToDirectory, again, enter_down also, descend]
  cases stepped : t'.stepDown (start ++ steps) last with
  | error e => simp [landed]
  | ok t₁ =>
      obtain ⟨-, -, -, ⟨entry, found, rfl⟩ | ⟨absent, rfl⟩⟩ := stepDown_ok stepped
      · simp only [found, landed]
      · have put := at?_put t' (show start ++ steps ++ [last] ≠ [] by simp) .directory
        simp only [absent, landed, isDirectoryAt_iff, put, if_true]

/-- A chain of directories is made as one way down makes it. -/
theorem makeChain_eq (rooted : t.Rooted) (down : ∀ s ∈ steps, Down s) :
    steps = [] ∧ makeChain start t steps.reverse = (.ok (), t) ∨
      makeChain start t steps.reverse = landed (start ++ steps) (descend start t steps) := by
  induction steps using List.reverseRecOn with
  | nil => exact .inl ⟨rfl, rfl⟩
  | append_singleton steps last ih =>
      right
      have front : ∀ s ∈ steps, Down s := fun s member => down s (by simp [member])
      have also := down last (by simp)
      have direct : ".." ∉ steps ++ [last] := fun up => (down _ up).2 rfl
      have names : above (steps ++ [last]) = steps := by
        rw [above, filter_down down, List.dropLast_concat]
      rw [List.reverse_concat, makeChain_cons, ← List.reverse_concat, List.reverse_reverse,
        viaParents_eq rooted direct (names.symm ▸ ih front), names]
      cases made : descend start t steps with
      | mk r t' =>
      cases r with
      | error e => simp [descend_append, made, landed]
      | ok _ => simpa using settle_concat front also made

/-! ## Ways that begin by leading up -/

/-- A segment that names nothing and only moves about. -/
def movesAbout (segment : String) : Bool := segment == "." || segment == ".."

theorem movesAbout_iff {s : String} : movesAbout s = true ↔ s = "." ∨ s = ".." := by
  simp [movesAbout]

/-- The segments of a path in front of its first name, and those from there on. -/
def approach (path : String) : List String := (Path.segments path).takeWhile movesAbout
def trail (path : String) : List String := (Path.segments path).dropWhile movesAbout

theorem approach_append_trail (path : String) : approach path ++ trail path = Path.segments path :=
  List.takeWhile_append_dropWhile

theorem movesAbout_of_mem_approach {s : String} (member : s ∈ approach path) :
    movesAbout s = true :=
  List.all_eq_true.1 List.all_takeWhile s member

/-- No segment of a path leads up behind a name. -/
def Direct (path : String) : Prop := ".." ∉ trail path

instance (path : String) : Decidable (Direct path) := inferInstanceAs (Decidable (¬ _))

/-- The place from which a path goes by names. -/
def base (t : FileTree) (path : String) : Place := (approach path).foldl toward (t.start path)

theorem spot_eq (direct : Direct path) :
    t.spot path = t.base path ++ (trail path).filter (· != ".") := by
  rw [spot, ← approach_append_trail, List.foldl_append, foldl_toward direct, base]

theorem base_congr {u : FileTree} (home : t.home = u.home) (path : String) :
    t.base path = u.base path := by
  simp only [base, FileTree.start, home]

/-- All places above a beginning are directories, and it is one itself. -/
def Firm (t : FileTree) (start : Place) : Prop :=
  ∀ above, above <+: start → t.isDirectoryAt above = true

theorem Rooted.firm (rooted : t.Rooted) (path : String) : t.Firm (t.start path) :=
  fun _ within => rooted.isDirectoryAt (rooted.begins path) within

theorem Grows.firm (grows : t.Grows t') (firm : t.Firm start) : t'.Firm start :=
  fun above within => grows.isDirectoryAt (firm above within)

/-- Moving about leads no further than to a place above. -/
theorem foldl_toward_within {front : List String} (idle : ∀ s ∈ front, movesAbout s = true)
    (start : Place) : front.foldl toward start <+: start := by
  induction front generalizing start with
  | nil => exact List.prefix_rfl
  | cons s rest ih =>
      have later := ih fun s member => idle s (by simp [member])
      rcases movesAbout_iff.1 (idle s List.mem_cons_self) with rfl | rfl
      · exact later start
      · exact (later start.dropLast).trans (List.dropLast_prefix start)

section Behind

variable {front : List String} (firm : t.Firm start) (idle : ∀ s ∈ front, movesAbout s = true)

include firm idle

theorem walk_idle : t.walk start front = .ok (front.foldl toward start) := by
  induction front generalizing start with
  | nil => rfl
  | cons s rest ih =>
      have here := firm start List.prefix_rfl
      have later : ∀ s ∈ rest, movesAbout s = true := fun s member => idle s (by simp [member])
      rcases movesAbout_iff.1 (idle s List.mem_cons_self) with rfl | rfl
      · have entered : t.enter start "." = .ok start := by simp [enter, here]
        rw [walk_of_enter entered]
        exact ih firm later
      · have entered : t.enter start ".." = .ok start.dropLast := by simp [enter, here]
        rw [walk_of_enter entered]
        exact ih (fun above within => firm above (within.trans (List.dropLast_prefix start))) later

theorem leads_idle : t.leadsToDirectory start front = true :=
  leadsToDirectory_iff.2 ⟨_, walk_idle firm idle, firm _ (foldl_toward_within idle start)⟩

/-- A way that begins by moving about goes on as a way from another beginning. -/
theorem walk_behind (steps : List String) :
    t.walk start (front ++ steps) = t.walk (front.foldl toward start) steps := by
  rw [walk_append, walk_idle firm idle]

theorem makeOne_behind (steps : List String) :
    t.makeOne start (front ++ steps) = t.makeOne (front.foldl toward start) steps := by
  rcases List.eq_nil_or_concat' steps with rfl | ⟨parents, last, rfl⟩
  · rw [List.append_nil, makeOne_of_leads (leads_idle firm idle)]
    rfl
  · unfold makeOne vacancy
    rw [← List.append_assoc]
    simp only [List.getLast?_concat, List.dropLast_concat, walk_behind firm idle]

theorem settle_behind (steps : List String) :
    t.settle start (front ++ steps) = t.settle (front.foldl toward start) steps := by
  unfold settle leadsToDirectory
  rw [makeOne_behind firm idle, walk_behind firm idle]

theorem viaParents_behind {made : Except IoFault Unit × FileTree} (still : made.2.Firm start)
    (steps : List String) :
    t.viaParents start (front ++ steps) made =
      t.viaParents (front.foldl toward start) steps made := by
  have one := makeOne_behind firm idle steps
  by_cases missing : t.makeOne (front.foldl toward start) steps = .error .notFound
  · rw [viaParents_of_notFound missing, viaParents_of_notFound (one.trans missing)]
    obtain ⟨r, t'⟩ := made
    cases r with
    | error e => rfl
    | ok _ => exact settle_behind still idle steps
  · rw [viaParents_of_passes missing, viaParents_of_passes (one ▸ missing), settle_behind firm idle]

theorem makeChain_behind (steps : List String) :
    makeChain start t (front ++ steps).reverse =
      makeChain (front.foldl toward start) t steps.reverse := by
  induction steps using List.reverseRecOn with
  | nil =>
      have leads : t.leadsToDirectory start (front ++ []).reverse.reverse = true := by
        simpa using leads_idle firm idle
      rw [makeChain_of_leads leads]
      rfl
  | append_singleton steps last ih =>
      have still := (makeChain_paves (front.foldl toward start) t steps.reverse).grows.firm firm
      rw [← List.append_assoc, List.reverse_concat, List.reverse_concat, makeChain_cons,
        makeChain_cons, ← List.reverse_concat, ← List.reverse_concat, List.reverse_reverse,
        List.reverse_reverse, ih, List.append_assoc, viaParents_behind firm idle still]

end Behind

/-- A path goes from a directory by its names. -/
theorem Rooted.base (rooted : t.Rooted) (path : String) : t.isDirectoryAt (t.base path) = true :=
  rooted.firm path _ (foldl_toward_within (fun _ => movesAbout_of_mem_approach) _)

theorem Rooted.walk_path (rooted : t.Rooted) (path : String) :
    t.walk (t.start path) (Path.segments path) = t.walk (t.base path) (trail path) := by
  rw [← approach_append_trail]
  exact walk_behind (rooted.firm path) (fun _ => movesAbout_of_mem_approach) (trail path)

/-- A directory is made with its parents by going down to its parent, and then making it. -/
theorem makeAll_eq (rooted : t.Rooted) (direct : Direct path) (proper : path.isEmpty = false)
    (checked : checkPath path = .ok ()) :
    t.makeAll path =
      match descend (t.base path) t (above (trail path)) with
      | (.error e, t') => (.error e, t')
      | (.ok (), t') => t'.settle (t.base path) (trail path) := by
  have firm := rooted.firm path
  have idle : ∀ s ∈ approach path, movesAbout s = true := fun _ => movesAbout_of_mem_approach
  rw [makeAll_eq_viaParents proper checked, ← approach_append_trail]
  by_cases none : trail path = []
  · have leads : t.leadsToDirectory (t.start path) (approach path) = true := leads_idle firm idle
    have settled := settle_behind firm idle []
    rw [List.append_nil, settle_of_leads leads] at settled
    rw [none, List.append_nil, viaParents_of_leads leads]
    exact settled
  -- Nothing in front of the first name is a parent that has to be made.
  have parents : parentSteps path =
      ((approach path).filter (· != ".") ++ above (trail path)).reverse := by
    have named : (trail path).filter (· != ".") ≠ [] := by
      have first : movesAbout ((trail path).head none) = false :=
        List.head_dropWhile_not movesAbout none
      simp only [movesAbout, Bool.or_eq_false_iff, beq_eq_false_iff_ne] at first
      exact List.ne_nil_of_mem (List.mem_filter.2 ⟨List.head_mem none, by simpa using first.1⟩)
    rw [parentSteps, ← approach_append_trail, List.filter_append, List.tail_reverse,
      List.dropLast_append_of_ne_nil named, above]
  have shorter : ∀ s ∈ (approach path).filter (· != "."), movesAbout s = true :=
    fun s member => idle s (List.mem_of_mem_filter member)
  have still := (makeChain_paves (t.base path) t (above (trail path)).reverse).grows.firm firm
  rw [parents, makeChain_behind firm shorter, foldl_toward_filter, ← base,
    viaParents_behind firm idle still]
  exact viaParents_eq rooted direct (makeChain_eq rooted (down_of_mem_above direct))

end FileTree

end HotSwap
