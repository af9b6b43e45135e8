/-
# HotSwap.Proofs.Files.Growth -- what is put into a file system besides what is there

A file tree `Grows` where every place keeps what stands at it.  Whatever leads somewhere
leads there still in a tree that grew, so files that could be read are read as before.

Making directories and putting a payload on disk only let the tree grow, and what they
add is little: `makeAll_paves` says that making a directory adds directories to which
initial parts of its path lead, and `Depot.deposit_adds` that putting a payload on disk
adds besides them only the payload's own file.  However many directories are made, what
making one of them keeps is kept (`viaParents_keeps`, `makeAll_keeps`).
-/
import HotSwap.Proofs.Files.PayloadName

namespace HotSwap

set_option autoImplicit false

namespace FileTree

variable {t t' t'' : FileTree} {place start : Place} {steps : List String} {path : String}

/-! ## Places -/

/-- Taking one key away leaves what the others are paired with. -/
theorem lookup_filter_ne {key other : Place} (different : other ≠ key) (l : List (Place × Entry)) :
    (l.filter fun e => e.1 != key).lookup other = l.lookup other := by
  induction l with
  | nil => rfl
  | cons first rest ih =>
      obtain ⟨name, entry⟩ := first
      by_cases dropped : name = key
      · subst dropped
        have passes : (other == name) = false := by simpa using different
        simpa [List.lookup_cons, passes] using ih
      · simp only [List.filter_cons, bne_iff_ne, ne_eq, dropped, not_false_eq_true, if_true,
          List.lookup_cons, ih]

theorem at?_put (t : FileTree) {place : Place} (proper : place ≠ []) (entry : Entry)
    (other : Place) :
    (t.put place entry).at? other = if other = place then some entry else t.at? other := by
  by_cases same : other = place
  · subst same
    simp [at?, put, proper]
  · have skips : (other == place) = false := by simpa using same
    rw [if_neg same]
    unfold at?
    split
    · rfl
    · simp only [put, List.lookup_cons, skips]
      exact lookup_filter_ne same t.entries

/-- Behind a new entry stands what stood there, and the new entry. -/
theorem at?_put_ok (proper : place ≠ []) {entry held : Entry} {other : Place}
    (found : (t.put place entry).at? other = some held) :
    t.at? other = some held ∨ other = place ∧ held = entry := by
  rw [at?_put t proper] at found
  split at found
  · rename_i same
    exact .inr ⟨same, (Option.some.inj found).symm⟩
  · exact .inl found

/-- Every place keeps what stands at it. -/
structure Grows (t t' : FileTree) : Prop where
  home : t'.home = t.home
  kept : ∀ place entry, t.at? place = some entry → t'.at? place = some entry

theorem Grows.refl (t : FileTree) : t.Grows t := ⟨rfl, fun _ _ => id⟩

theorem Grows.trans (first : t.Grows t') (second : t'.Grows t'') : t.Grows t'' :=
  ⟨second.home.trans first.home, fun place entry old =>
    second.kept place entry (first.kept place entry old)⟩

theorem ne_nil_of_vacant (vacant : t.at? place = none) : place ≠ [] := by
  rintro rfl
  simp [at?] at vacant

/-- What is put where nothing was leaves the rest. -/
theorem Grows.put (vacant : t.at? place = none) (entry : Entry) : t.Grows (t.put place entry) := by
  refine ⟨rfl, fun other old found => ?_⟩
  rw [at?_put t (ne_nil_of_vacant vacant)]
  split
  · rename_i same
    rw [same, vacant] at found
    cases found
  · exact found

theorem isDirectoryAt_iff : t.isDirectoryAt place = true ↔ t.at? place = some .directory := by
  unfold isDirectoryAt
  split
  · rename_i found
    simp [found]
  · rename_i other
    simpa using other

theorem Grows.isDirectoryAt (grows : t.Grows t') (dir : t.isDirectoryAt place = true) :
    t'.isDirectoryAt place = true :=
  isDirectoryAt_iff.2 (grows.kept _ _ (isDirectoryAt_iff.1 dir))

theorem Grows.begins (grows : t.Grows t') (path : String) : t'.start path = t.start path := by
  simp only [FileTree.start, grows.home]

/-! ## Walking -/

/-- Where one step leads to, it begins in a directory and ends at something. -/
theorem enter_ok {segment : String} {dir : Place} (entered : t.enter dir segment = .ok place) :
    t.isDirectoryAt dir = true ∧
      (segment = "." ∧ place = dir ∨ segment ≠ "." ∧ segment = ".." ∧ place = dir.dropLast ∨
        segment ≠ "." ∧ segment ≠ ".." ∧ segment.utf8ByteSize ≤ maxName ∧
          place = dir ++ [segment] ∧ ∃ entry, t.at? place = some entry) := by
  unfold enter at entered
  cases inside : t.isDirectoryAt dir with
  | false => simp [inside] at entered
  | true =>
  simp only [inside, Bool.not_true, Bool.false_eq_true, if_false] at entered
  refine ⟨rfl, ?_⟩
  split at entered
  · rename_i here
    exact .inl ⟨here, (Except.ok.inj entered).symm⟩
  split at entered
  · rename_i here up
    exact .inr (.inl ⟨here, up, (Except.ok.inj entered).symm⟩)
  split at entered
  · cases entered
  rename_i here up long
  split at entered
  · cases entered
  · rename_i entry found
    obtain rfl := Except.ok.inj entered
    exact .inr (.inr ⟨here, up, Nat.le_of_not_lt long, rfl, entry, found⟩)

theorem Grows.enter (grows : t.Grows t') {dir : Place} {segment : String}
    (entered : t.enter dir segment = .ok place) : t'.enter dir segment = .ok place := by
  obtain ⟨inside, ends⟩ := enter_ok entered
  have inside := grows.isDirectoryAt inside
  unfold FileTree.enter
  rcases ends with ⟨rfl, rfl⟩ | ⟨here, rfl, rfl⟩ | ⟨here, up, short, rfl, entry, found⟩
  · simp [inside]
  · simp [inside]
  · simp [inside, here, up, Nat.not_lt.2 short, grows.kept _ _ found]

theorem walk_append (t : FileTree) (dir : Place) (front back : List String) :
    t.walk dir (front ++ back) =
      match t.walk dir front with
      | .error e => .error e
      | .ok place => t.walk place back := by
  induction front generalizing dir with
  | nil => rfl
  | cons s front ih =>
      simp only [List.cons_append, walk]
      cases t.enter dir s with
      | error e => rfl
      | ok place => exact ih place

theorem walk_of_enter {dir next : Place} {s : String} (entered : t.enter dir s = .ok next)
    (rest : List String) : t.walk dir (s :: rest) = t.walk next rest := by
  rw [FileTree.walk, entered]

/-- A way is walked by its first step, and then by the rest. -/
theorem walk_cons_ok {dir : Place} {s : String} {rest : List String}
    (walked : t.walk dir (s :: rest) = .ok place) :
    ∃ next, t.enter dir s = .ok next ∧ t.walk next rest = .ok place := by
  cases entered : t.enter dir s with
  | error e => simp [FileTree.walk, entered] at walked
  | ok next => exact ⟨next, rfl, (walk_of_enter entered rest).symm.trans walked⟩

theorem Grows.walk (grows : t.Grows t') {dir : Place} (walked : t.walk dir steps = .ok place) :
    t'.walk dir steps = .ok place := by
  induction steps generalizing dir with
  | nil => exact walked
  | cons s rest ih =>
      obtain ⟨next, entered, walked⟩ := walk_cons_ok walked
      rw [walk_of_enter (grows.enter entered)]
      exact ih walked

/-- A way that goes on comes by directories only. -/
theorem walk_concat_ok {dir : Place} {last : String}
    (walked : t.walk dir (steps ++ [last]) = .ok place) :
    ∃ before, t.walk dir steps = .ok before ∧ t.enter before last = .ok place := by
  rw [walk_append] at walked
  cases reached : t.walk dir steps with
  | error e => simp [reached] at walked
  | ok before =>
      rw [reached] at walked
      obtain ⟨next, entered, ended⟩ := walk_cons_ok walked
      obtain rfl : next = place := Except.ok.inj ended
      exact ⟨before, rfl, entered⟩

/-- A path leads to where its segments do, which is a directory if the path ends so. -/
theorem find_ok_iff : t.find path = .ok place ↔
    checkPath path = .ok () ∧ t.walk (t.start path) (Path.segments path) = .ok place ∧
      (Path.endsWithSlash path = true → t.isDirectoryAt place = true) := by
  unfold find
  cases checkPath path with
  | error e => simp [Bind.bind, Except.bind]
  | ok _ =>
  cases t.walk (t.start path) (Path.segments path) with
  | error e => simp [Bind.bind, Except.bind]
  | ok reached =>
      simp only [Bind.bind, Except.bind, true_and, Except.ok.injEq]
      cases slash : Path.endsWithSlash path with
      | false => simp
      | true =>
          cases inside : t.isDirectoryAt reached with
          | true =>
              simp only [Bool.not_true, Bool.and_false, Bool.false_eq_true, if_false,
                Except.ok.injEq, forall_const]
              exact ⟨fun same => ⟨same, same ▸ inside⟩, And.left⟩
          | false =>
              simp only [Bool.not_false, Bool.and_self, if_true, reduceCtorEq, forall_const,
                false_iff, not_and]
              rintro rfl
              simp [inside]

theorem stat_ok_iff {entry : Entry} :
    t.stat path = .ok entry ↔ ∃ place, t.find path = .ok place ∧ t.at? place = some entry := by
  unfold stat
  cases t.find path with
  | error e => simp [Bind.bind, Except.bind]
  | ok place =>
      simp only [Bind.bind, Except.bind, Except.ok.injEq, exists_eq_left']
      cases t.at? place <;> simp

theorem Grows.find (grows : t.Grows t') (found : t.find path = .ok place) :
    t'.find path = .ok place := by
  obtain ⟨checked, walked, slash⟩ := find_ok_iff.1 found
  exact find_ok_iff.2 ⟨checked, grows.begins path ▸ grows.walk walked,
    fun ends => grows.isDirectoryAt (slash ends)⟩

/-- A segment that means "here" leads nowhere else. -/
theorem walk_filter {dir : Place} (walked : t.walk dir steps = .ok place) :
    t.walk dir (steps.filter (· != ".")) = .ok place := by
  induction steps generalizing dir with
  | nil => exact walked
  | cons s rest ih =>
      obtain ⟨next, entered, behind⟩ := walk_cons_ok walked
      by_cases here : s = "."
      · subst here
        rcases (enter_ok entered).2 with ⟨-, rfl⟩ | ⟨not, -⟩ | ⟨not, -⟩
        · simpa using ih behind
        · exact absurd rfl not
        · exact absurd rfl not
      · simpa [here, walk_of_enter entered] using ih behind

/-! ## Ways that lead to a directory -/

theorem leadsToDirectory_iff : t.leadsToDirectory start steps = true ↔
    ∃ place, t.walk start steps = .ok place ∧ t.isDirectoryAt place = true := by
  unfold leadsToDirectory
  cases t.walk start steps <;> simp

theorem isDirectory_iff : t.isDirectory path = true ↔
    checkPath path = .ok () ∧ t.leadsToDirectory (t.start path) (Path.segments path) = true := by
  have stated : t.isDirectory path = true ↔ t.stat path = .ok .directory := by
    unfold isDirectory
    split
    · rename_i found
      simp [found]
    · rename_i other
      simpa using other
  rw [stated, stat_ok_iff, leadsToDirectory_iff]
  constructor
  · rintro ⟨place, found, at_⟩
    obtain ⟨checked, walked, -⟩ := find_ok_iff.1 found
    exact ⟨checked, place, walked, isDirectoryAt_iff.2 at_⟩
  · rintro ⟨checked, place, walked, inside⟩
    exact ⟨place, find_ok_iff.2 ⟨checked, walked, fun _ => inside⟩, isDirectoryAt_iff.1 inside⟩

/-! ## Making directories -/

/-- A place for a new entry is a name in a directory, and nothing is there. -/
theorem vacancy_ok (free : t.vacancy start steps = .ok place) :
    ∃ parents last dir, steps = parents ++ [last] ∧ t.walk start parents = .ok dir ∧
      t.isDirectoryAt dir = true ∧ last ≠ "." ∧ last ≠ ".." ∧ last.utf8ByteSize ≤ maxName ∧
      place = dir ++ [last] ∧ t.at? place = none := by
  unfold vacancy at free
  cases ends : steps.getLast? with
  | none => simp [ends] at free
  | some last =>
  simp only [ends] at free
  cases walked : t.walk start steps.dropLast with
  | error e => simp [walked, Bind.bind, Except.bind] at free
  | ok dir =>
  simp only [walked, Bind.bind, Except.bind] at free
  split at free
  · cases free
  rename_i inside
  split at free
  · cases free
  rename_i proper
  split at free
  · cases free
  rename_i long
  split at free
  · cases free
  rename_i empty
  obtain rfl := Except.ok.inj free
  have proper : last ≠ "." ∧ last ≠ ".." := by simpa using proper
  refine ⟨steps.dropLast, last, dir, ?_, walked, by simpa using inside, proper.1, proper.2,
    Nat.le_of_not_lt long, rfl, empty⟩
  obtain ⟨front, rfl⟩ := List.getLast?_eq_some_iff.1 ends
  simp

/-- What is put at a vacancy is where its path leads. -/
theorem walk_put_vacancy (free : t.vacancy start steps = .ok place) (entry : Entry) :
    t.Grows (t.put place entry) ∧ (t.put place entry).at? place = some entry ∧
      (t.put place entry).walk start steps = .ok place := by
  obtain ⟨parents, last, dir, rfl, walked, inside, here, up, short, rfl, empty⟩ := vacancy_ok free
  have grows := Grows.put empty entry
  have put : (t.put (dir ++ [last]) entry).at? (dir ++ [last]) = some entry := by
    simp [at?_put]
  refine ⟨grows, put, ?_⟩
  rw [walk_append, grows.walk walked]
  simp [FileTree.walk, enter, grows.isDirectoryAt inside, here, up, Nat.not_lt.2 short, put]

/-- The tree grew by directories only, and initial parts of a way lead to each of them. -/
structure Paves (t : FileTree) (start : Place) (steps : List String) (t' : FileTree) : Prop where
  grows : t.Grows t'
  added : ∀ place entry, t'.at? place = some entry → t.at? place = some entry ∨
    entry = .directory ∧ ∃ part, part <+: steps ∧ t'.walk start part = .ok place

theorem Paves.refl (t : FileTree) (start : Place) (steps : List String) :
    t.Paves start steps t :=
  ⟨.refl t, fun _ _ => .inl⟩

theorem Paves.trans (first : t.Paves start steps t') (second : t'.Paves start steps t'') :
    t.Paves start steps t'' := by
  refine ⟨first.grows.trans second.grows, fun place entry found => ?_⟩
  rcases second.added place entry found with old | new
  · rcases first.added place entry old with old | ⟨rfl, part, initial, walked⟩
    · exact .inl old
    · exact .inr ⟨rfl, part, initial, second.grows.walk walked⟩
  · exact .inr new

theorem Paves.longer {more : List String} (paves : t.Paves start steps t')
    (initial : steps <+: more) : t.Paves start more t' := by
  refine ⟨paves.grows, fun place entry found => (paves.added place entry found).imp_right ?_⟩
  rintro ⟨rfl, part, within, walked⟩
  exact ⟨rfl, part, within.trans initial, walked⟩

/-- The names of a way are a way as well. -/
theorem Paves.named (paves : t.Paves start steps t') :
    t.Paves start (steps.filter (· != ".")) t' := by
  refine ⟨paves.grows, fun place entry found => (paves.added place entry found).imp_right ?_⟩
  rintro ⟨rfl, part, initial, walked⟩
  exact ⟨rfl, part.filter (· != "."), initial.filter _, walk_filter walked⟩

theorem makeOne_ok (made : t.makeOne start steps = .ok t') :
    ∃ place, t.vacancy start steps = .ok place ∧ t' = t.put place .directory := by
  unfold makeOne at made
  cases free : t.vacancy start steps with
  | error e => simp [free] at made
  | ok place =>
      rw [free] at made
      exact ⟨place, rfl, (Except.ok.inj made).symm⟩

/-- One directory is made at the end of its way. -/
theorem makeOne_paves (made : t.makeOne start steps = .ok t') :
    t.Paves start steps t' ∧ ∃ place, t'.walk start steps = .ok place ∧
      t'.isDirectoryAt place = true := by
  obtain ⟨place, free, rfl⟩ := makeOne_ok made
  obtain ⟨grows, put, walked⟩ := walk_put_vacancy free .directory
  obtain ⟨_, _, _, -, -, -, -, -, -, proper, -⟩ := vacancy_ok free
  refine ⟨⟨grows, fun other entry found => ?_⟩, place, walked, isDirectoryAt_iff.2 put⟩
  refine (at?_put_ok (by simp [proper]) found).imp_right ?_
  rintro ⟨rfl, rfl⟩
  exact ⟨rfl, steps, List.prefix_rfl, walked⟩

/-! ### A directory and its parents

A chain of directories and a whole path are made in the same way: the last directory first, and if
a part of its way is missing, once more behind its parents. -/

/-- Makes one directory at the end of a way, unless the way leads to one. -/
def settle (t : FileTree) (start : Place) (steps : List String) : Except IoFault Unit × FileTree :=
  match t.makeOne start steps with
  | .ok t' => (.ok (), t')
  | .error e => if t.leadsToDirectory start steps then (.ok (), t) else (.error e, t)

/-- Makes one directory at the end of a way; if a part of the way is missing, what was made of its
parents comes first. -/
def viaParents (t : FileTree) (start : Place) (steps : List String)
    (made : Except IoFault Unit × FileTree) : Except IoFault Unit × FileTree :=
  match t.makeOne start steps, made with
  | .error .notFound, (.error e, t') => (.error e, t')
  | .error .notFound, (.ok (), t') => t'.settle start steps
  | _, _ => t.settle start steps

theorem viaParents_of_notFound (missing : t.makeOne start steps = .error .notFound)
    (made : Except IoFault Unit × FileTree) :
    t.viaParents start steps made =
      match made with
      | (.error e, t) => (.error e, t)
      | (.ok (), t) => t.settle start steps := by
  obtain ⟨_ | _, t'⟩ := made <;> simp [viaParents, missing]

theorem viaParents_of_passes (passes : t.makeOne start steps ≠ .error .notFound)
    (made : Except IoFault Unit × FileTree) :
    t.viaParents start steps made = t.settle start steps := by
  unfold viaParents
  split
  · rename_i missing
    exact absurd missing passes
  · rename_i missing
    exact absurd missing passes
  · rfl

theorem makeChain_cons (start : Place) (t : FileTree) (last : String) (parents : List String) :
    makeChain start t (last :: parents) =
      t.viaParents start (last :: parents).reverse (makeChain start t parents) := by
  rw [makeChain]
  unfold viaParents settle
  cases t.makeOne start (last :: parents).reverse with
  | ok t' => rfl
  | error e =>
      cases e with
      | notFound =>
          generalize makeChain start t parents = made
          obtain ⟨_ | _, t'⟩ := made <;> rfl
      | _ => rfl

section Keeps

variable {R : FileTree → FileTree → Prop} (refl : ∀ t, R t t)
  (trans : ∀ {t t' t''}, R t t' → R t' t'' → R t t'')
  (one : ∀ {t t'}, t.makeOne start steps = .ok t' → R t t')

include refl one

theorem settle_keeps (t : FileTree) : R t (t.settle start steps).2 := by
  unfold settle
  cases made : t.makeOne start steps with
  | ok t' => exact one made
  | error e =>
      dsimp only
      split <;> exact refl t

include trans

/-- What one directory keeps and its parents kept, both of them keep. -/
theorem viaParents_keeps {made : Except IoFault Unit × FileTree} (parents : R t made.2) :
    R t (t.viaParents start steps made).2 := by
  by_cases missing : t.makeOne start steps = .error .notFound
  · rw [viaParents_of_notFound missing]
    obtain ⟨_ | _, t'⟩ := made
    · exact parents
    · exact trans parents (settle_keeps refl one t')
  · rw [viaParents_of_passes missing]
    exact settle_keeps refl one t

end Keeps

/-- A directory is made with its parents, as far as that is possible. -/
theorem makeChain_paves (start : Place) (t : FileTree) (chain : List String) :
    t.Paves start chain.reverse (t.makeChain start chain).2 := by
  induction chain with
  | nil => exact .refl t _ _
  | cons last parents ih =>
      have shorter : parents.reverse <+: (last :: parents).reverse := by simp
      rw [makeChain_cons]
      exact viaParents_keeps (.refl · start _) .trans (fun made => (makeOne_paves made).1)
        (ih.longer shorter)

theorem makeAll_eq_viaParents (proper : path.isEmpty = false) (checked : checkPath path = .ok ()) :
    t.makeAll path = t.viaParents (t.start path) (Path.segments path)
      (makeChain (t.start path) t (parentSteps path)) := by
  have same (t : FileTree) :
      t.isDirectory path = t.leadsToDirectory (t.start path) (Path.segments path) := by
    rw [Bool.eq_iff_iff, isDirectory_iff]
    simp [checked]
  have begins := (makeChain_paves (t.start path) t (parentSteps path)).grows.begins path
  unfold makeAll viaParents settle
  simp only [proper, checked, same, Bool.false_eq_true, if_false]
  generalize makeChain (t.start path) t (parentSteps path) = made at begins ⊢
  cases t.makeOne (t.start path) (Path.segments path) with
  | ok t' => rfl
  | error e =>
      cases e with
      | notFound =>
          obtain ⟨_ | _, t'⟩ := made
          · rfl
          · have begins : t'.start path = t.start path := begins
            rewrite [← begins]
            rfl
      | _ => rfl

/-- What making the directories on a path keeps, making the path keeps. -/
theorem makeAll_keeps {R : FileTree → FileTree → Prop} (refl : ∀ t, R t t)
    (trans : ∀ {t t' t''}, R t t' → R t' t'' → R t t'')
    (one : ∀ {u u'}, u.makeOne (t.start path) (Path.segments path) = .ok u' → R u u')
    (parents : R t (makeChain (t.start path) t (parentSteps path)).2) :
    R t (t.makeAll path).2 := by
  cases empty : path.isEmpty with
  | true =>
      simp only [makeAll, empty, if_true]
      exact refl t
  | false =>
  cases checked : checkPath path with
  | error e =>
      simp only [makeAll, empty, checked, Bool.false_eq_true, if_false]
      exact refl t
  | ok _ =>
      rw [makeAll_eq_viaParents empty checked]
      exact viaParents_keeps refl trans one parents

/-- The segments of a path that lead elsewhere. -/
def route (path : String) : List String := (Path.segments path).filter (· != ".")

/-- Making a directory adds directories on its route only. -/
theorem makeAll_paves (t : FileTree) (path : String) :
    t.Paves (t.start path) (route path) (t.makeAll path).2 := by
  have shorter : (parentSteps path).reverse <+: route path := by
    rw [parentSteps, List.tail_reverse, List.reverse_reverse]
    exact List.dropLast_prefix _
  -- The last step is made by the path as it is written, whose way is also that of its route.
  exact makeAll_keeps (.refl · _ _) .trans (fun made => (makeOne_paves made).1.named)
    ((makeChain_paves (t.start path) t (parentSteps path)).longer shorter)

/-! ## Files -/

/-- Nothing but directories is gained or lost. -/
def SameFiles (t t' : FileTree) : Prop :=
  ∀ place entry, entry ≠ .directory → (t'.at? place = some entry ↔ t.at? place = some entry)

theorem SameFiles.refl (t : FileTree) : t.SameFiles t := fun _ _ _ => Iff.rfl

/-- One entry is put where nothing was, and besides it nothing but directories is gained or lost. -/
structure Publishes (t : FileTree) (place : Place) (entry : Entry) (t' : FileTree) : Prop where
  free : t.at? place = none
  put : t'.at? place = some entry
  others : ∀ other held, held ≠ .directory → other ≠ place →
    (t'.at? other = some held ↔ t.at? other = some held)

/-! ## Putting a file where nothing is -/

theorem create_ok {mode : Nat} {data : ByteArray} (made : t.create path mode data = .ok t') :
    ∃ place, t.at? place = none ∧ t' = t.put place (.file mode data) ∧ t.Grows t' ∧
      t'.at? place = some (.file mode data) ∧ t'.find path = .ok place := by
  unfold create at made
  cases checked : checkPath path with
  | error e => simp [checked, Bind.bind, Except.bind] at made
  | ok _ =>
  simp only [checked, Bind.bind, Except.bind] at made
  split at made
  · cases made
  rename_i slash
  cases free : t.vacancy (t.start path) (Path.segments path) with
  | error e => simp [free] at made
  | ok place =>
      simp only [free, Except.ok.injEq] at made
      subst made
      obtain ⟨grows, put, walked⟩ := walk_put_vacancy free (.file mode data)
      obtain ⟨_, _, _, -, -, -, -, -, -, -, empty⟩ := vacancy_ok free
      refine ⟨place, empty, rfl, grows, put, ?_⟩
      exact find_ok_iff.2 ⟨checked, walked, fun ends => absurd ends slash⟩

end FileTree

namespace Depot

open FileTree

/-- A tree grew by no more than a payload in a directory: its file, where its path leads to, and
directories to which initial parts of the directory's route lead. -/
structure Adds (t : FileTree) (dir : String) (payload : Payload) (t' : FileTree) : Prop where
  grows : t.Grows t'
  added : ∀ place entry, t'.at? place = some entry → t.at? place = some entry ∨
    (entry = .directory ∧ ∃ part, part <+: route dir ∧ t'.walk (t'.start dir) part = .ok place) ∨
    entry = .file mode payload.bytes ∧ t'.find (target dir payload) = .ok place

theorem Adds.refl (t : FileTree) (dir : String) (payload : Payload) : Adds t dir payload t :=
  ⟨.refl t, fun _ _ => .inl⟩

/-- Putting a payload on disk adds no more than it. -/
theorem deposit_adds (t : FileTree) (dir : String) (payload : Payload) :
    Adds t dir payload (deposit t dir payload).2 := by
  have paved : Adds t dir payload (t.makeAll dir).2 := by
    obtain ⟨grows, added⟩ := makeAll_paves t dir
    refine ⟨grows, fun place entry found => (added place entry found).imp_right fun new => .inl ?_⟩
    rwa [grows.begins dir]
  have comes := deposited t dir payload
  generalize deposit t dir payload = outcome at comes ⊢
  cases comes with
  | found file => exact .refl t dir payload
  | unmade absent made =>
      rw [made] at paved
      exact paved
  | unstaged absent made refused =>
      rw [made] at paved
      exact paved
  | unpublished staged refused other =>
      rw [staged.made] at paved
      exact paved
  | taken staged refused =>
      rw [staged.made] at paved
      exact paved
  | published staged created =>
      rw [staged.made] at paved
      obtain ⟨place, empty, rfl, grows, put, found⟩ := create_ok created
      refine ⟨paved.grows.trans grows, fun other entry at_ => ?_⟩
      rcases at?_put_ok (ne_nil_of_vacant empty) at_ with old | ⟨rfl, rfl⟩
      · refine (paved.added other entry old).imp_right ?_
        rintro (⟨rfl, part, initial, walked⟩ | ⟨rfl, walked⟩)
        · exact .inl ⟨rfl, part, initial, (grows.begins dir).symm ▸ grows.walk walked⟩
        · exact .inr ⟨rfl, grows.find walked⟩
      · exact .inr (.inr ⟨rfl, found⟩)

/-- A tree that grew by no more than a payload has the files that it had, or the payload's own file
besides. -/
theorem Adds.files {t t' : FileTree} {dir : String} {payload : Payload}
    (adds : Adds t dir payload t') :
    t.SameFiles t' ∨ ∃ place, t'.find (target dir payload) = .ok place ∧
      t.Publishes place (.file mode payload.bytes) t' := by
  have old {place : Place} {entry : Entry} (found : t.at? place = some entry) :
      t'.at? place = some entry := adds.grows.kept place entry found
  by_cases gained : ∃ place entry, entry ≠ .directory ∧ t'.at? place = some entry ∧
      t.at? place ≠ some entry
  · obtain ⟨place, entry, file, found, new⟩ := gained
    right
    obtain ⟨rfl, leads⟩ : entry = .file mode payload.bytes ∧
        t'.find (target dir payload) = .ok place := by
      rcases adds.added place entry found with there | ⟨rfl, -⟩ | own
      · exact absurd there new
      · exact absurd rfl file
      · exact own
    refine ⟨place, leads, ?_, found, ?_⟩
    · cases held : t.at? place with
      | none => rfl
      | some entry => exact absurd (held.trans ((old held).symm.trans found)) new
    · intro other held file' elsewhere
      refine ⟨fun now => ?_, old⟩
      rcases adds.added other held now with there | ⟨rfl, -⟩ | ⟨-, leads'⟩
      · exact there
      · exact absurd rfl file'
      · exact absurd (Except.ok.inj (leads'.symm.trans leads)) elsewhere
  · left
    intro place entry file
    refine ⟨fun now => ?_, old⟩
    by_cases there : t.at? place = some entry
    · exact there
    · exact absurd ⟨place, entry, file, now, there⟩ gained

end Depot

end HotSwap
