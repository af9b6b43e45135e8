/-
# HotSwap.Proofs.Files.Neighbours -- a directory beside the directories of others

Two trees are alike `Around` a place if nothing differs below it, and above it no more than that
directories are there in one of them which are missing in the other.  A payload that is put on
disk at this place cannot tell them apart (`Depot.deposit_around`): the directories that are
missing above it are made on the way, and the answer is the same.

Whoever puts payloads on disk elsewhere leaves such trees alike (`Around.adds`).  Elsewhere is a
place that is neither above nor below, on a way that leads up at its beginning at most.
-/
import HotSwap.Proofs.Files.Descent

namespace HotSwap

set_option autoImplicit false

namespace FileTree

variable {u t u' t' u'' t'' : FileTree} {dir centre place start : Place} {steps : List String}
  {path : String}

/-! ## Trees that change together -/

/-- Each place keeps in both trees what stood at it, or has the same in both. -/
def Jointly (u t u' t' : FileTree) : Prop :=
  ∀ place, u'.at? place = u.at? place ∧ t'.at? place = t.at? place ∨
    ∃ entry, u'.at? place = some entry ∧ t'.at? place = some entry

theorem Jointly.refl (u t : FileTree) : Jointly u t u t := fun _ => .inl ⟨rfl, rfl⟩

theorem Jointly.trans (first : Jointly u t u' t') (second : Jointly u' t' u'' t'') :
    Jointly u t u'' t'' := by
  intro place
  rcases second place with ⟨alone, both⟩ | same
  · rw [alone, both]
    exact first place
  · exact .inr same

theorem Jointly.put (proper : place ≠ []) (entry : Entry) :
    Jointly u t (u.put place entry) (t.put place entry) := by
  intro other
  by_cases same : other = place
  · exact .inr ⟨entry, by simp [at?_put _ proper, same]⟩
  · exact .inl (by simp [at?_put _ proper, same])

/-- Where the trees were the same they are still. -/
theorem Jointly.same (joint : Jointly u t u' t') (same : t.at? place = u.at? place) :
    t'.at? place = u'.at? place := by
  rcases joint place with ⟨alone, both⟩ | ⟨entry, alone, both⟩
  · rw [alone, both, same]
  · rw [alone, both]

/-- Nothing differs below a place, and above it only directories are there in the second tree that
are missing in the first. -/
structure Around (centre : Place) (u t : FileTree) : Prop where
  below : ∀ place, centre <+: place → t.at? place = u.at? place
  above : ∀ place, place <+: centre →
    t.at? place = u.at? place ∨ u.at? place = none ∧ t.at? place = some .directory

theorem Around.jointly (around : Around centre u t) (joint : Jointly u t u' t') :
    Around centre u' t' := by
  refine ⟨fun place below => joint.same (around.below place below), fun place above => ?_⟩
  rcases around.above place above with same | ⟨absent, there⟩
  · exact .inl (joint.same same)
  · rcases joint place with ⟨alone, both⟩ | ⟨entry, alone, both⟩
    · exact .inr ⟨alone.trans absent, both.trans there⟩
    · exact .inl (both.trans alone.symm)

/-! ## The same way in both trees -/

theorem isDirectoryAt_congr (same : t.at? place = u.at? place) :
    t.isDirectoryAt place = u.isDirectoryAt place := by
  simp [isDirectoryAt, same]

/-- A way that never leads up looks only at the places that it goes by. -/
theorem walk_congr (direct : ".." ∉ steps)
    (same : ∀ place, dir <+: place → place <+: dir ++ steps.filter (· != ".") →
      t.at? place = u.at? place) : t.walk dir steps = u.walk dir steps := by
  induction steps generalizing dir with
  | nil => rfl
  | cons s rest ih =>
      simp only [List.mem_cons, not_or] at direct
      have inside := isDirectoryAt_congr (same dir List.prefix_rfl (List.prefix_append _ _))
      by_cases here : s = "."
      · subst here
        have later := ih direct.2 (by simpa using same)
        simp only [FileTree.walk, enter, inside, if_true]
        cases u.isDirectoryAt dir <;> simp [later]
      · have names : (s :: rest).filter (· != ".") = s :: rest.filter (· != ".") := by simp [here]
        rw [names] at same
        have next := same (dir ++ [s]) (List.prefix_append _ _) (by simp)
        have later : t.walk (dir ++ [s]) rest = u.walk (dir ++ [s]) rest :=
          ih direct.2 fun place below within =>
            same place ((List.prefix_append _ _).trans below) (by simpa using within)
        have entered : t.enter dir s = u.enter dir s := by simp only [enter, inside, next]
        simp only [FileTree.walk, entered]
        cases reached : u.enter dir s with
        | error e => rfl
        | ok place =>
            obtain ⟨-, ⟨here', -⟩ | ⟨-, up, -⟩ | ⟨-, -, -, rfl, -⟩⟩ := enter_ok reached
            · exact absurd here' here
            · exact absurd up (Ne.symm direct.1)
            · exact later

/-- So does a vacancy. -/
theorem vacancy_congr (direct : ".." ∉ steps)
    (same : ∀ place, start <+: place → place <+: start ++ steps.filter (· != ".") →
      t.at? place = u.at? place) : t.vacancy start steps = u.vacancy start steps := by
  rcases List.eq_nil_or_concat' steps with rfl | ⟨front, last, rfl⟩
  · rfl
  simp only [List.mem_append, not_or] at direct
  rw [List.filter_append] at same
  have walked : t.walk start front = u.walk start front :=
    walk_congr direct.1 fun place below within =>
      same place below (within.trans (by rw [← List.append_assoc]; exact List.prefix_append _ _))
  unfold vacancy
  simp only [List.getLast?_concat, List.dropLast_concat, walked]
  cases reached : u.walk start front with
  | error e => rfl
  | ok place =>
      obtain rfl := walk_named direct.1 reached
      have inside := isDirectoryAt_congr (same (start ++ front.filter (· != "."))
        (List.prefix_append _ _) (by rw [← List.append_assoc]; exact List.prefix_append _ _))
      simp only [Bind.bind, Except.bind, inside]
      by_cases moves : last = "." ∨ last = ".."
      · simp [moves]
      · have here : last ≠ "." := fun here => moves (.inl here)
        have free := same (start ++ front.filter (· != ".") ++ [last])
          (by rw [List.append_assoc]; exact List.prefix_append _ _) (by simp [here])
        simp only [free]

theorem makeOne_congr (direct : ".." ∉ steps)
    (same : ∀ place, start <+: place → place <+: start ++ steps.filter (· != ".") →
      t.at? place = u.at? place) :
    (∃ e, u.makeOne start steps = .error e ∧ t.makeOne start steps = .error e) ∨
      ∃ place, place ≠ [] ∧ u.makeOne start steps = .ok (u.put place .directory) ∧
        t.makeOne start steps = .ok (t.put place .directory) := by
  unfold makeOne
  rw [vacancy_congr direct same]
  cases free : u.vacancy start steps with
  | error e => exact .inl ⟨e, rfl, rfl⟩
  | ok place =>
      obtain ⟨_, _, _, -, -, -, -, -, -, rfl, -⟩ := vacancy_ok free
      exact .inr ⟨_, by simp, rfl, rfl⟩

/-- Where the places of a way are the same, its end is settled in the same way. -/
theorem settle_congr (direct : ".." ∉ steps)
    (same : ∀ place, start <+: place → place <+: start ++ steps.filter (· != ".") →
      t.at? place = u.at? place) :
    (t.settle start steps).1 = (u.settle start steps).1 ∧
      Jointly u t (u.settle start steps).2 (t.settle start steps).2 := by
  have leads : t.leadsToDirectory start steps = u.leadsToDirectory start steps := by
    unfold leadsToDirectory
    rw [walk_congr direct same]
    cases walked : u.walk start steps with
    | error e => rfl
    | ok place =>
        obtain rfl := walk_named direct walked
        exact isDirectoryAt_congr (same _ (List.prefix_append _ _) List.prefix_rfl)
  unfold settle
  rcases makeOne_congr direct same with ⟨e, alone, both⟩ | ⟨place, proper, alone, both⟩
  · rw [alone, both, leads]
    cases u.leadsToDirectory start steps <;> exact ⟨rfl, .refl u t⟩
  · rw [alone, both]
    exact ⟨rfl, .put proper _⟩

/-! ## Making a directory -/

/-- A step down cannot tell a directory that is there from one that is missing. -/
theorem stepDown_around {name : String} (around : Around centre u t) (same : t.at? dir = u.at? dir)
    (within : dir ++ [name] <+: centre) :
    (∃ e, u.stepDown dir name = .error e ∧ t.stepDown dir name = .error e) ∨
      ∃ u' t', u.stepDown dir name = .ok u' ∧ t.stepDown dir name = .ok t' ∧
        Jointly u t u' t' ∧ t'.at? (dir ++ [name]) = u'.at? (dir ++ [name]) := by
  have proper : dir ++ [name] ≠ [] := by simp
  have put (v : FileTree) : (v.put (dir ++ [name]) .directory).at? (dir ++ [name]) =
      some .directory := by rw [at?_put v proper, if_pos rfl]
  unfold stepDown
  rw [isDirectoryAt_congr same]
  split
  · exact .inl ⟨_, rfl, rfl⟩
  split
  · exact .inl ⟨_, rfl, rfl⟩
  right
  rcases around.above _ within with same | ⟨absent, there⟩
  · rw [same]
    cases u.at? (dir ++ [name]) with
    | none =>
        exact ⟨_, _, rfl, rfl, .put proper _, (put t).trans (put u).symm⟩
    | some entry => exact ⟨_, _, rfl, rfl, .refl u t, same⟩
  · rw [absent, there]
    refine ⟨_, _, rfl, rfl, fun place => ?_, there.trans (put u).symm⟩
    by_cases here : place = dir ++ [name]
    · subst here
      exact .inr ⟨_, put u, there⟩
    · exact .inl ⟨by rw [at?_put u proper, if_neg here], rfl⟩

/-- Nor can a way down, and behind it the trees are the same at all places on it. -/
theorem descend_around (around : Around centre u t) (same : t.at? dir = u.at? dir)
    (within : dir ++ steps <+: centre) :
    (descend dir t steps).1 = (descend dir u steps).1 ∧
      Jointly u t (descend dir u steps).2 (descend dir t steps).2 ∧
      ((descend dir u steps).1 = .ok () → ∀ place, dir <+: place → place <+: dir ++ steps →
        (descend dir t steps).2.at? place = (descend dir u steps).2.at? place) := by
  induction steps generalizing dir u t with
  | nil =>
      refine ⟨rfl, .refl u t, fun _ place below within => ?_⟩
      obtain rfl : dir = place := below.eq_of_length_le (by simpa using within.length_le)
      exact same
  | cons name rest ih =>
      have within : dir ++ [name] ++ rest <+: centre := by simpa using within
      have next := (List.prefix_append (dir ++ [name]) rest).trans within
      unfold descend
      rcases stepDown_around around same next with
        ⟨e, alone, both⟩ | ⟨u₁, t₁, alone, both, joint, there⟩
      · rw [alone, both]
        exact ⟨rfl, .refl u t, fun fine => by cases fine⟩
      · rw [alone, both]
        dsimp only
        obtain ⟨answer, later, level⟩ := ih (around.jointly joint) there within
        refine ⟨answer, joint.trans later, fun fine place below within => ?_⟩
        by_cases here : place = dir
        · subst here
          exact later.same (joint.same same)
        · refine level fine place ?_ (by simpa using within)
          obtain ⟨more, rfl⟩ := below
          obtain ⟨first, more, rfl⟩ := List.exists_cons_of_ne_nil (by simpa using here)
          obtain ⟨rfl, -⟩ : first = name ∧ more <+: rest := by
            simpa [List.prefix_append_right_inj] using within
          exact ⟨more, by simp⟩

/-- Short of the whole way, a place is on the way to the parent. -/
theorem prefix_above (direct : Direct path) (below : t.base path <+: place)
    (within : place <+: t.spot path) (short : ¬ t.spot path <+: place) :
    place <+: t.base path ++ FileTree.above (trail path) := by
  rw [spot_eq direct] at within short
  rcases List.eq_nil_or_concat' ((trail path).filter (· != ".")) with none | ⟨names, last, split⟩
  · refine absurd ?_ short
    rw [none, List.append_nil]
    exact below
  · rw [split, ← List.append_assoc] at within short
    rw [FileTree.above, split, List.dropLast_concat]
    rcases List.prefix_concat_iff.1 within with rfl | within
    · exact absurd List.prefix_rfl short
    · exact within

/-- A directory is made with its parents, whether or not some of them are there. -/
theorem makeAll_around (home : t.home = u.home) (alone : u.Rooted) (both : t.Rooted)
    (direct : Direct path) (around : Around (u.spot path) u t) :
    (t.makeAll path).1 = (u.makeAll path).1 ∧
      Jointly u t (u.makeAll path).2 (t.makeAll path).2 := by
  cases empty : path.isEmpty with
  | true => simp [makeAll, empty, Jointly.refl]
  | false =>
  cases checked : checkPath path with
  | error e => simp [makeAll, empty, checked, Jointly.refl]
  | ok _ =>
  have begins := base_congr home path
  have same : t.at? (u.base path) = u.at? (u.base path) := by
    rw [isDirectoryAt_iff.1 (alone.base path), ← begins, isDirectoryAt_iff.1 (both.base path)]
  have whole := spot_eq (t := u) direct
  have front : u.base path ++ FileTree.above (trail path) <+: u.spot path :=
    whole ▸ (List.prefix_append_right_inj _).2 (List.dropLast_prefix _)
  rw [makeAll_eq alone direct empty checked, makeAll_eq both direct empty checked, begins]
  obtain ⟨answer, joint, level⟩ := descend_around around same front
  generalize descend (u.base path) u (FileTree.above (trail path)) = madeAlone
    at answer joint level
  generalize descend (u.base path) t (FileTree.above (trail path)) = madeBoth
    at answer joint level
  obtain ⟨r, u'⟩ := madeAlone
  obtain ⟨r', t'⟩ := madeBoth
  obtain rfl : r' = r := answer
  cases r' with
  | error e => exact ⟨rfl, joint⟩
  | ok _ =>
      have same : ∀ place, u.base path <+: place → place <+: u.spot path →
          t'.at? place = u'.at? place := by
        intro place below within
        by_cases outside : u.spot path <+: place
        · exact (around.jointly joint).below place outside
        · exact level rfl place below (prefix_above direct below within outside)
      have settled := settle_congr direct (whole ▸ same)
      exact ⟨settled.1, joint.trans settled.2⟩

/-! ## A file in the directory -/

/-- In a rooted tree there is room in a directory if it is there and its path can be walked. -/
theorem Rooted.room_ok_iff (rooted : t.Rooted) (direct : Direct path) {name : String} :
    t.room path name = .ok place ↔
      checkPath (Path.join path name) = .ok () ∧ place = t.spot path ∧
        (∀ s ∈ (trail path).filter (· != "."), s.utf8ByteSize ≤ maxName) ∧
          t.isDirectoryAt (t.spot path) = true := by
  rw [FileTree.room_ok_iff, rooted.walk_path, spot_eq direct]
  constructor
  · rintro ⟨checked, walked, inside⟩
    obtain rfl := walk_named direct walked
    refine ⟨checked, rfl, fun s member => ?_, inside⟩
    exact walk_short walked s (List.mem_of_mem_filter member)
  · rintro ⟨checked, rfl, short, inside⟩
    exact ⟨checked, walk_of_directories direct short fun place _ within =>
      rooted.isDirectoryAt inside within, inside⟩

/-- A file in the directory is there in both trees or in neither. -/
theorem isFile_around (home : t.home = u.home) (alone : u.Rooted) (both : t.Rooted)
    (direct : Direct path) (around : Around (u.spot path) u t) {name : String}
    (entry : EntryName name) : t.isFile (Path.join path name) = u.isFile (Path.join path name) := by
  have inside := isDirectoryAt_congr (around.below (u.spot path) List.prefix_rfl)
  have file := around.below (u.spot path ++ [name]) (List.prefix_append _ _)
  rw [Bool.eq_iff_iff, entry.isFile_iff, entry.isFile_iff]
  simp only [both.room_ok_iff direct, alone.room_ok_iff direct, spot_congr home, inside]
  constructor <;> rintro ⟨place, ⟨checked, rfl, rest⟩, held⟩
  · exact ⟨_, ⟨checked, rfl, rest⟩, file ▸ held⟩
  · exact ⟨_, ⟨checked, rfl, rest⟩, file.symm ▸ held⟩

/-- A path leads to the directory at a place. -/
def Reaches (t : FileTree) (path : String) (place : Place) : Prop :=
  t.walk (t.start path) (Path.segments path) = .ok place ∧ t.isDirectoryAt place = true

/-- Behind the making of a directory its path leads to it. -/
theorem reaches_of_makeAll (rooted : t.Rooted)
    (made : t.makeAll path = (.ok (), t')) : t'.Reaches path (t'.spot path) := by
  rcases makeAll_ok made with ⟨empty, rfl⟩ | there
  · obtain rfl : path = "" := by simpa using empty
    exact ⟨rfl, rooted.begins ""⟩
  · obtain ⟨-, leads⟩ := isDirectory_iff.1 there
    obtain ⟨place, walked, inside⟩ := leadsToDirectory_iff.1 leads
    obtain rfl := walk_leads walked
    exact ⟨walked, inside⟩

/-- In a directory that both paths lead to, a file is made in both trees or refused in both. -/
theorem create_around {name : String} (entry : EntryName name) (mode : Nat) (data : ByteArray)
    (alone : u.Reaches path place) (both : t.Reaches path place)
    (same : t.at? (place ++ [name]) = u.at? (place ++ [name])) :
    (∃ e, u.create (Path.join path name) mode data = .error e ∧
        t.create (Path.join path name) mode data = .error e) ∨
      u.create (Path.join path name) mode data = .ok (u.put (place ++ [name]) (.file mode data)) ∧
        t.create (Path.join path name) mode data =
          .ok (t.put (place ++ [name]) (.file mode data)) := by
  cases checked : checkPath (Path.join path name) with
  | error e => exact .inl ⟨e, by simp [create, checked, Bind.bind, Except.bind]⟩
  | ok _ =>
      rw [entry.create_eq mode data (FileTree.room_ok_iff.2 ⟨checked, alone⟩),
        entry.create_eq mode data (FileTree.room_ok_iff.2 ⟨checked, both⟩), same]
      cases u.at? (place ++ [name]) with
      | none => exact .inr ⟨rfl, rfl⟩
      | some entry => exact .inl ⟨_, rfl, rfl⟩

end FileTree

namespace Depot

open FileTree

variable {u t : FileTree} {dir : String} {payload : Payload}

/-- A tree in which a payload was put on disk is still rooted. -/
theorem deposit_rooted (rooted : t.Rooted) (dir : String) (payload : Payload) :
    (deposit t dir payload).2.Rooted :=
  rooted.adds (deposit_adds t dir payload)

section Directory

variable {place : Place} (alone : u.Reaches dir place) (both : t.Reaches dir place)
  (same : ∀ name, t.at? (place ++ [name]) = u.at? (place ++ [name]))

include alone both same

/-- In a directory that both paths lead to, a payload is staged in both trees or in neither. -/
theorem stage_around : stage t dir = stage u dir := by
  unfold stage
  rcases create_around entryName_stagingName mode .empty alone both (same _) with
    ⟨e, aloneFails, bothFail⟩ | ⟨aloneMade, bothMade⟩
  · rw [aloneFails, bothFail]
  · rw [aloneMade, bothMade]

/-- And it is published in both or in neither. -/
theorem publish_around (payload : Payload) :
    (publish t (target dir payload) payload).1 = (publish u (target dir payload) payload).1 ∧
      Jointly u t (publish u (target dir payload) payload).2
        (publish t (target dir payload) payload).2 := by
  unfold publish target
  rcases create_around (entryName_fileName payload) mode payload.bytes alone both (same _) with
    ⟨e, aloneFails, bothFail⟩ | ⟨aloneMade, bothMade⟩
  · rw [aloneFails, bothFail]
    cases e <;> exact ⟨rfl, .refl u t⟩
  · rw [aloneMade, bothMade]
    exact ⟨rfl, .put (by simp) _⟩

end Directory

/-- A payload is put on disk in the same way wherever the trees are alike around its directory. -/
theorem deposit_around (payload : Payload) (home : t.home = u.home) (alone : u.Rooted) (both : t.Rooted)
    (direct : Direct dir) (around : Around (u.spot dir) u t) :
    (deposit t dir payload).1 = (deposit u dir payload).1 ∧
      Jointly u t (deposit u dir payload).2 (deposit t dir payload).2 := by
  have there : t.isFile (target dir payload) = u.isFile (target dir payload) :=
    isFile_around home alone both direct around (entryName_fileName payload)
  cases file : u.isFile (target dir payload) with
  | true =>
      rw [deposit_of_isFile file, deposit_of_isFile (there.trans file)]
      exact ⟨rfl, .refl u t⟩
  | false =>
  obtain ⟨answer, joint⟩ := makeAll_around home alone both direct around
  have homeAlone := (makeAll_paves u dir).grows.home
  have homeBoth := (makeAll_paves t dir).grows.home
  cases madeAlone : u.makeAll dir with
  | mk r u' =>
  cases madeBoth : t.makeAll dir with
  | mk r' t' =>
  rw [madeAlone] at answer joint homeAlone
  rw [madeBoth] at answer joint homeBoth
  obtain rfl : r' = r := answer
  cases r' with
  | error e =>
      rw [(Deposited.unmade file madeAlone).eq, (Deposited.unmade (there.trans file) madeBoth).eq]
      exact ⟨rfl, joint⟩
  | ok _ =>
  have home' : t'.home = u'.home := homeBoth.trans (home.trans homeAlone.symm)
  have reachesAlone := reaches_of_makeAll alone madeAlone
  have reachesBoth := reaches_of_makeAll both madeBoth
  rw [spot_congr home'] at reachesBoth
  have around : Around (u'.spot dir) u' t' := by
    rw [spot_congr homeAlone]
    exact around.jointly joint
  have inside (name : String) := around.below (u'.spot dir ++ [name]) (List.prefix_append _ _)
  have level := stage_around reachesAlone reachesBoth inside
  cases staged : stage u' dir with
  | error e =>
      rw [(Deposited.unstaged file madeAlone staged).eq,
        (Deposited.unstaged (there.trans file) madeBoth (level.trans staged)).eq]
      exact ⟨rfl, joint⟩
  | ok _ =>
      obtain ⟨answer, published⟩ := publish_around reachesAlone reachesBoth inside payload
      rw [Staged.deposit_eq ⟨file, madeAlone, staged⟩,
        Staged.deposit_eq ⟨there.trans file, madeBoth, level.trans staged⟩]
      exact ⟨answer, joint.trans published⟩

end Depot

/-! ## Directories of others -/

/-- Two places of which neither is above the other. -/
def Place.Apart (one other : Place) : Prop := ¬ one <+: other ∧ ¬ other <+: one

instance (one other : Place) : Decidable (one.Apart other) := inferInstanceAs (Decidable (_ ∧ _))

namespace FileTree

variable {u t t' : FileTree} {centre : Place} {dir : String} {payload : Payload}

/-- What is new where a payload was put on disk is a directory on the way to its directory, or
stands in it. -/
theorem news_of_adds {place : Place} {entry : Entry} (rooted : t.Rooted) (direct : Direct dir)
    (adds : Depot.Adds t dir payload t') (found : t'.at? place = some entry) :
    t.at? place = some entry ∨ entry = .directory ∧ place <+: t.spot dir ∨ t.spot dir <+: place := by
  obtain ⟨grows, added⟩ := adds
  rcases added place entry found with old | ⟨rfl, part, initial, walked⟩ | ⟨-, found⟩
  · exact .inl old
  · obtain rfl := walk_leads walked
    rw [grows.begins]
    rw [route, ← approach_append_trail, List.filter_append] at initial
    -- In front of the first name the path leads to directories that are there anyway.
    rcases List.prefix_or_prefix_of_prefix initial (List.prefix_append _ _) with upTo | ⟨names, rfl⟩
    · have idle : ∀ s ∈ part, movesAbout s = true := fun s member =>
        movesAbout_of_mem_approach (List.mem_of_mem_filter (upTo.subset member))
      exact .inl (isDirectoryAt_iff.1 (rooted.firm dir _ (foldl_toward_within idle _)))
    · have within := (List.prefix_append_right_inj _).1 initial
      have straight : ".." ∉ names := fun up => direct (List.mem_of_mem_filter (within.subset up))
      have front := within.filter (· != ".")
      rw [List.filter_filter] at front
      rw [List.foldl_append, foldl_toward_filter, foldl_toward straight, spot_eq direct]
      exact .inr (.inl ⟨rfl, (List.prefix_append_right_inj _).2 (by simpa using front)⟩)
  · obtain ⟨-, walked, -⟩ := find_ok_iff.1 found
    have named := Depot.entryName_fileName payload
    rw [Depot.target, named.begins, Path.segments_join dir named.plain named.named] at walked
    obtain rfl := walk_leads walked
    rw [grows.begins, List.foldl_concat, toward, if_neg named.here, if_neg named.up]
    exact .inr (.inr (List.prefix_append _ _))

/-- A place at which nothing is new holds what it held. -/
theorem Grows.same {place : Place} (grows : t.Grows t')
    (old : ∀ entry, t'.at? place = some entry → t.at? place = some entry) :
    t'.at? place = t.at? place := by
  cases found : t'.at? place with
  | some entry => exact (old entry found).symm
  | none =>
      cases before : t.at? place with
      | none => rfl
      | some entry =>
          rw [grows.kept _ _ before] at found
          cases found

/-- Whoever puts a payload on disk elsewhere leaves the trees alike. -/
theorem Around.adds (around : Around centre u t) (rooted : t.Rooted) (direct : Direct dir)
    (apart : centre.Apart (t.spot dir)) (adds : Depot.Adds t dir payload t') :
    Around centre u t' := by
  have grows := adds.grows
  constructor
  · intro place below
    rw [← around.below place below]
    refine grows.same fun entry found => ?_
    rcases news_of_adds rooted direct adds found with old | ⟨-, onWay⟩ | inside
    · exact old
    · exact absurd (below.trans onWay) apart.1
    · rcases List.prefix_or_prefix_of_prefix below inside with le | le
      · exact absurd le apart.1
      · exact absurd le apart.2
  · intro place above
    cases before : t.at? place with
    | some entry =>
        rw [grows.kept _ _ before, ← before]
        exact around.above place above
    | none =>
        have alone : u.at? place = none := by
          rcases around.above place above with same | ⟨absent, -⟩
          · rw [← same, before]
          · exact absent
        cases found : t'.at? place with
        | none => exact .inl alone.symm
        | some entry =>
            rcases news_of_adds rooted direct adds found with old | ⟨rfl, -⟩ | inside
            · rw [before] at old
              cases old
            · exact .inr ⟨alone, rfl⟩
            · exact absurd (inside.trans above) apart.2

end FileTree

end HotSwap
