/-
# HotSwap.Proofs.Files.PayloadName -- what the path of a payload ends in

`Path.fileName?` is what the file at a path is called: its last component, if that is
a name.  A name without slashes that is put behind a directory is what the path is
called by again, however the directory is written (`fileName?_join`); and the name made
from a fingerprint has no slash, so a payload on disk is called as its build says
(`fileName?_target`).
-/
import HotSwap.Files.Depot
import HotSwap.Proofs.Text.HexForm

namespace HotSwap

set_option autoImplicit false

namespace Path

/-- What the file at a path is called. -/
def fileName? (path : String) : Option String :=
  match (components path).getLast? with
  | some (.name s) => some s
  | _ => none

/-! ## Pieces -/

theorem pieces_ne_nil (path : List Char) : pieces path ≠ [] := by
  cases path with
  | nil => simp [pieces]
  | cons c rest =>
      simp only [pieces]
      split
      · simp
      · split <;> simp

theorem pieces_append_slash (front back : List Char) :
    pieces (front ++ '/' :: back) = pieces front ++ pieces back := by
  induction front with
  | nil => simp [pieces]
  | cons c front ih =>
      by_cases slash : c = '/'
      · simp [pieces, slash, ih]
      · simp only [List.cons_append, pieces, slash, if_false, ih]
        cases split : pieces front with
        | nil => exact absurd split (pieces_ne_nil front)
        | cons first rest => rfl

theorem pieces_of_plain {name : List Char} (plain : '/' ∉ name) : pieces name = [name] := by
  induction name with
  | nil => rfl
  | cons c rest ih =>
      simp only [List.mem_cons, not_or] at plain
      simp [pieces, Ne.symm plain.1, ih plain.2]

theorem isAbsolute_of_plain {name : String} (plain : '/' ∉ name.toList) :
    isAbsolute name = false := by
  rw [isAbsolute]
  cases chars : name.toList with
  | nil => rfl
  | cons c rest =>
      simp only [chars, List.mem_cons, not_or] at plain
      simpa using Ne.symm plain.1

/-- A name that is put behind a directory leaves the path to begin where it began. -/
theorem isAbsolute_join (base : String) {name : String} (plain : '/' ∉ name.toList) :
    isAbsolute (join base name) = isAbsolute base := by
  have relative := isAbsolute_of_plain plain
  by_cases empty : base = ""
  · subst empty
    simp [join, relative]
    rfl
  · obtain ⟨c, rest, chars⟩ : ∃ c rest, base.toList = c :: rest :=
      List.exists_cons_of_ne_nil (by simpa using empty)
    have begins : ∀ more : String, isAbsolute (base ++ more) = isAbsolute base := fun more => by
      simp [isAbsolute, chars]
    rw [join, relative, if_neg Bool.false_ne_true]
    split
    · exact begins name
    · rw [String.append_assoc]
      exact begins ("/" ++ name)

/-- A name that is put behind a directory is the last segment of the path. -/
theorem segments_join (base : String) {name : String} (plain : '/' ∉ name.toList)
    (named : name ≠ "") : segments (join base name) = segments base ++ [name] := by
  have relative := isAbsolute_of_plain plain
  -- However the base is written, the name is a piece of its own behind the base's pieces.
  have last (before : List (List Char))
      (split : pieces (join base name).toList = before ++ [name.toList])
      (own : segments base = (before.filter fun p => !p.isEmpty).map String.ofList) :
      segments (join base name) = segments base ++ [name] := by
    rw [own]
    simp [segments, split, named]
  by_cases empty : base = ""
  · exact last [] (by simp [join, relative, empty, pieces_of_plain plain])
      (by simp [segments, empty, pieces])
  by_cases slash : endsWithSlash base
  · obtain ⟨front, ends⟩ : ∃ front, base.toList = front ++ ['/'] := by
      simpa [endsWithSlash, List.getLast?_eq_some_iff] using slash
    refine last (pieces front) ?_ ?_
    · simp [join, relative, slash, ends, pieces_append_slash, pieces_of_plain plain]
    · simp [segments, ends, pieces_append_slash, pieces]
  · refine last (pieces base.toList) ?_ rfl
    simp [join, relative, empty, slash, pieces_append_slash, pieces_of_plain plain]

/-- A name that is put behind a directory is one more component of the path, the last. -/
theorem components_join (base : String) {name : String} (plain : '/' ∉ name.toList)
    (named : name ≠ "") (apart : name ≠ "." ∧ name ≠ "..") :
    components (join base name) = components base ++ [.name name] := by
  have first : (segments (join base name)).head? = some "." ↔ (segments base).head? = some "." := by
    rw [segments_join base plain named]
    cases segments base with
    | nil => simp [apart.1]
    | cons s rest => simp
  simp only [components, isAbsolute_join base plain, first]
  simp [segments_join base plain named, apart.1, component, apart.2]

/-- A name that is put behind a directory is what the path is called by. -/
theorem fileName?_join (base : String) {name : String} (plain : '/' ∉ name.toList)
    (named : name ≠ "") (apart : name ≠ "." ∧ name ≠ "..") :
    fileName? (join base name) = some name := by
  simp [fileName?, components_join base plain named apart]

end Path

/-! ## Payloads on disk -/

namespace Depot

variable {t : FileTree} {dir : String} {payload : Payload}

/-- A payload is not there yet, its directories are made, and it can be staged in the last. -/
structure Staged (t : FileTree) (dir : String) (payload : Payload) (t' : FileTree) : Prop where
  absent : t.isFile (target dir payload) = false
  made : t.makeAll dir = (.ok (), t')
  staged : stage t' dir = .ok ()

/-- What putting a payload on disk comes to.  It is there, or its name is taken, or it gets the
name; or one of the steps is refused, and the directories that were made stay. -/
inductive Deposited (t : FileTree) (dir : String) (payload : Payload) :
    Except DepositError String × FileTree → Prop where
  | found (file : t.isFile (target dir payload) = true) :
      Deposited t dir payload (.ok (target dir payload), t)
  | unmade {t' : FileTree} {e : IoFault} (absent : t.isFile (target dir payload) = false)
      (made : t.makeAll dir = (.error e, t')) :
      Deposited t dir payload (.error (.createDir dir e), t')
  | unstaged {t' : FileTree} {e : IoFault} (absent : t.isFile (target dir payload) = false)
      (made : t.makeAll dir = (.ok (), t')) (refused : stage t' dir = .error e) :
      Deposited t dir payload (.error (.write (target dir payload) e), t')
  | unpublished {t' : FileTree} {e : IoFault} (staged : Staged t dir payload t')
      (refused : t'.create (target dir payload) mode payload.bytes = .error e)
      (other : e ≠ .alreadyExists) :
      Deposited t dir payload (.error (.publish (target dir payload) e), t')
  | taken {t' : FileTree} (staged : Staged t dir payload t')
      (refused : t'.create (target dir payload) mode payload.bytes = .error .alreadyExists) :
      Deposited t dir payload (.ok (target dir payload), t')
  | published {t' t'' : FileTree} (staged : Staged t dir payload t')
      (created : t'.create (target dir payload) mode payload.bytes = .ok t'') :
      Deposited t dir payload (.ok (target dir payload), t'')

theorem deposited (t : FileTree) (dir : String) (payload : Payload) :
    Deposited t dir payload (deposit t dir payload) := by
  unfold deposit
  dsimp only
  split
  · rename_i file
    exact .found file
  rename_i absent
  have absent : t.isFile (target dir payload) = false := by simpa using absent
  split
  · rename_i made
    exact .unmade absent made
  rename_i made
  split
  · rename_i refused
    exact .unstaged absent made refused
  rename_i staged
  unfold publish
  split
  · rename_i created
    exact .published ⟨absent, made, staged⟩ created
  · rename_i refused
    exact .taken ⟨absent, made, staged⟩ refused
  · rename_i e other refused
    exact .unpublished ⟨absent, made, staged⟩ refused other

theorem Staged.deposit_eq {t' : FileTree} (staged : Staged t dir payload t') :
    deposit t dir payload = publish t' (target dir payload) payload := by
  simp only [deposit, staged.absent, staged.made, staged.staged, Bool.false_eq_true, if_false]

theorem Deposited.eq {outcome : Except DepositError String × FileTree}
    (comes : Deposited t dir payload outcome) : deposit t dir payload = outcome := by
  cases comes with
  | found file => simp only [deposit, file, if_true]
  | unmade absent made => simp only [deposit, absent, made, Bool.false_eq_true, if_false]
  | unstaged absent made refused =>
      simp only [deposit, absent, made, refused, Bool.false_eq_true, if_false]
  | unpublished staged refused other => simp only [staged.deposit_eq, publish, refused]
  | taken staged refused => simp only [staged.deposit_eq, publish, refused]
  | published staged created => simp only [staged.deposit_eq, publish, created]

/-- A payload is put nowhere else than where it was to lie. -/
theorem path_of_deposit {path : String} (stored : (deposit t dir payload).1 = .ok path) :
    path = target dir payload := by
  have comes := deposited t dir payload
  generalize deposit t dir payload = outcome at comes stored
  cases comes with
  | found | taken | published => exact (Except.ok.inj stored).symm
  | unmade | unstaged | unpublished => cases stored

end Depot

theorem Payload.toList_fileName (payload : Payload) :
    payload.fileName.toList =
      "instruments-".toList ++ payload.fingerprint.hex.toList ++ ".jar".toList := by
  simp [fileName, Fingerprint.fileName, Fingerprint.fileStart, Fingerprint.fileEnd]

/-- A payload lies under the name that its build gives it, in whichever directory. -/
theorem fileName?_target (dir : String) (payload : Payload) :
    Path.fileName? (Depot.target dir payload) = some payload.fileName := by
  have chars := payload.toList_fileName
  have long : 4 ≤ payload.fileName.toList.length := by simp [chars]
  refine Path.fileName?_join dir ?_ ?_ ⟨?_, ?_⟩
  · simp [chars, Fingerprint.hex, Hex.not_mem_encode (c := '/') (by decide)]
  all_goals
    intro same
    simp [same] at long

end HotSwap
