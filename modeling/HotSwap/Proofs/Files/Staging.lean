/-
# HotSwap.Proofs.Files.Staging -- a payload on disk, step by step

`Depot.deposit` says what putting a payload on disk comes to.  Here it is carried out in steps
(`Depot.inSteps`): the directories are made, a staging file is made under the first name drawn that
is free, its permissions are set, the bytes are put into it, and it is moved to its final name
unless something has the name already.  The disk may fail at each of these steps, half way along the
directories or the bytes too, and the staging file is taken away then.

Where a name that was drawn is free and the disk does not fail, the steps come to `deposit` exactly
(`inSteps_eq`), and the staging file is gone.  Whatever is drawn and wherever the disk fails, they
come to it or refuse, and leave no more behind than the directories (`inSteps_cases`).
-/
import HotSwap.Proofs.Files.Storing

namespace HotSwap

set_option autoImplicit false

namespace FileTree

variable {t t' : FileTree} {place other : Place} {dir name : String}

/-- The file system without the entry at a place. -/
def unlink (t : FileTree) (place : Place) : FileTree :=
  { t with entries := t.entries.filter fun e => e.1 != place }

theorem filter_of_lookup_none {l : List (Place × Entry)} (absent : l.lookup place = none) :
    (l.filter fun e => e.1 != place) = l := by
  apply List.filter_eq_self.2
  rintro ⟨found, entry⟩ member
  have different : ¬ place = found := by
    simpa using List.lookup_eq_none_iff.1 absent (found, entry) member
  exact bne_iff_ne.2 (Ne.symm different)

theorem put_put (t : FileTree) (place : Place) (first second : Entry) :
    (t.put place first).put place second = t.put place second := by
  simp only [put, List.filter_cons, bne_self_eq_false, Bool.false_eq_true, if_false,
    List.filter_filter, Bool.and_self]

/-- What is put where nothing was and is taken away leaves the tree as it was. -/
theorem unlink_put (absent : t.at? place = none) (entry : Entry) :
    (t.put place entry).unlink place = t := by
  have proper : place ≠ [] := by
    rintro rfl
    simp [at?] at absent
  have absent : t.entries.lookup place = none := by simpa [at?, proper] using absent
  simp [unlink, put, filter_of_lookup_none absent]

/-- Whether something is put elsewhere before or after does not matter. -/
theorem unlink_put_ne (different : other ≠ place) (entry : Entry) :
    (t.put other entry).unlink place = (t.unlink place).put other entry := by
  simp [unlink, put, different, List.filter_filter, Bool.and_comm]

theorem walk_ne_alreadyExists {start : Place} {steps : List String} :
    t.walk start steps ≠ .error .alreadyExists := by
  induction steps generalizing start with
  | nil => simp [walk]
  | cons s rest ih =>
      simp only [walk]
      cases entered : t.enter start s with
      | ok next => exact ih
      | error e =>
          unfold enter at entered
          rintro ⟨rfl⟩
          repeat' split at entered
          all_goals cases entered

/-- A directory that takes no entry of some name does not refuse it because it is there. -/
theorem room_ne_alreadyExists : t.room dir name ≠ .error .alreadyExists := by
  unfold room checkPath
  intro taken
  repeat' split at taken
  all_goals try cases taken
  simp only [Bind.bind, Except.bind] at taken
  split at taken
  · rename_i walked
    exact walk_ne_alreadyExists (walked.trans taken)
  · split at taken <;> cases taken

theorem EntryName.checkPath_eq (entry : EntryName name) (dir : String) :
    FileTree.checkPath (Path.join dir name) =
      if '\x00' ∈ dir.toList then .error .zeroByteInPath
      else if pathLimit ≤ dir.utf8ByteSize + (gap dir).utf8ByteSize + name.utf8ByteSize then
        .error .nameTooLong
      else .ok () := by
  have between : '\x00' ∉ (gap dir).toList := by
    unfold gap
    split <;> decide
  have zeros : '\x00' ∈ (Path.join dir name).toList ↔ '\x00' ∈ dir.toList := by
    simp [entry.join_eq, between, entry.zeroless]
  have proper : Path.join dir name ≠ "" := by simp [entry.join_eq, entry.named]
  have size : (Path.join dir name).utf8ByteSize =
      dir.utf8ByteSize + (gap dir).utf8ByteSize + name.utf8ByteSize := by
    simp only [entry.join_eq, String.utf8ByteSize_append]
  simp only [FileTree.checkPath, List.contains_eq_mem, decide_eq_true_eq, zeros,
    String.isEmpty_iff, proper, if_false, size]

/-- Names of one length find room in the same directories. -/
theorem EntryName.room_eq {a b : String} (first : EntryName a) (second : EntryName b)
    (same : a.utf8ByteSize = b.utf8ByteSize) : t.room dir a = t.room dir b := by
  unfold room
  rw [first.checkPath_eq, second.checkPath_eq, same]

end FileTree

namespace Depot

open FileTree

variable {t t' : FileTree} {dir : String} {payload : Payload} {draws : List String}

/-! ## The steps -/

/-- A name that staging files have. -/
def IsStagingName (name : String) : Prop :=
  ∃ letters : List Char, letters.length = 6 ∧ (∀ c ∈ letters, c.isAlphanum = true) ∧
    name = ".tmp" ++ String.ofList letters

/-- Where the disk fails between an empty staging file and a payload under its final name. -/
inductive DiskFault where
  | restrict (cause : IoFault)
  | fill (written : ByteArray) (cause : IoFault)
  | sync (cause : IoFault)
  | move (cause : IoFault) (other : cause ≠ .alreadyExists)

/-- Makes an empty staging file under the first name drawn that is free, and says where. -/
def draw (t : FileTree) (dir : String) : List String → Except IoFault (Place × FileTree)
  | [] => .error .alreadyExists
  | name :: more =>
      match t.create (Path.join dir name) mode .empty with
      | .error .alreadyExists => draw t dir more
      | .error e => .error e
      | .ok t' => (t'.find (Path.join dir name)).map fun place => (place, t')

/-- Fills the staging file at a place and moves it to its final name; if that fails, or something
has the name already, it is taken away. -/
def fill (fault : Option DiskFault) (t : FileTree) (staged : Place) (path : String)
    (bytes : ByteArray) : Except DepositError String × FileTree :=
  match fault with
  | some (.restrict cause) => (.error (.write path cause), t.unlink staged)
  | some (.fill written cause) =>
      (.error (.write path cause), (t.put staged (.file mode written)).unlink staged)
  | some (.sync cause) =>
      (.error (.write path cause), (t.put staged (.file mode bytes)).unlink staged)
  | some (.move cause _) =>
      (.error (.publish path cause), (t.put staged (.file mode bytes)).unlink staged)
  | none =>
      let filled := t.put staged (.file mode bytes)
      match filled.create path mode bytes with
      | .ok moved => (.ok path, moved.unlink staged)
      | .error .alreadyExists => (.ok path, filled.unlink staged)
      | .error e => (.error (.publish path e), filled.unlink staged)

/-- What comes from the disk while a payload is put there: whether it stops before so many of the
directories above the last are made, which names are drawn for the staging file, and where it fails
with that file. -/
structure Disk where
  stop : Option (Nat × IoFault)
  draws : List String
  staging : ∀ name ∈ draws, IsStagingName name
  fault : Option DiskFault

/-- Makes a directory with its parents, as far as the disk goes. -/
def Disk.makeAll (disk : Disk) (t : FileTree) (dir : String) : Except IoFault Unit × FileTree :=
  match disk.stop, checkPath dir with
  | some (unmade, cause), .ok () =>
      (.error cause, (t.makeChain (t.start dir) ((parentSteps dir).drop unmade)).2)
  | _, _ => t.makeAll dir

/-- Makes sure that a payload lies in a directory, step by step. -/
def inSteps (disk : Disk) (t : FileTree) (dir : String) (payload : Payload) :
    Except DepositError String × FileTree :=
  let path := target dir payload
  if t.isFile path then (.ok path, t)
  else
    match disk.makeAll t dir with
    | (.error e, t) => (.error (.createDir dir e), t)
    | (.ok (), t) =>
        match draw t dir disk.draws with
        | .error e => (.error (.write path e), t)
        | .ok (staged, t) => fill disk.fault t staged path payload.bytes

/-! ## Staging names -/

theorem IsStagingName.size {name : String} (staging : IsStagingName name) :
    name.utf8ByteSize = 10 := by
  obtain ⟨letters, six, plain, rfl⟩ := staging
  have ascii (letters : List Char) (plain : ∀ c ∈ letters, c.isAlphanum = true) :
      String.utf8Len letters = letters.length := by
    induction letters with
    | nil => rfl
    | cons c rest ih =>
        have one : c.utf8Size = 1 := by
          have plain : (decide (65 ≤ c.val ∧ c.val ≤ 90) || 97 ≤ c.val && c.val ≤ 122 ||
              48 ≤ c.val && c.val ≤ 57) = true := plain c (by simp)
          simp only [Bool.or_eq_true, Bool.and_eq_true, decide_eq_true_eq, UInt32.le_iff_toNat_le]
            at plain
          rw [Char.utf8Size_eq_one_iff, UInt32.le_iff_toNat_le]
          simp at plain ⊢
          omega
        simp only [String.utf8Len_cons, one, List.length_cons,
          ih fun c member => plain c (List.mem_cons_of_mem _ member)]
  have start : ".tmp".utf8ByteSize = 4 := by decide
  rw [String.utf8ByteSize_append, start, String.utf8ByteSize_ofList, ascii letters plain, six]

theorem IsStagingName.entryName {name : String} (staging : IsStagingName name) : EntryName name := by
  have size := staging.size
  have not {short : String} (other : short.utf8ByteSize ≠ 10) : name ≠ short := by
    rintro rfl
    exact other size
  obtain ⟨letters, -, plain, rfl⟩ := staging
  have without {c : Char} (other : c.isAlphanum = false) (apart : c ∉ ".tmp".toList) :
      c ∉ (".tmp" ++ String.ofList letters).toList := by
    simp only [String.toList_append, String.toList_ofList, List.mem_append, not_or]
    exact ⟨apart, fun member => by simp [plain c member] at other⟩
  refine ⟨without (by decide) (by decide), without (by decide) (by decide), not (by decide),
    not (by decide), not (by decide), ?_⟩
  rw [size]
  decide

/-- All staging names find room where one does. -/
theorem IsStagingName.room {name : String} (staging : IsStagingName name) :
    t.room dir name = t.room dir stagingName :=
  staging.entryName.room_eq entryName_stagingName (by rw [staging.size]; decide)

theorem stage_eq_room (t : FileTree) (dir : String) :
    stage t dir = (t.room dir stagingName).map fun _ => () := by
  unfold stage
  rw [entryName_stagingName.create_eq_room]
  cases roomy : t.room dir stagingName with
  | error e =>
      cases e with
      | alreadyExists => exact absurd roomy room_ne_alreadyExists
      | _ => rfl
  | ok place =>
      dsimp only [Except.map]
      cases t.at? (place ++ [stagingName]) <;> rfl

/-! ## What the steps come to -/

/-- Without room for a staging file, none is made. -/
theorem draw_of_room_error (staging : ∀ name ∈ draws, IsStagingName name) {e : IoFault}
    (roomless : t.room dir stagingName = .error e) :
    ∃ e', draw t dir draws = .error e' ∧ (draws ≠ [] → e' = e) := by
  cases draws with
  | nil => exact ⟨_, rfl, fun proper => absurd rfl proper⟩
  | cons name more =>
      refine ⟨e, ?_, fun _ => rfl⟩
      have staging := staging name (by simp)
      rw [draw, staging.entryName.create_eq_room, staging.room, roomless]
      cases e with
      | alreadyExists => exact absurd roomless room_ne_alreadyExists
      | _ => rfl

/-- With room for a staging file, it gets the first name drawn that nothing has. -/
theorem draw_of_room (staging : ∀ name ∈ draws, IsStagingName name) {place : Place}
    (roomy : t.room dir stagingName = .ok place) :
    ((∀ name ∈ draws, t.at? (place ++ [name]) ≠ none) ∧ draw t dir draws = .error .alreadyExists) ∨
      ∃ name ∈ draws, t.at? (place ++ [name]) = none ∧
        draw t dir draws =
          .ok (place ++ [name], t.put (place ++ [name]) (.file mode .empty)) := by
  induction draws with
  | nil => exact .inl ⟨by simp, rfl⟩
  | cons name more ih =>
      have own := staging name (by simp)
      have roomy' : t.room dir name = .ok place := own.room.trans roomy
      have created := own.entryName.create_eq mode .empty roomy'
      cases found : t.at? (place ++ [name]) with
      | some held =>
          rw [found] at created
          rw [draw, created]
          rcases ih fun other member => staging other (by simp [member]) with
            ⟨taken, none⟩ | ⟨other, member, free, drawn⟩
          · refine .inl ⟨?_, none⟩
            intro other member
            rcases List.mem_cons.1 member with rfl | member
            · simp [found]
            · exact taken other member
          · exact .inr ⟨other, by simp [member], free, drawn⟩
      | none =>
          rw [found] at created
          refine .inr ⟨name, by simp, found, ?_⟩
          have leads : (t.put (place ++ [name]) (.file mode .empty)).find (Path.join dir name) =
              .ok (place ++ [name]) := by
            obtain ⟨checked, walked, inside⟩ := room_ok_iff.1 roomy'
            have grows := Grows.put found (.file mode .empty)
            refine own.entryName.find_iff.2 ⟨place, room_ok_iff.2 ⟨checked, ?_, ?_⟩, rfl,
              .file mode .empty, by simp [at?_put]⟩
            · rw [grows.begins]
              exact grows.walk walked
            · exact grows.isDirectoryAt inside
          rw [draw, created]
          simp [leads, Except.map]

/-- A staging file that is filled without a fault is published as the payload itself would be. -/
theorem fill_none {place : Place} {name : String} (staging : IsStagingName name)
    (roomy : t.room dir stagingName = .ok place) (free : t.at? (place ++ [name]) = none) :
    fill none (t.put (place ++ [name]) (.file mode .empty)) (place ++ [name]) (target dir payload)
      payload.bytes = publish t (target dir payload) payload := by
  have entry := entryName_fileName payload
  have apart : payload.fileName ≠ name := by
    intro same
    have long := payload.utf8ByteSize_fileName
    rw [same, staging.size] at long
    omega
  have grows := Grows.put free (.file mode payload.bytes)
  obtain ⟨-, walked, inside⟩ := room_ok_iff.1 roomy
  have removed := unlink_put free (.file mode payload.bytes)
  generalize staged : place ++ [name] = at_ at *
  have elsewhere : place ++ [payload.fileName] ≠ at_ := by
    simp [← staged, apart]
  have proper : at_ ≠ [] := by simp [← staged]
  -- The directory is the same in both trees, so it takes the final name in both or in neither.
  have same : (t.put at_ (.file mode payload.bytes)).room dir payload.fileName =
      t.room dir payload.fileName := by
    unfold FileTree.room
    rw [grows.begins, walked, grows.walk walked]
    simp only [Bind.bind, Except.bind, grows.isDirectoryAt inside, inside]
  simp only [fill, publish, put_put, target, entry.create_eq_room, same]
  cases final : t.room dir payload.fileName with
  | error e =>
      cases e with
      | alreadyExists => exact absurd final room_ne_alreadyExists
      | _ => simp [removed]
  | ok place' =>
      obtain ⟨-, walked', -⟩ := room_ok_iff.1 final
      obtain rfl : place = place' := Except.ok.inj (walked.symm.trans walked')
      simp only [at?_put t proper, elsewhere, if_false]
      cases t.at? (place ++ [payload.fileName]) with
      | some held => simp [removed]
      | none => simp [unlink_put_ne elsewhere, removed]

/-- Whatever goes wrong with the disk, the staging file is taken away. -/
theorem fill_some {place : Place} (fault : DiskFault) (free : t.at? place = none) (path : String)
    (bytes : ByteArray) :
    ∃ e, fill (some fault) (t.put place (.file mode .empty)) place path bytes = (.error e, t) := by
  cases fault <;> simp [fill, put_put, unlink_put free]

theorem Disk.makeAll_cases (disk : Disk) (t : FileTree) (dir : String) :
    disk.makeAll t dir = t.makeAll dir ∨ ∃ cause, (disk.makeAll t dir).1 = .error cause := by
  unfold Disk.makeAll
  split
  · exact .inr ⟨_, rfl⟩
  · exact .inl rfl

/-- However far the disk goes, directories are added on the route only. -/
theorem Disk.makeAll_paves (disk : Disk) (t : FileTree) (dir : String) :
    t.Paves (t.start dir) (route dir) (disk.makeAll t dir).2 := by
  unfold Disk.makeAll
  split
  · rename_i unmade _ _ _
    refine (makeChain_paves (t.start dir) t ((parentSteps dir).drop unmade)).longer ?_
    refine ((List.drop_suffix unmade _).reverse).trans ?_
    rw [parentSteps, List.tail_reverse, List.reverse_reverse]
    exact List.dropLast_prefix _
  · exact FileTree.makeAll_paves t dir

/-- The steps come to a deposit, or to a refusal that leaves no more behind than the directories,
whatever names are drawn and wherever the disk fails. -/
theorem inSteps_cases (disk : Disk) (t : FileTree) (dir : String) (payload : Payload) :
    inSteps disk t dir payload = deposit t dir payload ∨
      ∃ e, inSteps disk t dir payload = (.error e, (disk.makeAll t dir).2) := by
  unfold inSteps deposit
  dsimp only
  split
  · exact .inl rfl
  have made := disk.makeAll_cases t dir
  generalize disk.makeAll t dir = reply at made ⊢
  rcases made with rfl | ⟨cause, stopped⟩
  swap
  · obtain ⟨_ | _, t₁⟩ := reply
    · exact .inr ⟨_, rfl⟩
    · cases stopped
  rcases t.makeAll dir with ⟨_ | _, t₁⟩
  · exact .inl rfl
  dsimp only
  cases roomy : t₁.room dir stagingName with
  | error e =>
      obtain ⟨e', drawn, -⟩ := draw_of_room_error disk.staging roomy
      exact .inr ⟨_, by rw [drawn]⟩
  | ok place =>
      rcases draw_of_room disk.staging roomy with ⟨-, drawn⟩ | ⟨name, member, free, drawn⟩
      · exact .inr ⟨_, by rw [drawn]⟩
      · simp only [drawn, stage_eq_room, roomy, Except.map]
        cases disk.fault with
        | none => exact .inl (fill_none (disk.staging name member) roomy free)
        | some fault => exact .inr (fill_some fault free _ _)

/-- Where a name that is drawn is free and the disk does not fail, the steps come to a deposit. -/
theorem inSteps_eq {disk : Disk} (going : disk.stop = none) (sound : disk.fault = none)
    (free : ∃ name ∈ disk.draws, ∀ place, (t.makeAll dir).2.room dir name = .ok place →
      (t.makeAll dir).2.at? (place ++ [name]) = none) :
    inSteps disk t dir payload = deposit t dir payload := by
  unfold inSteps deposit
  dsimp only
  split
  · rfl
  obtain ⟨name, member, free⟩ := free
  simp only [Disk.makeAll, going, sound]
  generalize t.makeAll dir = made at free
  obtain ⟨_ | _, t₁⟩ := made
  · rfl
  dsimp only at free ⊢
  rw [stage_eq_room]
  rw [(disk.staging name member).room] at free
  cases roomy : t₁.room dir stagingName with
  | error e =>
      obtain ⟨e', drawn, same⟩ := draw_of_room_error disk.staging roomy
      obtain rfl := same (List.ne_nil_of_mem member)
      simp [drawn, Except.map]
  | ok place =>
      rcases draw_of_room disk.staging roomy with ⟨taken, -⟩ | ⟨other, member', vacant, drawn⟩
      · exact absurd (free place roomy) (taken name member)
      · simp only [drawn, Except.map]
        exact fill_none (disk.staging other member') roomy vacant

end Depot

end HotSwap
