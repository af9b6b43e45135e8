/-
# HotSwap.Proofs.Files.Storing -- whether a payload ends up on disk

`Depot.Stores` says that putting a payload on disk ends with a regular file.  It does
wherever there is room for an entry of the payload's name and the name is free
(`stores_of_room`), and the payload is found from then on (`Stores.again`).

Where it does not, the tree is left as it is from the second time on, and no later try
ends better (`lacks_again`): what was in the way the first time is there still.
-/
import HotSwap.Proofs.Files.PayloadName
import HotSwap.Proofs.Files.Settling
import Mathlib.Data.String.Basic

namespace HotSwap

set_option autoImplicit false

namespace FileTree

variable {t : FileTree} {place : Place} {path : String}

theorem checkPath_ok_iff : checkPath path = .ok () ↔
    '\x00' ∉ path.toList ∧ path ≠ "" ∧ path.utf8ByteSize < pathLimit := by
  unfold checkPath
  by_cases zero : '\x00' ∈ path.toList
  · simp [zero]
  by_cases empty : path = ""
  · simp [empty]
  by_cases long : pathLimit ≤ path.utf8ByteSize
  · simp [zero, empty, long]
  · simp [zero, empty, long, Nat.lt_of_not_le long]

theorem isFile_iff : t.isFile path = true ↔ ∃ mode data, t.stat path = .ok (.file mode data) := by
  unfold isFile
  split
  · rename_i mode data found
    exact ⟨fun _ => ⟨mode, data, found⟩, fun _ => rfl⟩
  · rename_i other
    simp only [Bool.false_eq_true, false_iff, not_exists]
    exact fun mode data found => other mode data found

theorem isFile_of_create {t' : FileTree} {mode : Nat} {data : ByteArray}
    (made : t.create path mode data = .ok t') : t'.isFile path = true := by
  obtain ⟨place, -, -, -, put, found⟩ := create_ok made
  exact isFile_iff.2 ⟨mode, data, stat_ok_iff.2 ⟨place, found, put⟩⟩

/-! ## An entry of a directory -/

/-- A name that an entry of a directory can have. -/
structure EntryName (name : String) : Prop where
  plain : '/' ∉ name.toList
  zeroless : '\x00' ∉ name.toList
  named : name ≠ ""
  here : name ≠ "."
  up : name ≠ ".."
  short : name.utf8ByteSize ≤ maxName

section Join

variable {dir name : String}

theorem EntryName.isAbsolute (entry : EntryName name) : Path.isAbsolute name = false :=
  Path.isAbsolute_of_plain entry.plain

/-- What stands between a directory and the name of its entry. -/
def gap (dir : String) : String := if dir.isEmpty || Path.endsWithSlash dir then "" else "/"

theorem EntryName.join_eq (entry : EntryName name) (dir : String) :
    Path.join dir name = dir ++ gap dir ++ name := by
  cases ends : dir.isEmpty || Path.endsWithSlash dir <;> simp [Path.join, entry.isAbsolute, gap, ends]

theorem EntryName.endsWithSlash (entry : EntryName name) (dir : String) :
    Path.endsWithSlash (Path.join dir name) = false := by
  rw [entry.join_eq, Path.endsWithSlash, String.toList_append, List.getLast?_append]
  cases ends : name.toList.getLast? with
  | none => exact absurd (by simpa using ends) entry.named
  | some c =>
      have different : c ≠ '/' := fun same => entry.plain (same ▸ List.mem_of_getLast? ends)
      simpa using different

theorem EntryName.begins (entry : EntryName name) (t : FileTree) (dir : String) :
    t.start (Path.join dir name) = t.start dir := by
  simp only [start, Path.isAbsolute_join dir entry.plain]

/-- A shorter name in the same directory is no worse a path. -/
theorem EntryName.checkPath (entry : EntryName name) {longer : String} (other : EntryName longer)
    (le : name.utf8ByteSize ≤ longer.utf8ByteSize)
    (checked : FileTree.checkPath (Path.join dir longer) = .ok ()) :
    FileTree.checkPath (Path.join dir name) = .ok () := by
  rw [checkPath_ok_iff] at checked ⊢
  rw [entry.join_eq]
  rw [other.join_eq] at checked
  obtain ⟨zero, -, short⟩ := checked
  simp only [String.toList_append, List.mem_append, not_or] at zero
  simp only [String.utf8ByteSize_append] at short
  refine ⟨by simp [zero.1, entry.zeroless], by simp [entry.named], ?_⟩
  simp only [String.utf8ByteSize_append]
  omega

/-- And the directory itself, if it is not where one is already. -/
theorem EntryName.checkPath_dir (entry : EntryName name) (proper : dir ≠ "")
    (checked : FileTree.checkPath (Path.join dir name) = .ok ()) :
    FileTree.checkPath dir = .ok () := by
  rw [checkPath_ok_iff] at checked ⊢
  rw [entry.join_eq] at checked
  obtain ⟨zero, -, short⟩ := checked
  simp only [String.toList_append, List.mem_append, not_or] at zero
  simp only [String.utf8ByteSize_append] at short
  exact ⟨zero.1.1, proper, by omega⟩

theorem room_ok_iff : t.room dir name = .ok place ↔
    checkPath (Path.join dir name) = .ok () ∧
      t.walk (t.start dir) (Path.segments dir) = .ok place ∧ t.isDirectoryAt place = true := by
  unfold room
  cases FileTree.checkPath (Path.join dir name) with
  | error e => simp [Bind.bind, Except.bind]
  | ok _ =>
  cases t.walk (t.start dir) (Path.segments dir) with
  | error e => simp [Bind.bind, Except.bind]
  | ok reached =>
      simp only [Bind.bind, Except.bind, true_and, Except.ok.injEq]
      cases inside : t.isDirectoryAt reached with
      | true =>
          simp only [if_true, Except.ok.injEq]
          exact ⟨fun same => ⟨same, same ▸ inside⟩, And.left⟩
      | false =>
          simp only [Bool.false_eq_true, if_false, reduceCtorEq, false_iff, not_and]
          rintro rfl
          simp [inside]

/-- An entry's name leads to the entry in the directory. -/
theorem EntryName.find_iff (entry : EntryName name) : t.find (Path.join dir name) = .ok place ↔
    ∃ above, t.room dir name = .ok above ∧ place = above ++ [name] ∧
      ∃ held, t.at? place = some held := by
  simp only [find_ok_iff, room_ok_iff, entry.begins, Path.segments_join dir entry.plain entry.named,
    entry.endsWithSlash]
  constructor
  · rintro ⟨checked, walked, -⟩
    obtain ⟨before, reached, entered⟩ := walk_concat_ok walked
    obtain ⟨inside, ⟨here, -⟩ | ⟨-, up, -⟩ | ⟨-, -, -, rfl, held⟩⟩ := enter_ok entered
    · exact absurd here entry.here
    · exact absurd up entry.up
    · exact ⟨before, ⟨checked, reached, inside⟩, rfl, held⟩
  · rintro ⟨before, ⟨checked, walked, inside⟩, rfl, held, found⟩
    refine ⟨checked, ?_, by simp⟩
    rw [walk_append, walked]
    simp [walk, enter, inside, entry.here, entry.up, Nat.not_lt.2 entry.short, found]

/-- A file that an entry's name leads to is in the directory. -/
theorem EntryName.isFile_iff (entry : EntryName name) : t.isFile (Path.join dir name) = true ↔
    ∃ place, t.room dir name = .ok place ∧
      ∃ mode data, t.at? (place ++ [name]) = some (.file mode data) := by
  simp only [FileTree.isFile_iff, stat_ok_iff, entry.find_iff]
  constructor
  · rintro ⟨mode, data, _, ⟨place, roomy, rfl, -⟩, found⟩
    exact ⟨place, roomy, mode, data, found⟩
  · rintro ⟨place, roomy, mode, data, found⟩
    exact ⟨mode, data, _, ⟨place, roomy, rfl, _, found⟩, found⟩

/-- An entry is made where there is room for it, unless it is there. -/
theorem EntryName.create_eq_room (entry : EntryName name) (mode : Nat) (data : ByteArray) :
    t.create (Path.join dir name) mode data =
      match t.room dir name with
      | .error e => .error e
      | .ok place =>
          match t.at? (place ++ [name]) with
          | some _ => .error .alreadyExists
          | none => .ok (t.put (place ++ [name]) (.file mode data)) := by
  unfold create room
  cases FileTree.checkPath (Path.join dir name) with
  | error e => rfl
  | ok _ =>
  simp only [Bind.bind, Except.bind, entry.endsWithSlash, Bool.false_eq_true, if_false, entry.begins,
    Path.segments_join dir entry.plain entry.named, vacancy, List.getLast?_concat,
    List.dropLast_concat]
  cases t.walk (t.start dir) (Path.segments dir) with
  | error e => rfl
  | ok place =>
      cases inside : t.isDirectoryAt place with
      | false => simp [inside]
      | true =>
          cases found : t.at? (place ++ [name]) <;>
            simp [inside, entry.here, entry.up, Nat.not_lt.2 entry.short, found]

theorem EntryName.create_eq (entry : EntryName name) (mode : Nat) (data : ByteArray)
    (roomy : t.room dir name = .ok place) :
    t.create (Path.join dir name) mode data =
      match t.at? (place ++ [name]) with
      | some _ => .error .alreadyExists
      | none => .ok (t.put (place ++ [name]) (.file mode data)) := by
  rw [entry.create_eq_room, roomy]

end Join

end FileTree

/-! ## Payloads -/

theorem Hex.utf8Len_flatMap_pair (bytes : List UInt8) :
    String.utf8Len (bytes.flatMap pair) = 2 * bytes.length := by
  have one : ∀ n < 16, (digit n).utf8Size = 1 := by decide
  induction bytes with
  | nil => rfl
  | cons byte rest ih =>
      have high : byte.toNat / 16 < 16 := by have := byte.toNat_lt; omega
      have low : byte.toNat % 16 < 16 := Nat.mod_lt _ (by decide)
      simp only [List.flatMap_cons, pair, List.cons_append, List.nil_append, String.utf8Len_cons,
        one _ high, one _ low, List.length_cons] at ih ⊢
      omega

/-- The file of a payload is called by 64 lowercase digits between fixed ends. -/
theorem Payload.fileName_digits (payload : Payload) :
    ∃ digits : List Char, digits.length = 64 ∧ (∀ c ∈ digits, c ∈ "0123456789abcdef".toList) ∧
      payload.fileName = "instruments-" ++ String.ofList digits ++ ".jar" := by
  refine ⟨payload.fingerprint.hex.toList, payload.fingerprint.length_hex, ?_, ?_⟩
  · intro c member
    obtain ⟨n, small, rfl⟩ := Hex.mem_encode member
    have digits : ∀ n < 16, Hex.digit n ∈ "0123456789abcdef".toList := by decide
    exact digits n small
  · rw [String.ofList_toList]
    rfl

theorem Payload.utf8ByteSize_fileName (payload : Payload) : payload.fileName.utf8ByteSize = 80 := by
  have hex : payload.fingerprint.hex.utf8ByteSize = 64 := by
    rw [Fingerprint.hex, Hex.encode, String.utf8ByteSize_ofList, Hex.utf8Len_flatMap_pair]
    simp [Fingerprint.bytes]
  simp only [fileName, Fingerprint.fileName, String.utf8ByteSize_append, hex]
  rfl

namespace Depot

open FileTree

variable {t : FileTree} {dir : String} {payload : Payload}

theorem entryName_fileName (payload : Payload) : EntryName payload.fileName := by
  have chars := payload.toList_fileName
  have long := payload.utf8ByteSize_fileName
  have not {short : String} (size : short.utf8ByteSize < 80) : payload.fileName ≠ short := by
    rintro rfl
    omega
  refine ⟨?_, ?_, not (by decide), not (by decide), not (by decide), ?_⟩
  · simp [chars, Fingerprint.hex, Hex.not_mem_encode (c := '/') (by decide)]
  · simp [chars, Fingerprint.hex, Hex.not_mem_encode (c := '\x00') (by decide)]
  · rw [long]
    decide

theorem entryName_stagingName : EntryName stagingName := by
  constructor <;> decide

/-- Putting a payload on disk ends with a regular file. -/
def Stores (t : FileTree) (dir : String) (payload : Payload) : Prop :=
  ∃ path, (deposit t dir payload).1 = .ok path ∧ (deposit t dir payload).2.isFile path = true

theorem deposit_of_isFile (file : t.isFile (target dir payload) = true) :
    deposit t dir payload = (.ok (target dir payload), t) := (Deposited.found file).eq

/-- A payload that lies there as a regular file is found. -/
theorem stores_of_isFile (file : t.isFile (target dir payload) = true) : Stores t dir payload := by
  rw [Stores, deposit_of_isFile file]
  exact ⟨_, rfl, file⟩

/-- A payload that was stored is found the next time. -/
theorem Stores.again (stores : Stores t dir payload) :
    (deposit t dir payload).1 = .ok (target dir payload) ∧
      (deposit t dir payload).2.isFile (target dir payload) = true ∧
      deposit (deposit t dir payload).2 dir payload =
        (.ok (target dir payload), (deposit t dir payload).2) := by
  obtain ⟨path, stored, file⟩ := stores
  obtain rfl := path_of_deposit stored
  exact ⟨stored, file, deposit_of_isFile file⟩

/-- Where there is room for a payload, its directory is there. -/
theorem makeAll_of_room {place : Place} (roomy : t.room dir payload.fileName = .ok place) :
    t.makeAll dir = (.ok (), t) := by
  obtain ⟨checked, walked, inside⟩ := room_ok_iff.1 roomy
  by_cases empty : dir = ""
  · simp [makeAll, empty]
  · exact makeAll_of_isDirectory (isDirectory_iff.2
      ⟨(entryName_fileName payload).checkPath_dir empty checked,
        leadsToDirectory_iff.2 ⟨place, walked, inside⟩⟩)

/-- Where there is room for a payload, its directory takes a staging file. -/
theorem stage_of_room {place : Place} (roomy : t.room dir payload.fileName = .ok place) :
    stage t dir = .ok () := by
  obtain ⟨checked, walked, inside⟩ := room_ok_iff.1 roomy
  have checked := entryName_stagingName.checkPath (entryName_fileName payload)
    (by rw [payload.utf8ByteSize_fileName]; decide) checked
  unfold stage
  rw [entryName_stagingName.create_eq mode .empty (room_ok_iff.2 ⟨checked, walked, inside⟩)]
  cases t.at? (place ++ [stagingName]) <;> rfl

/-- Where a payload's file is there, it has room, so nothing but its name is in the way. -/
theorem steps_of_isFile (file : t.isFile (target dir payload) = true) :
    t.makeAll dir = (.ok (), t) ∧ stage t dir = .ok () ∧
      t.create (target dir payload) mode payload.bytes = .error .alreadyExists := by
  obtain ⟨place, roomy, _, _, found⟩ := (entryName_fileName payload).isFile_iff.1 file
  have created := (entryName_fileName payload).create_eq mode payload.bytes roomy
  rw [found] at created
  exact ⟨makeAll_of_room roomy, stage_of_room roomy, created⟩

/-- What was in the way of a payload is in its way still. -/
theorem deposit_still (lacks : ¬ Stores t dir payload) :
    (deposit t dir payload).2.isFile (target dir payload) = false ∧
      ∃ r, deposit (deposit t dir payload).2 dir payload = (r, (deposit t dir payload).2) := by
  have comes := deposited t dir payload
  rw [Stores] at lacks
  generalize deposit t dir payload = outcome at comes lacks ⊢
  cases comes with
  | found file => exact absurd ⟨_, rfl, file⟩ lacks
  | @unmade t' e absent made =>
      obtain ⟨-, -, e', again⟩ := makeAll_error made
      have file : t'.isFile (target dir payload) = false := by
        refine Bool.eq_false_iff.2 fun file => ?_
        rw [(steps_of_isFile file).1] at again
        cases again
      exact ⟨file, _, (Deposited.unmade file again).eq⟩
  | @unstaged t' e absent made refused =>
      have file : t'.isFile (target dir payload) = false := by
        refine Bool.eq_false_iff.2 fun file => ?_
        rw [(steps_of_isFile file).2.1] at refused
        cases refused
      exact ⟨file, _, (Deposited.unstaged file (makeAll_ok_again made) refused).eq⟩
  | @unpublished t' e staged refused other =>
      have file : t'.isFile (target dir payload) = false := by
        refine Bool.eq_false_iff.2 fun file => other ?_
        exact Except.error.inj (refused.symm.trans (steps_of_isFile file).2.2)
      have again : Staged t' dir payload t' := ⟨file, makeAll_ok_again staged.made, staged.staged⟩
      exact ⟨file, _, (Deposited.unpublished again refused other).eq⟩
  | @taken t' staged refused =>
      -- A file that has the name would have been found.
      have file : t'.isFile (target dir payload) = false :=
        Bool.eq_false_iff.2 fun file => lacks ⟨_, rfl, file⟩
      have again : Staged t' dir payload t' := ⟨file, makeAll_ok_again staged.made, staged.staged⟩
      exact ⟨file, _, (Deposited.taken again refused).eq⟩
  | published staged created => exact absurd ⟨_, rfl, isFile_of_create created⟩ lacks

/-- A payload that could not be stored cannot be stored the next time, and nothing else is put on
disk then. -/
theorem lacks_again (lacks : ¬ Stores t dir payload) :
    (deposit (deposit t dir payload).2 dir payload).2 = (deposit t dir payload).2 ∧
      ¬ Stores (deposit t dir payload).2 dir payload := by
  obtain ⟨absent, r, second⟩ := deposit_still lacks
  refine ⟨by rw [second], ?_⟩
  rintro ⟨path, stored, found⟩
  obtain rfl := path_of_deposit stored
  rw [second, absent] at found
  cases found

/-- A payload is stored in a directory in which there is room for it. -/
theorem stores_of_room {place : Place} (roomy : t.room dir payload.fileName = .ok place)
    (free : t.at? (place ++ [payload.fileName]) = none) : Stores t dir payload := by
  cases file : t.isFile (target dir payload) with
  | true => exact stores_of_isFile file
  | false =>
      have created := (entryName_fileName payload).create_eq mode payload.bytes roomy
      rw [free] at created
      have staged : Staged t dir payload t := ⟨file, makeAll_of_room roomy, stage_of_room roomy⟩
      rw [Stores, (Deposited.published staged created).eq]
      exact ⟨_, rfl, isFile_of_create created⟩

end Depot

end HotSwap
