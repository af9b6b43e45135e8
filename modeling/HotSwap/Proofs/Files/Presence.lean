/-
# HotSwap.Proofs.Files.Presence -- what a deposit that ends well has left on disk

A deposit that ends well names the artifact's path, and is meant to promise that the payload is
there (`Promised`): a regular file that was there before the call, or a new one of the payload's
bytes that its owner alone may read.  It keeps that promise unless something else has the name.
An entry in the way is taken for a publisher who was faster, whatever it is, so a directory or a
socket under the artifact's name is reported as a payload too (`occupied_not_promised`).

`promised_iff` says that this is the only way in which the promise fails: the artifact's path leads
to something that is no regular file as soon as its directory is there (`Obstructed`).  That was
there before the call, or is a directory that the call made itself, on the way to a path in which
the artifact's name stands.
-/
import HotSwap.Proofs.Files.WriteOnce

namespace HotSwap.Depot

open FileTree

set_option autoImplicit false

variable {t : FileTree} {c : Consignment}

/-- The payload is there: its path leads to a regular file that stood there before, and is as it
was, or to a new one of its bytes. -/
def Promised (t : FileTree) (c : Consignment) (t' : FileTree) : Prop :=
  ∃ place, t'.find c.path = .ok place ∧
    ((∃ mode data, t.at? place = some (.file mode data) ∧ t'.at? place = some (.file mode data)) ∨
      t.at? place = none ∧ t'.at? place = some (.file 0o600 c.payload.bytes))

/-- The artifact's path leads to something that is no regular file. -/
def Misleads (t : FileTree) (c : Consignment) : Prop :=
  ∃ place held, t.find c.path = .ok place ∧ t.at? place = some held ∧
    ∀ mode data, held ≠ .file mode data

/-- It does so once its directory is there. -/
def Obstructed (t : FileTree) (c : Consignment) : Prop := Misleads (t.makeAll c.dir).2 c

/-- How the file system may look behind a deposit that ends well. -/
inductive Ending (t : FileTree) (c : Consignment) (t' : FileTree) : Prop
  /-- A regular file was there. -/
  | kept (place : Place) (mode : Nat) (data : ByteArray) (leads : t'.find c.path = .ok place)
      (there : t.at? place = some (.file mode data)) (same : t.SameFiles t')
  /-- The payload was put where nothing was. -/
  | published (place : Place) (leads : t'.find c.path = .ok place)
      (one : t.Publishes place (.file 0o600 c.payload.bytes) t')
  /-- Something else is in the way.  It was there before, or is a directory that the deposit made
  on its way. -/
  | obstructed (place : Place) (held : Entry) (leads : t'.find c.path = .ok place)
      (stands : t'.at? place = some held) (other : ∀ mode data, held ≠ .file mode data)
      (cause : t.at? place = some held ∨
        held = .directory ∧ t.at? place = none ∧ c.payload.fileName ∈ Path.segments c.dir)
      (same : t.SameFiles t')

/-- However it is carried out, a deposit that ends well is one in one step. -/
theorem deliver_of_ok {path : String} (stored : (c.deliver t).1 = .ok path) :
    c.deliver t = deposit t c.dir c.payload := by
  rcases c.deliver_cases t with same | ⟨e, refused⟩
  · exact same
  · rw [refused] at stored
    cases stored

/-- An entry that stands behind new directories was there before, or is one of them. -/
theorem cause_of_furnishes {t₁ : FileTree} {names : List String} (furnishes : t.Furnishes names t₁)
    {above : Place} {name : String} {held : Entry} (found : t₁.at? (above ++ [name]) = some held) :
    t.at? (above ++ [name]) = some held ∨
      held = .directory ∧ t.at? (above ++ [name]) = none ∧ name ∈ names := by
  cases old : t.at? (above ++ [name]) with
  | some before =>
      have kept := furnishes.grows.kept _ _ old
      exact .inl (kept.symm.trans found)
  | none =>
      rcases furnishes.added _ _ found with there | ⟨directory, above', name', member, called⟩
      · rw [old] at there
        cases there
      · obtain ⟨-, rfl⟩ : above = above' ∧ name = name' := by simpa using called
        exact .inr ⟨directory, rfl, member⟩

/-- A deposit that ends well has found a regular file, published the payload or run into something
else. -/
theorem ending_of_ok {path : String} (stored : (c.deliver t).1 = .ok path) :
    path = c.path ∧ Ending t c (c.deliver t).2 := by
  have once := deliver_of_ok stored
  rw [once] at stored ⊢
  refine ⟨path_of_deposit stored, ?_⟩
  obtain ⟨above, roomy, same⟩ := deposit_ok stored
  rw [same]
  have furnishes := makeAll_furnishes t c.dir
  generalize (t.makeAll c.dir).2 = t₁ at roomy furnishes
  cases found : t₁.at? (above ++ [c.payload.fileName]) with
  | none =>
      obtain ⟨leads, one⟩ := publishes_of_free furnishes roomy found
      exact .published _ leads one
  | some held =>
      have leads : t₁.find c.path = .ok (above ++ [c.payload.fileName]) :=
        (entryName_fileName c.payload).find_iff.2 ⟨above, roomy, rfl, held, found⟩
      cases held with
      | file mode data =>
          have there := (furnishes.sameFiles _ _ (by simp)).1 found
          exact .kept _ mode data leads there furnishes.sameFiles
      | directory =>
          exact .obstructed _ _ leads found (by simp) (cause_of_furnishes furnishes found)
            furnishes.sameFiles
      | socket =>
          exact .obstructed _ _ leads found (by simp) (cause_of_furnishes furnishes found)
            furnishes.sameFiles

theorem not_misleads {place : Place} {mode : Nat} {data : ByteArray}
    (leads : t.find c.path = .ok place) (file : t.at? place = some (.file mode data)) :
    ¬ Misleads t c := by
  rintro ⟨place', held, leads', found, other⟩
  obtain rfl : place = place' := Except.ok.inj (leads.symm.trans leads')
  exact other mode data (Option.some.inj (found.symm.trans file))

/-- What is in the way of a deposit that ends well is in the way still. -/
theorem obstructed_iff_misleads {path : String} (stored : (c.deliver t).1 = .ok path) :
    Obstructed t c ↔ Misleads (c.deliver t).2 c := by
  have once := deliver_of_ok stored
  rw [once] at stored ⊢
  obtain ⟨above, roomy, same⟩ := deposit_ok stored
  rw [same]
  have entry := entryName_fileName c.payload
  have furnishes := makeAll_furnishes t c.dir
  unfold Obstructed
  generalize (t.makeAll c.dir).2 = t₁ at roomy furnishes
  cases found : t₁.at? (above ++ [c.payload.fileName]) with
  | some held => exact Iff.rfl
  | none =>
      -- Nothing was in the way, so the payload has the name now.
      obtain ⟨leads, one⟩ := publishes_of_free furnishes roomy found
      refine iff_of_false ?_ (not_misleads leads one.put)
      rintro ⟨place, held, leads', held', -⟩
      obtain ⟨above', roomy', rfl, -⟩ := entry.find_iff.1 leads'
      obtain rfl : above = above' := Except.ok.inj (roomy.symm.trans roomy')
      rw [found] at held'
      cases held'

/-- **What a deposit that ends well has left on disk.**  It names the artifact's path; a regular
file was there, or the payload is now, or something else is in the way; and the payload is there as
promised just if nothing else is in the way. -/
theorem promised_iff {path : String} (stored : (c.deliver t).1 = .ok path) :
    path = c.path ∧ Ending t c (c.deliver t).2 ∧
      (Promised t c (c.deliver t).2 ↔ ¬ Obstructed t c) := by
  obtain ⟨same, ending⟩ := ending_of_ok stored
  refine ⟨same, ending, ?_⟩
  rw [obstructed_iff_misleads stored]
  generalize (c.deliver t).2 = t' at ending
  cases ending with
  | kept place mode data leads there same =>
      have file := (same place _ (by simp)).2 there
      exact iff_of_true ⟨place, leads, .inl ⟨mode, data, there, file⟩⟩ (not_misleads leads file)
  | published place leads one =>
      exact iff_of_true ⟨place, leads, .inr ⟨one.free, one.put⟩⟩ (not_misleads leads one.put)
  | obstructed place held leads stands other cause same =>
      have misleads : Misleads t' c := ⟨place, held, leads, stands, other⟩
      refine iff_of_false ?_ (not_not.2 misleads)
      rintro ⟨place', leads', ⟨mode, data, -, file⟩ | ⟨-, file⟩⟩
      · exact not_misleads leads' file misleads
      · exact not_misleads leads' file misleads

theorem sampleFirst_promised :
    (sampleFirst.deliver {}).1 = .ok sampleFirst.path ∧
      Promised {} sampleFirst (sampleFirst.deliver {}).2 := by
  have stored : (sampleFirst.deliver {}).1 = .ok sampleFirst.path := by decide +kernel
  have free : (({} : FileTree).makeAll sampleFirst.dir).2.find sampleFirst.path =
      .error .notFound := by
    decide +kernel
  obtain ⟨-, -, promised⟩ := promised_iff stored
  refine ⟨stored, promised.2 ?_⟩
  rintro ⟨place, held, leads, -⟩
  rw [free] at leads
  cases leads

/-- A directory under the name of an artifact. -/
def occupied : FileTree where
  entries := [(["d", sampleFirst.payload.fileName], .directory), (["d"], .directory)]

theorem occupied_not_promised :
    ¬ ∀ (t : FileTree) (c : Consignment) (path : String), (c.deliver t).1 = .ok path →
      path = c.path ∧ Promised t c (c.deliver t).2 := by
  intro always
  have stored : (sampleFirst.deliver occupied).1 = .ok sampleFirst.path := by decide +kernel
  have absent : (sampleFirst.deliver occupied).2.isFile sampleFirst.path = false := by
    decide +kernel
  obtain ⟨-, place, leads, ⟨mode, data, -, file⟩ | ⟨-, file⟩⟩ := always _ _ _ stored
  all_goals
    have present := isFile_iff.2 ⟨_, _, stat_ok_iff.2 ⟨place, leads, file⟩⟩
    rw [absent] at present
    cases present

end HotSwap.Depot
