/-
# HotSwap.Proofs.Files.WriteOnce -- payloads that lie on disk for good

A run of deposits, of whichever payloads into whichever directories, writes each artifact once.
What had an artifact's name before the run stays as it was: a file, or perhaps a socket.  Where
nothing had it, the first deposit that leads to its place puts its bytes there, readable by the
owner alone, and they stay (`Depot.writeOnce`).  A deposit that is refused changes no file, and the
disk may refuse one at any of its steps.

The step is `Depot.outcome`: a deposit is refused, finds its artifact, or publishes it, and nothing
but directories is gained besides.  It needs that no directory has an artifact's name, and a run
keeps that as long as nobody asks for such a directory: whatever directories are made are called by
segments of the paths that were asked for (`makeAll_furnishes`).
-/
import HotSwap.Proofs.Files.Descent
import HotSwap.Proofs.Files.Staging
import HotSwap.Proofs.Text.HexForm

namespace HotSwap

set_option autoImplicit false

namespace FileTree

variable {t t' t'' : FileTree} {start place : Place} {steps names : List String}

/-! ## What new directories are called -/

/-- The tree grew by directories only, each of them called by one of some names. -/
structure Furnishes (t : FileTree) (names : List String) (t' : FileTree) : Prop where
  grows : t.Grows t'
  added : ∀ place entry, t'.at? place = some entry → t.at? place = some entry ∨
    entry = .directory ∧ ∃ above, ∃ name ∈ names, place = above ++ [name]

theorem Furnishes.refl (t : FileTree) (names : List String) : t.Furnishes names t :=
  ⟨.refl t, fun _ _ => .inl⟩

theorem Furnishes.trans (first : t.Furnishes names t') (second : t'.Furnishes names t'') :
    t.Furnishes names t'' := by
  refine ⟨first.grows.trans second.grows, fun place entry found => ?_⟩
  rcases second.added place entry found with old | new
  · exact first.added place entry old
  · exact .inr new

theorem Furnishes.more {others : List String} (furnishes : t.Furnishes names t')
    (within : names ⊆ others) : t.Furnishes others t' := by
  refine ⟨furnishes.grows, fun place entry found => (furnishes.added place entry found).imp_right ?_⟩
  rintro ⟨rfl, above, name, member, called⟩
  exact ⟨rfl, above, name, within member, called⟩

theorem makeOne_furnishes (made : t.makeOne start steps = .ok t') : t.Furnishes steps t' := by
  obtain ⟨place, free, rfl⟩ := makeOne_ok made
  obtain ⟨parents, last, above, rfl, -, -, -, -, -, called, empty⟩ := vacancy_ok free
  refine ⟨.put empty _, fun other entry found => ?_⟩
  refine (at?_put_ok (by simp [called]) found).imp_right ?_
  rintro ⟨rfl, rfl⟩
  exact ⟨rfl, above, last, by simp, called⟩

theorem makeChain_furnishes (start : Place) (t : FileTree) (chain : List String) :
    t.Furnishes chain (makeChain start t chain).2 := by
  induction chain with
  | nil => exact .refl t []
  | cons last parents ih =>
      rw [makeChain_cons]
      have one {t t' : FileTree} (made : t.makeOne start (last :: parents).reverse = .ok t') :
          t.Furnishes (last :: parents) t' :=
        (makeOne_furnishes made).more (List.reverse_subset.2 (List.Subset.refl _))
      exact viaParents_keeps (.refl · _) .trans one (ih.more (List.subset_cons_self last parents))

/-- Directories that are made are called by segments of the path. -/
theorem makeAll_furnishes (t : FileTree) (path : String) :
    t.Furnishes (Path.segments path) (t.makeAll path).2 := by
  have parents : parentSteps path ⊆ Path.segments path := fun s member =>
    (List.mem_filter.1 (List.mem_reverse.1 (List.mem_of_mem_tail member))).1
  exact makeAll_keeps (.refl · _) .trans makeOne_furnishes
    ((makeChain_furnishes _ t (parentSteps path)).more parents)

theorem Furnishes.sameFiles (furnishes : t.Furnishes names t') : t.SameFiles t' := by
  intro place entry other
  constructor
  · intro found
    rcases furnishes.added place entry found with old | ⟨directory, -⟩
    · exact old
    · exact absurd directory other
  · exact furnishes.grows.kept place entry

end FileTree

/-! ## Artifacts -/

theorem Fingerprint.fileName_injective {f g : Fingerprint} (same : f.fileName = g.fileName) :
    f = g := by
  have chars := congrArg String.toList same
  simp only [fileName, String.toList_append, List.append_assoc, List.append_cancel_left_eq,
    List.append_cancel_right_eq] at chars
  exact hex_injective (String.toList_inj.1 chars)

namespace Depot

open FileTree

variable {t t' : FileTree} {dir : String} {payload : Payload} {place : Place}

/-- Artifacts of different fingerprints never share a path, in whichever directories. -/
theorem target_ne {other : Payload} (different : payload.fingerprint ≠ other.fingerprint)
    (dir elsewhere : String) : target dir payload ≠ target elsewhere other := by
  intro same
  have called := congrArg Path.fileName? same
  rw [fileName?_target, fileName?_target] at called
  exact different (Fingerprint.fileName_injective (Option.some.inj called))

/-- No directory has the name of an artifact. -/
def Unoccupied (t : FileTree) : Prop :=
  ∀ (above : Place) (f : Fingerprint), t.at? (above ++ [f.fileName]) ≠ some .directory

/-- No component of a path is the name of an artifact. -/
def Unrelated (dir : String) : Prop :=
  ∀ f : Fingerprint, .name f.fileName ∉ Path.components dir

theorem Unrelated.not_mem_segments (unrelated : Unrelated dir) (f : Fingerprint) :
    f.fileName ∉ Path.segments dir := by
  intro member
  apply unrelated f
  have entry := entryName_fileName ⟨.empty, f⟩
  have component : Path.component f.fileName = .name f.fileName := if_neg entry.up
  unfold Path.components
  rw [List.mem_append, List.mem_map]
  exact .inr ⟨f.fileName, by simpa using ⟨member, entry.here⟩, component⟩

/-- The artifact of a payload lies at a place, which its path leads to. -/
theorem find_target (found : t.find (target dir payload) = .ok place) :
    (∃ above, place = above ++ [payload.fileName]) ∧ ∃ held, t.at? place = some held := by
  obtain ⟨above, -, rfl, held⟩ := (entryName_fileName payload).find_iff.1 found
  exact ⟨⟨above, rfl⟩, held⟩

/-- A path whose components have other lengths than artifacts' names is none of them. -/
theorem unrelated_of_size (other : ∀ s ∈ Path.segments dir, s.utf8ByteSize ≠ 80) :
    Unrelated dir := by
  intro f member
  have long := Payload.utf8ByteSize_fileName ⟨.empty, f⟩
  unfold Path.components at member
  rcases List.mem_append.1 member with start | named
  · split at start
    · simp at start
    · split at start <;> simp at start
  · obtain ⟨s, within, same⟩ := List.mem_map.1 named
    unfold Path.component at same
    split at same
    · cases same
    · obtain rfl := Path.Component.name.inj same
      exact other _ (List.mem_of_mem_filter within) long

/-! ## One deposit -/

/-- A payload that is to lie in a directory.  It is put there at once, or in steps with what comes
from the disk. -/
structure Consignment where
  dir : String
  payload : Payload
  disk : Option Disk

namespace Consignment

/-- The path of the artifact. -/
def path (c : Consignment) : String := target c.dir c.payload

/-- What a deposit returns, and the file system behind it. -/
def deliver (c : Consignment) (t : FileTree) : Except DepositError String × FileTree :=
  match c.disk with
  | none => deposit t c.dir c.payload
  | some disk => inSteps disk t c.dir c.payload

/-- A directory is made with its parents, as far as the disk goes. -/
def makeAll (c : Consignment) (t : FileTree) : Except IoFault Unit × FileTree :=
  match c.disk with
  | none => t.makeAll c.dir
  | some disk => disk.makeAll t c.dir

theorem makeAll_paves (c : Consignment) (t : FileTree) :
    t.Paves (t.start c.dir) (route c.dir) (c.makeAll t).2 := by
  unfold makeAll
  split
  · exact FileTree.makeAll_paves t c.dir
  · exact Disk.makeAll_paves _ t c.dir

/-- However far the disk goes, directories that are made are called by segments of the path. -/
theorem makeAll_furnishes (c : Consignment) (t : FileTree) :
    t.Furnishes (Path.segments c.dir) (c.makeAll t).2 := by
  unfold makeAll Disk.makeAll
  split
  · exact FileTree.makeAll_furnishes t c.dir
  split
  · apply (makeChain_furnishes _ t _).more
    intro s member
    have member := List.mem_reverse.1 (List.mem_of_mem_tail (List.mem_of_mem_drop member))
    exact (List.mem_filter.1 member).1
  · exact FileTree.makeAll_furnishes t c.dir

/-- However it is carried out, this is a deposit, or a refusal that leaves no more behind than the
directories. -/
theorem deliver_cases (c : Consignment) (t : FileTree) :
    c.deliver t = deposit t c.dir c.payload ∨ ∃ e, c.deliver t = (.error e, (c.makeAll t).2) := by
  unfold deliver makeAll
  split
  · exact .inl rfl
  · exact inSteps_cases _ t c.dir c.payload

end Consignment

variable {c : Consignment}

/-- What a deposit does to the files of a tree. -/
inductive Outcome (t : FileTree) (c : Consignment) : Except DepositError String × FileTree → Prop
  | refused (e : DepositError) (t' : FileTree) (same : t.SameFiles t') : Outcome t c (.error e, t')
  | kept (t' : FileTree) (place : Place) (held : Entry) (same : t.SameFiles t')
      (leads : t'.find c.path = .ok place) (file : held ≠ .directory)
      (there : t.at? place = some held) : Outcome t c (.ok c.path, t')
  | published (t' : FileTree) (place : Place) (leads : t'.find c.path = .ok place)
      (one : t.Publishes place (.file mode c.payload.bytes) t') : Outcome t c (.ok c.path, t')

/-- Where no directory has an artifact's name, none has it behind the directories that are asked
for. -/
theorem Unoccupied.furnishes (unoccupied : Unoccupied t) (unrelated : Unrelated dir)
    (furnishes : t.Furnishes (Path.segments dir) t') : Unoccupied t' := by
  intro above f found
  rcases furnishes.added _ _ found with old | ⟨-, above', name, member, called⟩
  · exact unoccupied above f old
  · obtain ⟨-, rfl⟩ : above = above' ∧ f.fileName = name := by simpa using called
    exact unrelated.not_mem_segments f member

/-- A deposit that is refused leaves no more behind than the directories. -/
theorem deposit_error {e : DepositError} (refused : (deposit t dir payload).1 = .error e) :
    (deposit t dir payload).2 = (t.makeAll dir).2 := by
  have comes := deposited t dir payload
  generalize deposit t dir payload = outcome at comes refused ⊢
  cases comes with
  | found | taken | published => cases refused
  | unmade absent made => rw [made]
  | unstaged absent made => rw [made]
  | unpublished staged => rw [staged.made]

/-- A deposit that ends well finds room for its artifact behind the directories.  Whatever has the
artifact's name there is left alone, and otherwise the payload gets it. -/
theorem deposit_ok {path : String} (stored : (deposit t dir payload).1 = .ok path) :
    ∃ above, (t.makeAll dir).2.room dir payload.fileName = .ok above ∧
      deposit t dir payload = (.ok (target dir payload),
        match (t.makeAll dir).2.at? (above ++ [payload.fileName]) with
        | some _ => (t.makeAll dir).2
        | none =>
            (t.makeAll dir).2.put (above ++ [payload.fileName]) (.file mode payload.bytes)) := by
  have entry := entryName_fileName payload
  -- Where the name is looked for at all, there is room.
  have roomy {t' : FileTree} {answer : Except IoFault FileTree}
      (created : t'.create (target dir payload) mode payload.bytes = answer)
      (ends : ∀ e, answer = .error e → e = .alreadyExists) :
      ∃ above, t'.room dir payload.fileName = .ok above := by
    rw [target, entry.create_eq_room] at created
    cases room : t'.room dir payload.fileName with
    | ok above => exact ⟨above, rfl⟩
    | error e =>
        rw [room] at created
        exact absurd (ends e created.symm ▸ room) room_ne_alreadyExists
  have comes := deposited t dir payload
  generalize deposit t dir payload = outcome at comes stored ⊢
  cases comes with
  | unmade | unstaged | unpublished => cases stored
  | found file =>
      obtain ⟨above, roomy, _, _, found⟩ := entry.isFile_iff.1 file
      refine ⟨above, by rw [makeAll_of_room roomy]; exact roomy, ?_⟩
      simp only [makeAll_of_room roomy, found]
  | taken staged refused =>
      obtain ⟨above, roomy⟩ := roomy refused fun e same => (Except.error.inj same).symm
      rw [target, entry.create_eq mode payload.bytes roomy] at refused
      rw [staged.made]
      refine ⟨above, roomy, ?_⟩
      split at refused
      · rename_i held found
        simp only [found]
      · cases refused
  | published staged created =>
      obtain ⟨above, roomy⟩ := roomy created fun e wrong => by cases wrong
      rw [target, entry.create_eq mode payload.bytes roomy] at created
      rw [staged.made]
      refine ⟨above, roomy, ?_⟩
      split at created
      · cases created
      · rename_i free
        obtain rfl := Except.ok.inj created
        simp only [free]

/-- A payload that gets the artifact's name behind new directories is published there. -/
theorem publishes_of_free {t₁ : FileTree} {names : List String} {above : Place}
    (furnishes : t.Furnishes names t₁) (roomy : t₁.room dir payload.fileName = .ok above)
    (found : t₁.at? (above ++ [payload.fileName]) = none) :
    (t₁.put (above ++ [payload.fileName]) (.file mode payload.bytes)).find (target dir payload) =
        .ok (above ++ [payload.fileName]) ∧
      t.Publishes (above ++ [payload.fileName]) (.file mode payload.bytes)
        (t₁.put (above ++ [payload.fileName]) (.file mode payload.bytes)) := by
  have proper : above ++ [payload.fileName] ≠ [] := by simp
  obtain ⟨checked, walked, inside⟩ := room_ok_iff.1 roomy
  have grows := Grows.put found (.file mode payload.bytes)
  have put : (t₁.put (above ++ [payload.fileName]) (.file mode payload.bytes)).at?
      (above ++ [payload.fileName]) = some (.file mode payload.bytes) := by
    simp [at?_put]
  have free : t.at? (above ++ [payload.fileName]) = none := by
    cases old : t.at? (above ++ [payload.fileName]) with
    | none => rfl
    | some held =>
        rw [furnishes.grows.kept _ _ old] at found
        cases found
  refine ⟨?_, free, put, ?_⟩
  · refine (entryName_fileName payload).find_iff.2
      ⟨above, room_ok_iff.2 ⟨checked, ?_, ?_⟩, rfl, _, put⟩
    · rw [grows.begins]
      exact grows.walk walked
    · exact grows.isDirectoryAt inside
  · intro other entry file elsewhere
    rw [at?_put t₁ proper, if_neg elsewhere]
    exact furnishes.sameFiles other entry file

/-- A deposit is refused, finds its artifact or publishes it, and does nothing else to files. -/
theorem deposit_outcome (unoccupied : Unoccupied t) (unrelated : Unrelated c.dir) :
    Outcome t c (deposit t c.dir c.payload) := by
  obtain ⟨dir, payload, disk⟩ := c
  have entry := entryName_fileName payload
  have furnishes := makeAll_furnishes t dir
  cases ends : (deposit t dir payload).1 with
  | error e =>
      have refused : deposit t dir payload = (.error e, (t.makeAll dir).2) :=
        Prod.ext ends (deposit_error ends)
      rw [refused]
      exact .refused e _ furnishes.sameFiles
  | ok path =>
  obtain ⟨above, roomy, same⟩ := deposit_ok ends
  rw [same]
  have vacant := unoccupied.furnishes unrelated furnishes
  generalize (t.makeAll dir).2 = t₁ at furnishes vacant roomy
  cases found : t₁.at? (above ++ [payload.fileName]) with
  | some held =>
      -- Somebody else has the name, and was there before the directories were made.
      have file : held ≠ .directory := by
        rintro rfl
        exact vacant above payload.fingerprint found
      have there := (furnishes.sameFiles _ _ file).1 found
      exact .kept t₁ _ held furnishes.sameFiles
        (entry.find_iff.2 ⟨above, roomy, rfl, held, found⟩) file there
  | none =>
      obtain ⟨leads, one⟩ := publishes_of_free furnishes roomy found
      exact .published _ _ leads one

/-- However it is carried out, a deposit comes to no more than that. -/
theorem outcome (unoccupied : Unoccupied t) (unrelated : Unrelated c.dir) :
    Outcome t c (c.deliver t) := by
  rcases c.deliver_cases t with same | ⟨e, refused⟩
  · rw [same]
    exact deposit_outcome unoccupied unrelated
  · rw [refused]
    exact .refused e _ (c.makeAll_furnishes t).sameFiles

/-- No deposit brings a directory but those that were asked for. -/
theorem directory_of_deposit (dir : String) (payload : Payload)
    (found : (deposit t dir payload).2.at? place = some .directory) :
    (t.makeAll dir).2.at? place = some .directory := by
  have grows := (makeAll_furnishes t dir).grows
  have comes := deposited t dir payload
  generalize deposit t dir payload = outcome at comes found
  cases comes with
  | found file => exact grows.kept _ _ found
  | unmade absent made =>
      rw [made]
      exact found
  | unstaged absent made refused =>
      rw [made]
      exact found
  | unpublished staged refused other =>
      rw [staged.made]
      exact found
  | taken staged refused =>
      rw [staged.made]
      exact found
  | published staged created =>
      rw [staged.made]
      obtain ⟨file, empty, rfl, -⟩ := create_ok created
      rcases at?_put_ok (ne_nil_of_vacant empty) found with old | ⟨-, other⟩
      · exact old
      · cases other

theorem Unoccupied.deliver (unoccupied : Unoccupied t) (unrelated : Unrelated c.dir) :
    Unoccupied (c.deliver t).2 := by
  rcases c.deliver_cases t with same | ⟨e, refused⟩
  · rw [same]
    intro above f found
    have made := directory_of_deposit c.dir c.payload found
    exact unoccupied.furnishes unrelated (makeAll_furnishes t c.dir) above f made
  · rw [refused]
    exact unoccupied.furnishes unrelated (c.makeAll_furnishes t)

/-- However it is carried out, a deposit that is refused adds directories on its way only. -/
theorem paves_of_refused {e : DepositError} (refused : (c.deliver t).1 = .error e) :
    t.Paves (t.start c.dir) (route c.dir) (c.deliver t).2 := by
  rcases c.deliver_cases t with same | ⟨e', same⟩
  · rw [same] at refused ⊢
    rw [deposit_error refused]
    exact makeAll_paves t c.dir
  · rw [same]
    exact c.makeAll_paves t

theorem deliver_grows (t : FileTree) (c : Consignment) : t.Grows (c.deliver t).2 := by
  rcases c.deliver_cases t with same | ⟨e, refused⟩
  · rw [same]
    exact (deposit_adds t c.dir c.payload).grows
  · rw [refused]
    exact (c.makeAll_paves t).grows

/-! ## Runs -/

/-- The file system behind a run of deposits. -/
def after (t : FileTree) (calls : List Consignment) : FileTree :=
  calls.foldl (fun t c => (c.deliver t).2) t

variable {calls earlier later : List Consignment} {call : Consignment} {held : Entry}

theorem after_append (t : FileTree) (earlier later : List Consignment) :
    after t (earlier ++ later) = after (after t earlier) later :=
  List.foldl_append

theorem after_concat (t : FileTree) (earlier : List Consignment) (call : Consignment) :
    after t (earlier ++ [call]) = (call.deliver (after t earlier)).2 := by
  rw [after_append]
  rfl

theorem after_grows (t : FileTree) (calls : List Consignment) : t.Grows (after t calls) := by
  induction calls using List.reverseRecOn with
  | nil => exact .refl t
  | append_singleton calls call ih =>
      rw [after_concat]
      exact ih.trans (deliver_grows (after t calls) call)

theorem after_unoccupied (unoccupied : Unoccupied t) (unrelated : ∀ c ∈ calls, Unrelated c.dir) :
    Unoccupied (after t calls) := by
  induction calls using List.reverseRecOn with
  | nil => exact unoccupied
  | append_singleton calls call ih =>
      rw [after_concat]
      have vacant := ih fun c member => unrelated c (List.mem_append_left _ member)
      exact vacant.deliver (unrelated call (by simp))

/-- A deposit ends well, and its path leads to a place. -/
def Serves (t : FileTree) (c : Consignment) (place : Place) : Prop :=
  (c.deliver t).1 = .ok c.path ∧ (c.deliver t).2.find c.path = .ok place

theorem Serves.stands (serves : Serves t call place) :
    ∃ held, (call.deliver t).2.at? place = some held :=
  (find_target serves.2).2

/-- The first deposit of a run that ends well and leads to a place. -/
def First (t : FileTree) (calls : List Consignment) (place : Place) (c : Consignment) : Prop :=
  ∃ sooner later, calls = sooner ++ c :: later ∧ Serves (after t sooner) c place ∧
    ∀ before other between, sooner = before ++ other :: between →
      ¬ Serves (after t before) other place

/-- A deposit that leads to where nothing was is the first that does. -/
theorem First.of_free (serves : Serves (after t earlier) call place)
    (free : (after t earlier).at? place = none) :
    First t (earlier ++ call :: later) place call := by
  refine ⟨earlier, later, rfl, serves, ?_⟩
  rintro before other between rfl sooner
  obtain ⟨held, found⟩ := sooner.stands
  have kept := (after_grows (after t (before ++ [other])) between).kept place held
  rw [← after_append, after_concat] at kept
  simp only [List.append_assoc, List.singleton_append] at kept
  rw [kept found] at free
  cases free

theorem First.append {more : List Consignment} (first : First t calls place call) :
    First t (calls ++ more) place call := by
  obtain ⟨sooner, later, rfl, serves, none⟩ := first
  exact ⟨sooner, later ++ more, by simp, serves, none⟩

/-- What a run finds at a place, or the first deposit that leads there has put there. -/
def Settled (t : FileTree) (calls : List Consignment) (place : Place) (held : Entry) : Prop :=
  t.at? place = some held ∨ t.at? place = none ∧ ∃ first, First t calls place first ∧
    held = .file 0o600 first.payload.bytes

/-- All files behind a run were there before it, or were put there by the first deposit that leads
to their place. -/
theorem settled_of_found (unoccupied : Unoccupied t) (unrelated : ∀ c ∈ calls, Unrelated c.dir)
    (file : held ≠ .directory) (found : (after t calls).at? place = some held) :
    Settled t calls place held := by
  induction calls using List.reverseRecOn with
  | nil => exact .inl found
  | append_singleton calls call ih =>
      have unrelated' : ∀ c ∈ calls, Unrelated c.dir := fun c member => unrelated c (by simp [member])
      have before (old : (after t calls).at? place = some held) :
          Settled t (calls ++ [call]) place held := by
        rcases ih unrelated' old with there | ⟨empty, first, earliest, same⟩
        · exact .inl there
        · exact .inr ⟨empty, first, earliest.append, same⟩
      rw [after_concat] at found
      have step := outcome (after_unoccupied unoccupied unrelated') (unrelated call (by simp))
      have serves : ∀ at_, (call.deliver (after t calls)).1 = .ok call.path →
          (call.deliver (after t calls)).2.find call.path = .ok at_ →
          Serves (after t calls) call at_ := fun _ ends leads => ⟨ends, leads⟩
      generalize call.deliver (after t calls) = reply at found step serves
      cases step with
      | refused e t' same => exact before ((same place held file).1 found)
      | kept t' at_ held' same leads file' there => exact before ((same place held file).1 found)
      | published t' at_ leads one =>
          by_cases here : place = at_
          · subst here
            obtain rfl : held = .file mode call.payload.bytes :=
              Option.some.inj (found.symm.trans one.put)
            refine .inr ⟨?_, call, First.of_free (serves place rfl leads) one.free, rfl⟩
            cases old : t.at? place with
            | none => rfl
            | some held =>
                have kept := (after_grows t calls).kept place held old
                rw [one.free] at kept
                cases kept
          · exact before ((one.others place held file here).1 found)

/-- Paths of artifacts that lead to one place are for one fingerprint, in whichever trees. -/
theorem fingerprint_of_place {u u' : FileTree} {one other : Consignment}
    (leads : u.find one.path = .ok place) (leads' : u'.find other.path = .ok place) :
    one.payload.fingerprint = other.payload.fingerprint := by
  obtain ⟨⟨above, called⟩, -⟩ := find_target leads
  obtain ⟨⟨above', called'⟩, -⟩ := find_target leads'
  obtain ⟨-, same⟩ : above = above' ∧ one.payload.fileName = other.payload.fileName := by
    simpa using called.symm.trans called'
  exact Fingerprint.fileName_injective same

/-- A deposit that ends well leads, from then on, to what stood there before the run or was put
there by the first deposit that led there, whose payload had the same fingerprint. -/
theorem settled_of_ok (unoccupied : Unoccupied t) (unrelated : ∀ c ∈ earlier ++ [call], Unrelated c.dir)
    {path : String} (stored : (call.deliver (after t earlier)).1 = .ok path) :
    path = call.path ∧ ∃ place held, held ≠ .directory ∧ Settled t (earlier ++ [call]) place held ∧
      (∀ first, First t (earlier ++ [call]) place first →
        first.payload.fingerprint = call.payload.fingerprint) ∧
      ∀ further, (after t (earlier ++ call :: further)).find path = .ok place ∧
        (after t (earlier ++ call :: further)).at? place = some held := by
  have step := outcome
    (after_unoccupied unoccupied fun c member => unrelated c (List.mem_append_left _ member))
    (unrelated call (by simp))
  obtain ⟨rfl, place, held, file, leads, found⟩ : path = call.path ∧ ∃ place held,
      held ≠ .directory ∧ (call.deliver (after t earlier)).2.find call.path = .ok place ∧
      (call.deliver (after t earlier)).2.at? place = some held := by
    generalize call.deliver (after t earlier) = reply at step stored
    cases step with
    | refused e t' same => cases stored
    | kept t' place held same leads file there =>
        exact ⟨(Except.ok.inj stored).symm, place, held, file, leads, (same place held file).2 there⟩
    | published t' place leads one =>
        exact ⟨(Except.ok.inj stored).symm, place, _, by simp, leads, one.put⟩
  rw [← after_concat] at leads found
  refine ⟨rfl, place, held, file, settled_of_found unoccupied unrelated file found, ?_, ?_⟩
  · rintro first ⟨sooner, later, -, serves, -⟩
    exact fingerprint_of_place serves.2 leads
  · intro further
    have grows := after_grows (after t (earlier ++ [call])) further
    rw [← after_append] at grows
    simp only [List.append_assoc, List.singleton_append] at grows
    exact ⟨grows.find leads, grows.kept place held found⟩

/-- A run of deposits writes each artifact once.  A deposit that ends well leads from then on to what
had the artifact's place before the run, or to the bytes of the first payload with its fingerprint
that was put there.  What had the place is no directory, so it is a file wherever the tree holds
files and directories only; a socket would be left there as well.  One that is refused, by the
disk too, leaves no more than directories on its way.  Artifacts of different fingerprints have
neither path nor place in common, and all other files are left alone. -/
theorem writeOnce (unoccupied : Unoccupied t) (unrelated : ∀ c ∈ calls, Unrelated c.dir) :
    (∀ earlier call later, calls = earlier ++ call :: later →
      (∀ path, (call.deliver (after t earlier)).1 = .ok path →
        path = call.path ∧ ∃ place held, held ≠ .directory ∧
          Settled t (earlier ++ [call]) place held ∧
          (∀ first, First t (earlier ++ [call]) place first →
            first.payload.fingerprint = call.payload.fingerprint) ∧
          ∀ further, further <+: later →
            (after t (earlier ++ call :: further)).find path = .ok place ∧
              (after t (earlier ++ call :: further)).at? place = some held) ∧
      ∀ e, (call.deliver (after t earlier)).1 = .error e →
        (after t earlier).Paves ((after t earlier).start call.dir) (route call.dir)
          (after t (earlier ++ [call]))) ∧
    (∀ one other : Consignment, one.payload.fingerprint ≠ other.payload.fingerprint →
      one.path ≠ other.path ∧
        ∀ (u u' : FileTree) place, u.find one.path = .ok place → u'.find other.path ≠ .ok place) ∧
    (∀ place held, t.at? place = some held → (after t calls).at? place = some held) ∧
    ∀ place held, held ≠ .directory → (after t calls).at? place = some held →
      t.at? place = some held ∨ t.at? place = none ∧ ∃ first, First t calls place first ∧
        (∃ above, place = above ++ [first.payload.fileName]) ∧
        held = .file 0o600 first.payload.bytes := by
  refine ⟨?_, ?_, fun place held => (after_grows t calls).kept place held, ?_⟩
  · rintro earlier call later rfl
    have upTo : ∀ c ∈ earlier ++ [call], Unrelated c.dir := by
      intro c member
      apply unrelated c
      rw [← List.singleton_append, ← List.append_assoc]
      exact List.mem_append_left later member
    refine ⟨fun path stored => ?_, fun e refused => ?_⟩
    · obtain ⟨same, place, held, file, settled, first, kept⟩ := settled_of_ok unoccupied upTo stored
      exact ⟨same, place, held, file, settled, first, fun further _ => kept further⟩
    · rw [after_concat]
      exact paves_of_refused refused
  · intro one other different
    refine ⟨target_ne different one.dir other.dir, fun u u' place leads leads' => ?_⟩
    exact different (fingerprint_of_place leads leads')
  · intro place held file found
    refine (settled_of_found unoccupied unrelated file found).imp_right ?_
    rintro ⟨empty, first, earliest, same⟩
    have ⟨_, _, _, serves, _⟩ := earliest
    exact ⟨empty, first, earliest, (find_target serves.2).1, same⟩

/-- A payload under a fingerprint that is not its own. -/
def sampleBuild (byte : UInt8) : Payload := ⟨⟨#[byte]⟩, ⟨Vector.replicate 32 7⟩⟩

/-- A disk that is full once a staging file is made. -/
def fullDisk : Disk where
  stop := none
  draws := [".tmpaBcDe0"]
  staging name member := ⟨['a', 'B', 'c', 'D', 'e', '0'], rfl, List.all_eq_true.1 (by decide),
    (List.mem_singleton.1 member).trans (by decide)⟩
  fault := some (.fill .empty (.other "No space left on device (os error 28)"))

/-- Three deposits under one fingerprint into one directory, of different bytes.  The first finds
the disk full. -/
def sampleRefused : Consignment := ⟨"d", sampleBuild 0, some fullDisk⟩
@[inherit_doc sampleRefused]
def sampleFirst : Consignment := ⟨"d", sampleBuild 1, none⟩
@[inherit_doc sampleRefused]
def sampleSecond : Consignment := ⟨"d/.", sampleBuild 2, none⟩

@[inherit_doc sampleRefused]
def sampleRun : List Consignment := [sampleRefused, sampleFirst, sampleSecond]

theorem sampleRun_writtenOnce :
    Unoccupied {} ∧ (∀ c ∈ sampleRun, Unrelated c.dir) ∧
      ∃ place, Settled {} sampleRun place (.file 0o600 ⟨#[1]⟩) ∧
        (after {} sampleRun).find sampleSecond.path = .ok place ∧
        (after {} sampleRun).at? place = some (.file 0o600 ⟨#[1]⟩) := by
  have unoccupied : Unoccupied {} := by
    intro above f found
    simp [FileTree.at?] at found
  have unrelated : ∀ c ∈ sampleRun, Unrelated c.dir := by
    intro c member
    simp only [sampleRun, List.mem_cons, List.not_mem_nil, or_false] at member
    rcases member with rfl | rfl | rfl <;> exact unrelated_of_size (by decide +kernel)
  obtain ⟨stored, read⟩ :
      (sampleSecond.deliver (after {} [sampleRefused, sampleFirst])).1 = .ok sampleSecond.path ∧
      (after {} sampleRun).stat sampleSecond.path = .ok (.file 0o600 ⟨#[1]⟩) := by
    decide +kernel
  obtain ⟨-, place, held, -, settled, -, kept⟩ :=
    ((writeOnce unoccupied unrelated).1 [sampleRefused, sampleFirst] sampleSecond [] rfl).1 _ stored
  obtain ⟨found, there⟩ := kept [] List.prefix_rfl
  obtain ⟨place', found', there'⟩ := stat_ok_iff.1 read
  obtain rfl : place = place' := Except.ok.inj (found.symm.trans found')
  obtain rfl : held = .file 0o600 ⟨#[1]⟩ := Option.some.inj (there.symm.trans there')
  exact ⟨unoccupied, unrelated, place, settled, found, there⟩

end Depot

end HotSwap
