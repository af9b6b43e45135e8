/-
# HotSwap.Proofs.Files.AppPrivate -- a package stays below its root

A payload directory that is private to an application is made of a root, the package and one
name more.  What is put behind a root can lead away from it: an absolute path stands for itself,
and two dots lead up.  So a package has to be read as one name and nothing else, and it is read as
a path, in which slashes and single dots behind a name do not count.

`Path.Names` says which texts are read as one name: the name, with nothing behind it but slashes
and dots that add no component (`Path.components_eq_name_iff`).  `Path.Strays` lists all others.
`PayloadDir.resolve_belowRoot` says that just the first are resolved, to a directory whose
components are those of the root and two more, however the root is written.
-/
import HotSwap.Proofs.Files.PayloadName
import HotSwap.Settings.Basic

namespace HotSwap

set_option autoImplicit false

namespace Path

/-- A name of one component that leads down. -/
structure OneName (name : String) : Prop where
  named : name ≠ ""
  plain : '/' ∉ name.toList
  here : name ≠ "."
  up : name ≠ ".."

/-- Slashes and dots that add no component to a path they stand behind. -/
inductive Trailing : List Char → Prop where
  | nil : Trailing []
  | slash {rest : List Char} (behind : Trailing rest) : Trailing ('/' :: rest)
  | here {rest : List Char} (behind : Trailing rest) : Trailing ('/' :: '.' :: rest)

/-- A path that says one name, perhaps with slashes and dots behind it. -/
def Names (path name : String) : Prop :=
  OneName name ∧ ∃ tail, Trailing tail ∧ path.toList = name.toList ++ tail

/-- The segments of a path that lead down. -/
def names (path : String) : List String := (segments path).filter fun s => s != "." && s != ".."

/-- The paths that say no single name. -/
inductive Strays (path : String) : Prop where
  | empty (nothing : path = "")
  | here (only : path = ".")
  | absolute (begins : ['/'] <+: path.toList)
  | fromHere (begins : ['.', '/'] <+: path.toList)
  | up (member : ".." ∈ segments path)
  | several (more : 2 ≤ (names path).length)

/-! ## Pieces -/

/-- A path is its pieces with slashes between them, and the pieces have none. -/
theorem pieces_eq_cons_iff {path first : List Char} {more : List (List Char)} :
    pieces path = first :: more ↔
      path = first ++ more.flatMap ('/' :: ·) ∧ ∀ piece ∈ first :: more, '/' ∉ piece := by
  constructor
  · intro split
    induction path generalizing first more with
    | nil =>
        obtain ⟨rfl, rfl⟩ : first = [] ∧ more = [] := by simpa [pieces, eq_comm] using split
        simp
    | cons c rest ih =>
        obtain ⟨next, others, behind⟩ := List.exists_cons_of_ne_nil (pieces_ne_nil rest)
        obtain ⟨joined, plain⟩ := ih behind
        by_cases slash : c = '/'
        · obtain ⟨rfl, rfl⟩ : first = [] ∧ more = next :: others := by
            simpa [pieces, slash, behind, eq_comm] using split
          exact ⟨by simp [slash, joined], List.forall_mem_cons.2 ⟨by simp, plain⟩⟩
        · obtain ⟨rfl, rfl⟩ : first = c :: next ∧ more = others := by
            simpa [pieces, slash, behind, eq_comm] using split
          obtain ⟨own, rest⟩ := List.forall_mem_cons.1 plain
          exact ⟨by simp [joined], List.forall_mem_cons.2 ⟨by simp [Ne.symm slash, own], rest⟩⟩
  · rintro ⟨rfl, plain⟩
    induction more generalizing first with
    | nil => simpa using pieces_of_plain (plain first (by simp))
    | cons next others ih =>
        obtain ⟨own, rest⟩ := List.forall_mem_cons.1 plain
        rw [List.flatMap_cons, List.cons_append, pieces_append_slash, pieces_of_plain own, ih rest]
        rfl

/-- A piece that adds no component behind others. -/
def Idle (piece : List Char) : Prop := piece = [] ∨ piece = ['.']

/-- What may trail are the pieces that add nothing. -/
theorem trailing_iff {tail : List Char} :
    Trailing tail ↔ ∃ more : List (List Char),
      tail = more.flatMap ('/' :: ·) ∧ ∀ piece ∈ more, Idle piece := by
  constructor
  · intro trailing
    induction trailing with
    | nil => exact ⟨[], rfl, nofun⟩
    | slash behind ih =>
        obtain ⟨more, rfl, idle⟩ := ih
        exact ⟨[] :: more, rfl, List.forall_mem_cons.2 ⟨.inl rfl, idle⟩⟩
    | here behind ih =>
        obtain ⟨more, rfl, idle⟩ := ih
        exact ⟨['.'] :: more, rfl, List.forall_mem_cons.2 ⟨.inr rfl, idle⟩⟩
  · rintro ⟨more, rfl, idle⟩
    induction more with
    | nil => exact .nil
    | cons piece more ih =>
        obtain ⟨own, rest⟩ := List.forall_mem_cons.1 idle
        rcases own with rfl | rfl
        · exact .slash (ih rest)
        · exact .here (ih rest)

/-! ## Components -/

/-- The pieces behind the first that add a component. -/
def adding (more : List (List Char)) : List (List Char) :=
  more.filter fun piece => piece != [] && piece != ['.']

theorem adding_eq_nil_iff {more : List (List Char)} :
    adding more = [] ↔ ∀ piece ∈ more, Idle piece := by
  simp [adding, Idle, List.filter_eq_nil_iff, Classical.or_iff_not_imp_left]

theorem ofList_eq_dot_iff {piece : List Char} : String.ofList piece = "." ↔ piece = ['.'] := by
  rw [← String.toList_inj, String.toList_ofList]
  rfl

theorem filter_ofList (more : List (List Char)) :
    ((more.filter fun piece => !piece.isEmpty).map String.ofList).filter (· != ".") =
      (adding more).map String.ofList := by
  rw [List.filter_map, List.filter_filter, adding]
  refine congrArg (List.map String.ofList) (List.filter_congr fun piece _ => ?_)
  rw [Bool.eq_iff_iff]
  simp [ofList_eq_dot_iff, and_comm]

section Split

variable {path : String} {first : List Char} {more : List (List Char)}

theorem toList_of_split (split : pieces path.toList = first :: more) :
    path.toList = first ++ more.flatMap ('/' :: ·) := (pieces_eq_cons_iff.1 split).1

/-- A path whose first piece is empty is empty or absolute. -/
theorem absolute_of_split (split : pieces path.toList = [] :: more) :
    path = "" ∨ isAbsolute path = true ∧ ['/'] <+: path.toList := by
  have chars := toList_of_split split
  cases more with
  | nil => exact .inl (by simpa using chars)
  | cons piece more =>
      refine .inr ⟨by simp [isAbsolute, chars], ?_⟩
      exact ⟨piece ++ more.flatMap ('/' :: ·), by simp [chars]⟩

variable (split : pieces path.toList = first :: more) (some : first ≠ [])

include split some

theorem isAbsolute_of_split : isAbsolute path = false := by
  obtain ⟨c, rest, rfl⟩ := List.exists_cons_of_ne_nil some
  have plain := (pieces_eq_cons_iff.1 split).2 (c :: rest) (by simp)
  have other : c ≠ '/' := fun slash => plain (by simp [slash])
  simp [isAbsolute, toList_of_split split, other]

theorem segments_of_split :
    segments path =
      String.ofList first :: (more.filter fun piece => !piece.isEmpty).map String.ofList := by
  simp [segments, split, some]

/-- How a path is read whose first piece is not empty. -/
theorem components_of_split :
    components path =
      (if first = ['.'] then .here else component (String.ofList first)) ::
        (adding more).map fun piece => component (String.ofList piece) := by
  rw [components, isAbsolute_of_split split some, segments_of_split split some]
  by_cases here : first = ['.'] <;>
    simp [ofList_eq_dot_iff, here, filter_ofList]

/-- The segments but "here" of a path that does not begin with it. -/
theorem filter_segments_of_split (here : first ≠ ['.']) :
    (segments path).filter (· != ".") =
      String.ofList first :: (adding more).map String.ofList := by
  rw [segments_of_split split some]
  simp [ofList_eq_dot_iff, here, filter_ofList]

end Split

/-! ## One name -/

section One

variable {path name : String}

theorem OneName.toList_ne_nil (one : OneName name) : name.toList ≠ [] := by
  simpa using one.named

theorem OneName.toList_ne_dot (one : OneName name) : name.toList ≠ ['.'] :=
  fun dot => one.here (String.toList_inj.1 dot)

/-- A path says one name if that is its first piece and no other adds a component. -/
theorem names_iff_split :
    Names path name ↔ OneName name ∧
      ∃ more, pieces path.toList = name.toList :: more ∧ adding more = [] := by
  constructor
  · rintro ⟨one, tail, trailing, joined⟩
    obtain ⟨more, rfl, idle⟩ := trailing_iff.1 trailing
    have plain : ∀ piece ∈ name.toList :: more, '/' ∉ piece := by
      refine List.forall_mem_cons.2 ⟨one.plain, fun piece member => ?_⟩
      rcases idle piece member with rfl | rfl <;> simp
    exact ⟨one, more, pieces_eq_cons_iff.2 ⟨joined, plain⟩, adding_eq_nil_iff.2 idle⟩
  · rintro ⟨one, more, split, alone⟩
    exact ⟨one, _, trailing_iff.2 ⟨more, rfl, adding_eq_nil_iff.1 alone⟩, toList_of_split split⟩

/-- A first piece that leads down is the name that is said, if no other adds a component. -/
theorem names_of_split {first : List Char} {more : List (List Char)}
    (split : pieces path.toList = first :: more) (some : first ≠ []) (here : first ≠ ['.'])
    (up : String.ofList first ≠ "..") (alone : adding more = []) :
    Names path (String.ofList first) := by
  have plain := (pieces_eq_cons_iff.1 split).2 first (List.mem_cons_self ..)
  refine names_iff_split.2 ⟨⟨?_, ?_, ?_, up⟩, more, ?_, alone⟩
  · simpa using some
  · simpa using plain
  · exact fun dot => here (ofList_eq_dot_iff.1 dot)
  · simpa using split

/-- **Just the texts that say one name are read as that name.** -/
theorem components_eq_name_iff : components path = [.name name] ↔ Names path name := by
  constructor
  · intro read
    obtain ⟨first, more, split⟩ := List.exists_cons_of_ne_nil (pieces_ne_nil path.toList)
    by_cases some : first = []
    · subst some
      rcases absolute_of_split split with rfl | ⟨absolute, -⟩
      · cases read
      · simp [components, absolute] at read
    rw [components_of_split split some, List.cons_eq_cons, List.map_eq_nil_iff] at read
    obtain ⟨own, alone⟩ := read
    split at own
    · cases own
    rename_i here
    unfold component at own
    split at own
    · cases own
    rename_i up
    obtain rfl := Component.name.inj own
    exact names_of_split split some here up alone
  · intro names
    obtain ⟨one, more, split, alone⟩ := names_iff_split.1 names
    rw [components_of_split split one.toList_ne_nil, alone, if_neg one.toList_ne_dot,
      String.ofList_toList, component, if_neg one.up]
    rfl

/-! ## Other paths -/

theorem Names.filter_segments (said : Names path name) :
    (segments path).filter (· != ".") = [name] := by
  obtain ⟨one, more, split, alone⟩ := names_iff_split.1 said
  rw [filter_segments_of_split split one.toList_ne_nil one.toList_ne_dot, alone,
    String.ofList_toList]
  rfl

theorem names_eq_filter (path : String) :
    names path = ((segments path).filter (· != ".")).filter (· != "..") := by
  rw [List.filter_filter, names]
  exact List.filter_congr fun s _ => Bool.and_comm _ _

/-- A path that strays says no name. -/
theorem Strays.not_names (strays : Strays path) (name : String) : ¬ Names path name := by
  intro said
  have leading := said.filter_segments
  obtain ⟨one, more, split, -⟩ := names_iff_split.1 said
  cases strays with
  | empty nothing =>
      rw [nothing] at split
      exact one.toList_ne_nil (List.cons.inj split).1.symm
  | here only =>
      rw [only] at split
      exact one.toList_ne_dot (List.cons.inj split).1.symm
  | absolute begins =>
      obtain ⟨rest, begins⟩ := begins
      have relative := isAbsolute_of_split split one.toList_ne_nil
      simp [isAbsolute, ← begins] at relative
  | fromHere begins =>
      obtain ⟨rest, begins⟩ := begins
      rw [← begins] at split
      have first := (pieces_append_slash ['.'] rest).symm.trans split
      exact one.toList_ne_dot (List.cons.inj first).1.symm
  | up member =>
      have member : ".." ∈ (segments path).filter (· != ".") := List.mem_filter.2 ⟨member, rfl⟩
      rw [leading] at member
      exact one.up (List.mem_singleton.1 member).symm
  | several many =>
      have few := List.length_filter_le (· != "..") [name]
      rw [← leading, ← names_eq_filter, leading, List.length_singleton] at few
      omega

/-- A path that leads down only and says no name says several. -/
theorem several_of_not_names {first : List Char} {more : List (List Char)}
    (split : pieces path.toList = first :: more) (some : first ≠ []) (here : first ≠ ['.'])
    (down : ".." ∉ segments path) (other : ∀ name, ¬ Names path name) :
    2 ≤ (names path).length := by
  have leading := filter_segments_of_split split some here
  have apart : ∀ s ∈ String.ofList first :: (adding more).map String.ofList, s ≠ ".." := by
    rintro s member rfl
    rw [← leading] at member
    exact down (List.mem_filter.1 member).1
  have further : adding more ≠ [] := fun alone =>
    other _ (names_of_split split some here (apart _ (List.mem_cons_self ..)) alone)
  rw [names_eq_filter, leading, List.filter_eq_self.2 fun s member => by simpa using apart s member,
    List.length_cons, List.length_map]
  exact Nat.succ_le_succ (List.length_pos_iff.2 further)

/-- Every other text is one of those that stray. -/
theorem strays_iff : Strays path ↔ ∀ name, ¬ Names path name := by
  refine ⟨Strays.not_names, fun other => ?_⟩
  obtain ⟨first, more, split⟩ := List.exists_cons_of_ne_nil (pieces_ne_nil path.toList)
  by_cases some : first = []
  · subst some
    rcases absolute_of_split split with rfl | ⟨-, begins⟩
    · exact .empty rfl
    · exact .absolute begins
  by_cases here : first = ['.']
  · have chars := toList_of_split split
    cases more with
    | nil => exact .here (String.toList_inj.1 (by simpa [here] using chars))
    | cons piece more => exact .fromHere ⟨piece ++ more.flatMap ('/' :: ·), by simp [chars, here]⟩
  by_cases up : ".." ∈ segments path
  · exact .up up
  · exact .several (several_of_not_names split some here up other)

end One

end Path

namespace PayloadDir

variable (root package : String)

theorem resolve_eq_some_iff (dir : String) :
    (appPrivate root).resolve package = some dir ↔
      ∃ name, Path.Names package name ∧
        dir = Path.join (Path.join root name) subdirectory := by
  simp only [resolve, ← Path.components_eq_name_iff]
  split
  · rename_i name read
    simp [read, eq_comm]
  · rename_i other
    simp only [reduceCtorEq, false_iff, not_exists, not_and]
    exact fun name read => absurd read (other name)

/-- **What is private to an application lies below its root.**  A package is resolved just if it
says one name, and then to a directory that is the root with that name and one more behind it; a
package that strays is not resolved. -/
theorem resolve_belowRoot :
    (((appPrivate root).resolve package).isSome = true ↔ ∃ name, Path.Names package name) ∧
      (∀ name dir, Path.Names package name → (appPrivate root).resolve package = some dir →
        Path.components dir = Path.components root ++ [.name name, .name ".studio"]) ∧
      ((appPrivate root).resolve package = none ↔ Path.Strays package) := by
  refine ⟨?_, ?_, ?_⟩
  · simp only [Option.isSome_iff_exists, resolve_eq_some_iff]
    exact ⟨fun ⟨_, name, names, _⟩ => ⟨name, names⟩, fun ⟨name, names⟩ => ⟨_, name, names, rfl⟩⟩
  · intro name dir names resolved
    obtain ⟨other, names', rfl⟩ := (resolve_eq_some_iff root package dir).1 resolved
    have same := (Path.components_eq_name_iff.2 names).symm.trans
      (Path.components_eq_name_iff.2 names')
    obtain rfl : name = other := by simpa using same
    obtain ⟨⟨named, plain, here, up⟩, -⟩ := names
    rw [Path.components_join _ (by decide) (by decide) (by decide),
      Path.components_join _ plain named ⟨here, up⟩]
    simp [subdirectory]
  · rw [Path.strays_iff, Option.eq_none_iff_forall_ne_some]
    simp only [ne_eq, resolve_eq_some_iff, not_exists, not_and]
    exact ⟨fun none name names => none _ name names rfl,
      fun none _ name names => absurd names (none name)⟩

/-- A name with slashes and a dot behind it, and the same behind a dot. -/
theorem dotted_belowRoot :
    ((appPrivate "/data/data").resolve "app.one//./" = some "/data/data/app.one/.studio" ∧
        Path.components "/data/data/app.one/.studio" =
          Path.components "/data/data" ++ [.name "app.one", .name ".studio"]) ∧
      (appPrivate "/data/data").resolve "./app.one" = none := by
  have named : Path.Names "app.one//./" "app.one" :=
    ⟨⟨by decide, by decide, by decide, by decide⟩, ['/', '/', '.', '/'],
      .slash (.here (.slash .nil)), by decide⟩
  have resolved : (appPrivate "/data/data").resolve "app.one//./" =
      some "/data/data/app.one/.studio" := by decide
  have strays : Path.Strays "./app.one" := .fromHere ⟨"app.one".toList, by decide⟩
  obtain ⟨-, below, -⟩ := resolve_belowRoot "/data/data" "app.one//./"
  obtain ⟨-, -, refused⟩ := resolve_belowRoot "/data/data" "./app.one"
  exact ⟨⟨resolved, below _ _ named resolved⟩, refused.2 strays⟩

end PayloadDir

end HotSwap
