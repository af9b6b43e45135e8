/-
# HotSwap.Proofs.Files.ContentName -- an artifact is known by its name

The file of a payload is named by its fingerprint and by nothing else.  So two builds never share
a file, and whose file it is can be read off the name.  The digits of a name may be of either
case: then it is not the name that is written for its fingerprint, but it is read as that.

`Fingerprint.Named` says which texts are such names, and `Fingerprint.contentAddressed` that just
these are read, as the fingerprint whose own name has the same digits in lowercase.
-/
import HotSwap.Payload
import HotSwap.Proofs.Text.HexForm

namespace HotSwap.Fingerprint

set_option autoImplicit false

/-- A name of 64 hexadecimal digits, of either case, between the ends that every name has. -/
structure Named (name : String) (digits : List Char) : Prop where
  count : digits.length = 64
  hexadecimal : ∀ c ∈ digits, c.isHexDigit = true
  spelled : name = "instruments-" ++ String.ofList digits ++ ".jar"

/-! ## What stands between the ends -/

theorem stem?_of_spelled (stem : String) : stem? (fileStart ++ stem ++ fileEnd) = some stem := by
  have chars : (fileStart ++ stem ++ fileEnd).toList =
      fileStart.toList ++ (stem.toList ++ fileEnd.toList) := by
    simp only [String.toList_append, List.append_assoc]
  have begins : fileStart.toList.isPrefixOf (fileStart.toList ++ (stem.toList ++ fileEnd.toList)) =
      true := List.isPrefixOf_iff_prefix.2 (List.prefix_append _ _)
  have ends : fileEnd.toList.isSuffixOf (stem.toList ++ fileEnd.toList) = true :=
    List.isSuffixOf_iff_suffix.2 (List.suffix_append _ _)
  have behind : (fileStart.toList ++ (stem.toList ++ fileEnd.toList)).drop fileStart.length =
      stem.toList ++ fileEnd.toList := List.drop_left
  have length : fileEnd.toList.length = fileEnd.length := String.length_toList
  have before : (stem.toList ++ fileEnd.toList).take
      ((stem.toList ++ fileEnd.toList).length - fileEnd.length) = stem.toList := by
    rw [List.length_append, length, Nat.add_sub_cancel, List.take_left]
  simp only [stem?, chars, begins, behind, ends, before, if_true, String.ofList_toList]

theorem spelled_of_stem? {name stem : String} (found : stem? name = some stem) :
    name = fileStart ++ stem ++ fileEnd := by
  have length : fileEnd.toList.length = fileEnd.length := String.length_toList
  unfold stem? at found
  dsimp only at found
  split at found
  · rename_i begins
    obtain ⟨rest, starts⟩ := List.isPrefixOf_iff_prefix.1 begins
    have behind : name.toList.drop fileStart.length = rest := by
      rw [← starts, ← String.length_toList, List.drop_left]
    rw [behind] at found
    split at found
    · rename_i ends
      obtain ⟨middle, rfl⟩ := List.isSuffixOf_iff_suffix.1 ends
      rw [List.length_append, length, Nat.add_sub_cancel, List.take_left]
        at found
      obtain rfl := Option.some.inj found
      apply String.toList_inj.1
      rw [← starts, String.toList_append, String.toList_append, String.toList_ofList,
        List.append_assoc]
    · cases found
  · cases found

/-- What is read of a name is read of what stands between its ends. -/
theorem ofFileName?_eq_some_iff {name : String} {f : Fingerprint} :
    ofFileName? name = some f ↔
      ∃ stem, name = fileStart ++ stem ++ fileEnd ∧ parse stem = .ok f := by
  have read_iff (stem : String) : (parse stem).toOption = some f ↔ parse stem = .ok f := by
    cases parse stem with
    | error e => exact ⟨nofun, nofun⟩
    | ok g => simp [Except.toOption]
  unfold ofFileName?
  constructor
  · intro read
    split at read
    · cases read
    · rename_i stem found
      exact ⟨stem, spelled_of_stem? found, (read_iff stem).1 read⟩
  · rintro ⟨stem, rfl, read⟩
    rw [stem?_of_spelled]
    exact (read_iff stem).2 read

/-! ## Names and fingerprints -/

/-- A fingerprint is read from just the names whose digits are, in lowercase, its own. -/
theorem ofFileName?_iff_named {name : String} {f : Fingerprint} :
    ofFileName? name = some f ↔
      ∃ digits, Named name digits ∧ f.hex.toList = digits.map Char.toLower := by
  rw [ofFileName?_eq_some_iff]
  constructor
  · rintro ⟨stem, spelled, read⟩
    obtain ⟨hexadecimal, written⟩ := parse_eq_ok_iff.1 read
    refine ⟨stem.toList, ⟨?_, hexadecimal, ?_⟩, written⟩
    · rw [← List.length_map Char.toLower, ← written, length_hex]
    · rw [String.ofList_toList]
      exact spelled
  · rintro ⟨digits, ⟨count, hexadecimal, spelled⟩, written⟩
    refine ⟨String.ofList digits, spelled, ?_⟩
    rw [parse_eq_ok_iff, String.toList_ofList]
    exact ⟨hexadecimal, written⟩

theorem Named.exists_read {name : String} {digits : List Char} (named : Named name digits) :
    ∃ f, ofFileName? name = some f := by
  have hexadecimal : ∀ c ∈ (String.ofList digits).toList, c.isHexDigit = true := by
    rw [String.toList_ofList]
    exact named.hexadecimal
  have count : (String.ofList digits).toList.length = 64 := by
    rw [String.toList_ofList]
    exact named.count
  obtain ⟨f, read⟩ := exists_parse hexadecimal count
  exact ⟨f, ofFileName?_eq_some_iff.2 ⟨_, named.spelled, read⟩⟩

/-- Names differ by their digits only. -/
theorem spelled_inj {digits digits' : List Char} :
    "instruments-" ++ String.ofList digits ++ ".jar" =
      "instruments-" ++ String.ofList digits' ++ ".jar" ↔ digits = digits' := by
  rw [← String.toList_inj]
  simp

/-- A name is read as the fingerprint that it was made from. -/
theorem ofFileName?_fileName (f : Fingerprint) : ofFileName? f.fileName = some f :=
  ofFileName?_eq_some_iff.2 ⟨f.hex, rfl, f.parse_hex⟩

/-- **An artifact is known by its name.**  The name made from a fingerprint is read as it again, so
no two fingerprints share a name.  Just the names of 64 digits are read; the name made from what
is read has the same digits in lowercase, and is the same name exactly if they are lowercase. -/
theorem contentAddressed :
    (∀ f : Fingerprint, ofFileName? f.fileName = some f) ∧
      (∀ f g : Fingerprint, f.fileName = g.fileName → f = g) ∧
      ∀ name : String,
        ((ofFileName? name).isSome = true ↔ ∃ digits, Named name digits) ∧
          ∀ f digits, ofFileName? name = some f → Named name digits →
            f.fileName = "instruments-" ++ String.ofList (digits.map Char.toLower) ++ ".jar" ∧
              (f.fileName = name ↔ ∀ c ∈ digits, c.isUpper = false) := by
  refine ⟨ofFileName?_fileName, ?_, ?_⟩
  · intro f g same
    have read := ofFileName?_fileName f
    rw [same, ofFileName?_fileName] at read
    exact (Option.some.inj read).symm
  · intro name
    constructor
    · constructor
      · intro read
        obtain ⟨f, read⟩ := Option.isSome_iff_exists.1 read
        obtain ⟨digits, named, -⟩ := ofFileName?_iff_named.1 read
        exact ⟨digits, named⟩
      · rintro ⟨digits, named⟩
        exact Option.isSome_iff_exists.2 named.exists_read
    · intro f digits read named
      obtain ⟨digits', named', written⟩ := ofFileName?_iff_named.1 read
      obtain rfl := spelled_inj.1 (named.spelled.symm.trans named'.spelled)
      have own : f.fileName =
          "instruments-" ++ String.ofList (digits.map Char.toLower) ++ ".jar" := by
        rw [← written, String.ofList_toList]
        rfl
      refine ⟨own, ?_⟩
      rw [own, named.spelled, spelled_inj]
      exact map_toLower_eq_self_iff

end HotSwap.Fingerprint
