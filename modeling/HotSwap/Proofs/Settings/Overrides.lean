/-
# HotSwap.Proofs.Settings.Overrides -- what the environment makes of the settings

The environment may say where the controller listens, how long a connect may take and where
payloads are kept, each or none of them.  A timeout is a text from outside: it has to be the
numeral of a number of 64 bits, with blanks around it or not, and whichever timeout counts in the
end has to be positive, also one that the environment leaves as it was.

`Settings.Effective` says which timeout counts, and `Settings.Overridden` what comes of the
settings: the three ways there are.  `Settings.withOverrides_settled` says that just that comes of
them, and for which texts they are accepted.
-/
import HotSwap.Proofs.Text.Decimal

namespace HotSwap.Settings

set_option autoImplicit false

/-- The number that a text holds, with blanks around it or not. -/
def Says (text : String) (n : Nat) : Prop :=
  ∃ numeral, Text.Trims text.toList numeral ∧ Text.Numeral numeral n

/-- The timeout that counts: the one that the environment says, and otherwise that of the
settings. -/
inductive Effective (base : Settings) : Option String → UInt64 → Prop where
  | kept : Effective base none base.connectTimeoutMs
  | said {text : String} {ms : UInt64} (number : Says text ms.toNat) : Effective base (some text) ms

variable (base : Settings) (lookup : String → Option String)

/-- The settings with all that the environment says, where it is known which timeout counts. -/
def replaced (ms : UInt64) : Settings :=
  { socketPath := (lookup socketKey).getD base.socketPath
    connectTimeoutMs := ms
    payloadDir := ((lookup payloadDirKey).map .fixed).getD base.payloadDir
    log := base.log }

/-- What comes of settings where the environment may say otherwise. -/
inductive Overridden : Except SettingsError Settings → Prop where
  /-- A positive timeout counts, and every other setting is the environment's or as it was. -/
  | taken {ms : UInt64} (timeout : Effective base (lookup timeoutKey) ms) (positive : ms ≠ 0) :
      Overridden (.ok (replaced base lookup ms))
  /-- A timeout that is no number of 64 bits is shown as it was said. -/
  | unreadable {text : String} (told : lookup timeoutKey = some text)
      (other : ∀ n, Says text n → maxWord < n) :
      Overridden (.error (.invalidValue timeoutKey text))
  /-- No timeout is zero, whoever says so. -/
  | zero (timeout : Effective base (lookup timeoutKey) 0) :
      Overridden (.error (.invalidValue "connect_timeout_ms" "0"))

section Timeout

variable {text : String}

theorem says_iff {n : Nat} : Says text n ↔ Text.Numeral (Text.trimChars text.toList) n := by
  constructor
  · rintro ⟨numeral, trims, value⟩
    rw [Text.trims_iff.1 trims]
    exact value
  · intro value
    exact ⟨_, Text.trims_trimChars _, value⟩

/-- A text that says a number of 64 bits is read as that number. -/
theorem word?_of_said {ms : UInt64} (number : Says text ms.toNat) :
    word? (Text.trimChars text.toList) = some ms := word?_eq_some_iff.2 (says_iff.1 number)

theorem says_of_word? {ms : UInt64} (read : word? (Text.trimChars text.toList) = some ms) :
    Says text ms.toNat := says_iff.2 (word?_eq_some_iff.1 read)

theorem word?_eq_none_iff_beyond :
    word? (Text.trimChars text.toList) = none ↔ ∀ n, Says text n → maxWord < n := by
  simp only [word?_eq_none_iff, says_iff]

end Timeout

variable {base : Settings} {lookup : String → Option String}

/-- The timeout is settled first; all else is put in place, and looked at, behind it. -/
theorem withOverrides_eq :
    base.withOverrides lookup =
      match lookup timeoutKey with
      | none => (replaced base lookup base.connectTimeoutMs).validate
      | some text =>
          match word? (Text.trimChars text.toList) with
          | none => .error (.invalidValue timeoutKey text)
          | some ms => (replaced base lookup ms).validate := by
  unfold withOverrides overrideTimeout replaced
  cases lookup timeoutKey with
  | none => cases lookup socketKey <;> cases lookup payloadDirKey <;> rfl
  | some text =>
      simp only
      cases word? (Text.trimChars text.toList) with
      | none => cases lookup socketKey <;> rfl
      | some ms =>
          cases lookup socketKey <;> cases lookup payloadDirKey <;> rfl

/-- Whatever timeout counts, the settings with it are what is looked at. -/
theorem withOverrides_of_effective {ms : UInt64}
    (timeout : Effective base (lookup timeoutKey) ms) :
    base.withOverrides lookup = (replaced base lookup ms).validate := by
  rw [withOverrides_eq]
  cases told : lookup timeoutKey with
  | none =>
      rw [told] at timeout
      cases timeout
      rfl
  | some text =>
      rw [told] at timeout
      cases timeout with
      | said number => simp only [word?_of_said number]

theorem withOverrides_of_unreadable {text : String} (told : lookup timeoutKey = some text)
    (other : ∀ n, Says text n → maxWord < n) :
    base.withOverrides lookup = .error (.invalidValue timeoutKey text) := by
  rw [withOverrides_eq, told]
  simp only [word?_eq_none_iff_beyond.2 other]

/-- Settings are refused for a timeout of zero and for nothing else. -/
theorem validate_replaced (ms : UInt64) :
    (replaced base lookup ms).validate =
      if ms = 0 then .error (.invalidValue "connect_timeout_ms" "0")
      else .ok (replaced base lookup ms) := rfl

theorem Overridden.of_effective {ms : UInt64} (timeout : Effective base (lookup timeoutKey) ms) :
    Overridden base lookup (replaced base lookup ms).validate := by
  rw [validate_replaced]
  split
  · rename_i none
    subst none
    exact .zero timeout
  · rename_i positive
    exact .taken timeout positive

/-- What comes of the settings is one of the three. -/
theorem overridden_withOverrides : Overridden base lookup (base.withOverrides lookup) := by
  cases told : lookup timeoutKey with
  | none =>
      have timeout : Effective base (lookup timeoutKey) base.connectTimeoutMs := by
        rw [told]
        exact .kept
      rw [withOverrides_of_effective timeout]
      exact .of_effective timeout
  | some text =>
      cases read : word? (Text.trimChars text.toList) with
      | none =>
          have other := word?_eq_none_iff_beyond.1 read
          rw [withOverrides_of_unreadable told other]
          exact .unreadable told other
      | some ms =>
          have timeout : Effective base (lookup timeoutKey) ms := by
            rw [told]
            exact .said (says_of_word? read)
          rw [withOverrides_of_effective timeout]
          exact .of_effective timeout

theorem withOverrides_eq_iff {result : Except SettingsError Settings} :
    base.withOverrides lookup = result ↔ Overridden base lookup result := by
  constructor
  · rintro rfl
    exact overridden_withOverrides
  · intro overridden
    cases overridden with
    | taken timeout positive =>
        rw [withOverrides_of_effective timeout, validate_replaced, if_neg positive]
    | unreadable told other => exact withOverrides_of_unreadable told other
    | zero timeout =>
        rw [withOverrides_of_effective timeout, validate_replaced, if_pos rfl]

/-- Settings are accepted exactly if a positive timeout counts. -/
theorem accepted_iff :
    (∃ s, base.withOverrides lookup = .ok s) ↔
      ∃ ms, Effective base (lookup timeoutKey) ms ∧ ms ≠ 0 := by
  constructor
  · rintro ⟨s, accepted⟩
    cases withOverrides_eq_iff.1 accepted with
    | taken timeout positive => exact ⟨_, timeout, positive⟩
  · rintro ⟨ms, timeout, positive⟩
    exact ⟨_, withOverrides_eq_iff.2 (.taken timeout positive)⟩

/-- The timeouts that count and are positive. -/
theorem effective_iff {override : Option String} :
    (∃ ms, Effective base override ms ∧ ms ≠ 0) ↔
      (override = none ∧ base.connectTimeoutMs ≠ 0) ∨
        ∃ text n, override = some text ∧ Says text n ∧ 1 ≤ n ∧ n ≤ maxWord := by
  constructor
  · rintro ⟨ms, timeout, positive⟩
    cases timeout with
    | kept => exact .inl ⟨rfl, positive⟩
    | @said text _ number =>
        have some : ms.toNat ≠ 0 := fun none => positive (UInt64.toNat_inj.1 none)
        refine .inr ⟨text, ms.toNat, rfl, number, ?_, ?_⟩
        · omega
        · exact Nat.le_of_lt_succ ms.toNat_lt
  · rintro (⟨rfl, positive⟩ | ⟨text, n, rfl, number, some, small⟩)
    · exact ⟨_, .kept, positive⟩
    · have value : (UInt64.ofNat n).toNat = n :=
        UInt64.toNat_ofNat_of_lt' (Nat.lt_succ_of_le small)
      refine ⟨UInt64.ofNat n, .said (by rwa [value]), ?_⟩
      intro none
      rw [none] at value
      simp only [UInt64.toNat_zero] at value
      omega

/-- **The environment overrides one setting at a time, and no timeout is zero.**  Settings are
accepted exactly if nothing is said about the timeout and theirs is positive, or if what is said
is the numeral of a positive number of 64 bits, with blanks around it or not.  What comes of them
is in every case what `Overridden` says. -/
theorem withOverrides_settled (base : Settings) (lookup : String → Option String) :
    ((∃ s, base.withOverrides lookup = .ok s) ↔
        (lookup timeoutKey = none ∧ base.connectTimeoutMs ≠ 0) ∨
          ∃ text n, lookup timeoutKey = some text ∧ Says text n ∧ 1 ≤ n ∧ n ≤ maxWord) ∧
      ∀ result, base.withOverrides lookup = result ↔ Overridden base lookup result := by
  constructor
  · rw [accepted_iff, effective_iff]
  · intro result
    exact withOverrides_eq_iff

/-- Blanks of any kind, a plus and leading zeros make no difference. -/
example : ({} : Settings).withOverrides
    (fun key => if key = timeoutKey then some "\u3000+0042\n" else none) =
      .ok { connectTimeoutMs := 42 } := by rfl

end HotSwap.Settings
