/-
# HotSwap.Proofs.Settings.ConnectTimeout -- how long a connect may take

A connect timeout is given as a length of time and kept in whole milliseconds, in 64 bits.  What
is less than a millisecond is dropped, and more than 64 bits hold is the most that they hold.

`Settings.Timed` says what is kept of a length of time, and `Settings.withConnectTimeout_timed`
that just that is kept.  The settings stay usable exactly if there is a whole millisecond in it: a
positive timeout that is shorter becomes zero, and is refused as soon as the settings are looked
at (`Settings.halfMillisecond_refused`).
-/
import HotSwap.Settings.Basic

namespace HotSwap

set_option autoImplicit false

namespace Duration

/-- The whole milliseconds are what nanoseconds come to, the rest being dropped. -/
theorem millis_eq (d : Duration) : d.millis = d.totalNanos / 1000000 := by
  simp only [millis, totalNanos]
  omega

/-- Nothing is lost where milliseconds are taken for a length of time. -/
theorem totalNanos_ofMillis (ms : UInt64) : (ofMillis ms).totalNanos = ms.toNat * 1000000 := by
  have thousand : (1000 : UInt64).toNat = 1000 := rfl
  simp only [ofMillis, totalNanos, UInt64.toNat_div, thousand]
  omega

/-- How many numbers there are of 128 bits. -/
def wide : Nat := 340282366920938463463374607431768211456

/-- The milliseconds of a length of time need no more than 128 bits. -/
theorem millis_lt (d : Duration) : d.millis < wide := by
  have seconds := d.seconds.toNat_lt
  have nanos := d.nanos.isLt
  simp only [millis, wide]
  omega

end Duration

namespace Settings

/-- What is kept of a timeout. -/
theorem toNat_withConnectTimeout (s : Settings) (d : Duration) :
    (s.withConnectTimeout d).connectTimeoutMs.toNat = min d.millis maxWord := by
  have small : min d.millis maxWord < 18446744073709551616 := by
    simp only [maxWord]
    omega
  exact UInt64.toNat_ofNat_of_lt' small

/-- What is kept of a timeout, as a length of time. -/
theorem totalNanos_withConnectTimeout (s : Settings) (d : Duration) :
    (s.withConnectTimeout d).connectTimeout.totalNanos =
      min (d.totalNanos / 1000000) maxWord * 1000000 := by
  rw [connectTimeout, Duration.totalNanos_ofMillis, toNat_withConnectTimeout, Duration.millis_eq]

/-- The longest connect timeout that can be kept, in nanoseconds. -/
def longest : Nat := 18446744073709551615 * 1000000

/-- What settings are made of others by a connect timeout that is given as a length of time. -/
structure Timed (s : Settings) (d : Duration) (timed : Settings) : Prop where
  /-- Nothing but the timeout is another. -/
  others : timed = { s with connectTimeoutMs := timed.connectTimeoutMs }
  /-- A whole millisecond is wanted for a positive timeout. -/
  positive : timed.connectTimeoutMs ≠ 0 ↔ 1000000 ≤ d.totalNanos
  /-- Where the environment says nothing, the settings are accepted as they are or refused. -/
  looked : timed.withOverrides (fun _ => none) =
    if 1000000 ≤ d.totalNanos then .ok timed else .error (.invalidValue "connect_timeout_ms" "0")
  /-- Less than a millisecond is missing. -/
  near : d.totalNanos ≤ longest → timed.connectTimeout.totalNanos ≤ d.totalNanos ∧
    d.totalNanos < timed.connectTimeout.totalNanos + 1000000
  /-- What is longer than the longest is the longest. -/
  most : longest < d.totalNanos → timed.connectTimeout.totalNanos = longest
  /-- The milliseconds fit into 128 bits and what is kept of them into 64, and no more is lost
  where they are taken for a length of time again. -/
  fits : d.seconds.toNat * 1000 + d.nanos.val / 1000000 < Duration.wide ∧
    timed.connectTimeoutMs.toNat = min (d.seconds.toNat * 1000 + d.nanos.val / 1000000) maxWord ∧
    timed.connectTimeout.totalNanos = timed.connectTimeoutMs.toNat * 1000000

/-- No override, no change: the settings are only looked at. -/
theorem withOverrides_none (s : Settings) : s.withOverrides (fun _ => none) = s.validate := rfl

theorem positive_withConnectTimeout (s : Settings) (d : Duration) :
    (s.withConnectTimeout d).connectTimeoutMs ≠ 0 ↔ 1000000 ≤ d.totalNanos := by
  have kept := toNat_withConnectTimeout s d
  rw [Duration.millis_eq] at kept
  rw [Ne, ← UInt64.toNat_inj, kept]
  simp only [maxWord, UInt64.toNat_zero]
  omega

/-- **What is kept of a connect timeout.**  It is near the length of time that was given, or the
longest there is; no number on the way is too large; a longer timeout is kept no shorter; and the
settings stay usable exactly if a whole millisecond was given. -/
theorem withConnectTimeout_timed (s : Settings) :
    (∀ d, Timed s d (s.withConnectTimeout d)) ∧
      ∀ d d' : Duration, d.totalNanos ≤ d'.totalNanos →
        (s.withConnectTimeout d).connectTimeout.totalNanos ≤
          (s.withConnectTimeout d').connectTimeout.totalNanos := by
  constructor
  · intro d
    have nanos := totalNanos_withConnectTimeout s d
    have positive := positive_withConnectTimeout s d
    refine ⟨rfl, positive, ?_, ?_, ?_, d.millis_lt,
      toNat_withConnectTimeout s d, Duration.totalNanos_ofMillis _⟩
    · rw [withOverrides_none, validate]
      by_cases whole : 1000000 ≤ d.totalNanos
      · rw [if_neg (positive.2 whole), if_pos whole]
      · rw [if_pos (Decidable.not_not.1 (mt positive.1 whole)), if_neg whole]
    · intro within
      rw [nanos]
      simp only [longest, maxWord] at within ⊢
      omega
    · intro beyond
      rw [nanos]
      simp only [longest, maxWord] at beyond ⊢
      omega
  · intro d d' le
    rw [totalNanos_withConnectTimeout, totalNanos_withConnectTimeout]
    omega

/-- Half a millisecond is no timeout that can be used. -/
theorem halfMillisecond_refused :
    0 < (⟨0, 500000⟩ : Duration).totalNanos ∧ ({} : Settings).connectTimeoutMs ≠ 0 ∧
      (({} : Settings).withConnectTimeout ⟨0, 500000⟩).connectTimeoutMs = 0 ∧
      (({} : Settings).withConnectTimeout ⟨0, 500000⟩).withOverrides (fun _ => none) =
        .error (.invalidValue "connect_timeout_ms" "0") := by
  refine ⟨?_, ?_, ?_, ?_⟩
  · decide
  · decide
  · decide
  · rfl

end Settings

end HotSwap
