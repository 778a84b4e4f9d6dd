import Aegis.Library.Calendar
import Aegis.Library.Text

/-! # Deterministic payout keys

`PayoutIdempotencyService.buildKey`. -/

namespace Aegis.Idempotency

open Calendar Text

/-- The largest time, in seconds, that a `Date` can hold. -/
def maxDateSeconds : ℤ := 8640000000000

/-- The `YYYYMMDD` part of the window; a `Date` out of range prints `NaN` fields. -/
def dayWindow (eventTimestamp : ℤ) : String :=
  if eventTimestamp.natAbs ≤ maxDateSeconds then
    let date := civilFromDays (eventTimestamp / 86400)
    toString date.year ++ padStart (toString date.month) 2 '0' ++
      padStart (toString date.day) 2 '0'
  else "NaNNaNNaN"

def hourOfDay (eventTimestamp : ℤ) : ℕ := (eventTimestamp % 86400 / 3600).toNat

/-- The `HH` part of the window. -/
def hourWindow (eventTimestamp : ℤ) : String :=
  if eventTimestamp.natAbs ≤ maxDateSeconds then
    padStart (toString (hourOfDay eventTimestamp)) 2 '0'
  else "NaN"

/-- The disruption time window, `YYYYMMDD_HH`. -/
def window (eventTimestamp : ℤ) : String :=
  dayWindow eventTimestamp ++ "_" ++ hourWindow eventTimestamp

def claimIdOf (policyId disruptionEventId : String) : String :=
  policyId ++ "_" ++ disruptionEventId

def buildKey (sha256 : String → String) (claimId : String) (eventTimestamp : ℤ) : String :=
  sha256 (claimId ++ "_" ++ window eventTimestamp)

example : window 1709164799 = "20240228_23" := by decide

/-! ## What a key determines -/

theorem underscore_notMem_hourWindow (t : ℤ) : '_' ∉ (hourWindow t).toList := by
  unfold hourWindow
  split
  · intro h
    rcases mem_padStart h with h | h
    · exact absurd h (by decide)
    · exact notMem_repr (by decide) h
  · decide

theorem underscore_notMem_dayWindow (t : ℤ) : '_' ∉ (dayWindow t).toList := by
  unfold dayWindow
  split
  · have hpad : ∀ n : ℕ, '_' ∉ (padStart (toString n) 2 '0').toList := by
      intro n h
      rcases mem_padStart h with h | h
      · exact absurd h (by decide)
      · exact notMem_repr (by decide) h
    simp only [String.toList_append, List.mem_append, not_or]
    exact ⟨⟨notMem_int_repr (by decide) (by decide), hpad _⟩, hpad _⟩
  · decide

/-- The claim and the window can be read back from a key, whatever the event id, when
the hash has no collisions and policy ids contain no separator. -/
theorem buildKey_inj {sha256 : String → String} (hsha : Function.Injective sha256)
    {policyId policyId' disruptionEventId disruptionEventId' : String} {t t' : ℤ}
    (hp : '_' ∉ policyId.toList) (hp' : '_' ∉ policyId'.toList) :
    buildKey sha256 (claimIdOf policyId disruptionEventId) t =
        buildKey sha256 (claimIdOf policyId' disruptionEventId') t' ↔
      policyId = policyId' ∧ disruptionEventId = disruptionEventId' ∧ window t = window t' := by
  constructor
  · intro h
    have hbase := hsha h
    simp only [claimIdOf, window, ← String.append_assoc] at hbase
    obtain ⟨hfront, hhour⟩ := (append_sep_inj_right (by decide)
      (underscore_notMem_hourWindow t) (underscore_notMem_hourWindow t')).mp hbase
    obtain ⟨hclaim, hday⟩ := (append_sep_inj_right (by decide)
      (underscore_notMem_dayWindow t) (underscore_notMem_dayWindow t')).mp hfront
    obtain ⟨hpolicy, hevent⟩ := (append_sep_inj_left (by decide) hp hp').mp hclaim
    exact ⟨hpolicy, hevent, by rw [window, window, hday, hhour]⟩
  · rintro ⟨rfl, rfl, h⟩
    rw [buildKey, buildKey, h]

end Aegis.Idempotency
