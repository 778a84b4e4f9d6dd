import Aegis.Verification.Zones.CellRuns

/-! # How long a zone state lives

Without the ML service an execution reads the record and writes it back for another five
minutes; the post that follows keeps it for fifteen. -/

namespace Aegis.Zones

open RedisState PipelineService Run

/-- Once the lifetime of its score is over the record is gone. -/
def Timely (h3_cell : String) (s : CellState) : Prop :=
  ∀ t, s.evidence = some t → ∀ now, t + REDIS_ZONE_TTL * 1000 ≤ now →
    RedisState.getZoneState true now s.redis h3_cell = none

/-- A score is written in no execution after its own, and posted to the backend early enough
for the longer lifetime there. -/
def InTime (h3_cell : String) (s : CellState) : CellEvent → Prop
  | .execute io _ => writes io = true → ∀ t, s.scoreTime h3_cell io = some t → io.now ≤ t
  | .deliver index io => ∀ post t, s.pending[index]? = some (post, some t) →
      reaches io post = true → post.h3_cell = h3_cell →
      io.now + ZONE_STATE_TTL * 1000 ≤ t + REDIS_ZONE_TTL * 1000

section Steps

variable {h3_cell : String} {s : CellState}

/-- The property in terms of the expiry of the stored record. -/
theorem timely_iff : Timely h3_cell s ↔ ∀ t, s.evidence = some t → ∀ entry,
    s.record h3_cell = some entry → entry.expiresAt ≤ t + REDIS_ZONE_TTL * 1000 := by
  simp only [Timely, RedisState.getZoneState, if_true, RedisState.get, CellState.record]
  cases s.redis.zones h3_cell with
  | none => simp
  | some entry =>
      simp only [Option.bind_some, Option.some.injEq, forall_eq', ite_eq_right_iff, reduceCtorEq,
        imp_false, not_lt]
      constructor
      · intro h t ht
        exact h t ht _ le_rfl
      · intro h t ht now hnow
        exact (h t ht).trans hnow

theorem timely_of_record {evidence : Option ℤ} {value : ZoneState} {expiresAt : ℤ}
    (hevidence : s.evidence = evidence) (hrecord : s.record h3_cell = some ⟨value, expiresAt⟩) :
    Timely h3_cell s ↔ ∀ t, evidence = some t → expiresAt ≤ t + REDIS_ZONE_TTL * 1000 := by
  rw [timely_iff, hevidence, hrecord]
  simp

theorem timely_congr {s' : CellState} (hevidence : s'.evidence = s.evidence)
    (hrecord : s'.record h3_cell = s.record h3_cell) : Timely h3_cell s' ↔ Timely h3_cell s := by
  rw [timely_iff, timely_iff, hevidence, hrecord]

theorem timely_execute_iff (io : PipelineIo) (request : PipelineRequest)
    (hs : Timely h3_cell s) :
    Timely h3_cell (s.execute h3_cell io request) ↔
      InTime h3_cell s (.execute io request) := by
  cases executed h3_cell s io request with
  | idle hwrites hrecord hpending hevidence hcomputed =>
      rw [timely_congr hevidence (by rw [CellState.record, hrecord]; rfl)]
      exact iff_of_true hs (fun h => by simp [hwrites] at h)
  | wrote post hwrites hcell hrecord hpending hevidence hcomputed =>
      rw [timely_of_record hevidence (by rw [CellState.record, hrecord, setEx,
        Function.update_self])]
      simp only [InTime, hwrites, true_imp_iff, add_le_add_iff_right]

theorem timely_deliver_iff (index : ℕ) (io : InternalStateController.PostIo)
    (hs : Timely h3_cell s) :
    Timely h3_cell (s.deliver h3_cell index io) ↔ InTime h3_cell s (.deliver index io) := by
  cases hpost : s.pending[index]? with
  | none =>
      rw [deliver_of_none hpost]
      exact iff_of_true hs (fun post t h => by simp [hpost] at h)
  | some entry =>
      obtain ⟨post, scored⟩ := entry
      obtain ⟨hrecord, hevidence, -⟩ := deliver_of_some h3_cell io hpost
      by_cases hstored : reaches io post = true ∧ post.h3_cell = h3_cell
      · rw [if_pos hstored] at hrecord hevidence
        rw [timely_of_record hevidence hrecord]
        constructor
        · intro h post' t hpost' _ _
          rw [hpost] at hpost'
          cases hpost'
          exact h t rfl
        · rintro h t rfl
          exact h post t hpost hstored.1 hstored.2
      · rw [if_neg hstored] at hrecord hevidence
        rw [timely_congr hevidence hrecord]
        refine iff_of_true hs (fun post' t hpost' hreaches hcell => ?_)
        rw [hpost] at hpost'
        cases hpost'
        exact absurd ⟨hreaches, hcell⟩ hstored

end Steps

/-- The records of a run die with their scores just when no step of it writes an old score. -/
theorem always_timely_iff {h3_cell : String} {s : CellState} {events : List CellEvent}
    (hs : Timely h3_cell s) :
    Always (CellState.step h3_cell) (Timely h3_cell) s events ↔
      Along (CellState.step h3_cell) (InTime h3_cell) s events := by
  refine always_iff_along (fun s event hs => ?_) hs
  cases event with
  | execute io request => exact timely_execute_iff io request hs
  | deliver index io => exact timely_deliver_iff index io hs

/-! ## A halted cell that stays halted -/

namespace Outage

open Quiet

/-- The cell is scored at the start, and the ML service fails from then on. -/
def scored : CellState :=
  ({} : CellState).execute cell (meets 0 (some ⟨8 / 10, "HIGH"⟩)) request

theorem timely_scored : Timely cell scored := by
  have hempty : Timely cell {} := by
    intro t ht
    cases ht
  refine (timely_execute_iff _ _ hempty).mpr ?_
  intro hwrites t ht
  have hnow : ({} : CellState).scoreTime cell (meets 0 (some ⟨8 / 10, "HIGH"⟩)) = some 0 := by
    decide +kernel
  rw [hnow] at ht
  cases ht
  exact le_rfl

end Outage

open Quiet Outage in
/-- A second score in time, its post lost, and a fallback that no longer finds the record. -/
theorem always_timely_scored :
    Always (CellState.step cell) (Timely cell) scored
      [.execute (meets 200000 (some ⟨9 / 10, "HIGH"⟩)) request,
        .deliver 1 { now := 300000, redisUp := false },
        .execute (meets 600000 none) request] := by
  have hscored : scored.scoreTime cell (meets 200000 (some ⟨9 / 10, "HIGH"⟩)) = some 200000 := by
    decide +kernel
  have habsent : (((scored.execute cell (meets 200000 (some ⟨9 / 10, "HIGH"⟩)) request).deliver
      cell 1 { now := 300000, redisUp := false }).scoreTime cell (meets 600000 none)) = none := by
    decide +kernel
  refine (always_timely_iff timely_scored).mpr ⟨?_, ?_, ?_, trivial⟩
  · intro _ t ht
    obtain rfl := Option.some.inj (hscored.symm.trans ht)
    exact le_rfl
  · intro post t hpost hreaches
    simp [reaches] at hreaches
  · intro _ t ht
    cases habsent.symm.trans ht

open Quiet Outage in
/-- A fallback, and likewise the delivery of the first post, makes the record outlive its
score. -/
theorem not_always_timely :
    Timely cell scored ∧
      ¬Always (CellState.step cell) (Timely cell) scored [.execute (meets 200000 none) request] ∧
      ¬Always (CellState.step cell) (Timely cell) scored [.deliver 0 { now := 200000 }] := by
  refine ⟨timely_scored, ?_, ?_⟩
  · intro h
    exact absurd (h.last 0 (by decide +kernel) 400000 (by decide)) (by decide +kernel)
  · intro h
    exact absurd (h.last 0 (by decide +kernel) 400000 (by decide)) (by decide +kernel)

end Aegis.Zones
