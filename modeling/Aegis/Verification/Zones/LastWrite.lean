import Aegis.Verification.Zones.CellRuns

/-! # The last computed zone state

The record is written directly and once more by each post that arrives. No writer compares
times, so the order of arrival decides. -/

namespace Aegis.Zones

open RedisState PipelineService Run

/-- The loss fraction and the label of the stored record. -/
def CellState.content (h3_cell : String) (s : CellState) : Option (Option ℚ × Option String) :=
  (s.record h3_cell).map fun entry => (entry.value.Lf, entry.value.zone_state)

/-- The record says just this, or there is none. -/
def Shows (h3_cell : String) (s : CellState) (zone : Option (ℚ × String)) : Prop :=
  s.content h3_cell = zone.map fun z => (some z.1, some z.2)

instance (h3_cell : String) (s : CellState) (zone : Option (ℚ × String)) :
    Decidable (Shows h3_cell s zone) :=
  inferInstanceAs (Decidable (_ = _))

/-- The record carries the result of the run that computed its result last. -/
def LastWins (h3_cell : String) (s : CellState) : Prop := Shows h3_cell s s.computed

instance (h3_cell : String) (s : CellState) : Decidable (LastWins h3_cell s) :=
  inferInstanceAs (Decidable (Shows _ _ _))

/-- The post that has overwritten the last direct write, after one more event. -/
def lateAfter (h3_cell : String) (late : Option ZonePost) (s : CellState) :
    CellEvent → Option ZonePost
  | .execute io _ => if writes io then none else late
  | .deliver index io =>
      ((s.pending[index]?.map Prod.fst).filter fun post =>
        reaches io post && post.h3_cell = h3_cell).or late

/-- The post that stands in the record at the end of a run, if it is one. -/
def latePost (h3_cell : String) : Option ZonePost → CellState → List CellEvent → Option ZonePost
  | late, _, [] => late
  | late, s, event :: events =>
      latePost h3_cell (lateAfter h3_cell late s event) (s.step h3_cell event) events

section Runs

variable {h3_cell : String} {s : CellState} {late : Option ZonePost}

/-- What the record shows: the late post, else the last result. -/
def shown (late : Option ZonePost) (s : CellState) : Option (ℚ × String) :=
  (late.map fun post => (post.Lf, post.zone_state)).or s.computed

theorem shows_of_record {value : ZoneState} {expiresAt : ℤ} {zone : ℚ × String}
    (hrecord : s.record h3_cell = some ⟨value, expiresAt⟩) (hLf : value.Lf = some zone.1)
    (hstate : value.zone_state = some zone.2) : Shows h3_cell s (some zone) := by
  simp [Shows, CellState.content, hrecord, hLf, hstate]

theorem shows_congr {s' : CellState} (hrecord : s'.record h3_cell = s.record h3_cell)
    (zone : Option (ℚ × String)) : Shows h3_cell s' zone ↔ Shows h3_cell s zone := by
  rw [Shows, Shows, CellState.content, CellState.content, hrecord]

theorem shows_execute (io : PipelineIo) (request : PipelineRequest)
    (h : Shows h3_cell s (shown late s)) :
    Shows h3_cell (s.execute h3_cell io request)
      (shown (lateAfter h3_cell late s (.execute io request)) (s.execute h3_cell io request)) := by
  cases executed h3_cell s io request with
  | idle hwrites hrecord hpending hevidence hcomputed =>
      have hsame : (s.execute h3_cell io request).record h3_cell = s.record h3_cell := by
        rw [CellState.record, CellState.record, hrecord]
      rw [shows_congr hsame]
      simpa [lateAfter, hwrites, shown, hcomputed] using h
  | wrote post hwrites hcell hrecord hpending hevidence hcomputed =>
      have hshown : shown (lateAfter h3_cell late s (.execute io request))
          (s.execute h3_cell io request) = some (post.Lf, post.zone_state) := by
        simp [lateAfter, hwrites, shown, hcomputed]
      rw [hshown]
      exact shows_of_record (by rw [CellState.record, hrecord, setEx, Function.update_self])
        rfl rfl

theorem shows_deliver (index : ℕ) (io : InternalStateController.PostIo)
    (h : Shows h3_cell s (shown late s)) :
    Shows h3_cell (s.deliver h3_cell index io)
      (shown (lateAfter h3_cell late s (.deliver index io)) (s.deliver h3_cell index io)) := by
  cases hpost : s.pending[index]? with
  | none =>
      rw [deliver_of_none hpost]
      simpa [lateAfter, hpost] using h
  | some entry =>
      obtain ⟨post, scored⟩ := entry
      obtain ⟨hrecord, -, hcomputed⟩ := deliver_of_some h3_cell io hpost
      by_cases hstored : reaches io post = true ∧ post.h3_cell = h3_cell
      · rw [if_pos hstored] at hrecord
        have hshown : shown (lateAfter h3_cell late s (.deliver index io))
            (s.deliver h3_cell index io) = some (post.Lf, post.zone_state) := by
          simp [lateAfter, hpost, shown, hstored, Option.filter]
        rw [hshown]
        exact shows_of_record hrecord rfl rfl
      · rw [if_neg hstored] at hrecord
        rw [shows_congr hrecord]
        have hlate : lateAfter h3_cell late s (.deliver index io) = late := by
          simp [lateAfter, hpost, Option.filter, hstored]
        simpa [hlate, shown, hcomputed] using h

/-- The run lemma: at the end the record shows the late post, else the last result. -/
theorem shows_final (events : List CellEvent) (h : Shows h3_cell s (shown late s)) :
    Shows h3_cell (final (CellState.step h3_cell) s events)
      (shown (latePost h3_cell late s events) (final (CellState.step h3_cell) s events)) := by
  induction events generalizing s late with
  | nil => exact h
  | cons event events ih =>
      refine ih ?_
      cases event with
      | execute io request => exact shows_execute io request h
      | deliver index io => exact shows_deliver index io h

theorem lastWins_iff_of_shows (h : Shows h3_cell s (shown late s)) :
    LastWins h3_cell s ↔
      ∀ post, late = some post → s.computed = some (post.Lf, post.zone_state) := by
  cases late with
  | none => exact iff_of_true h (by simp)
  | some post =>
      have hcontent : s.content h3_cell = some (some post.Lf, some post.zone_state) := h
      rw [LastWins, Shows, hcontent]
      cases s.computed with
      | none => simp
      | some zone =>
          obtain ⟨Lf, zone_state⟩ := zone
          simp [eq_comm]

end Runs

/-- After any run with a write in it, the last result stands in the record just when the post
that was stored last since the last write repeats it. -/
theorem lastWins_iff {h3_cell : String} {io : PipelineIo} (hwrites : writes io = true)
    (s : CellState) (request : PipelineRequest) (events : List CellEvent) :
    LastWins h3_cell (final (CellState.step h3_cell) s (.execute io request :: events)) ↔
      ∀ post, latePost h3_cell none (s.execute h3_cell io request) events = some post →
        (final (CellState.step h3_cell) s (.execute io request :: events)).computed =
          some (post.Lf, post.zone_state) := by
  have hstart : Shows h3_cell (s.execute h3_cell io request)
      (shown none (s.execute h3_cell io request)) := by
    cases executed h3_cell s io request with
    | idle hidle hrecord hpending hevidence hcomputed => simp [hwrites] at hidle
    | wrote post hwrote hcell hrecord hpending hevidence hcomputed =>
        have hshown : shown none (s.execute h3_cell io request) =
            some (post.Lf, post.zone_state) := by simp [shown, hcomputed]
        rw [hshown]
        exact shows_of_record (by rw [CellState.record, hrecord, setEx, Function.update_self])
          rfl rfl
  exact lastWins_iff_of_shows (shows_final events hstart)

/-! ## Two runs -/

namespace Overtaken

open Quiet

def scored (Lf : ℚ) : Option RiskAnswer := some ⟨Lf, "HIGH"⟩

/-- Two executions; the post of the first arrives after both. -/
def run (first second : ℚ) : List CellEvent :=
  [.execute (meets 0 (scored first)) request, .execute (meets 10000 (scored second)) request,
    .deliver 1 { now := 11000 }, .deliver 0 { now := 12000 }]

end Overtaken

open Quiet Overtaken in
theorem lastWins_same :
    LastWins cell (final (CellState.step cell) {} (run (8 / 10) (8 / 10))) := by
  refine (lastWins_iff (by decide +kernel) {} request _).mpr ?_
  decide +kernel

open Quiet Overtaken in
/-- The late post halts a cell that is back to normal, or opens one that is halted. -/
theorem not_lastWins :
    ¬LastWins cell (final (CellState.step cell) {} (run (8 / 10) (2 / 10))) ∧
      ¬LastWins cell (final (CellState.step cell) {} (run (2 / 10) (8 / 10))) := by
  decide +kernel

end Aegis.Zones
