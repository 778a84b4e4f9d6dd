import Aegis.Library.Run
import Aegis.Model.ZoneUpdates

/-! # State changes that are lost

The aggregator remembers a state before it has published it, and publishes differences from what
it remembers. A change whose publish fails is announced again only by another change. -/

namespace Aegis.ZoneAggregator

open Run RedisState

/-! ## The law -/

section Law

variable (s : Aggregator) (h3_cell : String)

/-- The state that was last published for the cell. -/
def lastPublished (topic : List StateChange) (h3_cell : String) : String :=
  ((topic.filter (·.h3_cell = h3_cell)).getLast?.map StateChange.new_state).getD "NORMAL"

def remembered : String := (s.zone_states h3_cell).getD "NORMAL"

/-- The last change of the cell was not published. -/
def Lost : Prop := lastPublished s.topic h3_cell ≠ remembered s h3_cell

/-- No publish between the two states failed. -/
structure Quiet (s s' : Aggregator) : Prop where
  running : s'.flush_task = true
  errors : s'.errors = s.errors

/-- After a flush without a failed publish, the cells that were answered are announced. -/
def Announced : Event → Prop
  | .ping .. => True
  | .flush io => Quiet s (periodicFlush io s) → ∀ h3_cell data,
      (h3_cell, some data) ∈ flushResults io s →
        lastPublished (periodicFlush io s).topic h3_cell = data.zone_state

/-- A publish for the cell would get through, if there is one. -/
def Delivers (io : FlushIo) (h3_cell : String) (ml_data : Option MlData) : Prop :=
  ∀ data ∈ ml_data, data.zone_state ≠ remembered s h3_cell →
    (s.kafka_producer = true ∨ io.producerStarts = true) ∧ io.sends h3_cell = true

/-- A flush that publishes without a failure finds no cell back in the state that was lost. -/
def NothingLost : Event → Prop
  | .ping .. => True
  | .flush io => s.flush_task = true →
      (∀ result ∈ flushResults io s, Delivers s io result.1 result.2) → ∀ h3_cell data,
        (h3_cell, some data) ∈ flushResults io s → Lost s h3_cell →
          data.zone_state ≠ remembered s h3_cell

end Law

@[simp] theorem lastPublished_nil (h3_cell : String) : lastPublished [] h3_cell = "NORMAL" := rfl

theorem lastPublished_append_self (topic : List StateChange) (change : StateChange) :
    lastPublished (topic ++ [change]) change.h3_cell = change.new_state := by
  simp [lastPublished]

theorem lastPublished_append_of_ne (topic : List StateChange) (change : StateChange)
    {h3_cell : String} (h : change.h3_cell ≠ h3_cell) :
    lastPublished (topic ++ [change]) h3_cell = lastPublished topic h3_cell := by
  simp [lastPublished, h]

/-! ## One result -/

section Zone

variable {io : FlushIo} {s s' : Aggregator} {h3_cell other : String} {ml_data : Option MlData}

theorem remembered_congr (h : s'.zone_states = s.zone_states) :
    remembered s' h3_cell = remembered s h3_cell := by
  rw [remembered, remembered, h]

/-- What handling one result can do. -/
inductive Handled (io : FlushIo) (s : Aggregator) (h3_cell : String) :
    Option MlData → Aggregator → Prop where
  | degraded : Handled io s h3_cell none (writeDegraded io s h3_cell)
  | unchanged (data : MlData) (hsame : data.zone_state = remembered s h3_cell) :
      Handled io s h3_cell (some data) s
  | ended (data : MlData) (hchange : data.zone_state ≠ remembered s h3_cell)
      (hproducer : s.kafka_producer = false) (hstarts : io.producerStarts = false) :
      Handled io s h3_cell (some data)
        { s with
          zone_states := Function.update s.zone_states h3_cell (some data.zone_state)
          kafka_producer := true
          flush_task := false }
  | published (data : MlData) (hchange : data.zone_state ≠ remembered s h3_cell)
      (hproducer : s.kafka_producer = true ∨ io.producerStarts = true)
      (hsends : io.sends h3_cell = true) :
      Handled io s h3_cell (some data)
        { s with
          zone_states := Function.update s.zone_states h3_cell (some data.zone_state)
          kafka_producer := true
          topic := s.topic ++
            [⟨h3_cell, remembered s h3_cell, data.zone_state, data.Lf, io.now / 1000⟩] }
  | failed (data : MlData) (hchange : data.zone_state ≠ remembered s h3_cell)
      (hsends : io.sends h3_cell = false) :
      Handled io s h3_cell (some data)
        { s with
          zone_states := Function.update s.zone_states h3_cell (some data.zone_state)
          kafka_producer := true
          errors := s.errors ++ [h3_cell] }

theorem handled_flushZone (io : FlushIo) (s : Aggregator) (h3_cell : String)
    (ml_data : Option MlData) : Handled io s h3_cell ml_data (flushZone io s h3_cell ml_data) := by
  cases ml_data with
  | none => exact .degraded
  | some data =>
      simp only [flushZone]
      split
      · rename_i hchange
        unfold publishStateChange
        split
        · rename_i hstart
          exact .ended data hchange hstart.1 hstart.2
        · rename_i hstart
          split
          · rename_i hsends
            refine .published data hchange ?_ hsends
            cases hproducer : s.kafka_producer <;> simp_all
          · rename_i hsends
            exact .failed data hchange (Bool.not_eq_true _ ▸ hsends)
      · rename_i hsame
        exact .unchanged data (not_not.mp hsame)

theorem writeDegraded_fields (io : FlushIo) (s : Aggregator) (h3_cell : String) :
    (writeDegraded io s h3_cell).zone_states = s.zone_states ∧
      (writeDegraded io s h3_cell).topic = s.topic ∧
      (writeDegraded io s h3_cell).errors = s.errors ∧
      (writeDegraded io s h3_cell).flush_task = s.flush_task ∧
      (writeDegraded io s h3_cell).kafka_producer = s.kafka_producer := by
  unfold writeDegraded
  split <;> exact ⟨rfl, rfl, rfl, rfl, rfl⟩

/-- What stays as it is for the other cells, and what only grows. -/
theorem Handled.frame (h : Handled io s h3_cell ml_data s') :
    (∀ other, other ≠ h3_cell → remembered s' other = remembered s other ∧
      lastPublished s'.topic other = lastPublished s.topic other) ∧
      s.errors <+: s'.errors ∧ (s'.flush_task = true → s.flush_task = true) := by
  have hupdate : ∀ (state : String) other, other ≠ h3_cell →
      (Function.update s.zone_states h3_cell (some state) other).getD "NORMAL" =
        remembered s other := by
    intro state other hother
    rw [Function.update_of_ne hother, remembered]
  cases h with
  | degraded =>
      obtain ⟨hstates, htopic, herrors, htask, -⟩ := writeDegraded_fields io s h3_cell
      exact ⟨fun other _ => ⟨remembered_congr hstates, by rw [htopic]⟩, herrors ▸ List.prefix_rfl,
        by rw [htask]; exact id⟩
  | unchanged data hsame => exact ⟨fun other _ => ⟨rfl, rfl⟩, List.prefix_rfl, id⟩
  | ended data hchange hproducer hstarts =>
      exact ⟨fun other hother => ⟨hupdate _ other hother, rfl⟩, List.prefix_rfl, by simp⟩
  | published data hchange hproducer hsends =>
      exact ⟨fun other hother => ⟨hupdate _ other hother,
        lastPublished_append_of_ne _ _ (Ne.symm hother)⟩, List.prefix_rfl, id⟩
  | failed data hchange hsends =>
      exact ⟨fun other hother => ⟨hupdate _ other hother, rfl⟩, List.prefix_append .., id⟩

/-- A result is handled quietly exactly if its publish gets through. -/
theorem Handled.quiet_iff (h : Handled io s h3_cell ml_data s') (htask : s.flush_task = true) :
    Quiet s s' ↔ Delivers s io h3_cell ml_data := by
  cases h with
  | degraded =>
      obtain ⟨-, -, herrors, htask', -⟩ := writeDegraded_fields io s h3_cell
      exact ⟨fun _ => by simp [Delivers], fun _ => ⟨htask'.trans htask, herrors⟩⟩
  | unchanged data hsame => exact ⟨fun _ => by simp [Delivers, hsame], fun _ => ⟨htask, rfl⟩⟩
  | ended data hchange hproducer hstarts =>
      refine ⟨fun hquiet => absurd hquiet.running (by simp), fun hdelivers => ?_⟩
      have h := (hdelivers data rfl hchange).1
      simp [hproducer, hstarts] at h
  | published data hchange hproducer hsends =>
      refine ⟨fun _ data' hdata _ => ⟨hproducer, hsends⟩, fun _ => ⟨htask, rfl⟩⟩
  | failed data hchange hsends =>
      refine ⟨fun hquiet => absurd hquiet.errors (by simp), fun hdelivers => ?_⟩
      have h := (hdelivers data rfl hchange).2
      simp [hsends] at h

/-- A quiet result leaves the cell remembered as answered, and announced if it was a change. -/
theorem Handled.announced (h : Handled io s h3_cell ml_data s') (hquiet : Quiet s s') :
    (∀ data ∈ ml_data, remembered s' h3_cell = data.zone_state ∧
      lastPublished s'.topic h3_cell = if data.zone_state = remembered s h3_cell then
        lastPublished s.topic h3_cell else data.zone_state) ∧
      (ml_data = none → remembered s' h3_cell = remembered s h3_cell ∧
        lastPublished s'.topic h3_cell = lastPublished s.topic h3_cell) := by
  cases h with
  | degraded =>
      obtain ⟨hstates, htopic, -⟩ := writeDegraded_fields io s h3_cell
      exact ⟨by simp, fun _ => ⟨remembered_congr hstates, by rw [htopic]⟩⟩
  | unchanged data hsame =>
      refine ⟨?_, by simp⟩
      rintro _ ⟨⟩
      exact ⟨hsame.symm, (if_pos hsame).symm⟩
  | ended => exact absurd hquiet.running (by simp)
  | published data hchange hproducer hsends =>
      refine ⟨?_, by simp⟩
      rintro _ ⟨⟩
      rw [if_neg hchange]
      exact ⟨by simp [remembered], lastPublished_append_self _ _⟩
  | failed => exact absurd hquiet.errors (by simp)

/-- What was delivered before is no obstacle for the next publish. -/
theorem Handled.delivers_iff (h : Handled io s h3_cell ml_data s') (hquiet : Quiet s s')
    (hother : other ≠ h3_cell) (other_data : Option MlData) :
    Delivers s' io other other_data ↔ Delivers s io other other_data := by
  have hproducer : (s'.kafka_producer = true ∨ io.producerStarts = true) ↔
      (s.kafka_producer = true ∨ io.producerStarts = true) := by
    cases h with
    | degraded =>
        obtain ⟨-, -, -, -, hproducer⟩ := writeDegraded_fields io s h3_cell
        rw [hproducer]
    | unchanged => rfl
    | ended => exact absurd hquiet.running (by simp)
    | published data hchange hproducer hsends => exact iff_of_true (.inl rfl) hproducer
    | failed => exact absurd hquiet.errors (by simp)
  rw [Delivers, Delivers, hproducer, (h.frame.1 other hother).1]

end Zone

/-! ## One flush -/

section Flush

variable {io : FlushIo}

@[simp] theorem flushZones_nil (s : Aggregator) : flushZones io s [] = s := rfl

theorem flushZones_cons {s : Aggregator} (htask : s.flush_task = true) (h3_cell : String)
    (ml_data : Option MlData) (results : List (String × Option MlData)) :
    flushZones io s ((h3_cell, ml_data) :: results) =
      flushZones io (flushZone io s h3_cell ml_data) results := by
  simp only [flushZones, List.foldl_cons, htask, if_true]

theorem flushZones_of_ended {s : Aggregator} (htask : s.flush_task = false)
    (results : List (String × Option MlData)) : flushZones io s results = s := by
  induction results with
  | nil => rfl
  | cons result results ih =>
      rw [flushZones, List.foldl_cons, htask]
      exact ih

theorem flushZones_grows (io : FlushIo) (s : Aggregator) (results : List (String × Option MlData)) :
    s.errors <+: (flushZones io s results).errors ∧
      ((flushZones io s results).flush_task = true → s.flush_task = true) := by
  induction results generalizing s with
  | nil => exact ⟨List.prefix_rfl, id⟩
  | cons result results ih =>
      obtain ⟨h3_cell, ml_data⟩ := result
      cases htask : s.flush_task with
      | false =>
          rw [flushZones_of_ended htask, htask]
          exact ⟨List.prefix_rfl, id⟩
      | true =>
          rw [flushZones_cons htask]
          obtain ⟨-, herrors, -⟩ := (handled_flushZone io s h3_cell ml_data).frame
          exact ⟨herrors.trans (ih _).1, fun _ => rfl⟩

/-- A flush is quiet if all its results are. -/
theorem quiet_flushZones_cons {s : Aggregator} (htask : s.flush_task = true) (h3_cell : String)
    (ml_data : Option MlData) (results : List (String × Option MlData)) :
    Quiet s (flushZones io s ((h3_cell, ml_data) :: results)) ↔
      Quiet s (flushZone io s h3_cell ml_data) ∧
        Quiet (flushZone io s h3_cell ml_data)
          (flushZones io (flushZone io s h3_cell ml_data) results) := by
  rw [flushZones_cons htask]
  obtain ⟨-, herrors, -⟩ := (handled_flushZone io s h3_cell ml_data).frame
  obtain ⟨herrors', htask'⟩ := flushZones_grows io (flushZone io s h3_cell ml_data) results
  constructor
  · intro h
    have hfirst : (flushZone io s h3_cell ml_data).errors = s.errors :=
      (herrors.eq_of_length (le_antisymm herrors.length_le
        (h.errors ▸ herrors'.length_le))).symm
    exact ⟨⟨htask' h.running, hfirst⟩, h.running, h.errors.trans hfirst.symm⟩
  · rintro ⟨hfirst, hrest⟩
    exact ⟨hrest.running, hrest.errors.trans hfirst.errors⟩

theorem quiet_flushZones_iff {s : Aggregator} (htask : s.flush_task = true)
    {results : List (String × Option MlData)} (hnodup : (results.map Prod.fst).Nodup) :
    Quiet s (flushZones io s results) ↔ ∀ result ∈ results, Delivers s io result.1 result.2 := by
  induction results generalizing s with
  | nil => exact iff_of_true ⟨htask, rfl⟩ (by simp)
  | cons result results ih =>
      obtain ⟨h3_cell, ml_data⟩ := result
      obtain ⟨hfresh, hnodup⟩ := List.nodup_cons.mp hnodup
      have hhandled := handled_flushZone io s h3_cell ml_data
      rw [quiet_flushZones_cons htask, List.forall_mem_cons, hhandled.quiet_iff htask]
      refine and_congr_right fun hdelivers => ?_
      have hquiet := (hhandled.quiet_iff htask).mpr hdelivers
      rw [ih hquiet.running hnodup]
      refine forall₂_congr fun other hother => hhandled.delivers_iff hquiet ?_ _
      rintro rfl
      exact hfresh (List.mem_map.mpr ⟨_, hother, rfl⟩)

/-- After a quiet flush the answered cells are announced, unless they had not changed. -/
theorem lastPublished_flushZones {s : Aggregator} {results : List (String × Option MlData)}
    (hnodup : (results.map Prod.fst).Nodup) (hquiet : Quiet s (flushZones io s results)) :
    (∀ h3_cell data, (h3_cell, some data) ∈ results →
      lastPublished (flushZones io s results).topic h3_cell =
        if data.zone_state = remembered s h3_cell then lastPublished s.topic h3_cell
        else data.zone_state) ∧
      ∀ h3_cell, h3_cell ∉ results.map Prod.fst →
        lastPublished (flushZones io s results).topic h3_cell = lastPublished s.topic h3_cell := by
  induction results generalizing s with
  | nil => exact ⟨by simp, by simp⟩
  | cons result results ih =>
      obtain ⟨cell, ml_data⟩ := result
      obtain ⟨hfresh, hnodup⟩ := List.nodup_cons.mp hnodup
      have htask : s.flush_task = true := (flushZones_grows io s _).2 hquiet.running
      obtain ⟨hfirst, hrest⟩ := (quiet_flushZones_cons htask cell ml_data results).mp hquiet
      have hhandled := handled_flushZone io s cell ml_data
      obtain ⟨hanswered, hothers⟩ := ih hnodup hrest
      rw [flushZones_cons htask]
      constructor
      · intro h3_cell data hmem
        rcases List.mem_cons.mp hmem with heq | hlater
        · obtain ⟨rfl, rfl⟩ := Prod.mk.inj heq
          rw [hothers h3_cell hfresh]
          exact ((hhandled.announced hfirst).1 data rfl).2
        · have hne : h3_cell ≠ cell := by
            rintro rfl
            exact hfresh (List.mem_map.mpr ⟨_, hlater, rfl⟩)
          obtain ⟨hremembered, hpublished⟩ := hhandled.frame.1 h3_cell hne
          rw [hanswered h3_cell data hlater, hremembered, hpublished]
      · intro h3_cell hnotMem
        rw [List.map_cons, List.mem_cons, not_or] at hnotMem
        obtain ⟨hremembered, hpublished⟩ := hhandled.frame.1 h3_cell hnotMem.1
        rw [hothers h3_cell hnotMem.2, hpublished]

theorem nodup_flushResults (io : FlushIo) (s : Aggregator) :
    ((flushResults io s).map Prod.fst).Nodup := by
  rw [flushResults, List.map_map]
  exact (List.map_id _).symm ▸ s.zone_riders.nodup

theorem announced_iff_nothingLost (s : Aggregator) (event : Event) :
    Announced s event ↔ NothingLost s event := by
  cases event with
  | ping h3_cell driver_id coords => exact Iff.rfl
  | flush io =>
      cases htask : s.flush_task with
      | false =>
          refine iff_of_true (fun hquiet => ?_) fun h => by simp [htask] at h
          have hrunning := hquiet.running
          simp [periodicFlush, htask] at hrunning
      | true =>
          have hflush : periodicFlush io s =
              flushZones io { s with zone_riders := {} } (flushResults io s) := by
            rw [periodicFlush, if_pos htask]
          have hnodup := nodup_flushResults io s
          have hquiet : Quiet s (periodicFlush io s) ↔
              ∀ result ∈ flushResults io s, Delivers s io result.1 result.2 := by
            rw [hflush]
            exact Iff.trans ⟨fun h => ⟨h.running, h.errors⟩, fun h => ⟨h.running, h.errors⟩⟩
              (quiet_flushZones_iff (s := { s with zone_riders := {} }) htask hnodup)
          simp only [Announced, NothingLost, hquiet, htask, true_imp_iff]
          refine imp_congr_right fun hdelivers => forall₃_congr fun h3_cell data hmem => ?_
          have hpublished : lastPublished (periodicFlush io s).topic h3_cell =
              if data.zone_state = remembered s h3_cell then lastPublished s.topic h3_cell
              else data.zone_state := by
            have hspec := hquiet.mpr hdelivers
            rw [hflush] at hspec ⊢
            exact (lastPublished_flushZones (s := { s with zone_riders := {} }) hnodup
              ⟨hspec.running, hspec.errors⟩).1 h3_cell data hmem
          rw [hpublished, Lost]
          split
          · rename_i hsame
            rw [hsame]
            simp
          · rename_i hchange
            exact iff_of_true rfl fun _ => hchange

end Flush

/-! ## Whole runs -/

section Runs

variable {io : FlushIo} {s s' : Aggregator}

theorem Handled.not_lost {h3_cell : String} {ml_data : Option MlData}
    (h : Handled io s h3_cell ml_data s') (hquiet : Quiet s s') (hs : ∀ cell, ¬Lost s cell)
    (cell : String) : ¬Lost s' cell := by
  by_cases hcell : cell = h3_cell
  · subst hcell
    obtain ⟨hanswered, hmissing⟩ := h.announced hquiet
    cases ml_data with
    | none =>
        obtain ⟨hremembered, hpublished⟩ := hmissing rfl
        rw [Lost, hremembered, hpublished]
        exact hs cell
    | some data =>
        obtain ⟨hremembered, hpublished⟩ := hanswered data rfl
        rw [Lost, hremembered, hpublished, not_not]
        split
        · rename_i hsame
          rw [hsame]
          exact not_not.mp (hs cell)
        · rfl
  · obtain ⟨hremembered, hpublished⟩ := h.frame.1 cell hcell
    rw [Lost, hremembered, hpublished]
    exact hs cell

theorem flushZones_not_lost {results : List (String × Option MlData)}
    (hquiet : Quiet s (flushZones io s results)) (hs : ∀ cell, ¬Lost s cell) :
    ∀ cell, ¬Lost (flushZones io s results) cell := by
  induction results generalizing s with
  | nil => exact hs
  | cons result results ih =>
      obtain ⟨h3_cell, ml_data⟩ := result
      have htask : s.flush_task = true := (flushZones_grows io s _).2 hquiet.running
      obtain ⟨hfirst, hrest⟩ := (quiet_flushZones_cons htask h3_cell ml_data results).mp hquiet
      rw [flushZones_cons htask]
      exact ih hrest ((handled_flushZone io s h3_cell ml_data).not_lost hfirst hs)

end Runs

/-- The event publishes without a failure. -/
def NoFailure (s : Aggregator) (event : Event) : Prop := Quiet s (step s event)

/-- Only a failed publish loses a change. -/
theorem along_announced_of_noFailure (events : List Event)
    (h : Along step NoFailure {} events) : Along step Announced {} events := by
  refine along_of_step (fun s event (hs : ∀ cell, ¬Lost s cell) hquiet => ?_)
    (fun cell => by simp [Lost, remembered]) h
  constructor
  · cases event with
    | ping h3_cell driver_id coords => exact hs
    | flush io =>
        change Quiet s (periodicFlush io s) at hquiet
        change ∀ cell, ¬Lost (periodicFlush io s) cell
        unfold periodicFlush at hquiet ⊢
        split at hquiet
        · rename_i htask
          rw [if_pos htask]
          exact flushZones_not_lost ⟨hquiet.running, hquiet.errors⟩ hs
        · rename_i htask
          exact absurd hquiet.running htask
  · refine (announced_iff_nothingLost s event).mpr ?_
    cases event with
    | ping => trivial
    | flush io => exact fun _ _ h3_cell _ _ hlost => absurd hlost (hs h3_cell)

/-- In every run, the flushes without a failed publish announce what was answered if and only if
none of them is answered with a state whose announcement was lost. -/
theorem along_announced_iff (events : List Event) :
    Along step Announced {} events ↔ Along step NothingLost {} events :=
  along_iff_of_inv (fun s event (_ : True) => announced_iff_nothingLost s event)
    (fun _ _ _ _ => trivial) trivial

namespace Outage

/-- The pipeline reports a halted zone; the broker may refuse the update. -/
def io (sends : Bool) : FlushIo where
  now := 0
  pipeline := fun _ => some ⟨some (9 / 10), some "HALTED"⟩
  sends := fun _ => sends

/-- The broker is back for the second flush. -/
def events : List Event :=
  [.ping "8860145b5dfffff" "driver-1" none, .flush (io false),
    .ping "8860145b5dfffff" "driver-1" none, .flush (io true)]

end Outage

open Outage in
/-- A zone that stays halted after the outage is never announced. -/
theorem not_along_announced :
    ¬Along step Announced {} events ∧ (final step {} events).topic = [] ∧
      remembered (final step {} events) "8860145b5dfffff" = "HALTED" ∧
      (final step {} events).flush_task = true := by
  refine ⟨?_, rfl, rfl, rfl⟩
  rintro ⟨-, -, -, hflush, -⟩
  have hannounced := hflush ⟨rfl, rfl⟩ "8860145b5dfffff" ⟨9 / 10, "HALTED"⟩ (by decide +kernel)
  revert hannounced
  decide

end Aegis.ZoneAggregator
