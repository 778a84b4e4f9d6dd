import Aegis.Library.Run
import Aegis.Library.Throttle
import Aegis.Model.CellTelemetry
import Mathlib.Algebra.Order.Ring.Rat

/-! # Runs of the pipeline that telemetry makes

The messages of a cell make one run in an interval, at a place of that cell. A message has a run
less than an interval before it, once the monotonic clock has counted an interval. -/

namespace Aegis.KafkaConsumer

open Run Throttle

section Tasks

variable (latlng_to_cell : ℚ → ℚ → String) (TRIGGER_INTERVAL : ℚ)

/-- A valid message, as the task that it may make. -/
def taskOf (msg : Arrival) : Option PipelineTask :=
  (validateTelemetry msg.value).map fun fix =>
    ⟨latlng_to_cell fix.lat fix.lon, fix.lat, fix.lon, msg.monotonic⟩

/-- The tasks of a loop without the debounce. -/
def wanted (msgs : List Arrival) : List PipelineTask := msgs.filterMap (taskOf latlng_to_cell)

/-- The instant before which a cell makes no task is an interval after this. -/
def lastTrigger (consumer : Consumer) (h3_cell : String) : ℚ :=
  (consumer.last_trigger h3_cell).getD 0

variable {latlng_to_cell TRIGGER_INTERVAL}

theorem mem_wanted {task : PipelineTask} {msgs : List Arrival} :
    task ∈ wanted latlng_to_cell msgs ↔
      ∃ msg ∈ msgs, ∃ fix, validateTelemetry msg.value = some fix ∧
        task = ⟨latlng_to_cell fix.lat fix.lon, fix.lat, fix.lon, msg.monotonic⟩ := by
  simp only [wanted, taskOf, List.mem_filterMap, Option.map_eq_some_iff]
  simp only [eq_comm]

theorem lastTrigger_update {s : Consumer} {h3_cell : String} {now : ℚ} (keys : CellKeys)
    (tasks : List PipelineTask) :
    lastTrigger { keys, last_trigger := Function.update s.last_trigger h3_cell (some now), tasks } =
      Function.update (lastTrigger s) h3_cell now := by
  funext cell
  by_cases hcell : cell = h3_cell
  · subst hcell
    simp [lastTrigger]
  · simp [lastTrigger, hcell]

/-- A task is made when it fires. -/
theorem maybeTriggerPipeline_spec (s : Consumer) (task : PipelineTask) :
    (maybeTriggerPipeline TRIGGER_INTERVAL task.now task.h3_cell task.lat task.lng s).keys =
        s.keys ∧
      lastTrigger
        (maybeTriggerPipeline TRIGGER_INTERVAL task.now task.h3_cell task.lat task.lng s) =
        advance PipelineTask.h3_cell PipelineTask.now TRIGGER_INTERVAL (lastTrigger s) task ∧
      (maybeTriggerPipeline TRIGGER_INTERVAL task.now task.h3_cell task.lat task.lng s).tasks =
        s.tasks ++ fired PipelineTask.h3_cell PipelineTask.now TRIGGER_INTERVAL (lastTrigger s)
          [task] := by
  rw [maybeTriggerPipeline]
  by_cases hearly : task.now - (s.last_trigger task.h3_cell).getD 0 < TRIGGER_INTERVAL
  · have hfires : ¬Fires PipelineTask.h3_cell PipelineTask.now TRIGGER_INTERVAL (lastTrigger s)
        task := hearly.not_ge
    rw [if_pos hearly, advance, if_neg hfires, fired_of_not_fires hfires]
    exact ⟨rfl, rfl, (List.append_nil _).symm⟩
  · have hfires : Fires PipelineTask.h3_cell PipelineTask.now TRIGGER_INTERVAL (lastTrigger s)
        task := not_lt.mp hearly
    rw [if_neg hearly, advance, if_pos hfires, fired_of_fires hfires]
    exact ⟨rfl, lastTrigger_update _ _, rfl⟩

/-- The keys are written whether or not the message makes a task. -/
theorem handleMessage_spec (s : Consumer) (msg : Arrival) :
    (handleMessage latlng_to_cell TRIGGER_INTERVAL s msg).keys =
        consume latlng_to_cell s.keys (msg.time, msg.value) ∧
      lastTrigger (handleMessage latlng_to_cell TRIGGER_INTERVAL s msg) =
        (taskOf latlng_to_cell msg).elim (lastTrigger s)
          (advance PipelineTask.h3_cell PipelineTask.now TRIGGER_INTERVAL (lastTrigger s)) ∧
      (handleMessage latlng_to_cell TRIGGER_INTERVAL s msg).tasks =
        s.tasks ++ fired PipelineTask.h3_cell PipelineTask.now TRIGGER_INTERVAL (lastTrigger s)
          (taskOf latlng_to_cell msg).toList := by
  rw [handleMessage, taskOf]
  cases hvalid : validateTelemetry msg.value with
  | none =>
      refine ⟨?_, rfl, (List.append_nil _).symm⟩
      rw [consume, hvalid]
  | some fix => exact maybeTriggerPipeline_spec _ ⟨_, fix.lat, fix.lon, msg.monotonic⟩

theorem final_tasks (s : Consumer) (msgs : List Arrival) :
    (final (handleMessage latlng_to_cell TRIGGER_INTERVAL) s msgs).tasks =
      s.tasks ++ fired PipelineTask.h3_cell PipelineTask.now TRIGGER_INTERVAL (lastTrigger s)
        (wanted latlng_to_cell msgs) := by
  induction msgs generalizing s with
  | nil => exact (List.append_nil _).symm
  | cons msg msgs ih =>
      obtain ⟨-, hlast, htasks⟩ := @handleMessage_spec latlng_to_cell TRIGGER_INTERVAL s msg
      rw [final_cons, ih, htasks, hlast, wanted, wanted, List.filterMap_cons, List.append_assoc]
      cases taskOf latlng_to_cell msg with
      | none => rfl
      | some task => exact congrArg (s.tasks ++ ·) (fired_cons _ task _).symm

theorem final_keys (s : Consumer) (msgs : List Arrival) :
    (final (handleMessage latlng_to_cell TRIGGER_INTERVAL) s msgs).keys =
      final (consume latlng_to_cell) s.keys (msgs.map fun msg => (msg.time, msg.value)) := by
  induction msgs generalizing s with
  | nil => rfl
  | cons msg msgs ih =>
      rw [final_cons, ih, (handleMessage_spec s msg).1]
      rfl

end Tasks

/-! ## The law -/

/-- The debounce leaves the counts as they are. A task is at a valid place in its cell and none is
made in the first interval of the clock; no interval has two of one cell, and each valid message
after the first interval has one of its cell in the interval before it. -/
structure TriggerLaw (latlng_to_cell : ℚ → ℚ → String) (TRIGGER_INTERVAL : ℚ)
    (msgs : List Arrival) : Prop where
  keys : (final (handleMessage latlng_to_cell TRIGGER_INTERVAL) {} msgs).keys =
    final (consume latlng_to_cell) {} (msgs.map fun msg => (msg.time, msg.value))
  wanted : (final (handleMessage latlng_to_cell TRIGGER_INTERVAL) {} msgs).tasks.Sublist
    (wanted latlng_to_cell msgs)
  boot : ∀ task ∈ (final (handleMessage latlng_to_cell TRIGGER_INTERVAL) {} msgs).tasks,
    TRIGGER_INTERVAL ≤ task.now
  once : ∀ h3_cell start,
    ((final (handleMessage latlng_to_cell TRIGGER_INTERVAL) {} msgs).tasks.filter fun task =>
      task.h3_cell = h3_cell ∧ start ≤ task.now ∧
        task.now < start + TRIGGER_INTERVAL).length ≤ 1
  covered : ∀ msg ∈ msgs, ∀ fix, validateTelemetry msg.value = some fix →
    TRIGGER_INTERVAL ≤ msg.monotonic →
    ∃ task ∈ (final (handleMessage latlng_to_cell TRIGGER_INTERVAL) {} msgs).tasks,
      task.h3_cell = latlng_to_cell fix.lat fix.lon ∧ task.now ≤ msg.monotonic ∧
        msg.monotonic < task.now + TRIGGER_INTERVAL

theorem wanted_sorted {latlng_to_cell : ℚ → ℚ → String} {msgs : List Arrival}
    (h : msgs.Pairwise fun earlier later => earlier.monotonic ≤ later.monotonic) :
    (wanted latlng_to_cell msgs).Pairwise fun earlier later => earlier.now ≤ later.now := by
  have hnow {msg : Arrival} {task : PipelineTask} (htask : taskOf latlng_to_cell msg = some task) :
      task.now = msg.monotonic := by
    obtain ⟨fix, -, rfl⟩ := Option.map_eq_some_iff.mp htask
    rfl
  rw [wanted, List.pairwise_filterMap]
  refine h.imp ?_
  intro earlier later hle task htask task' htask'
  rw [hnow htask, hnow htask']
  exact hle

theorem trigger_law (latlng_to_cell : ℚ → ℚ → String) (TRIGGER_INTERVAL : ℚ) (msgs : List Arrival)
    (hinterval : 0 < TRIGGER_INTERVAL)
    (hclock : msgs.Pairwise fun earlier later => earlier.monotonic ≤ later.monotonic) :
    TriggerLaw latlng_to_cell TRIGGER_INTERVAL msgs := by
  have htasks : (final (handleMessage latlng_to_cell TRIGGER_INTERVAL) {} msgs).tasks =
      fired PipelineTask.h3_cell PipelineTask.now TRIGGER_INTERVAL (fun _ => 0)
        (wanted latlng_to_cell msgs) := final_tasks {} msgs
  constructor
  case keys => exact final_keys {} msgs
  case wanted =>
    rw [htasks]
    exact fired_sublist _ _
  case boot =>
    intro task htask
    rw [htasks] at htask
    simpa using last_add_le hinterval.le htask
  case once =>
    intro h3_cell start
    rw [htasks]
    exact at_most_one hinterval.le _ _ h3_cell start
  case covered =>
    intro msg hmsg fix hfix hlate
    rw [htasks]
    have hwanted : (⟨latlng_to_cell fix.lat fix.lon, fix.lat, fix.lon, msg.monotonic⟩ :
        PipelineTask) ∈ wanted latlng_to_cell msgs := mem_wanted.mpr ⟨msg, hmsg, fix, hfix, rfl⟩
    exact Throttle.covered (wanted_sorted hclock) hwanted (by simpa using hlate) hinterval

/-- A message at a place in the cell, with a clock reading. -/
def ping (monotonic : ℚ) : Arrival := ⟨0, monotonic, { lat := some 13, lon := some 77 }⟩

/-- Of four messages, the first comes too soon after boot and the third too soon after the
second. -/
theorem trigger_law_four :
    (final (handleMessage (fun _ _ => "cell") 10) {} [ping 5, ping 12, ping 21, ping 22]).tasks =
        [⟨"cell", 13, 77, 12⟩, ⟨"cell", 13, 77, 22⟩] ∧
      TriggerLaw (fun _ _ => "cell") 10 [ping 5, ping 12, ping 21, ping 22] := by
  refine ⟨by decide +kernel, trigger_law _ 10 _ (by norm_num) ?_⟩
  simp only [ping, List.pairwise_cons, List.mem_cons, List.not_mem_nil, or_false]
  norm_num

end Aegis.KafkaConsumer
