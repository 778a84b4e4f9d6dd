import Aegis.Library.JsString
import Aegis.Library.Run
import Aegis.Model.ZoneUpdates

/-! # One dispatch for each halt

The consumer keeps the last state of each cell, and calls the orchestrator on an entry into
`HALTED` if it has been given one. -/

namespace Aegis.ZoneMonitoring

open JsString Run

/-! ## The law -/

section Law

/-- The payload of a message for the cell. -/
def payloadFor (h3Cell : String) : Message → Option ZoneStateUpdatePayload
  | .payload payload => if payload.h3_cell = some h3Cell then some payload else none
  | _ => none

/-- The effective state before a message: that of the last one for the cell, or what the message
says of its old state. -/
def previous (effective : Option String) (payload : ZoneStateUpdatePayload) : String :=
  effective.getD (toUpperCase (payload.old_state.getD ""))

/-- The effective state of a message. -/
def next (effective : Option String) (payload : ZoneStateUpdatePayload) : String :=
  if payload.aqi.any fun aqi => 300 < aqi then "HALTED"
  else if payload.new_state.getD "" ≠ "" then toUpperCase (payload.new_state.getD "")
  else previous effective payload

/-- The effective state of a cell after a list of messages. -/
def effective (h3Cell : String) (messages : List Message) : Option String :=
  messages.foldl
    (fun state message =>
      match payloadFor h3Cell message with
      | some payload => some (next state payload)
      | none => state) none

/-- The message announces `HALTED` by itself. -/
def Announces (payload : ZoneStateUpdatePayload) : Prop :=
  (payload.aqi.any fun aqi => 300 < aqi) = true ∨
    toUpperCase (payload.new_state.getD "") = "HALTED"

instance (payload : ZoneStateUpdatePayload) : Decidable (Announces payload) :=
  inferInstanceAs (Decidable (_ ∨ _))

/-- The calls that one more message stands for, after those in `history`. -/
def entry (history : List Message) (delivery : Delivery) : List (String × ℤ) :=
  match delivery.message with
  | .payload payload =>
      match payload.h3_cell.filter (· ≠ "") with
      | some h3Cell =>
          if Announces payload ∧ previous (effective h3Cell history) payload ≠ "HALTED" then
            [(h3Cell, eventTimestamp delivery.now payload)]
          else []
      | none => []
  | _ => []

/-- The entries into `HALTED`, in the order of the messages. -/
def entries : List Message → List Delivery → List (String × ℤ)
  | _, [] => []
  | history, delivery :: deliveries =>
      entry history delivery ++ entries (history ++ [delivery.message]) deliveries

end Law

/-! ## The stored states -/

section Tracking

variable {claimOrchestrator : Bool} {s : Consumer} {history : List Message} {h3Cell : String}
  {payload : ZoneStateUpdatePayload}

/-- How the consumer stores an effective state. -/
def stored (state : String) : String := if state = "" then "UNKNOWN" else state

/-- The consumer has the effective state of every cell, and they are in capitals. -/
structure Tracks (history : List Message) (s : Consumer) : Prop where
  zoneState : ∀ h3Cell, h3Cell ≠ "" → s.zoneState h3Cell = (effective h3Cell history).map stored
  capitals : ∀ h3Cell, h3Cell ≠ "" → ∀ state, effective h3Cell history = some state →
    toUpperCase state = state

theorem Tracks.init : Tracks [] {} := ⟨fun _ _ => rfl, fun _ _ _ h => by simp [effective] at h⟩

theorem toUpperCase_stored {state : String} (h : toUpperCase state = state) :
    toUpperCase (stored state) = stored state := by
  unfold stored
  split
  · decide
  · exact h

theorem stored_eq_halted_iff {state : String} : stored state = "HALTED" ↔ state = "HALTED" := by
  unfold stored
  split
  · rename_i h
    rw [h]
    decide
  · rfl

@[simp] theorem stored_empty : stored "" = "UNKNOWN" := rfl

theorem stored_of_ne {state : String} (h : state ≠ "") : stored state = state := if_neg h

theorem announced_eq_halted_iff : announced payload = "HALTED" ↔ Announces payload := by
  unfold announced Announces
  split
  · rename_i h
    simp [h]
  · rename_i h
    simp [h]

/-- What the consumer takes as the previous state. -/
def previousState (s : Consumer) (h3Cell : String) (payload : ZoneStateUpdatePayload) : String :=
  toUpperCase (((s.zoneState h3Cell).or payload.old_state).getD "")

theorem Tracks.previousState (hs : Tracks history s) (payload : ZoneStateUpdatePayload)
    (hcell : h3Cell ≠ "") :
    previousState s h3Cell payload = previous (effective h3Cell history) payload ∨
      previousState s h3Cell payload = stored (previous (effective h3Cell history) payload) := by
  rw [ZoneMonitoring.previousState, hs.zoneState h3Cell hcell]
  cases heffective : effective h3Cell history with
  | none => exact .inl rfl
  | some state => exact .inr (toUpperCase_stored (hs.capitals h3Cell hcell state heffective))

theorem Tracks.previousState_eq_halted_iff (hs : Tracks history s)
    (payload : ZoneStateUpdatePayload) (hcell : h3Cell ≠ "") :
    ZoneMonitoring.previousState s h3Cell payload = "HALTED" ↔
      previous (effective h3Cell history) payload = "HALTED" := by
  rcases hs.previousState payload hcell with h | h
  · rw [h]
  · rw [h, stored_eq_halted_iff]

theorem Tracks.settle (hs : Tracks history s) (hcell : h3Cell ≠ "") :
    settle (announced payload) (ZoneMonitoring.previousState s h3Cell payload) =
      stored (next (effective h3Cell history) payload) := by
  have hkept : ZoneMonitoring.settle "" (ZoneMonitoring.previousState s h3Cell payload) =
      stored (previous (effective h3Cell history) payload) := by
    rcases hs.previousState payload hcell with h | h
    · rw [h, ZoneMonitoring.settle, if_neg (not_not.mpr rfl), ite_not]
      rfl
    · have hne : stored (previous (effective h3Cell history) payload) ≠ "" := by
        unfold stored
        split
        · decide
        · assumption
      rw [h, ZoneMonitoring.settle, if_neg (not_not.mpr rfl), if_pos hne]
  unfold next announced
  split
  · rfl
  · by_cases hnew : payload.new_state.getD "" = ""
    · rw [hnew, if_neg (not_not.mpr rfl)]
      exact hkept
    · have hcapital : toUpperCase (payload.new_state.getD "") ≠ "" :=
        fun h => hnew (toUpperCase_eq_empty_iff.mp h)
      rw [if_pos hnew, stored_of_ne hcapital, ZoneMonitoring.settle, if_pos hcapital]

theorem Tracks.toUpperCase_previous (hs : Tracks history s) (hcell : h3Cell ≠ "") :
    toUpperCase (previous (effective h3Cell history) payload) =
      previous (effective h3Cell history) payload := by
  unfold previous
  cases heffective : effective h3Cell history with
  | none => exact toUpperCase_toUpperCase _
  | some state => exact hs.capitals h3Cell hcell state heffective

theorem Tracks.toUpperCase_next (hs : Tracks history s) (hcell : h3Cell ≠ "") :
    toUpperCase (next (effective h3Cell history) payload) =
      next (effective h3Cell history) payload := by
  unfold next
  split
  · decide
  · split
    · exact toUpperCase_toUpperCase _
    · exact hs.toUpperCase_previous hcell

/-! ## One message -/

theorem effective_append (history : List Message) (message : Message) :
    effective h3Cell (history ++ [message]) =
      match payloadFor h3Cell message with
      | some payload => some (next (effective h3Cell history) payload)
      | none => effective h3Cell history := by
  simp only [effective, List.foldl_append, List.foldl_cons, List.foldl_nil]

/-- A message that stands for no cell changes nothing. -/
theorem Tracks.skip (hs : Tracks history s) {message : Message}
    (h : ∀ h3Cell, h3Cell ≠ "" → payloadFor h3Cell message = none) :
    Tracks (history ++ [message]) s where
  zoneState h3Cell hcell := by
    rw [effective_append, h h3Cell hcell]
    exact hs.zoneState h3Cell hcell
  capitals h3Cell hcell state hstate := by
    rw [effective_append, h h3Cell hcell] at hstate
    exact hs.capitals h3Cell hcell state hstate

theorem handlePayload_zoneState (now : ℤ) (redisUp : Bool) :
    (handlePayload claimOrchestrator now redisUp s h3Cell payload).zoneState =
      Function.update s.zoneState h3Cell
        (some (settle (announced payload) (previousState s h3Cell payload))) := by
  simp only [handlePayload]
  split
  · split <;> rfl
  · rfl

theorem handlePayload_dispatched (now : ℤ) (redisUp : Bool) :
    (handlePayload claimOrchestrator now redisUp s h3Cell payload).dispatched =
      s.dispatched ++
        if announced payload = "HALTED" ∧ previousState s h3Cell payload ≠ "HALTED" then
          if claimOrchestrator then [(h3Cell, eventTimestamp now payload)] else []
        else [] := by
  unfold previousState
  by_cases hentry : announced payload = "HALTED" ∧
      toUpperCase (((s.zoneState h3Cell).or payload.old_state).getD "") ≠ "HALTED"
  · rw [if_pos hentry]
    simp only [handlePayload]
    rw [if_pos hentry]
    cases claimOrchestrator <;> simp
  · rw [if_neg hentry]
    simp only [handlePayload]
    rw [if_neg hentry, List.append_nil]

theorem Tracks.handlePayload (hs : Tracks history s) (hcell : h3Cell ≠ "")
    (hpayload : payload.h3_cell = some h3Cell) (now : ℤ) (redisUp : Bool) :
    Tracks (history ++ [.payload payload])
      (ZoneMonitoring.handlePayload claimOrchestrator now redisUp s h3Cell payload) := by
  have hself : effective h3Cell (history ++ [.payload payload]) =
      some (next (effective h3Cell history) payload) := by
    rw [effective_append, payloadFor, if_pos hpayload]
  have hother : ∀ other, other ≠ h3Cell →
      effective other (history ++ [.payload payload]) = effective other history := by
    intro other hne
    rw [effective_append, payloadFor, if_neg (by simp [hpayload, Ne.symm hne])]
  constructor
  · intro other hcell'
    rw [handlePayload_zoneState]
    by_cases hne : other = h3Cell
    · subst hne
      rw [hself, Function.update_self, hs.settle hcell]
      rfl
    · rw [hother other hne, Function.update_of_ne hne]
      exact hs.zoneState other hcell'
  · intro other hcell' state hstate
    by_cases hne : other = h3Cell
    · subst hne
      rw [hself] at hstate
      obtain rfl := Option.some.inj hstate
      exact hs.toUpperCase_next hcell
    · rw [hother other hne] at hstate
      exact hs.capitals other hcell' state hstate

/-- One message: the states are tracked on, and an entry into `HALTED` is one call. -/
theorem Tracks.eachMessage (hs : Tracks history s) (claimOrchestrator : Bool)
    (delivery : Delivery) :
    Tracks (history ++ [delivery.message])
        (ZoneMonitoring.eachMessage claimOrchestrator s delivery) ∧
      (ZoneMonitoring.eachMessage claimOrchestrator s delivery).dispatched =
        s.dispatched ++ if claimOrchestrator then entry history delivery else [] := by
  obtain ⟨now, redisUp, message⟩ := delivery
  cases message with
  | empty => exact ⟨hs.skip fun _ _ => rfl, by simp [ZoneMonitoring.eachMessage, entry]⟩
  | invalid => exact ⟨hs.skip fun _ _ => rfl, by simp [ZoneMonitoring.eachMessage, entry]⟩
  | payload payload =>
      cases hcell : payload.h3_cell.filter (· ≠ "") with
      | none =>
          refine ⟨?_, ?_⟩
          · have hskip : ZoneMonitoring.eachMessage claimOrchestrator s
                ⟨now, redisUp, .payload payload⟩ = s := by
              simp only [ZoneMonitoring.eachMessage, hcell]
            rw [hskip]
            refine hs.skip fun h3Cell hne => ?_
            rw [payloadFor, if_neg]
            intro hpayload
            simp [hpayload, hne] at hcell
          · simp only [ZoneMonitoring.eachMessage, hcell, entry, ite_self, List.append_nil]
      | some h3Cell =>
          obtain ⟨hpayload, hne⟩ := Option.filter_eq_some_iff.mp hcell
          have hne : h3Cell ≠ "" := by simpa using hne
          simp only [ZoneMonitoring.eachMessage, hcell]
          refine ⟨hs.handlePayload hne hpayload now redisUp, ?_⟩
          simp only [handlePayload_dispatched, announced_eq_halted_iff, ne_eq,
            hs.previousState_eq_halted_iff payload hne, entry, hcell]
          cases claimOrchestrator <;> simp

end Tracking

/-! ## Whole runs -/

theorem Tracks.dispatched {s : Consumer} {history : List Message} (hs : Tracks history s)
    (claimOrchestrator : Bool) (deliveries : List Delivery) :
    (final (ZoneMonitoring.eachMessage claimOrchestrator) s deliveries).dispatched =
      s.dispatched ++ if claimOrchestrator then entries history deliveries else [] := by
  induction deliveries generalizing s history with
  | nil => simp [entries]
  | cons delivery deliveries ih =>
      obtain ⟨hnext, hcalls⟩ := hs.eachMessage claimOrchestrator delivery
      rw [final_cons, ih hnext, hcalls, List.append_assoc]
      cases claimOrchestrator <;> simp [entries]

/-- A consumer with an orchestrator calls it once for each entry into `HALTED`, in their order; a
consumer without one makes no call. -/
theorem dispatched_eq_entries (claimOrchestrator : Bool) (deliveries : List Delivery) :
    (final (eachMessage claimOrchestrator) {} deliveries).dispatched =
      if claimOrchestrator then entries [] deliveries else [] := by
  simpa using Tracks.init.dispatched claimOrchestrator deliveries

/-- The module gives the consumer no orchestrator, and a halted zone is skipped. -/
theorem not_dispatched_wired :
    ¬∀ deliveries, (final (eachMessage KafkaModule.claimOrchestrator) {} deliveries).dispatched =
      entries [] deliveries := by
  intro h
  have hhalted := h [⟨0, true, .payload
    { h3_cell := "8860145b5dfffff", old_state := "NORMAL", new_state := "HALTED" }⟩]
  revert hhalted
  decide

end Aegis.ZoneMonitoring
