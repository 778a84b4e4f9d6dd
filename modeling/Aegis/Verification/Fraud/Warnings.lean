import Aegis.Library.Run
import Aegis.Model.FraudScoring
import Aegis.Verification.Payments.ExactlyOnce

/-! # Warnings for extreme scores

The enforcement counts by `driver_id`, which the body of the backend does not carry. -/

namespace Aegis.FraudService

open MlFraudService AegisEnforcementEngine

/-! ## The law -/

/-- The request is scored as extreme fraud of a known driver, and the database works. -/
structure Warrants (c : ScoreCall) (t : Tables) : Prop where
  known : (t.db.users.findUnique (.id c.userId)).isSome = true
  extreme : ∃ response, (fetchHybridFraudScore c t).1 = .ok response ∧
    ENFORCEMENT_FRAUD_THRESHOLD ≤ response.fraud_score
  available : c.io.enforcement.connected = true ∧ c.io.enforcement.executed = true ∧
    c.io.enforcement.committed = true

/-- The tables give the driver one warning more than before. -/
def Counted (userId : String) (t t' : Tables) : Prop :=
  (t'.warnings userId).fraudWarningCount = (t.warnings userId).fraudWarningCount + 1

def serve (t : Tables) (c : ScoreCall) : Tables := (fetchHybridFraudScore c t).2

/-! ## What the enforcement would do -/

/-- Who is named does not matter to the score. -/
theorem parseHybridRequest_driver_id {body : FraudScoreBody} {request : FraudHybridScoreRequest}
    (h : parseHybridRequest body = .ok request) (driver_id : Option String) :
    parseHybridRequest { body with driver_id } = .ok { request with driver_id } := by
  unfold parseHybridRequest at h ⊢
  have hfields : invalidFields { body with driver_id } = invalidFields body := rfl
  rw [hfields]
  split at h
  · rename_i hvalid
    rw [if_pos hvalid]
    cases h
    rfl
  · cases h

theorem calculateHybridFraudScore_driver_id (io : ScoringIo) (request : FraudHybridScoreRequest)
    (driver_id : Option String) :
    calculateHybridFraudScore io.exp io.ml io.redis { request with driver_id } =
      calculateHybridFraudScore io.exp io.ml io.redis request := rfl

theorem warn_counts {t : Tables} {userId : String}
    (hknown : (t.db.users.findUnique (.id userId)).isSome = true) :
    Counted userId t (warn userId t).2 := by
  unfold warn Counted
  rw [if_pos hknown]
  dsimp only
  split
  · simp
  · simp

/-- A body that names the driver is counted. -/
theorem counted_of_driver_id {c : ScoreCall} {t : Tables} (h : Warrants c t)
    (hid : c.userId ≠ "") :
    Counted c.userId t
      (getHybridFraudScore c.io { c.body t.db with driver_id := some c.userId } t).2 := by
  obtain ⟨response, hresponse, hextreme⟩ := h.extreme
  obtain ⟨hconnected, hexecuted, hcommitted⟩ := h.available
  rw [fetchHybridFraudScore, getHybridFraudScore] at hresponse
  cases hparse : parseHybridRequest (c.body t.db) with
  | error fields =>
      rw [hparse] at hresponse
      cases hresponse
  | ok request =>
      rw [hparse] at hresponse
      cases hresponse
      have htruthy : PayoutService.truthy (some c.userId) = some c.userId := by
        simp [PayoutService.truthy, hid]
      rw [getHybridFraudScore, parseHybridRequest_driver_id hparse]
      simp only [ScoringRequest.enforce, ScoringRequest.driver_id, ScoringRequest.fraud_score,
        calculateHybridFraudScore_driver_id, enforceFraudPolicy, htruthy,
        if_neg (not_lt.mpr hextreme), hconnected, hexecuted, hcommitted, Bool.and_self, if_true]
      exact warn_counts h.known

/-! ## What it does -/

/-- No body of the backend names a driver. -/
theorem serve_eq (c : ScoreCall) (t : Tables) : serve t c = t := by
  unfold serve fetchHybridFraudScore getHybridFraudScore
  cases hparse : parseHybridRequest (c.body t.db) with
  | error fields => rfl
  | ok request =>
      have hnone : request.driver_id = none := by
        unfold parseHybridRequest at hparse
        split at hparse
        · cases hparse
          rfl
        · cases hparse
      simp [ScoringRequest.enforce, ScoringRequest.driver_id, hnone, enforceFraudPolicy,
        PayoutService.truthy]

theorem final_serve (t : Tables) (calls : List ScoreCall) : Run.final serve t calls = t := by
  induction calls with
  | nil => rfl
  | cons c calls ih => rw [Run.final_cons, serve_eq, ih]

/-- No request is counted and no driver suspended, however many requests there are. -/
theorem never_counted (t : Tables) (calls : List ScoreCall) :
    (∀ c, ¬Counted c.userId (Run.final serve t calls) (serve (Run.final serve t calls) c)) ∧
      ∀ u, ((Run.final serve t calls).warnings u).isActive = (t.warnings u).isActive := by
  refine ⟨fun c h => ?_, fun u => by rw [final_serve]⟩
  rw [Counted, serve_eq] at h
  omega

/-! ## Three extreme requests -/

namespace Unnamed

def tables : Tables where
  db := { users := .singleton Payments.Sample.user }

/-- A driver at 200 km/h. -/
def call : ScoreCall where
  userId := "u1"
  features :=
    { identity := ⟨100, 1, 0, true⟩
      location := ⟨200, 0, 1⟩
      behavior := ⟨0, 0, 0⟩
      metaData := { h3_cell := "8860145b5dfffff", timestamp := 0 } }
  dto := { gpsLatitude := 129 / 10, gpsLongitude := 776 / 10 }
  io := { exp := fun _ => 1, ml := { models := {} } }

end Unnamed

open Unnamed in
/-- Each of them warrants a warning, and after three the driver has none. -/
theorem not_counted :
    Warrants call tables ∧ ¬Counted "u1" tables (serve tables call) ∧
      ((Run.final serve tables [call, call, call]).warnings "u1").isActive = true := by
  refine ⟨⟨by decide, ⟨_, rfl, by decide +kernel⟩, by decide⟩, ?_, ?_⟩
  · unfold Counted
    decide
  · decide

end Aegis.FraudService
