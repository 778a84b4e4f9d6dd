import Aegis.Model.FraudScoring
import Aegis.Verification.Fraud.ReviewWindow
import Aegis.Verification.Insurance.SaleGates

/-! # Activities around a driver

Runs of everything that writes an analysis, issues a policy or pays. A claim is such a run. -/

namespace Aegis.AegisEnforcementEngine

open RedisState FraudService FraudQueueProcessor InsuranceService
open Payouts (Moment CallIo Request)

/-- `suspended` lists the drivers whom the enforcement has suspended and on whose analysis no
administrator has decided since. -/
structure Platform extends ReviewState where
  warnings : String → Warnings := fun _ => {}
  suspended : List String := []

def Platform.tables (s : Platform) : Tables := ⟨s.db, s.warnings⟩

/-- Other services write to Redis what they like. -/
inductive Activity where
  | score (request : ScoringRequest) (io : EnforcementIo) (phone_number : Option String)
  | fraud (event : ReviewEvent)
  | sell (now : ℤ) (call : Call)
  | pay (moment : Moment) (io : CallIo) (request : Request)
  | cache (redis : Redis)

/-! ## Runs -/

section Runs

variable (cfg : Services) (kyc : ManualKyc.Config)

/-- The driver on whose analysis the event decides, if it is an administrator's. -/
def decidedOn (db : Db) : ReviewEvent → Option String
  | .review _ writable userId status =>
      if (reviewSubmission writable userId status db).isOk then some userId else none
  | .decideCase _ readable writable analysisId approve =>
      if (decideFraudCase writable readable analysisId approve db).isOk then
        (db.fraudAnalyses.rows.find? fun a => a.id = analysisId).map FraudAnalysis.userId
      else none
  | _ => none

def perform (s : Platform) : Activity → Platform
  | .score request io phone_number =>
      let enforced := request.enforce io phone_number s.tables
      { s with
        db := enforced.db
        warnings := enforced.warnings
        suspended :=
          if enforced.suspends then request.driver_id.toList ++ s.suspended else s.suspended }
  | .fraud event =>
      { s with
        toReviewState := FraudQueueProcessor.step cfg.insurance.fraud kyc s.toReviewState event
        suspended := s.suspended.filter fun u => decidedOn s.db event ≠ some u }
  | .sell now call => { s with toSystem := call.serve cfg now s.toSystem }
  | .pay moment io request =>
      { s with toSystem := Payouts.serve cfg.insurance.payout moment io s.toSystem request }
  | .cache redis => { s with redis }

end Runs

/-! ## Claims -/

section Claims

variable {cfg : Services} {kyc : ManualKyc.Config} {s s' s'' : System}

/-- Some activities lead from the one state of the system to the other. -/
def Reaches (cfg : Services) (kyc : ManualKyc.Config) (s s' : System) : Prop :=
  ∀ p : Platform, p.toSystem = s →
    ∃ activities, (Run.final (perform cfg kyc) p activities).toSystem = s'

theorem Reaches.refl (s : System) : Reaches cfg kyc s s := fun _ hp => ⟨[], hp⟩

theorem Reaches.trans (h : Reaches cfg kyc s s') (h' : Reaches cfg kyc s' s'') :
    Reaches cfg kyc s s'' := by
  intro p hp
  obtain ⟨first, hfirst⟩ := h p hp
  obtain ⟨second, hsecond⟩ := h' _ hfirst
  exact ⟨first ++ second, by rw [Run.final_append, hsecond]⟩

theorem reaches_cache (s : System) (redis : Redis) : Reaches cfg kyc s { s with redis } := by
  rintro p rfl
  exact ⟨[.cache redis], rfl⟩

/-- The state in the outcome of an operation. -/
theorem Reaches.of_eq {α : Type} {outcome : α × System} {a : α}
    (h : Reaches cfg kyc s outcome.2) (houtcome : outcome = (a, s')) : Reaches cfg kyc s s' := by
  rwa [houtcome] at h

/-- An analysis is its two halves, the second one on what the first has begun. -/
theorem reaches_analyzeFraud (io : FraudIo) (userId : String) (dto : AnalyzeFraudDto)
    (s : System) : Reaches cfg kyc s (analyzeFraud cfg.insurance.fraud io userId dto s).2 := by
  rintro p rfl
  rw [analyzeFraud_eq]
  have hbegins : (perform cfg kyc p (.fraud (.analyze io userId dto))).toSystem =
      (beginAnalysis cfg.insurance.fraud io userId dto p.toSystem).2 := rfl
  have hbegun : (perform cfg kyc p (.fraud (.analyze io userId dto))).begun =
      p.begun ++ begunOf userId dto
        (beginAnalysis cfg.insurance.fraud io userId dto p.toSystem).1 := rfl
  generalize beginAnalysis cfg.insurance.fraud io userId dto p.toSystem = outcome
    at hbegins hbegun ⊢
  split
  · rename_i riskScore s'
    refine ⟨[.fraud (.analyze io userId dto), .fraud (.store io p.begun.length)], ?_⟩
    rw [Run.final_cons]
    generalize perform cfg kyc p (.fraud (.analyze io userId dto)) = q at hbegins hbegun ⊢
    have hlast : q.begun[p.begun.length]? = some ⟨userId, dto, riskScore⟩ := by
      rw [hbegun, begunOf, List.getElem?_concat_length]
    obtain rfl : q.toSystem = s' := hbegins
    simp only [Run.final_cons, Run.final_nil, perform, FraudQueueProcessor.step, act, hlast]
  · exact ⟨[.fraud (.analyze io userId dto)], hbegins⟩

theorem reaches_processPayout (io : PayoutService.ProcessIo)
    (params : PayoutService.ProcessPayoutParams) (s : System) :
    Reaches cfg kyc s (PayoutService.processPayout cfg.insurance.payout io params s).2 := by
  rintro p rfl
  exact ⟨[.pay ⟨io.now, io.redisUp⟩ { io with readClaim := true, createDlq := true }
    (.processPayout params)], rfl⟩

theorem reaches_readFraud (io : EvaluateIo) (driverId : String)
    (dto : ProcessInsuranceRequestDto) (place : Position) (s : System) :
    Reaches cfg kyc s (readFraud cfg.insurance io driverId dto place s).2 := by
  have hscore (fraudDto : AnalyzeFraudDto) : Reaches cfg kyc s
      (computeFraudScore cfg.insurance.fraud io.fraud driverId fraudDto s).2 := by
    have hanalysis : Reaches cfg kyc s
        (analyzeFraud cfg.insurance.fraud io.fraud driverId fraudDto s).2 :=
      reaches_analyzeFraud io.fraud driverId fraudDto s
    unfold computeFraudScore
    split
    · rename_i h
      exact hanalysis.of_eq h
    · rename_i data s' h
      exact (hanalysis.of_eq h).trans (reaches_cache s' _)
  unfold readFraud
  split
  · rename_i lat lng _ _
    split
    · rename_i h
      exact (hscore _).of_eq h
    · rename_i h
      exact (hscore _).of_eq h
  · exact .refl s

theorem reaches_payClaim (io : EvaluateIo) (driverId : String) (dto : ProcessInsuranceRequestDto)
    (policy : Policy) (Ew Lf Ct : ℚ) (e : Evidence) (s : System) :
    Reaches cfg kyc s (payClaim cfg.insurance io driverId dto policy Ew Lf Ct e s).2 := by
  unfold payClaim
  split
  · exact .refl s
  · split
    · rename_i h
      exact (reaches_processPayout io.process _ s).of_eq h
    · rename_i h
      exact (reaches_processPayout io.process _ s).of_eq h

/-- A claim writes to Redis, has the driver analysed and asks for a payout. -/
theorem reaches_processInsurance (io : EvaluateIo) (driverId : String)
    (dto : ProcessInsuranceRequestDto) (s : System) :
    Reaches cfg kyc s (processInsurance cfg.insurance io driverId dto s).2 := by
  unfold processInsurance
  split
  · exact .refl s
  · exact .refl s
  · rename_i Ew policy hclaimed
    dsimp only
    split
    · exact .refl s
    · split
      · exact .refl s
      · rename_i Ct hct
        unfold evaluateClaim
        dsimp only
        have htouched : Reaches cfg kyc s
            { s with redis := touchPolicyState io policy Ct s.redis } := reaches_cache s _
        have hgathered : Reaches cfg kyc s (gatherEvidence cfg.insurance io driverId dto policy
            { s with redis := touchPolicyState io policy Ct s.redis }).2 :=
          htouched.trans (reaches_readFraud io driverId dto _ _)
        split
        · exact hgathered
        · split
          · rename_i h
            exact hgathered.trans ((reaches_payClaim io driverId dto policy Ew _ Ct _ _).of_eq h)
          · rename_i h
            exact hgathered.trans ((reaches_payClaim io driverId dto policy Ew _ Ct _ _).of_eq h)

end Claims

end Aegis.AegisEnforcementEngine
