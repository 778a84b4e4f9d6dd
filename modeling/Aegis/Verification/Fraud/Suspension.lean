import Aegis.Verification.Fraud.Activities
import Aegis.Verification.Insurance.Buyers
import Aegis.Verification.Payouts.Frames

/-! # Suspended drivers

The enforcement marks a driver in two columns. `isActive` is read by nobody, and the status of
the analysis is overwritten without being read. -/

namespace Aegis.AegisEnforcementEngine

open RedisState FraudService FraudQueueProcessor InsuranceService
open Payments (ParametricPayoutDto Payable)
open Payouts (Moment CallIo Request settles)

/-! ## The law -/

structure Sealed (t : Tables) (userId : String) : Prop where
  inactive : (t.warnings userId).isActive = false
  status : ∀ status ∈ analysisStatus t.db userId, status = "SUSPENDED"

def AllSealed (s : Platform) : Prop := ∀ u ∈ s.suspended, Sealed s.tables u

def transfersTo (transfers : List Payments.Transfer) (userId : String) : List Payments.Transfer :=
  transfers.filter fun t => t.userId = userId

/-- No policy is issued to the driver and no money paid. -/
structure NothingGained (s t : Platform) (userId : String) : Prop where
  policies : ∀ p ∈ t.db.policies.rows, p.userId = userId → Held s.db p
  payouts : transfersTo t.transfers userId = transfersTo s.transfers userId

/-- Whoever is suspended stays so, and gains nothing, until an administrator decides. -/
def Respected (cfg : Services) (kyc : ManualKyc.Config) (s : Platform) (a : Activity) : Prop :=
  ∀ u ∈ (perform cfg kyc s a).suspended, Sealed (perform cfg kyc s a).tables u ∧
    (u ∈ s.suspended → NothingGained s (perform cfg kyc s a) u)

/-- No operation on a suspended driver comes to its write. -/
def ActivityOk (cfg : Services) (s : Platform) : Activity → Prop
  | .fraud (.analyze io userId dto) => userId ∈ s.suspended → sentinelRejects dto = true →
      storesAttack io userId s.db = false
  | .fraud (.store io index) => ∀ b ∈ s.begun[index]?, b.userId ∈ s.suspended →
      stores cfg.insurance.fraud io b.userId b.riskScore s.db = false
  | .fraud (.submit _ storeCalls userId _) => userId ∈ s.suspended →
      ManualKyc.submits storeCalls userId s.db = false
  | .fraud _ => True
  | .sell now call => ∀ u ∈ call.issuesTo cfg now s.toSystem, u ∉ s.suspended
  | .pay moment io request => ∀ dto s',
      settles cfg.insurance.payout moment io s.toSystem request = some (dto, s') →
        dto.userId ∈ s.suspended → ¬Payable cfg.insurance.payout.toConfig dto s'.db
  | .score .. => True
  | .cache _ => True

/-! ## What leaves a driver alone -/

/-- The activity has not touched what concerns the driver. -/
structure Untouched (s t : Platform) (userId : String) : Prop where
  warnings : t.warnings userId = s.warnings userId
  status : analysisStatus t.db userId = analysisStatus s.db userId
  gained : NothingGained s t userId

section Steps

variable {cfg : Services} {kyc : ManualKyc.Config} {s t : Platform} {u : String}

theorem NothingGained.of_eq (hpolicies : t.db.policies = s.db.policies)
    (htransfers : t.transfers = s.transfers) : NothingGained s t u := by
  refine ⟨fun p hp _ => ?_, by rw [htransfers]⟩
  rw [hpolicies] at hp
  exact .of_mem hp

theorem Untouched.sealed (h : Untouched s t u) (hs : Sealed s.tables u) : Sealed t.tables u := by
  refine ⟨(congrArg Warnings.isActive h.warnings).trans hs.inactive, fun status hstatus => ?_⟩
  exact hs.status status (h.status ▸ hstatus)

theorem analysisStatus_congr {db db' : Db} (h : db'.fraudAnalyses = db.fraudAnalyses)
    (userId : String) : analysisStatus db' userId = analysisStatus db userId := by
  rw [analysisStatus, analysisStatus, h]

/-- Where every suspended driver is left alone, suspension is respected. -/
theorem respected_of_untouched {a : Activity} (hs : AllSealed s)
    (hsuspended : ∀ u ∈ (perform cfg kyc s a).suspended, u ∈ s.suspended)
    (h : ∀ u ∈ (perform cfg kyc s a).suspended, Untouched s (perform cfg kyc s a) u) :
    Respected cfg kyc s a :=
  fun u hu => ⟨(h u hu).sealed (hs u (hsuspended u hu)), fun _ => (h u hu).gained⟩

/-! ### Scores -/

section Scores

variable {driver_id : String} {tables : Tables}

theorem warn_sealed (h : (warn driver_id tables).1 = true) :
    Sealed (warn driver_id tables).2 driver_id := by
  unfold warn at h ⊢
  split at h
  · rename_i hknown
    rw [if_pos hknown]
    dsimp only at h ⊢
    split at h
    · rename_i hcount
      rw [if_pos hcount]
      refine ⟨by simp, fun status hstatus => ?_⟩
      rw [analysisStatus_setStatus, if_pos rfl] at hstatus
      obtain ⟨_, -, rfl⟩ := Option.map_eq_some_iff.mp hstatus
      rfl
    · cases h
  · cases h

/-- Nobody is released by a warning. -/
theorem warn_keeps (hs : Sealed tables u) : Sealed (warn driver_id tables).2 u := by
  by_cases hsuspends : (warn driver_id tables).1 = true ∧ u = driver_id
  · obtain ⟨h, rfl⟩ := hsuspends
    exact warn_sealed h
  · unfold warn at hsuspends ⊢
    split
    · rename_i hknown
      rw [if_pos hknown] at hsuspends
      dsimp only at hsuspends ⊢
      split
      · rename_i hcount
        have hu : u ≠ driver_id := by simpa [hcount] using hsuspends
        refine ⟨by simp [Function.update_of_ne hu, hs.inactive], fun status hstatus => ?_⟩
        rw [analysisStatus_setStatus, if_neg hu] at hstatus
        exact hs.status status hstatus
      · refine ⟨?_, hs.status⟩
        by_cases hu : u = driver_id
        · subst hu
          simp [hs.inactive]
        · simp [Function.update_of_ne hu, hs.inactive]
    · exact hs

theorem warn_policies : (warn driver_id tables).2.db.policies = tables.db.policies := by
  unfold warn
  split
  · dsimp only
    split
    · rfl
    · rfl
  · rfl

/-- A call of the enforcement changes nothing, or commits the statements of its transaction. -/
theorem enforceFraudPolicy_cases (io : EnforcementIo) (driver_id : Option String)
    (fraud_score : ℚ) (phone_number : Option String) (tables : Tables) :
    (enforceFraudPolicy io driver_id fraud_score phone_number tables).toTables = tables ∧
        (enforceFraudPolicy io driver_id fraud_score phone_number tables).suspends = false ∨
      ∃ id, driver_id = some id ∧
        (enforceFraudPolicy io driver_id fraud_score phone_number tables).toTables =
          (warn id tables).2 ∧
        (enforceFraudPolicy io driver_id fraud_score phone_number tables).suspends =
          (warn id tables).1 := by
  unfold enforceFraudPolicy
  split
  · exact .inl ⟨rfl, rfl⟩
  · rename_i id hid
    split
    · exact .inl ⟨rfl, rfl⟩
    · dsimp only
      cases hcommitted : io.committed with
      | false => exact .inl ⟨by simp, by simp⟩
      | true =>
          cases hrun : io.connected && io.executed with
          | false => exact .inl ⟨by simp, by simp⟩
          | true => exact .inr ⟨id, Payouts.truthy_eq_some hid, by simp, by simp⟩

theorem respected_score (request : ScoringRequest) (io : EnforcementIo)
    (phone_number : Option String) (hs : AllSealed s) :
    Respected cfg kyc s (.score request io phone_number) := by
  have hsuspended : (perform cfg kyc s (.score request io phone_number)).suspended =
      if (request.enforce io phone_number s.tables).suspends then
        request.driver_id.toList ++ s.suspended
      else s.suspended := rfl
  have hdb : (perform cfg kyc s (.score request io phone_number)).tables =
      (request.enforce io phone_number s.tables).toTables := rfl
  rcases enforceFraudPolicy_cases io request.driver_id request.fraud_score phone_number s.tables
    with ⟨htables, hsuspends⟩ | ⟨id, hid, htables, hsuspends⟩
  · rw [ScoringRequest.enforce, hsuspends] at hsuspended
    rw [ScoringRequest.enforce, htables] at hdb
    intro u hu
    rw [hsuspended] at hu
    rw [hdb]
    exact ⟨hs u hu, fun _ => .of_eq (congrArg (fun t => t.db.policies) hdb) rfl⟩
  · rw [ScoringRequest.enforce, hsuspends, hid] at hsuspended
    rw [ScoringRequest.enforce, htables] at hdb
    intro u hu
    rw [hsuspended] at hu
    rw [hdb]
    refine ⟨?_, fun _ => .of_eq ((congrArg (fun t => t.db.policies) hdb).trans warn_policies) rfl⟩
    split at hu
    · rename_i hwarned
      rcases List.mem_append.mp hu with hnew | hold
      · obtain rfl : u = id := by simpa using hnew
        exact warn_sealed hwarned
      · exact warn_keeps (hs u hold)
    · exact warn_keeps (hs u hu)

end Scores

/-! ### Analyses and decisions -/

section Fraud

variable {event : ReviewEvent}

theorem act_frame (fraud : FraudService.Config) (kyc : ManualKyc.Config) (s : ReviewState)
    (event : ReviewEvent) :
    (act fraud kyc s event).db.policies = s.db.policies ∧
      (act fraud kyc s event).transfers = s.transfers := by
  cases event with
  | analyze io userId dto =>
      have hframe : OnlyScoring s.toSystem (act fraud kyc s (.analyze io userId dto)).toSystem :=
        (beginAnalysis_began fraud io userId dto s.toSystem).frame
      obtain ⟨_, _, _, _, heq⟩ := hframe
      rw [heq]
      exact ⟨rfl, rfl⟩
  | store io index =>
      simp only [act]
      split
      · exact ⟨rfl, rfl⟩
      · rename_i b hb
        obtain ⟨_, heq⟩ := storeAnalysis_frame fraud io b.userId b.dto b.riskScore s.db
        rw [heq]
        exact ⟨rfl, rfl⟩
  | submit io storeCalls userId platformId =>
      refine ⟨?_, rfl⟩
      simp only [act]
      cases ManualKyc.submitOn_submitted kyc io storeCalls userId platformId s.db with
      | profiles kycProfiles heq => rw [heq]
      | status kycProfiles fraudAnalyses hsubmits hsets heq => rw [heq]
  | review now writable userId status =>
      refine ⟨?_, rfl⟩
      simp only [act]
      cases hreview : reviewSubmission writable userId status s.db with
      | error e => rfl
      | ok db =>
          obtain ⟨_, rfl⟩ := reviewSubmission_frame hreview
          rfl
  | decideCase now readable writable analysisId approve =>
      refine ⟨?_, rfl⟩
      simp only [act]
      cases hdecide : decideFraudCase writable readable analysisId approve s.db with
      | error e => rfl
      | ok db =>
          obtain ⟨_, rfl⟩ := decideFraudCase_frame hdecide
          rfl
  | execute io userId =>
      simp only [act, executeJob]
      split
      · exact ⟨rfl, rfl⟩
      · obtain ⟨_, heq⟩ := process_frame io userId s.db
        exact ⟨by rw [settleJob_db, heq], settleJob_transfers userId s _⟩

/-! The status of a driver's analysis stays as it is, unless the event writes just that one. -/

section StatusKept

variable {r : ReviewState} (fraud : FraudService.Config) (kyc : ManualKyc.Config)

theorem act_analyze_status {io : FraudIo} {userId : String} {dto : AnalyzeFraudDto}
    (hok : userId = u → sentinelRejects dto = true → storesAttack io userId r.db = false) :
    analysisStatus (act fraud kyc r (.analyze io userId dto)).db u = analysisStatus r.db u := by
  have hbegan := beginAnalysis_began fraud io userId dto r.toSystem
  simp only [act]
  generalize beginAnalysis fraud io userId dto r.toSystem = outcome at hbegan ⊢
  cases hbegan with
  | refused db e hrejects hframe hstored hlost =>
      cases hwrites : storesAttack io userId r.db with
      | false => rw [hlost hwrites]
      | true =>
          refine (hstored hwrites).of_ne fun hu => ?_
          exact absurd hwrites (by simp [hok hu.symm hrejects])
  | stopped claimFingerprints result hrejects hnone => rfl
  | verdict claimFingerprints redis riskScore hrejects hqueue => rfl

theorem act_store_status {io : FraudIo} {index : ℕ}
    (hok : ∀ b ∈ r.begun[index]?, b.userId = u →
      stores fraud io b.userId b.riskScore r.db = false) :
    analysisStatus (act fraud kyc r (.store io index)).db u = analysisStatus r.db u := by
  simp only [act]
  split
  · rfl
  · rename_i b hb
    obtain ⟨hstored, hlost⟩ := storeAnalysis_status fraud io b.userId b.dto b.riskScore r.db
    cases hwrites : stores fraud io b.userId b.riskScore r.db with
    | false => rw [hlost hwrites]
    | true =>
        refine (hstored hwrites).of_ne fun hu => ?_
        exact absurd hwrites (by simp [hok b hb hu.symm])

theorem act_submit_status {io : ManualKyc.Io} {storeCalls : ℕ} {userId : String}
    {platformId : Option String}
    (hok : userId = u → ManualKyc.submits storeCalls userId r.db = false) :
    analysisStatus (act fraud kyc r (.submit io storeCalls userId platformId)).db u =
      analysisStatus r.db u := by
  simp only [act]
  cases ManualKyc.submitOn_submitted kyc io storeCalls userId platformId r.db with
  | profiles kycProfiles heq => exact analysisStatus_congr (by rw [heq]) u
  | status kycProfiles fraudAnalyses hsubmits hsets heq =>
      refine hsets.of_ne fun hu => ?_
      exact absurd hsubmits (by simp [hok hu.symm])

theorem act_review_status {now : ℤ} {writable : Bool} {userId status : String}
    (hundecided : decidedOn r.db (.review now writable userId status) ≠ some u) :
    analysisStatus (act fraud kyc r (.review now writable userId status)).db u =
      analysisStatus r.db u := by
  simp only [act]
  cases hreview : reviewSubmission writable userId status r.db with
  | error e => rfl
  | ok db =>
      refine (reviewSubmission_status hreview).2.2.of_ne ?_
      rintro rfl
      exact hundecided (by simp [decidedOn, hreview, Except.isOk, Except.toBool])

theorem act_decideCase_status {now : ℤ} {readable writable approve : Bool} {analysisId : String}
    (hundecided :
      decidedOn r.db (.decideCase now readable writable analysisId approve) ≠ some u) :
    analysisStatus (act fraud kyc r (.decideCase now readable writable analysisId approve)).db u =
      analysisStatus r.db u := by
  simp only [act]
  cases hdecide : decideFraudCase writable readable analysisId approve r.db with
  | error e => rfl
  | ok db =>
      obtain ⟨analysis, hfound, hsets⟩ := decideFraudCase_status hdecide
      refine hsets.of_ne ?_
      rintro rfl
      exact hundecided (by simp [decidedOn, hdecide, hfound, Except.isOk, Except.toBool])

/-- The queue rejects none but the inconclusive. -/
theorem act_execute_status {io : JobIo} {userId : String}
    (hstatus : analysisStatus r.db u ≠ some "INCONCLUSIVE") :
    analysisStatus (act fraud kyc r (.execute io userId)).db u = analysisStatus r.db u := by
  simp only [act, executeJob]
  split
  · rfl
  · rw [settleJob_db]
    have hprocessed := process_processed io userId r.db
    generalize process io userId r.db = outcome at hprocessed ⊢
    cases hprocessed with
    | idle result hidle => rfl
    | failed e hinconclusive hdown => rfl
    | rejected db' hinconclusive hsets =>
        refine hsets.of_ne ?_
        rintro rfl
        exact hstatus hinconclusive

end StatusKept

theorem act_status (hs : Sealed s.tables u) (hu : u ∈ s.suspended)
    (hok : ActivityOk cfg s (.fraud event)) (hundecided : decidedOn s.db event ≠ some u) :
    analysisStatus (act cfg.insurance.fraud kyc s.toReviewState event).db u =
      analysisStatus s.db u := by
  cases event with
  | analyze io userId dto =>
      refine act_analyze_status cfg.insurance.fraud kyc ?_
      rintro rfl
      exact hok hu
  | store io index =>
      refine act_store_status cfg.insurance.fraud kyc fun b hb => ?_
      rintro rfl
      exact hok b hb hu
  | submit io storeCalls userId platformId =>
      refine act_submit_status cfg.insurance.fraud kyc ?_
      rintro rfl
      exact hok hu
  | review now writable userId status =>
      exact act_review_status cfg.insurance.fraud kyc hundecided
  | decideCase now readable writable analysisId approve =>
      exact act_decideCase_status cfg.insurance.fraud kyc hundecided
  | execute io userId =>
      refine act_execute_status cfg.insurance.fraud kyc fun hinconclusive => ?_
      exact absurd (hs.status _ hinconclusive) (by decide)

theorem respected_fraud (event : ReviewEvent) (hs : AllSealed s)
    (hok : ActivityOk cfg s (.fraud event)) : Respected cfg kyc s (.fraud event) := by
  refine respected_of_untouched hs (fun u hu => List.mem_of_mem_filter hu) fun u hu => ?_
  obtain ⟨hsuspended, hundecided⟩ := List.mem_filter.mp hu
  obtain ⟨hpolicies, htransfers⟩ :=
    act_frame cfg.insurance.fraud kyc s.toReviewState event
  refine ⟨rfl, ?_, .of_eq hpolicies htransfers⟩
  exact act_status (hs u hsuspended) hsuspended hok (by simpa using hundecided)

end Fraud

/-! ### Sales and payouts -/

theorem respected_sell (now : ℤ) (call : Call) (hs : AllSealed s)
    (hok : ActivityOk cfg s (.sell now call)) : Respected cfg kyc s (.sell now call) := by
  have hframe := call.serve_frame cfg now s.toSystem
  refine respected_of_untouched hs (fun _ hu => hu) fun u hu => ?_
  refine ⟨rfl, analysisStatus_congr hframe.fraudAnalyses u, fun p hp howner => ?_, ?_⟩
  · rcases Call.serve_adds hp with hheld | hissued
    · exact hheld
    · exact absurd (howner ▸ hu) (hok p.userId hissued)
  · exact congrArg (transfersTo · u) hframe.transfers

/-- A payout to a suspended driver would have been payable. -/
theorem transfersTo_serve {moment : Moment} {io : CallIo} {request : Request}
    (hok : ActivityOk cfg s (.pay moment io request)) (hu : u ∈ s.suspended) :
    transfersTo (Payouts.serve cfg.insurance.payout moment io s.toSystem request).transfers u =
      transfersTo s.transfers u := by
  obtain ⟨executed, htransfers, howners⟩ :=
    Payouts.serve_executed cfg.insurance.payout moment io s.toSystem request
  have hnone : transfersTo executed u = [] := by
    refine List.filter_eq_nil_iff.mpr fun t ht => ?_
    have hmoved : (Payouts.serve cfg.insurance.payout moment io s.toSystem request).transfers ≠
        s.transfers := by
      rw [htransfers]
      simpa using List.ne_nil_of_mem ht
    obtain ⟨dto, s', hsettles, hpayable⟩ := Payouts.payable_of_serve hmoved
    obtain ⟨dto', s'', hsettles', howner⟩ := howners t ht
    obtain ⟨rfl, rfl⟩ : dto = dto' ∧ s' = s'' := by
      rw [hsettles, Option.some.injEq, Prod.mk.injEq] at hsettles'
      exact hsettles'
    rw [howner, decide_eq_true_eq]
    rintro rfl
    exact hok dto s' hsettles hu hpayable
  rw [htransfers, transfersTo, List.filter_append, ← transfersTo, ← transfersTo, hnone,
    List.append_nil]

theorem respected_pay (moment : Moment) (io : CallIo) (request : Request) (hs : AllSealed s)
    (hok : ActivityOk cfg s (.pay moment io request)) :
    Respected cfg kyc s (.pay moment io request) := by
  have hframe := Payouts.serve_frame cfg.insurance.payout moment io s.toSystem request
  refine respected_of_untouched hs (fun _ hu => hu) fun u hu => ?_
  refine ⟨rfl, analysisStatus_congr hframe.fraudAnalyses u, fun p hp _ => .of_mem ?_, ?_⟩
  · exact hframe.policies ▸ hp
  · exact transfersTo_serve hok hu

/-- The step lemma. -/
theorem respected_of_ok {a : Activity} (hs : AllSealed s) (hok : ActivityOk cfg s a) :
    Respected cfg kyc s a := by
  cases a with
  | score request io phone_number => exact respected_score request io phone_number hs
  | fraud event => exact respected_fraud event hs hok
  | sell now call => exact respected_sell now call hs hok
  | pay moment io request => exact respected_pay moment io request hs hok
  | cache redis => exact fun u hu => ⟨hs u hu, fun _ => .of_eq rfl rfl⟩

theorem Respected.allSealed {a : Activity} (h : Respected cfg kyc s a) :
    AllSealed (perform cfg kyc s a) := fun u hu => (h u hu).1

end Steps

/-- The run lemma: suspension is final as long as no operation on a suspended driver comes to
its write. -/
theorem along_respected (cfg : Services) (kyc : ManualKyc.Config) {s : Platform}
    {activities : List Activity} (hs : AllSealed s)
    (hok : Run.Along (perform cfg kyc) (ActivityOk cfg) s activities) :
    Run.Along (perform cfg kyc) (Respected cfg kyc) s activities :=
  Run.along_of_step (fun _ _ hs hok =>
    ⟨(respected_of_ok hs hok).allSealed, respected_of_ok hs hok⟩) hs hok

/-! ## What a suspended driver can do -/

namespace Barred

/-- The driver has a policy, can be paid, and was just seen. -/
def start : Platform where
  db := { Payments.Sample.db with fraudAnalyses := .singleton (blankAnalysis "fa1" "u1") }
  redis := InsuranceService.Sale.start.redis

def score : Activity := .score (.standard (some "u1") (9 / 10)) {} none

/-- The third warning suspends. -/
def suspension : List Activity := [score, score, score]

def analysis : Activity := .fraud (.analyze (Review.fraudIo 0) "u1" Review.telemetry)

def verdict (writeAnalysis : Bool) : Activity :=
  .fraud (.store { Review.fraudIo 0 with writeAnalysis } 0)

def submission (storeCalls : ℕ) : Activity := .fraud (.submit ⟨0, "fa1"⟩ storeCalls "u1" none)

def enrolment (createPolicy : Bool) : Activity :=
  .sell 0 (.enrollPolicy
    { InsuranceService.Sale.enrollIo with policyId := "p2", createPolicy } "u1" "STANDARD")

def payout (userId : String) : Activity :=
  .pay Payouts.Ungated.noon Payouts.Ungated.callIo
    (.parametricPayout ⟨userId, .DRIVER⟩ Payouts.Ungated.body)

def decision : Activity := .fraud (.review 0 true "u1" "APPROVED")

/-- Nothing is written for the driver until an administrator decides. -/
def patient : List Activity :=
  suspension ++ [analysis, verdict false, enrolment false, payout "u2", submission 0, decision,
    enrolment true]

end Barred

open Barred in
theorem along_respected_patient :
    Run.Along (perform Sale.services Review.kyc) (Respected Sale.services Review.kyc) start
      patient := by
  refine along_respected _ _ (fun u hu => absurd hu List.not_mem_nil) ?_
  refine Run.along_append.mpr ⟨⟨trivial, trivial, trivial, trivial⟩, ?_, ?_, ?_, ?_, ?_, trivial,
    ?_, trivial⟩
  · exact fun _ hrejects => absurd hrejects (by decide)
  · unfold verdict ActivityOk
    decide +kernel
  · unfold enrolment ActivityOk
    decide +kernel
  · rintro dto s' hsettles
    cases hsettles
    exact fun hsuspended => absurd hsuspended (by decide +kernel)
  · exact fun _ => by decide
  · unfold enrolment ActivityOk
    decide +kernel

open Barred in
/-- After the suspension a verdict is stored, documents are submitted, a policy is sold and
money paid. -/
theorem not_along_respected :
    ¬Run.Along (perform Sale.services Review.kyc) (Respected Sale.services Review.kyc) start
        (suspension ++ [analysis, verdict true]) ∧
      ¬Run.Along (perform Sale.services Review.kyc) (Respected Sale.services Review.kyc) start
        (suspension ++ [submission 5]) ∧
      ¬Run.Along (perform Sale.services Review.kyc) (Respected Sale.services Review.kyc) start
        (suspension ++ [enrolment true]) ∧
      ¬Run.Along (perform Sale.services Review.kyc) (Respected Sale.services Review.kyc) start
        (suspension ++ [payout "u1"]) := by
  refine ⟨fun h => ?_, fun h => ?_, fun h => ?_, fun h => ?_⟩
  · have hlast := ((Run.along_append.mp h).2.2.1 "u1" (by decide +kernel)).1
    exact absurd (hlast.status "INCONCLUSIVE" (by decide +kernel)) (by decide)
  · have hlast := ((Run.along_append.mp h).2.1 "u1" (by decide +kernel)).1
    exact absurd (hlast.status "INCONCLUSIVE" (by decide +kernel)) (by decide)
  · have hlast := ((Run.along_append.mp h).2.1 "u1" (by decide +kernel)).2 (by decide +kernel)
    exact absurd hlast.policies (by decide +kernel)
  · have hlast := ((Run.along_append.mp h).2.1 "u1" (by decide +kernel)).2 (by decide +kernel)
    exact absurd hlast.payouts (by decide +kernel)

end Aegis.AegisEnforcementEngine
