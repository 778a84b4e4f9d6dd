import Aegis.Library.Run
import Aegis.Verification.Fraud.Status
import Aegis.Verification.Payments.Retry

/-! # The forensic window

An inconclusive analysis is to wait five minutes for an analyst, by way of one delayed job per
user. Only one of the writers of the status starts the job, and none of them stops it. -/

namespace Aegis.FraudQueueProcessor

open RedisState FraudService

def REVIEW_DELAY : ℤ := 5 * 60 * 1000

/-- An analysis between its two halves. -/
structure Begun where
  userId : String
  dto : AnalyzeFraudDto
  riskScore : JsNumber

/-- `failed` lists the users whose job has failed. `since` is the time at which the analysis of a
user last became inconclusive; every rejection by the queue is kept with that time and its own. -/
structure ReviewState extends System where
  failed : List String := []
  begun : List Begun := []
  since : String → ℤ := fun _ => 0
  rejections : List (ℤ × ℤ) := []

inductive ReviewEvent where
  | analyze (io : FraudIo) (userId : String) (dto : AnalyzeFraudDto)
  | store (io : FraudIo) (index : ℕ)
  | submit (io : ManualKyc.Io) (storeCalls : ℕ) (userId : String) (platformId : Option String)
  | review (now : ℤ) (writable : Bool) (userId status : String)
  | decideCase (now : ℤ) (readable writable : Bool) (analysisId : String) (approve : Bool)
  | execute (io : JobIo) (userId : String)

def ReviewEvent.now : ReviewEvent → ℤ
  | analyze io _ _ => io.now
  | store io _ => io.now
  | submit io _ _ _ => io.now
  | review now _ _ _ => now
  | decideCase now _ _ _ _ => now
  | execute io _ => io.now

def Inconclusive (s : ReviewState) (userId : String) : Prop :=
  analysisStatus s.db userId = some "INCONCLUSIVE"

instance (s : ReviewState) (userId : String) : Decidable (Inconclusive s userId) :=
  inferInstanceAs (Decidable (_ = _))

/-! ## The queue -/

def jobOf (redis : Redis) (userId : String) : Option ReviewJob :=
  redis.reviewJobs.find? fun job => job.userId = userId

/-- The job of the user, if it may run now. -/
def dueJob (now : ℤ) (userId : String) (s : ReviewState) : Option ReviewJob :=
  (jobOf s.redis userId).filter fun job => decide (userId ∉ s.failed) && decide (job.dueAt ≤ now)

/-- A completed job is removed, a failed one stays. -/
def settleJob (userId : String) (s : ReviewState) (outcome : Except Exn String × Db) :
    ReviewState :=
  match outcome with
  | (.ok _, db) =>
      { s with
        db
        redis := { s.redis with
          reviewJobs := s.redis.reviewJobs.filter fun job => job.userId ≠ userId } }
  | (.error _, db) => { s with db, failed := userId :: s.failed }

def executeJob (io : JobIo) (userId : String) (s : ReviewState) : ReviewState :=
  match dueJob io.now userId s with
  | none => s
  | some _ => settleJob userId s (process io userId s.db)

/-! ## Runs -/

section Runs

variable (cfg : Config) (kyc : ManualKyc.Config)

/-- What the first half leaves for the second. -/
def begunOf (userId : String) (dto : AnalyzeFraudDto) :
    Except Exn (Option JsNumber) → List Begun
  | .ok (some riskScore) => [⟨userId, dto, riskScore⟩]
  | _ => []

def act (s : ReviewState) : ReviewEvent → ReviewState
  | .analyze io userId dto =>
      let outcome := beginAnalysis cfg io userId dto s.toSystem
      { s with toSystem := outcome.2, begun := s.begun ++ begunOf userId dto outcome.1 }
  | .store io index =>
      match s.begun[index]? with
      | none => s
      | some b => { s with
          db := storeAnalysis cfg io b.userId b.dto b.riskScore s.db
          begun := s.begun.eraseIdx index }
  | .submit io storeCalls userId platformId =>
      { s with db := ManualKyc.submitOn kyc io storeCalls userId platformId s.db }
  | .review _ writable userId status =>
      { s with db := (reviewSubmission writable userId status s.db).toOption.getD s.db }
  | .decideCase _ readable writable analysisId approve =>
      { s with db :=
          (decideFraudCase writable readable analysisId approve s.db).toOption.getD s.db }
  | .execute io userId => executeJob io userId s

/-- The rejection by a job, with the time since when the analysis was inconclusive. -/
def rejectionOf (s t : ReviewState) : ReviewEvent → List (ℤ × ℤ)
  | .execute io userId =>
      if Inconclusive s userId ∧ analysisStatus t.db userId = some "AUTO_REJECTED" then
        [(s.since userId, io.now)]
      else []
  | _ => []

def step (s : ReviewState) (event : ReviewEvent) : ReviewState :=
  let t := act cfg kyc s event
  { t with
    since := fun u => if Inconclusive t u ∧ ¬Inconclusive s u then event.now else s.since u
    rejections := s.rejections ++ rejectionOf s t event }

end Runs

/-! ## The law -/

/-- A job of the user waits. -/
def JobPending (s : ReviewState) (userId : String) : Prop :=
  userId ∉ s.failed ∧ (jobOf s.redis userId).isSome = true

structure WindowEnforced (s : ReviewState) : Prop where
  pending : ∀ userId, Inconclusive s userId → JobPending s userId
  timely : ∀ r ∈ s.rejections, r.1 + REVIEW_DELAY ≤ r.2

/-- A job of the user waits for as long as the window that opens at `now`. -/
def Covered (s : ReviewState) (userId : String) (now : ℤ) : Prop :=
  userId ∉ s.failed ∧ ∃ job ∈ jobOf s.redis userId, now + REVIEW_DELAY ≤ job.dueAt

instance (s : ReviewState) (userId : String) (now : ℤ) : Decidable (Covered s userId now) :=
  inferInstanceAs (Decidable (_ ∧ _))

/-- The invariant: every open window is covered. -/
structure Windowed (s : ReviewState) : Prop where
  covered : ∀ userId, Inconclusive s userId → Covered s userId (s.since userId)
  timely : ∀ r ∈ s.rejections, r.1 + REVIEW_DELAY ≤ r.2

/-- Who makes an analysis inconclusive finds a job that waits long enough; a job that meets such
an analysis can write. -/
def EventOk (cfg : Config) (s : ReviewState) : ReviewEvent → Prop
  | .analyze _ _ _ => True
  | .store io index => ∀ b ∈ s.begun[index]?, stores cfg io b.userId b.riskScore s.db = true →
      statusOf b.riskScore = "INCONCLUSIVE" → ¬Inconclusive s b.userId → Covered s b.userId io.now
  | .submit io storeCalls userId _ => ManualKyc.submits storeCalls userId s.db = true →
      ¬Inconclusive s userId → Covered s userId io.now
  | .review now writable userId status => writable = true → status = "INCONCLUSIVE" →
      analysisStatus s.db userId ≠ none → ¬Inconclusive s userId → Covered s userId now
  | .decideCase _ _ _ _ _ => True
  | .execute io userId => Inconclusive s userId → (dueJob io.now userId s).isSome = true →
      (io.readAnalysis && io.writeAnalysis) = true

instance (cfg : Config) (s : ReviewState) : DecidablePred (EventOk cfg s)
  | .analyze .. | .decideCase .. => inferInstanceAs (Decidable True)
  | .store .. | .submit .. | .review .. | .execute .. => by unfold EventOk; infer_instance

section Steps

variable {cfg : Config} {kyc : ManualKyc.Config} {s : ReviewState}

theorem Windowed.enforced (h : Windowed s) : WindowEnforced s := by
  refine ⟨fun userId hinconclusive => ?_, h.timely⟩
  obtain ⟨hfailed, job, hjob, -⟩ := h.covered userId hinconclusive
  exact ⟨hfailed, by rw [hjob]; rfl⟩

/-- A window that stays open stays covered, a new one is. -/
theorem windowed_step_of {event : ReviewEvent} (hs : Windowed s)
    (hopen : ∀ u, Inconclusive s u → Inconclusive (act cfg kyc s event) u →
      ∀ now, Covered s u now → Covered (act cfg kyc s event) u now)
    (hnew : ∀ u, ¬Inconclusive s u → Inconclusive (act cfg kyc s event) u →
      Covered (act cfg kyc s event) u event.now)
    (htimely : ∀ r ∈ rejectionOf s (act cfg kyc s event) event, r.1 + REVIEW_DELAY ≤ r.2) :
    Windowed (step cfg kyc s event) := by
  constructor
  · intro u hafter
    have hinconclusive : Inconclusive (act cfg kyc s event) u := hafter
    by_cases hbefore : Inconclusive s u
    · have hsince : (step cfg kyc s event).since u = s.since u := if_neg fun h => h.2 hbefore
      rw [hsince]
      exact hopen u hbefore hinconclusive _ (hs.covered u hbefore)
    · have hsince : (step cfg kyc s event).since u = event.now :=
        if_pos ⟨hinconclusive, hbefore⟩
      rw [hsince]
      exact hnew u hbefore hinconclusive
  · intro r hr
    rcases List.mem_append.mp hr with hold | hnew
    · exact hs.timely r hold
    · exact htimely r hnew

theorem jobOf_queueReview {io : FraudIo} {userId v : String} {riskScore : JsNumber}
    {redis redis' : Redis} {job : ReviewJob}
    (h : queueReview io userId riskScore redis = .ok redis') (hjob : jobOf redis v = some job) :
    jobOf redis' v = some job := by
  unfold queueReview at h
  split at h
  · split at h
    · cases h
      unfold addReviewJob
      split
      · exact hjob
      · rw [jobOf, List.find?_append, ← jobOf, hjob]
        rfl
    · cases h
  · cases h
    exact hjob

theorem covered_analyze {io : FraudIo} {userId u : String} {dto : AnalyzeFraudDto} {now : ℤ}
    (h : Covered s u now) : Covered (act cfg kyc s (.analyze io userId dto)) u now := by
  obtain ⟨hfailed, job, hjob, hdue⟩ := h
  have hbegan := beginAnalysis_began cfg io userId dto s.toSystem
  have hredis : jobOf (beginAnalysis cfg io userId dto s.toSystem).2.redis u = some job := by
    generalize beginAnalysis cfg io userId dto s.toSystem = outcome at hbegan
    cases hbegan with
    | refused db e hrejects hframe hstored hlost => exact hjob
    | stopped claimFingerprints result hrejects hnone => exact hjob
    | verdict claimFingerprints redis riskScore hrejects hqueue =>
        exact jobOf_queueReview hqueue hjob
  exact ⟨hfailed, job, hredis, hdue⟩

/-- The first half of an analysis opens no window. -/
theorem inconclusive_of_analyze {io : FraudIo} {userId u : String} {dto : AnalyzeFraudDto}
    (hafter : Inconclusive (act cfg kyc s (.analyze io userId dto)) u) : Inconclusive s u := by
  have hbegan := beginAnalysis_began cfg io userId dto s.toSystem
  have hdb : analysisStatus (beginAnalysis cfg io userId dto s.toSystem).2.db u =
      some "INCONCLUSIVE" := hafter
  generalize beginAnalysis cfg io userId dto s.toSystem = outcome at hbegan hdb
  cases hbegan with
  | refused db e hrejects hframe hstored hlost =>
      cases hwrites : storesAttack io userId s.db with
      | false =>
          obtain rfl := hlost hwrites
          exact hdb
      | true =>
          by_cases hu : u = userId
          · subst hu
            have hattack := (hstored hwrites).self
            dsimp only at hdb
            rw [hattack] at hdb
            exact absurd hdb (by decide)
          · have hsame := (hstored hwrites).of_ne hu
            exact hsame.symm.trans hdb
  | stopped claimFingerprints result hrejects hnone => exact hdb
  | verdict claimFingerprints redis riskScore hrejects hqueue => exact hdb

theorem windowed_analyze (hs : Windowed s) (io : FraudIo) (userId : String)
    (dto : AnalyzeFraudDto) : Windowed (step cfg kyc s (.analyze io userId dto)) :=
  windowed_step_of hs (fun _ _ _ _ h => covered_analyze h)
    (fun _ hbefore hafter => absurd (inconclusive_of_analyze hafter) hbefore)
    (by simp [rejectionOf])

/-- An event that only writes the store needs a job for every window that it opens. -/
theorem windowed_of_db {event : ReviewEvent} (db : Db) (hs : Windowed s)
    (hdb : (act cfg kyc s event).db = db) (hredis : (act cfg kyc s event).redis = s.redis)
    (hfailed : (act cfg kyc s event).failed = s.failed)
    (hnew : ∀ u, ¬Inconclusive s u → analysisStatus db u = some "INCONCLUSIVE" →
      Covered s u event.now)
    (hnone : rejectionOf s (act cfg kyc s event) event = []) : Windowed (step cfg kyc s event) := by
  have hcovered : ∀ u now, Covered (act cfg kyc s event) u now ↔ Covered s u now := by
    intro u now
    rw [Covered, Covered, hredis, hfailed]
  refine windowed_step_of hs (fun u _ _ now h => (hcovered u now).mpr h)
    (fun u hbefore hafter => ?_) (by simp [hnone])
  rw [Inconclusive, hdb] at hafter
  exact (hcovered u _).mpr (hnew u hbefore hafter)

/-- A write of one status opens a window for that user at most. -/
theorem covered_of_setsStatus {userId status : String} {db : Db} {now : ℤ}
    (hsets : SetsStatus userId status s.db db)
    (hok : status = "INCONCLUSIVE" → ¬Inconclusive s userId → Covered s userId now) (u : String)
    (hbefore : ¬Inconclusive s u) (hafter : analysisStatus db u = some "INCONCLUSIVE") :
    Covered s u now := by
  by_cases hu : u = userId
  · subst hu
    rw [hsets.self, Option.some.injEq] at hafter
    exact hok hafter hbefore
  · rw [hsets.of_ne hu] at hafter
    exact absurd hafter hbefore

theorem windowed_store (hs : Windowed s) (io : FraudIo) (index : ℕ)
    (hok : EventOk cfg s (.store io index)) : Windowed (step cfg kyc s (.store io index)) := by
  cases hb : s.begun[index]? with
  | none =>
      have hact : act cfg kyc s (.store io index) = s := by simp [act, hb]
      exact windowed_of_db s.db hs (by rw [hact]) (by rw [hact]) (by rw [hact])
        (fun u hbefore hafter => absurd hafter hbefore) rfl
  | some b =>
      have hact : act cfg kyc s (.store io index) = { s with
          db := storeAnalysis cfg io b.userId b.dto b.riskScore s.db
          begun := s.begun.eraseIdx index } := by simp [act, hb]
      refine windowed_of_db _ hs (by rw [hact]) (by rw [hact]) (by rw [hact])
        (fun u hbefore hafter => ?_) rfl
      obtain ⟨hstored, hlost⟩ := storeAnalysis_status cfg io b.userId b.dto b.riskScore s.db
      cases hstores : stores cfg io b.userId b.riskScore s.db with
      | true => exact covered_of_setsStatus (hstored hstores) (hok b hb hstores) u hbefore hafter
      | false =>
          rw [hlost hstores] at hafter
          exact absurd hafter hbefore

theorem windowed_submit (hs : Windowed s) (io : ManualKyc.Io) (storeCalls : ℕ) (userId : String)
    (platformId : Option String) (hok : EventOk cfg s (.submit io storeCalls userId platformId)) :
    Windowed (step cfg kyc s (.submit io storeCalls userId platformId)) := by
  refine windowed_of_db (ManualKyc.submitOn kyc io storeCalls userId platformId s.db) hs rfl rfl rfl
    (fun u hbefore hafter => ?_) rfl
  cases ManualKyc.submitOn_submitted kyc io storeCalls userId platformId s.db with
  | profiles kycProfiles heq =>
      rw [heq] at hafter
      exact absurd hafter hbefore
  | status kycProfiles fraudAnalyses hsubmits hsets heq =>
      exact covered_of_setsStatus hsets (fun _ => hok hsubmits) u hbefore hafter

theorem windowed_review (hs : Windowed s) (now : ℤ) (writable : Bool) (userId status : String)
    (hok : EventOk cfg s (.review now writable userId status)) :
    Windowed (step cfg kyc s (.review now writable userId status)) := by
  refine windowed_of_db ((reviewSubmission writable userId status s.db).toOption.getD s.db) hs rfl
    rfl rfl (fun u hbefore hafter => ?_) rfl
  cases hreview : reviewSubmission writable userId status s.db with
  | error e =>
      rw [hreview] at hafter
      exact absurd hafter hbefore
  | ok db =>
      rw [hreview] at hafter
      obtain ⟨hwritable, hfound, hsets⟩ := reviewSubmission_status hreview
      exact covered_of_setsStatus hsets (fun hstatus => hok hwritable hstatus hfound) u hbefore
        hafter

theorem windowed_decideCase (hs : Windowed s) (now : ℤ) (readable writable : Bool)
    (analysisId : String) (approve : Bool) :
    Windowed (step cfg kyc s (.decideCase now readable writable analysisId approve)) := by
  refine windowed_of_db
    ((decideFraudCase writable readable analysisId approve s.db).toOption.getD s.db) hs rfl rfl rfl
    (fun u hbefore hafter => ?_) rfl
  cases hdecide : decideFraudCase writable readable analysisId approve s.db with
  | error e =>
      rw [hdecide] at hafter
      exact absurd hafter hbefore
  | ok db =>
      rw [hdecide] at hafter
      obtain ⟨analysis, -, hsets⟩ := decideFraudCase_status hdecide
      refine covered_of_setsStatus hsets (fun hstatus => ?_) u hbefore hafter
      cases approve with
      | true => exact absurd hstatus (by decide)
      | false => exact absurd hstatus (by decide)

/-! ## The queue at work -/

theorem jobOf_filter_of_ne {redis : Redis} {userId u : String} (hu : u ≠ userId) :
    jobOf { redis with
      reviewJobs := redis.reviewJobs.filter fun job => job.userId ≠ userId } u = jobOf redis u := by
  simp only [jobOf, List.find?_filter]
  congr 1
  funext job
  by_cases hjob : job.userId = u
  · simp [hjob, hu]
  · simp [hjob]

theorem settleJob_db (userId : String) (s : ReviewState) (outcome : Except Exn String × Db) :
    (settleJob userId s outcome).db = outcome.2 := by
  obtain ⟨result, db⟩ := outcome
  cases result with
  | error e => rfl
  | ok message => rfl

theorem settleJob_transfers (userId : String) (s : ReviewState)
    (outcome : Except Exn String × Db) :
    (settleJob userId s outcome).transfers = s.transfers := by
  obtain ⟨result, db⟩ := outcome
  cases result with
  | error e => rfl
  | ok message => rfl

theorem covered_settleJob {userId u : String} {now : ℤ} (outcome : Except Exn String × Db)
    (hu : u ≠ userId) (h : Covered s u now) : Covered (settleJob userId s outcome) u now := by
  obtain ⟨hfailed, job, hjob, hdue⟩ := h
  obtain ⟨result, db⟩ := outcome
  cases result with
  | error e => exact ⟨by simp [settleJob, hu, hfailed], job, hjob, hdue⟩
  | ok message => exact ⟨hfailed, job, (jobOf_filter_of_ne hu).trans hjob, hdue⟩

theorem dueJob_eq_some {now : ℤ} {userId : String} {job : ReviewJob}
    (h : dueJob now userId s = some job) : jobOf s.redis userId = some job ∧ job.dueAt ≤ now := by
  obtain ⟨hjob, hready⟩ := Option.filter_eq_some_iff.mp h
  simp only [Bool.and_eq_true, decide_eq_true_eq] at hready
  exact ⟨hjob, hready.2⟩

theorem act_execute {io : JobIo} {userId : String} {job : ReviewJob}
    (hdue : dueJob io.now userId s = some job) :
    act cfg kyc s (.execute io userId) = settleJob userId s (process io userId s.db) := by
  simp only [act, executeJob, hdue]

/-- The job leaves its own analysis settled and those of the others alone. -/
theorem inconclusive_of_execute {io : JobIo} {userId u : String} {job : ReviewJob}
    (hok : EventOk cfg s (.execute io userId)) (hdue : dueJob io.now userId s = some job)
    (hafter : Inconclusive (act cfg kyc s (.execute io userId)) u) :
    u ≠ userId ∧ Inconclusive s u := by
  have hprocessed := process_processed io userId s.db
  rw [Inconclusive, act_execute hdue, settleJob_db] at hafter
  generalize process io userId s.db = outcome at hprocessed hafter
  cases hprocessed with
  | idle result hstatus =>
      refine ⟨?_, hafter⟩
      rintro rfl
      exact hstatus hafter
  | failed e hstatus hdown =>
      have hup := hok hstatus (by rw [hdue]; rfl)
      rw [hdown] at hup
      exact absurd hup (by decide)
  | rejected db' hstatus hsets =>
      have hu : u ≠ userId := by
        rintro rfl
        exact absurd (hsets.self.symm.trans hafter) (by decide)
      exact ⟨hu, (hsets.of_ne hu).symm.trans hafter⟩

theorem windowed_execute (hs : Windowed s) (io : JobIo) (userId : String)
    (hok : EventOk cfg s (.execute io userId)) :
    Windowed (step cfg kyc s (.execute io userId)) := by
  cases hdue : dueJob io.now userId s with
  | none =>
      have hact : act cfg kyc s (.execute io userId) = s := by simp [act, executeJob, hdue]
      refine windowed_of_db s.db hs (by rw [hact]) (by rw [hact]) (by rw [hact])
        (fun u hbefore hafter => absurd hafter hbefore) ?_
      rw [hact, rejectionOf, if_neg]
      rintro ⟨hinconclusive, hrejected⟩
      rw [Inconclusive, hrejected] at hinconclusive
      exact absurd hinconclusive (by decide)
  | some job =>
      have hothers (u : String) (hafter : Inconclusive (act cfg kyc s (.execute io userId)) u) :
          u ≠ userId ∧ Inconclusive s u := inconclusive_of_execute hok hdue hafter
      refine windowed_step_of hs (fun u _ hafter now h => ?_)
        (fun u hbefore hafter => absurd (hothers u hafter).2 hbefore) fun r hr => ?_
      · rw [act_execute hdue]
        exact covered_settleJob _ (hothers u hafter).1 h
      · rw [rejectionOf] at hr
        split at hr
        · rename_i hrejected
          obtain ⟨-, waited, hwaited, hlate⟩ := hs.covered userId hrejected.1
          obtain ⟨hjob, hready⟩ := dueJob_eq_some hdue
          obtain rfl := Option.some.inj (hwaited.symm.trans hjob)
          rw [List.mem_singleton.mp hr]
          exact hlate.trans hready
        · cases hr

/-- The step lemma. -/
theorem windowed_step {event : ReviewEvent} (hs : Windowed s) (hok : EventOk cfg s event) :
    Windowed (step cfg kyc s event) := by
  cases event with
  | analyze io userId dto => exact windowed_analyze hs io userId dto
  | store io index => exact windowed_store hs io index hok
  | submit io storeCalls userId platformId =>
      exact windowed_submit hs io storeCalls userId platformId hok
  | review now writable userId status => exact windowed_review hs now writable userId status hok
  | decideCase now readable writable analysisId approve =>
      exact windowed_decideCase hs now readable writable analysisId approve
  | execute io userId => exact windowed_execute hs io userId hok

end Steps

/-- The run lemma: the window is enforced in every run in which each analysis that becomes
inconclusive has a job due five minutes later or after that, and no such job fails. -/
theorem always_windowEnforced (cfg : Config) (kyc : ManualKyc.Config) {s : ReviewState}
    {events : List ReviewEvent} (hs : Windowed s)
    (hok : Run.Along (step cfg kyc) (EventOk cfg) s events) :
    Run.Always (step cfg kyc) WindowEnforced s events :=
  (Run.always_of_step (fun _ _ hs hok => windowed_step hs hok) hs hok).mono fun _ h => h.enforced

/-! ## Three runs for one driver -/

namespace Review

def start : ReviewState where
  db := { users := .singleton Payments.Sample.user }

def cfg : Config where
  latLngToCell _ _ := "8860145b5dfffff"
  sha256 := id
  nonFiniteColumn _ := false

def kyc : ManualKyc.Config := ⟨fun notes _ => notes.getD ""⟩

def features : FraudFeatureResponse where
  identity := ⟨100, 1, 0, true⟩
  location := ⟨20, 0, 1⟩
  behavior := ⟨0, 0, 0⟩
  metaData := { h3_cell := "8860145b5dfffff", timestamp := 0 }

/-- The scorer answers 50, and every operation goes through. -/
def fraudIo (now : ℤ) : FraudIo where
  now := now
  scoring := ⟨some features, some (.obj [("fraud_score", .num 50)])⟩
  readFingerprints := true
  readPayouts := true
  createFingerprint := true
  enqueue := true
  readUser := true
  readAnalysis := true
  analysisId := "fa1"
  writeAnalysis := true
  redisUp := true

def telemetry : AnalyzeFraudDto where
  gpsLatitude := 129 / 10
  gpsLongitude := 776 / 10

def analyze (now : ℤ) : List ReviewEvent :=
  [.analyze (fraudIo now) "u1" telemetry, .store (fraudIo now) 0]

def submission (now : ℤ) : ReviewEvent := .submit ⟨now, "fa1"⟩ 5 "u1" none

/-- The driver submits documents and nothing else happens. -/
def unwatched : List ReviewEvent := [submission 0]

/-- An analyst settles the analysis; a submission reopens it a minute before the old job is due. -/
def reopened : List ReviewEvent :=
  analyze 0 ++ [.review 60000 true "u1" "APPROVED", submission 240000,
    .execute { now := 300000 } "u1"]

/-- The verdict is stored with the job, and the job comes in time. -/
def timely : List ReviewEvent := analyze 0 ++ [.execute { now := 300000 } "u1"]

end Review

theorem windowed_start : Windowed Review.start := by
  constructor
  · intro userId hinconclusive
    cases hinconclusive
  · intro r hr
    cases hr

open Review in
theorem always_windowEnforced_timely :
    Run.Always (step cfg kyc) WindowEnforced start timely :=
  always_windowEnforced cfg kyc windowed_start (by decide)

open Review in
/-- An analysis waits without a job, and one is rejected after a minute. -/
theorem not_always_windowEnforced :
    ¬Run.Always (step cfg kyc) WindowEnforced start unwatched ∧
      ¬Run.Always (step cfg kyc) WindowEnforced start reopened := by
  constructor
  · intro h
    have hpending := (h.last.pending "u1" (by decide)).2
    exact absurd hpending (by decide)
  · intro h
    have htimely := h.last.timely (240000, 300000) (by decide)
    exact absurd htimely (by decide)

end Aegis.FraudQueueProcessor
