import Aegis.Model.FraudReview
import Aegis.Verification.Identity.StoreCalls
import Aegis.Verification.Insurance.Frames

/-! # The writers of the status

Each of them leaves the statuses of all other users alone. -/

namespace Aegis.FraudService

open Outcome

def analysisStatus (db : Db) (userId : String) : Option String :=
  (db.fraudAnalyses.findUnique userId).map FraudAnalysis.status

/-- The status of one user is written, all others stay. -/
def SetsStatus (userId status : String) (db db' : Db) : Prop :=
  ∀ v, analysisStatus db' v = if v = userId then some status else analysisStatus db v

section Writes

variable {userId status : String} {db db' db'' : Db} {row : FraudAnalysis}
  {data : RowUpdate FraudAnalysis.keys}

theorem SetsStatus.self (h : SetsStatus userId status db db') :
    analysisStatus db' userId = some status := by
  rw [h userId, if_pos rfl]

theorem SetsStatus.of_ne (h : SetsStatus userId status db db') {v : String} (hv : v ≠ userId) :
    analysisStatus db' v = analysisStatus db v := by
  rw [h v, if_neg hv]

/-- An update sets a status that there is. -/
theorem analysisStatus_update (hdata : ∀ a, (data.apply a).status = status) (v : String) :
    analysisStatus { db with fraudAnalyses := db.fraudAnalyses.update userId data } v =
      if v = userId then (analysisStatus db v).map fun _ => status else analysisStatus db v := by
  simp only [analysisStatus, Table.findUnique_update, Option.map_map]
  cases ha : db.fraudAnalyses.findUnique v with
  | none => simp
  | some a =>
      have hkey : v = a.userId := by simpa [FraudAnalysis.keys] using Table.key_of_findUnique ha
      by_cases hv : v = userId
      · simp [FraudAnalysis.keys, ← hkey, hv, hdata]
      · simp [FraudAnalysis.keys, ← hkey, hv, Ne.symm hv]

theorem analysisStatus_setStatus (userId status : String) (db : Db) (v : String) :
    analysisStatus
        { db with fraudAnalyses := db.fraudAnalyses.update userId (setStatus status) } v =
      if v = userId then (analysisStatus db v).map fun _ => status else analysisStatus db v :=
  analysisStatus_update (fun _ => rfl) v

theorem setsStatus_update (hdata : ∀ a, (data.apply a).status = status)
    (hfound : db.fraudAnalyses.findUnique userId ≠ none) :
    SetsStatus userId status db
      { db with fraudAnalyses := db.fraudAnalyses.update userId data } := by
  intro v
  rw [analysisStatus_update hdata]
  split
  · rename_i hv
    obtain ⟨a, ha⟩ := Option.ne_none_iff_exists'.mp hfound
    simp [analysisStatus, hv, ha]
  · rfl

theorem setsStatus_upsert {fraudAnalyses : Table FraudAnalysis.keys}
    (hrow : row.userId = userId) (hstatus : row.status = status)
    (hdata : ∀ a, (data.apply a).status = status)
    (h : db.fraudAnalyses.upsert userId row data = some fraudAnalyses) :
    SetsStatus userId status db { db with fraudAnalyses } := by
  rcases Table.upsert_cases h with ⟨-, hcreate⟩ | ⟨a, ha, rfl⟩
  · intro v
    simp only [analysisStatus, Table.findUnique_create hcreate, FraudAnalysis.keys,
      List.mem_singleton, hrow]
    split
    · simp [hstatus]
    · rfl
  · exact setsStatus_update hdata (by simp [ha])

/-- The row of a user is written whether it exists or not. -/
theorem exists_upsert (hrow : row.userId = userId) :
    ∃ fraudAnalyses, db.fraudAnalyses.upsert userId row data = some fraudAnalyses := by
  unfold Table.upsert
  split
  · rename_i hnone
    refine Table.exists_create fun a ha k hk => ?_
    have hfree := (Table.findUnique_eq_none _ _).mp hnone a ha
    simp only [FraudAnalysis.keys, List.mem_singleton] at hk hfree ⊢
    rw [hk, hrow]
    exact fun heq => hfree heq.symm
  · exact ⟨_, rfl⟩

end Writes

/-! ## `analyzeFraud` -/

section Analyze

variable {cfg : Config} {io : FraudIo} {userId : String} {dto : AnalyzeFraudDto}
  {riskScore : JsNumber} {db db' : Db}

/-- The verdict on a known user can be written. -/
def stores (cfg : Config) (io : FraudIo) (userId : String) (riskScore : JsNumber) (db : Db) :
    Bool :=
  io.readUser && (db.users.findUnique (.id userId)).isSome && cfg.storable riskScore &&
    (io.readAnalysis && io.writeAnalysis)

/-- The attack of a known user can be written. -/
def storesAttack (io : FraudIo) (userId : String) (db : Db) : Bool :=
  io.readUser && (db.users.findUnique (.id userId)).isSome &&
    (io.readAnalysis && io.writeAnalysis)

theorem writeAnalysis_ok (userId : String) (db : Db) {data : RowUpdate FraudAnalysis.keys}
    {status : String} (hdata : ∀ a, (data.apply a).status = status)
    (huser : ∀ a, (data.apply a).userId = a.userId)
    (h : (io.readAnalysis && io.writeAnalysis) = true) :
    ∃ db', writeAnalysis io userId data db = .ok db' ∧ SetsStatus userId status db db' := by
  have hrow : (data.apply (blankAnalysis io.analysisId userId)).userId = userId := huser _
  obtain ⟨fraudAnalyses, hupsert⟩ : ∃ fraudAnalyses, db.fraudAnalyses.upsert userId
      (data.apply (blankAnalysis io.analysisId userId)) data = some fraudAnalyses :=
    exists_upsert hrow
  refine ⟨{ db with fraudAnalyses }, ?_, setsStatus_upsert hrow (hdata _) hdata hupsert⟩
  simp only [Bool.and_eq_true] at h
  simp [writeAnalysis, h, hupsert, require, orThrow]

theorem writeAnalysis_error (userId : String) (data : RowUpdate FraudAnalysis.keys) (db : Db)
    (h : (io.readAnalysis && io.writeAnalysis) = false) :
    ∃ e, writeAnalysis io userId data db = .error e := by
  refine ⟨Payments.storeDown, ?_⟩
  have hdown : ¬(io.readAnalysis = true ∧ io.writeAnalysis = true) := by simpa using h
  rw [writeAnalysis, require, if_neg hdown, error_bind]

theorem refuse_status {data : RowUpdate FraudAnalysis.keys} {status : String}
    (hdata : ∀ a, (data.apply a).status = status) (huser : ∀ a, (data.apply a).userId = a.userId)
    (reason : String) :
    (storesAttack io userId db = true → SetsStatus userId status db
      (refuse io userId data reason db).2) ∧
    (storesAttack io userId db = false → (refuse io userId data reason db).2 = db) := by
  rw [refuse, persistFraudAnalysis, storesAttack]
  cases io.readUser with
  | false => simp [require]
  | true =>
      cases hknown : (db.users.findUnique (.id userId)).isSome with
      | false => simp [require]
      | true =>
          cases hup : io.readAnalysis && io.writeAnalysis with
          | false =>
              obtain ⟨e, he⟩ := writeAnalysis_error userId data db hup
              simp [require, he]
          | true =>
              obtain ⟨db', hdb', hsets⟩ := writeAnalysis_ok userId db hdata huser hup
              simp [require, hdb', hsets]

theorem storeAnalysis_status (cfg : Config) (io : FraudIo) (userId : String)
    (dto : AnalyzeFraudDto) (riskScore : JsNumber) (db : Db) :
    (stores cfg io userId riskScore db = true → SetsStatus userId (statusOf riskScore) db
      (storeAnalysis cfg io userId dto riskScore db)) ∧
    (stores cfg io userId riskScore db = false →
      storeAnalysis cfg io userId dto riskScore db = db) := by
  rw [storeAnalysis, storeVerdict, stores]
  cases io.readUser with
  | false => simp [require, Except.toOption]
  | true =>
      cases hknown : (db.users.findUnique (.id userId)).isSome with
      | false => simp [require, Except.toOption]
      | true =>
          cases hstorable : cfg.storable riskScore with
          | false => simp [require, Except.toOption]
          | true =>
              cases hup : io.readAnalysis && io.writeAnalysis with
              | false =>
                  obtain ⟨e, he⟩ := writeAnalysis_error userId (scoredData dto riskScore) db
                    hup
                  simp [require, he, Except.toOption]
              | true =>
                  have hdata (a : FraudAnalysis) :
                      ((scoredData dto riskScore).apply a).status = statusOf riskScore := rfl
                  obtain ⟨db', hdb', hsets⟩ := writeAnalysis_ok userId db hdata (fun _ => rfl) hup
                  simp [require, hdb', hsets, Except.toOption]

/-- What the first half of an analysis does, with or without a verdict. -/
inductive Began (cfg : Config) (io : FraudIo) (userId : String) (dto : AnalyzeFraudDto)
    (s : System) : Except Exn (Option JsNumber) × System → Prop
  | refused (db : Db) (e : Exn) (hfires : sentinelRejects dto = true)
      (hframe : ∃ fraudAnalyses, db = { s.db with fraudAnalyses })
      (hstored : storesAttack io userId s.db = true → SetsStatus userId "SPOOFED_ATTACK" s.db db)
      (hlost : storesAttack io userId s.db = false → db = s.db) :
      Began cfg io userId dto s (.error e, { s with db })
  | stopped (claimFingerprints : Table ClaimFingerprint.keys)
      (result : Except Exn (Option JsNumber)) (hfires : sentinelRejects dto = false)
      (hnone : ∀ riskScore, result ≠ .ok (some riskScore)) :
      Began cfg io userId dto s (result, { s with db := { s.db with claimFingerprints } })
  | verdict (claimFingerprints : Table ClaimFingerprint.keys) (redis : RedisState.Redis)
      (riskScore : JsNumber) (hfires : sentinelRejects dto = false)
      (hqueue : queueReview io userId riskScore s.redis = .ok redis) :
      Began cfg io userId dto s (.ok (some riskScore),
        { s with db := { s.db with claimFingerprints }, redis })

theorem beginAnalysis_began (cfg : Config) (io : FraudIo) (userId : String)
    (dto : AnalyzeFraudDto) (s : System) :
    Began cfg io userId dto s (beginAnalysis cfg io userId dto s) := by
  have hrefused (data : RowUpdate FraudAnalysis.keys)
      (hdata : ∀ a, (data.apply a).status = "SPOOFED_ATTACK")
      (huser : ∀ a, (data.apply a).userId = a.userId) (reason : String)
      (hfires : sentinelRejects dto = true) :
      Began cfg io userId dto s (.error (refuse io userId data reason s.db).1,
        { s with db := (refuse io userId data reason s.db).2 }) := by
    obtain ⟨hstored, hlost⟩ := refuse_status hdata huser reason
    exact .refused _ _ hfires (refuse_frame data reason s.db) hstored hlost
  unfold beginAnalysis
  split
  · rename_i hkinematic
    exact hrefused _ (fun _ => rfl) (fun _ => rfl) _ (by simp [sentinelRejects, hkinematic])
  · rename_i hkinematic
    split
    · rename_i hatmos
      exact hrefused _ (fun _ => rfl) (fun _ => rfl) _ (by simp [sentinelRejects, hatmos])
    · rename_i hatmos
      have hfires : sentinelRejects dto = false := by simp [sentinelRejects, hkinematic, hatmos]
      split
      · exact .stopped s.db.claimFingerprints _ hfires (by simp)
      · rename_i hduplicate
        obtain ⟨claimFingerprints, rfl⟩ := detectDuplicateClaim_frame hduplicate
        dsimp only
        split
        · exact .stopped claimFingerprints _ hfires (by simp)
        · unfold queueVerdict
          split
          · exact .stopped claimFingerprints _ hfires (by simp)
          · split
            · exact .stopped claimFingerprints _ hfires (by simp)
            · rename_i hqueue
              exact .verdict claimFingerprints _ _ hfires hqueue

theorem Began.frame {s : System} {outcome : Except Exn (Option JsNumber) × System}
    (h : Began cfg io userId dto s outcome) : OnlyScoring s outcome.2 := by
  cases h with
  | refused db e hfires hframe hstored hlost =>
      obtain ⟨_, rfl⟩ := hframe
      exact ⟨_, _, _, _, rfl⟩
  | stopped claimFingerprints result hfires hnone => exact ⟨_, _, _, _, rfl⟩
  | verdict claimFingerprints redis riskScore hfires hqueue =>
      obtain ⟨_, rfl⟩ := queueReview_frame hqueue
      exact ⟨_, _, _, _, rfl⟩

theorem storeAnalysis_frame (cfg : Config) (io : FraudIo) (userId : String)
    (dto : AnalyzeFraudDto) (riskScore : JsNumber) (db : Db) :
    ∃ fraudAnalyses, storeAnalysis cfg io userId dto riskScore db = { db with fraudAnalyses } := by
  rw [storeAnalysis]
  cases hstore : storeVerdict cfg io userId dto riskScore db with
  | error e => exact ⟨_, rfl⟩
  | ok stored => exact storeVerdict_frame hstore

/-- The two halves in succession are the whole. -/
theorem analyzeFraud_eq (s : System) :
    (analyzeFraud cfg io userId dto s).2 =
      match beginAnalysis cfg io userId dto s with
      | (.ok (some riskScore), s') =>
          { s' with db := storeAnalysis cfg io userId dto riskScore s'.db }
      | (_, s') => s' := by
  unfold analyzeFraud beginAnalysis
  by_cases hkinematic : kinematicAnomaly dto = true
  · simp [hkinematic]
  by_cases hatmos : atmosAnomaly dto = true
  · simp [hkinematic, hatmos]
  cases hduplicate : detectDuplicateClaim cfg io userId dto s.db with
  | error e => simp [hkinematic, hatmos]
  | ok found =>
      obtain ⟨signal, db⟩ := found
      cases hfeatures : io.scoring.features with
      | none => simp [hkinematic, hatmos]
      | some features =>
          simp only [hkinematic, hatmos, scored, queueVerdict, Bool.false_eq_true, if_false]
          cases readVerdict (io.scoring.ml.getD failClosed) signal with
          | error e => rfl
          | ok verdict =>
              dsimp only
              cases queueReview io userId verdict.riskScore s.redis with
              | error e => rfl
              | ok redis =>
                  cases hstore : storeVerdict cfg io userId dto verdict.riskScore db with
                  | error e => simp [storeAnalysis, hstore, Except.toOption]
                  | ok stored => simp [storeAnalysis, hstore, Except.toOption]

end Analyze

/-! ## Decisions and the queue -/

section Decisions

variable {writable readable approve : Bool} {userId status analysisId : String} {db db' : Db}

theorem reviewSubmission_status (h : reviewSubmission writable userId status db = .ok db') :
    writable = true ∧ analysisStatus db userId ≠ none ∧ SetsStatus userId status db db' := by
  obtain ⟨_, hwritable, h⟩ := bind_eq_ok.mp h
  obtain ⟨_, hfound, h⟩ := bind_eq_ok.mp h
  cases h
  have hrow := require_eq_ok.mp hfound
  exact ⟨require_eq_ok.mp hwritable, by simpa [analysisStatus] using hrow,
    setsStatus_update (fun _ => rfl) hrow⟩

theorem reviewSubmission_frame (h : reviewSubmission writable userId status db = .ok db') :
    ∃ fraudAnalyses, db' = { db with fraudAnalyses } := by
  obtain ⟨_, -, h⟩ := bind_eq_ok.mp h
  obtain ⟨_, -, h⟩ := bind_eq_ok.mp h
  cases h
  exact ⟨_, rfl⟩

theorem decideFraudCase_frame
    (h : decideFraudCase writable readable analysisId approve db = .ok db') :
    ∃ fraudAnalyses, db' = { db with fraudAnalyses } := by
  obtain ⟨_, -, h⟩ := bind_eq_ok.mp h
  obtain ⟨analysis, -, h⟩ := bind_eq_ok.mp h
  exact reviewSubmission_frame h

theorem decideFraudCase_status
    (h : decideFraudCase writable readable analysisId approve db = .ok db') :
    ∃ analysis, db.fraudAnalyses.rows.find? (fun a => a.id = analysisId) = some analysis ∧
      SetsStatus analysis.userId (if approve then "APPROVED" else "REJECTED") db db' := by
  obtain ⟨_, -, h⟩ := bind_eq_ok.mp h
  obtain ⟨analysis, hfound, h⟩ := bind_eq_ok.mp h
  exact ⟨analysis, orThrow_eq_ok.mp hfound, (reviewSubmission_status h).2.2⟩

end Decisions

end Aegis.FraudService

namespace Aegis.FraudQueueProcessor

open FraudService

/-- A job that finds an inconclusive analysis rejects it or fails; any other changes nothing. -/
inductive Processed (io : JobIo) (userId : String) (db : Db) : Except Exn String × Db → Prop
  | idle (result : Except Exn String)
      (hstatus : analysisStatus db userId ≠ some "INCONCLUSIVE") :
      Processed io userId db (result, db)
  | failed (e : Exn) (hstatus : analysisStatus db userId = some "INCONCLUSIVE")
      (hdown : (io.readAnalysis && io.writeAnalysis) = false) :
      Processed io userId db (.error e, db)
  | rejected (db' : Db) (hstatus : analysisStatus db userId = some "INCONCLUSIVE")
      (hsets : SetsStatus userId "AUTO_REJECTED" db db') :
      Processed io userId db (.ok "rejected", db')

theorem process_processed (io : JobIo) (userId : String) (db : Db) :
    Processed io userId db (process io userId db) := by
  unfold process
  by_cases hstatus : analysisStatus db userId = some "INCONCLUSIVE"
  · obtain ⟨analysis, hfound, hinconclusive⟩ := Option.map_eq_some_iff.mp hstatus
    rw [hfound]
    split
    · dsimp only
      rw [if_neg (not_not.mpr hinconclusive)]
      split
      · exact .rejected _ hstatus (setsStatus_update (fun _ => rfl) (by simp [hfound]))
      · rename_i hdown
        exact .failed _ hstatus (by simp [hdown])
    · rename_i hdown
      exact .failed _ hstatus (by simp [hdown])
  · split
    · split
      · exact .idle _ hstatus
      · rename_i analysis hfound
        have hother : analysis.status ≠ "INCONCLUSIVE" := by
          simpa [analysisStatus, hfound] using hstatus
        rw [if_pos hother]
        exact .idle _ hstatus
    · exact .idle _ hstatus

theorem process_frame (io : JobIo) (userId : String) (db : Db) :
    ∃ fraudAnalyses, (process io userId db).2 = { db with fraudAnalyses } := by
  unfold process
  split
  · split
    · exact ⟨_, rfl⟩
    · split
      · exact ⟨_, rfl⟩
      · split
        · exact ⟨_, rfl⟩
        · exact ⟨_, rfl⟩
  · exact ⟨_, rfl⟩

end Aegis.FraudQueueProcessor

/-! ## The manual submission -/

namespace Aegis.ManualKyc

open Aegis.Action Identity KycService FraudService

section Submit

variable {cfg : Config} {io : Io} {userId : String} {platformId : Option String} {db : Db}

/-- The submission can come to its last write, which is its fourth store call at the earliest. -/
def submits (storeCalls : ℕ) (userId : String) (db : Db) : Bool :=
  decide (userId ≠ "") && decide (4 ≤ storeCalls) &&
    (decide (db.fraudAnalyses.findUnique userId ≠ none) ||
      decide (db.users.findUnique (.id userId) ≠ none))

/-- Only profiles have been written. -/
def OnlyProfiles (db : Db) (store : Store) : Prop :=
  ∃ kycProfiles, store.toDb = { db with kycProfiles }

theorem storeCall_budget {α : Type} {f : Store → Except Exn (α × Store)} (k : ℕ) :
    Triple (fun w => w.storeCalls < k + 1) (storeCall f) (fun _ w => w.storeCalls < k)
      fun _ => True := by
  constructor
  · intro w a w' hw hrun
    unfold storeCall at hrun
    split at hrun
    · cases hrun
    · split at hrun
      · cases hrun
      · cases hrun
        dsimp only at *
        omega
  · intro w e w' _ _
    trivial

theorem query_budget {α : Type} {f : Store → α} (k : ℕ) :
    Triple (fun w => w.storeCalls < k + 1) (query f) (fun _ w => w.storeCalls < k)
      fun _ => True := storeCall_budget k

theorem write_budget {f : Store → Except Exn Store} (k : ℕ) :
    Triple (fun w => w.storeCalls < k + 1) (write f) (fun _ w => w.storeCalls < k)
      fun _ => True := storeCall_budget k

theorem loadMeta_budget (k : ℕ) :
    Triple (fun w => w.storeCalls < k + 1) (loadMeta userId) (fun _ w => w.storeCalls < k)
      fun _ => True := by
  have hread : Triple (fun w => w.storeCalls < k + 1) (findProfile userId)
      (fun _ w => w.storeCalls < k) fun _ => True := query_budget k
  refine hread.bind fun found => ?_
  cases found with
  | some profile => exact Triple.pure fun _ hw => hw
  | none =>
      have hcreate : Triple (fun w => w.storeCalls < k + 1)
          (createProfile (blankProfile userId .IN_PROGRESS)) (fun _ w => w.storeCalls < k)
          fun _ => True := write_budget k
      exact (hcreate.pre fun _ hw => Nat.lt_succ_of_lt hw).bind fun _ => Triple.pure fun _ hw => hw

/-- With fewer than four calls the submission fails. -/
theorem submit_budget :
    Triple (fun w => w.storeCalls < 4) (submit cfg io userId platformId) (fun _ _ => False)
      fun _ => True := by
  refine Triple.require_bind (fun _ _ => trivial) fun _ => ?_
  refine (loadMeta_budget 3).bind fun notes => ?_
  have hsave : Triple (fun w => w.storeCalls < 3)
      (saveMeta userId (cfg.patchMeta notes (.profile platformId)) .SUBMITTED)
      (fun _ w => w.storeCalls < 2) fun _ => True := by
    unfold saveMeta
    exact write_budget 2
  refine hsave.bind fun _ => Triple.bind (write_budget 1) fun _ => ?_
  exact Triple.bind (write_budget 0) fun _ => Triple.pure fun _ hw => absurd hw (Nat.not_lt_zero _)

theorem loadMeta_profiles :
    Triple (OnStore (OnlyProfiles db)) (loadMeta userId) (fun _ => OnStore (OnlyProfiles db))
      (OnStore (OnlyProfiles db)) := by
  have hread : Triple (OnStore (OnlyProfiles db)) (findProfile userId)
      (fun _ => OnStore (OnlyProfiles db)) (OnStore (OnlyProfiles db)) :=
    query_triple.post fun _ _ hw => hw.1
  refine hread.bind fun found => ?_
  cases found with
  | some profile => exact Triple.pure fun _ hw => hw
  | none =>
      refine Triple.bind (write_triple fun store store' hstore hwrite => ?_) fun _ =>
        Triple.pure fun _ hw => hw
      obtain ⟨kycProfiles, -, rfl⟩ := Store.createProfile_eq_ok hwrite
      obtain ⟨kycProfiles', hdb⟩ := hstore
      exact ⟨kycProfiles, by rw [hdb]⟩

/-- A submission that succeeds has set the status with its last write. -/
theorem submit_triple :
    Triple (OnStore (OnlyProfiles db)) (submit cfg io userId platformId)
      (fun _ => OnStore fun store => userId ≠ "" ∧
        (db.fraudAnalyses.findUnique userId ≠ none ∨ db.users.findUnique (.id userId) ≠ none) ∧
        SetsStatus userId "INCONCLUSIVE" db store.toDb ∧
        ∃ kycProfiles fraudAnalyses, store.toDb = { db with kycProfiles, fraudAnalyses })
      (OnStore (OnlyProfiles db)) := by
  refine Triple.require_bind (fun _ hw => hw) fun hid => loadMeta_profiles.bind fun notes => ?_
  have hsave : Triple (OnStore (OnlyProfiles db))
      (saveMeta userId (cfg.patchMeta notes (.profile platformId)) .SUBMITTED)
      (fun _ => OnStore (OnlyProfiles db)) (OnStore (OnlyProfiles db)) := by
    unfold saveMeta
    refine write_triple fun store store' hstore hwrite => ?_
    obtain ⟨kycProfiles, -, rfl⟩ := Store.upsertProfile_eq_ok hwrite
    obtain ⟨kycProfiles', hdb⟩ := hstore
    exact ⟨kycProfiles, by rw [hdb]⟩
  refine hsave.bind fun _ => Triple.bind (write_triple fun store store' hstore hwrite => ?_)
    fun _ => Triple.bind (write_triple fun store store' hstore hwrite => ?_)
      fun _ => Triple.pure fun _ hw => hw
  · obtain ⟨kycProfiles', hdb⟩ := hstore
    rw [Store.updateProfile_eq_ok hwrite]
    exact ⟨_, by rw [hdb]⟩
  · obtain ⟨kycProfiles, hdb⟩ := hstore
    obtain ⟨fraudAnalyses, hrow, hwrite⟩ := Outcome.bind_eq_ok.mp hwrite
    cases hwrite
    obtain ⟨_, hknown, hupsert⟩ := Outcome.bind_eq_ok.mp hrow
    have hsets : SetsStatus userId "INCONCLUSIVE" store.toDb
        { store.toDb with fraudAnalyses } :=
      setsStatus_upsert rfl rfl (fun _ => rfl) (Outcome.orThrow_eq_ok.mp hupsert)
    rw [hdb] at hsets
    have hboth : store.fraudAnalyses = db.fraudAnalyses ∧ store.users = db.users := by
      constructor <;> rw [show store.toDb = { db with kycProfiles } from hdb]
    have hrows := Outcome.require_eq_ok.mp hknown
    rw [hboth.1, hboth.2] at hrows
    exact ⟨hid, hrows, hsets, kycProfiles, fraudAnalyses, by rw [hdb]⟩

/-- A submission writes profiles, and with its last write the status. -/
inductive Submitted (storeCalls : ℕ) (userId : String) (db db' : Db) : Prop where
  | profiles (kycProfiles : Table KYCProfile.keys) (heq : db' = { db with kycProfiles })
  | status (kycProfiles : Table KYCProfile.keys) (fraudAnalyses : Table FraudAnalysis.keys)
      (hsubmits : submits storeCalls userId db = true)
      (hsets : SetsStatus userId "INCONCLUSIVE" db db')
      (heq : db' = { db with kycProfiles, fraudAnalyses })

theorem submitOn_submitted (cfg : Config) (io : Io) (storeCalls : ℕ) (userId : String)
    (platformId : Option String) (db : Db) :
    Submitted storeCalls userId db (submitOn cfg io storeCalls userId platformId db) := by
  have hstart : OnStore (OnlyProfiles db) ⟨{ toDb := db }, .empty, storeCalls⟩ :=
    ⟨db.kycProfiles, rfl⟩
  rcases hrun : submit cfg io userId platformId ⟨{ toDb := db }, .empty, storeCalls⟩ with
    ⟨result, w⟩
  have hdb : submitOn cfg io storeCalls userId platformId db = w.store.toDb := by
    rw [submitOn, hrun]
  rw [hdb]
  cases result with
  | error e =>
      obtain ⟨kycProfiles, heq⟩ := submit_triple.error hstart hrun
      exact .profiles kycProfiles heq
  | ok reply =>
      obtain ⟨hid, hknown, hsets, kycProfiles, fraudAnalyses, heq⟩ := submit_triple.ok hstart hrun
      have hcalls : 4 ≤ storeCalls := by
        by_contra hfew
        exact submit_budget.ok (not_le.mp hfew) hrun
      exact .status kycProfiles fraudAnalyses (by simp [submits, hid, hcalls, hknown]) hsets heq

end Submit

end Aegis.ManualKyc
