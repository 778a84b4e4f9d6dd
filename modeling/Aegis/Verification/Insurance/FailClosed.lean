import Mathlib.Data.List.Dedup
import Aegis.Verification.Insurance.Frames
import Aegis.Verification.Payments.Retry

/-! # Failing closed

How far a missing or unusable fraud score gets: through the bridge that re-reads the
analysis, the trigger thresholds and the decision on the claim. -/

namespace Aegis

open Outcome RedisState

namespace JsNumber

theorem geFin_minFin {x : JsNumber} {y z : ℚ} (hyz : y ≤ z) :
    (x.minFin z).geFin y = x.geFin y := by
  cases x with
  | nan => rfl
  | negInfinity => rfl
  | fin q => simp [minFin, geFin, hyz]
  | infinity => simp [minFin, geFin, hyz]

theorem geFin_of_le {x : JsNumber} {y z : ℚ} (hyz : y ≤ z) (h : x.geFin y = false) :
    x.geFin z = false := by
  cases x with
  | nan => rfl
  | negInfinity => rfl
  | fin q =>
      simp only [geFin, decide_eq_false_iff_not, not_le] at h ⊢
      linarith
  | infinity => exact h

theorem gtFin_of_le {x : JsNumber} {y z : ℚ} (hyz : y ≤ z) (h : x.geFin y = false) :
    x.gtFin z = false := by
  cases x with
  | nan => rfl
  | negInfinity => rfl
  | fin q =>
      simp only [geFin, gtFin, decide_eq_false_iff_not, not_le, not_lt] at h ⊢
      linarith
  | infinity => exact h

theorem geFin_addFin {x : JsNumber} {y z : ℚ} (hz : 0 ≤ z) (h : x.geFin y = true) :
    (x.addFin z).geFin y = true := by
  cases x with
  | nan => exact h
  | negInfinity => exact h
  | fin q =>
      simp only [geFin, addFin, decide_eq_true_eq] at h ⊢
      linarith
  | infinity => rfl

/-- A score of at least 45 points is at least 0.45 on the scale of the services. -/
theorem geFin_clamp {x : JsNumber} {y : ℚ} (hy : y ≤ 100) (h : x.geFin y = true) :
    ((x.divPos 100).clamp 0 1).geFin (y / 100) = true := by
  cases x with
  | nan => exact h
  | negInfinity => exact absurd h (by simp [geFin])
  | fin q =>
      simp only [geFin, decide_eq_true_eq] at h
      simp only [divPos, clamp_fin, geFin, decide_eq_true_eq]
      refine le_max_of_le_left (le_min ?_ ?_)
      · linarith
      · linarith
  | infinity =>
      simp only [divPos, clamp, minFin, maxFin, geFin, decide_eq_true_eq]
      refine le_max_of_le_left ?_
      linarith

end JsNumber

/-! ## The analysis and the bridge -/

namespace FraudService

variable {cfg : Config} {io : FraudIo} {userId : String} {dto : AnalyzeFraudDto}

/-- The ways an analysis returns. -/
inductive Analysed (cfg : Config) (io : FraudIo) (userId : String) (dto : AnalyzeFraudDto)
    (s : System) (data : AnalyzeData) : Prop where
  | unavailable (features : io.scoring.features = none)
      (data_eq : data = FraudService.unavailable dto)
  | scored (features : FraudFeatureResponse) (signal : DuplicateClaimSignal) (verdict : Verdict)
      (delivered : io.scoring.features = some features)
      (read : readVerdict (io.scoring.ml.getD failClosed) signal = .ok verdict)
      (riskScore : data.riskScore = some verdict.riskScore)
      (stored : (s.db.users.findUnique (.id userId)).isSome = true →
        cfg.storable verdict.riskScore = true)

theorem analyzeFraud_ok {s s' : System} {data : AnalyzeData}
    (h : analyzeFraud cfg io userId dto s = (.ok data, s')) :
    sentinelRejects dto = false ∧ Analysed cfg io userId dto s data := by
  unfold analyzeFraud at h
  split at h
  · cases h
  · rename_i hkinematic
    split at h
    · cases h
    · rename_i hatmos
      refine ⟨by simp [sentinelRejects, hkinematic, hatmos], ?_⟩
      split at h
      · cases h
      · rename_i signal db hduplicate
        obtain ⟨_, rfl⟩ := detectDuplicateClaim_frame hduplicate
        dsimp only at h
        split at h
        · rename_i hfeatures
          cases h
          exact .unavailable hfeatures rfl
        · rename_i features hfeatures
          unfold scored at h
          split at h
          · cases h
          · rename_i verdict hread
            split at h
            · cases h
            · split at h
              · cases h
              · rename_i hstore
                cases h
                refine .scored features signal verdict hfeatures hread rfl fun huser => ?_
                obtain ⟨_, -, hstore⟩ := bind_eq_ok.mp hstore
                rw [if_pos huser] at hstore
                obtain ⟨_, hstorable, -⟩ := bind_eq_ok.mp hstore
                exact require_eq_ok.mp hstorable

/-- What the bridge makes of an analysis. -/
def bridge (data : AnalyzeData) : FraudScore :=
  ⟨((data.riskScore.getD (.fin 0)).divPos 100).clamp 0 1, data.status.getD "UNKNOWN"⟩

theorem computeFraudScore_fst (s : System) :
    (computeFraudScore cfg io userId dto s).1 =
      (analyzeFraud cfg io userId dto s).1.map bridge := by
  unfold computeFraudScore
  split
  · rename_i h
    rw [h]
    rfl
  · rename_i h
    rw [h]
    rfl

/-- The bridge returns the computed risk score on the scale from 0 to 1. -/
def PassesOn (cfg : Config) (io : FraudIo) (userId : String) (dto : AnalyzeFraudDto)
    (s : System) : Prop :=
  ∀ data ∈ (analyzeFraud cfg io userId dto s).1.toOption,
    (computeFraudScore cfg io userId dto s).1.toOption.map FraudScore.fraudScore =
      some ((data.computed.divPos 100).clamp 0 1)

theorem analyzeFraud_unavailable {s : System} {signal : DuplicateClaimSignal} {db : Db}
    (hsentinel : sentinelRejects dto = false)
    (hduplicate : detectDuplicateClaim cfg io userId dto s.db = .ok (signal, db))
    (hfeatures : io.scoring.features = none) :
    analyzeFraud cfg io userId dto s = (.ok (unavailable dto), { s with db }) := by
  obtain ⟨hkinematic, hatmos⟩ := Bool.or_eq_false_iff.mp hsentinel
  simp [analyzeFraud, hkinematic, hatmos, hduplicate, hfeatures]

/-- A call of which every operation goes through. -/
def smooth (scoring : Scoring) : FraudIo where
  now := 172800000
  scoring := scoring
  readFingerprints := true
  readPayouts := true
  createFingerprint := true
  enqueue := true
  readUser := true
  readAnalysis := true
  analysisId := "fa1"
  writeAnalysis := true
  redisUp := true

theorem detectDuplicateClaim_smooth (scoring : Scoring) (db : Db) :
    ∃ signal db', detectDuplicateClaim cfg (smooth scoring) userId dto db = .ok (signal, db') := by
  unfold detectDuplicateClaim
  split
  · exact ⟨_, _, rfl⟩
  · exact ⟨_, _, rfl⟩

theorem bridge_unavailable_eq_iff (dto : AnalyzeFraudDto) :
    (bridge (unavailable dto)).fraudScore = ((unavailable dto).computed.divPos 100).clamp 0 1 ↔
      ¬0 < scoreFromFeatures none dto := by
  change ((JsNumber.fin 0).divPos 100).clamp 0 1 =
    ((JsNumber.fin (scoreFromFeatures none dto)).divPos 100).clamp 0 1 ↔ _
  simp only [JsNumber.divPos, JsNumber.clamp_fin, JsNumber.fin.injEq, not_lt, zero_div]
  have hle : min (0 : ℚ) 1 = 0 := min_eq_left (by norm_num)
  rw [hle, max_self, eq_comm, max_eq_right_iff, min_le_iff]
  constructor
  · rintro (h | h)
    · linarith
    · linarith
  · intro h
    left
    linarith

theorem passesOn_iff (cfg : Config) (dto : AnalyzeFraudDto) (scoring : Scoring) :
    (∀ io userId s, io.scoring = scoring → PassesOn cfg io userId dto s) ↔
      ¬(scoring.features = none ∧ sentinelRejects dto = false ∧
        0 < scoreFromFeatures none dto) := by
  constructor
  · rintro h ⟨hfeatures, hsentinel, hpositive⟩
    have hduplicate : ∃ signal db, detectDuplicateClaim cfg (smooth scoring) "" dto {} =
        .ok (signal, db) := detectDuplicateClaim_smooth scoring {}
    obtain ⟨signal, db, hduplicate⟩ := hduplicate
    have hanalysis : analyzeFraud cfg (smooth scoring) "" dto { db := {} } =
        (.ok (unavailable dto), { db }) :=
      analyzeFraud_unavailable hsentinel hduplicate hfeatures
    have hscore := h (smooth scoring) "" { db := {} } rfl (unavailable dto)
      (by rw [hanalysis]; rfl)
    rw [computeFraudScore_fst, hanalysis] at hscore
    exact (bridge_unavailable_eq_iff dto).mp (Option.some.inj hscore) hpositive
  · intro hnot io userId s hscoring data hdata
    cases hanalysis : analyzeFraud cfg io userId dto s with
    | mk result s' =>
        rw [hanalysis] at hdata
        cases result with
        | error e => cases hdata
        | ok data' =>
            cases hdata
            obtain ⟨hsentinel, hanalysed⟩ := analyzeFraud_ok hanalysis
            rw [computeFraudScore_fst, hanalysis]
            refine congrArg some ?_
            cases hanalysed with
            | unavailable hfeatures hdata =>
                rw [hdata]
                refine (bridge_unavailable_eq_iff dto).mpr fun hpositive => ?_
                exact hnot ⟨hscoring ▸ hfeatures, hsentinel, hpositive⟩
            | scored features signal verdict _ _ hrisk _ =>
                simp [bridge, AnalyzeData.computed, hrisk]

/-! ## Bodies of the scorer -/

theorem readVerdict_eq_ok {body : Json} {signal : DuplicateClaimSignal} {verdict : Verdict} :
    readVerdict body signal = .ok verdict ↔
      body.isNull = false ∧
      ∃ n, Json.memberToNumber (body.get "fraud_score") = some n ∧
        (body.get "model_used").all Json.printable = true ∧
        ∃ topSignals, pushSignals ((body.get? "top_signals").getD (.arr []))
            (pushedSignals signal) = .ok topSignals ∧
          joinable topSignals = true ∧
          ⟨applyDuplicateClaimPenalty n signal, topSignals⟩ = verdict := by
  simp [readVerdict, bind_eq_ok]

theorem allPrintable_append (items items' : List Json) :
    Json.allPrintable (items ++ items') =
      (Json.allPrintable items && Json.allPrintable items') := by
  induction items with
  | nil => simp [Json.allPrintable]
  | cons item items ih => simp [Json.allPrintable, ih, Bool.and_assoc]

/-- Signals that can be joined after a push can be joined without it. -/
theorem joinable_of_push {topSignals pushed : Json} {signals : List Json}
    (h : pushSignals topSignals signals = .ok pushed) (hjoin : joinable pushed = true) :
    joinable topSignals = true := by
  unfold pushSignals at h
  split at h
  · cases h
    simp only [joinable, allPrintable_append, Bool.and_eq_true] at hjoin
    exact hjoin.1
  · cases h
    exact hjoin
  · cases h

theorem geFin_penalty {n : JsNumber} (signal : DuplicateClaimSignal) (h : n.geFin 45 = true) :
    (applyDuplicateClaimPenalty n signal).geFin 45 = true := by
  unfold applyDuplicateClaimPenalty
  split
  · rw [JsNumber.geFin_minFin (by norm_num)]
    exact h
  · rename_i hpositive
    rw [JsNumber.geFin_minFin (by norm_num)]
    refine JsNumber.geFin_addFin ?_ h
    simp only [Bool.or_eq_true, decide_eq_true_eq, not_or, not_le] at hpositive
    exact hpositive.2.le

/-- Below 45 points a penalty leaves a finite score finite and any other as it is. -/
theorem storable_penalty {n : JsNumber} (signal : DuplicateClaimSignal)
    (h : n.geFin 45 = false) :
    cfg.storable (applyDuplicateClaimPenalty n signal) = cfg.storable n := by
  cases n with
  | nan =>
      unfold applyDuplicateClaimPenalty
      split <;> rfl
  | negInfinity =>
      unfold applyDuplicateClaimPenalty
      split <;> rfl
  | fin q =>
      unfold applyDuplicateClaimPenalty
      split <;> rfl
  | infinity => simp [JsNumber.geFin] at h

/-- A body that `analyzeFraud` takes for a harmless one. -/
structure Lenient (cfg : Config) (body : Json) : Prop where
  notNull : body.isNull = false
  printable : (body.get "model_used").all Json.printable = true
  joinable : joinable ((body.get? "top_signals").getD (.arr [])) = true
  low : ∃ n, Json.memberToNumber (body.get "fraud_score") = some n ∧ cfg.storable n = true ∧
    n.geFin 45 = false

theorem lenient_of_verdict {body : Json} {signal : DuplicateClaimSignal} {verdict : Verdict}
    (h : readVerdict body signal = .ok verdict) (hstorable : cfg.storable verdict.riskScore = true)
    (hlow : verdict.riskScore.geFin 45 = false) : Lenient cfg body := by
  obtain ⟨hnull, n, hn, hprintable, topSignals, hpush, hjoin, rfl⟩ := readVerdict_eq_ok.mp h
  have hscore : n.geFin 45 = false := by
    cases hge : n.geFin 45 with
    | false => rfl
    | true => rw [geFin_penalty signal hge] at hlow; cases hlow
  exact ⟨hnull, hprintable, joinable_of_push hpush hjoin, n, hn,
    (storable_penalty signal hscore).symm.trans hstorable, hscore⟩

theorem not_lenient_failClosed (cfg : Config) : ¬Lenient cfg failClosed := by
  intro h
  obtain ⟨n, hn, -, hlow⟩ := h.low
  have hscore : Json.memberToNumber (failClosed.get "fraud_score") = some (.fin 95) := by
    decide
  rw [hscore] at hn
  cases hn
  exact absurd hlow (by decide)

theorem Lenient.verdict {body : Json} (h : Lenient cfg body) {signal : DuplicateClaimSignal}
    (hsignal : pushedSignals signal = []) (hduplicate : signal.isDuplicate = false) :
    ∃ verdict, readVerdict body signal = .ok verdict ∧ cfg.storable verdict.riskScore = true ∧
      verdict.riskScore.geFin 45 = false := by
  obtain ⟨n, hn, hstorable, hlow⟩ := h.low
  have hscore : applyDuplicateClaimPenalty n signal = n.minFin 100 := by
    simp [applyDuplicateClaimPenalty, hduplicate]
  refine ⟨⟨applyDuplicateClaimPenalty n signal, _⟩, readVerdict_eq_ok.mpr
    ⟨h.notNull, n, hn, h.printable, _, ?_, h.joinable, rfl⟩,
    (storable_penalty signal hlow).trans hstorable, ?_⟩
  · rw [hsignal]
    cases (body.get? "top_signals").getD (.arr []) with
    | arr items => simp [pushSignals]
    | null => rfl
    | bool b => rfl
    | num q => rfl
    | str text => rfl
    | obj fields => rfl
  · change (applyDuplicateClaimPenalty n signal).geFin 45 = false
    rw [hscore, JsNumber.geFin_minFin (by norm_num), hlow]

/-! ## Scores that pass -/

/-- A service was unavailable or delivered no number. -/
def Unscored (scoring : Scoring) : Prop :=
  scoring.features = none ∨ (scoring.ml.bind fun body => body.get "fraud_score").any Json.isNum =
    false

/-- The outcome is taken for a score below every threshold. -/
def Waved (cfg : Config) (scoring : Scoring) : Prop :=
  scoring.features = none ∨ ∃ body, scoring.ml = some body ∧ Lenient cfg body

theorem waved_of_low {s : System} {score : FraudScore}
    (huser : (s.db.users.findUnique (.id userId)).isSome = true)
    (hscore : (computeFraudScore cfg io userId dto s).1 = .ok score)
    (hlow : score.fraudScore.geFin (45 / 100) = false) :
    sentinelRejects dto = false ∧ Waved cfg io.scoring := by
  rw [computeFraudScore_fst] at hscore
  cases hanalysis : analyzeFraud cfg io userId dto s with
  | mk result s' =>
      rw [hanalysis] at hscore
      cases result with
      | error e => cases hscore
      | ok data =>
          cases hscore
          obtain ⟨hsentinel, hanalysed⟩ := analyzeFraud_ok hanalysis
          refine ⟨hsentinel, ?_⟩
          cases hanalysed with
          | unavailable hfeatures _ => exact .inl hfeatures
          | scored features signal verdict _ hread hrisk hstored =>
              right
              have hverdict : verdict.riskScore.geFin 45 = false := by
                cases hge : verdict.riskScore.geFin 45 with
                | false => rfl
                | true =>
                    simp only [bridge, hrisk, Option.getD_some] at hlow
                    rw [JsNumber.geFin_clamp (by norm_num) hge] at hlow
                    cases hlow
              have hlenient := lenient_of_verdict hread (hstored huser) hverdict
              cases hml : io.scoring.ml with
              | none =>
                  rw [hml] at hlenient
                  exact absurd hlenient (not_lenient_failClosed cfg)
              | some body =>
                  rw [hml] at hlenient
                  exact ⟨body, rfl, hlenient⟩

theorem geFin_clamp_of_low {x : JsNumber} (h : x.geFin 45 = false) :
    ((x.divPos 100).clamp 0 1).geFin (45 / 100) = false := by
  cases x with
  | nan => rfl
  | negInfinity =>
      simp only [JsNumber.divPos, JsNumber.clamp, JsNumber.minFin, JsNumber.maxFin,
        JsNumber.geFin, decide_eq_false_iff_not]
      norm_num
  | fin q =>
      simp only [JsNumber.geFin, decide_eq_false_iff_not, not_le] at h
      simp only [JsNumber.divPos, JsNumber.clamp_fin, JsNumber.geFin, decide_eq_false_iff_not,
        not_le]
      refine max_lt (min_lt_of_left_lt ?_) (by norm_num)
      linarith
  | infinity => simp [JsNumber.geFin] at h

theorem statusOf_low {x : JsNumber} (h : x.geFin 45 = false) : statusOf x = "APPROVED" := by
  have hreject : x.geFin 75 = false := JsNumber.geFin_of_le (by norm_num) h
  simp [statusOf, h, hreject]

/-- A driver without fingerprints and recent payouts raises no signal. -/
theorem detectDuplicateClaim_first (scoring : Scoring) {db : Db}
    (hfingerprints : db.claimFingerprints = .empty)
    (hrecent : recentPayouts (smooth scoring) userId db = []) :
    ∃ signal db', detectDuplicateClaim cfg (smooth scoring) userId dto db = .ok (signal, db') ∧
      pushedSignals signal = [] ∧ signal.isDuplicate = false := by
  unfold detectDuplicateClaim
  split
  · refine ⟨_, _, rfl, ?_, ?_⟩
    · simp [pushedSignals, duplicateSignal, hfingerprints, hrecent, Table.empty,
        DUPLICATE_CLAIM_CROSS_USER_THRESHOLD]
    · simp [duplicateSignal, hfingerprints, hrecent, Table.empty,
        DUPLICATE_CLAIM_CROSS_USER_THRESHOLD]
  · exact ⟨_, _, rfl, rfl, rfl⟩

theorem storeVerdict_first {scoring : Scoring} {riskScore : JsNumber} {db : Db}
    (hanalyses : db.fraudAnalyses = .empty) (hstorable : cfg.storable riskScore = true) :
    ∃ db', storeVerdict cfg (smooth scoring) userId dto riskScore db = .ok db' := by
  have hwrite : ∃ db', writeAnalysis (smooth scoring) userId (scoredData dto riskScore) db =
      .ok db' := by
    unfold writeAnalysis
    rw [hanalyses]
    exact ⟨_, rfl⟩
  by_cases huser : (db.users.findUnique (.id userId)).isSome = true
  · obtain ⟨db', hwrite⟩ := hwrite
    have hok : require (cfg.storable riskScore = true)
        (Exn.error "Argument riskScore must not be null.") = .ok () := require_eq_ok.mpr hstorable
    refine ⟨db', ?_⟩
    simp only [storeVerdict, if_pos huser, hok, hwrite]
    rfl
  · refine ⟨db, ?_⟩
    simp only [storeVerdict, if_neg huser]
    rfl

theorem scored_low {scoring : Scoring} {features : FraudFeatureResponse}
    {signal : DuplicateClaimSignal} {body : Json} {verdict : Verdict} {s : System}
    (hml : scoring.ml = some body) (hread : readVerdict body signal = .ok verdict)
    (hanalyses : s.db.fraudAnalyses = .empty) (hstorable : cfg.storable verdict.riskScore = true)
    (hlow : verdict.riskScore.geFin 45 = false) :
    ∃ data, (scored cfg (smooth scoring) userId dto features signal s).1 = .ok data ∧
      data.riskScore = some verdict.riskScore := by
  have hstore : ∃ db', storeVerdict cfg (smooth scoring) userId dto verdict.riskScore s.db =
      .ok db' := storeVerdict_first hanalyses hstorable
  obtain ⟨db', hstore⟩ := hstore
  have hbody : (smooth scoring).scoring.ml.getD failClosed = body := by
    simp [smooth, hml]
  have hqueue : queueReview (smooth scoring) userId verdict.riskScore s.redis = .ok s.redis := by
    simp [queueReview, statusOf_low hlow]
  simp only [scored, hbody, hread, hqueue, hstore]
  exact ⟨_, rfl, rfl⟩

/-- A waved outcome gives a low score to a driver without a history. -/
theorem computeFraudScore_waved {scoring : Scoring} {s : System}
    (hfingerprints : s.db.claimFingerprints = .empty)
    (hrecent : recentPayouts (smooth scoring) userId s.db = [])
    (hanalyses : s.db.fraudAnalyses = .empty) (hsentinel : sentinelRejects dto = false)
    (hwaved : Waved cfg scoring) :
    ∃ score, (computeFraudScore cfg (smooth scoring) userId dto s).1 = .ok score ∧
      score.fraudScore.geFin (45 / 100) = false := by
  have hduplicate : ∃ signal db', detectDuplicateClaim cfg (smooth scoring) userId dto s.db =
      .ok (signal, db') ∧ pushedSignals signal = [] ∧ signal.isDuplicate = false :=
    detectDuplicateClaim_first scoring hfingerprints hrecent
  obtain ⟨signal, db, hduplicate, hsignal, hfirst⟩ := hduplicate
  rw [computeFraudScore_fst]
  cases hfeatures : scoring.features with
  | none =>
      rw [analyzeFraud_unavailable hsentinel hduplicate hfeatures]
      have hzero : (((JsNumber.fin 0).divPos 100).clamp 0 1).geFin (45 / 100) = false :=
        geFin_clamp_of_low (by decide)
      exact ⟨_, rfl, hzero⟩
  | some features =>
      obtain ⟨body, hml, hlenient⟩ := hwaved.resolve_left (by simp [hfeatures])
      obtain ⟨verdict, hread, hstorable, hlow⟩ := hlenient.verdict hsignal hfirst
      have hframe : ∃ claimFingerprints, db = { s.db with claimFingerprints } :=
        detectDuplicateClaim_frame hduplicate
      obtain ⟨claimFingerprints, rfl⟩ := hframe
      obtain ⟨hkinematic, hatmos⟩ := Bool.or_eq_false_iff.mp hsentinel
      have hscored : ∃ data, (analyzeFraud cfg (smooth scoring) userId dto s).1 = .ok data ∧
          data.riskScore = some verdict.riskScore := by
        have hfound : (smooth scoring).scoring.features = some features := hfeatures
        simp only [analyzeFraud, hkinematic, hatmos, hduplicate, hfound]
        exact scored_low hml hread hanalyses hstorable hlow
      obtain ⟨data, hdata, hrisk⟩ := hscored
      rw [hdata]
      refine ⟨bridge data, rfl, ?_⟩
      rw [bridge, hrisk]
      exact geFin_clamp_of_low hlow

end FraudService

/-! ## The thresholds -/

namespace TriggerService

/-- An approved trigger has seen no score from the hold threshold on. -/
theorem evaluateTrigger_approved {latLngToCell : ℚ → ℚ → String} {io : TriggerIo} {redis : Redis}
    {params : TriggerParams} {score : JsNumber} (hscore : params.fraudScore = some score)
    (h : (evaluateTrigger latLngToCell io redis params).decision = .APPROVED) :
    score.geFin (45 / 100) = false := by
  unfold evaluateTrigger at h
  split at h
  · cases h
  · cases hge : score.geFin (45 / 100) with
    | false => rfl
    | true =>
        have hgate : fraudGateOf params.fraudScore ≠ .PASS := by
          rw [hscore]
          unfold fraudGateOf
          dsimp only
          split
          · exact nofun
          · rw [TRIGGER_FRAUD_HOLD_THRESHOLD, if_pos hge]
            exact nofun
        simp only [fallbackDecision, gateDecision] at h
        split at h
        · cases h
        · split at h
          · cases h
          · split at h
            · cases h
            · cases hfraud : fraudGateOf params.fraudScore with
              | PASS => exact absurd hfraud hgate
              | HOLD => rw [hfraud] at h; cases h
              | REJECT => rw [hfraud] at h; cases h

/-- A low score in a halted zone with enough loss is approved. -/
theorem evaluateTrigger_halted {latLngToCell : ℚ → ℚ → String} {io : TriggerIo} {redis : Redis}
    {params : TriggerParams} {h3Cell : String} {score : JsNumber} {zone : ZoneState}
    (hparams : params.h3Cell = some h3Cell) (hcell : h3Cell ≠ "")
    (hzone : getZoneState io.redisUp io.now redis h3Cell = some zone)
    (hlabel : JsString.toUpperCase (zoneLabel (some zone)) = "HALTED")
    (hLf : TRIGGER_LF_MIN_APPROVE ≤ zoneLf (some zone) 0) (hscore : params.fraudScore = some score)
    (hlow : score.geFin (45 / 100) = false) :
    (evaluateTrigger latLngToCell io redis params).decision = .APPROVED := by
  have hreject : score.geFin (7 / 10) = false := JsNumber.geFin_of_le (by norm_num) hlow
  have hgate : fraudGateOf (some score) = .PASS := by
    simp [fraudGateOf, TRIGGER_FRAUD_REJECT_THRESHOLD, TRIGGER_FRAUD_HOLD_THRESHOLD, hreject, hlow]
  have hresolved : (resolveH3Cell latLngToCell io redis params).filter (· ≠ "") = some h3Cell := by
    have hgiven : (some h3Cell).filter (· ≠ "") = some h3Cell := by simp [hcell]
    simp only [resolveH3Cell, hparams, hgiven]
  simp only [evaluateTrigger, hresolved, fallbackDecision, hzone, Option.getD_some, hlabel, hscore,
    hgate, decide_eq_true hLf]
  rfl

end TriggerService

/-! ## The decision -/

namespace InsuranceService

open PayoutService

variable {cfg : Config} {io : EvaluateIo} {driverId : String} {dto : ProcessInsuranceRequestDto}
  {s : System}

theorem refusal_eq_none {e : Evidence} : refusal e = none ↔
    ∃ h3Cell score, truthy e.h3Cell = some h3Cell ∧
      PARAMETRIC_TRIGGER_STATES.contains (JsString.toUpperCase e.zoneState) = true ∧
      truthy e.policyZone = some h3Cell ∧ e.fraud = ⟨some score, false⟩ ∧
      score.gtFin FRAUD_BLOCK_THRESHOLD = false ∧ e.trigger.decision = .APPROVED := by
  constructor
  · intro h
    unfold refusal at h
    split at h
    · cases h
    · rename_i h3Cell hcell
      split at h
      · cases h
      · rename_i htrigger
        split at h
        · cases h
        · rename_i hhold
          split at h
          · cases h
          · rename_i hzone
            split at h
            · rename_i score hfailure hscore
              split at h
              · cases h
              · rename_i hblock
                obtain ⟨hlow, hrejected⟩ := not_or.mp hblock
                refine ⟨h3Cell, score, hcell, by simpa using htrigger, not_not.mp hzone, ?_,
                  by simpa using hlow, ?_⟩
                · cases hfraud : e.fraud with
                  | mk fraudScore fraudFailure =>
                      rw [hfraud] at hfailure hscore
                      cases hfailure
                      cases hscore
                      rfl
                · cases hdecision : e.trigger.decision with
                  | APPROVED => rfl
                  | HOLD => exact absurd hdecision hhold
                  | REJECTED => exact absurd hdecision hrejected
            · cases h
  · rintro ⟨h3Cell, score, hcell, htrigger, hzone, hfraud, hlow, happroved⟩
    simp only [refusal, hcell, htrigger, hzone, hfraud, hlow, happroved]
    simp

/-- The fields of evidence that lets a payout through. -/
theorem refusal_mk {h3Cell zoneState : String} {policyZone : Option String} {reading : FraudReading}
    {trigger : TriggerService.TriggerDecisionResult} {score : JsNumber} (hcell : h3Cell ≠ "")
    (hstate : PARAMETRIC_TRIGGER_STATES.contains (JsString.toUpperCase zoneState) = true)
    (hzone : policyZone = some h3Cell) (hreading : reading = ⟨some score, false⟩)
    (hlow : score.gtFin FRAUD_BLOCK_THRESHOLD = false) (happroved : trigger.decision = .APPROVED) :
    refusal ⟨some h3Cell, zoneState, policyZone, reading, trigger⟩ = none := by
  have htruthy : truthy (some h3Cell) = some h3Cell := by simp [truthy, hcell]
  exact refusal_eq_none.mpr ⟨h3Cell, score, htruthy, hstate, (congrArg truthy hzone).trans htruthy,
    hreading, hlow, happroved⟩

theorem user_of_eligible {env : Eligibility.Env} {readable : Bool} {now : ℤ} {db : Db}
    {userId : String} {planKey : Option String} {standing : Eligibility.Standing}
    (h : Eligibility.assertDriverPolicyEligibility env readable now db userId planKey =
      .ok standing) : (db.users.findUnique (.id userId)).isSome = true := by
  obtain ⟨_, -, h⟩ := bind_eq_ok.mp h
  obtain ⟨user, huser, -⟩ := bind_eq_ok.mp h
  rw [orThrow_eq_ok.mp huser]
  rfl

/-- Only evidence without a refusal leads to an approval. -/
theorem processInsurance_approved {s' : System} {result : InsuranceResult}
    (h : processInsurance cfg io driverId dto s = (.ok result, s'))
    (happroved : result.decision = .APPROVED) :
    (s.db.users.findUnique (.id driverId)).isSome = true ∧
      ∃ policy Ct, refusal (evidenceOf cfg io driverId dto policy Ct s) = none := by
  unfold processInsurance at h
  split at h
  · cases h
  · cases h
    cases happroved
  · rename_i Ew policy _
    dsimp only at h
    split at h
    · cases h
    · rename_i heligible
      refine ⟨user_of_eligible heligible, policy, ?_⟩
      split at h
      · cases h
        cases happroved
      · rename_i Ct _
        refine ⟨Ct, ?_⟩
        unfold evaluateClaim at h
        dsimp only at h
        split at h
        · rename_i decision hrefusal
          cases h
          simp only at happroved
          subst happroved
          exact absurd hrefusal (refusal_ne_approved _)
        · rename_i hrefusal
          exact hrefusal

/-- The score of the call is asked for: coordinates are in the request or on record. -/
def Asked (cfg : Config) (io : EvaluateIo) (driverId : String) (dto : ProcessInsuranceRequestDto)
    (s : System) : Prop :=
  (position cfg io driverId dto s.redis).lat.isSome = true ∧
    (position cfg io driverId dto s.redis).lng.isSome = true

/-- Without a numeric score from both services the call does not approve. -/
def HoldsUnscored (cfg : Config) (io : EvaluateIo) (driverId : String)
    (dto : ProcessInsuranceRequestDto) (s : System) : Prop :=
  FraudService.Unscored io.fraud.scoring → Asked cfg io driverId dto s →
    ∀ result ∈ (processInsurance cfg io driverId dto s).1.toOption, result.decision ≠ .APPROVED

/-- The sentinels look at the sensor values of the request only. -/
def sentinelRejects (dto : ProcessInsuranceRequestDto) : Bool :=
  FraudService.sentinelRejects (fraudDto dto 0 0)

/-- Positions come from the request and the driver records. -/
theorem position_congr {redis redis' : Redis} (h : redis'.drivers = redis.drivers) :
    position cfg io driverId dto redis' = position cfg io driverId dto redis := by
  have hdriver : getDriverState io.redisUp io.now redis' driverId =
      getDriverState io.redisUp io.now redis driverId := by
    simp only [getDriverState, h]
  unfold position
  rw [hdriver]

theorem touchPolicyState_drivers (policy : Policy) (Ct : ℚ) (redis : Redis) :
    (touchPolicyState io policy Ct redis).drivers = redis.drivers := by
  unfold touchPolicyState setPolicyState
  split <;> rfl

theorem touchPolicyState_zones (policy : Policy) (Ct : ℚ) (redis : Redis) :
    (touchPolicyState io policy Ct redis).zones = redis.zones := by
  unfold touchPolicyState setPolicyState
  split <;> rfl

/-- The evidence holds the trigger's verdict on the reading it holds itself. -/
theorem evidenceOf_eq (policy : Policy) (Ct : ℚ) :
    evidenceOf cfg io driverId dto policy Ct s =
      let place := position cfg io driverId dto s.redis
      let s := { s with redis := touchPolicyState io policy Ct s.redis }
      let zone := (truthy place.h3Cell).bind fun cell => getZoneState io.redisUp io.now s.redis cell
      let reading := readFraud cfg io driverId dto place s
      ⟨place.h3Cell, zoneLabel zone,
        (getPolicyState io.redisUp io.now reading.2.redis policy.id).bind PolicyState.zone,
        reading.1,
        TriggerService.evaluateTrigger cfg.latLngToCell ⟨io.now, io.redisUp, io.monitored⟩
          reading.2.redis
            ⟨driverId, place.h3Cell, place.lat, place.lng, reading.1.fraudScore⟩⟩ := by
  have hplace : position cfg io driverId dto (touchPolicyState io policy Ct s.redis) =
      position cfg io driverId dto s.redis :=
    position_congr (touchPolicyState_drivers policy Ct s.redis)
  unfold evidenceOf gatherEvidence
  rw [hplace]

theorem readFraud_asked {place : Position} {lat lng : ℚ} (hlat : place.lat = some lat)
    (hlng : place.lng = some lng) (s : System) {score : JsNumber}
    (h : (readFraud cfg io driverId dto place s).1 = ⟨some score, false⟩) :
    ∃ fraudScore : FraudService.FraudScore, fraudScore.fraudScore = score ∧
      (FraudService.computeFraudScore cfg.fraud io.fraud driverId (fraudDto dto lat lng) s).1 =
        .ok fraudScore := by
  unfold readFraud at h
  rw [hlat, hlng] at h
  dsimp only at h
  split at h
  · rename_i fraudScore s' hscore
    cases h
    exact ⟨fraudScore, rfl, congrArg Prod.fst hscore⟩
  · cases h

theorem readFraud_of_score {place : Position} {lat lng : ℚ} (hlat : place.lat = some lat)
    (hlng : place.lng = some lng) {score : FraudService.FraudScore}
    (h : (FraudService.computeFraudScore cfg.fraud io.fraud driverId (fraudDto dto lat lng) s).1 =
      .ok score) :
    (readFraud cfg io driverId dto place s).1 = ⟨some score.fraudScore, false⟩ := by
  unfold readFraud
  rw [hlat, hlng]
  dsimp only
  split
  · rename_i score' s' hscore
    cases h.symm.trans (congrArg Prod.fst hscore)
    rfl
  · rename_i s' hscore
    cases h.symm.trans (congrArg Prod.fst hscore)

/-- An approval was not held up by the score, whatever the services answered. -/
theorem waved_of_approved {s' : System} {result : InsuranceResult}
    (hasked : Asked cfg io driverId dto s)
    (h : processInsurance cfg io driverId dto s = (.ok result, s'))
    (happroved : result.decision = .APPROVED) :
    sentinelRejects dto = false ∧ FraudService.Waved cfg.fraud io.fraud.scoring := by
  obtain ⟨huser, policy, Ct, hrefusal⟩ := processInsurance_approved h happroved
  obtain ⟨h3Cell, score, -, -, -, hfraud, -, htrigger⟩ := refusal_eq_none.mp hrefusal
  obtain ⟨lat, hlat⟩ := Option.isSome_iff_exists.mp hasked.1
  obtain ⟨lng, hlng⟩ := Option.isSome_iff_exists.mp hasked.2
  rw [evidenceOf_eq] at hfraud htrigger
  obtain ⟨fraudScore, rfl, hscore⟩ := readFraud_asked hlat hlng _ hfraud
  have hlow : fraudScore.fraudScore.geFin (45 / 100) = false :=
    TriggerService.evaluateTrigger_approved (congrArg FraudReading.fraudScore hfraud) htrigger
  have hwaved : FraudService.sentinelRejects (fraudDto dto lat lng) = false ∧
      FraudService.Waved cfg.fraud io.fraud.scoring :=
    FraudService.waved_of_low (s := { s with redis := touchPolicyState io policy Ct s.redis }) huser
      hscore hlow
  exact ⟨hwaved.1, hwaved.2⟩

/-! ## A claim that nothing but the score could stop -/

namespace Cleared

/-- Two days into the policy. -/
def now : ℤ := 172800000

def driver : User := { Payments.Sample.user with platform := some "zepto" }

def policy : Policy := { Payments.Sample.policy with endDate := 604800000 }

def event : DisruptionEvent := { Payments.Sample.event with type := "HALTED", occurredAt := now }

/-- The payout of the event, on record since the first day. -/
def paid : Payout where
  id := "po1"
  policyId := "p1"
  disruptionEventId := "e1"
  status := .APPROVED
  estimatedLoss := some 400
  approvedPayout := some 400
  transactionId := some "pout_1"
  paymentMethod := some "AUTO"
  processingTime := none
  bankReference := none
  transferredAt := some 0
  createdAt := 0

def profile : DriverProfile := { weeklyEarningsTotal := some 7000 }

def zoneRecord : ZoneState := { Lf := some (8 / 10), zone_state := some "HALTED" }

def store (cell : String) : System where
  db :=
    { users := .singleton driver
      policies := .singleton policy
      disruptionEvents := .singleton event
      payouts := .singleton paid }
  redis :=
    { drivers := setEx (fun _ => none) now DRIVER_STATE_TTL "u1"
        { last_location := some { lat := some 13, lng := some 80 } }
      zones := setEx (fun _ => none) now ZONE_STATE_TTL cell zoneRecord
      policies := setEx (fun _ => none) now POLICY_STATE_TTL "p1" { zone := some cell } }

def evaluateIo (scoring : FraudService.Scoring) : EvaluateIo where
  now := now
  profile := some profile
  readPolicy := true
  readEligibility := true
  redisUp := true
  fraud := FraudService.smooth scoring
  monitored := {}
  calculate := ⟨now, true, true, profile⟩
  process :=
    { now := now
      readPolicy := true
      readEligibility := true
      redisUp := true
      readEvent := true
      eventId := "e2"
      createEvent := true
      readPayout := true
      settle := Payments.Sample.io
      redisPush := true }

/-- The coordinates the claim is judged on. -/
def latOf (dto : ProcessInsuranceRequestDto) : ℚ × ℚ :=
  match dto.lat, dto.lng with
  | some lat, some lng => (lat, lng)
  | _, _ => (13, 80)

def cellOf (cfg : Config) (dto : ProcessInsuranceRequestDto) : String :=
  cfg.latLngToCell (latOf dto).1 (latOf dto).2

theorem get_fresh {α : Type} (records : String → Option (Entry α)) (key : String) (value : α) :
    RedisState.get (setEx records now 900 key value) now key = some value :=
  get_setEx_self records key value (by decide)

theorem position_eq (scoring : FraudService.Scoring) :
    position cfg (evaluateIo scoring) "u1" dto (store (cellOf cfg dto)).redis =
      ⟨some (latOf dto).1, some (latOf dto).2, some (cellOf cfg dto)⟩ := by
  have hseen : getDriverState true now (store (cellOf cfg dto)).redis "u1" =
      some { last_location := some { lat := some 13, lng := some 80 } } :=
    (if_pos rfl).trans (get_fresh _ _ _)
  unfold position
  rw [show (evaluateIo scoring).redisUp = true from rfl,
    show (evaluateIo scoring).now = now from rfl,
    hseen]
  cases hlat : dto.lat <;> cases hlng : dto.lng <;> simp [cellOf, latOf, lastLocation, hlat, hlng]

/-- What the settlement of the claim reads. -/
structure Ready (cell : String) (s : System) : Prop where
  users : s.db.users = .singleton driver
  policies : s.db.policies = .singleton policy
  events : s.db.disruptionEvents = .singleton event
  payouts : s.db.payouts = .singleton paid
  zone : getZoneState true now s.redis cell = some zoneRecord
  record : (getPolicyState true now s.redis "p1").bind PolicyState.zone = some cell

theorem ready_store (cell : String) : Ready cell (store cell) where
  users := rfl
  policies := rfl
  events := rfl
  payouts := rfl
  zone := (if_pos rfl).trans (get_fresh _ _ _)
  record := by
    have hrecord : getPolicyState true now (store cell).redis "p1" =
        some { zone := some cell } := (if_pos rfl).trans (get_fresh _ _ _)
    rw [hrecord]
    rfl

theorem Ready.scored {cell : String} {s s' : System} (h : Ready cell s) (hs : OnlyScoring s s') :
    Ready cell s' := by
  obtain ⟨_, _, _, _, rfl⟩ := hs
  exact ⟨h.users, h.policies, h.events, h.payouts, h.zone, h.record⟩

theorem Ready.touched {cell : String} {s : System} (h : Ready cell s)
    (scoring : FraudService.Scoring) (Ct : ℚ) :
    Ready cell { s with redis := touchPolicyState (evaluateIo scoring) policy Ct s.redis } where
  users := h.users
  policies := h.policies
  events := h.events
  payouts := h.payouts
  zone := by
    have hzones : (touchPolicyState (evaluateIo scoring) policy Ct s.redis).zones = s.redis.zones :=
      touchPolicyState_zones policy Ct s.redis
    have hzone := h.zone
    simp only [getZoneState, hzones] at hzone ⊢
    exact hzone
  record := by
    have hrecord := h.record
    have htouched : getPolicyState true now
        (touchPolicyState (evaluateIo scoring) policy Ct s.redis) "p1" =
        some { (getPolicyState true now s.redis "p1").getD {} with
          Ct := some Ct, active := some true } :=
      (if_pos rfl).trans (get_fresh _ _ _)
    rw [htouched]
    cases hstate : getPolicyState true now s.redis "p1" with
    | none => rw [hstate] at hrecord; cases hrecord
    | some state =>
        rw [hstate] at hrecord
        exact hrecord

theorem Ready.eligible {cell : String} {s : System} (h : Ready cell s) (env : Eligibility.Env) :
    ∃ standing, Eligibility.assertDriverPolicyEligibility env true now s.db "u1"
      (some "STANDARD") = .ok standing := by
  have huser : s.db.users.findUnique (.id "u1") = some driver := by
    rw [h.users, Table.findUnique_singleton, if_pos (by decide)]
  have hoauth : Eligibility.isOAuthUser driver = true := by decide
  unfold Eligibility.assertDriverPolicyEligibility
  rw [huser]
  simp only [orThrow, hoauth, ok_bind]
  split
  · exact ⟨_, rfl⟩
  · exact ⟨_, rfl⟩

theorem Ready.active {cell : String} {s : System} (h : Ready cell s) :
    activePolicy now s.db "u1" = some policy := by
  rw [activePolicy, h.policies, Table.findFirstDesc_singleton, if_pos (by decide)]

theorem Ready.calculated {cell : String} {s : System} (h : Ready cell s) (Ew Lf Ct : Option ℚ) :
    ∃ calculation, calculatePayout ⟨now, true, true, profile⟩ s ⟨"u1", Ew, Lf, Ct⟩ =
      .ok calculation := by
  have hct : ctForPlan (some policy.planType) = some (6 / 10) := by decide +kernel
  unfold calculatePayout
  simp only [h.active, hct, orThrow, require, if_true, ok_bind]
  exact ⟨_, rfl⟩

theorem Ready.found {cell : String} {s : System} (h : Ready cell s)
    (scoring : FraudService.Scoring) {params : ProcessPayoutParams}
    (htype : params.disruptionType = some "HALTED") :
    findOrCreateEvent (evaluateIo scoring).process params s.db = .ok (event, s.db) := by
  have htypes : event.type = eventType params := by rw [eventType, htype]; rfl
  have hrecent : (evaluateIo scoring).process.now - 3600 * 1000 ≤ event.occurredAt := by
    change now - 3600 * 1000 ≤ now
    decide
  refine bind_eq_ok.mpr ⟨(), rfl, ?_⟩
  rw [h.events, Table.findFirstDesc_singleton, decide_eq_true htypes, decide_eq_true hrecent]
  rfl

theorem Ready.processed {cell : String} {s : System} (h : Ready cell s) (hcell : cell ≠ "")
    (scoring : FraudService.Scoring) (payoutAmount : Option ℚ) (eventTimestamp : Option ℤ) :
    ∃ payoutId transactionId grossAmount netAmount s',
      processPayout cfg.payout (evaluateIo scoring).process
        ⟨"u1", payoutAmount, some cell, eventTimestamp, some "p1", some "HALTED"⟩ s =
        (.ok (.existing payoutId transactionId grossAmount netAmount), s') := by
  have hgates : checkGates cfg.payout (evaluateIo scoring).process
      ⟨"u1", payoutAmount, some cell, eventTimestamp, some "p1", some "HALTED"⟩ s =
      .ok (policy, cell) := by
    have hpolicy : s.db.policies.findUnique "p1" = some policy := by
      rw [h.policies, Table.findUnique_singleton, if_pos (by decide)]
    have htruthy : truthy (some cell) = some cell := by simp [truthy, hcell]
    have hactive : policy.status = .ACTIVE ∧ now < policy.endDate := by decide
    obtain ⟨standing, heligible⟩ := h.eligible cfg.payout.eligibility
    refine bind_eq_ok.mpr ⟨policy, ?_, ?_⟩
    · exact bind_eq_ok.mpr ⟨(), rfl, bind_eq_ok.mpr ⟨policy, orThrow_eq_ok.mpr hpolicy, rfl⟩⟩
    refine bind_eq_ok.mpr ⟨(), rfl, bind_eq_ok.mpr ⟨(), require_eq_ok.mpr hactive, ?_⟩⟩
    refine bind_eq_ok.mpr
      ⟨standing, heligible, bind_eq_ok.mpr ⟨cell, orThrow_eq_ok.mpr htruthy, ?_⟩⟩
    refine bind_eq_ok.mpr ⟨cell, orThrow_eq_ok.mpr ((congrArg truthy h.record).trans htruthy), ?_⟩
    refine bind_eq_ok.mpr
      ⟨(), require_eq_ok.mpr rfl, bind_eq_ok.mpr ⟨(), require_eq_ok.mpr ?_, rfl⟩⟩
    exact congrArg zoneLabel h.zone
  have hevent : findOrCreateEvent (evaluateIo scoring).process
      ⟨"u1", payoutAmount, some cell, eventTimestamp, some "p1", some "HALTED"⟩ s.db =
      .ok (event, s.db) := h.found scoring rfl
  have hpaid : s.db.payouts.findUnique (.policyId_disruptionEventId policy.id event.id) =
      some paid := by
    rw [h.payouts, Table.findUnique_singleton, if_pos (by decide)]
  simp only [processPayout, hgates, hevent, hpaid]
  exact ⟨_, _, _, _, _, rfl⟩

/-- The evidence of the claim holds the halted cell and lets the payout through. -/
theorem evidence_admits (hcell : cellOf cfg dto ≠ "") (hsentinel : sentinelRejects dto = false)
    {scoring : FraudService.Scoring} (hwaved : FraudService.Waved cfg.fraud scoring) (Ct : ℚ) :
    ∃ e, evidenceOf cfg (evaluateIo scoring) "u1" dto policy Ct (store (cellOf cfg dto)) = e ∧
      e.h3Cell = some (cellOf cfg dto) ∧ e.zoneState = "HALTED" ∧ refusal e = none := by
  have hready : Ready (cellOf cfg dto) { store (cellOf cfg dto) with
      redis := touchPolicyState (evaluateIo scoring) policy Ct (store (cellOf cfg dto)).redis } :=
    (ready_store _).touched scoring Ct
  generalize htouched : ({ store (cellOf cfg dto) with
      redis := touchPolicyState (evaluateIo scoring) policy Ct (store (cellOf cfg dto)).redis } :
      System) = touched at hready
  have hscore : ∃ score, (FraudService.computeFraudScore cfg.fraud (FraudService.smooth scoring)
      "u1" (fraudDto dto (latOf dto).1 (latOf dto).2) touched).1 = .ok score ∧
      score.fraudScore.geFin (45 / 100) = false := by
    refine FraudService.computeFraudScore_waved ?_ ?_ ?_ hsentinel hwaved
    · rw [← htouched]; rfl
    · have hold : ¬FraudService.windowStart (FraudService.smooth scoring) ≤ paid.createdAt := by
        change ¬now - 24 * 60 * 60 * 1000 ≤ 0
        decide
      rw [FraudService.recentPayouts, hready.payouts]
      simp [Table.findManyDesc, Table.singleton, hold]
    · rw [← htouched]; rfl
  obtain ⟨score, hscore, hlow⟩ := hscore
  have hread : (readFraud cfg (evaluateIo scoring) "u1" dto
      ⟨some (latOf dto).1, some (latOf dto).2, some (cellOf cfg dto)⟩ touched).1 =
        ⟨some score.fraudScore, false⟩ := readFraud_of_score rfl rfl hscore
  have hafter : Ready (cellOf cfg dto) (readFraud cfg (evaluateIo scoring) "u1" dto
      ⟨some (latOf dto).1, some (latOf dto).2, some (cellOf cfg dto)⟩ touched).2 :=
    hready.scored (readFraud_frame _ _)
  have hcells : truthy (some (cellOf cfg dto)) = some (cellOf cfg dto) := by simp [truthy, hcell]
  have hzone : (truthy (some (cellOf cfg dto))).bind (fun cell =>
      getZoneState (evaluateIo scoring).redisUp (evaluateIo scoring).now touched.redis cell) =
      some zoneRecord := by
    rw [hcells]
    exact hready.zone
  have hredis : touchPolicyState (evaluateIo scoring) policy Ct (store (cellOf cfg dto)).redis =
      touched.redis := congrArg System.redis htouched
  rw [evidenceOf_eq, position_eq]
  simp only [htouched]
  simp only [hredis, hzone]
  refine ⟨_, rfl, rfl, rfl, refusal_mk hcell (by decide) hafter.record hread ?_ ?_⟩
  · exact JsNumber.gtFin_of_le (by norm_num [FRAUD_BLOCK_THRESHOLD]) hlow
  · exact TriggerService.evaluateTrigger_halted rfl hcell hafter.zone (by decide)
      (by decide +kernel) (congrArg FraudReading.fraudScore hread) hlow

theorem evaluateClaim_approved (hcell : cellOf cfg dto ≠ "")
    (hsentinel : sentinelRejects dto = false) {scoring : FraudService.Scoring}
    (hwaved : FraudService.Waved cfg.fraud scoring) (planKey : String) (Ew Ct : ℚ) :
    ∃ result, (evaluateClaim cfg (evaluateIo scoring) "u1" dto policy planKey Ew Ct
      (store (cellOf cfg dto))).1 = .ok result ∧ result.decision = .APPROVED := by
  have hevidence : ∃ e, evidenceOf cfg (evaluateIo scoring) "u1" dto policy Ct
      (store (cellOf cfg dto)) = e ∧ e.h3Cell = some (cellOf cfg dto) ∧ e.zoneState = "HALTED" ∧
      refusal e = none := evidence_admits hcell hsentinel hwaved Ct
  obtain ⟨e, he, hplace, hstate, hrefusal⟩ := hevidence
  have hready : Ready (cellOf cfg dto) (gatherEvidence cfg (evaluateIo scoring) "u1" dto policy
      { store (cellOf cfg dto) with
        redis :=
          touchPolicyState (evaluateIo scoring) policy Ct (store (cellOf cfg dto)).redis }).2 :=
    ((ready_store _).touched scoring Ct).scored (readFraud_frame _ _)
  unfold evidenceOf at he
  unfold evaluateClaim
  dsimp only
  generalize gatherEvidence cfg (evaluateIo scoring) "u1" dto policy
      { store (cellOf cfg dto) with
        redis := touchPolicyState (evaluateIo scoring) policy Ct (store (cellOf cfg dto)).redis } =
    gathered at he hready
  obtain ⟨e', s⟩ := gathered
  obtain rfl : e' = e := he
  have hpaid : ∀ Lf, ∃ payout result s', payClaim cfg (evaluateIo scoring) "u1" dto policy Ew Lf Ct
      e' s = (.ok (payout, result), s') ∧ result.success = true := by
    intro Lf
    obtain ⟨calculation, hcalculated⟩ := hready.calculated (some Ew) (some Lf) (some Ct)
    obtain ⟨payoutId, transactionId, grossAmount, netAmount, s', hprocessed⟩ :=
      hready.processed hcell scoring (some calculation.payoutAmount)
        (some (eventTimestamp (evaluateIo scoring) dto))
    have hcalculate : calculatePayout (evaluateIo scoring).calculate s
        ⟨"u1", some Ew, some Lf, some Ct⟩ = .ok calculation := hcalculated
    have hprocess : processPayout cfg.payout (evaluateIo scoring).process
        ⟨"u1", some calculation.payoutAmount, e'.h3Cell,
          some (eventTimestamp (evaluateIo scoring) dto), some policy.id, some e'.zoneState⟩ s =
        (.ok (.existing payoutId transactionId grossAmount netAmount), s') := by
      rw [hplace, hstate]
      exact hprocessed
    refine ⟨calculation.payoutAmount, .existing payoutId transactionId grossAmount netAmount, s',
      ?_,
      rfl⟩
    simp only [payClaim, hcalculate, hprocess]
  obtain ⟨payout, result, s', hpaid, hsuccess⟩ := hpaid (zoneLossFraction cfg (evaluateIo scoring)
    "u1" dto (touchPolicyState (evaluateIo scoring) policy Ct (store (cellOf cfg dto)).redis))
  simp only [hrefusal, hpaid, hsuccess]
  exact ⟨_, rfl, rfl⟩

theorem processInsurance_approved (hcell : cellOf cfg dto ≠ "")
    (hsentinel : sentinelRejects dto = false) {scoring : FraudService.Scoring}
    (hwaved : FraudService.Waved cfg.fraud scoring) :
    ∃ result, (processInsurance cfg (evaluateIo scoring) "u1" dto (store (cellOf cfg dto))).1 =
      .ok result ∧ result.decision = .APPROVED := by
  have hclaimed : claimedPolicy (evaluateIo scoring) "u1" (store (cellOf cfg dto)).db =
      .ok (7000, some policy) := by
    have hunended : PremiumService.unendedPolicy now (store (cellOf cfg dto)).db "u1" =
        some policy := (Table.findFirstDesc_singleton _ _ _).trans (if_pos (by decide))
    exact congrArg (fun policy => Except.ok ((7000 : ℚ), policy)) hunended
  have htier : ctForPlan (some policy.planType) = some (6 / 10) := by decide +kernel
  have hct : ctForPlan (some (PlansService.planKeyOf (store (cellOf cfg dto)).db policy)) =
      some (6 / 10) := htier
  obtain ⟨standing, heligible⟩ := (ready_store (cellOf cfg dto)).eligible cfg.payout.eligibility
  have heligible : Eligibility.assertDriverPolicyEligibility cfg.payout.eligibility
      (evaluateIo scoring).readEligibility (evaluateIo scoring).now (store (cellOf cfg dto)).db "u1"
      (some (PlansService.planKeyOf (store (cellOf cfg dto)).db policy)) = .ok standing := heligible
  simp only [processInsurance, hclaimed, heligible, hct]
  exact evaluateClaim_approved hcell hsentinel hwaved _ _ _

end Cleared

/-- An approval without a score is possible exactly when the sentinels stay silent and the
answers of the services are waved through. -/
theorem holdsUnscored_iff (cfg : Config) (hcell : ∀ lat lng, cfg.latLngToCell lat lng ≠ "")
    (dto : ProcessInsuranceRequestDto) (scoring : FraudService.Scoring) :
    (∀ io driverId s, io.fraud.scoring = scoring → HoldsUnscored cfg io driverId dto s) ↔
      ¬(FraudService.Unscored scoring ∧ sentinelRejects dto = false ∧
        FraudService.Waved cfg.fraud scoring) := by
  constructor
  · rintro h ⟨hunscored, hsentinel, hwaved⟩
    have hasked : Asked cfg (Cleared.evaluateIo scoring) "u1" dto
        (Cleared.store (Cleared.cellOf cfg dto)) := by
      rw [Asked, Cleared.position_eq]
      exact ⟨rfl, rfl⟩
    have happroved : ∃ result, (processInsurance cfg (Cleared.evaluateIo scoring) "u1" dto
        (Cleared.store (Cleared.cellOf cfg dto))).1 = .ok result ∧ result.decision = .APPROVED :=
      Cleared.processInsurance_approved (hcell _ _) hsentinel hwaved
    obtain ⟨result, hresult, hdecision⟩ := happroved
    refine h (Cleared.evaluateIo scoring) "u1" (Cleared.store (Cleared.cellOf cfg dto)) rfl
      hunscored hasked result ?_ hdecision
    rw [hresult]
    rfl
  · intro hnot io driverId s hscoring hunscored hasked result hresult happroved
    cases hprocess : processInsurance cfg io driverId dto s with
    | mk outcome s' =>
        rw [hprocess] at hresult
        cases outcome with
        | error e => cases hresult
        | ok result' =>
            cases hresult
            obtain ⟨hsentinel, hwaved⟩ := waved_of_approved hasked hprocess happroved
            exact hnot ⟨hscoring ▸ hunscored, hsentinel, hscoring ▸ hwaved⟩

/-- For every request and every answer of the two services: when the bridge passes the
computed score on, and when no call is approved without a score. -/
theorem failsClosed_iff (cfg : Config) (hcell : ∀ lat lng, cfg.latLngToCell lat lng ≠ "") :
    (∀ dto scoring,
      (∀ io userId s, io.scoring = scoring →
        FraudService.PassesOn cfg.fraud io userId dto s) ↔
        ¬(scoring.features = none ∧ FraudService.sentinelRejects dto = false ∧
          0 < FraudService.scoreFromFeatures none dto)) ∧
    (∀ dto scoring,
      (∀ io driverId s, io.fraud.scoring = scoring → HoldsUnscored cfg io driverId dto s) ↔
        ¬(FraudService.Unscored scoring ∧ sentinelRejects dto = false ∧
          FraudService.Waved cfg.fraud scoring)) :=
  ⟨FraudService.passesOn_iff cfg.fraud, holdsUnscored_iff cfg hcell⟩

namespace Cleared

def services : Config where
  payout := { toConfig := Payments.Sample.cfg, eligibility := {} }
  latLngToCell := fun _ _ => "8860145b5dfffff"
  nonFiniteColumn := fun _ => false

/-- A request from a device that reports a spoofed location. -/
def spoofed : FraudService.AnalyzeFraudDto :=
  { gpsLatitude := 13, gpsLongitude := 80, isSpoofed := some 1 }

/-- Both services are down. -/
def silent : FraudService.Scoring := ⟨none, none⟩

end Cleared

open Cleared in
theorem failsClosed_iff_services :
    (∀ dto scoring,
      (∀ io userId s, io.scoring = scoring →
        FraudService.PassesOn services.fraud io userId dto s) ↔
        ¬(scoring.features = none ∧ FraudService.sentinelRejects dto = false ∧
          0 < FraudService.scoreFromFeatures none dto)) ∧
    (∀ dto scoring,
      (∀ io driverId s, io.fraud.scoring = scoring → HoldsUnscored services io driverId dto s) ↔
        ¬(FraudService.Unscored scoring ∧ sentinelRejects dto = false ∧
          FraudService.Waved services.fraud scoring)) :=
  failsClosed_iff services fun _ _ => (by decide : "8860145b5dfffff" ≠ "")

open Cleared in
/-- Without features a computed score of 60 points arrives as no risk at all, and a claim
that was never scored is approved. -/
theorem not_failsClosed :
    ¬FraudService.PassesOn services.fraud (FraudService.smooth silent) "u1" spoofed { db := {} } ∧
      ¬HoldsUnscored services (evaluateIo silent) "u1" {} (store "8860145b5dfffff") := by
  constructor
  · intro h
    have hlost : ¬FraudService.PassesOn services.fraud (FraudService.smooth silent) "u1" spoofed
        { db := {} } := by
      unfold FraudService.PassesOn
      decide +kernel
    exact hlost h
  · intro h
    have hasked : Asked services (evaluateIo silent) "u1" {} (store "8860145b5dfffff") :=
      ⟨by decide, by decide⟩
    exact absurd (h (.inl rfl) hasked) (by decide +kernel)

end InsuranceService

end Aegis
