import Aegis.Library.Run
import Aegis.Model.FraudReview
import Aegis.Verification.Fraud.Status

/-! # Workers against analysts

A worker checks the status and updates by user, with nothing in between that would notice an
analyst's write. -/

namespace Aegis.ConcurrentReview

open FraudService FraudQueueProcessor Run

/-! ## The operations in one piece -/

theorem process_eq (io : JobIo) (userId : String) (db : Db) :
    (process io userId db).2 = if expired io userId db then reject io userId db else db := by
  unfold process expired reject
  cases io.readAnalysis with
  | false => rfl
  | true =>
      cases hfound : db.fraudAnalyses.findUnique userId with
      | none => rfl
      | some analysis =>
          by_cases hstatus : analysis.status = "INCONCLUSIVE"
          · cases io.writeAnalysis <;> simp [hstatus]
          · simp [hstatus]

theorem decideFraudCase_eq (writable readable approve : Bool) (analysisId : String) (db : Db) :
    (decideFraudCase writable readable analysisId approve db).toOption =
      (openedCase readable analysisId db).bind fun userId =>
        (reviewSubmission writable userId (if approve then "APPROVED" else "REJECTED")
          db).toOption := by
  unfold decideFraudCase openedCase
  cases readable with
  | false => rfl
  | true =>
      cases hfound : db.fraudAnalyses.rows.find? fun a => a.id = analysisId with
      | none => rfl
      | some analysis => rfl

/-! ## The law -/

variable {τ : Type}

/-- The status is the one that an analyst has set last. -/
def Upheld (s : Desk τ) : Prop :=
  ∀ u, ∀ status ∈ s.decided u, analysisStatus s.db u = some status

variable (calls : τ → ReviewCall)

/-- A worker has read that the analysis is inconclusive and is going to reject it. -/
def Rejecting (s : Desk τ) (u : String) : Prop :=
  ∃ t io, calls t = .process io u ∧ s.pc t = .rejecting ∧ io.writeAnalysis = true

/-- The analyst's decision that the next step of the thread stores. -/
def decision (s : Desk τ) (t : τ) : Option (String × String) :=
  let stored (writable : Bool) (u status : String) : Option (String × String) :=
    if writable && (analysisStatus s.db u).isSome then some (u, status) else none
  match calls t, s.pc t with
  | .reviewSubmission writable u status, .start => stored writable u status
  | .escalateSubmission writable u, .start => stored writable u "ESCALATED"
  | .decideFraudCase writable _ _ approve, .deciding u =>
      stored writable u (if approve then "APPROVED" else "REJECTED")
  | _, _ => none

/-- The worker that the step lets go on to its update. -/
def passed (s : Desk τ) (t : τ) : Option String :=
  match calls t, s.pc t with
  | .process io u, .start => if io.writeAnalysis && expired io u s.db then some u else none
  | _, _ => none

/-- No decision falls between the two halves of a worker, unless it is what the worker is
about to write, and no worker takes up an analysis that an analyst has left inconclusive. -/
structure TurnOk (s : Desk τ) (t : τ) : Prop where
  decision : ∀ u status, decision calls s t = some (u, status) → status ≠ "AUTO_REJECTED" →
    ¬Rejecting calls s u
  passed : ∀ u ∈ passed calls s t, s.decided u ≠ some "INCONCLUSIVE"

/-! ## What a step does -/

section Steps

variable {calls} {s s' : Desk τ} {t : τ}

/-- Only decisions and the updates of workers write. -/
inductive Stepped (calls : τ → ReviewCall) (t : τ) (s s' : Desk τ) : Prop where
  | moved (hdb : s'.db = s.db) (hdecided : s'.decided = s.decided)
      (hpc : ∀ t', t' ≠ t → s'.pc t' = s.pc t')
      (hpassed : ∀ io u, calls t = .process io u → io.writeAnalysis = true →
        s'.pc t = .rejecting → u ∈ passed calls s t ∧ analysisStatus s.db u = some "INCONCLUSIVE")
  | decided (u status : String) (hdecision : decision calls s t = some (u, status))
      (hsets : SetsStatus u status s.db s'.db)
      (hdecided : s'.decided = Function.update s.decided u (some status))
      (hpc : ∀ t', t' ≠ t → s'.pc t' = s.pc t') (hdone : s'.pc t = .done)
  | rejected (io : JobIo) (u : String) (hcall : calls t = .process io u)
      (hrejecting : s.pc t = .rejecting) (hwritable : io.writeAnalysis = true)
      (hstatus : ∀ v, analysisStatus s'.db v =
        if v = u then (analysisStatus s.db v).map fun _ => "AUTO_REJECTED"
        else analysisStatus s.db v)
      (hdecided : s'.decided = s.decided)
      (hpc : ∀ t', t' ≠ t → s'.pc t' = s.pc t') (hdone : s'.pc t = .done)

/-- The workers on their way to the update, and the law. -/
structure Invariant (calls : τ → ReviewCall) (s : Desk τ) : Prop where
  upheld : Upheld s
  rejecting : ∀ u, Rejecting calls s u → ∀ status ∈ s.decided u, status = "AUTO_REJECTED"

theorem Invariant.moved (hs : Invariant calls s) (hok : TurnOk calls s t)
    (hdb : s'.db = s.db) (hdecided : s'.decided = s.decided)
    (hpc : ∀ t', t' ≠ t → s'.pc t' = s.pc t')
    (hpassed : ∀ io u, calls t = .process io u → io.writeAnalysis = true →
      s'.pc t = .rejecting → u ∈ passed calls s t ∧ analysisStatus s.db u = some "INCONCLUSIVE") :
    Invariant calls s' := by
  refine ⟨fun u status hu => ?_, ?_⟩
  · rw [hdecided] at hu
    rw [hdb]
    exact hs.upheld u status hu
  · rintro u ⟨t', io, hcall, hrejecting, hwritable⟩ status hu
    rw [hdecided] at hu
    by_cases ht : t' = t
    · subst ht
      obtain ⟨hmem, hinconclusive⟩ := hpassed io u hcall hwritable hrejecting
      have hstatus : status = "INCONCLUSIVE" := by
        rw [hs.upheld u status hu, Option.some.injEq] at hinconclusive
        exact hinconclusive
      exact absurd (hstatus ▸ hu) (hok.passed u hmem)
    · rw [hpc t' ht] at hrejecting
      exact hs.rejecting u ⟨t', io, hcall, hrejecting, hwritable⟩ status hu

theorem Invariant.decided (hs : Invariant calls s) (hok : TurnOk calls s t) {u status : String}
    (hdecision : decision calls s t = some (u, status)) (hsets : SetsStatus u status s.db s'.db)
    (hdecided : s'.decided = Function.update s.decided u (some status))
    (hpc : ∀ t', t' ≠ t → s'.pc t' = s.pc t') (hdone : s'.pc t = .done) :
    Invariant calls s' := by
  have hrejecting {v : String} (h : Rejecting calls s' v) : Rejecting calls s v := by
    obtain ⟨t', io, hcall, hpc', hwritable⟩ := h
    have ht : t' ≠ t := by
      rintro rfl
      rw [hdone] at hpc'
      cases hpc'
    exact ⟨t', io, hcall, hpc t' ht ▸ hpc', hwritable⟩
  refine ⟨fun v status' hv => ?_, fun v hv status' hdec => ?_⟩
  · rw [hdecided] at hv
    by_cases huv : v = u
    · subst huv
      rw [Function.update_self, Option.mem_some_iff] at hv
      rw [hsets.self, hv]
    · rw [Function.update_of_ne huv] at hv
      rw [hsets.of_ne huv]
      exact hs.upheld v status' hv
  · rw [hdecided] at hdec
    by_cases huv : v = u
    · subst huv
      rw [Function.update_self, Option.mem_some_iff] at hdec
      by_contra hne
      exact hok.decision v status hdecision (hdec ▸ hne) (hrejecting hv)
    · rw [Function.update_of_ne huv] at hdec
      exact hs.rejecting v (hrejecting hv) status' hdec

theorem Invariant.rejected (hs : Invariant calls s) {io : JobIo} {u : String}
    (hcall : calls t = .process io u) (hrejecting : s.pc t = .rejecting)
    (hwritable : io.writeAnalysis = true)
    (hstatus : ∀ v, analysisStatus s'.db v =
      if v = u then (analysisStatus s.db v).map fun _ => "AUTO_REJECTED"
      else analysisStatus s.db v)
    (hdecided : s'.decided = s.decided)
    (hpc : ∀ t', t' ≠ t → s'.pc t' = s.pc t') (hdone : s'.pc t = .done) :
    Invariant calls s' := by
  refine ⟨fun v status hv => ?_, ?_⟩
  · rw [hdecided] at hv
    rw [hstatus, hs.upheld v status hv]
    split
    · rename_i huv
      subst huv
      have hown := hs.rejecting v ⟨t, io, hcall, hrejecting, hwritable⟩ status hv
      rw [hown]
      rfl
    · rfl
  · rintro v ⟨t', io', hcall', hpc', hwritable'⟩ status hv
    rw [hdecided] at hv
    have ht : t' ≠ t := by
      rintro rfl
      rw [hdone] at hpc'
      cases hpc'
    exact hs.rejecting v ⟨t', io', hcall', hpc t' ht ▸ hpc', hwritable'⟩ status hv

theorem Stepped.invariant (h : Stepped calls t s s') (hs : Invariant calls s)
    (hok : TurnOk calls s t) : Invariant calls s' := by
  cases h with
  | moved hdb hdecided hpc hpassed => exact hs.moved hok hdb hdecided hpc hpassed
  | decided u status hdecision hsets hdecided hpc hdone =>
      exact hs.decided hok hdecision hsets hdecided hpc hdone
  | rejected io u hcall hrejecting hwritable hstatus hdecided hpc hdone =>
      exact hs.rejected hcall hrejecting hwritable hstatus hdecided hpc hdone

variable [DecidableEq τ]

theorem goTo_pc_of_ne (s : Desk τ) (pc : ReviewPc) {t' : τ} (h : t' ≠ t) :
    (s.goTo t pc).pc t' = s.pc t' := by
  simp [Desk.goTo, h]

@[simp] theorem goTo_pc_self (s : Desk τ) (t : τ) (pc : ReviewPc) : (s.goTo t pc).pc t = pc := by
  simp [Desk.goTo]

@[simp] theorem goTo_db (s : Desk τ) (t : τ) (pc : ReviewPc) : (s.goTo t pc).db = s.db := rfl

@[simp] theorem goTo_decided (s : Desk τ) (t : τ) (pc : ReviewPc) :
    (s.goTo t pc).decided = s.decided := rfl

/-- The step of an analyst. -/
theorem stepped_decide {writable : Bool} {u status : String}
    (hdecision : decision calls s t =
      if writable && (analysisStatus s.db u).isSome then some (u, status) else none)
    (hworker : ∀ io v, calls t ≠ .process io v) :
    Stepped calls t s ((s.decide writable u status).goTo t .done) := by
  unfold Desk.decide
  cases hreview : reviewSubmission writable u status s.db with
  | error e =>
      exact .moved rfl rfl (fun t' h => goTo_pc_of_ne s .done h)
        fun io v hcall => absurd hcall (hworker io v)
  | ok db =>
      obtain ⟨hwritable, hfound, hsets⟩ := reviewSubmission_status hreview
      rw [hwritable, Option.isSome_iff_ne_none.mpr hfound] at hdecision
      exact .decided u status hdecision hsets rfl (fun t' h => goTo_pc_of_ne _ .done h)
        (goTo_pc_self _ t .done)

theorem stepped_check {io : JobIo} {u : String} (hcall : calls t = .process io u)
    (hpc : s.pc t = .start) :
    Stepped calls t s (s.goTo t (if expired io u s.db then .rejecting else .done)) := by
  refine .moved rfl rfl (fun t' h => goTo_pc_of_ne s _ h) fun io' u' hcall' hwritable h => ?_
  obtain ⟨rfl, rfl⟩ : io = io' ∧ u = u' := by simpa [hcall] using hcall'
  have hexpired : expired io u s.db = true := by
    by_contra hnot
    simp [hnot] at h
  refine ⟨by simp [passed, hcall, hpc, hwritable, hexpired], ?_⟩
  simp only [expired, Bool.and_eq_true, Option.any_eq_true, decide_eq_true_eq] at hexpired
  obtain ⟨-, analysis, hfound, hstatus⟩ := hexpired
  simp [analysisStatus, hfound, hstatus]

theorem stepped_reject {io : JobIo} {u : String} (hcall : calls t = .process io u)
    (hpc : s.pc t = .rejecting) :
    Stepped calls t s ({ s with db := reject io u s.db }.goTo t .done) := by
  cases hwritable : io.writeAnalysis with
  | true =>
      refine .rejected io u hcall hpc hwritable (fun v => ?_) rfl
        (fun t' h => goTo_pc_of_ne _ .done h) (goTo_pc_self _ t .done)
      rw [goTo_db, reject, if_pos hwritable, analysisStatus_setStatus]
  | false =>
      refine .moved (by simp [reject, hwritable]) rfl
        (fun t' h => goTo_pc_of_ne _ .done h) fun io' u' _ _ h => ?_
      rw [goTo_pc_self] at h
      cases h

theorem step_stepped (calls : τ → ReviewCall) (s : Desk τ) (t : τ) :
    Stepped calls t s (s.step calls t) := by
  unfold Desk.step
  split
  · rename_i io u hcall hpc
    exact stepped_check hcall hpc
  · rename_i io u hcall hpc
    exact stepped_reject hcall hpc
  · rename_i writable u status hcall hpc
    exact stepped_decide (by simp only [decision, hcall, hpc]) (by simp [hcall])
  · rename_i writable u hcall hpc
    exact stepped_decide (by simp only [decision, hcall, hpc]) (by simp [hcall])
  · rename_i writable readable analysisId approve hcall hpc
    exact .moved rfl rfl (fun t' h => goTo_pc_of_ne s _ h) fun io u hcall' => by
      rw [hcall] at hcall'
      cases hcall'
  · rename_i writable readable analysisId approve u hcall hpc
    exact stepped_decide (by simp only [decision, hcall, hpc]) (by simp [hcall])
  · rename_i hcheck hreject hreview hescalate hopen hdecide
    exact .moved rfl rfl (fun _ _ => rfl) fun io u hcall _ hpc =>
      (hreject io u hcall hpc).elim

end Steps

/-- The run lemma: an analyst's decision stands in every interleaving in which no decision falls
into the gap of a worker. -/
theorem always_upheld [DecidableEq τ] (calls : τ → ReviewCall) (db : Db) {schedule : List τ}
    (hok : Along (Desk.step calls) (TurnOk calls) { db } schedule) :
    Always (Desk.step calls) Upheld { db } schedule := by
  have hinit : Invariant calls ({ db } : Desk τ) := by
    refine ⟨fun u status hu => ?_, fun u hu status hdec => ?_⟩
    · cases hu
    · cases hdec
  have hstep (s : Desk τ) (t : τ) (hs : Invariant calls s) (hok : TurnOk calls s t) :
      Invariant calls (s.step calls t) := (step_stepped calls s t).invariant hs hok
  exact (always_of_step hstep hinit hok).mono fun _ h => h.upheld

/-! ## One analysis -/

namespace Gap

def db : Db where
  fraudAnalyses := .singleton { blankAnalysis "fa1" "u1" with status := "INCONCLUSIVE" }

def worker : ReviewCall := .process { now := 300000 } "u1"

/-- A worker and an administrator. -/
def approving : Fin 2 → ReviewCall
  | 0 => worker
  | 1 => .decideFraudCase true true "fa1" true

/-- A worker and an analyst who leaves the case open. -/
def reopening : Fin 2 → ReviewCall
  | 0 => worker
  | 1 => .reviewSubmission true "u1" "INCONCLUSIVE"

theorem turnOk_of_idle {τ : Type} {calls : τ → ReviewCall} {s : Desk τ} {t : τ}
    (hidle : ∀ t, s.pc t ≠ .rejecting) (hpassed : passed calls s t = none) :
    TurnOk calls s t := by
  refine ⟨fun u status _ _ => ?_, by simp [hpassed]⟩
  rintro ⟨t', io, -, hpc, -⟩
  exact hidle t' hpc

end Gap

open Gap in
/-- The worker comes after the administrator has decided. -/
theorem always_upheld_approving :
    Always (Desk.step approving) Upheld { db } [1, 1, 0, 0] :=
  always_upheld approving db ⟨turnOk_of_idle (by decide) (by decide),
    turnOk_of_idle (by decide) (by decide), turnOk_of_idle (by decide) (by decide),
    turnOk_of_idle (by decide) (by decide), trivial⟩

open Gap in
/-- The decision falls between the two halves of the worker, or leaves the case for it. -/
theorem not_always_upheld :
    ¬Always (Desk.step approving) Upheld { db } [0, 1, 1, 0] ∧
      ¬Always (Desk.step reopening) Upheld { db } [1, 0, 0] := by
  refine ⟨fun h => ?_, fun h => ?_⟩
  · exact absurd (h.last "u1" "APPROVED" (by decide)) (by decide)
  · exact absurd (h.last "u1" "INCONCLUSIVE" (by decide)) (by decide)

end Aegis.ConcurrentReview
