import Aegis.Verification.Payments.Equations
import Aegis.Library.OnceGuard

/-! # Retrying one payout

The same claim is attempted again and again, as the retry queue does, while requests to
the gateway, the resolution transaction and the updates of the catch block may fail. -/

namespace Aegis.Payments

open Outcome Gateway LiquidityPool

/-! ## The claim's guard -/

/-- The transfers made for a claim. -/
def transfersOf (w : World) (policyId disruptionEventId : String) : List Transfer :=
  w.transfers.filter fun t => t.policyId = policyId ∧ t.disruptionEventId = disruptionEventId

theorem transfersOf_append (w : World) (db : Db) {executed : List Transfer}
    {dto : ParametricPayoutDto} (h : ∀ t ∈ executed, OwnTransfer dto t) :
    transfersOf ⟨db, w.transfers ++ executed⟩ dto.policyId dto.disruptionEventId =
      transfersOf w dto.policyId dto.disruptionEventId ++ executed := by
  have hall : executed.filter (fun t => t.policyId = dto.policyId ∧
      t.disruptionEventId = dto.disruptionEventId) = executed := by
    refine List.filter_eq_self.mpr fun t ht => ?_
    simp [(h t ht).policyId, (h t ht).disruptionEventId]
  simp only [transfersOf, List.filter_append, hall]

def phaseOf : PayoutState → Phase
  | .PENDING | .FAILED => .free
  | .PROCESSING => .held
  | .SUCCESS => .spent

/-- The phase of the record under `id`; a missing record guards nothing yet. -/
def keyPhase (db : Db) (id : String) : Phase :=
  ((keyOf db id).map fun k => phaseOf k.payoutState).getD .free

/-- The guard of a claim: its record and the transfers made for it. -/
def claimGuard (cfg : Config) (dto : ParametricPayoutDto) (w : World) : OnceGuard where
  phase := keyPhase w.db (dto.deterministicId cfg)
  fired := (transfersOf w dto.policyId dto.disruptionEventId).length

section Guard

variable {cfg : Config} {io : Io} {dto : ParametricPayoutDto} {w : World}

theorem phaseOf_eq_free {state : PayoutState} (hsuccess : state ≠ .SUCCESS)
    (hprocessing : state ≠ .PROCESSING) : phaseOf state = .free := by
  cases state with
  | PENDING | FAILED => rfl
  | PROCESSING => exact absurd rfl hprocessing
  | SUCCESS => exact absurd rfl hsuccess

theorem findIdempotencyKey_of_keyOf {db : Db} {k : PayoutIdempotencyKey}
    (h : keyOf db (dto.deterministicId cfg) = some k) :
    findIdempotencyKey cfg dto db = .ok (some k) := by
  have hkey : db.payoutIdempotencyKeys.findUnique (.id (dto.deterministicId cfg)) = some k := h
  rw [findIdempotencyKey, hkey]

theorem Admitted.keyPhase (h : Admitted cfg dto w.db) :
    keyPhase w.db (dto.deterministicId cfg) = .free := by
  obtain ⟨found, hfound, hfree⟩ := h.free
  unfold Payments.keyPhase
  cases hk : keyOf w.db (dto.deterministicId cfg) with
  | none => rfl
  | some k =>
      rw [findIdempotencyKey_of_keyOf hk, Except.ok.injEq] at hfound
      obtain ⟨hsuccess, hprocessing⟩ := hfree k hfound.symm
      exact phaseOf_eq_free hsuccess hprocessing

theorem ClaimAfter.keyPhase {db' : Db} {key : PayoutIdempotencyKey} {row : Payout}
    (h : ClaimAfter cfg dto w.db db' key row) :
    Payments.keyPhase db' (dto.deterministicId cfg) = phaseOf key.payoutState := by
  simp [Payments.keyPhase, h.key]

@[simp] theorem lockedKey_payoutState (db : Db) :
    (lockedKey cfg dto db).payoutState = .PROCESSING := by
  unfold lockedKey
  cases keyOf db (dto.deterministicId cfg) <;> rfl

@[simp] theorem lockedRow_status (db : Db) : (lockedRow io dto db).status = .PROCESSING := by
  unfold lockedRow
  cases rowOf db dto.policyId dto.disruptionEventId <;> rfl

/-! ## Undisturbed calls -/

/-- Whatever the gateway executes is answered, and a settlement can be recorded. A flag of
an operation that the call does not reach is immaterial. -/
structure Undisturbed (io : Io) : Prop where
  answered : ∀ r ∈ io.payout, Sound r
  recorded : io.phase2 = true

/-- The row of the claim is approved whenever a transfer has been made for it. -/
def PaidIsApproved (dto : ParametricPayoutDto) (w : World) : Prop :=
  transfersOf w dto.policyId dto.disruptionEventId ≠ [] →
    ∃ r, rowOf w.db dto.policyId dto.disruptionEventId = some r ∧ r.status = .APPROVED

/-- In an undisturbed call that fails nothing was transferred. -/
theorem executed_eq_nil {result : Except Exn RazorpayPayout} {executed : List Transfer} {e : Exn}
    (hio : Undisturbed io) (hrail : RailSpec io dto result executed)
    (hcause : result = .error e ∨ io.phase2 = false) : executed = [] := by
  rcases hrail.sound hio.answered with ⟨rfl, -⟩ | ⟨p, t, hp, -⟩
  · rfl
  · rcases hcause with hcause | hcause
    · rw [hp] at hcause
      cases hcause
    · simp [hio.recorded] at hcause

/-- An undisturbed call that settles makes one transfer. -/
theorem executed_length_eq_one {p : RazorpayPayout} {executed : List Transfer}
    (hio : Undisturbed io) (hrail : RailSpec io dto (.ok p) executed) : executed.length = 1 := by
  rcases hrail.sound hio.answered with ⟨-, e, he⟩ | ⟨p, t, -, rfl⟩
  · cases he
  · rfl

/-- An undisturbed call is a path of the claim's guard. -/
theorem CallCases.path {result : Except Exn PayoutResult} {w' : World}
    (h : CallCases cfg io dto w result w') (hio : Undisturbed io) :
    Relation.ReflTransGen OnceGuard.Step (claimGuard cfg dto w) (claimGuard cfg dto w') := by
  cases h with
  | refused e => exact .refl
  | cached k howner hfound hsuccess => exact .refl
  | settled p executed db' hadmitted hrail hafter =>
      simp only [claimGuard, transfersOf_append _ _ hrail.own, List.length_append,
        executed_length_eq_one hio hrail, hadmitted.keyPhase, hafter.keyPhase]
      exact OnceGuard.steps_fire _
  | failed e railResult executed db' hadmitted hrail hcause hafter =>
      have htransfers := transfersOf_append w db' hrail.own
      rw [executed_eq_nil hio hrail hcause, List.append_nil] at htransfers ⊢
      simp only [claimGuard, htransfers, List.append_nil, hadmitted.keyPhase, hafter.keyPhase]
      unfold failedKey
      split
      · exact OnceGuard.steps_giveUp _
      · simpa [phaseOf] using Relation.ReflTransGen.single (OnceGuard.Step.acquire _)

theorem CallCases.paidIsApproved {result : Except Exn PayoutResult} {w' : World}
    (h : CallCases cfg io dto w result w') (hio : Undisturbed io)
    (hsound : (claimGuard cfg dto w).Sound) (hw : PaidIsApproved dto w) :
    PaidIsApproved dto w' := by
  cases h with
  | refused e => exact hw
  | cached k howner hfound hsuccess => exact hw
  | settled p executed db' hadmitted hrail hafter => exact fun _ => ⟨_, hafter.row, rfl⟩
  | failed e railResult executed db' hadmitted hrail hcause hafter =>
      intro hpaid
      rw [transfersOf_append _ _ hrail.own, executed_eq_nil hio hrail hcause, List.append_nil]
        at hpaid
      rcases hsound with hfired | ⟨-, hspent⟩
      · exact absurd (List.length_eq_zero_iff.mp hfired) hpaid
      · have hfree : (claimGuard cfg dto w).phase = .free := hadmitted.keyPhase
        rw [hfree] at hspent
        cases hspent

end Guard

/-! ## Runs of one request -/

section Retry

variable (cfg : Config) (dto : ParametricPayoutDto)

/-- One attempt; the retry queue draws a new correlation id for each. -/
def attempt (w : World) (call : Io × Option String) : World :=
  (processParametricPayout cfg call.1 { dto with correlationId := call.2 } w).2

/-- One transfer at most, after which the row is never rejected and the key never failed. -/
structure PaidOnce (w : World) : Prop where
  once : (transfersOf w dto.policyId dto.disruptionEventId).length ≤ 1
  row : transfersOf w dto.policyId dto.disruptionEventId ≠ [] →
    ∀ r, rowOf w.db dto.policyId dto.disruptionEventId = some r → r.status ≠ .REJECTED
  key : transfersOf w dto.policyId dto.disruptionEventId ≠ [] →
    ∀ k, keyOf w.db (dto.deterministicId cfg) = some k → k.payoutState ≠ .FAILED

theorem attempt_refines : OnceGuard.Refines (attempt cfg dto) (PaidIsApproved dto)
    (fun _ call => Undisturbed call.1) (claimGuard cfg dto) where
  inv w call hinv hsound hok :=
    (processParametricPayout_cases cfg call.1 { dto with correlationId := call.2 } w).paidIsApproved
      hok hsound hinv
  path w call _ _ hok :=
    (processParametricPayout_cases cfg call.1 { dto with correlationId := call.2 } w).path hok

theorem paidOnce_of_sound {w : World} (hinv : PaidIsApproved dto w)
    (hsound : (claimGuard cfg dto w).Sound) : PaidOnce cfg dto w := by
  refine ⟨hsound.fired_le_one, fun hpaid r hr hrejected => ?_, fun hpaid k hk hfailed => ?_⟩
  · obtain ⟨r', hr', happroved⟩ := hinv hpaid
    rw [hr] at hr'
    cases hr'
    simp [hrejected] at happroved
  · rcases hsound with hfired | ⟨-, hspent⟩
    · exact hpaid (List.length_eq_zero_iff.mp hfired)
    · simp [claimGuard, keyPhase, hk, hfailed, phaseOf] at hspent

/-- Over any number of undisturbed attempts the claim is paid at most once. -/
theorem always_paidOnce (db : Db) (calls : List (Io × Option String))
    (h : ∀ call ∈ calls, Undisturbed call.1) :
    Run.Always (attempt cfg dto) (PaidOnce cfg dto) ⟨db, []⟩ calls := by
  have hstart : PaidIsApproved dto ⟨db, []⟩ := fun hpaid => absurd rfl hpaid
  have hrun := (attempt_refines cfg dto).always_sound hstart (.inl rfl)
    (Run.along_of_forall h (⟨db, []⟩ : World))
  exact hrun.mono fun w hw => paidOnce_of_sound cfg dto hw.1 hw.2

end Retry

/-! ## A driver with one policy and one event -/

namespace Sample

def user : User where
  id := "u1"
  email := "driver@mail.in"
  phone := none
  passwordHash := ""
  role := .DRIVER
  isVerified := true
  otpCode := none
  otpExpiresAt := none
  refreshToken := none
  createdAt := 0
  driverName := none
  platform := none

def payoutSetup : KYCPayoutSetup where
  userId := "u1"
  method := .UPI
  upiId := some "driver@upi"
  accountNumber := none
  ifscCode := none
  accountHolder := none
  bankName := none
  consentVersion := none
  financialDataConsent := true
  financialDataConsentAt := none

def policy : Policy where
  id := "p1"
  userId := "u1"
  planType := "STANDARD"
  status := .ACTIVE
  premium := 79
  startDate := 0
  endDate := 10000000
  createdAt := 0
  weeklyPlanId := none

def event : DisruptionEvent where
  id := "e1"
  type := "RAIN"
  title := "Heavy rain"
  expectedLoss := some 850
  expectedPayout := some 800
  occurredAt := 0
  expiresAt := none
  verified := true

def db : Db where
  users := .singleton user
  kycPayoutSetups := .singleton payoutSetup
  policies := .singleton policy
  disruptionEvents := .singleton event

/-- A deployment with a RazorpayX source account. -/
def cfg : Config where
  env :=
    { razorpayKeyId := some "rzp_live_1"
      razorpayKeySecret := some "secret"
      razorpayxSourceAccount := some "2323230001" }
  sha256 := id

def dto : ParametricPayoutDto where
  userId := "u1"
  policyId := "p1"
  disruptionEventId := "e1"
  eventTimestamp := 7200
  h3Cell := "8860145b5dfffff"
  approvedPayout := 800

/-- Every operation goes through. -/
def io : Io where
  now := 7200000
  payoutId := "po1"
  claimCaseId := "cc1"
  randomBytes := []
  preTx := true
  readUser := true
  readPayoutSetup := true
  contact := [.answered "cont_1"]
  fundAccount := [.answered "fa_1"]
  payout := [.answered ⟨"pout_1", none⟩]
  withdraw := .available
  phase2 := true
  markFailed := true
  markRejected := true

/-- The gateway executes the first payout POST but its response is lost. -/
def ioLost : Io :=
  { io with payout := [.lost ⟨"pout_1", none⟩ "socket hang up", .answered ⟨"pout_2", none⟩] }

/-- The payout is executed and answered; the resolution transaction does not commit. -/
def ioUnrecorded : Io := { io with phase2 := false }

end Sample

open Sample in
theorem always_paidOnce_two_attempts :
    Run.Always (attempt cfg dto) (PaidOnce cfg dto) ⟨db, []⟩ [(io, none), (io, some "retry")] := by
  refine always_paidOnce cfg dto db _ ?_
  have hio : Undisturbed io := ⟨by simp [io, Sound, Reply.executed], rfl⟩
  simp [hio]

open Sample in
/-- A lost response makes one call pay twice, and an unrecorded settlement is rejected and
paid again by the next attempt. -/
theorem not_always_paidOnce :
    ¬ Run.Always (attempt cfg dto) (PaidOnce cfg dto) ⟨db, []⟩ [(ioLost, none)] ∧
      ¬ Run.Always (attempt cfg dto) (PaidOnce cfg dto) ⟨db, []⟩
        [(ioUnrecorded, none), (io, some "retry")] := by
  have hlost : (transfersOf (attempt cfg dto ⟨db, []⟩ (ioLost, none)) "p1" "e1").length = 2 := by
    decide
  have hagain : (transfersOf (Run.final (attempt cfg dto) ⟨db, []⟩
      [(ioUnrecorded, none), (io, some "retry")]) "p1" "e1").length = 2 := by
    decide
  constructor
  · intro h
    have honce : (transfersOf (attempt cfg dto ⟨db, []⟩ (ioLost, none)) "p1" "e1").length ≤ 1 :=
      h.last.once
    omega
  · intro h
    have honce : (transfersOf (Run.final (attempt cfg dto) ⟨db, []⟩
        [(ioUnrecorded, none), (io, some "retry")]) "p1" "e1").length ≤ 1 := h.last.once
    omega

end Aegis.Payments
