import Aegis.Verification.Identity.RowWrites

/-! # The onboarding state machine

The status of a profile moves along the documented arrows as long as no request writes over a
status that it should have looked at. -/

namespace Aegis.Identity

open Aegis.Action JsString DynamicQCommerce AuthService KycService

/-! ## The law -/

/-- The arrows of the machine, and those of a resubmission. -/
inductive Arrow : KYCStatus → KYCStatus → Prop
  | same (status) : Arrow status status
  | started : Arrow .NOT_STARTED .IN_PROGRESS
  | submitted : Arrow .IN_PROGRESS .SUBMITTED
  | approved : Arrow .SUBMITTED .APPROVED
  | rejected : Arrow .SUBMITTED .REJECTED
  | reopened : Arrow .REJECTED .IN_PROGRESS
  | resubmitted : Arrow .REJECTED .SUBMITTED

section Law

variable (cfg : Config) (w : World) (call : Call)

def kycStatus (store : Store) (userId : String) : Option KYCStatus :=
  (store.kycProfiles.findUnique userId).map KYCProfile.status

/-- An upload, a submission or a signup of the manual onboarding. -/
def Resubmits (userId : String) : Prop :=
  (∃ status, Files call userId status) ∨ ∃ platform, SignsUp cfg w call userId platform

/-- Every change of a status is one of the arrows, and a rejection is only left by a
resubmission. -/
def Documented : Prop :=
  ∀ userId status, kycStatus w.store userId = some status →
    ∃ status', kycStatus (step cfg w call).store userId = some status' ∧ Arrow status status' ∧
      (status = .REJECTED → status' ≠ .REJECTED → Resubmits cfg w call userId)

/-- A profile that was rejected is approved only by an administrator, after a new submission. -/
def ReviewedAnew (calls : List Call) : Prop :=
  ∀ before after userId, calls = before ++ after →
    kycStatus (Run.final (step cfg) w before).store userId = some .REJECTED →
    kycStatus (Run.final (step cfg) w calls).store userId = some .APPROVED →
      Run.After (step cfg) (fun _ call => Files call userId .SUBMITTED)
        (Run.Sometime (step cfg) fun w call => Reviews cfg w call userId .APPROVED)
        (Run.final (step cfg) w before) after

/-- A filing leaves alone what is decided; uploads wait for the review of what is submitted, and
a submission for something to submit. -/
def Fileable (status target : KYCStatus) : Prop :=
  status ≠ .APPROVED ∧
    if target = .SUBMITTED then status ≠ .NOT_STARTED else status ≠ .SUBMITTED

/-- The request finds the profile in a status that it may leave. -/
def InOrder : Prop :=
  let profile := w.store.kycProfiles.findUnique
  match call.request with
  | .manualKyc request => request.Complete →
      ∀ target ∈ request.target, ∀ p ∈ profile request.userId, Fileable p.status target
  | .manualSignup dto onboardingToken =>
      ∀ user ∈ signupAccount cfg call.io w.store dto onboardingToken,
        ∀ p ∈ profile user.id, Fileable p.status .IN_PROGRESS
  | .user bearer .submitKyc =>
      ∀ user ∈ bearerAccount cfg w call.io bearer, QuestionnaireComplete w.store user.id →
        Eligibility.MIN_ENGAGEMENT_DAYS_STANDARD ≤
          Eligibility.resolveEngagementDaysSince user.createdAt call.io.now →
        ∀ p ∈ profile user.id, p.status = .APPROVED ∨ p.status = .SUBMITTED ∧ p.reviewedAt = none
  | .admin bearer (.reviewSubmission userId status _) =>
      ∀ admin ∈ bearerAccount cfg w call.io bearer, admin.role = .ADMIN →
        status = .APPROVED ∨ status = .REJECTED →
        ∀ p ∈ profile userId, p.status = .SUBMITTED ∨ p.status = status
  | .auth (.verifyManualOtp phone otp) =>
      ∀ user ∈ w.store.users.findUnique (.phone (digits phone)),
        AcceptsOtp cfg.toAuth call.io.now user otp →
        ∀ p ∈ profile user.id, p.status = .APPROVED → p.submittedAt ≠ none
  | _ => True

instance (store : Store) (userId : String) : Decidable (QuestionnaireComplete store userId) :=
  inferInstanceAs (Decidable (_ ∧ _))

instance (status target : KYCStatus) : Decidable (Fileable status target) :=
  inferInstanceAs (Decidable (_ ∧ _))

instance : Decidable (InOrder cfg w call) := by
  obtain ⟨request, -, io⟩ := call
  casesm* Request, AuthService.AuthRequest, UserRequest, AdminRequest <;> dsimp only [InOrder] <;>
    infer_instance

end Law

/-! ## One request -/

section Step

variable {cfg : Config} {w : World} {call : Call} {userId : String} {p p' : KYCProfile}

theorem Fileable.arrow {status target : KYCStatus} (h : Fileable status target)
    (htarget : target = .IN_PROGRESS ∨ target = .SUBMITTED) : Arrow status target := by
  obtain ⟨happroved, hother⟩ := h
  rcases htarget with rfl | rfl
  · cases status with
    | NOT_STARTED => exact .started
    | IN_PROGRESS => exact .same _
    | SUBMITTED => exact absurd rfl hother
    | APPROVED => exact absurd rfl happroved
    | REJECTED => exact .reopened
  · cases status with
    | NOT_STARTED => exact absurd rfl hother
    | IN_PROGRESS => exact .submitted
    | SUBMITTED => exact .same _
    | APPROVED => exact absurd rfl happroved
    | REJECTED => exact .resubmitted

theorem InOrder.files (h : InOrder cfg w call) {status : KYCStatus}
    (hfiles : Files call userId status)
    (hp : w.store.kycProfiles.findUnique userId = some p) : Fileable p.status status := by
  obtain ⟨request, hrequest, hcomplete, rfl, htarget⟩ := hfiles
  simp only [InOrder, hrequest] at h
  exact h hcomplete status htarget p hp

theorem InOrder.signsUp (h : InOrder cfg w call) {platform : Option String}
    (hsigns : SignsUp cfg w call userId platform)
    (hp : w.store.kycProfiles.findUnique userId = some p) : Fileable p.status .IN_PROGRESS := by
  obtain ⟨dto, token, user, hrequest, huser, rfl, -⟩ := hsigns
  simp only [InOrder, hrequest] at h
  exact h user huser p hp

theorem InOrder.submits (h : InOrder cfg w call) (hsubmits : Submits cfg w call userId)
    (hp : w.store.kycProfiles.findUnique userId = some p) :
    p.status = .APPROVED ∨ p.status = .SUBMITTED ∧ p.reviewedAt = none := by
  obtain ⟨bearer, user, hrequest, huser, rfl, hcomplete, htenure⟩ := hsubmits
  simp only [InOrder, hrequest] at h
  exact h user huser hcomplete htenure p hp

theorem InOrder.reviews (h : InOrder cfg w call) {status : KYCStatus}
    (hreviews : Reviews cfg w call userId status)
    (hp : w.store.kycProfiles.findUnique userId = some p) :
    p.status = .SUBMITTED ∨ p.status = status := by
  obtain ⟨bearer, admin, note, hrequest, hadmin, hrole, hstatus⟩ := hreviews
  simp only [InOrder, hrequest] at h
  exact h admin hadmin hrole hstatus p hp

theorem InOrder.provesNumber (h : InOrder cfg w call) (hproves : ProvesNumber cfg w call userId)
    (hp : w.store.kycProfiles.findUnique userId = some p) (hstatus : p.status = .APPROVED) :
    p.submittedAt ≠ none := by
  obtain ⟨phone, otp, user, hrequest, huser, rfl, hotp⟩ := hproves
  simp only [InOrder, hrequest] at h
  exact h user huser hotp p hp hstatus

theorem Change.arrow (hchange : Change cfg w call userId p p') (h : InOrder cfg w call)
    (hp : w.store.kycProfiles.findUnique userId = some p) :
    Arrow p.status p'.status ∧
      (p.status = .REJECTED → p'.status ≠ .REJECTED → Resubmits cfg w call userId) := by
  cases hchange with
  | kept hkept =>
      rw [hkept]
      exact ⟨.same _, fun h hne => absurd h hne⟩
  | started hstatus hp' =>
      rw [hstatus, hp']
      exact ⟨.started, by simp⟩
  | filed hfiles =>
      exact ⟨(h.files hfiles hp).arrow (status_of_files hfiles), fun _ _ => .inl ⟨_, hfiles⟩⟩
  | signedUp hsigns hp' =>
      rw [hp']
      exact ⟨(h.signsUp hsigns hp).arrow (.inl rfl), fun _ _ => .inr ⟨_, hsigns⟩⟩
  | submitted hsubmits hp' =>
      rw [hp']
      rcases h.submits hsubmits hp with hstatus | ⟨hstatus, -⟩
      · rw [hstatus]
        exact ⟨.same _, by simp⟩
      · rw [hstatus]
        exact ⟨.approved, by simp⟩
  | reviewed hreviews _ =>
      obtain ⟨bearer, admin, note, -, -, -, hverdict⟩ := id hreviews
      rcases h.reviews hreviews hp with hstatus | hstatus
      · rw [hstatus]
        rcases hverdict with hp' | hp'
        · rw [hp']
          exact ⟨.approved, by simp⟩
        · rw [hp']
          exact ⟨.rejected, by simp⟩
      · rw [hstatus]
        exact ⟨.same _, fun h hne => absurd h hne⟩
  | withdrawn hproves hstatus hnone _ => exact absurd hnone (h.provesNumber hproves hp hstatus)

/-- Whoever was rejected has been reviewed. -/
def RejectedByReview (store : Store) : Prop :=
  ∀ userId p, store.kycProfiles.findUnique userId = some p → p.status = .REJECTED →
    p.reviewedAt ≠ none

/-- What a request makes of a profile that is there. -/
theorem change_of_step (hother : ¬call.request.Exchanges)
    (hp : w.store.kycProfiles.findUnique userId = some p) :
    ∃ p', (step cfg w call).store.kycProfiles.findUnique userId = some p' ∧
      Change cfg w call userId p p' ∧ Dated p p' :=
  change_of_path (hp ▸ (step_moves hother).profile userId)

theorem step_documented (hother : ¬call.request.Exchanges) (h : InOrder cfg w call) :
    Documented cfg w call := by
  intro userId status hstatus
  obtain ⟨p, hp, rfl⟩ := Option.map_eq_some_iff.mp hstatus
  obtain ⟨p', hp', hchange, -⟩ := change_of_step hother hp
  exact ⟨p'.status, by rw [kycStatus, hp', Option.map_some], hchange.arrow h hp⟩

theorem Change.rejected (hchange : Change cfg w call userId p p') (hp' : p'.status = .REJECTED) :
    p.status = .REJECTED ∨ p'.reviewedAt ≠ none := by
  cases hchange with
  | kept hkept => exact .inl (hkept.symm.trans hp')
  | filed hfiles =>
      rw [hp'] at hfiles
      rcases status_of_files hfiles with h | h <;> cases h
  | reviewed _ hdate => exact .inr hdate
  | started _ h | signedUp _ h | submitted _ h | withdrawn _ _ _ h =>
      rw [hp'] at h
      cases h

theorem step_rejectedByReview (hother : ¬call.request.Exchanges)
    (hreviewed : RejectedByReview w.store) : RejectedByReview (step cfg w call).store := by
  intro userId p' hp' hstatus
  have hmoves : Moves cfg w call (step cfg w call).store := step_moves hother
  have hpath := hmoves.profile userId
  cases hp : w.store.kycProfiles.findUnique userId with
  | none =>
      rw [hp, hp'] at hpath
      obtain ⟨p, -, hrejected, hchange⟩ := opened_of_path hpath
      exact (hchange.rejected hstatus).resolve_left hrejected
  | some p =>
      obtain ⟨q, hq, hchange, hdated⟩ := change_of_step hother hp
      obtain rfl := Option.some.inj (hp'.symm.trans hq)
      rcases hchange.rejected hstatus with hbefore | hdate
      · exact hdated.reviewedAt (hreviewed userId p hp hbefore)
      · exact hdate

/-- Of the ways to approve a profile that has been reviewed and is not approved, only another review
is left. -/
theorem Change.approved (hchange : Change cfg w call userId p p') (h : InOrder cfg w call)
    (hp : w.store.kycProfiles.findUnique userId = some p) (hreviewed : p.reviewedAt ≠ none)
    (happroved : p.status ≠ .APPROVED) (hp' : p'.status = .APPROVED) :
    Reviews cfg w call userId .APPROVED ∧ p.status = .SUBMITTED := by
  cases hchange with
  | kept hkept => exact absurd (hkept.symm.trans hp') happroved
  | filed hfiles =>
      rw [hp'] at hfiles
      rcases status_of_files hfiles with h | h <;> cases h
  | submitted hsubmits _ =>
      rcases h.submits hsubmits hp with hstatus | ⟨-, hnone⟩
      · exact absurd hstatus happroved
      · exact absurd hnone hreviewed
  | reviewed hreviews _ =>
      rw [hp'] at hreviews
      exact ⟨hreviews, (h.reviews hreviews hp).resolve_right happroved⟩
  | started _ h | signedUp _ h | withdrawn _ _ _ h =>
      rw [hp'] at h
      cases h

/-- Only a filing moves a profile to `SUBMITTED`. -/
theorem Change.filed_of_status (hchange : Change cfg w call userId p p')
    (hsubmitted : p.status ≠ .SUBMITTED) (hp' : p'.status = .SUBMITTED) :
    Files call userId .SUBMITTED := by
  cases hchange with
  | kept hkept => exact absurd (hkept.symm.trans hp') hsubmitted
  | filed hfiles => exact hp' ▸ hfiles
  | reviewed hreviews _ =>
      rw [hp'] at hreviews
      obtain ⟨bearer, admin, note, -, -, -, h | h⟩ := hreviews <;> cases h
  | started _ h | signedUp _ h | submitted _ h | withdrawn _ _ _ h =>
      rw [hp'] at h
      cases h

end Step

/-! ## Runs -/

section Runs

variable {cfg : Config} {userId : String}

/-- On the way of a reviewed profile to its approval lies a review, and before it a filing unless
the profile was filed already. -/
theorem review_of_approved {calls : List Call} {w : World} {p : KYCProfile}
    (hother : ∀ call ∈ calls, ¬call.request.Exchanges)
    (horder : Run.Along (step cfg) (InOrder cfg) w calls)
    (hp : w.store.kycProfiles.findUnique userId = some p) (hreviewed : p.reviewedAt ≠ none)
    (happroved : p.status ≠ .APPROVED)
    (hfinal : kycStatus (Run.final (step cfg) w calls).store userId = some .APPROVED) :
    Run.Sometime (step cfg) (fun w call => Reviews cfg w call userId .APPROVED) w calls ∧
      (p.status ≠ .SUBMITTED →
        Run.After (step cfg) (fun _ call => Files call userId .SUBMITTED)
          (Run.Sometime (step cfg) fun w call => Reviews cfg w call userId .APPROVED) w calls) := by
  induction calls generalizing w p with
  | nil =>
      rw [Run.final_nil, kycStatus, hp, Option.map_some, Option.some_inj] at hfinal
      exact absurd hfinal happroved
  | cons call calls ih =>
      obtain ⟨hcall, hrest⟩ := horder
      obtain ⟨p', hp', hchange, hdated⟩ := change_of_step (hother call (by simp)) hp
      by_cases hverdict : p'.status = .APPROVED
      · obtain ⟨hreviews, hsubmitted⟩ := hchange.approved hcall hp hreviewed happroved hverdict
        exact ⟨.inl ⟨hreviews, trivial⟩, fun hne => absurd hsubmitted hne⟩
      · obtain ⟨hreview, hfiling⟩ := ih (fun call hc => hother call (by simp [hc])) hrest hp'
          (hdated.reviewedAt hreviewed) hverdict hfinal
        refine ⟨.inr hreview, fun hne => ?_⟩
        by_cases hsubmitted : p'.status = .SUBMITTED
        · exact .inl ⟨hchange.filed_of_status hne hsubmitted, hreview⟩
        · exact .inr (hfiling hsubmitted)

end Runs

/-- In every run whose requests find the profiles in order, the statuses move along the documented
arrows, and a rejected profile is approved only by an administrator after a new submission. -/
theorem along_documented (cfg : Config) (w : World) (calls : List Call)
    (hother : ∀ call ∈ calls, ¬call.request.Exchanges) (hreviewed : RejectedByReview w.store)
    (horder : Run.Along (step cfg) (InOrder cfg) w calls) :
    Run.Along (step cfg) (Documented cfg) w calls ∧ ReviewedAnew cfg w calls := by
  constructor
  · have hboth := horder.and (Run.along_of_forall hother w)
    exact hboth.mono fun _ _ h => step_documented h.2 h.1
  · intro before after userId hcalls hbefore hafter
    subst hcalls
    rw [Run.final_append] at hafter
    have hkept : RejectedByReview (Run.final (step cfg) w before).store := by
      have hothers : ∀ call ∈ before, ¬call.request.Exchanges :=
        fun call hcall => hother call (List.mem_append_left _ hcall)
      have hstep : ∀ s call, RejectedByReview s.store → ¬call.request.Exchanges →
          RejectedByReview (step cfg s call).store :=
            fun _ _ h hother => step_rejectedByReview hother h
      exact (Run.always_of_step hstep hreviewed (Run.along_of_forall hothers w)).last
    obtain ⟨p, hp, hrejected⟩ := Option.map_eq_some_iff.mp hbefore
    have horder := (Run.along_append.mp horder).2
    have hreviews := review_of_approved
      (fun call hcall => hother call (List.mem_append_right _ hcall)) horder hp
      (hkept userId p hp hrejected) (by simp [hrejected]) hafter
    exact hreviews.2 (by simp [hrejected])

namespace Onboarding

/-- Two bearer tokens are good: the rider's and the administrator's. -/
def cfg : Config where
  toAuth :=
    { AuthService.Stranger.cfg with
      verifyAsync := fun secret token _ =>
        if token = secret ++ ".ravi.1000" then some (.session "ravi" "ravi@zepto.in" .DRIVER)
        else if token = secret ++ ".admin.1000" then some (.session "admin" "admin@aegis.in" .ADMIN)
        else none }
  patchMeta _ _ := "{}"

/-- Ninety days after the epoch. -/
def io : Io := { AuthService.Stranger.ioAt 7776000000 with fraudAnalysisId := "fraud" }

def send (request : Request) : Call := ⟨request, none, io⟩

def review (userId : String) (status : KYCStatus) : Call :=
  send (.admin (some "s3cret.admin.1000") (.reviewSubmission userId status none))

def submission (userId : String) : List Call :=
  [send (.manualKyc (.uploadPan userId "https://files/pan")),
    send (.manualKyc (.submit userId (some "BK-1")))]

/-- The rider's questionnaire, but for the payout setup. -/
def questionnaire : List Call :=
  [send (.user (some "s3cret.ravi.1000") (.saveBasicIdentity ⟨"Ravi", "1990-01-01", "MALE"⟩)),
    send (.user (some "s3cret.ravi.1000")
      (.savePersonalDetails ⟨"1 MG Road", "Bengaluru", "Karnataka", "560001"⟩)),
    send (.user (some "s3cret.ravi.1000")
      (.saveIdentityVerification { aadhaarNumber := "123412341234", panNumber := "ABCDE1234F" }))]

def submitQuestionnaire : Call := send (.user (some "s3cret.ravi.1000") .submitKyc)

end Onboarding

open Onboarding in
/-- A number is verified, its papers are filed and rejected, and filed again and approved. -/
theorem along_documented_resubmission :
    Run.Along (step cfg) (Documented cfg) AuthService.Stranger.world
        ([send (.auth (.sendManualOtp "9876543210")),
          send (.auth (.verifyManualOtp "9876543210" "123456"))] ++ submission "driver" ++
          [review "driver" .REJECTED] ++ submission "driver" ++ [review "driver" .APPROVED]) ∧
      ReviewedAnew cfg AuthService.Stranger.world
        ([send (.auth (.sendManualOtp "9876543210")),
          send (.auth (.verifyManualOtp "9876543210" "123456"))] ++ submission "driver" ++
          [review "driver" .REJECTED] ++ submission "driver" ++ [review "driver" .APPROVED]) := by
  refine along_documented cfg _ _ (by decide) ?_ (by decide)
  intro userId p hp
  cases hp

open Onboarding in
/-- A questionnaire is approved without a review, and an upload takes an approval back. -/
theorem not_along_documented :
    ¬Run.Along (step cfg) (Documented cfg) Rider.world (questionnaire ++ [submitQuestionnaire]) ∧
      ¬Documented cfg (Run.final (step cfg) Rider.world (questionnaire ++ [submitQuestionnaire]))
        (send (.manualKyc (.uploadDl "ravi" "https://files/dl"))) := by
  constructor
  · intro h
    have hlast := (Run.along_append.mp h).2.1
    obtain ⟨status, hstatus, harrow, -⟩ := hlast "ravi" .IN_PROGRESS (by decide)
    have happroved : status = .APPROVED := by
      refine Option.some.inj (hstatus.symm.trans ?_)
      decide
    rw [happroved] at harrow
    cases harrow
  · intro h
    obtain ⟨status, hstatus, harrow, -⟩ := h "ravi" .APPROVED (by decide)
    have hreopened : status = .IN_PROGRESS := by
      refine Option.some.inj (hstatus.symm.trans ?_)
      decide
    rw [hreopened] at harrow
    cases harrow

end Aegis.Identity
