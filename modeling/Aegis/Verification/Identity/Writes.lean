import Mathlib.Logic.Relation
import Aegis.Verification.Identity.OwnerOnly

/-! # Every write of a request

Each handler is analysed once. Its writes are of a few kinds, each with what the request has
shown before, and what holds of a store that they leave behind follows write by write. -/

namespace Aegis.ManualKyc

/-- The status that a request writes. -/
def Request.target : Request → Option KYCStatus
  | uploadPan .. | uploadAadhaar .. | uploadDl .. => some .IN_PROGRESS
  | uploadBank _ bankDetails => bankDetails.map fun _ => .IN_PROGRESS
  | submit .. => some .SUBMITTED
  | getStatus _ => none

end Aegis.ManualKyc

namespace Aegis.Identity

open Relation Aegis.Action JsString DynamicQCommerce AuthService KycService

/-! ## What a request has shown -/

/-- The exchange of a provider's code for a session. -/
def Request.Exchanges : Request → Prop
  | .auth (.exchangeOAuth ..) => True
  | _ => False

instance (request : Request) : Decidable request.Exchanges := by
  unfold Request.Exchanges
  split <;> infer_instance

/-- The exchange names the provider and the login session. -/
def Request.Redeems (request : Request) (provider : QCommerceProvider) (sessionId : String) :
    Prop :=
  ∃ name dto, request = .auth (.exchangeOAuth name dto) ∧
    QCommerceProvider.ofValue? (JsString.toLowerCase name) = some provider ∧
    dto.sessionId = sessionId

theorem Request.Redeems.exchanges {request : Request} {provider : QCommerceProvider}
    {sessionId : String} (h : request.Redeems provider sessionId) : request.Exchanges := by
  obtain ⟨name, dto, rfl, -⟩ := h
  trivial

/-- The address that a flow made up for a number. -/
def manualAddress (phone : String) : String := "manual_" ++ phone ++ "@aegis.local"

section Shown

variable (cfg : Config) (w : World) (call : Call) (userId : String)

/-- The account that a manual signup fills in. -/
def signupAccount (io : Io) (store : Store) (dto : ManualSignupDto)
    (onboardingToken : Option String) : Option User :=
  (signupPhone dto).toOption.bind fun normalizedPhone =>
    (signupIndex cfg io dto normalizedPhone onboardingToken).bind store.users.findUnique

/-- A complete request of the manual onboarding for the account. -/
def Files (status : KYCStatus) : Prop :=
  ∃ request, call.request = .manualKyc request ∧ request.Complete ∧ request.userId = userId ∧
    request.target = some status

/-- A manual signup that finds the account. -/
def SignsUp (platform : Option String) : Prop :=
  ∃ dto onboardingToken user, call.request = .manualSignup dto onboardingToken ∧
    signupAccount cfg call.io w.store dto onboardingToken = some user ∧ user.id = userId ∧
    platform = given (dto.platformId.map trim)

def QuestionnaireComplete (store : Store) (userId : String) : Prop :=
  store.kycBasicIdentities.findUnique userId ≠ none ∧
    store.kycPersonalDetails.findUnique userId ≠ none ∧
    store.kycIdentityVerifications.findUnique userId ≠ none ∧
    store.kycPayoutSetups.findUnique userId ≠ none

/-- The account's own submission of a complete questionnaire after the tenure it needs. -/
def Submits : Prop :=
  ∃ bearer user, call.request = .user bearer .submitKyc ∧
    bearerAccount cfg w call.io bearer = some user ∧ user.id = userId ∧
    QuestionnaireComplete w.store userId ∧
    Eligibility.MIN_ENGAGEMENT_DAYS_STANDARD ≤
      Eligibility.resolveEngagementDaysSince user.createdAt call.io.now

/-- An administrator's verdict. -/
def Reviews (status : KYCStatus) : Prop :=
  ∃ bearer admin reviewNote,
    call.request = .admin bearer (.reviewSubmission userId status reviewNote) ∧
    bearerAccount cfg w call.io bearer = some admin ∧ admin.role = .ADMIN ∧
    (status = .APPROVED ∨ status = .REJECTED)

/-- A sign-in with the number and the code that it was sent. -/
def ProvesNumber : Prop :=
  ∃ phone otp user, call.request = .auth (.verifyManualOtp phone otp) ∧
    w.store.users.findUnique (.phone (digits phone)) = some user ∧ user.id = userId ∧
    AcceptsOtp cfg.toAuth call.io.now user otp

/-- The account's own payout setup, with the consent to it. -/
def Consents : Prop :=
  ∃ bearer user dto, call.request = .user bearer (.savePayoutSetup dto) ∧
    bearerAccount cfg w call.io bearer = some user ∧ user.id = userId ∧
    dto.financialDataConsent = true

/-- An upload of bank details for an account that has no payout setup. -/
def OpensSetup : Prop :=
  ∃ bankDetails, call.request = .manualKyc (.uploadBank userId (some bankDetails)) ∧
    userId ≠ "" ∧ w.store.users.findUnique (.id userId) ≠ none ∧
    w.store.kycPayoutSetups.findUnique userId = none

/-- The account that a request sends a code to; it may be a new one. -/
def addressee : Option String :=
  match call.request with
  | .auth (.register _ _) => some call.io.userId
  | .auth (.sendManualOtp phone) =>
      some (((w.store.users.findUnique (.phone (digits phone))).map User.id).getD call.io.userId)
  | .auth (.sendDriverOtp email) =>
      some (((userByEmailCI cfg.toAuth w.store
        (some (normalizeEmail cfg.toAuth email))).map User.id).getD call.io.userId)
  | .auth (.forgotPassword email) => (w.store.users.findUnique (.email email)).map User.id
  | _ => none

/-- The code that a request presents. -/
def presentedCode : Request → Option String
  | .auth (.verifyOtp _ otp) | .auth (.verifyManualOtp _ otp) | .auth (.verifyDriverOtp _ otp)
  | .auth (.resetPassword _ otp _) | .auth (.adminVerifyOtp _ otp) => some otp
  | _ => none

/-- The account that a request presents a code for. -/
def presenter : Option User :=
  match call.request with
  | .auth request => request.account cfg.toAuth call.io.toAuth w.store
  | _ => none

/-- The request carries the code that the account was sent last, in time. -/
def PresentsCode : Prop :=
  ∃ otp ∈ presentedCode call.request, ∃ user ∈ presenter cfg w call, user.id = userId ∧
    AcceptsOtp cfg.toAuth call.io.now user otp

end Shown

/-- A code that passes the check belongs to the account, which is found under its id. -/
theorem presentsCode (cfg : Config) (w : World) (call : Call) {missing otp : String} {user : User}
    {u : Unit} (hcode : presentedCode call.request = some otp)
    (huser : presenter cfg w call = some user)
    (hotp : checkOtp cfg.toAuth call.io.toAuth missing user otp = .ok u) :
    PresentsCode cfg w call user.id :=
  ⟨otp, hcode, user, huser, rfl, checkOtp_accepts hotp⟩

theorem mem_id_keys_iff {userId : String} {user : User} : UserIndex.id userId ∈ user.keys ↔
    user.id = userId := by
  simp [User.keys, eq_comm]

/-! ## Kinds of writes -/

section Kinds

variable (cfg : Config) (w : World) (call : Call)

/-- A new account, which the request has looked for in vain. -/
inductive Opens : User → Prop
  | registered {email password} : call.request = .auth (.register email password) →
      w.store.users.findUnique (.email email) = none →
      Opens { newUser call.io.toAuth email (cfg.bcryptHash call.io.salt password) with
        otpCode := some (cfg.hashOTP (generateOTP call.io.toAuth))
        otpExpiresAt := some (otpExpiresAt call.io.toAuth) }
  | ofNumber {phone} : call.request = .auth (.sendManualOtp phone) →
      w.store.users.findUnique (.phone (digits phone)) = none →
      Opens { newUser call.io.toAuth (manualAddress (digits phone))
          (bootstrapPasswordHash cfg.toAuth call.io.toAuth) with phone := some (digits phone) }
  | ofDriver {email} : call.request = .auth (.sendDriverOtp email) →
      userByEmailCI cfg.toAuth w.store (some (normalizeEmail cfg.toAuth email)) = none →
      Opens (newUser call.io.toAuth (normalizeEmail cfg.toAuth email)
        (bootstrapPasswordHash cfg.toAuth call.io.toAuth))
  | ofAdmin {email password} :
      (∃ email password, call.request = .auth (.adminLogin email password)) ∨
        (∃ bearer, call.request = .admin bearer .seedAdmin) →
      w.store.users.findUnique (.email email) = none →
      Opens { newUser call.io.toAuth email (cfg.bcryptHash call.io.salt password) with
        phone := some "+1-admin", role := .ADMIN, isVerified := true }
  | ofProvider {provider sessionId session fullName} : call.request.Redeems provider sessionId →
      w.registry.sessionOf provider sessionId = some session →
      userByEmailCI cfg.toAuth w.store (some (normalizeEmail cfg.toAuth
        (some (sessionEmail cfg.toAuth w.registry session)))) = none →
      Opens { newUser call.io.toAuth (normalizeEmail cfg.toAuth
          (some (sessionEmail cfg.toAuth w.registry session)))
          (bootstrapPasswordHash cfg.toAuth call.io.toAuth) with
        isVerified := true, driverName := some fullName, platform := some provider.value }

/-- An update of an account that leaves its unique columns alone. The token is written only where
the request opens a session or ends one. -/
inductive UserWrite (isSession : Prop) : String → RowUpdate User.keys → Prop
  | sent {userId} : addressee cfg w call = some userId →
      UserWrite isSession userId (setOtp (cfg.hashOTP (generateOTP call.io.toAuth))
        (otpExpiresAt call.io.toAuth))
  | confirmed {userId} : PresentsCode cfg w call userId → UserWrite isSession userId confirmOtp
  | cleared {userId} : PresentsCode cfg w call userId → UserWrite isSession userId clearOtp
  | reset {userId passwordHash} : PresentsCode cfg w call userId →
      UserWrite isSession userId (resetPasswordHash passwordHash)
  | provisioned {userId password} :
      UserWrite isSession userId (provisionAdminUpdate cfg.toAuth call.io.toAuth password)
  | verified {userId platform} : call.request.Exchanges →
      UserWrite isSession userId (verifyOnPlatform platform)
  | linked {userId platform} : call.request.Exchanges →
      UserWrite isSession userId (setPlatform platform)
  | named {userId driverName} : UserWrite isSession userId (setDriverName driverName)
  | signedIn {user : User} : isSession → UserWrite isSession user.id (setRefreshToken (some
      (cfg.hashOTP (generateTokens cfg.toAuth call.io.toAuth user).refreshToken.text)))
  | loggedOut {userId} : isSession → UserWrite isSession userId (setRefreshToken none)

/-- One write of the profile of an account. -/
inductive ProfileWrite (userId : String) : Option KYCProfile → Option KYCProfile → Prop
  | opened {p} : p.status ≠ .APPROVED → p.status ≠ .REJECTED → ProfileWrite userId none (some p)
  | started {p} : p.status = .NOT_STARTED →
      ProfileWrite userId (some p) (some { p with status := .IN_PROGRESS })
  | filed {p status reviewNote} : Files call userId status →
      ProfileWrite userId (some p) (some { p with status, reviewNote })
  | dated {p submittedAt} : Files call userId .SUBMITTED →
      ProfileWrite userId (some p) (some { p with submittedAt := some submittedAt })
  | signedUp {p platform} : SignsUp cfg w call userId platform →
      ProfileWrite userId (some p) (some { p with status := .IN_PROGRESS })
  | submitted {p} : Submits cfg w call userId →
      ProfileWrite userId (some p) (some ((approve call.io.now).apply p))
  | reviewed {p status reviewNote} : Reviews cfg w call userId status →
      ProfileWrite userId (some p)
        (some { p with status, reviewedAt := some call.io.now, reviewNote })
  | withdrawn {p} : ProvesNumber cfg w call userId → p.status = .APPROVED → p.submittedAt = none →
      ProfileWrite userId (some p) (some { p with status := .IN_PROGRESS })

/-- One write of a request. An account is opened, or filled in by a signup, before anything else
is written. -/
inductive Write (isSession : Prop) : Store → Store → Prop
  | createUser {user store'} : Opens cfg w call user → w.store.createUser user = .ok store' →
      Write isSession w.store store'
  | updateUser {store store' userId f} : UserWrite cfg w call isSession userId f →
      store.updateUser userId f = .ok store' → Write isSession store store'
  | signUp {dto onboardingToken normalizedPhone user store'} :
      call.request = .manualSignup dto onboardingToken →
      signupAccount cfg call.io w.store dto onboardingToken = some user →
      (∀ other ∈ w.store.users.rows, given (dto.email.map trim) = some other.email →
        other.id = user.id) →
      w.store.modifyUser user.id (signupUpdate cfg dto normalizedPhone) = .ok store' →
      Write isSession w.store store'
  | nameAdmin {bearer dto userId store store'} :
      call.request = .admin bearer (.updateAdminProfile dto) →
      store.modifyUser userId (fun u => { u with
        driverName := keepUnless dto.displayName u.driverName
        phone := keepUnless dto.phone u.phone }) = .ok store' → Write isSession store store'
  | createProfile {profile store store'} :
      call.request.Exchanges ∨ profile.status ≠ .APPROVED ∧ profile.status ≠ .REJECTED →
      store.createProfile profile = .ok store' → Write isSession store store'
  | updateProfile {userId f store store'} :
      (∀ p, store.kycProfiles.findUnique userId = some p → call.request.Exchanges ∨
        ReflTransGen (ProfileWrite cfg w call userId) (some p) (some (f.apply p))) →
      store.updateProfile userId f = .ok store' → Write isSession store store'
  | upsertPayoutSetup {row f store store'} :
      (store.kycPayoutSetups.findUnique row.userId = none →
        Consents cfg w call row.userId ∨ OpensSetup w call row.userId) →
      (Consents cfg w call row.userId ∨
        ∀ setup, (f.apply setup).financialDataConsent = setup.financialDataConsent) →
      upsertPayoutSetup store row f = .ok store' → Write isSession store store'
  | elsewhere {store store'} : store'.users = store.users →
      store'.kycProfiles = store.kycProfiles → store'.kycPayoutSetups = store.kycPayoutSetups →
      Write isSession store store'

/-- The stores that a request may leave behind. -/
def Writes (isSession : Prop) : Store → Prop := ReflTransGen (Write cfg w call isSession) w.store

end Kinds

section Chains

variable {cfg : Config} {w : World} {call : Call} {isSession isSession' : Prop} {store : Store}

theorem Writes.refl : Writes cfg w call isSession w.store := ReflTransGen.refl

theorem UserWrite.mono (hsession : isSession → isSession') {userId : String}
    {f : RowUpdate User.keys} (h : UserWrite cfg w call isSession userId f) :
    UserWrite cfg w call isSession' userId f := by
  cases h with
  | sent haddressee => exact .sent haddressee
  | confirmed hpresents => exact .confirmed hpresents
  | cleared hpresents => exact .cleared hpresents
  | reset hpresents => exact .reset hpresents
  | provisioned => exact .provisioned
  | verified hexchanges => exact .verified hexchanges
  | linked hexchanges => exact .linked hexchanges
  | named => exact .named
  | signedIn h => exact .signedIn (hsession h)
  | loggedOut h => exact .loggedOut (hsession h)

theorem Write.mono (hsession : isSession → isSession') {store' : Store}
    (h : Write cfg w call isSession store store') : Write cfg w call isSession' store store' := by
  cases h with
  | createUser hopens hwrite => exact .createUser hopens hwrite
  | updateUser hupdate hwrite => exact .updateUser (hupdate.mono hsession) hwrite
  | signUp hrequest haccount hfree hwrite => exact .signUp hrequest haccount hfree hwrite
  | nameAdmin hrequest hwrite => exact .nameAdmin hrequest hwrite
  | createProfile hstatus hwrite => exact .createProfile hstatus hwrite
  | updateProfile hf hwrite => exact .updateProfile hf hwrite
  | upsertPayoutSetup hopens hf hwrite => exact .upsertPayoutSetup hopens hf hwrite
  | elsewhere husers hprofiles hsetups => exact .elsewhere husers hprofiles hsetups

/-- What every write of a request preserves holds of the store that the request leaves behind. -/
theorem Writes.keeps {I : Store → Prop} (h : Writes cfg w call isSession store) (hstart : I w.store)
    (hstep : ∀ store store', I store → Write cfg w call isSession store store' → I store') :
    I store := by
  unfold Writes at h
  induction h with
  | refl => exact hstart
  | tail _ hwrite ih => exact hstep _ _ ih hwrite

theorem Writes.mono (hsession : isSession → isSession') (h : Writes cfg w call isSession store) :
    Writes cfg w call isSession' store :=
  h.keeps .refl fun _ _ hpath hwrite => hpath.tail (hwrite.mono hsession)

end Chains

/-! ## Single calls -/

/-- A handler that makes no other writes. -/
def WritesOnly (cfg : Config) (w : World) (call : Call) (isSession : Prop) (P : World → Prop)
    {α : Type} (m : Handler α) : Prop :=
  Triple P m (fun _ => OnStore (Writes cfg w call isSession))
    (OnStore (Writes cfg w call isSession))

section Calls

variable {cfg : Config} {w : World} {call : Call} {isSession : Prop} {α : Type}

theorem start_writes :
    ∀ w', OnStore (· = w.store) w' → OnStore (Writes cfg w call isSession) w' :=
  onStore_of_eq .refl

theorem WritesOnly.started {m : Handler α}
    (h : Keeps (OnStore (Writes cfg w call isSession)) m) :
    WritesOnly cfg w call isSession (OnStore (· = w.store)) m := Triple.pre h start_writes

theorem WritesOnly.mono {isSession' : Prop} {P : World → Prop} {m : Handler α}
    (hsession : isSession → isSession') (h : WritesOnly cfg w call isSession P m) :
    WritesOnly cfg w call isSession' P m :=
  h.conseq (fun _ hw => hw) (fun _ _ hw => Writes.mono hsession hw) fun _ hw =>
    Writes.mono hsession hw

/-- What holds from every store that may be there. -/
theorem triple_of_store {m : Handler α} {I : Store → Prop} {Q : α → World → Prop}
    {E : World → Prop} (h : ∀ store, I store → Triple (OnStore (· = store)) m Q E) :
    Triple (OnStore I) m Q E :=
  ⟨fun hw hm => (h _ hw).ok rfl hm, fun hw hm => (h _ hw).error rfl hm⟩

theorem query_writes {f : Store → α} : Keeps (OnStore (Writes cfg w call isSession)) (query f) :=
  query_triple.post fun _ _ hw => hw.1

theorem registry_writes {m : Service α} :
    Keeps (OnStore (Writes cfg w call isSession)) (onRegistry m) := onRegistry_keeps

theorem createUser_writes {user : User} (hopens : Opens cfg w call user) :
    WritesOnly cfg w call isSession (OnStore (· = w.store)) (createUser user) := by
  have hcreate : Triple (OnStore (· = w.store)) (createUser user)
      (fun _ => OnStore (Writes cfg w call isSession)) (OnStore (· = w.store)) := by
    refine write_triple fun store store' hstore hwrite => ?_
    subst hstore
    exact Writes.refl.tail (.createUser hopens hwrite)
  exact hcreate.conseq (fun _ hw => hw) (fun _ _ hw => hw) start_writes

theorem updateUser_writes {userId : String} {f : RowUpdate User.keys}
    (hupdate : UserWrite cfg w call isSession userId f) :
    Keeps (OnStore (Writes cfg w call isSession)) (updateUser userId f) :=
  write_triple fun _ _ h hwrite => h.tail (.updateUser hupdate hwrite)

theorem createProfile_writes {profile : KYCProfile}
    (hstatus : call.request.Exchanges ∨ profile.status ≠ .APPROVED ∧ profile.status ≠ .REJECTED) :
    Keeps (OnStore (Writes cfg w call isSession)) (createProfile profile) :=
  write_triple fun _ _ h hwrite => h.tail (.createProfile hstatus hwrite)

theorem updateProfile_writes {userId : String} {f : RowUpdate KYCProfile.keys}
    (hf : ∀ p, ProfileWrite cfg w call userId (some p) (some (f.apply p))) :
    Keeps (OnStore (Writes cfg w call isSession)) (updateProfile userId f) :=
  write_triple fun _ _ h hwrite => h.tail (.updateProfile (fun p _ => .inr (.single (hf p))) hwrite)

/-- A write that depends on the profile that is there. -/
theorem updateProfile_writes_of_store {userId : String} {f : RowUpdate KYCProfile.keys}
    {store : Store} (hstore : Writes cfg w call isSession store)
    (hf : ∀ p, store.kycProfiles.findUnique userId = some p →
      ProfileWrite cfg w call userId (some p) (some (f.apply p))) :
    WritesOnly cfg w call isSession (OnStore (· = store)) (updateProfile userId f) := by
  have hupdate : Triple (OnStore (· = store)) (updateProfile userId f)
      (fun _ => OnStore (Writes cfg w call isSession)) (OnStore (· = store)) := by
    refine write_triple fun before after hbefore hwrite => ?_
    subst hbefore
    exact hstore.tail (.updateProfile (fun p hp => .inr (.single (hf p hp))) hwrite)
  exact hupdate.conseq (fun _ hw => hw) (fun _ _ hw => hw) (onStore_of_eq hstore)

/-- An upsert creates the profile or updates it. -/
theorem upsertProfile_writes {profile : KYCProfile} {f : RowUpdate KYCProfile.keys}
    (hstatus : call.request.Exchanges ∨ profile.status ≠ .APPROVED ∧ profile.status ≠ .REJECTED)
    (hf : ∀ p, call.request.Exchanges ∨
      ReflTransGen (ProfileWrite cfg w call profile.userId) (some p) (some (f.apply p))) :
    Keeps (OnStore (Writes cfg w call isSession)) (upsertProfile profile f) := by
  refine write_triple fun store store' h hwrite => ?_
  unfold Store.upsertProfile at hwrite
  split at hwrite
  · exact h.tail (.createProfile hstatus hwrite)
  · exact h.tail (.updateProfile (fun p _ => hf p) hwrite)

/-- A write of the other tables of the questionnaire. -/
theorem row_writes {ρ : Type} {keys : ρ → List String} {x : Store → Except Exn (Table keys)}
    {put : Store → Table keys → Store}
    (hput : ∀ store table, (put store table).users = store.users ∧
      (put store table).kycProfiles = store.kycProfiles ∧
      (put store table).kycPayoutSetups = store.kycPayoutSetups) :
    Keeps (OnStore (Writes cfg w call isSession))
      (write fun store => do let table ← x store; pure (put store table)) := by
  refine write_triple fun store store' h hwrite => ?_
  obtain ⟨table, -, hstore⟩ := Outcome.bind_eq_ok.mp hwrite
  cases hstore
  exact h.tail (.elsewhere (hput store table).1 (hput store table).2.1 (hput store table).2.2)

theorem startSession_writes {user : User} (hsession : isSession) :
    Keeps (OnStore (Writes cfg w call isSession)) (startSession cfg.toAuth call.io.toAuth user) :=
  Keeps.bind (updateUser_writes (.signedIn hsession)) fun _ => Keeps.pure

end Calls

/-! ## Sign-ins -/

/-- The account that a reply signs in, and its refresh token. -/
def session : AuthService.Reply → Option (String × Jwt)
  | .mobileVerified _ _ userId tokens _ _ _ _ | .signedIn _ tokens _ userId _
  | .oauthSignedIn _ tokens _ userId _ _ _ => some (userId, tokens.refreshToken)
  | .refreshed tokens => some (tokens.refreshToken.payload.sub, tokens.refreshToken)
  | .message _ | .otpSent .. | .authorized .. | .providerTokens .. => none

/-- The reply hands out a session right after its token is stored, or no session. -/
def Ends (cfg : Config) (w : World) (call : Call) (reply : AuthService.Reply) (store : Store) :
    Prop :=
  match session reply with
  | none => Writes cfg w call False store
  | some (userId, token) => ∃ before user, Writes cfg w call False before ∧ userId = user.id ∧
      token = (generateTokens cfg.toAuth call.io.toAuth user).refreshToken ∧
      before.updateUser userId (setRefreshToken (some (cfg.hashOTP token.text))) = .ok store

/-- A sign-in that stores a token stores it last, and fails before it does. -/
def Concludes (cfg : Config) (w : World) (call : Call) (P : World → Prop)
    (m : Handler AuthService.Reply) : Prop :=
  Triple P m (fun reply => OnStore (Ends cfg w call reply)) (OnStore (Writes cfg w call False))

section SignIns

variable {cfg : Config} {w : World} {call : Call}

theorem Ends.writes {reply : AuthService.Reply} {store : Store} (h : Ends cfg w call reply store) :
    Writes cfg w call True store := by
  unfold Ends at h
  split at h
  · exact h.mono False.elim
  · obtain ⟨before, user, hbefore, rfl, rfl, hwrite⟩ := h
    exact (hbefore.mono False.elim).tail (.updateUser (.signedIn trivial) hwrite)

theorem Concludes.writes {P : World → Prop} {m : Handler AuthService.Reply}
    (h : Concludes cfg w call P m) : WritesOnly cfg w call True P m :=
  h.conseq (fun _ hw => hw) (fun _ _ hw => Ends.writes hw) fun _ hw => Writes.mono False.elim hw

theorem Concludes.started {m : Handler AuthService.Reply}
    (h : Concludes cfg w call (OnStore (Writes cfg w call False)) m) :
    Concludes cfg w call (OnStore (· = w.store)) m := Triple.pre h start_writes

/-- The last thing that a sign-in does. -/
theorem startSession_concludes {user : User} {reply : Tokens → AuthService.Reply}
    (hreply : session (reply (generateTokens cfg.toAuth call.io.toAuth user)) =
      some (user.id, (generateTokens cfg.toAuth call.io.toAuth user).refreshToken)) :
    Concludes cfg w call (OnStore (Writes cfg w call False))
      (startSession cfg.toAuth call.io.toAuth user >>= fun tokens => pure (reply tokens)) := by
  set tokens := generateTokens cfg.toAuth call.io.toAuth user with htokens
  have hwrite : Triple (OnStore (Writes cfg w call False))
      (startSession cfg.toAuth call.io.toAuth user)
      (fun issued w' => issued = tokens ∧ OnStore (Ends cfg w call (reply tokens)) w')
      (OnStore (Writes cfg w call False)) := by
    refine Triple.bind (write_triple fun before store hbefore hwrite => ?_) fun _ =>
      Triple.pure fun _ hw => ⟨rfl, hw⟩
    simp only [Ends, hreply]
    exact ⟨before, user, hbefore, rfl, rfl, hwrite⟩
  refine hwrite.bind fun issued => Triple.intro fun hissued => ?_
  subst hissued
  exact Triple.pure fun _ hw => hw

/-! ### Codes that are sent -/

theorem register_concludes {email password : String}
    (hrequest : call.request = .auth (.register email password)) :
    Concludes cfg w call (OnStore (· = w.store))
      (register cfg.toAuth call.io.toAuth email password) := by
  refine read_bind .refl ?_
  refine Triple.require_bind start_writes fun hnone => ?_
  refine (createUser_writes (.registered hrequest hnone)).bind fun _ => ?_
  refine Triple.bind (createProfile_writes (.inr (by simp [blankProfile]))) fun _ => ?_
  exact Triple.require_bind (fun _ hw => hw) fun _ => Triple.pure fun _ hw => hw

theorem setOtp_writes {userId : String} (haddressee : addressee cfg w call = some userId) :
    Keeps (OnStore (Writes cfg w call False))
      (updateUser userId (setOtp (cfg.hashOTP (generateOTP call.io.toAuth))
        (otpExpiresAt call.io.toAuth))) := updateUser_writes (.sent haddressee)

theorem ensureManualUser_writes {phone : String}
    (hrequest : call.request = .auth (.sendManualOtp phone)) :
    Triple (OnStore (· = w.store)) (ensureManualUser cfg.toAuth call.io.toAuth (digits phone))
      (fun userId w' => addressee cfg w call = some userId ∧
        OnStore (Writes cfg w call False) w') (OnStore (Writes cfg w call False)) := by
  refine read_bind .refl ?_
  cases hfound : w.store.users.findUnique (.phone (digits phone)) with
  | some user =>
      refine Triple.pure fun w' hw => ⟨?_, start_writes w' hw⟩
      simp only [addressee, hrequest, hfound, Option.map_some, Option.getD_some]
  | none =>
      have haddressee : addressee cfg w call = some call.io.userId := by
        simp only [addressee, hrequest, hfound, Option.map_none, Option.getD_none]
      refine (createUser_writes (.ofNumber hrequest hfound)).bind fun _ => ?_
      refine Triple.bind (upsertProfile_writes (.inr (by simp [blankProfile])) fun _ =>
        .inr .refl) fun _ => ?_
      exact Triple.pure fun _ hw => ⟨haddressee, hw⟩

theorem startManualPhoneOtp_concludes {phone : String}
    (hrequest : call.request = .auth (.sendManualOtp phone)) :
    Concludes cfg w call (OnStore (· = w.store))
      (startManualPhoneOtp cfg.toAuth call.io.toAuth phone) := by
  refine Triple.lift_bind start_writes fun normalizedPhone hphone => ?_
  obtain rfl := digits_of_normalizePhone hphone
  refine (ensureManualUser_writes hrequest).bind fun userId => Triple.intro fun haddressee => ?_
  refine Triple.bind (setOtp_writes haddressee) fun _ => ?_
  exact Triple.require_bind (fun _ hw => hw) fun _ => Triple.pure fun _ hw => hw

theorem ensureDriverUser_writes {email : Option String}
    (hrequest : call.request = .auth (.sendDriverOtp email)) :
    Triple (OnStore (· = w.store))
      (ensureDriverUser cfg.toAuth call.io.toAuth (normalizeEmail cfg.toAuth email))
      (fun userId w' => addressee cfg w call = some userId ∧
        OnStore (Writes cfg w call False) w') (OnStore (Writes cfg w call False)) := by
  refine read_bind .refl ?_
  cases hfound : userByEmailCI cfg.toAuth w.store (some (normalizeEmail cfg.toAuth email)) with
  | some user =>
      refine Triple.pure fun w' hw => ⟨?_, start_writes w' hw⟩
      simp only [addressee, hrequest, hfound, Option.map_some, Option.getD_some]
  | none =>
      have haddressee : addressee cfg w call = some call.io.userId := by
        simp only [addressee, hrequest, hfound, Option.map_none, Option.getD_none]
      -- Account and profile are written in one transaction.
      have hwrite : Triple (OnStore (· = w.store))
          (write fun store => do
            let store ← store.createUser (newUser call.io.toAuth
              (normalizeEmail cfg.toAuth email) (bootstrapPasswordHash cfg.toAuth call.io.toAuth))
            store.createProfile (blankProfile call.io.userId .NOT_STARTED))
          (fun _ => OnStore (Writes cfg w call False)) (OnStore (· = w.store)) := by
        refine write_triple fun store store' hstore hwrite => ?_
        subst hstore
        obtain ⟨opened, hcreate, hprofile⟩ := Outcome.bind_eq_ok.mp hwrite
        have hopened : Writes cfg w call False opened :=
          Writes.refl.tail (.createUser (.ofDriver hrequest hfound) hcreate)
        exact hopened.tail (.createProfile (.inr (by simp [blankProfile])) hprofile)
      refine (hwrite.conseq (fun _ hw => hw) (fun _ _ hw => hw) start_writes).bind fun _ => ?_
      exact Triple.pure fun _ hw => ⟨haddressee, hw⟩

theorem startDriverLoginOtp_concludes {email : Option String}
    (hrequest : call.request = .auth (.sendDriverOtp email)) :
    Concludes cfg w call (OnStore (· = w.store))
      (startDriverLoginOtp cfg.toAuth call.io.toAuth email) := by
  refine (ensureDriverUser_writes hrequest).bind fun userId => Triple.intro fun haddressee => ?_
  refine Triple.bind (setOtp_writes haddressee) fun _ => ?_
  exact Triple.require_bind (fun _ hw => hw) fun _ => Triple.pure fun _ hw => hw

theorem forgotPassword_concludes {email : String}
    (hrequest : call.request = .auth (.forgotPassword email)) :
    Concludes cfg w call (OnStore (· = w.store))
      (forgotPassword cfg.toAuth call.io.toAuth email) := by
  refine read_bind .refl ?_
  cases hfound : w.store.users.findUnique (.email email) with
  | none => exact Triple.pure start_writes
  | some user =>
      have haddressee : addressee cfg w call = some user.id := by
        simp only [addressee, hrequest, hfound, Option.map_some]
      refine Concludes.started (Triple.bind (setOtp_writes haddressee) fun _ => ?_)
      exact Triple.require_bind (fun _ hw => hw) fun _ => Triple.pure fun _ hw => hw

/-! ### Codes that are presented -/

/-- Tokens are signed, but the hash of the refresh token is not stored. -/
theorem verifyOtp_writes {email otp : String}
    (hrequest : call.request = .auth (.verifyOtp email otp)) :
    WritesOnly cfg w call False (OnStore (· = w.store))
      (verifyOtp cfg.toAuth call.io.toAuth email otp) := by
  refine read_bind .refl (Triple.orThrow_bind start_writes fun user hfound => ?_)
  refine Triple.require_bind start_writes fun _ => ?_
  refine Triple.lift_bind start_writes fun _ hotp => WritesOnly.started ?_
  have hpresents := presentsCode cfg w call (by rw [hrequest]; rfl)
    (by rw [presenter, hrequest]; exact hfound) hotp
  exact Keeps.bind (updateUser_writes (.confirmed hpresents)) fun _ => Keeps.pure

theorem verifyManualPhoneOtp_writes {phone otp : String}
    (hrequest : call.request = .auth (.verifyManualOtp phone otp)) :
    WritesOnly cfg w call True (OnStore (· = w.store))
      (verifyManualPhoneOtp cfg.toAuth call.io.toAuth phone otp) := by
  refine Triple.lift_bind start_writes fun normalizedPhone hphone => ?_
  obtain rfl := digits_of_normalizePhone hphone
  refine read_bind .refl (Triple.orThrow_bind start_writes fun user hfound => ?_)
  refine Triple.lift_bind start_writes fun _ hotp => WritesOnly.started ?_
  have hpresents := presentsCode cfg w call (by rw [hrequest]; rfl)
    (by rw [presenter, hrequest]; exact hfound) hotp
  have hproves : ProvesNumber cfg w call user.id :=
    ⟨phone, otp, user, hrequest, hfound, rfl, checkOtp_accepts hotp⟩
  refine Keeps.bind (updateUser_writes (.confirmed hpresents)) fun _ => ?_
  refine Keeps.bind (startSession_writes trivial) fun tokens => ?_
  refine triple_of_store fun store hstore => read_bind hstore ?_
  refine Triple.ite (fun hleak => ?_) fun _ => Triple.pure (onStore_of_eq hstore)
  refine Triple.bind (updateProfile_writes_of_store hstore fun p hp => ?_) fun _ =>
    Triple.pure fun _ hw => hw
  simp only [hp, Option.map_some, Option.getD_some, Option.bind_some] at hleak
  exact .withdrawn hproves hleak.1 hleak.2

theorem verifyDriverLoginOtp_concludes {email otp : String}
    (hrequest : call.request = .auth (.verifyDriverOtp email otp)) :
    Concludes cfg w call (OnStore (· = w.store))
      (verifyDriverLoginOtp cfg.toAuth call.io.toAuth email otp) := by
  refine read_bind .refl (Triple.orThrow_bind start_writes fun user hfound => ?_)
  refine Triple.lift_bind start_writes fun _ hotp => Concludes.started ?_
  have hpresents := presentsCode cfg w call (by rw [hrequest]; rfl)
    (by rw [presenter, hrequest]; exact hfound) hotp
  exact Triple.bind (updateUser_writes (.confirmed hpresents)) fun _ => Triple.pure fun _ hw => hw

theorem resetPassword_concludes {email otp newPassword : String}
    (hrequest : call.request = .auth (.resetPassword email otp newPassword)) :
    Concludes cfg w call (OnStore (· = w.store))
      (resetPassword cfg.toAuth call.io.toAuth email otp newPassword) := by
  refine read_bind .refl (Triple.orThrow_bind start_writes fun user hfound => ?_)
  refine Triple.lift_bind start_writes fun _ hotp => Concludes.started ?_
  have hpresents := presentsCode cfg w call (by rw [hrequest]; rfl)
    (by rw [presenter, hrequest]; exact hfound) hotp
  exact Triple.bind (updateUser_writes (.reset hpresents)) fun _ => Triple.pure fun _ hw => hw

theorem adminVerifyOtp_concludes {email otp : String}
    (hrequest : call.request = .auth (.adminVerifyOtp email otp)) :
    Concludes cfg w call (OnStore (· = w.store))
      (adminVerifyOtp cfg.toAuth call.io.toAuth email otp) := by
  refine Triple.lift_bind start_writes fun creds _ => Triple.require_bind start_writes fun _ => ?_
  refine read_bind .refl (Triple.orThrow_bind start_writes fun user hfound => ?_)
  refine Triple.require_bind start_writes fun _ => ?_
  refine Triple.lift_bind start_writes fun _ hotp => Concludes.started ?_
  have hpresents := presentsCode cfg w call (by rw [hrequest]; rfl)
    (by rw [presenter, hrequest]; exact hfound) hotp
  exact Triple.bind (updateUser_writes (.cleared hpresents)) fun _ => startSession_concludes rfl

/-! ### Passwords, refresh tokens and providers -/

theorem login_concludes {email password : String} :
    Concludes cfg w call (OnStore (· = w.store))
      (login cfg.toAuth call.io.toAuth email password) := by
  refine read_bind .refl (Triple.orThrow_bind start_writes fun user _ => ?_)
  refine Triple.require_bind start_writes fun _ => Triple.require_bind start_writes fun _ => ?_
  exact Concludes.started (startSession_concludes rfl)

theorem refresh_concludes {token : String} :
    Concludes cfg w call (OnStore (· = w.store))
      (refresh cfg.toAuth call.io.toAuth token) := by
  refine Triple.require_bind start_writes fun _ => ?_
  refine Triple.orThrow_bind start_writes fun payload _ => ?_
  refine Triple.require_bind start_writes fun _ => read_bind .refl ?_
  refine Triple.orThrow_bind start_writes fun user _ => ?_
  refine Triple.orThrow_bind start_writes fun stored _ => ?_
  refine Triple.require_bind start_writes fun _ => ?_
  exact Concludes.started (startSession_concludes rfl)

theorem ensureAdminUserExists_writes {isSession : Prop} {email password : String}
    (hadmin : (∃ email password, call.request = .auth (.adminLogin email password)) ∨
      (∃ bearer, call.request = .admin bearer .seedAdmin)) :
    WritesOnly cfg w call isSession (OnStore (· = w.store))
      (ensureAdminUserExists cfg.toAuth call.io.toAuth email password) := by
  refine read_bind .refl ?_
  cases hnone : w.store.users.findUnique (.email email) with
  | none =>
      exact (createUser_writes (.ofAdmin hadmin hnone)).bind fun _ => Triple.pure fun _ hw => hw
  | some user =>
      refine WritesOnly.started (Triple.ite (fun _ => Keeps.pure) fun _ => ?_)
      exact Keeps.bind (updateUser_writes .provisioned) fun _ => Keeps.pure

theorem adminLogin_concludes {email password : String}
    (hrequest : call.request = .auth (.adminLogin email password)) :
    Concludes cfg w call (OnStore (· = w.store))
      (adminLogin cfg.toAuth call.io.toAuth email password) := by
  refine Triple.lift_bind start_writes fun creds _ => Triple.require_bind start_writes fun _ => ?_
  have hadmin : WritesOnly cfg w call False (OnStore (· = w.store))
      (ensureAdminUserExists cfg.toAuth call.io.toAuth creds.1 creds.2) :=
    ensureAdminUserExists_writes (.inl ⟨email, password, hrequest⟩)
  exact Triple.bind hadmin fun user => startSession_concludes rfl

theorem authorizeOAuth_concludes {provider : String} {query : AuthorizeQuery} :
    Concludes cfg w call (OnStore (· = w.store))
      (authorizeOAuth call.io.toAuth provider query) := by
  refine Triple.orThrow_bind start_writes fun provider _ => ?_
  refine Triple.orThrow_bind start_writes fun identifier _ => Concludes.started ?_
  refine Triple.bind registry_writes fun session => ?_
  exact Triple.require_bind (fun _ hw => hw) fun _ => Triple.pure fun _ hw => hw

theorem exchangeOAuthToken_concludes {provider : QCommerceProvider} {params : ExchangeParams} :
    Concludes cfg w call (OnStore (· = w.store))
      (exchangeOAuthToken cfg.toAuth call.io.toAuth provider params) :=
  Concludes.started (Triple.bind registry_writes fun _ => Triple.pure fun _ hw => hw)

/-- The account that a profile signs in to is opened, or linked to the provider. -/
theorem resolveOAuthUser_writes {provider : QCommerceProvider} {sessionId : String}
    {oauthSession : OAuthSessionState} {profile : StaticProfile}
    (hredeems : call.request.Redeems provider sessionId)
    (hfound : w.registry.sessionOf provider sessionId = some oauthSession)
    (hemail : profile.identity.email = sessionEmail cfg.toAuth w.registry oauthSession) :
    WritesOnly cfg w call False (OnStore (· = w.store))
      (resolveOAuthUser cfg.toAuth call.io.toAuth provider profile
        (normalizeEmail cfg.toAuth (some profile.identity.email))) := by
  rw [hemail]
  refine read_bind .refl ?_
  cases hnone : userByEmailCI cfg.toAuth w.store (some (normalizeEmail cfg.toAuth
      (some (sessionEmail cfg.toAuth w.registry oauthSession)))) with
  | none =>
      refine (createUser_writes (.ofProvider hredeems hfound hnone)).bind fun _ => ?_
      exact Keeps.bind (createProfile_writes (.inl hredeems.exchanges)) fun _ => Keeps.pure
  | some user =>
      refine WritesOnly.started (Triple.ite (fun _ => Keeps.pure) fun _ => ?_)
      refine Keeps.bind (updateUser_writes ?_) fun _ => ?_
      · split
        · exact .linked hredeems.exchanges
        · exact .verified hredeems.exchanges
      · exact Keeps.bind query_writes fun _ => Keeps.orThrow

theorem exchangeOAuth_concludes {provider : QCommerceProvider} {params : ExchangeParams}
    (hredeems : call.request.Redeems provider params.sessionId) :
    Concludes cfg w call (fun w' => w'.registry = w.registry ∧ OnStore (· = w.store) w')
      (exchangeOAuth cfg.toAuth call.io.toAuth provider params) := by
  refine ((onRegistry_triple exchangeAuthorizationCode_spec).conseq (fun _ hw => hw)
    (fun _ _ hw => hw) start_writes).bind fun result => Triple.intro fun hresult => ?_
  obtain ⟨-, oauthSession, hfound, -, -, hprofile⟩ := hresult
  refine Triple.require_bind start_writes fun _ => ?_
  have hemail : result.driverProfile.identity.email =
      sessionEmail cfg.toAuth w.registry oauthSession := by
    rw [hprofile]
    rfl
  refine (resolveOAuthUser_writes hredeems hfound hemail).bind fun user => ?_
  have hrecord : Keeps (OnStore (Writes cfg w call False))
      (recordProviderKyc call.io.toAuth result.driverProfile user.id) :=
    Triple.ite (fun _ => upsertProfile_writes (.inl hredeems.exchanges) fun _ =>
      .inl hredeems.exchanges) fun _ => Keeps.pure
  exact Triple.bind hrecord fun _ => startSession_concludes rfl

end SignIns

/-! ## Onboarding -/

section Onboarding

variable {cfg : Config} {w : World} {call : Call} {isSession : Prop}

/-- The check turns down an address that another account has as it was typed. -/
theorem checkEmailFree_triple {store : Store} {dto : ManualSignupDto} {user : User} :
    Triple (OnStore (· = store)) (checkEmailFree dto user)
      (fun _ w' => (∀ other ∈ store.users.rows, given (dto.email.map trim) = some other.email →
        other.id = user.id) ∧ OnStore (· = store) w') (OnStore (· = store)) := by
  unfold checkEmailFree
  split
  · rename_i hnone
    refine Triple.pure fun w' hw => ⟨fun other _ hother => ?_, hw⟩
    rw [hnone] at hother
    cases hother
  · rename_i email hemail
    refine read_bind rfl ?_
    refine Triple.ite (fun hfree => ?_) fun _ => Triple.throw fun _ hw => hw
    refine Triple.pure fun w' hw => ⟨fun other hother hsame => ?_, hw⟩
    obtain rfl := Option.some.inj (hemail.symm.trans hsame)
    refine hfree other ((Table.findUnique_eq_some _ _ _).mpr ⟨hother, ?_⟩)
    simp [User.keys]

theorem signupManual_writes {dto : ManualSignupDto} {onboardingToken : Option String}
    (hrequest : call.request = .manualSignup dto onboardingToken) :
    WritesOnly cfg w call isSession (OnStore (· = w.store))
      (signupManual cfg call.io dto onboardingToken) := by
  refine Triple.lift_bind start_writes fun normalizedPhone hphone => ?_
  refine read_bind .refl (Triple.orThrow_bind start_writes fun user hfound => ?_)
  have haccount : signupAccount cfg call.io w.store dto onboardingToken = some user := by
    simp only [signupAccount, hphone, Except.toOption, Option.bind_some, hfound]
  have hsigns : SignsUp cfg w call user.id (given (dto.platformId.map trim)) :=
    ⟨dto, onboardingToken, user, hrequest, haccount, rfl, rfl⟩
  refine (checkEmailFree_triple.conseq (fun _ hw => hw) (fun _ _ hw => hw)
    start_writes).bind fun _ => Triple.intro fun hfree => ?_
  have hmodify : Triple (OnStore (· = w.store))
      (modifyUser user.id (signupUpdate cfg dto normalizedPhone))
      (fun _ => OnStore (Writes cfg w call isSession)) (OnStore (· = w.store)) := by
    refine write_triple fun store store' hstore hwrite => ?_
    subst hstore
    exact Writes.refl.tail (.signUp hrequest haccount hfree hwrite)
  refine (hmodify.conseq (fun _ hw => hw) (fun _ _ hw => hw) start_writes).bind fun _ => ?_
  have hfill : Keeps (OnStore (Writes cfg w call isSession)) (fillInOnboarding dto user.id) := by
    refine Keeps.bind (upsertProfile_writes (.inr (by simp [blankProfile])) fun p =>
      .inr (.single (.signedUp hsigns))) fun _ => ?_
    refine Keeps.bind (row_writes fun _ _ => ⟨rfl, rfl, rfl⟩) fun _ => ?_
    exact row_writes fun _ _ => ⟨rfl, rfl, rfl⟩
  exact Keeps.bind hfill fun _ => Keeps.pure

theorem loadMeta_writes {userId : String} :
    Keeps (OnStore (Writes cfg w call isSession)) (ManualKyc.loadMeta userId) := by
  refine Keeps.bind query_writes fun found => ?_
  cases found with
  | some profile => exact Keeps.pure
  | none =>
      exact Keeps.bind (createProfile_writes (.inr (by simp [blankProfile]))) fun _ => Keeps.pure

theorem saveMeta_writes {userId reviewNote : String} {status : KYCStatus}
    (hfiles : Files call userId status) (hstatus : status ≠ .APPROVED ∧ status ≠ .REJECTED) :
    Keeps (OnStore (Writes cfg w call isSession)) (ManualKyc.saveMeta userId reviewNote status) :=
  upsertProfile_writes (.inr hstatus) fun _ => .inr (.single (.filed hfiles))

/-- The notes come first; accounts and setups are still what they were. -/
theorem loadMeta_setups {userId : String} :
    Triple (OnStore (· = w.store)) (ManualKyc.loadMeta userId)
      (fun _ => OnStore fun store => Writes cfg w call isSession store ∧
        store.users = w.store.users ∧ store.kycPayoutSetups = w.store.kycPayoutSetups)
      (OnStore (Writes cfg w call isSession)) := by
  refine read_bind .refl ?_
  cases w.store.kycProfiles.findUnique userId with
  | some profile => exact Triple.pure (onStore_of_eq ⟨.refl, rfl, rfl⟩)
  | none =>
      have hcreate :
          Triple (OnStore (· = w.store)) (createProfile (blankProfile userId .IN_PROGRESS))
          (fun _ => OnStore fun store => Writes cfg w call isSession store ∧
            store.users = w.store.users ∧ store.kycPayoutSetups = w.store.kycPayoutSetups)
          (OnStore (· = w.store)) := by
        refine write_triple fun store store' hstore hwrite => ?_
        subst hstore
        refine ⟨Writes.refl.tail (.createProfile (.inr (by simp [blankProfile])) hwrite), ?_⟩
        obtain ⟨_, -, rfl⟩ := Store.createProfile_eq_ok hwrite
        exact ⟨rfl, rfl⟩
      refine (hcreate.conseq (fun _ hw => hw) (fun _ _ hw => hw) start_writes).bind fun _ => ?_
      exact Triple.pure fun _ hw => hw

/-- A new setup belongs to an account. -/
theorem user_of_upsertPayoutSetup {store store' : Store} {row : KYCPayoutSetup}
    {f : RowUpdate KYCPayoutSetup.keys}
    (hnone : store.kycPayoutSetups.findUnique row.userId = none)
    (hwrite : upsertPayoutSetup store row f = .ok store') :
    store.users.findUnique (.id row.userId) ≠ none := by
  obtain ⟨setups, hrow, -⟩ := Outcome.bind_eq_ok.mp hwrite
  simp only [upsertRow, Outcome.bind_eq_ok, Outcome.require_eq_ok] at hrow
  obtain ⟨-, hallowed, -⟩ := hrow
  exact hallowed.resolve_left fun hsome => hsome hnone

theorem uploadBank_writes {userId : String} {bankDetails : Option ManualKyc.BankDetails}
    (hrequest : call.request = .manualKyc (.uploadBank userId bankDetails)) :
    WritesOnly cfg w call isSession (OnStore (· = w.store))
      (ManualKyc.uploadBank cfg.toManual call.io.manual userId bankDetails) := by
  refine Triple.require_bind start_writes fun hcomplete => loadMeta_setups.bind fun notes => ?_
  refine Triple.orThrow_bind (fun _ hw => hw.1) fun details hdetails => ?_
  subst hdetails
  have hsetup : Triple
      (OnStore fun store => Writes cfg w call isSession store ∧ store.users = w.store.users ∧
        store.kycPayoutSetups = w.store.kycPayoutSetups)
      (write fun store => upsertPayoutSetup store
        (ManualKyc.newBankSetup call.io.manual userId details) (ManualKyc.bankUpdate details))
      (fun _ => OnStore (Writes cfg w call isSession))
      (OnStore fun store => Writes cfg w call isSession store ∧ store.users = w.store.users ∧
        store.kycPayoutSetups = w.store.kycPayoutSetups) := by
    refine write_triple fun store store' h hwrite => ?_
    refine h.1.tail (.upsertPayoutSetup (fun hnone => ?_) (.inr fun _ => rfl) hwrite)
    have huser := user_of_upsertPayoutSetup hnone hwrite
    exact .inr ⟨details, hrequest, hcomplete, h.2.1 ▸ huser, h.2.2 ▸ hnone⟩
  refine (hsetup.conseq (fun _ hw => hw) (fun _ _ hw => hw) fun _ hw => hw.1).bind fun _ => ?_
  have hfiles : Files call userId .IN_PROGRESS := ⟨_, hrequest, hcomplete, rfl, rfl⟩
  exact Triple.bind (saveMeta_writes hfiles (by simp)) fun _ => Triple.pure fun _ hw => hw

theorem manualKyc_writes {request : ManualKyc.Request}
    (hrequest : call.request = .manualKyc request) :
    WritesOnly cfg w call isSession (OnStore (· = w.store))
      (request.handle cfg.toManual call.io.manual) := by
  have hfiles : ∀ {status}, request.Complete → request.target = some status →
      Files call request.userId status := fun hcomplete htarget =>
    ⟨request, hrequest, hcomplete, rfl, htarget⟩
  cases request with
  | uploadPan userId url | uploadAadhaar userId front back =>
      refine Triple.require_bind start_writes fun hcomplete => WritesOnly.started ?_
      refine Keeps.bind loadMeta_writes fun notes => ?_
      refine Keeps.bind (row_writes fun _ _ => ⟨rfl, rfl, rfl⟩) fun _ => ?_
      exact Keeps.bind (saveMeta_writes (hfiles hcomplete rfl) (by simp)) fun _ => Keeps.pure
  | uploadDl userId url =>
      refine Triple.require_bind start_writes fun hcomplete => WritesOnly.started ?_
      refine Keeps.bind loadMeta_writes fun notes => ?_
      exact Keeps.bind (saveMeta_writes (hfiles hcomplete rfl) (by simp)) fun _ => Keeps.pure
  | uploadBank userId bankDetails => exact uploadBank_writes hrequest
  | submit userId platformId =>
      refine Triple.require_bind start_writes fun hcomplete => WritesOnly.started ?_
      refine Keeps.bind loadMeta_writes fun notes => ?_
      refine Keeps.bind (saveMeta_writes (hfiles hcomplete rfl) (by simp)) fun _ => ?_
      refine Keeps.bind (updateProfile_writes fun p => .dated (hfiles hcomplete rfl)) fun _ => ?_
      exact Keeps.bind (row_writes fun _ _ => ⟨rfl, rfl, rfl⟩) fun _ => Keeps.pure
  | getStatus userId =>
      refine WritesOnly.started (Keeps.bind query_writes fun profile => ?_)
      exact Keeps.bind loadMeta_writes fun _ => Keeps.pure

end Onboarding

/-! ## Behind a guard -/

section Guarded

variable {cfg : Config} {w : World} {call : Call} {isSession : Prop} {bearer : Option String}

theorem updateKycStatus_writes {userId : String} :
    Keeps (OnStore (Writes cfg w call isSession)) (updateKycStatus userId) := by
  refine triple_of_store fun store hstore => read_bind hstore ?_
  refine Triple.ite (fun hstatus => ?_) fun _ => Triple.pure (onStore_of_eq hstore)
  refine updateProfile_writes_of_store hstore fun p hp => ?_
  rw [hp, Option.map_some, Option.some_inj] at hstatus
  exact .started hstatus

theorem saveStep_writes {save : Store → Except Exn Store} {userId message : String}
    (hsave : Keeps (OnStore (Writes cfg w call isSession)) (write save)) :
    Keeps (OnStore (Writes cfg w call isSession)) (saveStep save userId message) :=
  Keeps.bind hsave fun _ => Keeps.bind updateKycStatus_writes fun _ => Keeps.pure

theorem savePayoutSetup_writes {userId : String} {dto : PayoutSetupDto}
    (hconsents : dto.financialDataConsent = true → Consents cfg w call userId) :
    WritesOnly cfg w call isSession (OnStore (· = w.store))
      (savePayoutSetup call.io.now userId dto) := by
  refine Triple.require_bind start_writes fun hconsent => ?_
  refine Triple.require_bind start_writes fun _ => Triple.require_bind start_writes fun _ => ?_
  refine WritesOnly.started (saveStep_writes ?_)
  have hgiven := hconsents hconsent
  exact write_triple fun _ _ h hwrite =>
    h.tail (.upsertPayoutSetup (fun _ => .inl hgiven) (.inl hgiven) hwrite)

theorem submit_writes {user : User} (hrequest : call.request = .user bearer .submitKyc)
    (huser : bearerAccount cfg w call.io bearer = some user) :
    WritesOnly cfg w call isSession (OnStore (· = w.store))
      (KycService.submit call.io.now user.id) := by
  refine read_bind .refl (Triple.require_bind start_writes fun hcomplete => read_bind .refl ?_)
  refine Triple.orThrow_bind start_writes fun found hfound => ?_
  have hfound' : w.store.users.findUnique (.id user.id) = some user := by
    obtain ⟨userId, -, hlookup⟩ := Option.bind_eq_some_iff.mp huser
    exact (mem_id_keys_iff.mp (Table.key_of_findUnique hlookup)) ▸ hlookup
  obtain rfl := Option.some.inj (hfound'.symm.trans hfound)
  refine Triple.require_bind start_writes fun htenure => WritesOnly.started ?_
  have hsubmits : Submits cfg w call user.id :=
    ⟨bearer, user, hrequest, huser, rfl, by simpa [QuestionnaireComplete] using hcomplete, htenure⟩
  exact Keeps.bind (updateProfile_writes fun p => .submitted hsubmits) fun _ => Keeps.pure

/-- Both names of a driver are written in one transaction. -/
theorem updateDriverName_writes {userId driverName : String} :
    Keeps (OnStore (Writes cfg w call isSession)) (updateDriverName userId driverName) := by
  refine Keeps.bind query_writes fun user => Keeps.bind Keeps.require fun _ => ?_
  refine Keeps.bind (write_triple fun store store' h hwrite => ?_) fun _ => Keeps.pure
  obtain ⟨renamed, hname, hstore⟩ := Outcome.bind_eq_ok.mp hwrite
  cases hstore
  have hrenamed : Writes cfg w call isSession renamed := h.tail (.updateUser .named hname)
  exact hrenamed.tail (.elsewhere rfl rfl rfl)

theorem user_writes {request : UserRequest} {user : User}
    (hrequest : call.request = .user bearer request)
    (huser : bearerAccount cfg w call.io bearer = some user)
    (hlogout : request = .logout → isSession) :
    WritesOnly cfg w call isSession (OnStore (· = w.store)) (request.handle call.io user.id) := by
  cases request with
  | logout =>
      refine WritesOnly.started (Keeps.bind (updateUser_writes ?_) fun _ => Keeps.pure)
      exact .loggedOut (hlogout rfl)
  | updateDriverName driverName =>
      refine Triple.require_bind start_writes fun _ => Triple.require_bind start_writes fun _ => ?_
      exact WritesOnly.started updateDriverName_writes
  | saveBasicIdentity dto | savePersonalDetails dto | saveIdentityVerification dto =>
      exact WritesOnly.started (saveStep_writes (row_writes fun _ _ => ⟨rfl, rfl, rfl⟩))
  | savePayoutSetup dto =>
      exact savePayoutSetup_writes fun hconsent =>
        ⟨bearer, user, dto, hrequest, huser, rfl, hconsent⟩
  | submitKyc => exact submit_writes hrequest huser

theorem admin_writes {request : AdminRequest} {admin : User}
    (hrequest : call.request = .admin bearer request)
    (hadmin : bearerAccount cfg w call.io bearer = some admin) (hrole : admin.role = .ADMIN) :
    WritesOnly cfg w call isSession (OnStore (· = w.store))
      (request.handle cfg call.io admin.id) := by
  cases request with
  | seedAdmin =>
      refine Triple.require_bind start_writes fun _ => ?_
      refine Triple.lift_bind start_writes fun creds _ => ?_
      refine (ensureAdminUserExists_writes (.inr ⟨bearer, hrequest⟩)).bind fun _ => ?_
      exact Triple.pure fun _ hw => hw
  | updateAdminProfile dto =>
      refine WritesOnly.started (Keeps.bind query_writes fun user => ?_)
      refine Keeps.bind Keeps.require fun _ => Keeps.bind ?_ fun _ => Keeps.pure
      exact write_triple fun _ _ h hwrite => h.tail (.nameAdmin hrequest hwrite)
  | reviewSubmission userId status reviewNote =>
      refine Triple.require_bind start_writes fun hstatus => WritesOnly.started ?_
      have hreviews : Reviews cfg w call userId status :=
        ⟨bearer, admin, reviewNote, hrequest, hadmin, hrole, hstatus⟩
      exact Keeps.bind (updateProfile_writes fun p => .reviewed hreviews) fun _ => Keeps.pure

end Guarded

/-! ## Requests -/

section Requests

variable {cfg : Config} {w : World} {call : Call}

/-- A sign-in whose reply speaks for what it has stored. -/
theorem auth_concludes {request : AuthRequest} (hrequest : call.request = .auth request)
    (hemail : ∀ email otp, request ≠ .verifyOtp email otp)
    (hphone : ∀ phone otp, request ≠ .verifyManualOtp phone otp) :
    Concludes cfg w call (fun w' => w'.registry = w.registry ∧ OnStore (· = w.store) w')
      (request.handle cfg.toAuth call.io.toAuth) := by
  have hvalid : ∀ {p : Prop} [Decidable p] {e : Exn} {m : Handler AuthService.Reply},
      Concludes cfg w call (OnStore (· = w.store)) m →
        Concludes cfg w call (OnStore (· = w.store)) (require p e >>= fun _ => m) :=
    fun hm => Triple.require_bind start_writes fun _ => hm
  have hstore : ∀ {m : Handler AuthService.Reply}, Concludes cfg w call (OnStore (· = w.store)) m →
      Concludes cfg w call (fun w' => w'.registry = w.registry ∧ OnStore (· = w.store) w') m :=
    fun hm => Triple.pre hm fun _ hw => hw.2
  cases request with
  | register email password => exact hstore (hvalid (hvalid (register_concludes hrequest)))
  | verifyOtp email otp => exact absurd rfl (hemail email otp)
  | sendManualOtp phone => exact hstore (hvalid (startManualPhoneOtp_concludes hrequest))
  | verifyManualOtp phone otp => exact absurd rfl (hphone phone otp)
  | sendDriverOtp email => exact hstore (startDriverLoginOtp_concludes hrequest)
  | verifyDriverOtp email otp => exact hstore (hvalid (verifyDriverLoginOtp_concludes hrequest))
  | login email password => exact hstore (hvalid login_concludes)
  | refresh token => exact hstore refresh_concludes
  | forgotPassword email => exact hstore (hvalid (forgotPassword_concludes hrequest))
  | resetPassword email otp newPassword =>
      exact hstore (hvalid (hvalid (resetPassword_concludes hrequest)))
  | adminLogin email password => exact hstore (hvalid (adminLogin_concludes hrequest))
  | adminVerifyOtp email otp => exact hstore (hvalid (adminVerifyOtp_concludes hrequest))
  | authorizeOAuth provider query => exact hstore authorizeOAuth_concludes
  | exchangeOAuth provider dto =>
      refine Triple.orThrow_bind (fun _ hw => start_writes _ hw.2) fun supported hsupported => ?_
      refine Triple.require_bind (fun _ hw => start_writes _ hw.2) fun _ => ?_
      exact exchangeOAuth_concludes ⟨provider, dto, hrequest, hsupported, rfl⟩
  | tokenOAuth provider dto =>
      refine hstore (Triple.orThrow_bind start_writes fun supported _ => hvalid ?_)
      exact exchangeOAuthToken_concludes

theorem auth_writes {request : AuthRequest} (hrequest : call.request = .auth request) :
    WritesOnly cfg w call True (fun w' => w'.registry = w.registry ∧ OnStore (· = w.store) w')
      (request.handle cfg.toAuth call.io.toAuth) := by
  cases request with
  | verifyOtp email otp =>
      refine Triple.pre (Triple.require_bind start_writes fun _ => ?_) fun _ hw => hw.2
      exact (verifyOtp_writes hrequest).mono False.elim
  | verifyManualOtp phone otp =>
      refine Triple.pre (Triple.require_bind start_writes fun _ => ?_) fun _ hw => hw.2
      exact Triple.require_bind start_writes fun _ => verifyManualPhoneOtp_writes hrequest
  | _ => exact (auth_concludes hrequest (by simp) (by simp)).writes

theorem handle_writes :
    WritesOnly cfg w call True (fun w' => w'.registry = w.registry ∧ OnStore (· = w.store) w')
      (call.request.handle cfg call.io) := by
  have hreply : ∀ {α : Type} {P : World → Prop} {m : Handler α} {f : α → Reply},
      WritesOnly cfg w call True P m → WritesOnly cfg w call True P (m >>= fun a => pure (f a)) :=
    fun hm => Triple.bind hm fun _ => Triple.pure fun _ hw => hw
  cases hrequest : call.request with
  | auth request => exact hreply (auth_writes hrequest)
  | oauthLogin dto =>
      have hvalid : Keeps (OnStore (Writes cfg w call True)) (validLoginDto dto) :=
        Keeps.bind Keeps.require fun _ => Keeps.bind Keeps.require fun _ => Keeps.require
      refine Triple.pre (WritesOnly.started ?_) fun _ hw => hw.2
      exact Keeps.bind hvalid fun _ => Keeps.bind registry_writes fun _ => Keeps.pure
  | oauthCallback dto =>
      exact Triple.pre (hreply (WritesOnly.started registry_writes)) fun _ hw => hw.2
  | manualSignup dto onboardingToken =>
      exact Triple.pre (hreply (signupManual_writes hrequest)) fun _ hw => hw.2
  | manualKyc request => exact Triple.pre (hreply (manualKyc_writes hrequest)) fun _ hw => hw.2
  | user bearer request =>
      refine (jwtAuthGuard_spec.conseq (fun _ hw => hw.2) (fun _ _ hw => hw) start_writes).bind
        fun user => Triple.intro fun huser => hreply (user_writes hrequest ?_ fun _ => trivial)
      simp only [bearerAccount, huser.1, Option.bind_some, huser.2]
  | admin bearer request =>
      refine (adminGuard_spec.conseq (fun _ hw => hw.2) (fun _ _ hw => hw) start_writes).bind
        fun admin => Triple.intro fun hadmin => hreply (admin_writes hrequest ?_ hadmin.2.2)
      simp only [bearerAccount, hadmin.1, Option.bind_some, hadmin.2.1]
  | other effect remember =>
      refine Triple.pre (WritesOnly.started (Keeps.bind (write_triple ?_) fun _ =>
        Keeps.bind registry_writes fun _ => Keeps.pure)) fun _ hw => hw.2
      intro store store' h hwrite
      cases hwrite
      exact h.tail (.elsewhere rfl rfl rfl)

end Requests

/-- What a request leaves behind, it has written. -/
theorem step_writes (cfg : Config) (w : World) (call : Call) :
    Writes cfg w call True (step cfg w call).store := handle_writes.final ⟨rfl, rfl⟩

end Aegis.Identity
