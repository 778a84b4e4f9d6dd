import Aegis.Model.Auth
import Aegis.Model.Kyc

/-! # Every endpoint that writes identity data

The guards, the manual onboarding of `AuthService`, the endpoints behind a guard, and one
step for each request to the server. -/

namespace Aegis.Identity

open Aegis.Action JsString DynamicQCommerce AuthService KycService

structure Config extends toAuth : AuthService.Config, toManual : ManualKyc.Config

structure Io extends toAuth : AuthService.Io where
  fraudAnalysisId : String

def Io.manual (io : Io) : ManualKyc.Io := ⟨io.now, io.fraudAnalysisId⟩

variable (cfg : Config) (io : Io)

/-! ## Guards -/

/-- `JwtAuthGuard`: the account that the bearer token belongs to. -/
def jwtAuthGuard (bearer : Option String) : Handler User := do
  let token ← orThrow bearer (Exn.unauthorized "Unauthorized")
  let payload ← orThrow (cfg.verifyAsync cfg.env.jwtSecret token io.now)
    (Exn.unauthorized "Unauthorized")
  let found ← findUser (.id payload.sub)
  let user ← orThrow found (Exn.unauthorized "User not found")
  require (user.isVerified = true ∨ user.role = .ADMIN) (Exn.unauthorized "Email not verified")
  pure user

def adminGuard (bearer : Option String) : Handler User := do
  let user ← jwtAuthGuard cfg io bearer
  require (user.role = .ADMIN) (Exn.forbidden "Admins only")
  pure user

/-! ## Manual onboarding -/

structure ManualSignupDto where
  name : String
  email : Option String := none
  phone : Option String := none
  city : String
  platformId : Option String := none
  deriving DecidableEq, Repr

/-- The account that a valid onboarding token was issued for. -/
def onboardingSubject (onboardingToken : Option String) : Option String :=
  (given onboardingToken).bind fun token =>
    (cfg.verifyAsync cfg.env.jwtSecret token io.now).bind fun payload =>
      if payload.purpose = some "manual_onboarding" then given (some payload.sub) else none

/-- The index under which the account to fill in is looked up. -/
def signupIndex (dto : ManualSignupDto) (normalizedPhone onboardingToken : Option String) :
    Option UserIndex :=
  match onboardingSubject cfg io onboardingToken with
  | some userId => some (.id userId)
  | none =>
      match normalizedPhone with
      | some phone => some (.phone phone)
      | none =>
          (given (dto.email.map fun email => cfg.toLowerCase (trim email))).map UserIndex.email

def signupUpdate (dto : ManualSignupDto) (normalizedPhone : Option String) (user : User) : User :=
  { user with
    driverName := some (trim dto.name)
    phone := normalizedPhone.or user.phone
    email := (given (dto.email.map fun email => cfg.toLowerCase (trim email))).getD user.email
    platform := given (dto.platformId.map trim) }

/-- The number is normalised before it is used. -/
def signupPhone (dto : ManualSignupDto) : Except Exn (Option String) :=
  match given dto.phone with
  | none => .ok none
  | some phone => (normalizePhone phone).map some

/-- Another account may hold the address. -/
def checkEmailFree (dto : ManualSignupDto) (user : User) : Handler PUnit :=
  match given (dto.email.map trim) with
  | none => pure ⟨⟩
  | some email => do
      let existing ← findUser (.email email)
      require (∀ other ∈ existing, other.id = user.id)
        (Exn.conflict "Email already linked to another account.")

def fillInOnboarding (dto : ManualSignupDto) (userId : String) : Handler Unit := do
  upsertProfile (blankProfile userId .IN_PROGRESS) (setKycStatus .IN_PROGRESS)
  write fun store => upsertBasicIdentity store
    ⟨userId, trim dto.name, "1990-01-01", "UNSPECIFIED"⟩
    { apply := fun b => { b with fullName := trim dto.name }, keys_apply := fun _ => rfl }
  write fun store => upsertPersonalDetails store
    ⟨userId, "To be provided", trim dto.city, "To be provided", "000000"⟩
    { apply := fun d => { d with city := trim dto.city }, keys_apply := fun _ => rfl }

def signupManual (dto : ManualSignupDto) (onboardingToken : Option String) : Handler String := do
  let normalizedPhone ← lift (signupPhone dto)
  let found ← query fun store =>
    (signupIndex cfg io dto normalizedPhone onboardingToken).bind store.users.findUnique
  let user ← orThrow found
    (Exn.notFound "Manual onboarding user not found. Please verify OTP again.")
  checkEmailFree dto user
  modifyUser user.id (signupUpdate cfg dto normalizedPhone)
  fillInOnboarding dto user.id
  pure "Manual driver profile saved"

/-! ## Endpoints behind a guard -/

def logout (userId : String) : Handler String := do
  updateUser userId (setRefreshToken none)
  pure "Logged out successfully"

def renameIdentity (fullName : String) : RowUpdate KYCBasicIdentity.keys where
  apply b := { b with fullName }
  keys_apply _ := rfl

/-- Both names change in one transaction. -/
def updateDriverName (userId driverName : String) : Handler String := do
  let trimmedName := trim driverName
  let user ← findUser (.id userId)
  require (user ≠ none) (Exn.notFound "User not found")
  write fun store => do
    let store ← store.updateUser userId (setDriverName trimmedName)
    pure { store with
      kycBasicIdentities := store.kycBasicIdentities.update userId (renameIdentity trimmedName) }
  pure "Driver name updated successfully"

def seedAdmin : Handler String := do
  require (cfg.env.nodeEnv ≠ some "production")
    (Exn.forbidden "Admin seed endpoint is disabled in production")
  let (adminEmail, adminPassword) ← lift (getAdminEnvCreds cfg.toAuth)
  let _ ← ensureAdminUserExists cfg.toAuth io.toAuth adminEmail adminPassword
  pure "Administrative principal provisioned successfully."

structure AdminProfileDto where
  displayName : Option String := none
  phone : Option String := none
  deriving DecidableEq, Repr

def updateAdminProfile (userId : String) (dto : AdminProfileDto) : Handler String := do
  let user ← findUser (.id userId)
  require (user ≠ none) (Exn.notFound "Admin not found")
  modifyUser userId fun u =>
    { u with
      driverName := keepUnless dto.displayName u.driverName
      phone := keepUnless dto.phone u.phone }
  pure userId

/-- What an authenticated user may ask for. -/
inductive UserRequest where
  | logout
  | updateDriverName (driverName : String)
  | saveBasicIdentity (dto : BasicIdentityDto)
  | savePersonalDetails (dto : PersonalDetailsDto)
  | saveIdentityVerification (dto : IdentityVerificationDto)
  | savePayoutSetup (dto : PayoutSetupDto)
  | submitKyc
  deriving DecidableEq, Repr

def UserRequest.handle (userId : String) : UserRequest → Handler String
  | logout => Identity.logout userId
  | updateDriverName driverName => do
      require (2 ≤ driverName.toList.length)
        (invalid "Name must be at least 2 characters long")
      require (driverName.toList.length ≤ 50) (invalid "Name must not exceed 50 characters")
      Identity.updateDriverName userId driverName
  | saveBasicIdentity dto => KycService.saveBasicIdentity userId dto
  | savePersonalDetails dto => KycService.savePersonalDetails userId dto
  | saveIdentityVerification dto => KycService.saveIdentityVerification userId dto
  | savePayoutSetup dto => KycService.savePayoutSetup io.now userId dto
  | submitKyc => KycService.submit io.now userId

/-- What an administrator may ask for. -/
inductive AdminRequest where
  | seedAdmin
  | updateAdminProfile (dto : AdminProfileDto)
  | reviewSubmission (userId : String) (status : KYCStatus) (reviewNote : Option String)
  deriving DecidableEq, Repr

def AdminRequest.handle (adminId : String) : AdminRequest → Handler String
  | seedAdmin => Identity.seedAdmin cfg io
  | updateAdminProfile dto => Identity.updateAdminProfile adminId dto
  | reviewSubmission userId status reviewNote =>
      KycService.reviewSubmission io.now userId status reviewNote

/-! ## The server -/

inductive Request where
  | auth (request : AuthRequest)
  | oauthLogin (dto : LoginDto)
  | oauthCallback (dto : CallbackDto)
  | manualSignup (dto : ManualSignupDto) (onboardingToken : Option String)
  | manualKyc (request : ManualKyc.Request)
  | user (bearer : Option String) (request : UserRequest)
  | admin (bearer : Option String) (request : AdminRequest)
  /-- Any other endpoint: it may write what it likes but these three tables. -/
  | other (effect : Store → Store) (remember : Registry → Registry)

inductive Reply where
  | auth (reply : AuthService.Reply)
  | manualKyc (reply : ManualKyc.Reply)
  | session (session : OAuthSessionState)
  | profile (profile : StaticProfile)
  | message (message : String)
  | unmodelled

/-- `DynamicOAuthLoginDto` bounds the identifier and the redirect URI. -/
def validLoginDto (dto : LoginDto) : Handler PUnit := do
  require (4 ≤ dto.identifier.toList.length)
    (invalid "identifier must be longer than or equal to 4 characters")
  require (dto.identifier.toList.length ≤ 64)
    (invalid "identifier must be shorter than or equal to 64 characters")
  require (∀ uri ∈ dto.redirectUri, uri.toList.length ≤ 200)
    (invalid "redirectUri must be shorter than or equal to 200 characters")

def elsewhere (effect : Store → Store) : Handler Unit := write fun store =>
  .ok { effect store with
    users := store.users
    kycProfiles := store.kycProfiles
    kycPayoutSetups := store.kycPayoutSetups }

def Request.handle : Request → Handler Reply
  | auth request => do
      let reply ← request.handle cfg.toAuth io.toAuth
      pure (.auth reply)
  | oauthLogin dto => do
      validLoginDto dto
      let session ← onRegistry (startOAuthLogin io.oauth dto)
      pure (.session session)
  | oauthCallback dto => do
      let profile ← onRegistry (completeOAuthCallback cfg.oauth io.oauth dto)
      pure (.profile profile)
  | manualSignup dto onboardingToken => do
      let message ← signupManual cfg io dto onboardingToken
      pure (.message message)
  | manualKyc request => do
      let reply ← request.handle cfg.toManual io.manual
      pure (.manualKyc reply)
  | user bearer request => do
      let user ← jwtAuthGuard cfg io bearer
      let message ← request.handle io user.id
      pure (.message message)
  | admin bearer request => do
      let admin ← adminGuard cfg io bearer
      let message ← request.handle cfg io admin.id
      pure (.message message)
  | other effect remember => do
      elsewhere effect
      onRegistry fun registry => (.ok (), remember registry)
      pure .unmodelled

/-- A request, and whose it is: the account whose holder sends it, if any. -/
structure Call where
  request : Request
  sentBy : Option String
  io : Io

def Call.run (call : Call) (w : World) : Except Exn Reply × World :=
  call.request.handle cfg call.io { w with storeCalls := call.io.storeCalls }

def step (w : World) (call : Call) : World := (call.run cfg w).2

end Aegis.Identity
