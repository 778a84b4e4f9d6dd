import Aegis.Model.IdentityStore

/-! # Sign-in

`AuthService`: every flow that mints tokens, and those that prepare one. A token carries
the role that the account has in the store. -/

namespace Aegis.AuthService

open Aegis.Action JsString DynamicQCommerce Identity

structure Env where
  adminEmail : Option String
  adminPassword : Option String
  nodeEnv : Option String
  jwtSecret : String
  jwtRefreshSecret : Option String
  eliteOauthIssuer : Option String
  eliteOauthJwtSecret : Option String
  deriving DecidableEq, Repr

/-- The claims of a token. -/
inductive JwtPayload where
  | session (sub email : String) (role : Role)
  | manualOnboarding (sub phone : String)
  | oauth (claims : OAuthTokenClaims) (issuer audience : String)
  | openid (claims : OAuthTokenClaims) (issuer audience : String)
  deriving DecidableEq, Repr

namespace JwtPayload

def sub : JwtPayload → String
  | session sub _ _ | manualOnboarding sub _ => sub
  | oauth claims _ _ | openid claims _ _ => claims.sub

def role : JwtPayload → Option Role
  | session _ _ role => some role
  | _ => none

def purpose : JwtPayload → Option String
  | manualOnboarding _ _ => some "manual_onboarding"
  | _ => none

end JwtPayload

/-- The environment and the libraries the service rests on. -/
structure Config where
  env : Env
  toLowerCase : String → String
  /-- The comparison of the store's `mode: 'insensitive'`. -/
  equalsInsensitive : String → String → Bool
  /-- The hexadecimal SHA-256 digest. -/
  hashOTP : String → String
  bcryptHash : (salt password : String) → String
  bcryptCompare : (password hash : String) → Bool
  signAsync : (secret : String) → JwtPayload → (issuedAt : ℤ) → String
  /-- The claims of a token with a good signature that has not expired. -/
  verifyAsync : (secret token : String) → (now : ℤ) → Option JwtPayload
  isEmail : String → Bool
  createAnchorFromString : String → ℕ
  challengeOf : String → String

/-- The clock, the random draws and the fate of the messages of one request. -/
structure Io where
  now : ℤ
  userId : String
  /-- `crypto.randomInt` above `OTP_MIN`. -/
  otpDraw : Fin 900000
  salt : String
  bootstrapPassword : String
  sessionId : String
  state : String
  authCode : String
  mailSent : Bool
  smsSent : Bool
  storeCalls : ℕ

variable (cfg : Config) (io : Io)

def Config.oauth : DynamicQCommerce.Config where
  eliteOauthIssuer := cfg.env.eliteOauthIssuer
  eliteOauthJwtSecret := cfg.env.eliteOauthJwtSecret
  jwtSecret := some cfg.env.jwtSecret
  createAnchorFromString := cfg.createAnchorFromString
  challengeOf := cfg.challengeOf

def Io.oauth : DynamicQCommerce.Io := ⟨io.now, io.sessionId, io.state, io.authCode⟩

def OTP_MIN : ℕ := 100000

def generateOTP : String := toString (OTP_MIN + io.otpDraw.val)

def otpExpiresAt : ℤ := io.now + 10 * 60 * 1000

def normalizeEmail (email : Option String) : String := cfg.toLowerCase (trim (email.getD ""))

def kycStatusPriority : Option KYCStatus → ℤ
  | some .APPROVED => 5
  | some .SUBMITTED => 4
  | some .IN_PROGRESS => 3
  | some .REJECTED => 2
  | some .NOT_STARTED => 1
  | none => 0

/-- The comparator of `users.sort`. -/
def compareUsers (kycByUserId : String → Option KYCStatus) (a b : User) : ℤ :=
  let kycScore := kycStatusPriority (kycByUserId b.id) - kycStatusPriority (kycByUserId a.id)
  if kycScore ≠ 0 then kycScore
  else if a.isVerified ≠ b.isVerified then if a.isVerified then -1 else 1
  else a.createdAt - b.createdAt

/-- The account an address stands for: the furthest in KYC, then verified, then oldest. -/
def userByEmailCI (store : Store) (email : Option String) : Option User :=
  let users := store.users.rows.filter fun u =>
    cfg.equalsInsensitive u.email (normalizeEmail cfg email)
  let kycByUserId := fun userId => (store.kycProfiles.findUnique userId).map KYCProfile.status
  (users.insertionSort fun a b => compareUsers kycByUserId a b ≤ 0).head?

def findUserByEmailCI (email : Option String) : Handler (Option User) :=
  query fun store => userByEmailCI cfg store email

def normalizePhone (phone : String) : Except Exn String :=
  if (digits phone).toList.length < 10 ∨ 15 < (digits phone).toList.length then
    .error (.badRequest "Invalid mobile number")
  else .ok (digits phone)

def getAdminEnvCreds : Except Exn (String × String) :=
  match given (cfg.env.adminEmail.map trim), given cfg.env.adminPassword with
  | some email, some password => .ok (email, password)
  | _, _ => .error (.error "Missing required env vars: ADMIN_EMAIL and/or ADMIN_PASSWORD")

def newUser (email : String) (passwordHash : String) : User where
  id := io.userId
  email := email
  phone := none
  passwordHash := passwordHash
  role := .DRIVER
  isVerified := false
  otpCode := none
  otpExpiresAt := none
  refreshToken := none
  createdAt := io.now
  driverName := none
  platform := none

def bootstrapPasswordHash : String := cfg.bcryptHash io.salt io.bootstrapPassword

/-! ## Tokens -/

structure Jwt where
  payload : JwtPayload
  text : String
  deriving DecidableEq, Repr

def sign (secret : String) (payload : JwtPayload) : Jwt :=
  ⟨payload, cfg.signAsync secret payload io.now⟩

structure Tokens where
  accessToken : Jwt
  refreshToken : Jwt
  deriving DecidableEq, Repr

def refreshSecret : String := cfg.env.jwtRefreshSecret.getD cfg.env.jwtSecret

def generateTokens (user : User) : Tokens :=
  let payload := JwtPayload.session user.id user.email user.role
  ⟨sign cfg io cfg.env.jwtSecret payload, sign cfg io (refreshSecret cfg) payload⟩

/-- Tokens whose refresh token the store remembers by its hash. -/
def startSession (user : User) : Handler Tokens := do
  let tokens := generateTokens cfg io user
  updateUser user.id (setRefreshToken (some (cfg.hashOTP tokens.refreshToken.text)))
  pure tokens

/-- What a request is answered with. -/
inductive Reply where
  | message (message : String)
  | otpSent (message : String) (retryAfterSec : ℕ) (debugOtp : Option String)
  | mobileVerified (message : String) (verificationToken : Jwt) (userId : String)
      (tokens : Tokens) (role : Role) (email : String) (phone : Option String)
      (kycStatus : KYCStatus)
  | signedIn (message : String) (tokens : Tokens) (role : Role) (userId : String)
      (driverId : Option String)
  | refreshed (tokens : Tokens)
  | authorized (redirectUri code sessionId state provider : String)
  | providerTokens (accessToken : Jwt) (idToken : Option Jwt) (scope : String)
      (provider : QCommerceProvider) (driverProfile : StaticProfile)
  | oauthSignedIn (message : String) (tokens : Tokens) (role : Role) (userId : String)
      (driverId : Option String) (providerDriverId email : String)
  deriving DecidableEq, Repr

def Tokens.jwts (tokens : Tokens) : List Jwt := [tokens.accessToken, tokens.refreshToken]

/-- Every token in a reply. -/
def Reply.jwts : Reply → List Jwt
  | message _ | otpSent _ _ _ | authorized _ _ _ _ _ => []
  | mobileVerified _ verificationToken _ tokens _ _ _ _ => verificationToken :: tokens.jwts
  | signedIn _ tokens _ _ _ | refreshed tokens | oauthSignedIn _ tokens _ _ _ _ _ => tokens.jwts
  | providerTokens accessToken idToken _ _ _ => accessToken :: idToken.toList

/-- `user.role === 'DRIVER' ? user.id : undefined`. -/
def driverIdOf (user : User) : Option String :=
  if user.role = .DRIVER then some user.id else none

def sendOTPEmail : Handler Unit := require (io.mailSent = true) (Exn.error "Message not sent")

/-! ## One-time codes -/

/-- A presented code against the one that the row holds. -/
def checkOtp (missing : String) (user : User) (otp : String) : Except Exn Unit := do
  match given user.otpCode, user.otpExpiresAt with
  | some code, some expiresAt =>
      Outcome.require (io.now ≤ expiresAt) (.badRequest "OTP has expired")
      Outcome.require (cfg.hashOTP otp = code) (.badRequest "Invalid OTP")
  | _, _ => throw (.badRequest missing)

def register (email password : String) : Handler Reply := do
  let existing ← findUser (.email email)
  require (existing = none) (Exn.conflict "Email already registered")
  let otp := generateOTP io
  createUser { newUser io email (cfg.bcryptHash io.salt password) with
    otpCode := some (cfg.hashOTP otp), otpExpiresAt := some (otpExpiresAt io) }
  createProfile (blankProfile io.userId .NOT_STARTED)
  sendOTPEmail io
  pure (.message "Registered successfully. Please verify your email with the OTP sent to continue.")

/-- The account of a number, created when there is none. -/
def ensureManualUser (phone : String) : Handler String := do
  let user ← findUser (.phone phone)
  match user with
  | some user => pure user.id
  | none =>
      createUser { newUser io ("manual_" ++ phone ++ "@aegis.local")
        (bootstrapPasswordHash cfg io) with phone := some phone }
      upsertProfile (blankProfile io.userId .NOT_STARTED) .keep
      pure io.userId

def startManualPhoneOtp (phone : String) : Handler Reply := do
  let normalizedPhone ← lift (normalizePhone phone)
  let userId ← ensureManualUser cfg io normalizedPhone
  let otp := generateOTP io
  updateUser userId (setOtp (cfg.hashOTP otp) (otpExpiresAt io))
  let production := cfg.env.nodeEnv = some "production"
  require (io.smsSent = true ∨ ¬production)
    (Exn.badRequest "Unable to deliver OTP SMS at the moment. Please retry.")
  pure (.otpSent "OTP sent successfully" 30 (if production then none else some otp))

def verifyManualPhoneOtp (phone otp : String) : Handler Reply := do
  let normalizedPhone ← lift (normalizePhone phone)
  let found ← findUser (.phone normalizedPhone)
  let user ← orThrow found (Exn.badRequest "No OTP requested")
  lift (checkOtp cfg io "No OTP requested" user otp)
  let verificationToken :=
    sign cfg io cfg.env.jwtSecret (.manualOnboarding user.id normalizedPhone)
  updateUser user.id confirmOtp
  let tokens ← startSession cfg io user
  let kycProfile ← findProfile user.id
  let status := (kycProfile.map KYCProfile.status).getD .NOT_STARTED
  let unsubmitted := (kycProfile.bind KYCProfile.submittedAt) = none
  -- An approval without a submission behind it is taken back.
  if status = .APPROVED ∧ unsubmitted then do
    updateProfile user.id (setKycStatus .IN_PROGRESS)
    pure (.mobileVerified "Mobile OTP verified" verificationToken user.id tokens user.role
      user.email user.phone .IN_PROGRESS)
  else
    pure (.mobileVerified "Mobile OTP verified" verificationToken user.id tokens user.role
      user.email user.phone status)

def verifyOtp (email otp : String) : Handler Reply := do
  let found ← findUser (.email email)
  let user ← orThrow found (Exn.notFound "User not found")
  require (user.isVerified = false) (Exn.badRequest "Email already verified")
  lift (checkOtp cfg io "No OTP requested" user otp)
  updateUser user.id confirmOtp
  pure (.signedIn "Elite identity verified successfully." (generateTokens cfg io user) user.role
    user.id (driverIdOf user))

/-- Any account may be meant, whatever the case of its address. -/
def ensureDriverUser (normalizedEmail : String) : Handler String := do
  let found ← findUserByEmailCI cfg (some normalizedEmail)
  match found with
  | some user => pure user.id
  | none => do
      write fun store => do
        let store ← store.createUser (newUser io normalizedEmail (bootstrapPasswordHash cfg io))
        store.createProfile (blankProfile io.userId .NOT_STARTED)
      pure io.userId

def startDriverLoginOtp (email : Option String) : Handler Reply := do
  let userId ← ensureDriverUser cfg io (normalizeEmail cfg email)
  updateUser userId (setOtp (cfg.hashOTP (generateOTP io)) (otpExpiresAt io))
  sendOTPEmail io
  pure (.message "OTP sent to your email. Please verify to continue.")

def verifyDriverLoginOtp (email otp : String) : Handler Reply := do
  let found ← findUserByEmailCI cfg (some email)
  let user ← orThrow found (Exn.badRequest "No OTP requested")
  lift (checkOtp cfg io "No OTP requested" user otp)
  updateUser user.id confirmOtp
  pure (.message "Email verified. Proceeding to OAuth...")

/-! ## Passwords and refresh tokens -/

def login (email password : String) : Handler Reply := do
  let found ← findUser (.email email)
  let user ← orThrow found (Exn.unauthorized "Invalid credentials")
  require (cfg.bcryptCompare password user.passwordHash = true)
    (Exn.unauthorized "Invalid credentials")
  require (user.isVerified = true) (Exn.unauthorized "Please verify your email first")
  let tokens ← startSession cfg io user
  pure (.signedIn "High-fidelity authentication successful" tokens user.role user.id
    (driverIdOf user))

def refresh (incomingToken : String) : Handler Reply := do
  require (refreshSecret cfg ≠ "") (Exn.unauthorized "Missing refresh secret")
  let payload ← orThrow (cfg.verifyAsync (refreshSecret cfg) incomingToken io.now)
    (Exn.unauthorized "Invalid refresh token")
  require (payload.sub ≠ "") (Exn.unauthorized "Invalid refresh token")
  let found ← findUser (.id payload.sub)
  let user ← orThrow found (Exn.unauthorized "No active session")
  let stored ← orThrow (given user.refreshToken) (Exn.unauthorized "No active session")
  require (cfg.hashOTP incomingToken = stored) (Exn.unauthorized "Invalid refresh token")
  let tokens ← startSession cfg io user
  pure (.refreshed tokens)

def forgotPassword (email : String) : Handler Reply := do
  let found ← findUser (.email email)
  match found with
  | none =>
      pure (.message "If this principal is registered, an OTP sequence will be initialized.")
  | some user => do
      updateUser user.id (setOtp (cfg.hashOTP (generateOTP io)) (otpExpiresAt io))
      sendOTPEmail io
      pure (.message "If this email is registered, you will receive an OTP.")

def resetPassword (email otp newPassword : String) : Handler Reply := do
  let found ← findUser (.email email)
  let user ← orThrow found (Exn.badRequest "No reset requested")
  lift (checkOtp cfg io "No reset requested" user otp)
  updateUser user.id (resetPasswordHash (cfg.bcryptHash io.salt newPassword))
  pure (.message "Password reset successfully. Please login.")

/-! ## The administrator -/

/-- What the row of the administrator is brought to. -/
def provisionAdmin (password : String) (user : User) : User :=
  { user with
    role := .ADMIN
    isVerified := true
    passwordHash :=
      if cfg.bcryptCompare password user.passwordHash then user.passwordHash
      else cfg.bcryptHash io.salt password }

def provisionAdminUpdate (password : String) : RowUpdate User.keys where
  apply := provisionAdmin cfg io password
  keys_apply _ := rfl

def ensureAdminUserExists (email password : String) : Handler User := do
  let existing ← findUser (.email email)
  match existing with
  | none => do
      let user :=
        { newUser io email (cfg.bcryptHash io.salt password) with
          phone := some "+1-admin", role := .ADMIN, isVerified := true }
      createUser user
      pure user
  | some user =>
      if user.role = .ADMIN ∧ user.isVerified = true ∧
          cfg.bcryptCompare password user.passwordHash = true then pure user
      else do
        updateUser user.id (provisionAdminUpdate cfg io password)
        pure (provisionAdmin cfg io password user)

def adminLogin (email password : String) : Handler Reply := do
  let (adminEmail, adminPassword) ← lift (getAdminEnvCreds cfg)
  require (email = adminEmail ∧ password = adminPassword)
    (Exn.unauthorized "Invalid admin credentials")
  let user ← ensureAdminUserExists cfg io adminEmail adminPassword
  let tokens ← startSession cfg io user
  pure (.signedIn "Admin sign-in successful." tokens .ADMIN user.id none)

def adminVerifyOtp (email otp : String) : Handler Reply := do
  let (adminEmail, _) ← lift (getAdminEnvCreds cfg)
  require (email = adminEmail) (Exn.unauthorized "Invalid admin identity")
  let found ← findUser (.email email)
  let user ← orThrow found (Exn.unauthorized "Invalid admin identity")
  require (user.role = .ADMIN) (Exn.unauthorized "Invalid admin identity")
  lift (checkOtp cfg io "No admin OTP requested" user otp)
  updateUser user.id clearOtp
  let tokens ← startSession cfg io user
  pure (.signedIn "Admin sign-in successful." tokens .ADMIN user.id none)

/-! ## OAuth -/

def exchangeOAuthToken (provider : QCommerceProvider) (params : ExchangeParams) :
    Handler Reply := do
  let result ← onRegistry (exchangeAuthorizationCode cfg.oauth io.oauth provider params)
  let accessToken :=
    sign cfg io result.secret (.oauth result.claims result.issuer result.audience)
  let idToken := sign cfg io result.secret (.openid result.claims result.issuer result.audience)
  pure (.providerTokens accessToken (if result.openid then some idToken else none)
    result.claims.scope provider result.driverProfile)

/-- The account a provider profile signs in to, created when there is none. -/
def resolveOAuthUser (provider : QCommerceProvider) (profile : StaticProfile) (email : String) :
    Handler User := do
  let found ← findUserByEmailCI cfg (some email)
  match found with
  | none => do
      let user :=
        { newUser io email (bootstrapPasswordHash cfg io) with
          isVerified := true
          driverName := some profile.identity.fullName
          platform := some provider.value }
      createUser user
      createProfile (if profile.kycVerified then
        (approve io.now).apply (blankProfile io.userId .APPROVED)
        else blankProfile io.userId .NOT_STARTED)
      pure user
  | some user =>
      if user.isVerified = true ∧ user.platform = some provider.value then pure user
      else do
        updateUser user.id
          (if user.isVerified then setPlatform provider.value else verifyOnPlatform provider.value)
        let reread ← findUser (.id user.id)
        orThrow reread (Exn.typeError "Cannot read properties of null (reading 'id')")

/-- A profile that the provider has verified counts as approved here. -/
def recordProviderKyc (profile : StaticProfile) (userId : String) : Handler Unit :=
  if profile.kycVerified then
    upsertProfile ((approve io.now).apply (blankProfile userId .APPROVED)) (approve io.now)
  else pure ()

def exchangeOAuth (provider : QCommerceProvider) (params : ExchangeParams) : Handler Reply := do
  let result ← onRegistry (exchangeAuthorizationCode cfg.oauth io.oauth provider params)
  let profile := result.driverProfile
  let email := normalizeEmail cfg (some profile.identity.email)
  require (email ≠ "") (Exn.badRequest "Provider did not return an email identity")
  let user ← resolveOAuthUser cfg io provider profile email
  recordProviderKyc io profile user.id
  let tokens ← startSession cfg io user
  pure (.oauthSignedIn "OAuth sign-in successful" tokens user.role user.id (driverIdOf user)
    profile.identity.internalDriverId user.email)

end Aegis.AuthService

/-! ## The endpoints of `AuthController` that need no session -/

namespace Aegis.AuthService

open Aegis.Action JsString DynamicQCommerce Identity

structure AuthorizeQuery where
  identifier : Option String
  redirectUri : Option String := none
  state : Option String := none
  scope : Option String := none
  nonce : Option String := none
  codeChallenge : Option String := none
  codeChallengeMethod : Option String := none
  deriving DecidableEq, Repr

inductive AuthRequest where
  | register (email password : String)
  | verifyOtp (email otp : String)
  | sendManualOtp (phone : String)
  | verifyManualOtp (phone otp : String)
  | sendDriverOtp (email : Option String)
  | verifyDriverOtp (email otp : String)
  | login (email password : String)
  | refresh (refreshToken : String)
  | forgotPassword (email : String)
  | resetPassword (email otp newPassword : String)
  | adminLogin (email password : String)
  | adminVerifyOtp (email otp : String)
  | authorizeOAuth (provider : String) (query : AuthorizeQuery)
  | exchangeOAuth (provider : String) (dto : ExchangeParams)
  | tokenOAuth (provider : String) (dto : ExchangeParams)
  deriving DecidableEq, Repr

variable (cfg : Config) (io : Io)

/-- A body that the validation pipe turns down. -/
def invalid (message : String) : Exn := .badRequest message

def validEmail (email : String) : Handler PUnit :=
  require (cfg.isEmail email = true) (invalid "email must be an email")

def validPassword (field password : String) : Handler PUnit :=
  require (8 ≤ password.toList.length)
    (invalid (field ++ " must be longer than or equal to 8 characters"))

def nonEmpty (field value : String) : Handler PUnit :=
  require (value ≠ "") (invalid (field ++ " should not be empty"))

def supportedProvider (provider : String) : Handler QCommerceProvider :=
  orThrow (QCommerceProvider.ofValue? (toLowerCase provider))
    (Exn.badRequest "Unsupported provider")

def loginDto (provider : QCommerceProvider) (query : AuthorizeQuery) (identifier : String) :
    LoginDto where
  provider := provider
  identifier := identifier
  redirectUri := some ((given query.redirectUri).getD "aegis://oauth-callback")
  state := query.state
  scope := query.scope
  nonce := query.nonce
  codeChallenge := query.codeChallenge
  codeChallengeMethod := query.codeChallengeMethod

def authorizeOAuth (provider : String) (query : AuthorizeQuery) : Handler Reply := do
  let provider ← supportedProvider provider
  let identifier ← orThrow (given query.identifier) (Exn.badRequest "Missing identifier")
  let dto := loginDto provider query identifier
  let session ← onRegistry (startOAuthLogin io.oauth dto)
  require (session.sessionId ≠ "" ∧ session.authCode ≠ "")
    (Exn.badRequest "OAuth session could not be initialized")
  pure (.authorized (dto.redirectUri.getD "") session.authCode session.sessionId session.state
    provider.value)

namespace AuthRequest

def handle : AuthRequest → Handler Reply
  | register email password => do
      validEmail cfg email
      validPassword "password" password
      AuthService.register cfg io email password
  | verifyOtp email otp => do
      validEmail cfg email
      AuthService.verifyOtp cfg io email otp
  | sendManualOtp phone => do
      nonEmpty "phone" phone
      startManualPhoneOtp cfg io phone
  | verifyManualOtp phone otp => do
      nonEmpty "phone" phone
      nonEmpty "otp" otp
      verifyManualPhoneOtp cfg io phone otp
  | sendDriverOtp email => startDriverLoginOtp cfg io email
  | verifyDriverOtp email otp => do
      validEmail cfg email
      verifyDriverLoginOtp cfg io email otp
  | login email password => do
      validEmail cfg email
      AuthService.login cfg io email password
  | refresh refreshToken => AuthService.refresh cfg io refreshToken
  | forgotPassword email => do
      validEmail cfg email
      AuthService.forgotPassword cfg io email
  | resetPassword email otp newPassword => do
      validEmail cfg email
      validPassword "newPassword" newPassword
      AuthService.resetPassword cfg io email otp newPassword
  | adminLogin email password => do
      validEmail cfg email
      AuthService.adminLogin cfg io email password
  | adminVerifyOtp email otp => do
      validEmail cfg email
      AuthService.adminVerifyOtp cfg io email otp
  | authorizeOAuth provider query => AuthService.authorizeOAuth io provider query
  | exchangeOAuth provider dto => do
      let provider ← supportedProvider provider
      require (dto.sessionId ≠ "" ∧ dto.code ≠ "") (Exn.badRequest "Missing OAuth session data")
      AuthService.exchangeOAuth cfg io provider { dto with scope := none, audience := none }
  | tokenOAuth provider dto => do
      let provider ← supportedProvider provider
      require (dto.sessionId ≠ "" ∧ dto.code ≠ "")
        (Exn.badRequest "Missing OAuth code exchange payload")
      exchangeOAuthToken cfg io provider dto

end AuthRequest

/-! ## Requests one after the other -/

structure AuthCall where
  request : AuthRequest
  io : Io

def AuthCall.run (call : AuthCall) (w : World) : Except Exn Reply × World :=
  call.request.handle cfg call.io { w with storeCalls := call.io.storeCalls }

/-- The reply to a request and the state it leaves. -/
def AuthCall.reply (call : AuthCall) (w : World) : Except Exn Reply := (call.run cfg w).1

def step (w : World) (call : AuthCall) : World := (call.run cfg w).2

end Aegis.AuthService
