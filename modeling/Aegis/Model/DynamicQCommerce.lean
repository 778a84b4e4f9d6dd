import Aegis.Library.Action
import Aegis.Model.Premium
import Mathlib.Logic.Function.Basic

/-! # Provider sessions and driver profiles

The OAuth part of `DynamicQCommerceService` with `deterministic-random.util.ts` and the
identity half of `dynamic-data.factory.ts`. Sessions and profiles live in memory. -/

namespace Aegis.DynamicQCommerce

open JsString PremiumService

inductive QCommerceProvider where
  | ZEPTO
  | BLINKIT
  | INSTAMART
  | BIGBASKET
  | JIOMART
  | AEGIS
  deriving DecidableEq, Repr

namespace QCommerceProvider

def value : QCommerceProvider → String
  | ZEPTO => "zepto"
  | BLINKIT => "blinkit"
  | INSTAMART => "instamart"
  | BIGBASKET => "bigbasket"
  | JIOMART => "jiomart"
  | AEGIS => "aegis"

def values : List QCommerceProvider := [ZEPTO, BLINKIT, INSTAMART, BIGBASKET, JIOMART, AEGIS]

def ofValue? (s : String) : Option QCommerceProvider := values.find? fun p => p.value = s

theorem map_value_values : values.map value = Eligibility.oauthProviders := rfl

end QCommerceProvider

/-! ## Deterministic randomness -/

structure DeterministicRandom where
  state : ℕ
  deriving DecidableEq, Repr

namespace DeterministicRandom

def ofAnchor (anchor : ℕ) : DeterministicRandom :=
  let state := anchor % 2147483647
  ⟨if state = 0 then state + 2147483646 else state⟩

def next (random : DeterministicRandom) : DeterministicRandom :=
  ⟨random.state * 16807 % 2147483647⟩

/-- `Math.floor(this.nextFloat() * range) + min`. -/
def nextInt (random : DeterministicRandom) (min max : ℕ) : ℕ × DeterministicRandom :=
  if max ≤ min then (min, random)
  else ((random.next.state - 1) * (max - min + 1) / 2147483646 + min, random.next)

def pick (random : DeterministicRandom) (items : List String) : String × DeterministicRandom :=
  let draw := random.nextInt 0 (items.length - 1)
  (items.getD draw.1 "", draw.2)

end DeterministicRandom

/-! ## Driver profiles -/

structure Identity where
  internalDriverId : String
  provider : QCommerceProvider
  fullName : String
  email : String
  deriving DecidableEq, Repr

structure StaticProfile where
  identity : Identity
  kycVerified : Bool
  deriving DecidableEq, Repr

structure DriverRecord where
  provider : QCommerceProvider
  identifier : String
  internalDriverId : String
  staticProfile : StaticProfile
  deriving DecidableEq, Repr

def NAME_SETS : QCommerceProvider → List String
  | .ZEPTO => ["Pranav N", "Aadarsh Singh", "Kumar Ajith", "Lakshmi Rao"]
  | .BLINKIT => ["Rajat Mishra", "Nikita Sharma", "Gaurav Bansal", "Prerna Malik"]
  | .INSTAMART => ["Sai Karthik", "Meera Iyer", "Shravan Gupta", "Rekha Menon"]
  | .BIGBASKET => ["Abdul Rahman", "Kavya Shetty", "Vinay Kulkarni", "Sneha Patil"]
  | .JIOMART => ["Jignesh Patel", "Bhavna R", "Ankit Desai", "Harish Bhatt"]
  | .AEGIS => ["Aegis Test User", "Alpha Driver", "Bravo Runner", "Charlie Hero"]

def CITY_BLUEPRINTS : List String := ["Bengaluru", "Mumbai", "Hyderabad", "Delhi NCR"]

/-- Every city has four dark stores. -/
def DARK_STORES : ℕ := 4

def firstName (fullName : String) : String :=
  String.ofList (fullName.toList.takeWhile (· ≠ ' '))

def generateIdentity (provider : QCommerceProvider) (identifier internalDriverId : String)
    (random : DeterministicRandom) : Identity :=
  let (_, random) := random.pick CITY_BLUEPRINTS
  let (_, random) := random.nextInt 0 (DARK_STORES - 1)
  let (fullName, _) := random.pick (NAME_SETS provider)
  { internalDriverId
    provider
    fullName
    email :=
      if '@' ∈ identifier.toList then identifier
      else toLowerCase (firstName fullName) ++ "@" ++ provider.value ++ ".partner" }

/-- `createAnchorFromString` hashes its input. -/
def buildStaticProfileParts (createAnchorFromString : String → ℕ) (provider : QCommerceProvider)
    (identifier internalDriverId : String) : StaticProfile :=
  let anchor := createAnchorFromString (provider.value ++ ":" ++ identifier)
  { identity := generateIdentity provider identifier internalDriverId (.ofAnchor anchor)
    kycVerified := true }

/-! ## Sessions -/

inductive PkceMethod where
  | S256
  | plain
  deriving DecidableEq, Repr

structure OAuthSessionState where
  sessionId : String
  provider : QCommerceProvider
  identifier : String
  redirectUri : Option String
  scope : String
  nonce : Option String
  codeChallenge : Option String
  codeChallengeMethod : Option PkceMethod
  state : String
  authCode : String
  createdAt : ℤ
  expiresAt : ℤ
  consumedAt : Option ℤ
  deriving DecidableEq, Repr

/-- What the service keeps in memory. -/
structure Registry where
  sessions : String → Option OAuthSessionState
  driverRecords : String → Option DriverRecord

def Registry.empty : Registry := ⟨fun _ => none, fun _ => none⟩

structure OAuthTokenClaims where
  sub : String
  email : String
  name : String
  provider : QCommerceProvider
  scope : String
  nonce : Option String
  deriving DecidableEq, Repr

/-- The environment and the hash functions of `crypto`. -/
structure Config where
  eliteOauthIssuer : Option String
  eliteOauthJwtSecret : Option String
  jwtSecret : Option String
  createAnchorFromString : String → ℕ
  /-- `base64UrlEncode` of the SHA-256 digest. -/
  challengeOf : String → String

/-- The clock and the random identifiers of one request. -/
structure Io where
  now : ℤ
  sessionId : String
  state : String
  authCode : String
  deriving DecidableEq, Repr

abbrev Service := Action Registry Exn

section Service

open Aegis.Action

variable (cfg : Config) (io : Io)

def DEFAULT_OAUTH_SCOPE : String := "openid profile email"

def DEFAULT_OAUTH_AUDIENCE : String := "aegis-backend"

/-- An optional text that is neither missing nor empty. -/
def given (s : Option String) : Option String := s.filter (· ≠ "")

structure LoginDto where
  provider : QCommerceProvider
  identifier : String
  redirectUri : Option String := none
  state : Option String := none
  scope : Option String := none
  nonce : Option String := none
  codeChallenge : Option String := none
  codeChallengeMethod : Option String := none
  deriving DecidableEq, Repr

def newSession (dto : LoginDto) : OAuthSessionState where
  sessionId := io.sessionId
  provider := dto.provider
  identifier := trim dto.identifier
  redirectUri := dto.redirectUri
  scope := (given (dto.scope.map trim)).getD DEFAULT_OAUTH_SCOPE
  nonce := dto.nonce
  codeChallenge := dto.codeChallenge
  codeChallengeMethod := (given dto.codeChallenge).map fun _ =>
    if toLowerCase (trim (dto.codeChallengeMethod.getD "S256")) = "plain" then .plain else .S256
  state := (given (dto.state.map trim)).getD io.state
  authCode := io.authCode
  createdAt := io.now
  expiresAt := io.now + 5 * 60 * 1000
  consumedAt := none

def startOAuthLogin (dto : LoginDto) : Service OAuthSessionState := do
  let rawLower := toLowerCase (trim (dto.codeChallengeMethod.getD "S256"))
  require (given dto.codeChallenge = none ∨ rawLower = "s256" ∨ rawLower = "plain")
    (Exn.badRequest "Unsupported code_challenge_method; use S256 or plain")
  require (∀ challenge ∈ given dto.codeChallenge, 43 ≤ length challenge)
    (Exn.badRequest "Invalid code_challenge length for PKCE")
  let session := newSession io dto
  fun registry =>
    (.ok session,
      { registry with sessions := Function.update registry.sessions io.sessionId (some session) })

structure ExchangeParams where
  sessionId : String
  code : String
  state : Option String := none
  redirectUri : Option String := none
  codeVerifier : Option String := none
  scope : Option String := none
  audience : Option String := none
  deriving DecidableEq, Repr

def validatePkce (session : OAuthSessionState) (codeVerifier : Option String) :
    Except Exn Unit := do
  match given session.codeChallenge with
  | none => pure ()
  | some challenge =>
      match given codeVerifier with
      | none => throw (.unauthorized "Missing code_verifier for PKCE protected authorization code")
      | some verifier =>
          if session.codeChallengeMethod.getD .S256 = .plain then
            Outcome.require (verifier = challenge) (.unauthorized "Invalid code_verifier")
          else
            Outcome.require (cfg.challengeOf verifier = challenge)
              (.unauthorized "Invalid code_verifier")

/-- What a live session demands of the party that redeems it. -/
def OAuthSessionState.check (session : OAuthSessionState) (params : ExchangeParams) :
    Except Exn Unit := do
  Outcome.require (session.consumedAt = none)
    (.unauthorized "Authorization code already consumed")
  Outcome.require (session.authCode = params.code)
    (.unauthorized "Invalid provider authorization code")
  Outcome.require (∀ state ∈ given params.state, state = session.state)
    (.unauthorized "State verification failed")
  Outcome.require
    (∀ bound ∈ given session.redirectUri, ∀ uri ∈ given params.redirectUri, uri = bound)
    (.unauthorized "redirect_uri mismatch")
  validatePkce cfg session params.codeVerifier

/-- The session under an id, if it belongs to the provider. -/
def Registry.sessionOf (registry : Registry) (provider : QCommerceProvider) (sessionId : String) :
    Option OAuthSessionState :=
  (registry.sessions sessionId).filter fun session => session.provider = provider

def newDriverRecord (provider : QCommerceProvider) (identifier : String) : DriverRecord where
  provider := provider
  identifier := identifier
  internalDriverId := createInternalDriverId provider.value identifier
  staticProfile := buildStaticProfileParts cfg.createAnchorFromString provider identifier
    (createInternalDriverId provider.value identifier)

/-- The record that `ensureDriverRecord` returns. -/
def Registry.driverRecord (registry : Registry) (provider : QCommerceProvider)
    (identifier : String) : DriverRecord :=
  (registry.driverRecords (createInternalDriverId provider.value identifier)).getD
    (newDriverRecord cfg provider identifier)

def ensureDriverRecord (provider : QCommerceProvider) (identifier : String) :
    Service DriverRecord := fun registry =>
  let record := registry.driverRecord cfg provider identifier
  (.ok record,
    { registry with
      driverRecords := Function.update registry.driverRecords
        (createInternalDriverId provider.value identifier) (some record) })

/-- The live session that a request names; one that has expired is forgotten. -/
def liveSession (provider : QCommerceProvider) (sessionId : String) :
    Service OAuthSessionState := fun registry =>
  match registry.sessionOf provider sessionId with
  | none => (.error (.notFound "OAuth session not found or provider mismatch"), registry)
  | some session =>
      if session.expiresAt < io.now then
        (.error (.unauthorized "OAuth session expired"),
          { registry with sessions := Function.update registry.sessions sessionId none })
      else (.ok session, registry)

def resolveOauthSecret : Option String :=
  given (cfg.eliteOauthJwtSecret <|> cfg.jwtSecret)

def resolveOauthIssuer (provider : QCommerceProvider) : String :=
  cfg.eliteOauthIssuer.getD ("https://elite-oauth." ++ provider.value ++ ".aegis.local")

structure ExchangeResult where
  secret : String
  claims : OAuthTokenClaims
  issuer : String
  audience : String
  /-- An id token is issued with the scope `openid`. -/
  openid : Bool
  driverProfile : StaticProfile
  deriving DecidableEq, Repr

def exchangeResult (secret : String) (provider : QCommerceProvider) (params : ExchangeParams)
    (session : OAuthSessionState) (profile : StaticProfile) : ExchangeResult :=
  let scope := (given (params.scope.map trim)).getD
    ((given (some session.scope)).getD DEFAULT_OAUTH_SCOPE)
  { secret
    claims :=
      { sub := profile.identity.internalDriverId
        email := profile.identity.email
        name := profile.identity.fullName
        provider
        scope
        nonce := session.nonce }
    issuer := resolveOauthIssuer cfg provider
    audience := (given (params.audience.map trim)).getD DEFAULT_OAUTH_AUDIENCE
    openid := "openid" ∈ words scope
    driverProfile := profile }

def exchangeAuthorizationCode (provider : QCommerceProvider) (params : ExchangeParams) :
    Service ExchangeResult := do
  let session ← liveSession io provider params.sessionId
  lift (session.check cfg params)
  let record ← ensureDriverRecord cfg session.provider session.identifier
  let secret ← orThrow (resolveOauthSecret cfg)
    (Exn.error "JWT signing secret absent: elite token issuance boundary enforced")
  fun registry =>
    (.ok (exchangeResult cfg secret provider params session record.staticProfile),
      { registry with
        sessions := Function.update registry.sessions params.sessionId
          (some { session with consumedAt := some io.now }) })

structure CallbackDto where
  provider : QCommerceProvider
  sessionId : String
  code : String
  state : Option String := none
  deriving DecidableEq, Repr

def completeOAuthCallback (dto : CallbackDto) : Service StaticProfile := do
  let session ← liveSession io dto.provider dto.sessionId
  require (session.authCode = dto.code)
    (Exn.unauthorized "Invalid provider authorization code")
  require (∀ state ∈ given dto.state, state = session.state)
    (Exn.unauthorized "State verification failed")
  let record ← ensureDriverRecord cfg session.provider session.identifier
  fun registry =>
    (.ok record.staticProfile,
      { registry with sessions := Function.update registry.sessions dto.sessionId none })

end Service

end Aegis.DynamicQCommerce

/-! ## Overlapping redemptions

Every call of `exchangeAuthorizationCode` and of `completeOAuthCallback` on an OAuth session is a
thread. The callback has no await; an exchange awaits its signatures and marks the session object
that it has read before. -/

namespace Aegis.DynamicQCommerce

inductive RedemptionCall where
  | exchange (io : Io) (provider : QCommerceProvider) (params : ExchangeParams)
  | callback (io : Io) (dto : CallbackDto)
  deriving DecidableEq

/-- The part of an exchange before its first await, with the tokens to be signed. -/
def beginExchange (cfg : Config) (io : Io) (provider : QCommerceProvider)
    (params : ExchangeParams) :
    Service ExchangeResult := do
  let session ← liveSession io provider params.sessionId
  Action.lift (session.check cfg params)
  let record ← ensureDriverRecord cfg session.provider session.identifier
  let secret ← Action.orThrow (resolveOauthSecret cfg)
    (Exn.error "JWT signing secret absent: elite token issuance boundary enforced")
  pure (exchangeResult cfg secret provider params session record.staticProfile)

inductive RedemptionPc where
  | start
  | signingAccess (result : ExchangeResult)
  | signingId (result : ExchangeResult)
  | exchanged (result : ExchangeResult)
  | calledBack (profile : StaticProfile)
  | failed (error : Exn)
  deriving DecidableEq

/-- The sessions that requests find, and the session objects whether they are still found. -/
structure Redemptions (τ : Type) where
  registry : Registry
  objects : String → Option OAuthSessionState
  pc : τ → RedemptionPc := fun _ => .start

/-- The thread that goes on, at which time, and whether the signature it waits for succeeds. -/
structure Turn (τ : Type) where
  thread : τ
  now : ℤ
  signs : Bool
  deriving DecidableEq

/-- `session.consumedAt = new Date()`. -/
def mark (now : ℤ) (sessionId : String) (sessions : String → Option OAuthSessionState) :
    String → Option OAuthSessionState :=
  Function.update sessions sessionId
    ((sessions sessionId).map fun session => { session with consumedAt := some now })

namespace Redemptions

variable {τ : Type} [DecidableEq τ]

def goTo (s : Redemptions τ) (t : τ) (pc : RedemptionPc) : Redemptions τ :=
  { s with pc := Function.update s.pc t pc }

def finishExchange (s : Redemptions τ) (t : τ) (now : ℤ) (sessionId : String)
    (result : ExchangeResult) : Redemptions τ :=
  { s with
    registry := { s.registry with sessions := mark now sessionId s.registry.sessions }
    objects := mark now sessionId s.objects }.goTo t (.exchanged result)

/-- What `jwt.signAsync` rejects with. -/
def signingError : Exn := .error "signing failed"

def step (cfg : Config) (calls : τ → RedemptionCall) (s : Redemptions τ) (turn : Turn τ) :
    Redemptions τ :=
  let t := turn.thread
  match calls t, s.pc t with
  | .exchange io provider params, .start =>
      match beginExchange cfg io provider params s.registry with
      | (.ok result, registry) => { s with registry }.goTo t (.signingAccess result)
      | (.error e, registry) => { s with registry }.goTo t (.failed e)
  | .exchange _ _ params, .signingAccess result =>
      if turn.signs then
        if result.openid then s.goTo t (.signingId result)
        else s.finishExchange t turn.now params.sessionId result
      else s.goTo t (.failed signingError)
  | .exchange _ _ params, .signingId result =>
      if turn.signs then s.finishExchange t turn.now params.sessionId result
      else s.goTo t (.failed signingError)
  | .callback io dto, .start =>
      match completeOAuthCallback cfg io dto s.registry with
      | (.ok profile, registry) => { s with registry }.goTo t (.calledBack profile)
      | (.error e, registry) => { s with registry }.goTo t (.failed e)
  | _, _ => s

/-- No call has been made yet on the session that `startOAuthLogin` creates. -/
def init (io : Io) (dto : LoginDto) (driverRecords : String → Option DriverRecord) :
    Redemptions τ :=
  let registry := (startOAuthLogin io dto ⟨fun _ => none, driverRecords⟩).2
  { registry, objects := registry.sessions }

end Redemptions

end Aegis.DynamicQCommerce
