import Aegis.Library.Run
import Aegis.Verification.Identity.Redemptions

/-! # What a code is bound to

A check is left out where its parameter is missing, and the callback has fewer parameters than the
exchange. -/

namespace Aegis.DynamicQCommerce

open Run JsString

/-! ## The law -/

inductive OAuthCall where
  | start (io : Io) (dto : LoginDto)
  | redeem (call : RedemptionCall)
  deriving DecidableEq

/-- The registry after a call. -/
def OAuthCall.run (cfg : Config) (r : Registry) : OAuthCall → Registry
  | .start io dto => (startOAuthLogin io dto r).2
  | .redeem (.exchange io provider params) => (exchangeAuthorizationCode cfg io provider params r).2
  | .redeem (.callback io dto) => (completeOAuthCallback cfg io dto r).2

section Law

variable (cfg : Config)

/-- The verifier belongs to the challenge of the session. -/
def Verifies (session : OAuthSessionState) (verifier challenge : String) : Prop :=
  if session.codeChallengeMethod.getD .S256 = .plain then verifier = challenge
  else cfg.challengeOf verifier = challenge

/-- What was presented for the session, and the scope of the access token if one was issued. -/
structure Bound (session : OAuthSessionState)
    (codeVerifier redirectUri state scope : Option String) :
    Prop where
  pkce : ∀ challenge ∈ given session.codeChallenge,
    ∃ verifier, codeVerifier = some verifier ∧ Verifies cfg session verifier challenge
  redirect : ∀ uri ∈ given session.redirectUri, redirectUri = some uri
  state : given state = some session.state
  scope : ∀ issued ∈ scope, words issued ⊆ words session.scope

/-- A redemption that succeeds was bound to the request of its session. -/
def BoundCall (r : Registry) : OAuthCall → Prop
  | .start .. => True
  | .redeem (.exchange io provider params) => ∀ session result,
      r.sessions params.sessionId = some session →
        (exchangeAuthorizationCode cfg io provider params r).1 = .ok result →
          Bound cfg session params.codeVerifier params.redirectUri params.state
            (some result.claims.scope)
  | .redeem (.callback io dto) => ∀ session profile,
      r.sessions dto.sessionId = some session →
        (completeOAuthCallback cfg io dto r).1 = .ok profile →
          Bound cfg session none none dto.state none

/-- An exchange that passes its checks gives the state, a redirect URI where the session has one,
and no scope beyond that of the session. -/
structure Complete (session : OAuthSessionState) (params : ExchangeParams) : Prop where
  redirect : (given session.redirectUri).isSome → (given params.redirectUri).isSome
  state : (given params.state).isSome
  scope : ∀ scope ∈ given (params.scope.map trim), words scope ⊆ words session.scope

/-- A callback that passes its checks gives the state and is for a session without a challenge or
a redirect URI. -/
structure Unbound (session : OAuthSessionState) (dto : CallbackDto) : Prop where
  challenge : given session.codeChallenge = none
  redirect : given session.redirectUri = none
  state : (given dto.state).isSome

def CompleteCall (r : Registry) : OAuthCall → Prop
  | .start .. => True
  | .redeem (.exchange io provider params) => ∀ session secret,
      Exchangeable cfg io provider params r session secret → Complete session params
  | .redeem (.callback io dto) => ∀ session, Admitted io dto r session → Unbound session dto

end Law

/-! ## One redemption -/

section Redemption

variable {cfg : Config} {session : OAuthSessionState}

/-- What the checks of an exchange amount to. -/
theorem check_eq_ok_iff {params : ExchangeParams} :
    session.check cfg params = .ok () ↔
      session.consumedAt = none ∧ session.authCode = params.code ∧
        (∀ state ∈ given params.state, state = session.state) ∧
        (∀ bound ∈ given session.redirectUri, ∀ uri ∈ given params.redirectUri, uri = bound) ∧
        validatePkce cfg session params.codeVerifier = .ok () := by
  simp only [OAuthSessionState.check, Outcome.bind_eq_ok, Outcome.require_eq_ok, exists_const]

theorem validatePkce_eq_ok_iff {codeVerifier : Option String} :
    validatePkce cfg session codeVerifier = .ok () ↔
      ∀ challenge ∈ given session.codeChallenge,
        ∃ verifier ∈ given codeVerifier, Verifies cfg session verifier challenge := by
  unfold validatePkce
  cases hchallenge : given session.codeChallenge with
  | none => simp
  | some challenge =>
      cases hverifier : given codeVerifier with
      | none => simp
      | some verifier =>
          simp only [Option.mem_def, Option.some.injEq, forall_eq', exists_eq_left', Verifies]
          split
          · exact Outcome.require_eq_ok
          · exact Outcome.require_eq_ok

theorem given_mem {s : Option String} {a : String} (h : a ∈ given s) : s = some a :=
  (Option.filter_eq_some_iff.mp h).1

/-- A value that must agree where it is given does so exactly if it is given. -/
theorem given_eq_some_iff {s : Option String} {a : String} (h : ∀ b ∈ given s, b = a) :
    given s = some a ↔ (given s).isSome := by
  constructor
  · intro heq
    rw [heq]
    rfl
  · intro hsome
    obtain ⟨b, hb⟩ := Option.isSome_iff_exists.mp hsome
    rw [hb, h b hb]

/-- The scope of the access token, for a session that has one. -/
theorem exchangeResult_scope (secret : String) (provider : QCommerceProvider)
    (params : ExchangeParams) (profile : StaticProfile) (hscope : session.scope ≠ "") :
    (exchangeResult cfg secret provider params session profile).claims.scope =
      (given (params.scope.map trim)).getD session.scope := by
  have hgiven : given (some session.scope) = some session.scope := by
    rw [given, Option.filter_some, if_pos (by simpa using hscope)]
  simp only [exchangeResult, hgiven, Option.getD_some]

/-- A successful exchange is bound exactly if it was complete. -/
theorem bound_exchange_iff {params : ExchangeParams} {secret : String}
    {provider : QCommerceProvider} {profile : StaticProfile} (hscope : session.scope ≠ "")
    (hcheck : session.check cfg params = .ok ()) :
    Bound cfg session params.codeVerifier params.redirectUri params.state
        (some (exchangeResult cfg secret provider params session profile).claims.scope) ↔
      Complete session params := by
  obtain ⟨-, -, hstate, hredirect, hpkce⟩ := check_eq_ok_iff.mp hcheck
  rw [exchangeResult_scope secret provider params profile hscope]
  constructor
  · intro h
    refine ⟨fun hbound => ?_, (given_eq_some_iff hstate).mp h.state, fun scope hgiven => ?_⟩
    · obtain ⟨uri, huri⟩ := Option.isSome_iff_exists.mp hbound
      rw [h.redirect uri huri, given, Option.filter_some, if_pos]
      · rfl
      · exact (Option.filter_eq_some_iff.mp huri).2
    · have hissued := h.scope _ rfl
      rwa [Option.mem_def.mp hgiven] at hissued
  · intro h
    refine ⟨fun challenge hchallenge => ?_, fun uri huri => ?_, ?_, ?_⟩
    · obtain ⟨verifier, hgiven, hverifies⟩ := validatePkce_eq_ok_iff.mp hpkce challenge hchallenge
      exact ⟨verifier, given_mem hgiven, hverifies⟩
    · obtain ⟨presented, hpresented⟩ :=
        Option.isSome_iff_exists.mp (h.redirect (by rw [Option.mem_def.mp huri]; rfl))
      rw [given_mem hpresented, hredirect uri huri presented hpresented]
    · exact (given_eq_some_iff hstate).mpr h.state
    · rintro issued ⟨⟩
      cases hgiven : given (params.scope.map trim) with
      | none => exact List.Subset.refl _
      | some scope => exact h.scope scope hgiven

/-- A successful callback is bound exactly if there was nothing else to present. -/
theorem bound_callback_iff {dto : CallbackDto}
    (hstate : ∀ state ∈ given dto.state, state = session.state) :
    Bound cfg session none none dto.state none ↔ Unbound session dto := by
  constructor
  · intro h
    refine ⟨?_, ?_, (given_eq_some_iff hstate).mp h.state⟩
    · rw [Option.eq_none_iff_forall_not_mem]
      intro challenge hchallenge
      obtain ⟨verifier, hnone, -⟩ := h.pkce challenge hchallenge
      cases hnone
    · rw [Option.eq_none_iff_forall_not_mem]
      intro uri huri
      cases h.redirect uri huri
  · intro h
    exact ⟨by simp [h.challenge], by simp [h.redirect], (given_eq_some_iff hstate).mpr h.state,
      nofun⟩

end Redemption

/-! ## Whole runs -/

section Runs

variable {cfg : Config} {r : Registry}

/-- Every session has a scope. -/
def Scoped (r : Registry) : Prop := ∀ id session, r.sessions id = some session → session.scope ≠ ""

theorem Scoped.empty : Scoped Registry.empty := by
  intro id session h
  cases h

theorem newSession_scope (io : Io) (dto : LoginDto) : (newSession io dto).scope ≠ "" := by
  change (given (dto.scope.map trim)).getD DEFAULT_OAUTH_SCOPE ≠ ""
  cases hgiven : given (dto.scope.map trim) with
  | none => decide
  | some scope => simpa using (Option.filter_eq_some_iff.mp hgiven).2

theorem Scoped.shrinks {r' : Registry} (hr : Scoped r) (h : Shrinks r r') : Scoped r' :=
  fun id session hsession => hr id session (h id session hsession)

theorem Scoped.start (hr : Scoped r) (io : Io) (dto : LoginDto) :
    Scoped (startOAuthLogin io dto r).2 := by
  simp only [startOAuthLogin]
  unfold Action.require
  split
  · rw [Action.bind_of_ok (m := (pure _ : Service PUnit)) rfl]
    split
    · intro id session h
      change Function.update r.sessions io.sessionId (some (newSession io dto)) id = _ at h
      by_cases hid : id = io.sessionId
      · subst hid
        rw [Function.update_self] at h
        obtain rfl := Option.some.inj h
        exact newSession_scope io dto
      · rw [Function.update_of_ne hid] at h
        exact hr id session h
    · exact hr
  · exact hr

theorem Scoped.mark (hr : Scoped r) (now : ℤ) (sessionId : String) :
    Scoped { r with sessions := DynamicQCommerce.mark now sessionId r.sessions } := by
  intro id session h
  change Function.update _ _ _ id = _ at h
  by_cases hid : id = sessionId
  · subst hid
    rw [Function.update_self, Option.map_eq_some_iff] at h
    obtain ⟨found, hfound, rfl⟩ := h
    exact hr id found hfound
  · rw [Function.update_of_ne hid] at h
    exact hr id session h

theorem Scoped.exchange (hr : Scoped r) (io : Io) (provider : QCommerceProvider)
    (params : ExchangeParams) : Scoped (exchangeAuthorizationCode cfg io provider params r).2 := by
  rw [exchangeAuthorizationCode_eq]
  by_cases h : ∃ session secret, Exchangeable cfg io provider params r session secret
  · obtain ⟨session, secret, hmet⟩ := h
    rw [beginExchange_of_exchangeable hmet]
    exact Scoped.mark (r := r.ensured cfg session) hr io.now params.sessionId
  · push Not at h
    obtain ⟨e, r', hrun, hshrinks⟩ := beginExchange_of_not h
    rw [hrun]
    exact hr.shrinks hshrinks

theorem Scoped.callback (hr : Scoped r) (io : Io) (dto : CallbackDto) :
    Scoped (completeOAuthCallback cfg io dto r).2 := by
  by_cases h : ∃ session, Admitted io dto r session
  · obtain ⟨session, hadmitted⟩ := h
    rw [completeOAuthCallback_of_admitted cfg hadmitted]
    exact hr.shrinks (Shrinks.forget r dto.sessionId)
  · push Not at h
    obtain ⟨e, r', hrun, hshrinks⟩ := completeOAuthCallback_of_not cfg h
    rw [hrun]
    exact hr.shrinks hshrinks

theorem Scoped.run (hr : Scoped r) (call : OAuthCall) : Scoped (call.run cfg r) := by
  match call with
  | .start io dto => exact hr.start io dto
  | .redeem (.exchange io provider params) => exact hr.exchange io provider params
  | .redeem (.callback io dto) => exact hr.callback io dto

theorem boundCall_iff (hr : Scoped r) (call : OAuthCall) :
    BoundCall cfg r call ↔ CompleteCall cfg r call := by
  match call with
  | .start io dto => exact Iff.rfl
  | .redeem (.exchange io provider params) =>
      simp only [BoundCall, CompleteCall]
      constructor
      · intro h session secret hmet
        exact (bound_exchange_iff (hr _ _ hmet.mem) hmet.check).mp
          (h session _ hmet.mem
            (exchangeAuthorizationCode_eq_ok_iff.mpr ⟨session, secret, hmet, rfl⟩))
      · intro h session result hsession hok
        obtain ⟨session', secret, hmet, rfl⟩ := exchangeAuthorizationCode_eq_ok_iff.mp hok
        obtain rfl := Option.some.inj (hmet.mem.symm.trans hsession)
        exact (bound_exchange_iff (hr _ _ hsession) hmet.check).mpr (h _ secret hmet)
  | .redeem (.callback io dto) =>
      simp only [BoundCall, CompleteCall]
      constructor
      · intro h session hadmitted
        obtain ⟨profile, hok⟩ := (completeOAuthCallback_eq_ok_iff cfg).mpr ⟨session, hadmitted⟩
        exact (bound_callback_iff hadmitted.state).mp (h session profile hadmitted.mem hok)
      · intro h session profile hsession hok
        obtain ⟨session', hadmitted⟩ := (completeOAuthCallback_eq_ok_iff cfg).mp ⟨profile, hok⟩
        obtain rfl := Option.some.inj (hadmitted.mem.symm.trans hsession)
        exact (bound_callback_iff hadmitted.state).mpr (h _ hadmitted)

end Runs

/-- In every run, the redemptions that succeed are bound to their requests if and only if those
that pass their checks leave nothing out. -/
theorem along_boundCall_iff (cfg : Config) (calls : List OAuthCall) :
    Along (OAuthCall.run cfg) (BoundCall cfg) Registry.empty calls ↔
      Along (OAuthCall.run cfg) (CompleteCall cfg) Registry.empty calls :=
  along_iff_of_inv (fun _ call hr => boundCall_iff hr call) (fun _ call hr _ => Scoped.run hr call)
    Scoped.empty

namespace Unbinding

def cfg : Config where
  eliteOauthIssuer := none
  eliteOauthJwtSecret := none
  jwtSecret := some "secret"
  createAnchorFromString := fun _ => 1
  challengeOf := id

def io : Io where
  now := 0
  sessionId := "session-1"
  state := "state-1"
  authCode := "code-1"

/-- A session with a challenge, a redirect URI and a narrow scope. -/
def login : LoginDto where
  provider := .ZEPTO
  identifier := "9876543210"
  redirectUri := some "zepto://callback"
  scope := some "profile"
  codeChallenge := some "E9Melhoa2OwvFrEMTJguCHaoeK1t8URWbuGJSstw-cM"

/-- The state and the redirect URI are left out, and the scope is a wider one. -/
def exchange : List OAuthCall :=
  [.start io login, .redeem (.exchange io .ZEPTO
    { sessionId := "session-1", code := "code-1", scope := some "profile admin"
      codeVerifier := some "E9Melhoa2OwvFrEMTJguCHaoeK1t8URWbuGJSstw-cM" })]

/-- Nothing is presented but the code. -/
def callback : List OAuthCall :=
  [.start io login,
    .redeem (.callback io { provider := .ZEPTO, sessionId := "session-1", code := "code-1" })]

end Unbinding

open Unbinding in
/-- A code is redeemed without the state and for more than the scope of its session, and on the
other route without the verifier. -/
theorem not_along_boundCall :
    ¬Along (OAuthCall.run cfg) (BoundCall cfg) Registry.empty exchange ∧
      ¬Along (OAuthCall.run cfg) (BoundCall cfg) Registry.empty callback := by
  have hscoped : Scoped ((OAuthCall.start io login).run cfg Registry.empty) :=
    Scoped.run Scoped.empty _
  constructor
  · rintro ⟨-, hbound, -⟩
    have hcomplete := (boundCall_iff hscoped _).mp hbound (newSession io login) "secret"
      ⟨⟨by decide, by decide⟩, rfl, rfl⟩
    exact absurd hcomplete.state (by decide)
  · rintro ⟨-, hbound, -⟩
    have hunbound := (boundCall_iff hscoped _).mp hbound (newSession io login)
      ⟨⟨by decide, by decide⟩, rfl, by decide⟩
    exact absurd hunbound.challenge (by decide)

end Aegis.DynamicQCommerce
