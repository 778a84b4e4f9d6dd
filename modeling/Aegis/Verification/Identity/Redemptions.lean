import Aegis.Library.Outcome
import Aegis.Model.DynamicQCommerce

/-! # What a redemption checks

An attempt to redeem a code either meets all checks of its route on a session that is found, or it
fails and forgets a session at most. -/

namespace Aegis.DynamicQCommerce

open Aegis.Action

/-- Sessions are forgotten at most. -/
def Shrinks (r r' : Registry) : Prop :=
  ∀ sessionId session, r'.sessions sessionId = some session → r.sessions sessionId = some session

theorem Shrinks.refl (r : Registry) : Shrinks r r := fun _ _ h => h

theorem Shrinks.of_eq {r r' : Registry} (h : r'.sessions = r.sessions) : Shrinks r r' :=
  fun _ _ hsession => h ▸ hsession

theorem Shrinks.forget (r : Registry) (sessionId : String) :
    Shrinks r { r with sessions := Function.update r.sessions sessionId none } := by
  intro other session h
  by_cases heq : other = sessionId
  · subst heq
    simp at h
  · simpa [Function.update_of_ne heq] using h

section Live

variable (io : Io) (provider : QCommerceProvider) (sessionId : String) (r : Registry)

/-- The session that a request is about. -/
structure Found (session : OAuthSessionState) : Prop where
  found : r.sessionOf provider sessionId = some session
  live : ¬session.expiresAt < io.now

variable {io provider sessionId r}

theorem Found.mem {session : OAuthSessionState} (h : Found io provider sessionId r session) :
    r.sessions sessionId = some session :=
  (Option.filter_eq_some_iff.mp h.found).1

theorem Found.unique {session session' : OAuthSessionState}
    (h : Found io provider sessionId r session) (h' : Found io provider sessionId r session') :
    session' = session :=
  Option.some.inj (h'.found.symm.trans h.found)

theorem liveSession_of_found {session : OAuthSessionState}
    (h : Found io provider sessionId r session) :
    liveSession io provider sessionId r = (.ok session, r) := by
  simp only [liveSession, h.found, h.live, if_false]

variable (io provider sessionId r)

theorem liveSession_cases :
    (∃ session, Found io provider sessionId r session ∧
      liveSession io provider sessionId r = (.ok session, r)) ∨
    ((¬∃ session, Found io provider sessionId r session) ∧
      ∃ e r', liveSession io provider sessionId r = (.error e, r') ∧ Shrinks r r') := by
  cases hfound : r.sessionOf provider sessionId with
  | none =>
      refine .inr ⟨?_, _, r, by rw [liveSession, hfound], .refl r⟩
      rintro ⟨session, h⟩
      simp [h.found] at hfound
  | some session =>
      by_cases hlive : session.expiresAt < io.now
      · refine .inr ⟨?_, _, _, by simp only [liveSession, hfound, hlive, if_true]; rfl, .forget r _⟩
        rintro ⟨session', h⟩
        obtain rfl := Option.some.inj (h.found.symm.trans hfound)
        exact h.live hlive
      · exact .inl ⟨session, ⟨hfound, hlive⟩, liveSession_of_found ⟨hfound, hlive⟩⟩

end Live

/-! ## The token exchange -/

section Exchange

variable (cfg : Config) (io : Io) (provider : QCommerceProvider) (params : ExchangeParams)
  (r : Registry)

/-- Everything that an exchange requires. -/
structure Exchangeable (session : OAuthSessionState) (secret : String) : Prop
    extends Found io provider params.sessionId r session where
  check : session.check cfg params = .ok ()
  secret : resolveOauthSecret cfg = some secret

/-- The registry with the driver's record. -/
def Registry.ensured (session : OAuthSessionState) : Registry :=
  { r with
    driverRecords := Function.update r.driverRecords
      (PremiumService.createInternalDriverId session.provider.value session.identifier)
      (some (r.driverRecord cfg session.provider session.identifier)) }

variable {cfg io provider params r}

theorem beginExchange_of_exchangeable {session : OAuthSessionState} {secret : String}
    (h : Exchangeable cfg io provider params r session secret) :
    beginExchange cfg io provider params r =
      (.ok (exchangeResult cfg secret provider params session
        (r.driverRecord cfg session.provider session.identifier).staticProfile),
        r.ensured cfg session) := by
  unfold beginExchange
  rw [bind_of_ok (liveSession_of_found h.toFound), h.check, lift_ok_bind,
    bind_of_ok (m := ensureDriverRecord cfg _ _) rfl, h.secret]
  rfl

theorem beginExchange_of_not
    (h : ∀ session secret, ¬Exchangeable cfg io provider params r session secret) :
    ∃ e r', beginExchange cfg io provider params r = (.error e, r') ∧ Shrinks r r' := by
  unfold beginExchange
  rcases liveSession_cases io provider params.sessionId r with
    ⟨session, hfound, hlive⟩ | ⟨-, e, r', hlive, hshrinks⟩
  · rw [bind_of_ok hlive]
    cases hcheck : session.check cfg params with
    | error e => exact ⟨e, r, bind_of_error rfl, .refl r⟩
    | ok _ =>
        rw [lift_ok_bind, bind_of_ok (m := ensureDriverRecord cfg _ _) rfl]
        cases hsecret : resolveOauthSecret cfg with
        | none => exact ⟨_, _, bind_of_error rfl, .of_eq rfl⟩
        | some secret => exact absurd ⟨hfound, hcheck, hsecret⟩ (h session secret)
  · exact ⟨e, r', bind_of_error hlive, hshrinks⟩

/-- The exchange in one piece: it marks the session once the tokens are signed. -/
theorem exchangeAuthorizationCode_eq :
    exchangeAuthorizationCode cfg io provider params r =
      match beginExchange cfg io provider params r with
      | (.ok result, r') =>
          (.ok result, { r' with sessions := mark io.now params.sessionId r'.sessions })
      | (.error e, r') => (.error e, r') := by
  unfold exchangeAuthorizationCode beginExchange
  rcases liveSession_cases io provider params.sessionId r with
    ⟨session, hfound, hlive⟩ | ⟨-, e, r', hlive, -⟩
  · rw [bind_of_ok hlive, bind_of_ok hlive]
    cases hcheck : session.check cfg params with
    | error e => rfl
    | ok _ =>
        rw [lift_ok_bind, lift_ok_bind, bind_of_ok (m := ensureDriverRecord cfg _ _) rfl,
          bind_of_ok (m := ensureDriverRecord cfg _ _) rfl]
        cases hsecret : resolveOauthSecret cfg with
        | none => rfl
        | some secret =>
            change (_, _) = (_, _)
            simp only [mark, hfound.mem, Option.map_some]
  · rw [bind_of_error hlive, bind_of_error hlive]

/-- An exchange succeeds exactly where everything is met. -/
theorem exchangeAuthorizationCode_eq_ok_iff {result : ExchangeResult} :
    (exchangeAuthorizationCode cfg io provider params r).1 = .ok result ↔
      ∃ session secret, Exchangeable cfg io provider params r session secret ∧
        result = exchangeResult cfg secret provider params session
          (r.driverRecord cfg session.provider session.identifier).staticProfile := by
  rw [exchangeAuthorizationCode_eq]
  by_cases h : ∃ session secret, Exchangeable cfg io provider params r session secret
  · obtain ⟨session, secret, hmet⟩ := h
    rw [beginExchange_of_exchangeable hmet]
    constructor
    · rintro ⟨⟩
      exact ⟨session, secret, hmet, rfl⟩
    · rintro ⟨session', secret', hmet', rfl⟩
      obtain rfl := hmet.unique hmet'.toFound
      obtain rfl := Option.some.inj (hmet.secret.symm.trans hmet'.secret)
      rfl
  · push Not at h
    obtain ⟨e, r', hrun, -⟩ := beginExchange_of_not h
    rw [hrun]
    exact iff_of_false nofun fun ⟨session, secret, hmet, _⟩ => h session secret hmet

end Exchange

/-! ## The callback -/

section Callback

variable (io : Io) (dto : CallbackDto) (r : Registry)

/-- Everything that the callback requires. -/
structure Admitted (session : OAuthSessionState) : Prop
    extends Found io dto.provider dto.sessionId r session where
  code : session.authCode = dto.code
  state : ∀ state ∈ given dto.state, state = session.state

variable {io dto r} (cfg : Config)

theorem completeOAuthCallback_of_admitted {session : OAuthSessionState}
    (h : Admitted io dto r session) :
    completeOAuthCallback cfg io dto r =
      (.ok (r.driverRecord cfg session.provider session.identifier).staticProfile,
        { r.ensured cfg session with
          sessions := Function.update r.sessions dto.sessionId none }) := by
  unfold completeOAuthCallback
  rw [bind_of_ok (liveSession_of_found h.toFound), Action.require, if_pos h.code,
    bind_of_ok (m := (pure _ : Service PUnit)) rfl, Action.require, if_pos h.state,
    bind_of_ok (m := (pure _ : Service PUnit)) rfl]
  rfl

theorem completeOAuthCallback_of_not (h : ∀ session, ¬Admitted io dto r session) :
    ∃ e r', completeOAuthCallback cfg io dto r = (.error e, r') ∧ Shrinks r r' := by
  unfold completeOAuthCallback
  rcases liveSession_cases io dto.provider dto.sessionId r with
    ⟨session, hfound, hlive⟩ | ⟨-, e, r', hlive, hshrinks⟩
  · rw [bind_of_ok hlive]
    by_cases hcode : session.authCode = dto.code
    · rw [Action.require, if_pos hcode, bind_of_ok (m := (pure _ : Service PUnit)) rfl]
      by_cases hstate : ∀ state ∈ given dto.state, state = session.state
      · exact absurd ⟨hfound, hcode, hstate⟩ (h session)
      · rw [Action.require, if_neg hstate]
        exact ⟨_, r, bind_of_error rfl, .refl r⟩
    · rw [Action.require, if_neg hcode]
      exact ⟨_, r, bind_of_error rfl, .refl r⟩
  · exact ⟨e, r', bind_of_error hlive, hshrinks⟩

theorem completeOAuthCallback_eq_ok_iff :
    (∃ profile, (completeOAuthCallback cfg io dto r).1 = .ok profile) ↔
      ∃ session, Admitted io dto r session := by
  by_cases h : ∃ session, Admitted io dto r session
  · obtain ⟨session, hadmitted⟩ := h
    rw [completeOAuthCallback_of_admitted cfg hadmitted]
    exact iff_of_true ⟨_, rfl⟩ ⟨session, hadmitted⟩
  · push Not at h
    obtain ⟨e, r', hrun, -⟩ := completeOAuthCallback_of_not cfg h
    rw [hrun]
    exact iff_of_false (fun ⟨_, hok⟩ => nomatch hok) fun ⟨session, hadmitted⟩ => h session hadmitted

end Callback

end Aegis.DynamicQCommerce
