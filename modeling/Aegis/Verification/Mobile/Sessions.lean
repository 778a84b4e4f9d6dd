import Aegis.Verification.Identity.Codes
import Aegis.Verification.Mobile.Calls

/-! # A session of the app

The server takes a refresh token once. The app throws away the pair that it gets for it, so the
session that a sign-in opened ends with the first renewal. -/

namespace Aegis.Identity

open Relation Aegis.Action JsString DynamicQCommerce AuthService KycService

/-! ## Refresh tokens are taken once -/

section Tokens

variable {cfg : Config} {w : World} {call : Call} {userId : String}

def refreshText (cfg : Config) (userId email : String) (role : Role) (issuedAt : ℤ) : String :=
  cfg.signAsync (refreshSecret cfg.toAuth) (.session userId email role) issuedAt

/-- Every stored hash is of a token that was signed for its account. -/
def SignedHashes (cfg : Config) (store : Store) : Prop :=
  ∀ userId hash, sessionHash store userId = some hash →
    ∃ email role issuedAt, hash = cfg.hashOTP (refreshText cfg userId email role issuedAt)

theorem sessionHash_eq (store : Store) (userId : String) :
    sessionHash store userId = (credentials store.users userId).bind Credentials.refreshToken := by
  rw [sessionHash, credentials, Option.bind_map]
  rfl

/-- A hash that is there after a request was there before or is of a token that it signed. -/
theorem hash_of_path {c c' : Option Credentials}
    (h : ReflTransGen (CredentialWrite cfg w call userId) c c') {hash : String}
    (hhash : c'.bind Credentials.refreshToken = some hash) :
    c.bind Credentials.refreshToken = some hash ∨
      ∃ email role, hash = cfg.hashOTP (refreshText cfg userId email role call.io.now) := by
  induction h with
  | refl => exact .inl hhash
  | tail _ hwrite ih =>
      cases hwrite with
      | opened => cases hhash
      | sent => exact ih hhash
      | used => exact ih hhash
      | @signedIn c email role =>
          cases hhash
          exact .inr ⟨email, role, rfl⟩
      | loggedOut => cases hhash

theorem hash_step {hash : String}
    (hhash : sessionHash (step cfg w call).store userId = some hash) :
    sessionHash w.store userId = some hash ∨
      ∃ email role, hash = cfg.hashOTP (refreshText cfg userId email role call.io.now) := by
  rw [sessionHash_eq] at hhash ⊢
  exact hash_of_path (step_credited cfg w call userId) hhash

theorem SignedHashes.of_noSessions {store : Store} (h : NoSessions store) :
    SignedHashes cfg store := by
  intro userId hash hhash
  obtain ⟨user, hfound, htoken⟩ := Option.bind_eq_some_iff.mp hhash
  rw [(h user (Table.mem_of_findUnique hfound)).2] at htoken
  cases htoken

theorem SignedHashes.step (h : SignedHashes cfg w.store) (call : Call) :
    SignedHashes cfg (step cfg w call).store := by
  intro userId hash hhash
  rcases hash_step hhash with hbefore | ⟨email, role, hnew⟩
  · exact h userId hash hbefore
  · exact ⟨email, role, call.io.now, hnew⟩

theorem SignedHashes.final (h : SignedHashes cfg w.store) (calls : List Call) :
    SignedHashes cfg (Run.final (Identity.step cfg) w calls).store := by
  induction calls generalizing w with
  | nil => exact h
  | cons call calls ih => exact ih (h.step call)

/-- A refresh that succeeds has found the hash of its token and leaves that of a new one. -/
theorem refresh_replaces {io : AuthService.Io} {store : Store} {token : String} :
    Triple (OnStore (· = store)) (refresh cfg.toAuth io token)
      (fun _ w => ∃ userId email role, sessionHash store userId = some (cfg.hashOTP token) ∧
        sessionHash w.store userId = some (cfg.hashOTP (refreshText cfg userId email role io.now)))
      (OnStore fun _ => True) := by
  have hany : ∀ w, OnStore (· = store) w → OnStore (fun _ => True) w := fun _ _ => trivial
  refine Triple.require_bind hany fun _ => ?_
  refine Triple.orThrow_bind hany fun payload _ => ?_
  refine Triple.require_bind hany fun _ => read_bind trivial ?_
  refine Triple.orThrow_bind hany fun user huser => ?_
  refine Triple.orThrow_bind hany fun stored hstored => ?_
  refine Triple.require_bind hany fun hhash => ?_
  have hid : user.id = payload.sub := mem_id_keys_iff.mp (Table.key_of_findUnique huser)
  rw [← hid] at huser
  have hfound : sessionHash store user.id = some (cfg.hashOTP token) := by
    rw [sessionHash, huser, Option.bind_some, hhash]
    exact (Option.filter_eq_some_iff.mp hstored).1
  have hsession : Triple (OnStore (· = store)) (startSession cfg.toAuth io user)
      (fun _ w => sessionHash w.store user.id =
        some (cfg.hashOTP (refreshText cfg user.id user.email user.role io.now)))
      (OnStore fun _ => True) := by
    refine Triple.bind (Q := fun _ => OnStore fun after => sessionHash after user.id =
      some (cfg.hashOTP (refreshText cfg user.id user.email user.role io.now))) ?_
        fun _ => Triple.pure fun _ hw => hw
    refine (write_triple (I := (· = store)) fun before after hbefore hwrite => ?_).conseq
      (fun _ hw => hw) (fun _ _ hw => hw) hany
    obtain ⟨-, rfl⟩ := Store.updateUser_eq_ok hwrite
    subst hbefore
    change ((before.users.update (.id user.id) _).findUnique (.id user.id)).bind _ = _
    rw [Table.findUnique_update_self, huser]
    rfl
  exact hsession.bind fun tokens => Triple.pure fun w hw => ⟨user.id, _, _, hfound, hw⟩

/-- The request for a refresh with that token is answered. -/
theorem accepted_refresh {sentBy : Option String} {io : Io} {token : String}
    (h : Accepted cfg w (MobileClient.refreshCall sentBy io token)) :
    ∃ userId email role, sessionHash w.store userId = some (cfg.hashOTP token) ∧
      sessionHash (step cfg w (MobileClient.refreshCall sentBy io token)).store userId =
        some (cfg.hashOTP (refreshText cfg userId email role io.now)) := by
  obtain ⟨reply, hreply⟩ := h
  have hhandle : Triple (OnStore (· = w.store))
      ((MobileClient.refreshCall sentBy io token).request.handle cfg io)
      (fun _ w' => ∃ userId email role, sessionHash w.store userId = some (cfg.hashOTP token) ∧
        sessionHash w'.store userId =
          some (cfg.hashOTP (refreshText cfg userId email role io.now)))
      (OnStore fun _ => True) :=
    refresh_replaces.bind fun _ => Triple.pure fun _ hw => hw
  exact hhandle.ok (show OnStore (· = w.store) { w with storeCalls := io.storeCalls } from rfl)
    (Prod.ext hreply rfl)

section Session

variable {lifetime issuedAt : ℤ} {email : String} {role : Role}

/-- Requests of a later second do not bring the hash of the token back. -/
theorem hash_ne_step (hlibraries : Libraries cfg.toAuth lifetime)
    (hlater : issuedAt / 1000 < call.io.now / 1000)
    (h :
    sessionHash w.store userId ≠ some (cfg.hashOTP (refreshText cfg userId email role issuedAt))) :
    sessionHash (step cfg w call).store userId ≠
      some (cfg.hashOTP (refreshText cfg userId email role issuedAt)) := by
  intro hhash
  rcases hash_step hhash with hbefore | ⟨email', role', hnew⟩
  · exact h hbefore
  · have htext := hlibraries.hashOTP_injective hnew
    have hsecond := ((hlibraries.signAsync_eq_iff ..).mp htext).2
    omega

/-- A stored hash of the token belongs to the account that it was signed for. -/
theorem owner_of_hash (hlibraries : Libraries cfg.toAuth lifetime)
    (hsigned : SignedHashes cfg w.store) {other : String}
    (hhash : sessionHash w.store other =
      some (cfg.hashOTP (refreshText cfg userId email role issuedAt))) : other = userId := by
  obtain ⟨email', role', issuedAt', hother⟩ := hsigned other _ hhash
  have htext := hlibraries.hashOTP_injective hother
  have hclaims := ((hlibraries.signAsync_eq_iff ..).mp htext).1
  exact (JwtPayload.session.inj hclaims).1.symm

/-- A token is taken only while the store has its hash, and that is then gone. -/
theorem accepted_once (hlibraries : Libraries cfg.toAuth lifetime)
    (hsigned : SignedHashes cfg w.store) {sentBy : Option String} {io : Io}
    (hlater : issuedAt / 1000 < io.now / 1000)
    (h : Accepted cfg w (MobileClient.refreshCall sentBy io
      (refreshText cfg userId email role issuedAt))) :
    sessionHash w.store userId = some (cfg.hashOTP (refreshText cfg userId email role issuedAt)) ∧
      sessionHash (step cfg w (MobileClient.refreshCall sentBy io
        (refreshText cfg userId email role issuedAt))).store userId ≠
          some (cfg.hashOTP (refreshText cfg userId email role issuedAt)) := by
  obtain ⟨other, email', role', hbefore, hafter⟩ := accepted_refresh h
  obtain rfl := owner_of_hash hlibraries hsigned hbefore
  refine ⟨hbefore, fun hsame => ?_⟩
  rw [hafter] at hsame
  have htext := hlibraries.hashOTP_injective (Option.some.inj hsame)
  have hsecond := ((hlibraries.signAsync_eq_iff ..).mp htext).2
  omega

end Session

end Tokens

end Aegis.Identity

namespace Aegis.MobileClient

open Http Identity AuthService

section Renewals

variable {τ : Type} [DecidableEq τ]

/-- The server answers a renewal of the app with a new pair of tokens. -/
def Renews (cfg : Identity.Config) (s : System τ) (e : Event τ) : Prop :=
  ∃ t sentBy io response refreshToken, e = .serveRefresh t sentBy io ∧
    s.phase t = .refreshing response refreshToken ∧
      Accepted cfg s.world (refreshCall sentBy io refreshToken)

/-- Nobody signs in on the device, and the server is past the second of the last sign-in. -/
def Event.WithinSession (issuedAt : ℤ) : Event τ → Prop
  | .serve _ call _ | .elsewhere call => issuedAt / 1000 < call.io.now / 1000
  | .serveRefresh _ _ io => issuedAt / 1000 < io.now / 1000
  | .keep _ => False
  | .start _ | .receive _ | .lose _ _ => True

/-- The app knows this refresh token and no other. -/
structure InSession (cfg : Identity.Config) (token : String) (s : System τ) : Prop where
  noRenewal : NoRenewal s
  stored : s.stored.refreshToken = some token
  refreshing : ∀ t response refreshToken,
    s.phase t = .refreshing response refreshToken → refreshToken = token
  signed : SignedHashes cfg s.world.store

variable {cfg : Identity.Config} {s : System τ} {e : Event τ} {token : String} {issuedAt : ℤ}

omit [DecidableEq τ] in
theorem InSession.start {w : World} {accessToken : Option String}
    (h : SignedHashes cfg w.store) :
    InSession cfg token (.start w ⟨accessToken, some token⟩ : System τ) where
  noRenewal := .of_idle fun _ => rfl
  stored := rfl
  refreshing _ _ _ hphase := by cases hphase
  signed := h

/-- A step leaves the server alone or is one request to it. -/
theorem world_step (cfg : Identity.Config) (s : System τ) (h : e.WithinSession issuedAt) :
    (step cfg s e).world = s.world ∨ ∃ call, issuedAt / 1000 < call.io.now / 1000 ∧
      (step cfg s e).world = Identity.step cfg s.world call := by
  cases e with
  | serve t call response =>
      dsimp only [step]
      split
      · exact .inr ⟨call, h, rfl⟩
      · exact .inl rfl
  | serveRefresh t sentBy io =>
      dsimp only [step]
      split
      · rename_i response refreshToken hphase
        exact .inr ⟨refreshCall sentBy io refreshToken, h, rfl⟩
      · exact .inl rfl
  | elsewhere call => exact .inr ⟨call, h, rfl⟩
  | start t | lose t errMsg =>
      dsimp only [step]
      split <;> exact .inl rfl
  | receive t | keep stored => exact .inl rfl

theorem InSession.step (h : InSession cfg token s) (hwithin : e.WithinSession issuedAt) :
    InSession cfg token (step cfg s e) where
  noRenewal := h.noRenewal.step cfg e
  stored := by
    rw [stored_step h.noRenewal cfg e]
    split
    · exact hwithin.elim
    · exact h.stored
  refreshing t response refreshToken hphase := by
    rcases step_phase cfg s e t with hsame | hadvance
    · exact h.refreshing t response refreshToken (hsame ▸ hphase)
    · rw [hphase] at hadvance
      cases hadvance with
      | renewing _ _ hpresent =>
          have hstored := (Option.filter_eq_some_iff.mp hpresent).1
          rw [h.stored] at hstored
          exact (Option.some.inj hstored).symm
  signed := by
    rcases world_step cfg s hwithin with hsame | ⟨call, -, hcall⟩
    · rw [hsame]
      exact h.signed
    · rw [hcall]
      exact h.signed.step call

variable {lifetime : ℤ} {userId email : String} {role : Role}

/-- The store has the hash of the token no more. -/
def Spent (cfg : Identity.Config) (userId token : String) (s : System τ) : Prop :=
  sessionHash s.world.store userId ≠ some (cfg.hashOTP token)

theorem Spent.step (hlibraries : Libraries cfg.toAuth lifetime)
    (h : Spent cfg userId (refreshText cfg userId email role issuedAt) s)
    (hwithin : e.WithinSession issuedAt) :
    Spent cfg userId (refreshText cfg userId email role issuedAt) (MobileClient.step cfg s e) := by
  unfold Spent
  rcases world_step cfg s hwithin with hsame | ⟨call, hlater, hcall⟩
  · rw [hsame]
    exact h
  · rw [hcall]
    exact hash_ne_step hlibraries hlater h

theorem spends_of_renews (hlibraries : Libraries cfg.toAuth lifetime)
    (h : InSession cfg (refreshText cfg userId email role issuedAt) s)
    (hwithin : e.WithinSession issuedAt) (hrenews : Renews cfg s e) :
    ¬Spent cfg userId (refreshText cfg userId email role issuedAt) s ∧
      Spent cfg userId (refreshText cfg userId email role issuedAt)
        (MobileClient.step cfg s e) := by
  obtain ⟨t, sentBy, io, response, refreshToken, rfl, hphase, haccepted⟩ := hrenews
  obtain rfl := h.refreshing t response refreshToken hphase
  obtain ⟨hbefore, hafter⟩ := accepted_once hlibraries h.signed hwithin haccepted
  refine ⟨not_not.mpr hbefore, ?_⟩
  unfold Spent
  simp only [MobileClient.step, hphase]
  exact hafter

theorem not_renewed_again (hlibraries : Libraries cfg.toAuth lifetime) {events : List (Event τ)}
    (h : InSession cfg (refreshText cfg userId email role issuedAt) s)
    (hspent : Spent cfg userId (refreshText cfg userId email role issuedAt) s)
    (hwithin : ∀ e ∈ events, e.WithinSession issuedAt) :
    ¬Run.Sometime (MobileClient.step cfg) (Renews cfg) s events := by
  induction events generalizing s with
  | nil => exact id
  | cons e events ih =>
      have he := hwithin e List.mem_cons_self
      rintro (⟨hrenews, -⟩ | hlater)
      · exact (spends_of_renews hlibraries h he hrenews).1 hspent
      · exact ih (h.step he) (hspent.step hlibraries he)
          (fun e' he' => hwithin e' (List.mem_cons_of_mem _ he')) hlater

theorem not_renewed_twice (hlibraries : Libraries cfg.toAuth lifetime) {events : List (Event τ)}
    (h : InSession cfg (refreshText cfg userId email role issuedAt) s)
    (hwithin : ∀ e ∈ events, e.WithinSession issuedAt) :
    ¬Run.After (MobileClient.step cfg) (Renews cfg)
      (Run.Sometime (MobileClient.step cfg) (Renews cfg)) s events := by
  induction events generalizing s with
  | nil => exact id
  | cons e events ih =>
      have he := hwithin e List.mem_cons_self
      have hrest : ∀ e' ∈ events, e'.WithinSession issuedAt :=
        fun e' he' => hwithin e' (List.mem_cons_of_mem _ he')
      rintro (⟨hrenews, hagain⟩ | hlater)
      · have hspent := (spends_of_renews hlibraries h he hrenews).2
        exact not_renewed_again hlibraries (h.step he) hspent hrest hagain
      · exact ih (h.step he) hrest hlater

/-- From a sign-in to the next one the server answers at most one renewal of the app, whatever calls
the app makes and whatever else the server handles. -/
theorem renewed_once (cfg : Identity.Config) (lifetime issuedAt : ℤ) (w : World) (calls : List Call)
    (userId email : String) (role : Role) (accessToken : Option String) (events : List (Event τ))
    (hlibraries : Libraries cfg.toAuth lifetime) (hw : NoSessions w.store)
    (hwithin : ∀ e ∈ events, e.WithinSession issuedAt) :
    ¬Run.After (MobileClient.step cfg) (Renews cfg)
      (Run.Sometime (MobileClient.step cfg) (Renews cfg))
      (.start (Run.final (Identity.step cfg) w calls)
        ⟨accessToken, some (refreshText cfg userId email role issuedAt)⟩) events := by
  have hsigned : SignedHashes cfg w.store := .of_noSessions hw
  exact not_renewed_twice hlibraries (.start (hsigned.final calls)) hwithin

/-- Two calls find their token expired; the first one's renewal is answered. -/
theorem renewed_once_two :
    let signIn := SignedText.send 1000 (.auth (.login "ravi@zepto.in" "correct horse"))
    let later (now : ℤ) : Identity.Io := (SignedText.send now (.auth (.refresh ""))).io
    let expired : Response := respond (.error (.unauthorized "Unauthorized"))
    let poll := SignedText.send 3600000 (.user (some "expired") .submitKyc)
    let events : List (Event ℕ) :=
      [.start 0, .start 1, .serve 0 poll expired, .serve 1 poll expired, .receive 0, .receive 1,
        .serveRefresh 0 none (later 3601000), .receive 0, .serveRefresh 1 none (later 3602000),
        .receive 1]
    ¬Run.After (MobileClient.step SignedText.cfg) (Renews SignedText.cfg)
      (Run.Sometime (MobileClient.step SignedText.cfg) (Renews SignedText.cfg))
      (.start (Run.final (Identity.step SignedText.cfg) (SignedText.world SignedText.ravi) [signIn])
        ⟨some "expired", some (refreshText SignedText.cfg "ravi" "ravi@zepto.in" .DRIVER 1000)⟩)
      events :=
  renewed_once SignedText.cfg 604800 1000 _ _ "ravi" "ravi@zepto.in" .DRIVER _ _
    SignedText.libraries (by decide) (by simp [Event.WithinSession, SignedText.send,
      AuthService.Stranger.ioAt])

end Renewals

end Aegis.MobileClient
