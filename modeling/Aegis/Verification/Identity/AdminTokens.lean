import Aegis.Library.Run
import Aegis.Verification.Identity.AuthFlows

/-! # Tokens of the administrator

A request that shows no proof of the administrator's identity is not answered with one of
the administrator's tokens, as long as no provider session that it redeems carries the
address of an administrator. -/

namespace Aegis.AuthService

open Aegis.Action DynamicQCommerce Identity

/-- The accounts of administrators. -/
def adminIds (store : Store) : List String :=
  (store.users.rows.filter fun user => user.role = .ADMIN).map User.id

/-- The request proves to come from one of the administrators. -/
def AdminProof (cfg : Config) (admins : List String) (w : World) (call : AuthCall) : Prop :=
  (∃ user ∈ call.request.account cfg call.io w.store,
    user.id ∈ admins ∧ call.request.Proves cfg call.io user) ∨
  call.request.KnowsAdminPassword cfg

instance (cfg : Config) (admins : List String) (w : World) (call : AuthCall) :
    Decidable (AdminProof cfg admins w call) := inferInstanceAs (Decidable (_ ∨ _))

/-- A redeemable session vouches for the address of an administrator. -/
def SignsInAdmin (cfg : Config) (w : World) (call : AuthCall) : Prop :=
  ∃ user ∈ call.request.providerAccount cfg call.io w, user.role = .ADMIN

instance (cfg : Config) (w : World) (call : AuthCall) : Decidable (SignsInAdmin cfg w call) :=
  inferInstanceAs (Decidable (∃ _ ∈ _, _))

/-- No token in the reply has the administrator's role. -/
def Reply.NoAdmin (reply : Reply) : Prop := ∀ jwt ∈ reply.jwts, jwt.payload.role ≠ some .ADMIN

instance (reply : Reply) : Decidable reply.NoAdmin := inferInstanceAs (Decidable (∀ _ ∈ _, _))

def AnsweredWithoutAdmin (cfg : Config) (w : World) (call : AuthCall) : Prop :=
  ∀ reply, call.reply cfg w = .ok reply → reply.NoAdmin

instance (cfg : Config) (w : World) (call : AuthCall) :
    Decidable (AnsweredWithoutAdmin cfg w call) :=
  decidable_of_iff (∀ reply ∈ (call.reply cfg w).toOption, reply.NoAdmin) (by
    unfold AnsweredWithoutAdmin
    cases call.reply cfg w <;> simp [Except.toOption])

/-! ## No request makes an administrator -/

def AdminsWithin (admins : List String) (store : Store) : Prop :=
  ∀ user ∈ store.users.rows, user.role = .ADMIN → user.id ∈ admins

theorem adminsWithin_adminIds (store : Store) : AdminsWithin (adminIds store) store := by
  intro user huser hrole
  have hadmin : user ∈ store.users.rows.filter fun user => user.role = .ADMIN := by
    simpa [hrole] using huser
  exact List.mem_map_of_mem hadmin

section Step

variable {cfg : Config} {io : Io} {admins : List String} {store store' : Store}

theorem AdminsWithin.of_users (h : AdminsWithin admins store)
    (husers : store'.users = store.users) :
    AdminsWithin admins store' := by
  intro user huser
  rw [husers] at huser
  exact h user huser

theorem AdminsWithin.updateUser (h : AdminsWithin admins store) {id : String}
    {f : RowUpdate User.keys} (hf : ∀ user, (f.apply user).role = user.role)
    (hstore : store.updateUser id f = .ok store') : AdminsWithin admins store' := by
  obtain ⟨-, rfl⟩ := Store.updateUser_eq_ok hstore
  intro user huser hrole
  obtain ⟨before, hbefore, rfl⟩ := Table.mem_update.mp huser
  by_cases hid : UserIndex.id id ∈ before.keys
  · rw [if_pos hid, hf] at hrole
    rw [if_pos hid, id_apply]
    exact h before hbefore hrole
  · rw [if_neg hid] at hrole ⊢
    exact h before hbefore hrole

theorem AdminsWithin.createUser (h : AdminsWithin admins store) {user : User}
    (hrole : user.role ≠ .ADMIN) (hstore : store.createUser user = .ok store') :
    AdminsWithin admins store' := by
  obtain ⟨users, hcreate, rfl⟩ := Store.createUser_eq_ok hstore
  intro other hother hadmin
  rcases (Table.mem_create hcreate).mp hother with hother | rfl
  · exact h other hother hadmin
  · exact absurd hadmin hrole

/-- No write but those of the administrator's own login changes who is one. -/
theorem AdminsWithin.written {store₀ : Store} {Owner : User → Prop} {isAdmin : Prop}
    (h : AdminsWithin admins store₀) (hadmin : ¬isAdmin)
    (hwritten : Written io store₀ Owner isAdmin store) : AdminsWithin admins store := by
  induction hwritten with
  | start => exact h
  | newDriver _ _ hrole hwrite ih => exact ih.createUser (hrole.resolve_right hadmin) hwrite
  | newProfile _ _ _ hwrite ih =>
      obtain ⟨kycProfiles, -, rfl⟩ := Store.upsertProfile_eq_ok hwrite
      exact ih.of_users rfl
  | bookkeeping _ hrole _ hwrite ih =>
      exact ih.updateUser (fun user => (hrole user).resolve_right hadmin) hwrite
  | ownUser _ _ hrole hwrite ih => exact ih.updateUser hrole hwrite
  | ownProfile _ _ _ hwrite ih =>
      obtain ⟨kycProfiles, -, rfl⟩ := Store.upsertProfile_eq_ok hwrite
      exact ih.of_users rfl

variable {w : World} {call : AuthCall}

theorem step_adminsWithin (h : AdminsWithin admins w.store)
    (hproof : ¬AdminProof cfg admins w call) :
    AdminsWithin admins (step cfg w call).store :=
  h.written (fun hknows => hproof (.inr hknows)) (run_written cfg w call)

/-- A token of an administrator goes to whoever acts for one. -/
theorem answeredWithoutAdmin (h : AdminsWithin admins w.store)
    (hproof : ¬AdminProof cfg admins w call) (hsession : ¬SignsInAdmin cfg w call) :
    AnsweredWithoutAdmin cfg w call := by
  intro reply hreply jwt hjwt hrole
  rcases reply_speaks cfg w call hreply jwt hjwt .ADMIN hrole with
    hdriver | ⟨user, huser, hacts, hadmin⟩ | hknows
  · cases hdriver
  · have hid : user.id ∈ admins := h user huser hadmin
    rcases hacts with ⟨haccount, hproves⟩ | hprovider
    · exact hproof (.inl ⟨user, haccount, hid, hproves⟩)
    · exact hsession ⟨user, hprovider, hadmin⟩
  · exact hproof (.inr hknows)

end Step

/-- Without proof of the administrator's identity no request is answered with a token of the
administrator, in every run in which no redeemed session carries an administrator's address. -/
theorem adminTokens (cfg : Config) (w : World) (calls : List AuthCall)
    (hproof :
    Run.Along (step cfg) (fun s call => ¬AdminProof cfg (adminIds w.store) s call) w calls)
    (hsession : Run.Along (step cfg) (fun s call => ¬SignsInAdmin cfg s call) w calls) :
    Run.Along (step cfg) (AnsweredWithoutAdmin cfg) w calls := by
  have hstep : ∀ s call, AdminsWithin (adminIds w.store) s.store →
      ¬AdminProof cfg (adminIds w.store) s call ∧ ¬SignsInAdmin cfg s call →
        AdminsWithin (adminIds w.store) (step cfg s call).store ∧ AnsweredWithoutAdmin cfg s call :=
    fun s call h hok => ⟨step_adminsWithin h hok.1, answeredWithoutAdmin h hok.1 hok.2⟩
  exact Run.along_of_step hstep (adminsWithin_adminIds w.store) (hproof.and hsession)

/-! ## A stranger signs in -/

namespace Stranger

/-- Any libraries do: no password, code or token is shown. -/
def cfg : Config where
  env :=
    { adminEmail := some "admin@aegis.in", adminPassword := some "correct horse",
      nodeEnv := some "production", jwtSecret := "s3cret", jwtRefreshSecret := some "r3fresh",
      eliteOauthIssuer := none, eliteOauthJwtSecret := none }
  toLowerCase := JsString.toLowerCase
  equalsInsensitive a b := JsString.toLowerCase a = JsString.toLowerCase b
  hashOTP s := "#" ++ s
  bcryptHash salt password := salt ++ ":" ++ password
  bcryptCompare password hash := hash = "salt:" ++ password
  signAsync secret payload issuedAt := secret ++ "." ++ payload.sub ++ "." ++ toString issuedAt
  verifyAsync _ _ _ := none
  isEmail email := '@' ∈ email.toList
  createAnchorFromString _ := 1
  challengeOf verifier := verifier

def admin : User where
  id := "admin"
  email := "admin@aegis.in"
  phone := some "+1-admin"
  passwordHash := "salt:correct horse"
  role := .ADMIN
  isVerified := true
  otpCode := none
  otpExpiresAt := none
  refreshToken := none
  createdAt := 0
  driverName := none
  platform := none

def world : World where
  store := { users := .singleton admin }
  registry := .empty
  storeCalls := 0

def ioAt (now : ℤ) : Io where
  now := now
  userId := "driver"
  otpDraw := 23456
  salt := "salt"
  bootstrapPassword := "00ff"
  sessionId := "session"
  state := "state"
  authCode := "abcdef012345"
  mailSent := true
  smsSent := true
  storeCalls := 20

/-- The caller names the account; the redirect carries the session and its code. -/
def authorize (identifier : String) : AuthCall where
  request := .authorizeOAuth "zepto" { identifier := some identifier }
  io := ioAt 1000

def exchange : AuthCall where
  request := .exchangeOAuth "zepto" { sessionId := "session", code := "abcdef012345" }
  io := ioAt 2000

end Stranger

/-- A driver's session, and a code that is not the administrator's. -/
theorem adminTokens_driver :
    Run.Along (step Stranger.cfg) (AnsweredWithoutAdmin Stranger.cfg) Stranger.world
      [Stranger.authorize "ravi@zepto.in", Stranger.exchange,
        ⟨.adminVerifyOtp "admin@aegis.in" "123456", Stranger.ioAt 3000⟩] :=
  adminTokens Stranger.cfg Stranger.world _ (by decide) (by decide)

/-- Two requests of a stranger, neither with a proof, and the second is answered with the
administrator's token. -/
theorem not_adminTokens :
    ¬∀ (cfg : Config) (w : World) (calls : List AuthCall),
      Run.Along (step cfg) (fun s call => ¬AdminProof cfg (adminIds w.store) s call) w calls →
        Run.Along (step cfg) (AnsweredWithoutAdmin cfg) w calls := by
  intro h
  have hrun := h Stranger.cfg Stranger.world
    [Stranger.authorize "Admin@aegis.in", Stranger.exchange] (by decide)
  exact absurd hrun (by decide)

end Aegis.AuthService
