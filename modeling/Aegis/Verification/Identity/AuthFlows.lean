import Aegis.Verification.Identity.StoreCalls

/-! # What the sign-in flows write and hand out

Each flow is analysed once. Its writes are those of a small list, and the roles in its
tokens are those of accounts that the request has shown to own. -/

namespace Aegis.AuthService

open Aegis.Action JsString DynamicQCommerce Identity

/-! ## Whom a request acts for -/

/-- The code is the one sent last, and still valid. -/
def AcceptsOtp (cfg : Config) (now : ℤ) (user : User) (otp : String) : Prop :=
  user.otpCode = some (cfg.hashOTP otp) ∧ ∃ expiresAt ∈ user.otpExpiresAt, now ≤ expiresAt

instance (cfg : Config) (now : ℤ) (user : User) (otp : String) :
    Decidable (AcceptsOtp cfg now user otp) := inferInstanceAs (Decidable (_ ∧ _))

/-- The address that a provider session vouches for. -/
def sessionEmail (cfg : Config) (registry : Registry) (session : OAuthSessionState) : String :=
  (registry.driverRecord cfg.oauth session.provider session.identifier).staticProfile.identity.email

/-- The existing account that a provider session signs in to, if it can be redeemed. -/
def exchangedUser (cfg : Config) (io : Io) (registry : Registry) (store : Store)
    (provider : QCommerceProvider) (params : ExchangeParams) : Option User := do
  let session ← registry.sessionOf provider params.sessionId
  if io.now ≤ session.expiresAt ∧ session.check cfg.oauth params = .ok () then
    userByEmailCI cfg store
      (some (normalizeEmail cfg (some (sessionEmail cfg registry session))))
  else none

namespace AuthRequest

variable (cfg : Config) (io : Io)

/-- The account that a request asks to be let in to. -/
def account (store : Store) : AuthRequest → Option User
  | verifyOtp email _ | login email _ | resetPassword email _ _ | adminVerifyOtp email _ =>
      store.users.findUnique (.email email)
  | verifyManualOtp phone _ => store.users.findUnique (.phone (digits phone))
  | verifyDriverOtp email _ => userByEmailCI cfg store (some email)
  | refresh token =>
      (cfg.verifyAsync (refreshSecret cfg) token io.now).bind fun payload =>
        store.users.findUnique (.id payload.sub)
  | _ => none

/-- The request carries the account's password, its one-time code or its refresh token. -/
def Proves (user : User) : AuthRequest → Prop
  | login _ password => cfg.bcryptCompare password user.passwordHash = true
  | verifyOtp _ otp | verifyManualOtp _ otp | verifyDriverOtp _ otp | resetPassword _ otp _
  | adminVerifyOtp _ otp => AcceptsOtp cfg io.now user otp
  | refresh token => user.refreshToken = some (cfg.hashOTP token)
  | _ => False

instance (user : User) (request : AuthRequest) : Decidable (request.Proves cfg io user) := by
  unfold Proves
  split <;> infer_instance

/-- The request carries the administrator's address and password. -/
def KnowsAdminPassword : AuthRequest → Prop
  | adminLogin email password => getAdminEnvCreds cfg = .ok (email, password)
  | _ => False

instance (request : AuthRequest) : Decidable (request.KnowsAdminPassword cfg) := by
  unfold KnowsAdminPassword
  split <;> infer_instance

/-- The account that the request signs in to through a provider. -/
def providerAccount (w : World) : AuthRequest → Option User
  | exchangeOAuth provider dto => do
      let supported ← QCommerceProvider.ofValue? (toLowerCase provider)
      exchangedUser cfg io w.registry w.store supported { dto with scope := none, audience := none }
  | _ => none

/-- The request shows to be the account's, or redeems a session that vouches for its address. -/
def ActsFor (w : World) (request : AuthRequest) (user : User) : Prop :=
  (request.account cfg io w.store = some user ∧ request.Proves cfg io user) ∨
    request.providerAccount cfg io w = some user

end AuthRequest

/-! ## Writes and roles -/

section Flows

variable {cfg : Config} {io : Io} {store₀ : Store} {Owner : User → Prop} {isAdmin : Prop}

/-- The stores that a request leaves behind which owns some accounts and may be the
administrator's login. -/
inductive Written (io : Io) (store₀ : Store) (Owner : User → Prop) (isAdmin : Prop) :
    Store → Prop
  | start : Written io store₀ Owner isAdmin store₀
  | newDriver {store store' user} : Written io store₀ Owner isAdmin store →
      user.id = io.userId → user.role ≠ .ADMIN ∨ isAdmin → store.createUser user = .ok store' →
      Written io store₀ Owner isAdmin store'
  | newProfile {store store' profile f} : Written io store₀ Owner isAdmin store →
      store₀.users.findUnique (.id io.userId) = none → profile.userId = io.userId →
      store.upsertProfile profile f = .ok store' → Written io store₀ Owner isAdmin store'
  | bookkeeping {store store' id f} : Written io store₀ Owner isAdmin store →
      (∀ user, (f.apply user).role = user.role ∨ isAdmin) →
      (∀ user, (f.apply user).platform = user.platform) →
      store.updateUser id f = .ok store' → Written io store₀ Owner isAdmin store'
  | ownUser {store store' user f} : Written io store₀ Owner isAdmin store → Owner user →
      (∀ user, (f.apply user).role = user.role) → store.updateUser user.id f = .ok store' →
      Written io store₀ Owner isAdmin store'
  | ownProfile {store store' user profile f} : Written io store₀ Owner isAdmin store →
      Owner user → profile.userId = user.id → store.upsertProfile profile f = .ok store' →
      Written io store₀ Owner isAdmin store'

/-- The role of a new driver, of an account that is owned, or of the administrator. -/
def RoleOf (store₀ : Store) (Owner : User → Prop) (isAdmin : Prop) (role : Role) : Prop :=
  role = .DRIVER ∨ (∃ user ∈ store₀.users.rows, Owner user ∧ user.role = role) ∨ isAdmin

def Speaks (store₀ : Store) (Owner : User → Prop) (isAdmin : Prop) (reply : Reply) : Prop :=
  ∀ jwt ∈ reply.jwts, ∀ role, jwt.payload.role = some role → RoleOf store₀ Owner isAdmin role

/-- A flow that starts in a state with `P`. -/
def FlowSpec (io : Io) (store₀ : Store) (Owner : User → Prop) (isAdmin : Prop)
    (P : World → Prop) (m : Handler Reply) : Prop :=
  Triple P m
    (fun reply w => Speaks store₀ Owner isAdmin reply ∧
      OnStore (Written io store₀ Owner isAdmin) w)
    (OnStore (Written io store₀ Owner isAdmin))

theorem start_written :
    ∀ w, OnStore (· = store₀) w → OnStore (Written io store₀ Owner isAdmin) w :=
  onStore_of_eq .start

/-- What has not been written to yet is one of the stores that may be left behind. -/
theorem from_start {α : Type} {m : Handler α} {Q : α → World → Prop}
    (h : Triple (OnStore (Written io store₀ Owner isAdmin)) m Q
      (OnStore (Written io store₀ Owner isAdmin))) :
    Triple (OnStore (· = store₀)) m Q (OnStore (Written io store₀ Owner isAdmin)) :=
  h.pre start_written

theorem speaks_message (message : String) : Speaks store₀ Owner isAdmin (.message message) := by
  simp [Speaks, Reply.jwts]

theorem speaks_tokens {user : User} {reply : Reply}
    (hjwts : ∀ jwt ∈ reply.jwts, jwt.payload.role = some user.role ∨ jwt.payload.role = none)
    (hrole : RoleOf store₀ Owner isAdmin user.role) : Speaks store₀ Owner isAdmin reply := by
  intro jwt hjwt role hsome
  rcases hjwts jwt hjwt with hjwt | hjwt
  · rw [hsome] at hjwt
    exact Option.some.inj hjwt ▸ hrole
  · rw [hsome] at hjwt
    cases hjwt

theorem role_generateTokens {user : User} :
    ∀ jwt ∈ (generateTokens cfg io user).jwts, jwt.payload.role = some user.role := by
  intro jwt hjwt
  simp only [generateTokens, Tokens.jwts, sign, List.mem_cons, List.not_mem_nil, or_false] at hjwt
  rcases hjwt with rfl | rfl <;> rfl

theorem roleOf_owner {user : User} (huser : user ∈ store₀.users.rows) (howner : Owner user) :
    RoleOf store₀ Owner isAdmin user.role := .inr (.inl ⟨user, huser, howner, rfl⟩)

/-! ### Single writes -/

theorem id_apply (f : RowUpdate User.keys) (user : User) : (f.apply user).id = user.id := by
  have hkeys := f.keys_apply user
  simp only [User.keys, List.cons_append, List.cons.injEq, UserIndex.id.injEq] at hkeys
  exact hkeys.1

theorem bookkeeping_triple {id : String} {f : RowUpdate User.keys}
    (hrole : ∀ user, (f.apply user).role = user.role ∨ isAdmin)
    (hplatform : ∀ user, (f.apply user).platform = user.platform) :
    Triple (OnStore (Written io store₀ Owner isAdmin)) (updateUser id f)
      (fun _ => OnStore (Written io store₀ Owner isAdmin))
      (OnStore (Written io store₀ Owner isAdmin)) :=
  write_triple fun _ _ h hwrite => h.bookkeeping hrole hplatform hwrite

theorem otp_triple {id : String} {f : RowUpdate User.keys}
    (hf : ∀ user, (f.apply user).role = user.role ∧ (f.apply user).platform = user.platform) :
    Triple (OnStore (Written io store₀ Owner isAdmin)) (updateUser id f)
      (fun _ => OnStore (Written io store₀ Owner isAdmin))
      (OnStore (Written io store₀ Owner isAdmin)) :=
  bookkeeping_triple (fun user => .inl (hf user).1) fun user => (hf user).2

/-- An id under which a user could be created was free before. -/
theorem fresh_of_createUser {store store' : Store} {user : User}
    (h : store.createUser user = .ok store') : store.users.findUnique (.id user.id) = none := by
  obtain ⟨users, hcreate, -⟩ := Store.createUser_eq_ok h
  refine List.find?_eq_none.mpr fun other hother hkey => ?_
  exact (Table.create_eq_some hcreate).1 other hother (.id user.id) (by simpa using hkey)
    (by simp [User.keys])

theorem createUser_triple {user : User} (hid : user.id = io.userId)
    (hrole : user.role ≠ .ADMIN ∨ isAdmin) :
    Triple (OnStore (· = store₀)) (createUser user)
      (fun _ w => store₀.users.findUnique (.id io.userId) = none ∧
        OnStore (Written io store₀ Owner isAdmin) w)
      (OnStore (Written io store₀ Owner isAdmin)) := by
  have hwrite : Triple (OnStore (· = store₀)) (createUser user)
      (fun _ => OnStore fun after => store₀.users.findUnique (.id io.userId) = none ∧
        Written io store₀ Owner isAdmin after) (OnStore (· = store₀)) := by
    refine write_triple fun store store' hstore hcreate => ?_
    subst hstore
    exact ⟨hid ▸ fresh_of_createUser hcreate, Written.start.newDriver hid hrole hcreate⟩
  exact hwrite.conseq (fun _ hw => hw) (fun _ _ hw => hw) start_written

theorem newProfile_triple {profile : KYCProfile} {f : RowUpdate KYCProfile.keys}
    (hfresh : store₀.users.findUnique (.id io.userId) = none) (hid : profile.userId = io.userId) :
    Triple (OnStore (Written io store₀ Owner isAdmin)) (upsertProfile profile f)
      (fun _ => OnStore (Written io store₀ Owner isAdmin))
      (OnStore (Written io store₀ Owner isAdmin)) :=
  write_triple fun _ _ h hwrite => h.newProfile hfresh hid hwrite

theorem createProfile_triple {profile : KYCProfile}
    (hfresh : store₀.users.findUnique (.id io.userId) = none) (hid : profile.userId = io.userId) :
    Triple (OnStore (Written io store₀ Owner isAdmin)) (createProfile profile)
      (fun _ => OnStore (Written io store₀ Owner isAdmin))
      (OnStore (Written io store₀ Owner isAdmin)) :=
  write_triple fun _ _ h hwrite => h.newProfile hfresh hid
    (Store.upsertProfile_of_createProfile (f := .keep) hwrite)

theorem startSession_triple {user : User} :
    Triple (OnStore (Written io store₀ Owner isAdmin)) (startSession cfg io user)
      (fun tokens w => tokens = generateTokens cfg io user ∧
        OnStore (Written io store₀ Owner isAdmin) w)
      (OnStore (Written io store₀ Owner isAdmin)) := by
  refine (otp_triple fun _ => ⟨rfl, rfl⟩).bind fun _ => ?_
  exact Triple.pure fun w hw => ⟨rfl, hw⟩

/-- Tokens for an account answer in its role. -/
theorem signedIn_spec {user : User} {reply : Tokens → Reply}
    (hreply : ∀ tokens, (reply tokens).jwts = tokens.jwts)
    (hrole : RoleOf store₀ Owner isAdmin user.role) :
    FlowSpec io store₀ Owner isAdmin (OnStore (Written io store₀ Owner isAdmin))
      (startSession cfg io user >>= fun tokens => pure (reply tokens)) := by
  refine startSession_triple.bind fun tokens => Triple.intro fun htokens => ?_
  refine Triple.pure fun w hw => ⟨speaks_tokens (fun jwt hjwt => .inl ?_) hrole, hw⟩
  rw [hreply, htokens] at hjwt
  exact role_generateTokens jwt hjwt

theorem checkOtp_accepts {missing otp : String} {user : User} {u : Unit}
    (h : checkOtp cfg io missing user otp = .ok u) : AcceptsOtp cfg io.now user otp := by
  unfold checkOtp at h
  split at h
  · rename_i code expiresAt hcode hexpires
    simp only [Outcome.bind_eq_ok, Outcome.require_eq_ok] at h
    obtain ⟨-, hlive, hmatch⟩ := h
    have hgiven : user.otpCode = some code := Option.filter_eq_some_iff.mp hcode |>.1
    exact ⟨hmatch ▸ hgiven, expiresAt, hexpires, hlive⟩
  · cases h

/-! ### Codes, passwords and refresh tokens -/

theorem register_spec (email password : String) :
    FlowSpec io store₀ Owner isAdmin (OnStore (· = store₀)) (register cfg io email password) := by
  refine read_bind .start ?_
  refine Triple.require_bind start_written fun _ => ?_
  refine (createUser_triple rfl (.inl (by simp [newUser]))).bind fun _ => ?_
  refine Triple.intro fun hfresh => ?_
  refine (createProfile_triple hfresh rfl).bind fun _ => ?_
  refine Triple.require_bind (fun w hw => hw) fun _ => ?_
  exact Triple.pure fun w hw => ⟨speaks_message _, hw⟩

theorem ensureManualUser_triple (phone : String) :
    Triple (OnStore (· = store₀)) (ensureManualUser cfg io phone)
      (fun _ => OnStore (Written io store₀ Owner isAdmin))
      (OnStore (Written io store₀ Owner isAdmin)) := by
  refine read_bind .start ?_
  split
  · exact Triple.pure start_written
  · refine (createUser_triple rfl (.inl (by simp [newUser]))).bind fun _ => ?_
    refine Triple.intro fun hfresh => ?_
    refine (newProfile_triple hfresh rfl).bind fun _ => ?_
    exact Triple.pure fun w hw => hw

theorem startManualPhoneOtp_spec (phone : String) :
    FlowSpec io store₀ Owner isAdmin (OnStore (· = store₀)) (startManualPhoneOtp cfg io phone) := by
  refine Triple.lift_bind start_written fun normalizedPhone _ => ?_
  refine (ensureManualUser_triple normalizedPhone).bind fun userId => ?_
  refine (otp_triple fun _ => ⟨rfl, rfl⟩).bind fun _ => ?_
  refine Triple.require_bind (fun w hw => hw) fun _ => ?_
  refine Triple.pure fun w hw => ⟨?_, hw⟩
  simp [Speaks, Reply.jwts]

theorem ensureDriverUser_triple (email : String) :
    Triple (OnStore (· = store₀)) (ensureDriverUser cfg io email)
      (fun _ => OnStore (Written io store₀ Owner isAdmin))
      (OnStore (Written io store₀ Owner isAdmin)) := by
  refine read_bind .start ?_
  split
  · exact Triple.pure start_written
  · have hwrite : Triple (OnStore (· = store₀))
        (write fun store => do
          let store ← store.createUser (newUser io email (bootstrapPasswordHash cfg io))
          store.createProfile (blankProfile io.userId .NOT_STARTED))
        (fun _ => OnStore (Written io store₀ Owner isAdmin)) (OnStore (· = store₀)) := by
      refine write_triple fun store store' hstore hcreate => ?_
      subst hstore
      obtain ⟨middle, hcreate, hprofile⟩ := Outcome.bind_eq_ok.mp hcreate
      have huser : Written io store Owner isAdmin middle :=
        Written.start.newDriver rfl (.inl (by simp [newUser])) hcreate
      exact huser.newProfile (fresh_of_createUser hcreate) rfl
        (Store.upsertProfile_of_createProfile (f := .keep) hprofile)
    refine (hwrite.conseq (fun _ hw => hw) (fun _ _ hw => hw) start_written).bind fun _ => ?_
    exact Triple.pure fun w hw => hw

theorem startDriverLoginOtp_spec (email : Option String) :
    FlowSpec io store₀ Owner isAdmin (OnStore (· = store₀)) (startDriverLoginOtp cfg io email) := by
  refine (ensureDriverUser_triple _).bind fun userId => ?_
  refine (otp_triple fun _ => ⟨rfl, rfl⟩).bind fun _ => ?_
  refine Triple.require_bind (fun w hw => hw) fun _ => ?_
  exact Triple.pure fun w hw => ⟨speaks_message _, hw⟩

theorem forgotPassword_spec (email : String) :
    FlowSpec io store₀ Owner isAdmin (OnStore (· = store₀)) (forgotPassword cfg io email) := by
  refine read_bind .start ?_
  refine from_start ?_
  split
  · exact Triple.pure fun w hw => ⟨speaks_message _, hw⟩
  · refine (otp_triple fun _ => ⟨rfl, rfl⟩).bind fun _ => ?_
    refine Triple.require_bind (fun w hw => hw) fun _ => ?_
    exact Triple.pure fun w hw => ⟨speaks_message _, hw⟩

theorem resetPassword_spec (email otp newPassword : String) :
    FlowSpec io store₀ Owner isAdmin (OnStore (· = store₀))
      (resetPassword cfg io email otp newPassword) := by
  refine read_bind .start ?_
  refine Triple.orThrow_bind start_written fun user _ => ?_
  refine Triple.lift_bind start_written fun _ _ => ?_
  refine from_start ?_
  refine (otp_triple fun _ => ⟨rfl, rfl⟩).bind fun _ => ?_
  exact Triple.pure fun w hw => ⟨speaks_message _, hw⟩

theorem verifyDriverLoginOtp_spec (email otp : String) :
    FlowSpec io store₀ Owner isAdmin (OnStore (· = store₀))
      (verifyDriverLoginOtp cfg io email otp) := by
  refine read_bind .start ?_
  refine Triple.orThrow_bind start_written fun user _ => ?_
  refine Triple.lift_bind start_written fun _ _ => ?_
  refine from_start ?_
  refine (otp_triple fun _ => ⟨rfl, rfl⟩).bind fun _ => ?_
  exact Triple.pure fun w hw => ⟨speaks_message _, hw⟩

theorem verifyOtp_spec {email otp : String}
    (howner : ∀ user, store₀.users.findUnique (.email email) = some user →
      AcceptsOtp cfg io.now user otp → Owner user) :
    FlowSpec io store₀ Owner isAdmin (OnStore (· = store₀)) (verifyOtp cfg io email otp) := by
  refine read_bind .start ?_
  refine Triple.orThrow_bind start_written fun user hfound => ?_
  refine Triple.require_bind start_written fun _ => ?_
  refine Triple.lift_bind start_written fun _ hotp => ?_
  have hrole : RoleOf store₀ Owner isAdmin user.role :=
    roleOf_owner (Table.mem_of_findUnique hfound) (howner user hfound (checkOtp_accepts hotp))
  refine from_start ?_
  refine (otp_triple fun _ => ⟨rfl, rfl⟩).bind fun _ => ?_
  exact Triple.pure fun w hw =>
    ⟨speaks_tokens (fun jwt hjwt => .inl (role_generateTokens jwt hjwt)) hrole, hw⟩

theorem digits_of_normalizePhone {phone normalizedPhone : String}
    (h : normalizePhone phone = .ok normalizedPhone) : normalizedPhone = digits phone := by
  unfold normalizePhone at h
  split at h
  · cases h
  · exact (Except.ok.inj h).symm

theorem verifyManualPhoneOtp_spec {phone otp : String}
    (howner : ∀ user, store₀.users.findUnique (.phone (digits phone)) = some user →
      AcceptsOtp cfg io.now user otp → Owner user) :
    FlowSpec io store₀ Owner isAdmin (OnStore (· = store₀))
      (verifyManualPhoneOtp cfg io phone otp) := by
  refine Triple.lift_bind start_written fun normalizedPhone hphone => ?_
  obtain rfl := digits_of_normalizePhone hphone
  refine read_bind .start ?_
  refine Triple.orThrow_bind start_written fun user hfound => ?_
  refine Triple.lift_bind start_written fun _ hotp => ?_
  have hown : Owner user := howner user hfound (checkOtp_accepts hotp)
  have hrole : RoleOf store₀ Owner isAdmin user.role :=
    roleOf_owner (Table.mem_of_findUnique hfound) hown
  refine from_start ?_
  refine (otp_triple fun _ => ⟨rfl, rfl⟩).bind fun _ => ?_
  refine startSession_triple.bind fun tokens => Triple.intro fun htokens => ?_
  have hspeaks : ∀ status, Speaks store₀ Owner isAdmin (.mobileVerified "Mobile OTP verified"
      (sign cfg io cfg.env.jwtSecret (.manualOnboarding user.id (digits phone))) user.id tokens
      user.role user.email user.phone status) := by
    intro status
    refine speaks_tokens (fun jwt hjwt => ?_) hrole
    rcases List.mem_cons.mp hjwt with rfl | hjwt
    · exact .inr rfl
    · exact .inl (role_generateTokens jwt (htokens ▸ hjwt))
  refine (query_triple.post fun _ w hw => hw.1).bind fun kycProfile => ?_
  refine Triple.ite (fun _ => ?_) fun _ => ?_
  · have hreset : Triple (OnStore (Written io store₀ Owner isAdmin))
        (updateProfile user.id (setKycStatus .IN_PROGRESS))
        (fun _ => OnStore (Written io store₀ Owner isAdmin))
        (OnStore (Written io store₀ Owner isAdmin)) :=
      write_triple fun _ _ h hwrite => h.ownProfile hown (rfl :
        (blankProfile user.id .IN_PROGRESS).userId = user.id)
          (Store.upsertProfile_of_updateProfile hwrite)
    refine hreset.bind fun _ => ?_
    exact Triple.pure fun w hw => ⟨hspeaks _, hw⟩
  · exact Triple.pure fun w hw => ⟨hspeaks _, hw⟩

theorem login_spec {email password : String}
    (howner : ∀ user, store₀.users.findUnique (.email email) = some user →
      cfg.bcryptCompare password user.passwordHash = true → Owner user) :
    FlowSpec io store₀ Owner isAdmin (OnStore (· = store₀)) (login cfg io email password) := by
  refine read_bind .start ?_
  refine Triple.orThrow_bind start_written fun user hfound => ?_
  refine Triple.require_bind start_written fun hmatch => ?_
  refine Triple.require_bind start_written fun _ => ?_
  refine from_start (signedIn_spec (fun _ => rfl) ?_)
  exact roleOf_owner (Table.mem_of_findUnique hfound) (howner user hfound hmatch)

theorem refresh_spec {token : String}
    (howner : ∀ payload user, cfg.verifyAsync (refreshSecret cfg) token io.now = some payload →
      store₀.users.findUnique (.id payload.sub) = some user →
        user.refreshToken = some (cfg.hashOTP token) → Owner user) :
    FlowSpec io store₀ Owner isAdmin (OnStore (· = store₀)) (refresh cfg io token) := by
  refine Triple.require_bind start_written fun _ => ?_
  refine Triple.orThrow_bind start_written fun payload hpayload => ?_
  refine Triple.require_bind start_written fun _ => ?_
  refine read_bind .start ?_
  refine Triple.orThrow_bind start_written fun user hfound => ?_
  refine Triple.orThrow_bind start_written fun stored hstored => ?_
  refine Triple.require_bind start_written fun hmatch => ?_
  have htoken : user.refreshToken = some (cfg.hashOTP token) := by
    rw [hmatch]
    exact (Option.filter_eq_some_iff.mp hstored).1
  refine from_start (signedIn_spec (fun _ => rfl) ?_)
  exact roleOf_owner (Table.mem_of_findUnique hfound) (howner payload user hpayload hfound htoken)

theorem adminVerifyOtp_spec {email otp : String}
    (howner : ∀ user, store₀.users.findUnique (.email email) = some user →
      AcceptsOtp cfg io.now user otp → Owner user) :
    FlowSpec io store₀ Owner isAdmin (OnStore (· = store₀)) (adminVerifyOtp cfg io email otp) := by
  refine Triple.lift_bind start_written fun creds _ => ?_
  refine Triple.require_bind start_written fun _ => ?_
  refine read_bind .start ?_
  refine Triple.orThrow_bind start_written fun user hfound => ?_
  refine Triple.require_bind start_written fun _ => ?_
  refine Triple.lift_bind start_written fun _ hotp => ?_
  have hrole : RoleOf store₀ Owner isAdmin user.role :=
    roleOf_owner (Table.mem_of_findUnique hfound) (howner user hfound (checkOtp_accepts hotp))
  refine from_start ?_
  refine (otp_triple fun _ => ⟨rfl, rfl⟩).bind fun _ => ?_
  exact signedIn_spec (fun _ => rfl) hrole

/-! ### The administrator's password -/

theorem ensureAdminUserExists_triple (hadmin : isAdmin) (email password : String) :
    Triple (OnStore (· = store₀)) (ensureAdminUserExists cfg io email password)
      (fun _ => OnStore (Written io store₀ Owner isAdmin))
      (OnStore (Written io store₀ Owner isAdmin)) := by
  refine read_bind .start ?_
  split
  · refine (createUser_triple rfl (.inr hadmin)).bind fun _ => Triple.intro fun _ => ?_
    exact Triple.pure fun w hw => hw
  · refine from_start ?_
    refine Triple.ite (fun _ => Triple.pure fun w hw => hw) fun _ => ?_
    refine (bookkeeping_triple (fun _ => .inr hadmin) fun _ => rfl).bind fun _ => ?_
    exact Triple.pure fun w hw => hw

theorem adminLogin_spec {email password : String}
    (hadmin : getAdminEnvCreds cfg = .ok (email, password) → isAdmin) :
    FlowSpec io store₀ Owner isAdmin (OnStore (· = store₀)) (adminLogin cfg io email password) := by
  refine Triple.lift_bind start_written fun creds hcreds => ?_
  refine Triple.require_bind start_written fun hmatch => ?_
  obtain ⟨rfl, rfl⟩ := hmatch
  refine (ensureAdminUserExists_triple (hadmin hcreds) _ _).bind fun user => ?_
  exact signedIn_spec (fun _ => rfl) (.inr (.inr (hadmin hcreds)))

/-! ### Provider sessions -/

theorem authorizeOAuth_spec (provider : String) (query : AuthorizeQuery) :
    FlowSpec io store₀ Owner isAdmin (OnStore (· = store₀)) (authorizeOAuth io provider query) := by
  refine Triple.orThrow_bind start_written fun provider _ => ?_
  refine Triple.orThrow_bind start_written fun identifier _ => ?_
  refine from_start ?_
  refine onRegistry_keeps.bind fun session => ?_
  refine Triple.require_bind (fun w hw => hw) fun _ => ?_
  refine Triple.pure fun w hw => ⟨?_, hw⟩
  simp [Speaks, Reply.jwts]

/-- The provider's own tokens carry no role. -/
theorem exchangeOAuthToken_spec (provider : QCommerceProvider) (params : ExchangeParams) :
    FlowSpec io store₀ Owner isAdmin (OnStore (· = store₀))
      (exchangeOAuthToken cfg io provider params) := by
  refine from_start ?_
  refine onRegistry_keeps.bind fun result => Triple.pure fun w hw => ⟨?_, hw⟩
  intro jwt hjwt role hrole
  simp only [Reply.jwts, List.mem_cons, Option.mem_toList] at hjwt
  rcases hjwt with rfl | hjwt
  · cases hrole
  · split at hjwt
    · cases hjwt
      cases hrole
    · cases hjwt

/-- Whoever redeems a session is handed the profile behind it. -/
theorem exchangeAuthorizationCode_spec {oauth : DynamicQCommerce.Config}
    {clock : DynamicQCommerce.Io} {provider : QCommerceProvider} {params : ExchangeParams}
    {registry : Registry} :
    Triple (· = registry) (exchangeAuthorizationCode oauth clock provider params)
      (fun result _ => ∃ session, registry.sessionOf provider params.sessionId = some session ∧
        clock.now ≤ session.expiresAt ∧ session.check oauth params = .ok () ∧
        result.driverProfile =
          (registry.driverRecord oauth session.provider session.identifier).staticProfile)
      (fun _ => True) := by
  have hlive : Triple (· = registry) (liveSession clock provider params.sessionId)
      (fun session r => (registry.sessionOf provider params.sessionId = some session ∧
        clock.now ≤ session.expiresAt) ∧ r = registry) (fun _ => True) := by
    constructor
    · intro r session r' hr hrun
      subst r
      unfold liveSession at hrun
      split at hrun
      · cases hrun
      · split at hrun
        · cases hrun
        · rename_i hfound hlive
          cases hrun
          exact ⟨⟨hfound, not_lt.mp hlive⟩, rfl⟩
    · exact fun _ _ => True.intro
  refine hlive.bind fun session => Triple.intro fun hsession => ?_
  refine Triple.lift_bind (fun _ _ => True.intro) fun _ hcheck => ?_
  have hrecord : Triple (· = registry)
      (ensureDriverRecord oauth session.provider session.identifier)
      (fun record _ => record = registry.driverRecord oauth session.provider session.identifier ∧
        True) (fun _ => True) := by
    constructor
    · intro r record r' hr hrun
      cases hrun
      exact ⟨hr ▸ rfl, True.intro⟩
    · exact fun _ _ => True.intro
  refine hrecord.bind fun record => Triple.intro fun hprofile => ?_
  refine Triple.orThrow_bind (fun _ _ => True.intro) fun secret _ => ?_
  constructor
  · intro r result r' _ hrun
    cases hrun
    exact ⟨session, hsession.1, hsession.2, hcheck, hprofile ▸ rfl⟩
  · exact fun _ _ => True.intro

theorem mem_of_userByEmailCI {email : Option String} {user : User}
    (h : userByEmailCI cfg store₀ email = some user) : user ∈ store₀.users.rows := by
  have hsorted := List.mem_of_head? h
  rw [List.mem_insertionSort] at hsorted
  exact (List.mem_filter.mp hsorted).1

/-- An update of an account that is owned, and what the row is afterwards. -/
theorem ownUser_triple {user : User} {f : RowUpdate User.keys} (huser : user ∈ store₀.users.rows)
    (howner : Owner user) (hf : ∀ user, (f.apply user).role = user.role) :
    Triple (OnStore (· = store₀)) (updateUser user.id f)
      (fun _ => OnStore fun after => Written io store₀ Owner isAdmin after ∧
        after.users.findUnique (.id user.id) = some (f.apply user))
      (OnStore (Written io store₀ Owner isAdmin)) := by
  have hupdate : Triple (OnStore (· = store₀)) (updateUser user.id f)
      (fun _ => OnStore fun after => Written io store₀ Owner isAdmin after ∧
        after.users.findUnique (.id user.id) = some (f.apply user)) (OnStore (· = store₀)) := by
    refine write_triple fun before after hbefore hwrite => ?_
    subst hbefore
    refine ⟨Written.start.ownUser howner hf hwrite, ?_⟩
    obtain ⟨-, rfl⟩ := Store.updateUser_eq_ok hwrite
    have hfound : before.users.findUnique (.id user.id) = some user :=
      (Table.findUnique_eq_some _ _ _).mpr ⟨huser, by simp [User.keys]⟩
    rw [Table.findUnique_update_self, hfound]
    rfl
  exact hupdate.conseq (fun _ hw => hw) (fun _ _ hw => hw) start_written

theorem reread_triple {user : User} {id : String} :
    Triple (OnStore fun after => Written io store₀ Owner isAdmin after ∧
        after.users.findUnique (.id id) = some user) (findUser (.id id))
      (fun reread w => reread = some user ∧ OnStore (Written io store₀ Owner isAdmin) w)
      (OnStore (Written io store₀ Owner isAdmin)) :=
  query_triple.conseq (fun _ hw => hw) (fun _ _ hw => ⟨hw.2.trans hw.1.2, hw.1.1⟩)
    fun _ hw => hw.1

/-- The account that a profile signs in to is new, or the one that its address names. -/
theorem resolveOAuthUser_triple {provider : QCommerceProvider} {profile : StaticProfile}
    {email : String}
    (howner : ∀ user, userByEmailCI cfg store₀ (some email) = some user → Owner user) :
    Triple (OnStore (· = store₀)) (resolveOAuthUser cfg io provider profile email)
      (fun user w => (RoleOf store₀ Owner isAdmin user.role ∧
        (user.id = io.userId ∧ store₀.users.findUnique (.id io.userId) = none ∨
          ∃ owned, Owner owned ∧ owned.id = user.id)) ∧
        OnStore (Written io store₀ Owner isAdmin) w)
      (OnStore (Written io store₀ Owner isAdmin)) := by
  refine read_bind .start ?_
  split
  · refine (createUser_triple rfl (.inl (by simp [newUser]))).bind fun _ => ?_
    refine Triple.intro fun hfresh => ?_
    have hprofile : ∀ verified : Bool, (if verified = true then
        (approve io.now).apply (blankProfile io.userId .APPROVED)
        else blankProfile io.userId .NOT_STARTED).userId = io.userId := by
      intro verified
      split <;> rfl
    refine (createProfile_triple hfresh (hprofile _)).bind fun _ => ?_
    exact Triple.pure fun w hw => ⟨⟨.inl rfl, .inl ⟨rfl, hfresh⟩⟩, hw⟩
  · rename_i user hfound
    have hown := howner user hfound
    have hmem := mem_of_userByEmailCI hfound
    refine Triple.ite (fun _ => ?_) fun _ => ?_
    · refine Triple.pure fun w hw => ⟨⟨roleOf_owner hmem hown, .inr ⟨user, hown, rfl⟩⟩, ?_⟩
      exact start_written w hw
    · have hrole : ∀ other, ((if user.isVerified then setPlatform provider.value
          else verifyOnPlatform provider.value).apply other).role = other.role := by
        intro other
        split <;> rfl
      refine (ownUser_triple hmem hown hrole).bind fun _ => reread_triple.bind fun reread => ?_
      refine Triple.intro fun hreread => ?_
      refine (Triple.orThrow fun w hw => hw).post fun signedIn w hw => ⟨?_, hw.2⟩
      obtain rfl := Option.some.inj (hreread.symm.trans hw.1)
      rw [hrole, id_apply]
      exact ⟨roleOf_owner hmem hown, .inr ⟨user, hown, rfl⟩⟩

theorem exchangeOAuth_spec {registry : Registry} {provider : QCommerceProvider}
    {params : ExchangeParams}
    (howner : ∀ user, exchangedUser cfg io registry store₀ provider params = some user →
      Owner user) :
    FlowSpec io store₀ Owner isAdmin (fun w => w.registry = registry ∧ OnStore (· = store₀) w)
      (exchangeOAuth cfg io provider params) := by
  refine ((onRegistry_triple exchangeAuthorizationCode_spec).conseq (fun _ hw => hw)
    (fun _ _ hw => hw) start_written).bind fun result => Triple.intro fun hresult => ?_
  obtain ⟨-, session, hfound, hlive, hcheck, hprofile⟩ := hresult
  refine Triple.require_bind start_written fun _ => ?_
  have hexchanged : ∀ user, userByEmailCI cfg store₀ (some (normalizeEmail cfg
      (some result.driverProfile.identity.email))) = some user → Owner user := by
    intro user huser
    refine howner user ?_
    have hlive : io.now ≤ session.expiresAt := hlive
    have hemail : result.driverProfile.identity.email = sessionEmail cfg registry session := by
      rw [hprofile]
      rfl
    simp only [exchangedUser, hfound, Option.bind_eq_bind, Option.bind_some, hlive, hcheck,
      true_and, if_true]
    rw [← hemail]
    exact huser
  refine (resolveOAuthUser_triple hexchanged).bind fun user => Triple.intro fun huser => ?_
  have hrecord : Triple (OnStore (Written io store₀ Owner isAdmin))
      (recordProviderKyc io result.driverProfile user.id)
      (fun _ => OnStore (Written io store₀ Owner isAdmin))
      (OnStore (Written io store₀ Owner isAdmin)) := by
    refine Triple.ite (fun _ => ?_) fun _ => Triple.pure fun w hw => hw
    rcases huser.2 with ⟨hid, hfresh⟩ | ⟨owned, hown, hid⟩
    · exact newProfile_triple hfresh hid
    · exact write_triple fun _ _ h hwrite => h.ownProfile hown hid.symm hwrite
  refine hrecord.bind fun _ => ?_
  exact signedIn_spec (fun _ => rfl) huser.1

end Flows

/-! ## Requests -/

/-- A request writes and answers as the accounts it acts for allow. -/
theorem handle_spec (cfg : Config) (io : Io) (w : World) (request : AuthRequest) :
    FlowSpec io w.store (request.ActsFor cfg io w) (request.KnowsAdminPassword cfg)
      (fun w' => w'.registry = w.registry ∧ OnStore (· = w.store) w') (request.handle cfg io) := by
  generalize howns : request.ActsFor cfg io w = Owner
  generalize hknows : request.KnowsAdminPassword cfg = isAdmin
  have hvalid : ∀ {p : Prop} [Decidable p] {e : Exn} {m : Handler Reply},
      FlowSpec io w.store Owner isAdmin (OnStore (· = w.store)) m →
        FlowSpec io w.store Owner isAdmin (OnStore (· = w.store)) (require p e >>= fun _ => m) :=
    fun hm => Triple.require_bind start_written fun _ => hm
  have hstore : ∀ {m : Handler Reply},
      FlowSpec io w.store Owner isAdmin (OnStore (· = w.store)) m →
        FlowSpec io w.store Owner isAdmin
          (fun w' => w'.registry = w.registry ∧ OnStore (· = w.store) w') m :=
    fun hm => Triple.pre hm fun _ hw => hw.2
  have howner : ∀ user, request.account cfg io w.store = some user →
      request.Proves cfg io user → Owner user := by
    intro user haccount hproves
    rw [← howns]
    exact .inl ⟨haccount, hproves⟩
  cases request with
  | register email password => exact hstore (hvalid (hvalid (register_spec email password)))
  | verifyOtp email otp => exact hstore (hvalid (verifyOtp_spec howner))
  | sendManualOtp phone => exact hstore (hvalid (startManualPhoneOtp_spec phone))
  | verifyManualOtp phone otp => exact hstore (hvalid (hvalid (verifyManualPhoneOtp_spec howner)))
  | sendDriverOtp email => exact hstore (startDriverLoginOtp_spec email)
  | verifyDriverOtp email otp => exact hstore (hvalid (verifyDriverLoginOtp_spec email otp))
  | login email password => exact hstore (hvalid (login_spec howner))
  | refresh token =>
      refine hstore (refresh_spec fun payload user hpayload hfound => howner user ?_)
      simp only [AuthRequest.account, hpayload, Option.bind_some]
      exact hfound
  | forgotPassword email => exact hstore (hvalid (forgotPassword_spec email))
  | resetPassword email otp newPassword =>
      exact hstore (hvalid (hvalid (resetPassword_spec email otp newPassword)))
  | adminLogin email password =>
      exact hstore (hvalid (adminLogin_spec fun hcreds => hknows ▸ hcreds))
  | adminVerifyOtp email otp => exact hstore (hvalid (adminVerifyOtp_spec howner))
  | authorizeOAuth provider query => exact hstore (authorizeOAuth_spec provider query)
  | exchangeOAuth provider dto =>
      refine Triple.orThrow_bind (fun w' hw => start_written w' hw.2) fun supported hsupported => ?_
      refine Triple.require_bind (fun w' hw => start_written w' hw.2) fun _ => ?_
      refine exchangeOAuth_spec fun user huser => ?_
      rw [← howns]
      refine .inr ?_
      simp only [AuthRequest.providerAccount, hsupported, Option.bind_eq_bind, Option.bind_some]
      exact huser
  | tokenOAuth provider dto =>
      refine hstore (Triple.orThrow_bind start_written fun supported _ => ?_)
      exact hvalid (exchangeOAuthToken_spec supported dto)

/-- The state that a request finds: what is kept, with a fresh budget of store calls. -/
theorem run_written (cfg : Config) (w : World) (call : AuthCall) :
    Written call.io w.store (call.request.ActsFor cfg call.io w)
      (call.request.KnowsAdminPassword cfg) (step cfg w call).store := by
  have hfinal := (handle_spec cfg call.io w call.request).post fun _ _ hw => hw.2
  exact hfinal.final ⟨rfl, rfl⟩

theorem reply_speaks (cfg : Config) (w : World) (call : AuthCall) {reply : Reply}
    (hreply : call.reply cfg w = .ok reply) :
    Speaks w.store (call.request.ActsFor cfg call.io w) (call.request.KnowsAdminPassword cfg)
      reply := by
  have hstart : { w with storeCalls := call.io.storeCalls }.registry = w.registry ∧
      OnStore (· = w.store) { w with storeCalls := call.io.storeCalls } := ⟨rfl, rfl⟩
  have hrun : call.request.handle cfg call.io { w with storeCalls := call.io.storeCalls } =
      (.ok reply, step cfg w call) := Prod.ext hreply rfl
  exact (Triple.ok (handle_spec cfg call.io w call.request) hstart hrun).1

end Aegis.AuthService
