import Aegis.Library.Run
import Aegis.Verification.Identity.Writes

/-! # One account for each address

Five flows write addresses. Each looks for an account in its own way, and the index of the
table compares exact strings only. -/

namespace Aegis.Identity

open Aegis.Action JsString DynamicQCommerce AuthService KycService

/-! ## The law -/

inductive AccountRequest where
  | register (email password : String)
  | startManualPhoneOtp (phone : String)
  | signupManual (dto : ManualSignupDto) (onboardingToken : Option String)
  | startDriverLoginOtp (email : Option String)
  | exchangeOAuth (provider : QCommerceProvider) (params : ExchangeParams)
  deriving DecidableEq

structure AccountCall where
  request : AccountRequest
  io : Io
  /-- The provider logins since the call before. -/
  logins : Registry → Registry := id

section Law

variable (cfg : Config)

def AccountRequest.handle (io : Io) : AccountRequest → Handler PUnit
  | register email password => do
      let _ ← AuthService.register cfg.toAuth io.toAuth email password
      pure ⟨⟩
  | startManualPhoneOtp phone => do
      let _ ← AuthService.startManualPhoneOtp cfg.toAuth io.toAuth phone
      pure ⟨⟩
  | signupManual dto onboardingToken => do
      let _ ← Identity.signupManual cfg io dto onboardingToken
      pure ⟨⟩
  | startDriverLoginOtp email => do
      let _ ← AuthService.startDriverLoginOtp cfg.toAuth io.toAuth email
      pure ⟨⟩
  | exchangeOAuth provider params => do
      let _ ← AuthService.exchangeOAuth cfg.toAuth io.toAuth provider params
      pure ⟨⟩

def AccountCall.step (w : World) (call : AccountCall) : World :=
  (call.request.handle cfg call.io
    { w with registry := call.logins w.registry, storeCalls := call.io.storeCalls }).2

/-- The address of an account, up to the spaces around it and case. -/
def SameAddress (email : String) (user : User) : Prop :=
  normalizeEmail cfg.toAuth (some user.email) = normalizeEmail cfg.toAuth (some email)

/-- No two accounts have addresses that are equal after trimming and lower-casing. -/
def OneAccount (store : Store) : Prop :=
  ∀ u ∈ store.users.rows, ∀ v ∈ store.users.rows, SameAddress cfg u.email v → u = v

instance (email : String) (user : User) : Decidable (SameAddress cfg email user) :=
  inferInstanceAs (Decidable (_ = _))

instance (store : Store) : Decidable (OneAccount cfg store) :=
  inferInstanceAs (Decidable (∀ _ ∈ _, _))

/-- Some account but the one under `userId` has the address. -/
def Taken (store : Store) (userId email : String) : Prop :=
  ∃ u ∈ store.users.rows, u.id ≠ userId ∧ SameAddress cfg email u

instance (store : Store) (userId email : String) : Decidable (Taken cfg store userId email) :=
  inferInstanceAs (Decidable (∃ _ ∈ _, _))

/-- Where another account has the address already, the call's own lookup or the index of the table
finds one. -/
def Recognised (w : World) (call : AccountCall) : Prop :=
  let users := w.store.users
  let newId := call.io.userId
  match call.request with
  | .register email _ =>
      Taken cfg w.store newId email → users.findUnique (.email email) ≠ none
  | .startManualPhoneOtp phone =>
      Taken cfg w.store newId (manualAddress (digits phone)) →
        users.findUnique (.phone (digits phone)) ≠ none ∨
        users.findUnique (.email (manualAddress (digits phone))) ≠ none
  | .signupManual dto onboardingToken =>
      ∀ user ∈ signupAccount cfg call.io w.store dto onboardingToken,
      ∀ email ∈ given (dto.email.map fun email => cfg.toLowerCase (trim email)),
        Taken cfg w.store user.id email → ∃ other ∈ users.rows, other.id ≠ user.id ∧
          (given (dto.email.map trim) = some other.email ∨ email = other.email)
  | .startDriverLoginOtp email =>
      let email := normalizeEmail cfg.toAuth email
      Taken cfg w.store newId email → userByEmailCI cfg.toAuth w.store (some email) ≠ none
  | .exchangeOAuth provider params =>
      let registry := call.logins w.registry
      ∀ session ∈ registry.sessionOf provider params.sessionId,
        let email := normalizeEmail cfg.toAuth (some (sessionEmail cfg.toAuth registry session))
        Taken cfg w.store newId email → userByEmailCI cfg.toAuth w.store (some email) ≠ none

instance (w : World) (call : AccountCall) : Decidable (Recognised cfg w call) := by
  unfold Recognised
  split <;> infer_instance

end Law

/-! ## Writes -/

section Writes

variable {cfg : Config} {id : String} {store₀ store store' : Store}

/-- The rows kept their addresses, but for one account whose address no other account had. -/
def Readdressed (cfg : Config) (id : String) (store₀ store : Store) : Prop :=
  ∀ u ∈ store.users.rows,
    (∃ u₀ ∈ store₀.users.rows, u₀.id = u.id ∧ u₀.email = u.email) ∨
    (u.id = id ∧ ¬Taken cfg store₀ id u.email)

theorem Readdressed.refl : Readdressed cfg id store store := fun u hu => .inl ⟨u, hu, rfl, rfl⟩

theorem user_eq_of_id {u v : User} (hu : u ∈ store.users.rows) (hv : v ∈ store.users.rows)
    (hid : u.id = v.id) : u = v :=
  Table.eq_of_mem_keys (k := .id u.id) hu hv (by simp [User.keys]) (by simp [User.keys, hid])

theorem Readdressed.oneAccount (h : Readdressed cfg id store₀ store)
    (hone : OneAccount cfg store₀) : OneAccount cfg store := by
  intro u hu v hv hsame
  refine user_eq_of_id hu hv ?_
  rcases h u hu with ⟨u₀, hu₀, hid, hemail⟩ | ⟨hid, hfree⟩
  · rcases h v hv with ⟨v₀, hv₀, hid', hemail'⟩ | ⟨hid', hfree'⟩
    · have hrow : u₀ = v₀ := by
        refine hone u₀ hu₀ v₀ hv₀ ?_
        rw [SameAddress, hemail, hemail']
        exact hsame
      rw [← hid, ← hid', hrow]
    · by_contra hne
      refine hfree' ⟨u₀, hu₀, fun hu => hne ?_, ?_⟩
      · rw [← hid, hu, hid']
      · rw [SameAddress, hemail]
        exact hsame.symm
  · rcases h v hv with ⟨v₀, hv₀, hid', hemail'⟩ | ⟨hid', -⟩
    · by_contra hne
      refine hfree ⟨v₀, hv₀, fun hv => hne ?_, ?_⟩
      · rw [hid, ← hv, hid']
      · rw [SameAddress, hemail']
        exact hsame
    · rw [hid, hid']

theorem Readdressed.of_users (h : Readdressed cfg id store₀ store)
    (husers : store'.users = store.users) : Readdressed cfg id store₀ store' := by
  rw [Readdressed, husers]
  exact h

theorem Readdressed.updateUser (h : Readdressed cfg id store₀ store) {userId : String}
    {f : RowUpdate User.keys} (hwrite : store.updateUser userId f = .ok store') :
    Readdressed cfg id store₀ store' := by
  obtain ⟨-, rfl⟩ := Store.updateUser_eq_ok hwrite
  intro u hu
  obtain ⟨row, hrow, rfl⟩ := Table.mem_update.mp hu
  split
  · rw [id_apply, (contact_apply f row).1]
    exact h row hrow
  · exact h row hrow

theorem Readdressed.createUser {user : User} (hfree : ¬Taken cfg store user.id user.email)
    (hwrite : store.createUser user = .ok store') : Readdressed cfg user.id store store' := by
  obtain ⟨users, hcreate, rfl⟩ := Store.createUser_eq_ok hwrite
  intro u hu
  rcases (Table.mem_create hcreate).mp hu with hu | rfl
  · exact .inl ⟨u, hu, rfl, rfl⟩
  · exact .inr ⟨rfl, hfree⟩

theorem Readdressed.modifyUser {f : User → User} (hid : ∀ user, (f user).id = user.id)
    (hfree : ∀ user ∈ store.users.rows, user.id = id →
      (f user).email = user.email ∨ ¬Taken cfg store id (f user).email)
    (hwrite : store.modifyUser id f = .ok store') : Readdressed cfg id store store' := by
  obtain ⟨users, hmodify, rfl⟩ := Store.modifyUser_eq_ok hwrite
  intro u hu
  obtain ⟨row, hrow, rfl⟩ := (Table.mem_modify hmodify).mp hu
  split
  · rename_i hkey
    have hrowId : row.id = id := by simpa [User.keys, eq_comm] using hkey
    rcases hfree row hrow hrowId with hemail | hfree
    · exact .inl ⟨row, hrow, (hid row).symm, hemail.symm⟩
    · exact .inr ⟨(hid row).trans hrowId, hfree⟩
  · exact .inl ⟨row, hrow, rfl, rfl⟩

/-- An address that the index already holds is not written a second time. -/
theorem notMem_email_of_createUser {user : User} (hwrite : store.createUser user = .ok store') :
    store.users.findUnique (.email user.email) = none := by
  obtain ⟨users, hcreate, -⟩ := Store.createUser_eq_ok hwrite
  refine (Table.findUnique_eq_none _ _).mpr fun other hother hkey => ?_
  exact (Table.create_eq_some hcreate).1 other hother _ hkey (by simp [User.keys])

/-- Nor is one that a modified row would share with another. -/
theorem email_ne_of_modifyUser {f : User → User} (hf : ∀ user, (f user).id = user.id)
    {user other : User} (huser : user ∈ store.users.rows) (hid : user.id = id)
    (hother : other ∈ store.users.rows) (hne : other.id ≠ id)
    (hwrite : store.modifyUser id f = .ok store') : other.email ≠ (f user).email := by
  obtain ⟨users, hmodify, rfl⟩ := Store.modifyUser_eq_ok hwrite
  intro hemail
  have hkept : other ∈ users.rows :=
    (Table.mem_modify hmodify).mpr ⟨other, hother, by simp [User.keys, hne.symm]⟩
  have hmodified : f user ∈ users.rows :=
    (Table.mem_modify hmodify).mpr ⟨user, huser, by simp [User.keys, hid]⟩
  have heq : other = f user :=
    Table.eq_of_mem_keys (k := .email other.email) hkept hmodified (by simp [User.keys])
      (by simp [User.keys, hemail])
  exact hne (by rw [heq, hf, hid])

end Writes

/-! ## The five flows -/

section Flows

variable {cfg : Config} {w : World} {call : AccountCall} {store : Store}

/-- The request to the server that a flow answers. -/
def AccountRequest.toRequest : AccountRequest → Request
  | register email password => .auth (.register email password)
  | startManualPhoneOtp phone => .auth (.sendManualOtp phone)
  | signupManual dto onboardingToken => .manualSignup dto onboardingToken
  | startDriverLoginOtp email => .auth (.sendDriverOtp email)
  | exchangeOAuth provider params => .auth (.exchangeOAuth provider.value params)

/-- What the flow finds when the logins before it are over. -/
def AccountCall.found (call : AccountCall) (w : World) : World :=
  { w with registry := call.logins w.registry }

def AccountCall.toCall (call : AccountCall) : Call := ⟨call.request.toRequest, none, call.io⟩

theorem ofValue?_toLowerCase_value (provider : QCommerceProvider) :
    QCommerceProvider.ofValue? (JsString.toLowerCase provider.value) = some provider := by
  cases provider <;> decide

theorem redeems_exchangeOAuth {provider : QCommerceProvider} {params : ExchangeParams}
    (hrequest : call.request = .exchangeOAuth provider params) :
    call.toCall.request.Redeems provider params.sessionId := by
  refine ⟨provider.value, params, ?_, ofValue?_toLowerCase_value provider, rfl⟩
  rw [AccountCall.toCall, hrequest]
  rfl

/-- A flow writes as the request does that it answers. -/
theorem handle_accountWrites :
    WritesOnly cfg (call.found w) call.toCall True
      (fun w' => w'.registry = (call.found w).registry ∧ OnStore (· = w.store) w')
      (call.request.handle cfg call.io) := by
  have hdone : ∀ {α : Type} {P : World → Prop} {m : Handler α},
      WritesOnly cfg (call.found w) call.toCall True P m →
        WritesOnly cfg (call.found w) call.toCall True P
          (m >>= fun _ => (pure PUnit.unit : Handler PUnit)) :=
    fun hm => Triple.bind hm fun _ => Triple.pure fun _ hw => hw
  have hsent {request : AccountRequest} (hrequest : call.request = request) :
      call.toCall.request = request.toRequest := congrArg AccountRequest.toRequest hrequest
  cases hrequest : call.request with
  | register email password =>
      refine hdone ?_
      exact (register_concludes (hsent hrequest)).writes.pre fun _ hw => hw.2
  | startManualPhoneOtp phone =>
      refine hdone ?_
      exact (startManualPhoneOtp_concludes (hsent hrequest)).writes.pre fun _ hw => hw.2
  | signupManual dto onboardingToken =>
      refine hdone ?_
      exact (signupManual_writes (hsent hrequest)).pre fun _ hw => hw.2
  | startDriverLoginOtp email =>
      refine hdone ?_
      exact (startDriverLoginOtp_concludes (hsent hrequest)).writes.pre fun _ hw => hw.2
  | exchangeOAuth provider params =>
      refine hdone ?_
      exact (exchangeOAuth_concludes (redeems_exchangeOAuth hrequest)).writes

/-- A new account has an address that no other account had. -/
theorem not_taken_of_opens {user : User} (hrecognised : Recognised cfg w call)
    (hopens : Opens cfg (call.found w) call.toCall user)
    (hnone : w.store.users.findUnique (.email user.email) = none) :
    ¬Taken cfg w.store user.id user.email := by
  obtain ⟨request, io, logins⟩ := call
  intro htaken
  cases hopens with
  | registered hrequest hfound =>
      cases request <;> cases hrequest
      exact hrecognised htaken hfound
  | ofNumber hrequest hfound =>
      cases request <;> cases hrequest
      exact (hrecognised htaken).elim (fun hsome => hsome hfound) fun hsome => hsome hnone
  | ofDriver hrequest hfound =>
      cases request <;> cases hrequest
      exact hrecognised htaken hfound
  | ofAdmin hrequest =>
      obtain ⟨_, _, hrequest⟩ | ⟨_, hrequest⟩ := hrequest <;> cases request <;> cases hrequest
  | ofProvider hredeems hsession hfound =>
      obtain ⟨name, dto, hrequest, hsupported, rfl⟩ := hredeems
      cases request <;> cases hrequest
      obtain rfl := Option.some.inj ((ofValue?_toLowerCase_value _).symm.trans hsupported)
      exact hrecognised _ hsession htaken hfound

/-- A signup keeps the address of the account, or writes one that no other account had. -/
theorem Readdressed.signUp {dto : ManualSignupDto} {normalizedPhone : Option String}
    {user : User} {store' : Store}
    (hrecognised : ∀ email ∈ given (dto.email.map fun email => cfg.toLowerCase (trim email)),
      Taken cfg store user.id email → ∃ other ∈ store.users.rows, other.id ≠ user.id ∧
        (given (dto.email.map trim) = some other.email ∨ email = other.email))
    (hfree : ∀ other ∈ store.users.rows, given (dto.email.map trim) = some other.email →
      other.id = user.id)
    (hwrite : store.modifyUser user.id (signupUpdate cfg dto normalizedPhone) = .ok store') :
    Readdressed cfg user.id store store' := by
  have hkept : ∀ row, (signupUpdate cfg dto normalizedPhone row).id = row.id := fun _ => rfl
  refine Readdressed.modifyUser hkept (fun row hrow hid => ?_) hwrite
  cases hemail : given (dto.email.map fun email => cfg.toLowerCase (trim email)) with
  | none => exact .inl (by simp only [signupUpdate, hemail, Option.getD_none])
  | some email =>
      have hnew : (signupUpdate cfg dto normalizedPhone row).email = email := by
        simp only [signupUpdate, hemail, Option.getD_some]
      refine .inr fun htaken => ?_
      rw [hnew] at htaken
      obtain ⟨other, hother, hne, hgiven | hother'⟩ := hrecognised email hemail htaken
      · exact hne (hfree other hother hgiven)
      · exact email_ne_of_modifyUser hkept hrow hid hother hne hwrite (hother'.symm.trans hnew.symm)

theorem Readdressed.write {store' : Store} (hrecognised : Recognised cfg w call)
    (h : ∃ id, Readdressed cfg id w.store store)
    (hwrite : Write cfg (call.found w) call.toCall True store store') :
    ∃ id, Readdressed cfg id w.store store' := by
  obtain ⟨id, hkept⟩ := h
  cases hwrite with
  | createUser hopens hwrite =>
      have hnone := notMem_email_of_createUser hwrite
      exact ⟨_, Readdressed.createUser (not_taken_of_opens hrecognised hopens hnone) hwrite⟩
  | updateUser _ hwrite => exact ⟨id, hkept.updateUser hwrite⟩
  | signUp hrequest haccount hfree hwrite =>
      obtain ⟨request, io, logins⟩ := call
      cases request <;> cases hrequest
      exact ⟨_, Readdressed.signUp (hrecognised _ haccount) hfree hwrite⟩
  | nameAdmin hrequest _ =>
      obtain ⟨request, io, logins⟩ := call
      cases request <;> cases hrequest
  | createProfile _ hwrite =>
      obtain ⟨_, -, rfl⟩ := Store.createProfile_eq_ok hwrite
      exact ⟨id, hkept.of_users rfl⟩
  | updateProfile _ hwrite =>
      exact ⟨id, hkept.of_users (by rw [Store.updateProfile_eq_ok hwrite])⟩
  | upsertPayoutSetup _ _ hwrite =>
      obtain ⟨_, -, hstore⟩ := Outcome.bind_eq_ok.mp hwrite
      cases hstore
      exact ⟨id, hkept.of_users rfl⟩
  | elsewhere husers => exact ⟨id, hkept.of_users husers⟩

end Flows

/-! ## Runs -/

/-- A call opens no second account for an address as long as it recognises the first. -/
theorem step_oneAccount {cfg : Config} (w : World) (call : AccountCall)
    (hone : OneAccount cfg w.store) (h : Recognised cfg w call) :
    OneAccount cfg (call.step cfg w).store := by
  have hwrites : Writes cfg (call.found w) call.toCall True (call.step cfg w).store :=
    handle_accountWrites.final ⟨rfl, rfl⟩
  obtain ⟨id, hkept⟩ := hwrites.keeps ⟨call.io.userId, .refl⟩ fun _ _ hkept hwrite =>
    Readdressed.write h hkept hwrite
  exact hkept.oneAccount hone

/-- In every run from an empty table whose calls recognise the accounts there are, no two accounts
ever share an address. -/
theorem always_oneAccount (cfg : Config) (w : World) (calls : List AccountCall)
    (hempty : w.store.users.rows = [])
    (hrecognised : Run.Along (fun w call => call.step cfg w) (Recognised cfg) w calls) :
    Run.Always (fun w call => call.step cfg w) (fun w => OneAccount cfg w.store) w calls := by
  refine Run.always_of_step step_oneAccount ?_ hrecognised
  intro u hu
  rw [hempty] at hu
  cases hu

namespace Registrations

def cfg : Config where
  toAuth := AuthService.Stranger.cfg
  patchMeta _ _ := "{}"

def world : World where
  store := {}
  registry := .empty
  storeCalls := 0

def send (userId : String) (request : AccountRequest) : AccountCall where
  request := request
  io := { AuthService.Stranger.ioAt 1000 with userId := userId, fraudAnalysisId := "fraud" }

end Registrations

open Registrations in
/-- The driver's login finds the account whatever the case of its address. -/
theorem always_oneAccount_login :
    Run.Always (fun w call => call.step cfg w) (fun w => OneAccount cfg w.store) world
      [send "ravi" (.register "Ravi@zepto.in" "password"),
        send "other" (.startDriverLoginOtp (some " ravi@zepto.in")),
        send "asha" (.startManualPhoneOtp "9876543210")] :=
  always_oneAccount cfg world _ rfl (by decide +kernel)

open Registrations in
/-- A registration under the same address in lower case opens a second account. -/
theorem not_always_oneAccount :
    ¬Run.Always (fun w call => call.step cfg w) (fun w => OneAccount cfg w.store) world
      [send "ravi" (.register "Ravi@zepto.in" "password"),
        send "other" (.register "ravi@zepto.in" "password")] := by
  intro h
  exact absurd h.last (by decide +kernel)

end Aegis.Identity
