import Aegis.Verification.Identity.RefreshSessions

/-! # One-time codes

An account holds at most one one-time code and the hash of at most one refresh token. A code lets
someone in once, within ten minutes, and only for the account that it was sent to. -/

namespace Aegis.Identity

open Relation Aegis.Action JsString DynamicQCommerce AuthService KycService

/-! ## Every write of a credential -/

/-- The columns of an account that let someone in. -/
structure Credentials where
  otpCode : Option String
  otpExpiresAt : Option ℤ
  refreshToken : Option String
  deriving DecidableEq, Repr

def credentialsOf (user : User) : Credentials :=
  ⟨user.otpCode, user.otpExpiresAt, user.refreshToken⟩

def credentials (users : Table User.keys) (userId : String) : Option Credentials :=
  (users.findUnique (.id userId)).map credentialsOf

section Law

variable (cfg : Config) (w : World) (call : Call)

/-- One write of the credentials of an account. -/
inductive CredentialWrite (userId : String) : Option Credentials → Option Credentials → Prop
  | opened : CredentialWrite userId none (some ⟨none, none, none⟩)
  | sent {c} : addressee cfg w call = some userId → CredentialWrite userId (some c)
      (some { c with
        otpCode := some (cfg.hashOTP (generateOTP call.io.toAuth))
        otpExpiresAt := some (otpExpiresAt call.io.toAuth) })
  | used {c} : PresentsCode cfg w call userId →
      CredentialWrite userId (some c) (some { c with otpCode := none, otpExpiresAt := none })
  | signedIn {c email role} : CredentialWrite userId (some c)
      (some { c with
        refreshToken := some (cfg.hashOTP
          (cfg.signAsync (refreshSecret cfg.toAuth) (.session userId email role) call.io.now)) })
  | loggedOut {c} : CredentialWrite userId (some c) (some { c with refreshToken := none })

/-- What a request may have done to the credentials that it found. -/
def Credited (store : Store) : Prop :=
  ∀ userId, ReflTransGen (CredentialWrite cfg w call userId) (credentials w.store.users userId)
    (credentials store.users userId)

end Law

section Writes

variable {cfg : Config} {w : World} {call : Call} {store store' : Store}

theorem Credited.refl : Credited cfg w call w.store := fun _ => .refl

theorem Credited.of_users (h : Credited cfg w call store) (husers : store'.users = store.users) :
    Credited cfg w call store' := by
  intro userId
  rw [husers]
  exact h userId

theorem credentials_of_find {users : Table User.keys} {userId : String} {user : User}
    (h : users.findUnique (.id userId) = some user) :
    credentials users userId = some (credentialsOf user) := by
  rw [credentials, h, Option.map_some]

theorem Credited.updateUser (h : Credited cfg w call store) {userId : String}
    {f : RowUpdate User.keys}
    (hf : ∀ user, ReflTransGen (CredentialWrite cfg w call userId) (some (credentialsOf user))
      (some (credentialsOf (f.apply user))))
    (hwrite : store.updateUser userId f = .ok store') : Credited cfg w call store' := by
  obtain ⟨hfound, rfl⟩ := Store.updateUser_eq_ok hwrite
  intro id
  have hpath := h id
  change ReflTransGen _ _ (credentials (store.users.update (.id userId) f) id)
  by_cases hid : id = userId
  · subst hid
    obtain ⟨user, huser⟩ := Option.ne_none_iff_exists'.mp hfound
    rw [credentials_of_find huser] at hpath
    have hafter : (store.users.update (.id id) f).findUnique (.id id) = some (f.apply user) := by
      rw [Table.findUnique_update_self, huser, Option.map_some]
    rw [credentials_of_find hafter]
    exact hpath.trans (hf user)
  · have hsame : credentials (store.users.update (.id userId) f) id =
        credentials store.users id := by
      rw [credentials, findUnique_update_id_of_ne hid, credentials]
    rw [hsame]
    exact hpath

theorem Credited.createUser (h : Credited cfg w call store) {user : User}
    (hnew : ReflTransGen (CredentialWrite cfg w call user.id) none (some (credentialsOf user)))
    (hwrite : store.createUser user = .ok store') : Credited cfg w call store' := by
  have hfresh := fresh_of_createUser hwrite
  obtain ⟨users, hcreate, rfl⟩ := Store.createUser_eq_ok hwrite
  intro id
  have hpath := h id
  change ReflTransGen _ _ (credentials users id)
  have hfound := Table.findUnique_create hcreate (.id id)
  split at hfound
  · rename_i hkey
    obtain rfl := mem_id_keys_iff.mp hkey
    have hnone : credentials store.users user.id = none := by
      rw [credentials, hfresh, Option.map_none]
    rw [credentials_of_find hfound]
    exact (hnone ▸ hpath).trans hnew
  · have hsame : credentials users id = credentials store.users id := by
      rw [credentials, hfound, credentials]
    rw [hsame]
    exact hpath

theorem Credited.modifyUser (h : Credited cfg w call store) {userId : String} {f : User → User}
    (hid : ∀ user, (f user).id = user.id) (hf : ∀ user, credentialsOf (f user) = credentialsOf user)
    (hwrite : store.modifyUser userId f = .ok store') : Credited cfg w call store' := by
  obtain ⟨users, hmodify, rfl⟩ := Store.modifyUser_eq_ok hwrite
  intro id
  have hkept : ∀ row, credentialsOf (if UserIndex.id userId ∈ row.keys then f row else row) =
      credentialsOf row := by
    intro row
    split
    · exact hf row
    · rfl
  have hsame : credentials users id = credentials store.users id := by
    have hkeys : ∀ row, UserIndex.id id ∈ (f row).keys ↔ UserIndex.id id ∈ row.keys := by
      intro row
      rw [mem_id_keys_iff, mem_id_keys_iff, hid]
    rw [credentials, Table.findUnique_modify hmodify hkeys, Option.map_map, credentials]
    simp only [Function.comp_def, hkept]
  change ReflTransGen _ _ (credentials users id)
  rw [hsame]
  exact h id

/-- A new account holds no token, and a code only where it is sent one. -/
theorem Opens.credited {user : User} (h : Opens cfg w call user) :
    ReflTransGen (CredentialWrite cfg w call user.id) none (some (credentialsOf user)) := by
  cases h with
  | registered hrequest =>
      have haddressee : addressee cfg w call = some call.io.userId := by
        rw [addressee, hrequest]
      have hsent : CredentialWrite cfg w call call.io.userId (some ⟨none, none, none⟩)
          (some ⟨some (cfg.hashOTP (generateOTP call.io.toAuth)),
            some (otpExpiresAt call.io.toAuth), none⟩) := .sent haddressee
      exact (ReflTransGen.single .opened).tail hsent
  | _ => exact .single .opened

theorem UserWrite.credited {isSession : Prop} {userId : String} {f : RowUpdate User.keys}
    (h : UserWrite cfg w call isSession userId f) (user : User) :
    ReflTransGen (CredentialWrite cfg w call userId) (some (credentialsOf user))
      (some (credentialsOf (f.apply user))) := by
  cases h with
  | sent haddressee => exact .single (.sent haddressee)
  | confirmed hpresents | cleared hpresents | reset hpresents => exact .single (.used hpresents)
  | signedIn => exact .single .signedIn
  | loggedOut => exact .single .loggedOut
  | provisioned | verified | linked | named => exact .refl

/-- What one write preserves. -/
theorem Credited.write {isSession : Prop} (h : Credited cfg w call store)
    (hwrite : Write cfg w call isSession store store') : Credited cfg w call store' := by
  cases hwrite with
  | createUser hopens hwrite => exact h.createUser hopens.credited hwrite
  | updateUser hupdate hwrite => exact h.updateUser hupdate.credited hwrite
  | signUp _ _ _ hwrite | nameAdmin _ hwrite =>
      refine h.modifyUser ?_ ?_ hwrite
      · exact fun _ => rfl
      · exact fun _ => rfl
  | createProfile _ hwrite =>
      obtain ⟨_, -, rfl⟩ := Store.createProfile_eq_ok hwrite
      exact h.of_users rfl
  | updateProfile _ hwrite => exact h.of_users (by rw [Store.updateProfile_eq_ok hwrite])
  | upsertPayoutSetup _ _ hwrite =>
      obtain ⟨_, -, hstore⟩ := Outcome.bind_eq_ok.mp hwrite
      cases hstore
      exact h.of_users rfl
  | elsewhere husers => exact h.of_users husers

/-- What any request may have done to the credentials of any account. -/
theorem step_credited (cfg : Config) (w : World) (call : Call) :
    Credited cfg w call (step cfg w call).store :=
  (step_writes cfg w call).keeps .refl fun _ _ h hwrite => h.write hwrite

end Writes

/-! ## Codes that are used -/

section Uses

variable (cfg : Config) (w : World) (call : Call)

/-- The request presents a code for the account and is answered. -/
def Uses (userId otp : String) : Prop :=
  presentedCode call.request = some otp ∧ (∃ user ∈ presenter cfg w call, user.id = userId) ∧
    ∃ reply, (call.run cfg w).1 = .ok reply

def UsesNone (userId : String) : Prop := ∀ otp, ¬Uses cfg w call userId otp

/-- The request makes this code for the account, whether or not the mail gets through; the code is
still valid at that time. -/
def SendsCode (userId otp : String) (now : ℤ) : Prop :=
  addressee cfg w call = some userId ∧
    cfg.hashOTP (generateOTP call.io.toAuth) = cfg.hashOTP otp ∧ now ≤ otpExpiresAt call.io.toAuth

end Uses

def NoCodes (store : Store) : Prop := ∀ user ∈ store.users.rows, user.otpCode = none

instance (store : Store) : Decidable (NoCodes store) := inferInstanceAs (Decidable (∀ _ ∈ _, _))

/-! ## Where a stored code comes from -/

section Stored

variable {cfg : Config} {w : World} {call : Call} {userId : String}

/-- A code that is there after a request was there before or is sent by it. -/
theorem code_of_path {c c' : Option Credentials}
    (h : ReflTransGen (CredentialWrite cfg w call userId) c c') {d : Credentials}
    (hd : c' = some d) (hcode : d.otpCode ≠ none) :
    (∃ e, c = some e ∧ e.otpCode = d.otpCode ∧ e.otpExpiresAt = d.otpExpiresAt) ∨
    (addressee cfg w call = some userId ∧
      d.otpCode = some (cfg.hashOTP (generateOTP call.io.toAuth)) ∧
      d.otpExpiresAt = some (otpExpiresAt call.io.toAuth)) := by
  induction h generalizing d with
  | refl => exact .inl ⟨d, hd, rfl, rfl⟩
  | tail _ hwrite ih =>
      cases hwrite with
      | opened =>
          cases hd
          exact absurd rfl hcode
      | sent haddressee =>
          cases hd
          exact .inr ⟨haddressee, rfl, rfl⟩
      | used =>
          cases hd
          exact absurd rfl hcode
      | @signedIn c email role =>
          cases hd
          exact ih (d := c) rfl hcode
      | @loggedOut c =>
          cases hd
          exact ih (d := c) rfl hcode

end Stored

/-! ## What a use leaves -/

/-- The account holds no code. -/
def Spent (userId : String) (store : Store) : Prop :=
  ∀ user, store.users.findUnique (.id userId) = some user → user.otpCode = none

section Spending

variable {cfg : Config} {w : World} {call : Call} {userId otp : String}

theorem clear_spends {f : RowUpdate User.keys} (hf : ∀ user, (f.apply user).otpCode = none) :
    Triple (OnStore fun _ => True) (updateUser userId f) (fun _ => OnStore (Spent userId))
      (OnStore fun _ => True) := by
  refine write_triple fun store store' _ hwrite => ?_
  obtain ⟨-, rfl⟩ := Store.updateUser_eq_ok hwrite
  intro user huser
  change (store.users.update (.id userId) f).findUnique (.id userId) = some user at huser
  rw [Table.findUnique_update_self, Option.map_eq_some_iff] at huser
  obtain ⟨row, -, rfl⟩ := huser
  exact hf row

theorem Spent.of_users {store store' : Store} (h : Spent userId store)
    (husers : store'.users = store.users) : Spent userId store' := by
  intro user huser
  exact h user (husers ▸ huser)

theorem startSession_spent {user : User} :
    Triple (OnStore (Spent userId)) (startSession cfg.toAuth call.io.toAuth user)
      (fun _ => OnStore (Spent userId)) (OnStore fun _ => True) := by
  refine Triple.bind (Q := fun _ => OnStore (Spent userId)) ?_ fun _ => Triple.pure fun _ hw => hw
  refine (write_triple (J := Spent userId) fun store store' h hwrite => ?_).conseq (fun _ hw => hw)
    (fun _ _ hw => hw) fun _ _ => trivial
  obtain ⟨-, rfl⟩ := Store.updateUser_eq_ok hwrite
  intro row hrow
  change (store.users.update _ _).findUnique (.id userId) = some row at hrow
  rw [Table.findUnique_update, Option.map_eq_some_iff] at hrow
  obtain ⟨before, hbefore, rfl⟩ := hrow
  split
  · exact h before hbefore
  · exact h before hbefore

/-- What the flows that take a code have shown when they are answered. -/
def Redeems (cfg : Config) (w : World) (call : Call) (otp : String) {α : Type} (m : Handler α) :
    Prop :=
  Triple (OnStore (· = w.store)) m
    (fun _ w' => ∃ user, presenter cfg w call = some user ∧
      AcceptsOtp cfg.toAuth call.io.now user otp ∧ OnStore (Spent user.id) w')
    (OnStore fun _ => True)

theorem any_store {I : Store → Prop} : ∀ w, OnStore I w → OnStore (fun _ => True) w :=
  fun _ _ => trivial

/-- From the check on: the code is cleared, and what follows leaves it so. -/
theorem Redeems.of_check {missing : String} {user : User} {f : RowUpdate User.keys} {α : Type}
    {m : Handler α} (huser : presenter cfg w call = some user)
    (hf : ∀ user, (f.apply user).otpCode = none)
    (hm : Triple (OnStore (Spent user.id)) m (fun _ => OnStore (Spent user.id))
      (OnStore fun _ => True)) :
    Redeems cfg w call otp (lift (checkOtp cfg.toAuth call.io.toAuth missing user otp) >>= fun _ =>
      updateUser user.id f >>= fun _ => m) := by
  refine Triple.lift_bind any_store fun _ hotp => ?_
  refine Triple.bind ((clear_spends hf).pre any_store) fun _ => ?_
  exact hm.post fun _ _ hw => ⟨user, huser, checkOtp_accepts hotp, hw⟩

theorem verifyOtp_redeems {email : String}
    (hrequest : call.request = .auth (.verifyOtp email otp)) :
    Redeems cfg w call otp (verifyOtp cfg.toAuth call.io.toAuth email otp) := by
  refine read_bind trivial (Triple.orThrow_bind any_store fun user hfound => ?_)
  refine Triple.require_bind any_store fun _ => ?_
  exact Redeems.of_check (by rw [presenter, hrequest]; exact hfound) (fun _ => rfl)
    (Triple.pure fun _ hw => hw)

theorem verifyManualPhoneOtp_redeems {phone : String}
    (hrequest : call.request = .auth (.verifyManualOtp phone otp)) :
    Redeems cfg w call otp (verifyManualPhoneOtp cfg.toAuth call.io.toAuth phone otp) := by
  refine Triple.lift_bind any_store fun normalizedPhone hphone => ?_
  obtain rfl := digits_of_normalizePhone hphone
  refine read_bind trivial (Triple.orThrow_bind any_store fun user hfound => ?_)
  refine Redeems.of_check (by rw [presenter, hrequest]; exact hfound) (fun _ => rfl) ?_
  refine startSession_spent.bind fun tokens => ?_
  have hquery : Triple (OnStore (Spent user.id)) (findProfile user.id)
      (fun _ => OnStore (Spent user.id)) (OnStore fun _ => True) :=
    query_triple.conseq (fun _ hw => hw) (fun _ _ hw => hw.1) any_store
  refine hquery.bind fun profile => Triple.ite (fun _ => ?_) fun _ => Triple.pure fun _ hw => hw
  have hwithdraw : Triple (OnStore (Spent user.id))
      (updateProfile user.id (setKycStatus .IN_PROGRESS)) (fun _ => OnStore (Spent user.id))
      (OnStore fun _ => True) := by
    refine (write_triple (J := Spent user.id) fun store store' h hwrite => ?_).conseq
      (fun _ hw => hw) (fun _ _ hw => hw) any_store
    exact h.of_users (by rw [Store.updateProfile_eq_ok hwrite])
  exact hwithdraw.bind fun _ => Triple.pure fun _ hw => hw

theorem verifyDriverLoginOtp_redeems {email : String}
    (hrequest : call.request = .auth (.verifyDriverOtp email otp)) :
    Redeems cfg w call otp (verifyDriverLoginOtp cfg.toAuth call.io.toAuth email otp) := by
  refine read_bind trivial (Triple.orThrow_bind any_store fun user hfound => ?_)
  exact Redeems.of_check (by rw [presenter, hrequest]; exact hfound) (fun _ => rfl)
    (Triple.pure fun _ hw => hw)

theorem resetPassword_redeems {email newPassword : String}
    (hrequest : call.request = .auth (.resetPassword email otp newPassword)) :
    Redeems cfg w call otp (resetPassword cfg.toAuth call.io.toAuth email otp newPassword) := by
  refine read_bind trivial (Triple.orThrow_bind any_store fun user hfound => ?_)
  exact Redeems.of_check (by rw [presenter, hrequest]; exact hfound) (fun _ => rfl)
    (Triple.pure fun _ hw => hw)

theorem adminVerifyOtp_redeems {email : String}
    (hrequest : call.request = .auth (.adminVerifyOtp email otp)) :
    Redeems cfg w call otp (adminVerifyOtp cfg.toAuth call.io.toAuth email otp) := by
  refine Triple.lift_bind any_store fun creds _ => Triple.require_bind any_store fun _ => ?_
  refine read_bind trivial (Triple.orThrow_bind any_store fun user hfound => ?_)
  refine Triple.require_bind any_store fun _ => ?_
  refine Redeems.of_check (by rw [presenter, hrequest]; exact hfound) (fun _ => rfl) ?_
  exact startSession_spent.bind fun _ => Triple.pure fun _ hw => hw

/-- A use has shown the stored code in time, and it is gone afterwards. -/
theorem Uses.redeemed (h : Uses cfg w call userId otp) :
    ∃ user, presenter cfg w call = some user ∧ user.id = userId ∧
      AcceptsOtp cfg.toAuth call.io.now user otp ∧ Spent userId (step cfg w call).store := by
  obtain ⟨hcode, ⟨user, huser, rfl⟩, reply, hreply⟩ := h
  have hvalid : ∀ {p : Prop} [Decidable p] {e : Exn} {α : Type} {m : Handler α},
      Redeems cfg w call otp m → Redeems cfg w call otp (require p e >>= fun _ => m) :=
    fun hm => Triple.require_bind any_store fun _ => hm
  have hhandle : Redeems cfg w call otp (call.request.handle cfg call.io) := by
    cases hrequest : call.request with
    | auth request =>
        refine Triple.bind (Q := fun _ w' => ∃ user, presenter cfg w call = some user ∧
          AcceptsOtp cfg.toAuth call.io.now user otp ∧ OnStore (Spent user.id) w') ?_
            fun _ => Triple.pure fun _ hw => hw
        rw [hrequest] at hcode
        cases request with
        | verifyOtp email code =>
            cases hcode
            exact hvalid (verifyOtp_redeems hrequest)
        | verifyManualOtp phone code =>
            cases hcode
            exact hvalid (hvalid (verifyManualPhoneOtp_redeems hrequest))
        | verifyDriverOtp email code =>
            cases hcode
            exact hvalid (verifyDriverLoginOtp_redeems hrequest)
        | resetPassword email code newPassword =>
            cases hcode
            exact hvalid (hvalid (resetPassword_redeems hrequest))
        | adminVerifyOtp email code =>
            cases hcode
            exact hvalid (adminVerifyOtp_redeems hrequest)
        | _ => cases hcode
    | _ =>
        rw [hrequest] at hcode
        cases hcode
  obtain ⟨shown, hshown, haccepts, hspent⟩ := hhandle.ok (show OnStore (· = w.store)
    { w with storeCalls := call.io.storeCalls } from rfl) (Prod.ext hreply rfl)
  obtain rfl := Option.some.inj (huser.symm.trans hshown)
  exact ⟨user, huser, rfl, haccepts, hspent⟩

end Spending

/-! ## Runs -/

section Runs

variable {cfg : Config} {w : World} {call : Call} {userId otp : String}

theorem mem_of_presenter {user : User} (h : presenter cfg w call = some user) :
    user ∈ w.store.users.rows := by
  unfold presenter at h
  split at h
  · rename_i request _
    cases request with
    | verifyDriverOtp email code => exact mem_of_userByEmailCI h
    | refresh token =>
        obtain ⟨payload, -, hfound⟩ := Option.bind_eq_some_iff.mp h
        exact Table.mem_of_findUnique hfound
    | verifyOtp email code | login email password | resetPassword email code newPassword
    | adminVerifyOtp email code | verifyManualOtp phone code => exact Table.mem_of_findUnique h
    | _ => cases h
  · cases h

/-- Since the code was sent, nobody has been let in to the account by a code. -/
def SentSince (cfg : Config) (w : World) (calls : List Call) (userId code : String)
    (expiresAt : Option ℤ) : Prop :=
  Run.After (step cfg)
    (fun w call => addressee cfg w call = some userId ∧
      cfg.hashOTP (generateOTP call.io.toAuth) = code ∧
        expiresAt = some (otpExpiresAt call.io.toAuth))
    (Run.Along (step cfg) fun w call => UsesNone cfg w call userId) w calls

theorem sentSince_of_code {calls : List Call} (hw : NoCodes w.store) {user : User} {code : String}
    (huser : (Run.final (step cfg) w calls).store.users.findUnique (.id userId) = some user)
    (hcode : user.otpCode = some code) : SentSince cfg w calls userId code user.otpExpiresAt := by
  induction calls using List.reverseRecOn generalizing user with
  | nil =>
      rw [hw user (Table.mem_of_findUnique huser)] at hcode
      cases hcode
  | append_singleton calls call ih =>
      rw [Run.final_snoc] at huser
      have hpath := step_credited cfg (Run.final (step cfg) w calls) call userId
      have hafter := credentials_of_find huser
      rcases code_of_path hpath hafter (by simp [credentialsOf, hcode]) with
        ⟨e, hbefore, hsame, hexpires⟩ | ⟨haddressee, hsent, hexpires⟩
      · -- The code was there before, so this request has not used it up.
        obtain ⟨before, hfound, rfl⟩ := Option.map_eq_some_iff.mp hbefore
        have hsince := ih hfound (hsame.trans hcode)
        have hunused : UsesNone cfg (Run.final (step cfg) w calls) call userId := by
          intro otp huse
          obtain ⟨-, -, -, -, hspent⟩ := huse.redeemed
          rw [hspent user huser] at hcode
          cases hcode
        rw [show before.otpExpiresAt = user.otpExpiresAt from hexpires] at hsince
        refine hsince.snoc fun r rest hfinal hrest => Run.along_append.mpr ⟨hrest, ?_, trivial⟩
        rw [hfinal]
        exact hunused
      · refine Run.After.of_last ⟨haddressee, ?_, hexpires⟩ trivial
        exact Option.some.inj (hsent.symm.trans hcode)

end Runs

/-- Whoever is let in to an account by a code presents one that a request sent to this account in
the last ten minutes, and nobody has been let in by a code between the two. -/
theorem use_follows_sending (cfg : Config) (w : World) (calls : List Call) (call : Call)
    (userId otp : String) (hw : NoCodes w.store)
    (huse : Uses cfg (Run.final (step cfg) w calls) call userId otp) :
    Run.After (step cfg) (fun w sending => SendsCode cfg w sending userId otp call.io.now)
      (Run.Along (step cfg) fun w other => UsesNone cfg w other userId) w calls := by
  obtain ⟨user, huser, rfl, ⟨hcode, expiresAt, hexpires, hlive⟩, -⟩ := huse.redeemed
  have hfound := (Table.findUnique_eq_some _ (.id user.id) user).mpr
    ⟨mem_of_presenter huser, mem_id_keys_iff.mpr rfl⟩
  have hsince := sentSince_of_code hw hfound hcode
  refine hsince.mono ?_ fun _ _ h => h
  rintro w' sending ⟨haddressee, hsent, hlatest⟩
  refine ⟨haddressee, hsent, ?_⟩
  rw [hexpires] at hlatest
  exact Option.some.inj hlatest ▸ hlive

/-- A password that is reset with the code that was asked for before. -/
theorem use_follows_sending_reset :
    Run.After (step SignedText.cfg)
      (fun w sending => SendsCode SignedText.cfg w sending "ravi" "123456" 2000)
      (Run.Along (step SignedText.cfg) fun w other => UsesNone SignedText.cfg w other "ravi")
      (SignedText.world SignedText.ravi)
      [SignedText.send 1000 (.auth (.forgotPassword "ravi@zepto.in"))] :=
  use_follows_sending SignedText.cfg (SignedText.world SignedText.ravi) _
    (SignedText.send 2000 (.auth (.resetPassword "ravi@zepto.in" "123456" "battery staple")))
    "ravi" "123456" (by decide) ⟨rfl, ⟨_, rfl, rfl⟩, _, rfl⟩

end Aegis.Identity
