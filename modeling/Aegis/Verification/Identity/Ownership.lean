import Aegis.Model.IdentityEndpoints
import Aegis.Verification.Identity.AuthFlows

/-! # Whose data a request may change

The address, the number, the platform, the KYC status and the payout destination of an
account change only by requests that are authenticated as the account or as an
administrator, as long as no request reaches one of the writers that ask for neither. -/

namespace Aegis.ManualKyc

/-- The fields that a request to the manual onboarding must have. -/
def Request.Complete : Request → Prop
  | uploadPan userId panImageUrl => userId ≠ "" ∧ panImageUrl ≠ ""
  | uploadAadhaar userId frontUrl backUrl => userId ≠ "" ∧ frontUrl ≠ "" ∧ backUrl ≠ ""
  | uploadDl userId dlImageUrl => userId ≠ "" ∧ dlImageUrl ≠ ""
  | uploadBank userId _ | submit userId _ => userId ≠ ""
  | getStatus _ => True

instance (request : Request) : Decidable request.Complete := by
  unfold Request.Complete
  split <;> infer_instance

end Aegis.ManualKyc

namespace Aegis.Identity

open Aegis.Action DynamicQCommerce AuthService KycService

/-! ## What is protected, and from whom -/

/-- Where payouts are sent. -/
structure Destination where
  method : PayoutMethod
  upiId : Option String
  accountNumber : Option String
  ifscCode : Option String
  accountHolder : Option String
  deriving DecidableEq, Repr

def destinationOf (setup : KYCPayoutSetup) : Destination :=
  ⟨setup.method, setup.upiId, setup.accountNumber, setup.ifscCode, setup.accountHolder⟩

structure AccountData where
  email : String
  phone : Option String
  platform : Option String
  kycStatus : Option KYCStatus
  destination : Option Destination
  deriving DecidableEq, Repr

/-- The protected data of an account, if there is one. -/
def accountData (store : Store) (userId : String) : Option AccountData :=
  (store.users.findUnique (.id userId)).map fun user =>
    { email := user.email
      phone := user.phone
      platform := user.platform
      kycStatus := (store.kycProfiles.findUnique userId).map KYCProfile.status
      destination := (store.kycPayoutSetups.findUnique userId).map destinationOf }

section Access

variable (cfg : Config) (w : World) (call : Call)

/-- The account that a bearer token was issued for. -/
def bearerSubject (io : Io) (bearer : Option String) : Option String :=
  bearer.bind fun token =>
    (cfg.verifyAsync cfg.env.jwtSecret token io.now).map JwtPayload.sub

def bearerAccount (io : Io) (bearer : Option String) : Option User :=
  (bearerSubject cfg io bearer).bind fun userId => w.store.users.findUnique (.id userId)

/-- The request is authenticated as the account, or as an administrator. A provider session
counts when the account's own holder redeems it. -/
def Authorised (userId : String) : Prop :=
  match call.request with
  | .auth request =>
      (∃ user ∈ request.account cfg.toAuth call.io.toAuth w.store,
        user.id = userId ∧ request.Proves cfg.toAuth call.io.toAuth user) ∨
      (∃ user ∈ request.providerAccount cfg.toAuth call.io.toAuth w,
        user.id = userId ∧ call.sentBy = some userId)
  | .manualSignup _ onboardingToken =>
      onboardingSubject cfg call.io onboardingToken = some userId
  | .user bearer _ => bearerSubject cfg call.io bearer = some userId
  | .admin bearer _ => ∃ admin ∈ bearerAccount cfg w call.io bearer, admin.role = .ADMIN
  | _ => False

instance (userId : String) : Decidable (Authorised cfg w call userId) := by
  unfold Authorised
  split <;> infer_instance

/-- The data of an existing account stay as they are unless the request is authorised. -/
def OwnerOnly : Prop :=
  ∀ userId data, accountData w.store userId = some data → ¬Authorised cfg w call userId →
    accountData (step cfg w call).store userId = some data

/-- The request does not reach a writer that neither a guard, nor an onboarding token, nor
the holder of the provider account stands before. -/
def Guarded : Prop :=
  match call.request with
  | .manualKyc (.getStatus userId) =>
      -- Asking for the status creates a profile where there is none.
      w.store.kycProfiles.findUnique userId ≠ none ∨ w.store.users.findUnique (.id userId) = none
  | .manualKyc request => request.Complete → w.store.users.findUnique (.id request.userId) = none
  | .manualSignup dto onboardingToken =>
      (onboardingSubject cfg call.io onboardingToken).isSome = true ∨
        ∀ phone ∈ (signupPhone dto).toOption,
          (signupIndex cfg call.io dto phone onboardingToken).bind w.store.users.findUnique = none
  | .auth request =>
      ∀ user ∈ request.providerAccount cfg.toAuth call.io.toAuth w, call.sentBy = some user.id
  | _ => True

instance : Decidable (Guarded cfg w call) := by
  unfold Guarded
  split <;> infer_instance

end Access

/-! ## Writes that leave an account alone -/

section Writes

variable {store store' : Store} {u : String} {data : AccountData}

theorem exists_user (h : accountData store u = some data) :
    ∃ user, store.users.findUnique (.id u) = some user := by
  unfold accountData at h
  cases hfound : store.users.findUnique (.id u) with
  | none => simp [hfound] at h
  | some user => exact ⟨user, rfl⟩

/-- The data depend on three rows, of the user's row on three columns. -/
theorem accountData_of_rows {user user' : User} (h : accountData store u = some data)
    (huser : store.users.findUnique (.id u) = some user)
    (huser' : store'.users.findUnique (.id u) = some user') (hemail : user'.email = user.email)
    (hphone : user'.phone = user.phone) (hplatform : user'.platform = user.platform)
    (hprofile : store'.kycProfiles.findUnique u = store.kycProfiles.findUnique u)
    (hsetup : store'.kycPayoutSetups.findUnique u = store.kycPayoutSetups.findUnique u) :
    accountData store' u = some data := by
  simp only [accountData, huser, Option.map_some] at h
  simp only [accountData, huser', Option.map_some, hemail, hphone, hplatform, hprofile, hsetup]
  exact h

theorem accountData_createUser {user : User} (h : accountData store u = some data)
    (hwrite : store.createUser user = .ok store') : accountData store' u = some data := by
  obtain ⟨users, hcreate, rfl⟩ := Store.createUser_eq_ok hwrite
  obtain ⟨old, hold⟩ := exists_user h
  exact accountData_of_rows h hold (Table.findUnique_create_of_some hcreate hold) rfl rfl rfl rfl
    rfl

theorem contact_apply (f : RowUpdate User.keys) (user : User) :
    (f.apply user).email = user.email ∧ (f.apply user).phone = user.phone := by
  have hkeys := f.keys_apply user
  simp only [User.keys, List.cons_append, List.nil_append, List.cons.injEq, UserIndex.id.injEq,
    UserIndex.email.injEq] at hkeys
  refine ⟨hkeys.2.1, ?_⟩
  have hphone := hkeys.2.2
  cases h : (f.apply user).phone <;> cases h' : user.phone <;> simp_all

theorem accountData_updateUser {id : String} {f : RowUpdate User.keys}
    (h : accountData store u = some data)
    (hf : id ≠ u ∨ ∀ user, (f.apply user).platform = user.platform)
    (hwrite : store.updateUser id f = .ok store') : accountData store' u = some data := by
  obtain ⟨-, rfl⟩ := Store.updateUser_eq_ok hwrite
  obtain ⟨old, hold⟩ := exists_user h
  have hnew := Table.findUnique_update store.users (.id id) f (.id u)
  rw [hold, Option.map_some] at hnew
  by_cases hid : UserIndex.id id ∈ old.keys
  · rw [if_pos hid] at hnew
    have hplatform : (f.apply old).platform = old.platform := by
      rcases hf with hne | hf
      · have hid' : old.id = id := by simpa [User.keys, eq_comm] using hid
        have hu : old.id = u := by simpa [User.keys, eq_comm] using Table.key_of_findUnique hold
        exact absurd (hid'.symm.trans hu) hne
      · exact hf old
    exact accountData_of_rows h hold hnew (contact_apply f old).1 (contact_apply f old).2 hplatform
      rfl rfl
  · rw [if_neg hid] at hnew
    exact accountData_of_rows h hold hnew rfl rfl rfl rfl rfl

theorem accountData_modifyUser {id : String} {f : User → User} (h : accountData store u = some data)
    (hid : id ≠ u) (hwrite : store.modifyUser id f = .ok store') :
    accountData store' u = some data := by
  obtain ⟨users, hmodify, rfl⟩ := Store.modifyUser_eq_ok hwrite
  obtain ⟨old, hold⟩ := exists_user h
  have hu : old.id = u := by simpa [User.keys, eq_comm] using Table.key_of_findUnique hold
  have hnotMem : UserIndex.id id ∉ old.keys := by
    intro hmem
    have hold : old.id = id := by simpa [User.keys, eq_comm] using hmem
    exact hid (hold.symm.trans hu)
  exact accountData_of_rows h hold (Table.findUnique_modify_of_notMem hmodify hold hnotMem)
    rfl rfl rfl rfl rfl

/-- Rows under another user's id. -/
theorem findUnique_upsert_of_ne {ρ : Type} {keys : ρ → List String} {t t' : Table keys}
    {userId : String} {r : ρ} {f : RowUpdate keys} (owner : ρ → String)
    (hkeys : ∀ r, keys r = [owner r]) (hr : owner r = userId) (hne : userId ≠ u)
    (h : t.upsert userId r f = some t') : t'.findUnique u = t.findUnique u := by
  refine Table.findUnique_upsert_of_notMem h ?_ fun s hs => ?_
  · simp [hkeys, hr, hne.symm]
  · have hu : u = owner s := by simpa [hkeys] using Table.key_of_findUnique hs
    simp [hkeys, ← hu, hne]

theorem accountData_upsertProfile {profile : KYCProfile} {f : RowUpdate KYCProfile.keys}
    (h : accountData store u = some data) (hid : profile.userId ≠ u)
    (hwrite : store.upsertProfile profile f = .ok store') : accountData store' u = some data := by
  obtain ⟨kycProfiles, hupsert, rfl⟩ := Store.upsertProfile_eq_ok hwrite
  obtain ⟨old, hold⟩ := exists_user h
  exact accountData_of_rows h hold hold rfl rfl rfl
    (findUnique_upsert_of_ne KYCProfile.userId (fun _ => rfl) rfl hid hupsert) rfl

theorem upsertRow_eq_ok {ρ : Type} {keys : ρ → List String} {t t' : Table keys} {userId : String}
    {r : ρ} {f : RowUpdate keys} (h : upsertRow store t userId r f = .ok t') :
    t.upsert userId r f = some t' := by
  simp only [upsertRow, Outcome.bind_eq_ok, Outcome.orThrow_eq_ok] at h
  exact h.choose_spec.2

theorem accountData_upsertPayoutSetup {row : KYCPayoutSetup} {f : RowUpdate KYCPayoutSetup.keys}
    (h : accountData store u = some data) (hid : row.userId ≠ u)
    (hwrite : upsertPayoutSetup store row f = .ok store') : accountData store' u = some data := by
  obtain ⟨setups, hupsert, hstore⟩ := Outcome.bind_eq_ok.mp hwrite
  cases hstore
  obtain ⟨old, hold⟩ := exists_user h
  exact accountData_of_rows h hold hold rfl rfl rfl rfl
    (findUnique_upsert_of_ne KYCPayoutSetup.userId (fun _ => rfl) rfl hid (upsertRow_eq_ok hupsert))

/-- The other tables of the questionnaire hold none of the data. -/
theorem accountData_of_row {ρ : Type} {keys : ρ → List String} {x : Except Exn (Table keys)}
    {put : Table keys → Store} (hput : ∀ table, accountData (put table) u = accountData store u)
    (h : accountData store u = some data)
    (hwrite : (do let table ← x; pure (put table)) = Except.ok store') :
    accountData store' u = some data := by
  obtain ⟨table, -, hstore⟩ := Outcome.bind_eq_ok.mp hwrite
  cases hstore
  rw [hput, h]

/-- The writes of a sign-in flow reach only the accounts it acts for. -/
theorem accountData_written {io : AuthService.Io} {store₀ : Store} {Owner : User → Prop}
    {isAdmin : Prop} (h : accountData store₀ u = some data)
    (howner : ∀ user, Owner user → user.id ≠ u)
    (hwritten : Written io store₀ Owner isAdmin store) : accountData store u = some data := by
  induction hwritten with
  | start => exact h
  | newDriver _ _ _ hwrite ih => exact accountData_createUser ih hwrite
  | newProfile _ hfresh hid hwrite ih =>
      refine accountData_upsertProfile ih ?_ hwrite
      rintro rfl
      obtain ⟨user, huser⟩ := exists_user h
      rw [hid, hfresh] at huser
      cases huser
  | bookkeeping _ _ hplatform hwrite ih => exact accountData_updateUser ih (.inr hplatform) hwrite
  | ownUser _ hown _ hwrite ih => exact accountData_updateUser ih (.inl (howner _ hown)) hwrite
  | ownProfile _ hown hid hwrite ih =>
      exact accountData_upsertProfile ih (hid ▸ howner _ hown) hwrite

end Writes

end Aegis.Identity
