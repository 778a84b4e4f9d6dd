import Aegis.Verification.Identity.KycMachine
import Aegis.Verification.Insurance.SaleGates
import Aegis.Verification.Payouts.Authorisation

/-! # What stands behind an eligible driver

The gate reads a platform, a status and a consent. Each has its writers, and some of them write
what nobody has shown. -/

namespace Aegis.Identity

open Relation Aegis.Action JsString DynamicQCommerce AuthService KycService Eligibility

/-! ## The law -/

/-- The platform of an account is that provider, whatever its case. -/
def NamesProvider (platform : Option String) (provider : QCommerceProvider) : Prop :=
  platform.map JsString.toLowerCase = some provider.value

instance (platform : Option String) (provider : QCommerceProvider) :
    Decidable (NamesProvider platform provider) := inferInstanceAs (Decidable (_ = _))

section Law

variable (cfg : Config)

/-- An exchange with the provider that is answered with a session of the account. -/
def Completes (provider : QCommerceProvider) (userId : String) (w : World) (call : Call) : Prop :=
  (∃ name dto, call.request = .auth (.exchangeOAuth name dto) ∧
    QCommerceProvider.ofValue? (JsString.toLowerCase name) = some provider) ∧
  ∃ message tokens role driverId providerDriverId email, (call.run cfg w).1 =
    .ok (.auth (.oauthSignedIn message tokens role userId driverId providerDriverId email))

/-- A submission or a review that is answered with the approval of the profile. -/
def ApprovesKyc (userId : String) (w : World) (call : Call) : Prop :=
  (Submits cfg w call userId ∨ Reviews cfg w call userId .APPROVED) ∧
    ∃ reply, (call.run cfg w).1 = .ok reply

/-- The account's own consent, and that it was recorded. -/
def RecordsConsent (userId : String) (w : World) (call : Call) : Prop :=
  Consents cfg w call userId ∧
    ∃ setup, (step cfg w call).store.kycPayoutSetups.findUnique userId = some setup ∧
      setup.financialDataConsent = true

/-- The request writes no platform, approval or consent that it cannot answer for. -/
def Earned (w : World) (call : Call) : Prop :=
  match call.request with
  | .auth (.exchangeOAuth ..) => 5 ≤ call.io.storeCalls
  | .manualSignup dto onboardingToken =>
      ∀ user ∈ signupAccount cfg call.io w.store dto onboardingToken,
        (∀ provider ∈ QCommerceProvider.values,
          NamesProvider (given (dto.platformId.map trim)) provider →
            user.platform = given (dto.platformId.map trim)) ∧
        (isOAuthUser user = true → kycStatus w.store user.id = some .APPROVED →
          4 ≤ call.io.storeCalls)
  | .manualKyc (.uploadBank userId (some _)) =>
      userId ≠ "" → w.store.users.findUnique (.id userId) ≠ none →
        w.store.kycPayoutSetups.findUnique userId ≠ none
  | _ => True

instance (w : World) (call : Call) : Decidable (Earned cfg w call) := by
  obtain ⟨request, -, io⟩ := call
  casesm* Request, AuthService.AuthRequest, ManualKyc.Request, Option _ <;>
    dsimp only [Earned] <;> infer_instance

end Law

theorem mem_values (provider : QCommerceProvider) : provider ∈ QCommerceProvider.values := by
  cases provider <;> decide

theorem isOAuthUser_iff {user : User} :
    isOAuthUser user = true ↔ ∃ provider, NamesProvider user.platform provider := by
  unfold isOAuthUser NamesProvider
  cases user.platform with
  | none => simp
  | some platform =>
      simp only [Option.map_some, Option.some_inj, Bool.and_eq_true, decide_eq_true_eq,
        List.contains_iff_mem, ← QCommerceProvider.map_value_values, List.mem_map]
      constructor
      · rintro ⟨-, provider, -, hvalue⟩
        exact ⟨provider, hvalue.symm⟩
      · rintro ⟨provider, hvalue⟩
        refine ⟨?_, provider, mem_values provider, hvalue.symm⟩
        rintro rfl
        cases provider <;> exact absurd hvalue (by decide)

/-! ## Calls that go through -/

section Stocked

variable {α : Type} {I J : Store → Prop} {n : ℕ}

/-- At least `n` more store calls go through. -/
def Stocked (n : ℕ) (I : Store → Prop) (w : World) : Prop := n ≤ w.storeCalls ∧ I w.store

theorem query_stocked {f : Store → α} :
    Triple (Stocked (n + 1) I) (query f)
      (fun a => Stocked n fun store => I store ∧ a = f store) (fun _ => False) := by
  constructor
  · intro w a w' hw hrun
    unfold query storeCall at hrun
    obtain ⟨hn, hI⟩ := hw
    split at hrun
    · cases hrun
    · rename_i hcalls
      cases hrun
      exact ⟨by simp only; omega, hI, rfl⟩
  · intro w e w' hw hrun
    unfold query storeCall at hrun
    obtain ⟨hn, -⟩ := hw
    split at hrun
    · omega
    · cases hrun

/-- A write that the store does not refuse. -/
theorem write_stocked {f : Store → Except Exn Store}
    (h : ∀ store, I store → ∃ store', f store = .ok store' ∧ J store') :
    Triple (Stocked (n + 1) I) (write f) (fun _ => Stocked n J) (fun _ => False) := by
  constructor
  · intro w a w' hw hrun
    unfold write storeCall at hrun
    obtain ⟨hn, hI⟩ := hw
    obtain ⟨store', hf, hJ⟩ := h w.store hI
    split at hrun
    · cases hrun
    · rename_i hcalls
      simp only [hf, Except.map] at hrun
      cases hrun
      exact ⟨by simp only; omega, hJ⟩
  · intro w e w' hw hrun
    unfold write storeCall at hrun
    obtain ⟨hn, hI⟩ := hw
    obtain ⟨store', hf, -⟩ := h w.store hI
    split at hrun
    · omega
    · simp only [hf, Except.map] at hrun
      cases hrun

/-- A write that the store may refuse. -/
theorem try_stocked {f : Store → Except Exn Store}
    (h : ∀ store store', I store → f store = .ok store' → J store') :
    Triple (Stocked (n + 1) I) (write f) (fun _ => Stocked n J) (OnStore I) := by
  constructor
  · intro w a w' hw hrun
    unfold write storeCall at hrun
    obtain ⟨hn, hI⟩ := hw
    split at hrun
    · cases hrun
    · rename_i hcalls
      cases hf : f w.store with
      | error e =>
          simp only [hf, Except.map] at hrun
          cases hrun
      | ok store' =>
          simp only [hf, Except.map] at hrun
          cases hrun
          exact ⟨by simp only; omega, h _ _ hI hf⟩
  · intro w e w' hw hrun
    exact (write_triple (J := fun _ => True) fun _ _ _ _ => trivial).error hw.2 hrun

theorem stocked_bind {β : Type} {m : Handler α} {f : α → Handler β} {P : World → Prop}
    {Q : α → World → Prop} {R : β → World → Prop} {E : World → Prop}
    (h : Triple P m Q fun _ => False) (hf : ∀ a, Triple (Q a) (f a) R E) :
    Triple P (m >>= f) R E :=
  (h.conseq (fun _ hw => hw) (fun _ _ hw => hw) fun _ hfalse => hfalse.elim).bind hf

end Stocked

/-! ## The exchange -/

section Exchange

variable {cfg : Config} {io : Io} {store₀ store store' : Store} {provider : QCommerceProvider}
  {userId : String}

/-- A profile belongs to an account. -/
def Linked (store : Store) : Prop :=
  ∀ userId, store.users.findUnique (.id userId) = none → store.kycProfiles.findUnique userId = none

/-- An account has signed in through the provider, and nobody else's rows have changed. -/
structure SignedIn (provider : QCommerceProvider) (userId : String) (store₀ store : Store) :
    Prop where
  platform : ∃ user, store.users.findUnique (.id userId) = some user ∧
    user.platform = some provider.value
  others : ∀ id, id ≠ userId → store.users.findUnique (.id id) = store₀.users.findUnique (.id id) ∧
    store.kycProfiles.findUnique id = store₀.kycProfiles.findUnique id
  setups : store.kycPayoutSetups = store₀.kycPayoutSetups
  linked : Linked store

theorem findUnique_update_id_of_ne {t : Table User.keys} {f : RowUpdate User.keys} {id : String}
    (hne : id ≠ userId) : (t.update (.id userId) f).findUnique (.id id) =
      t.findUnique (.id id) := by
  refine Table.findUnique_update_of_notMem fun row hrow hkey => hne ?_
  exact (mem_id_keys_iff.mp (Table.key_of_findUnique hrow)).symm.trans (mem_id_keys_iff.mp hkey)

theorem Linked.updateUser (h : Linked store) (f : RowUpdate User.keys) :
    Linked { store with users := store.users.update (.id userId) f } := by
  intro id hid
  change (store.users.update (.id userId) f).findUnique (.id id) = none at hid
  rw [Table.findUnique_update, Option.map_eq_none_iff] at hid
  exact h id hid

theorem updateUser_ok {user : User} (hfound : store.users.findUnique (.id userId) = some user)
    (f : RowUpdate User.keys) : store.updateUser userId f =
      .ok { store with users := store.users.update (.id userId) f } := by
  simp [Store.updateUser, hfound, Outcome.require, pure, Except.pure, bind, Except.bind]

theorem SignedIn.updateUser (h : SignedIn provider userId store₀ store) {f : RowUpdate User.keys}
    (hf : ∀ user, (f.apply user).platform = user.platform) :
    ∃ store', store.updateUser userId f = .ok store' ∧ SignedIn provider userId store₀ store' := by
  obtain ⟨user, hfound, hplatform⟩ := h.platform
  refine ⟨_, updateUser_ok hfound f, ⟨f.apply user, ?_, (hf user).trans hplatform⟩, ?_, h.setups,
    h.linked.updateUser f⟩
  · change (store.users.update (.id userId) f).findUnique (.id userId) = _
    rw [Table.findUnique_update_self, hfound, Option.map_some]
  · intro id hne
    exact ⟨(findUnique_update_id_of_ne hne).trans (h.others id hne).1, (h.others id hne).2⟩

/-- The account is linked to the provider. -/
theorem SignedIn.of_updateUser (hlinked : Linked store) {user : User}
    (hfound : store.users.findUnique (.id userId) = some user) {f : RowUpdate User.keys}
    (hf : ∀ user, (f.apply user).platform = some provider.value) :
    ∃ store', store.updateUser userId f = .ok store' ∧ SignedIn provider userId store store' := by
  refine ⟨_, updateUser_ok hfound f, ⟨f.apply user, ?_, hf user⟩, ?_, rfl, hlinked.updateUser f⟩
  · change (store.users.update (.id userId) f).findUnique (.id userId) = _
    rw [Table.findUnique_update_self, hfound, Option.map_some]
  · intro id hne
    exact ⟨findUnique_update_id_of_ne hne, rfl⟩

theorem SignedIn.of_createUser (hlinked : Linked store) {user : User}
    (hplatform : user.platform = some provider.value)
    (hwrite : store.createUser user = .ok store') :
    SignedIn provider user.id store store' ∧ store'.kycProfiles.findUnique user.id = none := by
  have hfresh := fresh_of_createUser hwrite
  obtain ⟨users, hcreate, rfl⟩ := Store.createUser_eq_ok hwrite
  have hfound : ∀ id, users.findUnique (.id id) =
      if UserIndex.id id ∈ user.keys then some user else store.users.findUnique (.id id) :=
    fun id => Table.findUnique_create hcreate _
  refine ⟨⟨⟨user, ?_, hplatform⟩, ?_, rfl, ?_⟩, hlinked user.id hfresh⟩
  · exact (hfound user.id).trans (if_pos (mem_id_keys_iff.mpr rfl))
  · intro id hne
    exact ⟨(hfound id).trans (if_neg fun hkey => hne (mem_id_keys_iff.mp hkey).symm), rfl⟩
  · intro id hid
    change users.findUnique (.id id) = none at hid
    rw [hfound] at hid
    split at hid
    · cases hid
    · exact hlinked id hid

/-- A profile of an account that exists can be written. -/
theorem upsertProfile_ok {profile : KYCProfile} {user : User}
    (huser : store.users.findUnique (.id profile.userId) = some user)
    (f : RowUpdate KYCProfile.keys) :
    ∃ kycProfiles, store.kycProfiles.upsert profile.userId profile f = some kycProfiles ∧
      store.upsertProfile profile f = .ok { store with kycProfiles } := by
  cases hfound : store.kycProfiles.findUnique profile.userId with
  | none =>
      obtain ⟨kycProfiles, hcreate⟩ : ∃ t, store.kycProfiles.create profile = some t := by
        refine Table.exists_create fun row hrow key hkey hkey' => ?_
        rw [List.mem_singleton.mp hkey'] at hkey
        exact (Table.findUnique_eq_none _ _).mp hfound row hrow hkey
      refine ⟨kycProfiles, by simp only [Table.upsert, hfound, hcreate], ?_⟩
      simp [Store.upsertProfile, Store.createProfile, hfound, huser, hcreate, Outcome.require,
        Outcome.orThrow, pure, Except.pure, bind, Except.bind]
  | some p =>
      refine ⟨store.kycProfiles.update profile.userId f, by simp only [Table.upsert, hfound], ?_⟩
      simp [Store.upsertProfile, Store.updateProfile, hfound, Outcome.require, pure, Except.pure,
        bind, Except.bind]

theorem SignedIn.upsertProfile (h : SignedIn provider userId store₀ store) {profile : KYCProfile}
    (hid : profile.userId = userId) (f : RowUpdate KYCProfile.keys) :
    ∃ store', store.upsertProfile profile f = .ok store' ∧
      SignedIn provider userId store₀ store' := by
  subst hid
  obtain ⟨user, hfound, hplatform⟩ := h.platform
  obtain ⟨kycProfiles, hupsert, hwrite⟩ := upsertProfile_ok hfound f
  have hrows : ∀ id, id ≠ profile.userId →
      kycProfiles.findUnique id = store.kycProfiles.findUnique id := fun id hne =>
    findUnique_upsert_of_ne KYCProfile.userId (fun _ => rfl) rfl hne.symm hupsert
  refine ⟨_, hwrite, ⟨user, hfound, hplatform⟩, fun id hne => ?_, h.setups, fun id hnone => ?_⟩
  · exact ⟨(h.others id hne).1, (hrows id hne).trans (h.others id hne).2⟩
  · have hne : id ≠ profile.userId := by
      rintro rfl
      exact absurd (hfound.symm.trans hnone) (by simp)
    exact (hrows id hne).trans (h.linked id hnone)

theorem SignedIn.createProfile (h : SignedIn provider userId store₀ store) {profile : KYCProfile}
    (hid : profile.userId = userId) (hnone : store.kycProfiles.findUnique userId = none) :
    ∃ store', store.createProfile profile = .ok store' ∧
      SignedIn provider userId store₀ store' := by
  obtain ⟨store', hwrite, hsigned⟩ := h.upsertProfile hid .keep
  refine ⟨store', ?_, hsigned⟩
  simpa only [Store.upsertProfile, hid, hnone] using hwrite

theorem SignedIn.refl (hlinked : Linked store) {user : User}
    (hfound : store.users.findUnique (.id user.id) = some user)
    (hplatform : user.platform = some provider.value) : SignedIn provider user.id store store :=
  ⟨⟨user, hfound, hplatform⟩, fun _ _ => ⟨rfl, rfl⟩, rfl, hlinked⟩

/-- An account that was there is linked, and read again. -/
theorem linkAccount_stocked (hlinked : Linked store₀) {user : User}
    (hfound : store₀.users.findUnique (.id user.id) = some user) {f : RowUpdate User.keys}
    (hf : ∀ user, (f.apply user).platform = some provider.value) {e : Exn} :
    Triple (Stocked 4 (· = store₀))
      (do
        updateUser user.id f
        let reread ← findUser (.id user.id)
        orThrow reread e)
      (fun user => Stocked 2 (SignedIn provider user.id store₀)) (fun _ => False) := by
  refine Triple.bind (write_stocked (J := SignedIn provider user.id store₀) fun store hstore => ?_)
    fun _ => ?_
  · subst hstore
    exact SignedIn.of_updateUser hlinked hfound hf
  refine Triple.bind query_stocked fun reread => ?_
  cases reread with
  | none =>
      refine Triple.throw fun w hw => ?_
      obtain ⟨-, hsigned, hnone⟩ := hw
      obtain ⟨row, hrow, -⟩ := hsigned.platform
      rw [hrow] at hnone
      cases hnone
  | some row =>
      refine Triple.pure fun w hw => ?_
      obtain ⟨hcalls, hsigned, hrow⟩ := hw
      have hid : row.id = user.id := mem_id_keys_iff.mp (Table.key_of_findUnique hrow.symm)
      exact ⟨hcalls, hid ▸ hsigned⟩

theorem resolveOAuthUser_stocked (hlinked : Linked store₀) {profile : StaticProfile}
    {email : String} :
    Triple (Stocked 5 (· = store₀)) (resolveOAuthUser cfg.toAuth io.toAuth provider profile email)
      (fun user => Stocked 2 (SignedIn provider user.id store₀)) (OnStore (· = store₀)) := by
  refine stocked_bind query_stocked fun found => ?_
  have hread : ∀ w, Stocked 4 (fun store => store = store₀ ∧
      found = userByEmailCI cfg.toAuth store (some email)) w →
        found = userByEmailCI cfg.toAuth store₀ (some email) ∧ Stocked 4 (· = store₀) w := by
    rintro w ⟨hcalls, hstore, hfound⟩
    exact ⟨hstore ▸ hfound, hcalls, hstore⟩
  refine Triple.pre (Triple.intro fun hfound => ?_) hread
  cases found with
  | none =>
      refine (try_stocked (J := fun store => SignedIn provider io.userId store₀ store ∧
        store.kycProfiles.findUnique io.userId = none) fun store store' hstore hwrite => ?_).bind
          fun _ => ?_
      · subst hstore
        exact SignedIn.of_createUser hlinked rfl hwrite
      refine stocked_bind (write_stocked fun store h => h.1.createProfile ?_ h.2) fun _ => ?_
      · split <;> rfl
      exact Triple.pure fun _ hw => hw
  | some user =>
      have hrow : store₀.users.findUnique (.id user.id) = some user :=
        (Table.findUnique_eq_some _ _ _).mpr
          ⟨mem_of_userByEmailCI hfound.symm, mem_id_keys_iff.mpr rfl⟩
      refine Triple.ite (fun hsame => Triple.pure fun w hw => ?_) fun _ => ?_
      · refine ⟨by have := hw.1; omega, ?_⟩
        rw [hw.2]
        exact .refl hlinked hrow hsame.2
      · refine (linkAccount_stocked hlinked hrow fun row => ?_).conseq (fun _ hw => hw)
          (fun _ _ hw => hw) fun _ hfalse => hfalse.elim
        split <;> rfl

theorem exchangeOAuth_stocked (hlinked : Linked store₀) {params : ExchangeParams} :
    Triple (Stocked 5 (· = store₀)) (exchangeOAuth cfg.toAuth io.toAuth provider params)
      (fun reply w => ∃ userId message tokens role driverId providerDriverId email,
        reply = .oauthSignedIn message tokens role userId driverId providerDriverId email ∧
          OnStore (SignedIn provider userId store₀) w)
      (OnStore (· = store₀)) := by
  have hregistry : Triple (Stocked 5 (· = store₀))
      (onRegistry (exchangeAuthorizationCode cfg.oauth io.oauth provider params))
      (fun _ => Stocked 5 (· = store₀)) (OnStore (· = store₀)) := by
    have htrivial : Triple (fun _ => True)
      (exchangeAuthorizationCode cfg.oauth io.oauth provider params) (fun _ _ => True)
        fun _ => True := Triple.trivial
    exact Triple.focus htrivial (fun _ _ => trivial) (fun _ _ _ hw _ => hw) fun _ _ hw _ => hw.2
  refine hregistry.bind fun result => ?_
  refine Triple.require_bind (fun _ hw => hw.2) fun _ => ?_
  refine (resolveOAuthUser_stocked hlinked).bind fun user => ?_
  have hrecord : Triple (Stocked 2 (SignedIn provider user.id store₀))
      (recordProviderKyc io.toAuth result.driverProfile user.id)
      (fun _ => Stocked 1 (SignedIn provider user.id store₀)) (fun _ => False) := by
    refine Triple.ite (fun _ => ?_) fun _ => Triple.pure fun w hw => ⟨by have := hw.1; omega, hw.2⟩
    exact write_stocked fun store h => h.upsertProfile rfl _
  refine stocked_bind hrecord fun _ => ?_
  have hsession : Triple (Stocked 1 (SignedIn provider user.id store₀))
      (startSession cfg.toAuth io.toAuth user)
      (fun _ => Stocked 0 (SignedIn provider user.id store₀)) (fun _ => False) := by
    refine Triple.bind (write_stocked fun store h => h.updateUser fun _ => rfl) fun _ => ?_
    exact Triple.pure fun _ hw => hw
  refine stocked_bind hsession fun tokens => Triple.pure fun w hw => ?_
  exact ⟨_, _, _, _, _, _, _, rfl, hw.2⟩

end Exchange

/-! ## One request -/

/-- The reply is a session, and the state that of an account that has signed in with the provider
of that name. -/
def AnswersExchange (name : String) (store₀ : Store) (reply : AuthService.Reply) (w : World) :
    Prop :=
  ∃ provider userId, QCommerceProvider.ofValue? (JsString.toLowerCase name) = some provider ∧
    (∃ message tokens role driverId providerDriverId email,
      reply = .oauthSignedIn message tokens role userId driverId providerDriverId email) ∧
    OnStore (SignedIn provider userId store₀) w

theorem handle_exchangeOAuth {cfg : Config} {io : Io} {store₀ : Store} (hlinked : Linked store₀)
    (name : String) (dto : ExchangeParams) :
    Triple (Stocked 5 (· = store₀))
      ((AuthRequest.exchangeOAuth name dto).handle cfg.toAuth io.toAuth)
      (AnswersExchange name store₀) (OnStore (· = store₀)) := by
  have hlost : ∀ w, Stocked 5 (· = store₀) w → OnStore (· = store₀) w := fun _ hw => hw.2
  refine Triple.orThrow_bind hlost fun provider hprovider => ?_
  refine Triple.require_bind hlost fun _ =>
    (exchangeOAuth_stocked hlinked).post fun reply w hw => ?_
  obtain ⟨userId, message, tokens, role, driverId, providerDriverId, email, hreply, hsigned⟩ := hw
  exact ⟨provider, userId, hprovider,
    ⟨message, tokens, role, driverId, providerDriverId, email, hreply⟩, hsigned⟩

section Step

variable {cfg : Config} {w : World} {call : Call}

/-- An exchange that the store answers signs an account in or changes no row. -/
theorem exchange_step (hexchanges : call.request.Exchanges) (hearned : Earned cfg w call)
    (hlinked : Linked w.store) :
    (∃ provider userId, Completes cfg provider userId w call ∧
      SignedIn provider userId w.store (step cfg w call).store) ∨
    (step cfg w call).store = w.store := by
  unfold Request.Exchanges at hexchanges
  split at hexchanges
  · rename_i name dto hrequest
    simp only [Earned, hrequest] at hearned
    have hhandle : Triple (Stocked 5 (· = w.store)) (call.request.handle cfg call.io)
        (fun reply w' => ∃ answer, reply = .auth answer ∧ AnswersExchange name w.store answer w')
        (OnStore (· = w.store)) := by
      rw [hrequest]
      exact (handle_exchangeOAuth hlinked name dto).bind fun reply =>
        Triple.pure fun w' hw => ⟨reply, rfl, hw⟩
    have hstart : Stocked 5 (· = w.store) { w with storeCalls := call.io.storeCalls } :=
      ⟨hearned, rfl⟩
    rcases hrun : call.run cfg w with ⟨result, w'⟩
    have hstep : step cfg w call = w' := congrArg Prod.snd hrun
    rw [hstep]
    cases result with
    | error e => exact .inr (hhandle.error hstart hrun)
    | ok reply =>
        obtain ⟨answer, rfl, provider, userId, hprovider, hreply, hsigned⟩ := hhandle.ok hstart hrun
        obtain ⟨message, tokens, role, driverId, providerDriverId, email, rfl⟩ := hreply
        refine .inl ⟨provider, userId, ⟨⟨name, dto, hrequest, hprovider⟩, ?_⟩, hsigned⟩
        exact ⟨message, tokens, role, driverId, providerDriverId, email, congrArg Prod.fst hrun⟩
  · exact hexchanges.elim

theorem signupAccount_found {dto : ManualSignupDto} {onboardingToken : Option String} {user : User}
    {io : Io} {store : Store} (h : signupAccount cfg io store dto onboardingToken = some user) :
    store.users.findUnique (.id user.id) = some user := by
  obtain ⟨normalizedPhone, -, hlookup⟩ := Option.bind_eq_some_iff.mp h
  obtain ⟨index, -, hfound⟩ := Option.bind_eq_some_iff.mp hlookup
  exact Table.findUnique_of_findUnique hfound (mem_id_keys_iff.mpr rfl)

/-- The columns that the gate reads. -/
def SameRows (store store' : Store) : Prop :=
  store'.users = store.users ∧ store'.kycProfiles = store.kycProfiles

def Reopened (userId : String) (store : Store) : Prop := kycStatus store userId = some .IN_PROGRESS

theorem checkEmailFree_stocked {store₀ : Store} {dto : ManualSignupDto} {user : User} :
    Triple (Stocked 3 (· = store₀)) (checkEmailFree dto user) (fun _ => Stocked 2 (· = store₀))
      (OnStore (· = store₀)) := by
  unfold checkEmailFree
  split
  · exact Triple.pure fun w hw => ⟨by have := hw.1; omega, hw.2⟩
  · refine stocked_bind query_stocked fun existing => ?_
    refine Triple.ite (fun _ => Triple.pure fun w hw => ⟨hw.1, hw.2.1⟩) fun _ => ?_
    exact Triple.throw fun w hw => hw.2.1

theorem fillInOnboarding_reopens {dto : ManualSignupDto} {userId : String} :
    Triple (Stocked 1 fun store => store.users.findUnique (.id userId) ≠ none)
      (fillInOnboarding dto userId) (fun _ => OnStore (Reopened userId))
      (OnStore (Reopened userId)) := by
  refine stocked_bind (write_stocked (n := 0) (J := Reopened userId) fun store hrow => ?_)
    fun _ => ?_
  · obtain ⟨row, hrow⟩ := Option.ne_none_iff_exists'.mp hrow
    have hid : (blankProfile userId .IN_PROGRESS).userId = userId := rfl
    rw [← hid] at hrow
    obtain ⟨kycProfiles, hupsert, hwrite⟩ := upsertProfile_ok hrow (setKycStatus .IN_PROGRESS)
    refine ⟨_, hwrite, ?_⟩
    change (kycProfiles.findUnique userId).map KYCProfile.status = some .IN_PROGRESS
    rw [← hid, Table.findUnique_upsert_self hupsert (by simp [KYCProfile.keys])]
    cases store.kycProfiles.findUnique (blankProfile userId .IN_PROGRESS).userId <;> rfl
  · refine Triple.pre (Triple.bind (write_triple fun store store' h hwrite => ?_) fun _ =>
      write_triple fun store store' h hwrite => ?_) fun w hw => hw.2
    · obtain ⟨table, -, hstore⟩ := Outcome.bind_eq_ok.mp hwrite
      cases hstore
      exact h
    · obtain ⟨table, -, hstore⟩ := Outcome.bind_eq_ok.mp hwrite
      cases hstore
      exact h

/-- A signup that the store answers reopens the profile or leaves the account as it was. -/
theorem signup_step {dto : ManualSignupDto} {onboardingToken : Option String} {user : User}
    (hrequest : call.request = .manualSignup dto onboardingToken)
    (huser : signupAccount cfg call.io w.store dto onboardingToken = some user)
    (hcalls : 4 ≤ call.io.storeCalls) :
    SameRows w.store (step cfg w call).store ∨ Reopened user.id (step cfg w call).store := by
  have hsame : ∀ w', OnStore (· = w.store) w' →
      OnStore (fun store => SameRows w.store store ∨ Reopened user.id store) w' :=
    onStore_of_eq (.inl ⟨rfl, rfl⟩)
  have hhandle : Triple (Stocked 4 (· = w.store)) (call.request.handle cfg call.io)
      (fun _ => OnStore fun store => SameRows w.store store ∨ Reopened user.id store)
      (OnStore fun store => SameRows w.store store ∨ Reopened user.id store) := by
    rw [hrequest]
    refine Triple.bind (Q := fun _ => OnStore fun store =>
      SameRows w.store store ∨ Reopened user.id store) ?_ fun _ => Triple.pure fun _ hw => hw
    refine Triple.lift_bind (fun w' hw => hsame w' hw.2) fun normalizedPhone hphone => ?_
    refine stocked_bind query_stocked fun found => ?_
    have hread :
        ∀ w', Stocked 3 (fun store => store = w.store ∧ found = (signupIndex cfg call.io dto
        normalizedPhone onboardingToken).bind store.users.findUnique) w' →
          found = some user ∧ Stocked 3 (· = w.store) w' := by
      rintro w' ⟨hleft, hstore, hfound⟩
      rw [hstore] at hfound
      simp only [signupAccount, hphone, Except.toOption, Option.bind_some] at huser
      exact ⟨hfound.trans huser, hleft, hstore⟩
    refine Triple.pre (Triple.intro fun hfound => ?_) hread
    subst hfound
    refine (checkEmailFree_stocked.conseq (fun _ hw => hw) (fun _ _ hw => hw) hsame).bind
      fun _ => ?_
    have hmodify : Triple (Stocked 2 (· = w.store))
        (modifyUser user.id (signupUpdate cfg dto normalizedPhone))
        (fun _ => Stocked 1 fun store => store.users.findUnique (.id user.id) ≠ none)
        (OnStore (· = w.store)) := by
      refine try_stocked fun store store' hstore hwrite => ?_
      subst hstore
      obtain ⟨users, hmodify, rfl⟩ := Store.modifyUser_eq_ok hwrite
      change users.findUnique (.id user.id) ≠ none
      rw [Table.findUnique_modify hmodify fun row => by simp [mem_id_keys_iff, signupUpdate],
        signupAccount_found huser]
      simp
    refine (hmodify.conseq (fun _ hw => hw) (fun _ _ hw => hw) hsame).bind fun _ => ?_
    refine (fillInOnboarding_reopens.conseq (fun _ hw => hw) (fun _ _ hw => hw)
      fun _ hw => .inr hw).bind fun _ => Triple.pure fun w' hw => .inr hw
  exact hhandle.final ⟨hcalls, rfl⟩

/-- A submission or a review that fails changes nothing. -/
theorem unchanged_of_error {userId : String}
    (h : Submits cfg w call userId ∨ Reviews cfg w call userId .APPROVED) {e : Exn}
    (herror : (call.run cfg w).1 = .error e) : (step cfg w call).store = w.store := by
  have hlost : ∀ w', OnStore (· = w.store) w' → OnStore (· = w.store) w' := fun _ hw => hw
  have hhandle : Triple (OnStore (· = w.store)) (call.request.handle cfg call.io)
      (fun _ _ => True) (OnStore (· = w.store)) := by
    rcases h with ⟨bearer, user, hrequest, -⟩ | ⟨bearer, admin, note, hrequest, -⟩
    · rw [hrequest]
      refine jwtAuthGuard_spec.bind fun user => Triple.intro fun _ => ?_
      refine Triple.bind (Q := fun _ _ => True) (read_bind rfl ?_) fun _ =>
        Triple.pure fun _ _ => trivial
      refine Triple.require_bind hlost fun _ => read_bind rfl ?_
      refine Triple.orThrow_bind hlost fun found _ => Triple.require_bind hlost fun _ => ?_
      refine Triple.bind (write_triple (J := fun _ => True) fun _ _ _ _ => trivial) fun _ => ?_
      exact Triple.pure fun _ _ => trivial
    · rw [hrequest]
      refine adminGuard_spec.bind fun admin => Triple.intro fun _ => ?_
      refine Triple.bind (Q := fun _ _ => True) (Triple.require_bind hlost fun _ => ?_) fun _ =>
        Triple.pure fun _ _ => trivial
      refine Triple.bind (write_triple (J := fun _ => True) fun _ _ _ _ => trivial) fun _ => ?_
      exact Triple.pure fun _ _ => trivial
  rcases hrun : call.run cfg w with ⟨result, w'⟩
  rw [hrun] at herror
  subst herror
  rw [show step cfg w call = w' from congrArg Prod.snd hrun]
  have hstart : OnStore (· = w.store) { w with storeCalls := call.io.storeCalls } := rfl
  exact hhandle.error hstart hrun

end Step

/-! ## Histories -/

section Histories

variable {cfg : Config} {w₀ : World} {calls : List Call} {call : Call}

/-- Every platform, approval and consent in the store has its reason in the history. -/
structure Founded (cfg : Config) (w₀ : World) (calls : List Call) (store : Store) : Prop where
  linked : Linked store
  platform : ∀ userId user provider, store.users.findUnique (.id userId) = some user →
    NamesProvider user.platform provider →
      Run.Sometime (step cfg) (Completes cfg provider userId) w₀ calls
  profile : ∀ userId, kycStatus store userId = some .APPROVED →
    Run.After (step cfg) (ApprovesKyc cfg userId)
      (Run.Always (step cfg) fun w => kycStatus w.store userId = some .APPROVED) w₀ calls ∨
    ∃ user, store.users.findUnique (.id userId) = some user ∧ isOAuthUser user = true
  consent : ∀ userId setup, store.kycPayoutSetups.findUnique userId = some setup →
    setup.financialDataConsent = true →
      Run.Sometime (step cfg) (RecordsConsent cfg userId) w₀ calls

/-- A store in which nothing that the gate reads has changed. -/
theorem Founded.keep (h : Founded cfg w₀ calls (Run.final (step cfg) w₀ calls).store)
    (hsame : (step cfg (Run.final (step cfg) w₀ calls) call).store =
      (Run.final (step cfg) w₀ calls).store) :
    Founded cfg w₀ (calls ++ [call]) (step cfg (Run.final (step cfg) w₀ calls) call).store := by
  rw [hsame]
  refine ⟨h.linked, fun userId user provider hfound hnames => ?_, fun userId hstatus => ?_,
    fun userId setup hfound hconsent => ?_⟩
  · exact (h.platform userId user provider hfound hnames).snoc
  · refine (h.profile userId hstatus).imp_left fun hafter => hafter.always_snoc ?_
    rw [hsame]
    exact hstatus
  · exact (h.consent userId setup hfound hconsent).snoc

theorem namesProvider_unique {platform : Option String} {provider provider' : QCommerceProvider}
    (h : NamesProvider platform provider) (h' : NamesProvider platform provider') :
    provider = provider' := by
  have hvalue : provider.value = provider'.value := Option.some.inj (h.symm.trans h')
  revert hvalue
  cases provider <;> cases provider' <;> decide

theorem namesProvider_value (provider : QCommerceProvider) :
    NamesProvider (some provider.value) provider := by
  cases provider <;> decide

theorem Founded.exchange (h : Founded cfg w₀ calls (Run.final (step cfg) w₀ calls).store)
    (hexchanges : call.request.Exchanges)
    (hearned : Earned cfg (Run.final (step cfg) w₀ calls) call) :
    Founded cfg w₀ (calls ++ [call]) (step cfg (Run.final (step cfg) w₀ calls) call).store := by
  rcases exchange_step hexchanges hearned h.linked with
    ⟨provider, account, hcompletes, hsigned⟩ | hsame
  · obtain ⟨row, hrow, hplatform⟩ := hsigned.platform
    refine ⟨hsigned.linked, fun userId user named hfound hnames => ?_, fun userId hstatus => ?_,
      fun userId setup hfound hconsent => ?_⟩
    · by_cases hid : userId = account
      · subst hid
        obtain rfl := Option.some.inj (hrow.symm.trans hfound)
        rw [hplatform] at hnames
        rw [namesProvider_unique hnames (namesProvider_value provider)]
        exact Run.Sometime.of_last hcompletes
      · rw [(hsigned.others userId hid).1] at hfound
        exact (h.platform userId user named hfound hnames).snoc
    · by_cases hid : userId = account
      · subst hid
        refine .inr ⟨row, hrow, isOAuthUser_iff.mpr ⟨provider, ?_⟩⟩
        rw [hplatform]
        exact namesProvider_value provider
      · have hbefore : kycStatus (Run.final (step cfg) w₀ calls).store userId = some .APPROVED := by
          rw [kycStatus, ← (hsigned.others userId hid).2]
          exact hstatus
        rcases h.profile userId hbefore with hafter | ⟨user, hfound, hoauth⟩
        · exact .inl (hafter.always_snoc hstatus)
        · exact .inr ⟨user, (hsigned.others userId hid).1.trans hfound, hoauth⟩
    · rw [hsigned.setups] at hfound
      exact (h.consent userId setup hfound hconsent).snoc
  · exact h.keep hsame

theorem Change.approves {w : World} {userId : String} {p p' : KYCProfile}
    (h : Change cfg w call userId p p') (hp' : p'.status = .APPROVED) :
    p.status = .APPROVED ∨ Submits cfg w call userId ∨ Reviews cfg w call userId .APPROVED := by
  cases h with
  | kept hkept => exact .inl (hkept.symm.trans hp')
  | filed hfiles =>
      rw [hp'] at hfiles
      rcases status_of_files hfiles with h | h <;> cases h
  | submitted hsubmits _ => exact .inr (.inl hsubmits)
  | reviewed hreviews _ => exact .inr (.inr (hp' ▸ hreviews))
  | started _ h | signedUp _ h | withdrawn _ _ _ h =>
      rw [hp'] at h
      cases h

theorem isOAuthUser_congr {user user' : User} (h : user'.platform = user.platform) :
    isOAuthUser user' = isOAuthUser user := by
  rw [isOAuthUser, isOAuthUser, h]

/-- An approval without a provider outlives no signup. -/
theorem isOAuthUser_of_step {w : World} {userId : String} {user : User}
    (hother : ¬call.request.Exchanges) (hearned : Earned cfg w call)
    (hfound : w.store.users.findUnique (.id userId) = some user) (hoauth : isOAuthUser user = true)
    (hbefore : kycStatus w.store userId = some .APPROVED)
    (hafter : kycStatus (step cfg w call).store userId = some .APPROVED) :
    ∃ user', (step cfg w call).store.users.findUnique (.id userId) = some user' ∧
      isOAuthUser user' = true := by
  have hmoves : Moves cfg w call (step cfg w call).store := step_moves hother
  obtain ⟨user', hfound'⟩ := Option.ne_none_iff_exists'.mp
    (hmoves.users userId (by simp [hfound]))
  rcases hmoves.platform userId user' hfound' with ⟨hnone, -⟩ | hsigns | ⟨before, hrow, hsame⟩
  · rw [hfound] at hnone
    cases hnone
  · obtain ⟨dto, onboardingToken, account, hrequest, haccount, hid, -⟩ := hsigns
    subst hid
    obtain rfl := Option.some.inj ((signupAccount_found haccount).symm.trans hfound)
    simp only [Earned, hrequest] at hearned
    rcases signup_step hrequest haccount ((hearned account haccount).2 hoauth hbefore) with
      hsame | hreopened
    · exact ⟨account, by rw [hsame.1, hfound], hoauth⟩
    · rw [Reopened, hafter] at hreopened
      cases hreopened
  · obtain rfl := Option.some.inj (hfound.symm.trans hrow)
    exact ⟨user', hfound', (isOAuthUser_congr hsame.symm).trans hoauth⟩

theorem Founded.other (h : Founded cfg w₀ calls (Run.final (step cfg) w₀ calls).store)
    (hother : ¬call.request.Exchanges)
    (hearned : Earned cfg (Run.final (step cfg) w₀ calls) call) :
    Founded cfg w₀ (calls ++ [call]) (step cfg (Run.final (step cfg) w₀ calls) call).store := by
  have hmoves : Moves cfg (Run.final (step cfg) w₀ calls) call _ := step_moves hother
  refine ⟨hmoves.linked h.linked, fun userId user provider hfound hnames => ?_,
    fun userId hstatus => ?_, fun userId setup hfound hconsent => ?_⟩
  · rcases hmoves.platform userId user hfound with ⟨-, hnone⟩ | hsigns | ⟨before, hrow, hsame⟩
    · rw [hnone] at hnames
      cases hnames
    · obtain ⟨dto, onboardingToken, account, hrequest, haccount, rfl, hplatform⟩ := hsigns
      simp only [Earned, hrequest] at hearned
      rw [hplatform] at hnames
      have hkept := (hearned account haccount).1 provider (mem_values provider) hnames
      rw [← hkept] at hnames
      exact (h.platform account.id account provider (signupAccount_found haccount) hnames).snoc
    · rw [← hsame] at hnames
      exact (h.platform userId before provider hrow hnames).snoc
  · by_cases happroves : Submits cfg (Run.final (step cfg) w₀ calls) call userId ∨
        Reviews cfg (Run.final (step cfg) w₀ calls) call userId .APPROVED
    · cases hreply : (call.run cfg (Run.final (step cfg) w₀ calls)).1 with
      | error e => exact (h.keep (unchanged_of_error happroves hreply)).profile userId hstatus
      | ok reply => exact .inl (Run.After.of_last ⟨happroves, reply, hreply⟩ hstatus)
    · have hbefore : kycStatus (Run.final (step cfg) w₀ calls).store userId = some .APPROVED := by
        obtain ⟨p', hp', happroved⟩ := Option.map_eq_some_iff.mp hstatus
        have hpath := hmoves.profile userId
        rw [hp'] at hpath
        cases hp : (Run.final (step cfg) w₀ calls).store.kycProfiles.findUnique userId with
        | none =>
            rw [hp] at hpath
            obtain ⟨p, hne, -, hchange⟩ := opened_of_path hpath
            exact absurd ((hchange.approves happroved).resolve_left hne) happroves
        | some p =>
            rw [hp] at hpath
            obtain ⟨q, hq, hchange, -⟩ := change_of_path hpath
            obtain rfl := Option.some.inj hq
            rw [kycStatus, hp, Option.map_some,
              (hchange.approves happroved).resolve_right happroves]
      rcases h.profile userId hbefore with hafter | ⟨user, hfound, hoauth⟩
      · exact .inl (hafter.always_snoc hstatus)
      · exact .inr (isOAuthUser_of_step hother hearned hfound hoauth hbefore hstatus)
  · rcases hmoves.consent userId setup hfound hconsent with
      hconsents | ⟨details, hrequest, hne, huser, hnone⟩ | ⟨before, hrow, hbefore⟩
    · exact Run.Sometime.of_last ⟨hconsents, setup, hfound, hconsent⟩
    · simp only [Earned, hrequest] at hearned
      exact absurd hnone (hearned hne huser)
    · exact (h.consent userId before hrow hbefore).snoc

end Histories

namespace Gate

def env : Eligibility.Env := { enforceDriverEligibility := some "true" }

def world : World where
  store := {}
  registry := .empty
  storeCalls := 0

/-- A login at the provider and the exchange of its code. -/
def exchange : List Call :=
  [Onboarding.send (.auth (.authorizeOAuth "zepto" { identifier := some "ravi@zepto.in" })),
    Onboarding.send
      (.auth (.exchangeOAuth "zepto" { sessionId := "session", code := "abcdef012345" }))]

end Gate

end Aegis.Identity
