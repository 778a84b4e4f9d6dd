import Aegis.Library.Run
import Aegis.Verification.Identity.AdminTokens
import Aegis.Verification.Identity.Ownership

/-! # Only the owner changes the data of an account

A handler that is given an account leaves every other account alone. A request that is
not authorised for an account is therefore either refused or handled for another one. -/

namespace Aegis.Identity

open Aegis.Action DynamicQCommerce AuthService KycService

/-- The data of the account are still these. -/
def Intact (u : String) (data : AccountData) : World → Prop :=
  OnStore fun store => accountData store u = some data

section Handlers

variable {u userId : String} {data : AccountData}

theorem query_keeps {α : Type} {f : Store → α} : Keeps (Intact u data) (query f) :=
  query_triple.post fun _ _ hw => hw.1

theorem write_keeps {f : Store → Except Exn Store}
    (h : ∀ store store', accountData store u = some data → f store = .ok store' →
      accountData store' u = some data) : Keeps (Intact u data) (write f) := write_triple h

theorem updateUser_keeps {f : RowUpdate User.keys} (hid : userId ≠ u) :
    Keeps (Intact u data) (updateUser userId f) :=
  write_keeps fun _ _ h hwrite => accountData_updateUser h (.inl hid) hwrite

theorem modifyUser_keeps {f : User → User} (hid : userId ≠ u) :
    Keeps (Intact u data) (modifyUser userId f) :=
  write_keeps fun _ _ h hwrite => accountData_modifyUser h hid hwrite

theorem upsertProfile_keeps {profile : KYCProfile} {f : RowUpdate KYCProfile.keys}
    (hid : profile.userId ≠ u) : Keeps (Intact u data) (upsertProfile profile f) :=
  write_keeps fun _ _ h hwrite => accountData_upsertProfile h hid hwrite

theorem createProfile_keeps {profile : KYCProfile} (hid : profile.userId ≠ u) :
    Keeps (Intact u data) (createProfile profile) := by
  refine write_keeps fun store store' h hwrite => ?_
  exact accountData_upsertProfile h hid (Store.upsertProfile_of_createProfile (f := .keep) hwrite)

theorem updateProfile_keeps {f : RowUpdate KYCProfile.keys} (hid : userId ≠ u) :
    Keeps (Intact u data) (updateProfile userId f) := by
  have hblank : (blankProfile userId .NOT_STARTED).userId ≠ u := hid
  refine write_keeps fun store store' h hwrite => ?_
  exact accountData_upsertProfile h hblank (Store.upsertProfile_of_updateProfile hwrite)

/-! ## Requests behind a guard -/

theorem updateKycStatus_keeps (hid : userId ≠ u) :
    Keeps (Intact u data) (updateKycStatus userId) := by
  refine query_keeps.bind fun profile => Triple.ite (fun _ => ?_) fun _ => Keeps.pure
  exact updateProfile_keeps hid

theorem saveStep_keeps {save : Store → Except Exn Store} {message : String} (hid : userId ≠ u)
    (hsave : Keeps (Intact u data) (write save)) :
    Keeps (Intact u data) (saveStep save userId message) :=
  hsave.bind fun _ => (updateKycStatus_keeps hid).bind fun _ => Keeps.pure

theorem updateDriverName_keeps {driverName : String} (hid : userId ≠ u) :
    Keeps (Intact u data) (updateDriverName userId driverName) := by
  refine query_keeps.bind fun user => Keeps.require.bind fun _ => ?_
  refine Keeps.bind (write_keeps fun store store' h hwrite => ?_) fun _ => Keeps.pure
  obtain ⟨renamed, hrename, hstore⟩ := Outcome.bind_eq_ok.mp hwrite
  cases hstore
  have hkept : accountData renamed u = some data := accountData_updateUser h (.inl hid) hrename
  exact hkept

theorem savePayoutSetup_keeps {now : ℤ} {dto : PayoutSetupDto} (hid : userId ≠ u) :
    Keeps (Intact u data) (savePayoutSetup now userId dto) := by
  refine Keeps.require.bind fun _ => Keeps.require.bind fun _ => Keeps.require.bind fun _ => ?_
  exact saveStep_keeps hid (write_keeps fun _ _ h hwrite =>
    accountData_upsertPayoutSetup h hid hwrite)

theorem submit_keeps {now : ℤ} (hid : userId ≠ u) :
    Keeps (Intact u data) (KycService.submit now userId) := by
  refine query_keeps.bind fun complete => Keeps.require.bind fun _ => ?_
  refine query_keeps.bind fun found => Keeps.orThrow.bind fun user => Keeps.require.bind fun _ => ?_
  exact (updateProfile_keeps hid).bind fun _ => Keeps.pure

theorem UserRequest.handle_keeps {io : Io} (hid : userId ≠ u) (request : UserRequest) :
    Keeps (Intact u data) (request.handle io userId) := by
  cases request with
  | logout => exact (updateUser_keeps hid).bind fun _ => Keeps.pure
  | updateDriverName driverName =>
      exact Keeps.require.bind fun _ => Keeps.require.bind fun _ => updateDriverName_keeps hid
  | saveBasicIdentity dto =>
      exact saveStep_keeps hid (write_keeps fun _ _ => accountData_of_row fun _ => rfl)
  | savePersonalDetails dto =>
      exact saveStep_keeps hid (write_keeps fun _ _ => accountData_of_row fun _ => rfl)
  | saveIdentityVerification dto =>
      exact saveStep_keeps hid (write_keeps fun _ _ => accountData_of_row fun _ => rfl)
  | savePayoutSetup dto => exact savePayoutSetup_keeps hid
  | submitKyc => exact submit_keeps hid

/-! ## The manual onboarding -/

theorem loadMeta_keeps (hid : userId ≠ u) : Keeps (Intact u data) (ManualKyc.loadMeta userId) := by
  refine query_keeps.bind fun found => ?_
  cases found with
  | some profile => exact Keeps.pure
  | none =>
      have hcreate : Keeps (Intact u data) (createProfile (blankProfile userId .IN_PROGRESS)) :=
        createProfile_keeps hid
      exact hcreate.bind fun _ => Keeps.pure

theorem saveMeta_keeps {reviewNote : String} {status : KYCStatus} (hid : userId ≠ u) :
    Keeps (Intact u data) (ManualKyc.saveMeta userId reviewNote status) := upsertProfile_keeps hid

theorem ManualKyc.handle_keeps {cfg : ManualKyc.Config} {io : ManualKyc.Io}
    (request : ManualKyc.Request) (hid : request.Complete → request.userId ≠ u) :
    Keeps (Intact u data) (request.handle cfg io) := by
  have hrequire : ∀ {p : Prop} [Decidable p] {e : Exn} {m : PUnit → Handler ManualKyc.Reply},
      (p → Keeps (Intact u data) (m ⟨⟩)) → Keeps (Intact u data) (require p e >>= m) :=
    fun hm => Triple.require_bind (fun _ hw => hw) hm
  cases request with
  | uploadPan id url =>
      refine hrequire fun hp => (loadMeta_keeps (hid hp)).bind fun notes => ?_
      refine Keeps.bind (write_keeps fun _ _ => accountData_of_row fun _ => rfl) fun _ => ?_
      exact (saveMeta_keeps (hid hp)).bind fun _ => Keeps.pure
  | uploadAadhaar id front back =>
      refine hrequire fun hp => (loadMeta_keeps (hid hp)).bind fun notes => ?_
      refine Keeps.bind (write_keeps fun _ _ => accountData_of_row fun _ => rfl) fun _ => ?_
      exact (saveMeta_keeps (hid hp)).bind fun _ => Keeps.pure
  | uploadDl id url =>
      refine hrequire fun hp => (loadMeta_keeps (hid hp)).bind fun notes => ?_
      exact (saveMeta_keeps (hid hp)).bind fun _ => Keeps.pure
  | uploadBank id bankDetails =>
      refine hrequire fun hp => (loadMeta_keeps (hid hp)).bind fun notes => ?_
      refine Keeps.orThrow.bind fun details => ?_
      refine Keeps.bind (write_keeps fun _ _ h hwrite =>
        accountData_upsertPayoutSetup h (hid hp) hwrite) fun _ => ?_
      exact (saveMeta_keeps (hid hp)).bind fun _ => Keeps.pure
  | submit id platformId =>
      refine hrequire fun hp => (loadMeta_keeps (hid hp)).bind fun notes => ?_
      refine (saveMeta_keeps (hid hp)).bind fun _ => (updateProfile_keeps (hid hp)).bind fun _ => ?_
      exact Keeps.bind (write_keeps fun _ _ => accountData_of_row fun _ => rfl) fun _ => Keeps.pure
  | getStatus id =>
      refine query_keeps.bind fun profile => ?_
      exact (loadMeta_keeps (hid True.intro)).bind fun _ => Keeps.pure

theorem checkEmailFree_keeps {dto : ManualSignupDto} {user : User} :
    Keeps (Intact u data) (checkEmailFree dto user) := by
  unfold checkEmailFree
  split
  · exact Keeps.pure
  · exact query_keeps.bind fun existing => Keeps.require

theorem fillInOnboarding_keeps {dto : ManualSignupDto} (hid : userId ≠ u) :
    Keeps (Intact u data) (fillInOnboarding dto userId) := by
  have hprofile : (blankProfile userId .IN_PROGRESS).userId ≠ u := hid
  refine (upsertProfile_keeps hprofile).bind fun _ => ?_
  refine Keeps.bind (write_keeps fun _ _ => accountData_of_row fun _ => rfl) fun _ => ?_
  exact write_keeps fun _ _ => accountData_of_row fun _ => rfl

/-! ## From a known store -/

variable {store : Store}

theorem start_intact (h : accountData store u = some data) :
    ∀ w, OnStore (· = store) w → Intact u data w := onStore_of_eq h

/-- The sign-up leaves alone whom its lookup does not find. -/
theorem signupManual_intact {cfg : Config} {io : Io} {dto : ManualSignupDto} {token : Option String}
    (h : accountData store u = some data)
    (hfound : ∀ phone user, signupPhone dto = .ok phone →
      (signupIndex cfg io dto phone token).bind store.users.findUnique = some user → user.id ≠ u) :
    Triple (OnStore (· = store)) (signupManual cfg io dto token) (fun _ => Intact u data)
      (Intact u data) := by
  refine Triple.lift_bind (start_intact h) fun phone hphone => read_bind h ?_
  refine Triple.orThrow_bind (start_intact h) fun user huser => ?_
  have hid : user.id ≠ u := hfound phone user hphone huser
  have hkeeps : Keeps (Intact u data) (do
      checkEmailFree dto user
      modifyUser user.id (signupUpdate cfg dto phone)
      fillInOnboarding dto user.id
      pure "Manual driver profile saved") := by
    refine checkEmailFree_keeps.bind fun _ => (modifyUser_keeps hid).bind fun _ => ?_
    exact (fillInOnboarding_keeps hid).bind fun _ => Keeps.pure
  exact Triple.pre hkeeps (start_intact h)

/-- A status that is there is only read. -/
theorem getStatus_intact (h : accountData store u = some data)
    (hprofile : store.kycProfiles.findUnique userId ≠ none) :
    Triple (OnStore (· = store)) (ManualKyc.getStatus userId) (fun _ => Intact u data)
      (Intact u data) := by
  obtain ⟨profile, hprofile⟩ := Option.ne_none_iff_exists'.mp hprofile
  have hload : Triple (OnStore (· = store)) (ManualKyc.loadMeta userId) (fun _ => Intact u data)
      (Intact u data) := by
    refine read_bind h ?_
    rw [hprofile]
    exact Triple.pure (start_intact h)
  exact read_bind h (hload.bind fun _ => Keeps.pure)

/-- Whom a bearer token lets in. -/
theorem jwtAuthGuard_spec {cfg : Config} {io : Io} {bearer : Option String} :
    Triple (OnStore (· = store)) (jwtAuthGuard cfg io bearer)
      (fun user w => (bearerSubject cfg io bearer = some user.id ∧
        store.users.findUnique (.id user.id) = some user) ∧ OnStore (· = store) w)
      (OnStore (· = store)) := by
  refine Triple.orThrow_bind (fun _ hw => hw) fun token htoken => ?_
  refine Triple.orThrow_bind (fun _ hw => hw) fun payload hpayload => read_bind rfl ?_
  refine Triple.orThrow_bind (fun _ hw => hw) fun user huser => ?_
  refine Triple.require_bind (fun _ hw => hw) fun _ => Triple.pure fun w hw => ⟨?_, hw⟩
  have hid : user.id = payload.sub := by
    simpa [User.keys, eq_comm] using Table.key_of_findUnique huser
  refine ⟨?_, hid ▸ huser⟩
  simp only [bearerSubject, htoken, hpayload, Option.bind_some, Option.map_some, hid]

theorem adminGuard_spec {cfg : Config} {io : Io} {bearer : Option String} :
    Triple (OnStore (· = store)) (adminGuard cfg io bearer)
      (fun user w => (bearerSubject cfg io bearer = some user.id ∧
        store.users.findUnique (.id user.id) = some user ∧ user.role = .ADMIN) ∧
          OnStore (· = store) w)
      (OnStore (· = store)) := by
  refine jwtAuthGuard_spec.bind fun user => Triple.intro fun huser => ?_
  refine Triple.require_bind (fun _ hw => hw) fun hrole => Triple.pure fun w hw => ⟨?_, hw⟩
  exact ⟨huser.1, huser.2, hrole⟩

end Handlers

/-! ## Requests -/

section Requests

variable {cfg : Config} {w : World} {call : Call} {u : String} {data : AccountData}

/-- A sign-in acts for accounts that it proves to own, or whose holder sends it. -/
theorem not_owner_of_not_authorised {request : AuthRequest} {sentBy : Option String} {io : Io}
    (hguarded : Guarded cfg w ⟨.auth request, sentBy, io⟩)
    (hauth : ¬Authorised cfg w ⟨.auth request, sentBy, io⟩ u) :
    ∀ user, request.ActsFor cfg.toAuth io.toAuth w user → user.id ≠ u := by
  rintro user (⟨haccount, hproves⟩ | hprovider) hid
  · exact hauth (.inl ⟨user, haccount, hid, hproves⟩)
  · exact hauth (.inr ⟨user, hprovider, hid, hid ▸ hguarded user hprovider⟩)

/-- Only the holder of an onboarding token is looked up by it, and without one nobody is. -/
theorem not_found_of_not_authorised {dto : ManualSignupDto} {token sentBy : Option String} {io : Io}
    (hguarded : Guarded cfg w ⟨.manualSignup dto token, sentBy, io⟩)
    (hauth : ¬Authorised cfg w ⟨.manualSignup dto token, sentBy, io⟩ u) {phone : Option String}
    {user : User} (hphone : signupPhone dto = .ok phone)
    (huser : (signupIndex cfg io dto phone token).bind w.store.users.findUnique = some user) :
    user.id ≠ u := by
  rcases hguarded with htoken | hnone
  · obtain ⟨userId, hsubject⟩ := Option.isSome_iff_exists.mp htoken
    have hsubject : onboardingSubject cfg io token = some userId := hsubject
    simp only [signupIndex, hsubject, Option.bind_some] at huser
    have hid : user.id = userId := by
      simpa [User.keys, eq_comm] using Table.key_of_findUnique huser
    rintro rfl
    exact hauth (hid ▸ hsubject)
  · have hlookup := hnone phone (by simp [hphone, Except.toOption])
    exact absurd (hlookup.symm.trans huser) (by simp)

theorem auth_intact {request : AuthRequest} {sentBy : Option String} {io : Io}
    (h : accountData w.store u = some data)
    (hguarded : Guarded cfg w ⟨.auth request, sentBy, io⟩)
    (hauth : ¬Authorised cfg w ⟨.auth request, sentBy, io⟩ u) :
    Triple (fun w' => w'.registry = w.registry ∧ OnStore (· = w.store) w')
      (request.handle cfg.toAuth io.toAuth) (fun _ => Intact u data) (Intact u data) := by
  have hwritten : ∀ w', OnStore (Written io.toAuth w.store
      (request.ActsFor cfg.toAuth io.toAuth w) (request.KnowsAdminPassword cfg.toAuth)) w' →
      Intact u data w' :=
    fun w' hw => accountData_written h (not_owner_of_not_authorised hguarded hauth) hw
  exact (handle_spec cfg.toAuth io.toAuth w request).conseq (fun _ hw => hw)
    (fun _ w' hw => hwritten w' hw.2) hwritten

/-- Uploads and submissions are for the user that they name. -/
theorem manualKyc_intact {request : ManualKyc.Request} {sentBy : Option String} {io : Io}
    (h : accountData w.store u = some data)
    (hguarded : Guarded cfg w ⟨.manualKyc request, sentBy, io⟩) :
    Triple (OnStore (· = w.store)) (request.handle cfg.toManual io.manual)
      (fun _ => Intact u data) (Intact u data) := by
  obtain ⟨user, huser⟩ := exists_user h
  have hne : ∀ {userId}, w.store.users.findUnique (.id userId) = none → userId ≠ u := by
    rintro userId hnone rfl
    rw [hnone] at huser
    cases huser
  by_cases hread : ∃ userId, request = .getStatus userId ∧
      w.store.kycProfiles.findUnique userId ≠ none
  · obtain ⟨userId, rfl, hprofile⟩ := hread
    exact getStatus_intact h hprofile
  · refine Triple.pre (ManualKyc.handle_keeps request fun hcomplete => ?_) (start_intact h)
    cases request with
    | getStatus userId =>
        exact hne (hguarded.resolve_left fun hprofile => hread ⟨userId, rfl, hprofile⟩)
    | _ => exact hne (hguarded hcomplete)

theorem elsewhere_keeps {effect : Store → Store} : Keeps (Intact u data) (elsewhere effect) := by
  refine write_keeps fun store store' h hwrite => ?_
  cases hwrite
  exact h

theorem handle_intact (h : accountData w.store u = some data) (hguarded : Guarded cfg w call)
    (hauth : ¬Authorised cfg w call u) :
    Triple (fun w' => w'.registry = w.registry ∧ OnStore (· = w.store) w')
      (call.request.handle cfg call.io) (fun _ => Intact u data) (Intact u data) := by
  obtain ⟨request, sentBy, io⟩ := call
  have hstart : ∀ w', w'.registry = w.registry ∧ OnStore (· = w.store) w' → Intact u data w' :=
    fun w' hw => start_intact h w' hw.2
  have hknown : ∀ {m : Handler Reply},
      Triple (OnStore (· = w.store)) m (fun _ => Intact u data) (Intact u data) →
        Triple (fun w' => w'.registry = w.registry ∧ OnStore (· = w.store) w') m
          (fun _ => Intact u data) (Intact u data) :=
    fun hm => hm.pre fun _ hw => hw.2
  have hstore : ∀ w', OnStore (· = w.store) w' → Intact u data w' := start_intact h
  cases request with
  | auth request => exact (auth_intact h hguarded hauth).bind fun _ => Keeps.pure
  | oauthLogin dto =>
      have hlogin : Keeps (Intact u data) (Request.handle cfg io (.oauthLogin dto)) := by
        have hvalid : Keeps (Intact u data) (validLoginDto dto) :=
          Keeps.require.bind fun _ => Keeps.require.bind fun _ => Keeps.require
        exact hvalid.bind fun _ => Keeps.bind onRegistry_keeps fun _ => Keeps.pure
      exact Triple.pre hlogin hstart
  | oauthCallback dto =>
      have hcallback : Keeps (Intact u data) (Request.handle cfg io (.oauthCallback dto)) :=
        Keeps.bind onRegistry_keeps fun _ => Keeps.pure
      exact Triple.pre hcallback hstart
  | manualSignup dto token =>
      refine hknown ((signupManual_intact h fun phone user hphone huser => ?_).bind
        fun _ => Keeps.pure)
      exact not_found_of_not_authorised hguarded hauth hphone huser
  | manualKyc request => exact hknown ((manualKyc_intact h hguarded).bind fun _ => Keeps.pure)
  | user bearer request =>
      refine hknown ((jwtAuthGuard_spec.conseq (fun _ hw => hw) (fun _ _ hw => hw) hstore).bind
        fun user => Triple.intro fun huser => ?_)
      have hid : user.id ≠ u := by
        rintro rfl
        exact hauth huser.1
      exact Triple.pre ((request.handle_keeps hid).bind fun _ => Keeps.pure) hstore
  | admin bearer request =>
      refine hknown ((adminGuard_spec.conseq (fun _ hw => hw) (fun _ _ hw => hw) hstore).bind
        fun admin => Triple.intro fun hadmin => ?_)
      have haccount : bearerAccount cfg w io bearer = some admin := by
        simp only [bearerAccount, hadmin.1, Option.bind_some, hadmin.2.1]
      exact absurd ⟨admin, haccount, hadmin.2.2⟩ hauth
  | other effect remember =>
      have hother : Keeps (Intact u data) (Request.handle cfg io (.other effect remember)) :=
        elsewhere_keeps.bind fun _ => Keeps.bind onRegistry_keeps fun _ => Keeps.pure
      exact Triple.pre hother hstart

/-- A guarded request changes the data of those accounts only that it is authorised for. -/
theorem step_ownerOnly (hguarded : Guarded cfg w call) : OwnerOnly cfg w call := by
  intro userId data h hauth
  have hfinal : Intact userId data (step cfg w call) :=
    (handle_intact h hguarded hauth).final ⟨rfl, rfl⟩
  exact hfinal

/-- Over a whole run of other parties' requests the data stay as they are. -/
theorem accountData_final {calls : List Call} (h : accountData w.store u = some data)
    (hguarded : Run.Along (step cfg) (Guarded cfg) w calls)
    (hauth : Run.Along (step cfg) (fun s call => ¬Authorised cfg s call u) w calls) :
    accountData (Run.final (step cfg) w calls).store u = some data := by
  have hstep : ∀ s call, accountData s.store u = some data →
      Guarded cfg s call ∧ ¬Authorised cfg s call u →
        accountData (step cfg s call).store u = some data :=
    fun s call h hok => step_ownerOnly hok.1 u data h hok.2
  exact (Run.always_of_step hstep h (hguarded.and hauth)).last

end Requests

/-- In every run of requests that reach no unguarded writer, the data of an account change
only by requests that are authenticated as the account or as an administrator. -/
theorem ownerOnly (cfg : Config) (w : World) (calls : List Call)
    (hguarded : Run.Along (step cfg) (Guarded cfg) w calls) :
    Run.Along (step cfg) (OwnerOnly cfg) w calls :=
  hguarded.mono fun _ _ h => step_ownerOnly h

/-! ## A rider's payout destination -/

namespace Rider

/-- One bearer token is good: the rider's, issued at the first second. -/
def cfg : Config where
  toAuth :=
    { Stranger.cfg with
      verifyAsync := fun secret token _ =>
        if token = secret ++ ".ravi.1000" then some (.session "ravi" "ravi@zepto.in" .DRIVER)
        else none }
  patchMeta _ _ := "{}"

def ravi : User where
  id := "ravi"
  email := "ravi@zepto.in"
  phone := some "9876543210"
  passwordHash := "salt:00ff"
  role := .DRIVER
  isVerified := true
  otpCode := none
  otpExpiresAt := none
  refreshToken := none
  createdAt := 0
  driverName := some "Ravi"
  platform := some "zepto"

def account (accountNumber : String) : PayoutSetupDto where
  method := .BANK
  financialDataConsent := true
  consentVersion := "v1"
  accountNumber := some accountNumber
  ifscCode := some "HDFC0000001"
  accountHolder := some "Ravi"

def world : World where
  store :=
    { users := .singleton ravi
      kycProfiles := .singleton (blankProfile "ravi" .IN_PROGRESS)
      kycPayoutSetups := .singleton (newPayoutSetup 500 "ravi" (account "111122223333")) }
  registry := .empty
  storeCalls := 0

def send (sentBy : Option String) (request : Request) : Call where
  request := request
  sentBy := sentBy
  io := { Stranger.ioAt 2000 with fraudAnalysisId := "fraud" }

/-- A request with no credentials that names the rider. -/
def uploadBank : Call :=
  send none (.manualKyc (.uploadBank "ravi" (some { accountNumber := some "999988887777" })))

end Rider

/-- The rider moves the account; a stranger reads the status and uploads for nobody. -/
theorem ownerOnly_rider :
    Run.Along (step Rider.cfg) (OwnerOnly Rider.cfg) Rider.world
      [Rider.send (some "ravi")
          (.user (some "s3cret.ravi.1000") (.savePayoutSetup (Rider.account "444455556666"))),
        Rider.send none (.manualKyc (.getStatus "ravi")),
        Rider.send none (.manualKyc (.uploadBank "nobody" (some { accountNumber := some "1" })))] :=
  ownerOnly Rider.cfg Rider.world _ (by decide)

/-- One request with no credentials moves the rider's payouts to another account. -/
theorem not_ownerOnly :
    ¬∀ (cfg : Config) (w : World) (calls : List Call),
      Run.Along (step cfg) (OwnerOnly cfg) w calls := by
  intro h
  have hrun := h Rider.cfg Rider.world [Rider.uploadBank]
  have hdestination : (accountData Rider.world.store "ravi").bind AccountData.destination =
      some ⟨.BANK, none, some "111122223333", some "HDFC0000001", some "Ravi"⟩ := by
    decide
  obtain ⟨data, hdata, hbefore⟩ := Option.bind_eq_some_iff.mp hdestination
  have hkept := hrun.1 "ravi" data hdata (by decide)
  have hafter : (accountData (step Rider.cfg Rider.world Rider.uploadBank).store "ravi").bind
      AccountData.destination =
        some ⟨.BANK, none, some "999988887777", some "HDFC0000001", some "Ravi"⟩ := by
    decide
  rw [hkept, Option.bind_some, hbefore] at hafter
  exact absurd hafter (by decide)

end Aegis.Identity
