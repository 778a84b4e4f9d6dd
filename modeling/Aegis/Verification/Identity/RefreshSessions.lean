import Aegis.Verification.Identity.RefreshHashes

/-! # One refresh token for each account

A refresh is answered for the token of the last sign-in or refresh alone, as long as every flow
stores the hash of the token that it returns. One does not. -/

namespace Aegis.Identity

open Aegis.Action JsString DynamicQCommerce AuthService KycService

/-! ## The law -/

/-- A refresh token that an account was given. -/
structure Issue where
  userId : String
  token : Jwt
  issuedAt : ℤ

/-- Signing in the same second makes the same token of the same claims. -/
def Issue.Same (a b : Issue) : Prop :=
  a.token.payload = b.token.payload ∧ a.issuedAt / 1000 = b.issuedAt / 1000

/-- The server, and who was given what. -/
structure Observed where
  world : World
  /-- The token of the last sign-in or refresh, for an account that has not logged out since. -/
  current : String → Option Issue
  issues : List Issue

def Observed.start (w : World) : Observed := ⟨w, fun _ => none, []⟩

section Law

variable (cfg : Config)

def signedIn (w : World) (call : Call) : Option Issue :=
  match (call.run cfg w).1 with
  | .ok (.auth reply) => (session reply).map fun given => ⟨given.1, given.2, call.io.now⟩
  | _ => none

def loggedOut (w : World) (call : Call) : Option String :=
  match (call.run cfg w).1, call.request with
  | .ok (.message _), .user bearer .logout => (bearerAccount cfg w call.io bearer).map User.id
  | _, _ => none

def observe (s : Observed) (call : Call) : Observed where
  world := step cfg s.world call
  current :=
    match signedIn cfg s.world call, loggedOut cfg s.world call with
    | some issue, _ => Function.update s.current issue.userId (some issue)
    | none, some userId => Function.update s.current userId none
    | none, none => s.current
  issues := (signedIn cfg s.world call).toList ++ s.issues

def Accepted (w : World) (call : Call) : Prop := ∃ reply, (call.run cfg w).1 = .ok reply

/-- A refresh with a token that has not expired. -/
def Refreshes (lifetime : ℤ) (s : Observed) (call : Call) (token : String) : Prop :=
  call.request = .auth (.refresh token) ∧ ∀ issue ∈ s.issues, issue.token.text = token →
    call.io.now / 1000 < issue.issuedAt / 1000 + lifetime

/-- A refresh succeeds for the current token of an account and for no other. -/
def CurrentOnly (lifetime : ℤ) (s : Observed) (call : Call) : Prop :=
  ∀ token, Refreshes lifetime s call token →
    (Accepted cfg s.world call ↔
      ∃ userId issue, s.current userId = some issue ∧ issue.token.text = token)

/-- A token that was given out before is accepted where the current one is the same. -/
def Rotated (lifetime : ℤ) (s : Observed) (call : Call) : Prop :=
  ∀ issue ∈ s.issues, Refreshes lifetime s call issue.token.text →
    (Accepted cfg s.world call ↔ ∃ latest, s.current issue.userId = some latest ∧ latest.Same issue)

/-- The store ends up with the hash of the token that the request hands out. -/
def StoresToken (w : World) (call : Call) : Prop :=
  match call.request with
  | .auth (.verifyOtp email otp) =>
      ¬(cfg.isEmail email = true ∧ AwaitsCode cfg.toAuth call.io.toAuth w.store email otp ∧
        2 ≤ call.io.storeCalls)
  | .auth (.verifyManualOtp phone otp) => ¬CutOff cfg.toAuth call.io.toAuth w.store phone otp
  | .auth (.refresh _) => 2 ≤ call.io.storeCalls
  | _ => True

instance (w : World) (call : Call) : Decidable (StoresToken cfg w call) := by
  obtain ⟨request, -, io⟩ := call
  casesm* Request, AuthService.AuthRequest <;> dsimp only [StoresToken] <;> infer_instance

end Law

/-- Every account has an id and no session. -/
def NoSessions (store : Store) : Prop :=
  ∀ user ∈ store.users.rows, user.id ≠ "" ∧ user.refreshToken = none

instance (store : Store) : Decidable (NoSessions store) := inferInstanceAs (Decidable (∀ _ ∈ _, _))

/-- What the service relies on: digests do not collide, and a signature is a function of the claims
and the second, accepted until it expires. -/
structure Libraries (cfg : AuthService.Config) (lifetime : ℤ) : Prop where
  hashOTP_injective : Function.Injective cfg.hashOTP
  hashOTP_ne : ∀ text, cfg.hashOTP text ≠ ""
  signAsync_eq_iff : ∀ sub email role sub' email' role' (issuedAt issuedAt' : ℤ),
    cfg.signAsync (refreshSecret cfg) (.session sub email role) issuedAt =
        cfg.signAsync (refreshSecret cfg) (.session sub' email' role') issuedAt' ↔
      JwtPayload.session sub email role = .session sub' email' role' ∧
        issuedAt / 1000 = issuedAt' / 1000
  verifyAsync_signAsync : ∀ sub email role (issuedAt now : ℤ),
    now / 1000 < issuedAt / 1000 + lifetime →
      cfg.verifyAsync (refreshSecret cfg)
          (cfg.signAsync (refreshSecret cfg) (.session sub email role) issuedAt) now =
        some (.session sub email role)

/-! ## Requests -/

section Requests

variable {cfg : Config} {w : World} {call : Call} {hashes : String → Option String}

theorem auth_answers {request : AuthRequest} (h : Remembers hashes w.store)
    (hid : call.io.userId ≠ "") (hrequest : call.request = .auth request)
    (hstores : StoresToken cfg w call) :
    Answers cfg.toAuth call.io.toAuth hashes
      (fun w' => w'.registry = w.registry ∧ Exactly call.io.storeCalls w.store w')
      (request.handle cfg.toAuth call.io.toAuth) := by
  have hstart : ∀ w', Exactly call.io.storeCalls w.store w' → OnStore (Remembers hashes) w' := by
    rintro w' ⟨-, hw⟩
    rw [OnStore, hw]
    exact h
  cases request with
  | verifyOtp email otp =>
      simp only [StoresToken, hrequest] at hstores
      refine Triple.pre (Triple.require_bind hstart fun hemail => ?_) fun _ hw => hw.2
      exact verifyOtp_answers h fun hawaits => hstores ⟨hemail, hawaits⟩
  | verifyManualOtp phone otp =>
      simp only [StoresToken, hrequest] at hstores
      refine Triple.pre (Triple.require_bind hstart fun _ => ?_) fun _ hw => hw.2
      exact Triple.require_bind hstart fun _ => verifyManualPhoneOtp_answers h hstores
  | _ =>
      refine ((auth_concludes hrequest ?_ ?_).answers hid h).pre fun _ hw => ⟨hw.1, hw.2.2⟩ <;> simp

/-- What the store remembers after a reply. -/
def Settled (cfg : Config) (w : World) (call : Call) (hashes : String → Option String)
    (reply : Reply) (w' : World) : Prop :=
  match reply, call.request with
  | .auth reply, _ => Answered cfg.toAuth call.io.toAuth hashes reply w'
  | .message _, .user bearer .logout => ∃ user ∈ bearerAccount cfg w call.io bearer,
      OnStore (Remembers (Function.update hashes user.id none)) w'
  | _, _ => OnStore (Remembers hashes) w'

theorem logout_tokens {userId : String} :
    Triple (OnStore (Remembers hashes)) (logout userId)
      (fun _ => OnStore (Remembers (Function.update hashes userId none)))
      (OnStore (Remembers hashes)) := by
  refine Triple.bind (write_triple fun store store' h hwrite => (h.setRefreshToken hwrite).2)
    fun _ => ?_
  exact Triple.pure fun _ hw => hw

/-- What a request that hands out no session leaves behind is remembered. -/
theorem WritesOnly.remembers {P : World → Prop} {α : Type} {m : Handler α}
    (h : Remembers hashes w.store) (hid : call.io.userId ≠ "")
    (hm : WritesOnly cfg w call False P m) :
    Triple P m (fun _ => OnStore (Remembers hashes)) (OnStore (Remembers hashes)) :=
  hm.conseq (fun _ hw => hw) (fun _ _ hw => h.writes hid hw) fun _ hw => h.writes hid hw

theorem handle_settled (h : Remembers hashes w.store) (hid : call.io.userId ≠ "")
    (hstores : StoresToken cfg w call) :
    Triple (fun w' => w'.registry = w.registry ∧ Exactly call.io.storeCalls w.store w')
      (call.request.handle cfg call.io) (Settled cfg w call hashes)
      (OnStore (Remembers hashes)) := by
  have hstart : ∀ w', OnStore (· = w.store) w' → OnStore (Remembers hashes) w' :=
    onStore_of_eq h
  have hknown : ∀ w', (w'.registry = w.registry ∧ Exactly call.io.storeCalls w.store w') →
      OnStore (· = w.store) w' := fun w' hw => hw.2.2
  unfold Settled
  cases hrequest : call.request with
  | auth request =>
      exact (auth_answers h hid hrequest hstores).bind fun reply => Triple.pure fun _ hw => hw
  | oauthLogin dto =>
      have hvalid : Keeps (OnStore (Remembers hashes)) (validLoginDto dto) :=
        Keeps.bind Keeps.require fun _ => Keeps.bind Keeps.require fun _ => Keeps.require
      refine Triple.pre (Triple.bind hvalid fun _ => ?_) fun w' hw => hstart w' (hknown w' hw)
      exact Triple.bind onRegistry_keeps fun _ => Triple.pure fun _ hw => hw
  | oauthCallback dto =>
      refine Triple.pre ?_ fun w' hw => hstart w' (hknown w' hw)
      exact Triple.bind onRegistry_keeps fun _ => Triple.pure fun _ hw => hw
  | manualSignup dto onboardingToken =>
      refine Triple.pre ?_ hknown
      refine ((signupManual_writes hrequest).remembers h hid).bind fun _ => ?_
      exact Triple.pure fun _ hw => hw
  | manualKyc request =>
      refine Triple.pre ?_ hknown
      refine ((manualKyc_writes hrequest).remembers h hid).bind fun _ => ?_
      exact Triple.pure fun _ hw => hw
  | user bearer request =>
      refine (jwtAuthGuard_spec.conseq hknown (fun _ _ hw => hw) hstart).bind
        fun user => Triple.intro fun huser => ?_
      have haccount : bearerAccount cfg w call.io bearer = some user := by
        simp only [bearerAccount, huser.1, Option.bind_some, huser.2]
      by_cases hlogout : request = .logout
      · subst hlogout
        refine Triple.pre (logout_tokens.bind fun _ => Triple.pure fun _ hw => ?_) hstart
        exact ⟨user, haccount, hw⟩
      · refine ((user_writes hrequest haccount hlogout).remembers h hid).bind fun _ => ?_
        refine Triple.pure fun _ hw => ?_
        cases request with
        | logout => exact absurd rfl hlogout
        | _ => exact hw
  | admin bearer request =>
      refine (adminGuard_spec.conseq hknown (fun _ _ hw => hw) hstart).bind
        fun admin => Triple.intro fun hadmin => ?_
      have haccount : bearerAccount cfg w call.io bearer = some admin := by
        simp only [bearerAccount, hadmin.1, Option.bind_some, hadmin.2.1]
      refine ((admin_writes hrequest haccount hadmin.2.2).remembers h hid).bind fun _ => ?_
      exact Triple.pure fun _ hw => hw
  | other effect remember =>
      refine Triple.pre ?_ fun w' hw => hstart w' (hknown w' hw)
      refine Triple.bind (write_triple fun store store' h hwrite => ?_) fun _ =>
        Triple.bind onRegistry_keeps fun _ => Triple.pure fun _ hw => hw
      cases hwrite
      exact h.of_users rfl

end Requests

/-! ## Runs -/

section Runs

variable {cfg : Config} {lifetime : ℤ} {s : Observed} {call : Call}

/-- The hashes of the current tokens. -/
def Observed.hashes (cfg : Config) (s : Observed) : String → Option String :=
  Option.map (fun issue => cfg.hashOTP issue.token.text) ∘ s.current

/-- The store remembers the current tokens. -/
structure Tracks (cfg : Config) (s : Observed) : Prop where
  remembers : Remembers (s.hashes cfg) s.world.store
  issued : ∀ issue ∈ s.issues,
    RefreshTokenOf cfg.toAuth issue.issuedAt issue.userId issue.token
  current : ∀ userId issue, s.current userId = some issue →
    issue ∈ s.issues ∧ issue.userId = userId

theorem Tracks.start {w : World} (h : NoSessions w.store) : Tracks cfg (.start w) where
  remembers :=
    { hash := by
        intro userId
        change sessionHash w.store userId = none
        unfold sessionHash
        cases hfound : w.store.users.findUnique (.id userId) with
        | none => rfl
        | some user => exact (h user (Table.mem_of_findUnique hfound)).2
      unnamed := by
        refine (Table.findUnique_eq_none _ _).mpr fun user huser hkey => ?_
        exact (h user huser).1 (mem_id_keys_iff.mp hkey) }
  issued := by simp [Observed.start]
  current := by simp [Observed.start]

theorem Tracks.kept (h : Tracks cfg s) {w : World} (hw : Remembers (s.hashes cfg) w.store) :
    Tracks cfg { s with world := w } := ⟨hw, h.issued, h.current⟩

theorem Tracks.opened (h : Tracks cfg s) {w : World} (issue : Issue)
    (htoken : RefreshTokenOf cfg.toAuth issue.issuedAt issue.userId issue.token)
    (hw : Remembers (Function.update (s.hashes cfg) issue.userId
      (some (cfg.hashOTP issue.token.text))) w.store) :
    Tracks cfg ⟨w, Function.update s.current issue.userId (some issue), issue :: s.issues⟩ where
  remembers := by
    simp only [Observed.hashes, Function.comp_update, Option.map_some]
    exact hw
  issued := by
    intro other hother
    rcases List.mem_cons.mp hother with rfl | hother
    · exact htoken
    · exact h.issued other hother
  current := by
    intro userId other hother
    change Function.update s.current issue.userId (some issue) userId = some other at hother
    by_cases hid : userId = issue.userId
    · subst hid
      rw [Function.update_self] at hother
      cases hother
      exact ⟨by simp, rfl⟩
    · rw [Function.update_of_ne hid] at hother
      obtain ⟨hmem, hsame⟩ := h.current userId other hother
      exact ⟨List.mem_cons_of_mem _ hmem, hsame⟩

theorem Tracks.closed (h : Tracks cfg s) {w : World} {userId : String}
    (hw : Remembers (Function.update (s.hashes cfg) userId none) w.store) :
    Tracks cfg ⟨w, Function.update s.current userId none, s.issues⟩ where
  remembers := by
    simp only [Observed.hashes, Function.comp_update, Option.map_none]
    exact hw
  issued := h.issued
  current := by
    intro id other hother
    change Function.update s.current userId none id = some other at hother
    by_cases hid : id = userId
    · subst hid
      rw [Function.update_self] at hother
      cases hother
    · rw [Function.update_of_ne hid] at hother
      exact h.current id other hother

/-- What one request preserves. -/
theorem Tracks.observe (h : Tracks cfg s) (hid : call.io.userId ≠ "")
    (hstores : StoresToken cfg s.world call) : Tracks cfg (Identity.observe cfg s call) := by
  have hhandle := handle_settled h.remembers hid hstores
  have hstart : { s.world with storeCalls := call.io.storeCalls }.registry = s.world.registry ∧
      Exactly call.io.storeCalls s.world.store
        { s.world with storeCalls := call.io.storeCalls } := ⟨rfl, rfl, rfl⟩
  rcases hrun : call.run cfg s.world with ⟨result, w⟩
  have hworld : step cfg s.world call = w := congrArg Prod.snd hrun
  have hkeeps : signedIn cfg s.world call = none → loggedOut cfg s.world call = none →
      OnStore (Remembers (s.hashes cfg)) w → Tracks cfg (Identity.observe cfg s call) := by
    intro hin hout hw
    simp only [Identity.observe, hworld, hin, hout]
    exact h.kept hw
  cases result with
  | error e =>
      refine hkeeps ?_ ?_ (hhandle.error hstart hrun)
      · simp only [signedIn, hrun]
      · simp only [loggedOut, hrun]
  | ok reply =>
      have hsettled := hhandle.ok hstart hrun
      unfold Settled at hsettled
      cases reply with
      | auth reply =>
          simp only [Answered] at hsettled
          cases hsession : session reply with
          | none =>
              simp only [hsession] at hsettled
              refine hkeeps ?_ ?_ hsettled
              · simp only [signedIn, hrun, hsession, Option.map_none]
              · simp only [loggedOut, hrun]
          | some given =>
              simp only [hsession] at hsettled
              have hin : signedIn cfg s.world call = some ⟨given.1, given.2, call.io.now⟩ := by
                simp only [signedIn, hrun, hsession, Option.map_some]
              simp only [Identity.observe, hworld, hin]
              exact h.opened ⟨given.1, given.2, call.io.now⟩ hsettled.1 hsettled.2
      | message message =>
          have hin : signedIn cfg s.world call = none := by simp only [signedIn, hrun]
          by_cases hrequest : ∃ bearer, call.request = .user bearer .logout
          · obtain ⟨bearer, hrequest⟩ := hrequest
            simp only [hrequest] at hsettled
            obtain ⟨user, huser, hw⟩ := hsettled
            have hout : loggedOut cfg s.world call = some user.id := by
              simp only [loggedOut, hrun, hrequest, Option.mem_def.mp huser, Option.map_some]
            simp only [Identity.observe, hworld, hin, hout]
            exact h.closed hw
          · refine hkeeps hin ?_ ?_
            · unfold loggedOut
              split
              · rename_i hother
                exact absurd ⟨_, hother⟩ hrequest
              · rfl
            · split at hsettled
              · rename_i hreply
                cases hreply
              · rename_i hother
                exact absurd ⟨_, hother⟩ hrequest
              · exact hsettled
      | _ =>
          refine hkeeps ?_ ?_ hsettled
          · simp only [signedIn, hrun]
          · simp only [loggedOut, hrun]

end Runs

/-! ## The refresh -/

section Refresh

variable {cfg : AuthService.Config} {io : AuthService.Io} {store : Store} {token : String}

/-- An accepted token is one whose hash the store remembers. -/
theorem refresh_accepts :
    Triple (OnStore (· = store)) (refresh cfg io token)
      (fun _ _ => ∃ userId, sessionHash store userId = some (cfg.hashOTP token))
      (OnStore fun _ => True) := by
  have hany : ∀ w, OnStore (· = store) w → OnStore (fun _ => True) w := fun _ _ => trivial
  refine Triple.require_bind hany fun _ => ?_
  refine Triple.orThrow_bind hany fun payload _ => ?_
  refine Triple.require_bind hany fun _ => read_bind trivial ?_
  refine Triple.orThrow_bind hany fun user huser => ?_
  refine Triple.orThrow_bind hany fun stored hstored => ?_
  refine Triple.require_bind hany fun hhash => ?_
  have hremembered : sessionHash store payload.sub = some (cfg.hashOTP token) := by
    rw [sessionHash, huser, Option.bind_some, hhash]
    exact (Option.filter_eq_some_iff.mp hstored).1
  refine Triple.bind (Q := fun _ _ => True) ?_ fun tokens => Triple.pure fun _ _ => ⟨_, hremembered⟩
  exact Triple.trivial.conseq (fun _ _ => trivial) (fun _ _ _ => trivial) fun _ _ => trivial

/-- A token of the account whose hash the store remembers is accepted. -/
theorem refresh_stocked {payload : JwtPayload} (hsecret : refreshSecret cfg ≠ "")
    (hverify : cfg.verifyAsync (refreshSecret cfg) token io.now = some payload)
    (hsub : payload.sub ≠ "") (hhash : sessionHash store payload.sub = some (cfg.hashOTP token))
    (hne : cfg.hashOTP token ≠ "") :
    Triple (Stocked 2 (· = store)) (refresh cfg io token) (fun _ _ => True) (fun _ => False) := by
  obtain ⟨user, huser, htoken⟩ := Option.bind_eq_some_iff.mp hhash
  have hgiven : given user.refreshToken = some (cfg.hashOTP token) := by
    rw [htoken]
    simp [given, hne]
  have hid : user.id = payload.sub := mem_id_keys_iff.mp (Table.key_of_findUnique huser)
  refine Triple.require_bind_of hsecret (Triple.orThrow_bind_of hverify ?_)
  refine Triple.require_bind_of hsub (stocked_bind query_stocked fun found => ?_)
  refine Triple.pre (Triple.intro fun hfound => ?_) fun w hw =>
    (⟨by rw [hw.2.2, hw.2.1, huser], hw.1, hw.2.1⟩ : found = some user ∧ Stocked 1 (· = store) w)
  refine Triple.orThrow_bind_of hfound (Triple.orThrow_bind_of hgiven ?_)
  refine Triple.require_bind_of rfl ?_
  have hsession : Triple (Stocked 1 (· = store)) (startSession cfg io user) (fun _ _ => True)
      (fun _ => False) := by
    refine Triple.bind (write_stocked (J := fun _ => True) fun before hbefore => ?_) fun _ =>
      Triple.pure fun _ _ => trivial
    subst hbefore
    exact ⟨_, updateUser_ok (hid ▸ huser) _, trivial⟩
  exact hsession.bind fun _ => Triple.pure fun _ _ => trivial

end Refresh

section Law

variable {cfg : Config} {lifetime : ℤ} {s : Observed} {call : Call}

theorem currentOnly (hlibraries : Libraries cfg.toAuth lifetime)
    (hsecret : refreshSecret cfg.toAuth ≠ "") (h : Tracks cfg s)
    (hstores : StoresToken cfg s.world call) : CurrentOnly cfg lifetime s call := by
  rintro token ⟨hrequest, hlive⟩
  constructor
  · rintro ⟨reply, hreply⟩
    have hhandle : Triple (OnStore (· = s.world.store)) (call.request.handle cfg call.io)
        (fun _ _ => ∃ userId, sessionHash s.world.store userId = some (cfg.hashOTP token))
        (OnStore fun _ => True) := by
      rw [hrequest]
      exact refresh_accepts.bind fun _ => Triple.pure fun _ hw => hw
    obtain ⟨userId, hhash⟩ := hhandle.ok (show OnStore (· = s.world.store)
      { s.world with storeCalls := call.io.storeCalls } from rfl) (Prod.ext hreply rfl)
    rw [h.remembers.hash] at hhash
    obtain ⟨issue, hissue, htext⟩ := Option.map_eq_some_iff.mp hhash
    exact ⟨userId, issue, hissue, hlibraries.hashOTP_injective htext⟩
  · rintro ⟨userId, issue, hcurrent, rfl⟩
    obtain ⟨hmem, rfl⟩ := h.current userId issue hcurrent
    obtain ⟨hid, email, role, htoken⟩ := h.issued issue hmem
    have hverify : cfg.verifyAsync (refreshSecret cfg.toAuth) issue.token.text call.io.now =
        some (.session issue.userId email role) := by
      rw [htoken]
      exact hlibraries.verifyAsync_signAsync _ _ _ _ _ (hlive issue hmem rfl)
    have hhash : sessionHash s.world.store issue.userId = some (cfg.hashOTP issue.token.text) := by
      rw [h.remembers.hash]
      exact congrArg (Option.map fun issue => cfg.hashOTP issue.token.text) hcurrent
    have hhandle : Triple (Stocked 2 (· = s.world.store)) (call.request.handle cfg call.io)
        (fun _ _ => True) (fun _ => False) := by
      rw [hrequest]
      exact (refresh_stocked hsecret hverify hid hhash (hlibraries.hashOTP_ne _)).bind fun _ =>
        Triple.pure fun _ hw => hw
    simp only [StoresToken, hrequest] at hstores
    have hstart : Stocked 2 (· = s.world.store)
        { s.world with storeCalls := call.io.storeCalls } := ⟨hstores, rfl⟩
    rcases hrun : call.run cfg s.world with ⟨result, w⟩
    cases result with
    | ok reply => exact ⟨reply, congrArg Prod.fst hrun⟩
    | error e => exact (hhandle.error hstart hrun).elim

/-- The tokens of two issues are the same text when their claims and seconds are. -/
theorem same_iff (hlibraries : Libraries cfg.toAuth lifetime) {a b : Issue}
    (ha : RefreshTokenOf cfg.toAuth a.issuedAt a.userId a.token)
    (hb : RefreshTokenOf cfg.toAuth b.issuedAt b.userId b.token) :
    a.token.text = b.token.text ↔ a.Same b := by
  obtain ⟨-, email, role, ha⟩ := ha
  obtain ⟨-, email', role', hb⟩ := hb
  rw [Issue.Same, ha, hb]
  exact hlibraries.signAsync_eq_iff ..

theorem rotated (hlibraries : Libraries cfg.toAuth lifetime) (h : Tracks cfg s)
    (hcurrent : CurrentOnly cfg lifetime s call) : Rotated cfg lifetime s call := by
  intro issue hissue hrefreshes
  rw [hcurrent _ hrefreshes]
  constructor
  · rintro ⟨userId, latest, hlatest, htext⟩
    obtain ⟨hmem, rfl⟩ := h.current userId latest hlatest
    have hsame := (same_iff hlibraries (h.issued latest hmem) (h.issued issue hissue)).mp htext
    refine ⟨latest, ?_, hsame⟩
    obtain ⟨-, email, role, htoken⟩ := h.issued latest hmem
    obtain ⟨-, email', role', htoken'⟩ := h.issued issue hissue
    have hpayload := hsame.1
    rw [htoken, htoken'] at hpayload
    rw [← (JwtPayload.session.inj hpayload).1]
    exact hlatest
  · rintro ⟨latest, hlatest, hsame⟩
    obtain ⟨hmem, -⟩ := h.current _ latest hlatest
    exact ⟨issue.userId, latest, hlatest,
      (same_iff hlibraries (h.issued latest hmem) (h.issued issue hissue)).mpr hsame⟩

/-- In every run in which no confirmation of an address signs in and no sign-in by number is cut
off, a refresh succeeds for the current token of an account alone. -/
theorem along_currentOnly (cfg : Config) (lifetime : ℤ) (w : World) (calls : List Call)
    (hlibraries : Libraries cfg.toAuth lifetime) (hsecret : refreshSecret cfg.toAuth ≠ "")
    (hw : NoSessions w.store)
    (hstores : Run.Along (observe cfg)
      (fun s call => call.io.userId ≠ "" ∧ StoresToken cfg s.world call) (.start w) calls) :
    Run.Along (observe cfg)
      (fun s call => CurrentOnly cfg lifetime s call ∧ Rotated cfg lifetime s call)
      (.start w) calls := by
  have hstep : ∀ s call, Tracks cfg s → call.io.userId ≠ "" ∧ StoresToken cfg s.world call →
      Tracks cfg (observe cfg s call) ∧
        (CurrentOnly cfg lifetime s call ∧ Rotated cfg lifetime s call) := by
    intro s call h hok
    have hcurrent := currentOnly hlibraries hsecret h hok.2
    exact ⟨h.observe hok.1 hok.2, hcurrent, rotated hlibraries h hcurrent⟩
  exact Run.along_of_step hstep (Tracks.start hw) hstores

end Law

/-! ## Signatures that can be read back -/

namespace SignedText

def frame (fields : List (List Char)) : List Char :=
  fields.flatMap fun field => field.flatMap (fun c => ['-', c]) ++ ['.']

def unframe : List Char → List Char → List (List Char)
  | '-' :: c :: rest, field => unframe rest (field ++ [c])
  | '.' :: rest, field => field :: unframe rest []
  | _, _ => []

theorem unframe_field (field rest acc : List Char) :
    unframe (field.flatMap (fun c => ['-', c]) ++ '.' :: rest) acc =
      (acc ++ field) :: unframe rest [] := by
  induction field generalizing acc with
  | nil => simp [unframe]
  | cons c field ih => simp [unframe, ih]

theorem unframe_frame (fields : List (List Char)) : unframe (frame fields) [] = fields := by
  induction fields with
  | nil => rfl
  | cons field fields ih =>
      have hframe : frame (field :: fields) =
          field.flatMap (fun c => ['-', c]) ++ '.' :: frame fields := by
        simp [frame]
      rw [hframe, unframe_field, ih, List.nil_append]

def roleName : Role → List Char
  | .DRIVER => ['d']
  | .ADMIN => ['a']

def signAsync (secret : String) (payload : JwtPayload) (issuedAt : ℤ) : String :=
  match payload with
  | .session sub email role => String.ofList (frame [secret.toList, sub.toList, email.toList,
      roleName role, List.replicate (issuedAt / 1000).toNat '+',
      List.replicate (-(issuedAt / 1000)).toNat '-'])
  | _ => ""

def verifyAsync (secret token : String) (now : ℤ) : Option JwtPayload :=
  match unframe token.toList [] with
  | [secret', sub, email, role, after, before] =>
      if secret' = secret.toList ∧ now / 1000 < after.length - before.length + 604800 then
        some (.session (String.ofList sub) (String.ofList email)
          (if role = roleName .ADMIN then .ADMIN else .DRIVER))
      else none
  | _ => none

def cfg : Config where
  toAuth := { AuthService.Stranger.cfg with signAsync, verifyAsync }
  patchMeta _ _ := "{}"

theorem verifyAsync_signAsync (secret sub email : String) (role : Role) (issuedAt now : ℤ)
    (hlive : now / 1000 < issuedAt / 1000 + 604800) :
    verifyAsync secret (signAsync secret (.session sub email role) issuedAt) now =
      some (.session sub email role) := by
  have hsecond : ((issuedAt / 1000).toNat : ℤ) - ((-(issuedAt / 1000)).toNat : ℤ) =
      issuedAt / 1000 := by omega
  simp only [verifyAsync, signAsync, String.toList_ofList, unframe_frame, List.length_replicate,
    hsecond, hlive, and_self, if_true, String.ofList_toList]
  cases role <;> rfl

theorem signAsync_eq_iff (secret sub email sub' email' : String) (role role' : Role)
    (issuedAt issuedAt' : ℤ) :
    signAsync secret (.session sub email role) issuedAt =
        signAsync secret (.session sub' email' role') issuedAt' ↔
      JwtPayload.session sub email role = .session sub' email' role' ∧
        issuedAt / 1000 = issuedAt' / 1000 := by
  constructor
  · intro htext
    have hfields := congrArg (fun text => unframe text.toList []) htext
    simp only [signAsync, String.toList_ofList, unframe_frame, List.cons.injEq, String.toList_inj,
      and_true, true_and] at hfields
    obtain ⟨rfl, rfl, hrole, hafter, hbefore⟩ := hfields
    have hafter := congrArg List.length hafter
    have hbefore := congrArg List.length hbefore
    simp only [List.length_replicate] at hafter hbefore
    refine ⟨?_, by omega⟩
    cases role <;> cases role' <;> first | rfl | cases hrole
  · rintro ⟨hclaims, hsecond⟩
    obtain ⟨rfl, rfl, rfl⟩ := JwtPayload.session.inj hclaims
    simp only [signAsync, hsecond]

theorem libraries : Libraries cfg.toAuth 604800 := by
  have hsign : cfg.toAuth.signAsync = signAsync := rfl
  have hverify : cfg.toAuth.verifyAsync = verifyAsync := rfl
  have hhash : cfg.toAuth.hashOTP = fun text => "#" ++ text := rfl
  constructor
  · intro a b h
    simpa [hhash] using h
  · simp [hhash]
  · intro sub email role sub' email' role' issuedAt issuedAt'
    rw [hsign]
    exact signAsync_eq_iff _ sub email sub' email' role role' issuedAt issuedAt'
  · intro sub email role issuedAt now hlive
    rw [hsign, hverify]
    exact verifyAsync_signAsync _ sub email role issuedAt now hlive

def ravi : User where
  id := "ravi"
  email := "ravi@zepto.in"
  phone := none
  passwordHash := "salt:correct horse"
  role := .DRIVER
  isVerified := true
  otpCode := none
  otpExpiresAt := none
  refreshToken := none
  createdAt := 0
  driverName := none
  platform := none

def world (user : User) : World where
  store := { users := .singleton user }
  registry := .empty
  storeCalls := 0

def send (now : ℤ) (request : Request) : Call where
  request := request
  sentBy := none
  io := { AuthService.Stranger.ioAt now with fraudAnalysisId := "fraud" }

/-- A token of the account that was signed then. -/
def token (secret : String) (issuedAt : ℤ) : String :=
  signAsync secret (.session "ravi" "ravi@zepto.in" .DRIVER) issuedAt

end SignedText

/-- A sign-in, a refresh, the first token once more, and a logout. -/
theorem along_currentOnly_login :
    Run.Along (observe SignedText.cfg)
      (fun s call => CurrentOnly SignedText.cfg 604800 s call ∧
        Rotated SignedText.cfg 604800 s call)
      (.start (SignedText.world SignedText.ravi))
      [SignedText.send 1000 (.auth (.login "ravi@zepto.in" "correct horse")),
        SignedText.send 3000 (.auth (.refresh (SignedText.token "r3fresh" 1000))),
        SignedText.send 4000 (.auth (.refresh (SignedText.token "r3fresh" 1000))),
        SignedText.send 5000 (.user (some (SignedText.token "s3cret" 3000)) .logout),
        SignedText.send 6000 (.auth (.refresh (SignedText.token "r3fresh" 3000)))] :=
  along_currentOnly SignedText.cfg 604800 (SignedText.world SignedText.ravi) _ SignedText.libraries
    (by decide) (by decide) (by decide)

/-- The token of a confirmed address is refused: the store has no hash of it. -/
theorem not_along_currentOnly :
    ¬∀ (cfg : Config) (lifetime : ℤ) (w : World) (calls : List Call),
      Libraries cfg.toAuth lifetime → refreshSecret cfg.toAuth ≠ "" → NoSessions w.store →
      (∀ call ∈ calls, call.io.userId ≠ "" ∧ 6 ≤ call.io.storeCalls) →
        Run.Along (observe cfg) (CurrentOnly cfg lifetime) (.start w) calls := by
  intro h
  let waiting : User :=
    { SignedText.ravi with
      isVerified := false, otpCode := some "#123456", otpExpiresAt := some 600000 }
  let confirm := SignedText.send 1000 (.auth (.verifyOtp "ravi@zepto.in" "123456"))
  let again := SignedText.send 3000 (.auth (.refresh (SignedText.token "r3fresh" 1000)))
  let s := observe SignedText.cfg (.start (SignedText.world waiting)) confirm
  have hlaw := (h SignedText.cfg 604800 (SignedText.world waiting) [confirm, again]
    SignedText.libraries (by decide) (by decide) (by decide)).2.1
  have hrefreshes : Refreshes 604800 s again (SignedText.token "r3fresh" 1000) :=
    ⟨rfl, by decide⟩
  have hcurrent : (s.current "ravi").map (fun issue => issue.token.text) =
      some (SignedText.token "r3fresh" 1000) := by decide
  obtain ⟨issue, hissue, htext⟩ := Option.map_eq_some_iff.mp hcurrent
  obtain ⟨reply, hreply⟩ := (hlaw _ hrefreshes).mpr ⟨"ravi", issue, hissue, htext⟩
  have hrefused : (again.run SignedText.cfg s.world).1.toOption.isNone = true := by decide
  rw [hreply] at hrefused
  cases hrefused

end Aegis.Identity
