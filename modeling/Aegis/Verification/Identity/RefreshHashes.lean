import Mathlib.Logic.Function.Basic
import Aegis.Verification.Identity.Provenance

/-! # The refresh tokens that the store remembers

A row holds the hash of one refresh token. A sign-in writes it, a logout clears it, and no other
request touches it. -/

namespace Aegis.Identity

open Aegis.Action JsString DynamicQCommerce AuthService KycService

def sessionHash (store : Store) (userId : String) : Option String :=
  (store.users.findUnique (.id userId)).bind User.refreshToken

/-- The store remembers these hashes; no account is without an id. -/
structure Remembers (hashes : String → Option String) (store : Store) : Prop where
  hash : ∀ userId, sessionHash store userId = hashes userId
  unnamed : store.users.findUnique (.id "") = none

/-! ## Writes -/

section Writes

variable {hashes : String → Option String} {store store' : Store} {userId : String}

theorem Remembers.of_users (h : Remembers hashes store) (husers : store'.users = store.users) :
    Remembers hashes store' := by
  obtain ⟨hhash, hunnamed⟩ := h
  simp only [sessionHash, ← husers] at hhash hunnamed
  exact ⟨hhash, hunnamed⟩

theorem Remembers.updateUser (h : Remembers hashes store) {f : RowUpdate User.keys}
    (hf : ∀ user, (f.apply user).refreshToken = user.refreshToken)
    (hwrite : store.updateUser userId f = .ok store') : Remembers hashes store' := by
  obtain ⟨-, rfl⟩ := Store.updateUser_eq_ok hwrite
  constructor
  · intro id
    rw [← h.hash id, sessionHash, sessionHash, Table.findUnique_update]
    cases store.users.findUnique (.id id) with
    | none => rfl
    | some user =>
        simp only [Option.map_some, Option.bind_some]
        split
        · exact hf user
        · rfl
  · change (store.users.update _ f).findUnique _ = none
    rw [Table.findUnique_update, h.unnamed, Option.map_none]

/-- The token of one account is replaced, or withdrawn. -/
theorem Remembers.setRefreshToken (h : Remembers hashes store) {hash : Option String}
    (hwrite : store.updateUser userId (setRefreshToken hash) = .ok store') :
    userId ≠ "" ∧ Remembers (Function.update hashes userId hash) store' := by
  obtain ⟨hfound, rfl⟩ := Store.updateUser_eq_ok hwrite
  refine ⟨fun hempty => hfound (hempty ▸ h.unnamed), fun id => ?_, ?_⟩
  · by_cases hid : id = userId
    · subst hid
      obtain ⟨user, huser⟩ := Option.ne_none_iff_exists'.mp hfound
      rw [Function.update_self, sessionHash, Table.findUnique_update_self, huser]
      rfl
    · rw [Function.update_of_ne hid, ← h.hash id, sessionHash, sessionHash]
      exact congrArg (·.bind User.refreshToken) (findUnique_update_id_of_ne hid)
  · change (store.users.update _ (Identity.setRefreshToken hash)).findUnique _ = none
    rw [Table.findUnique_update, h.unnamed, Option.map_none]

theorem Remembers.createUser (h : Remembers hashes store) {user : User}
    (htoken : user.refreshToken = none) (hid : user.id ≠ "")
    (hwrite : store.createUser user = .ok store') : Remembers hashes store' := by
  have hfresh := fresh_of_createUser hwrite
  obtain ⟨users, hcreate, rfl⟩ := Store.createUser_eq_ok hwrite
  have hfound : ∀ id, users.findUnique (.id id) =
      if UserIndex.id id ∈ user.keys then some user else store.users.findUnique (.id id) :=
    fun id => Table.findUnique_create hcreate _
  constructor
  · intro id
    rw [← h.hash id, sessionHash, sessionHash, hfound]
    split
    · rename_i hkey
      rw [← mem_id_keys_iff.mp hkey, hfresh, Option.bind_some, Option.bind_none, htoken]
    · rfl
  · change users.findUnique _ = none
    rw [hfound, if_neg fun hkey => hid (mem_id_keys_iff.mp hkey)]
    exact h.unnamed

theorem Remembers.modifyUser (h : Remembers hashes store) {f : User → User}
    (hid : ∀ user, (f user).id = user.id)
    (hf : ∀ user, (f user).refreshToken = user.refreshToken)
    (hwrite : store.modifyUser userId f = .ok store') : Remembers hashes store' := by
  obtain ⟨users, hmodify, rfl⟩ := Store.modifyUser_eq_ok hwrite
  have hfound : ∀ id, users.findUnique (.id id) = (store.users.findUnique (.id id)).map fun row =>
      if UserIndex.id userId ∈ row.keys then f row else row :=
    fun id => Table.findUnique_modify hmodify fun row => by
      rw [mem_id_keys_iff, mem_id_keys_iff, hid]
  constructor
  · intro id
    rw [← h.hash id, sessionHash, sessionHash, hfound]
    cases store.users.findUnique (.id id) with
    | none => rfl
    | some user =>
        simp only [Option.map_some, Option.bind_some]
        split
        · exact hf user
        · rfl
  · change users.findUnique _ = none
    rw [hfound, h.unnamed, Option.map_none]

theorem Remembers.createProfile (h : Remembers hashes store) {profile : KYCProfile}
    (hwrite : store.createProfile profile = .ok store') : Remembers hashes store' := by
  obtain ⟨_, -, rfl⟩ := Store.createProfile_eq_ok hwrite
  exact h.of_users rfl

theorem Opens.refreshToken {cfg : Config} {w : World} {call : Call} {user : User}
    (h : Opens cfg w call user) : user.refreshToken = none ∧ user.id = call.io.userId := by
  cases h <;> exact ⟨rfl, rfl⟩

/-- The token is not among the columns that are written before a sign-in ends. -/
theorem UserWrite.refreshToken {cfg : Config} {w : World} {call : Call} {f : RowUpdate User.keys}
    (h : UserWrite cfg w call False userId f) (user : User) :
    (f.apply user).refreshToken = user.refreshToken := by
  cases h with
  | signedIn h | loggedOut h => exact h.elim
  | _ => rfl

theorem Remembers.write {cfg : Config} {w : World} {call : Call} (hid : call.io.userId ≠ "")
    (h : Remembers hashes store) (hwrite : Write cfg w call False store store') :
    Remembers hashes store' := by
  cases hwrite with
  | createUser hopens hwrite =>
      obtain ⟨htoken, hnew⟩ := hopens.refreshToken
      exact h.createUser htoken (hnew ▸ hid) hwrite
  | updateUser hupdate hwrite => exact h.updateUser hupdate.refreshToken hwrite
  | signUp _ _ _ hwrite | nameAdmin _ hwrite =>
      refine h.modifyUser ?_ ?_ hwrite
      · exact fun _ => rfl
      · exact fun _ => rfl
  | createProfile _ hwrite => exact h.createProfile hwrite
  | updateProfile _ hwrite => exact h.of_users (by rw [Store.updateProfile_eq_ok hwrite])
  | upsertPayoutSetup _ _ hwrite =>
      obtain ⟨_, -, hstore⟩ := Outcome.bind_eq_ok.mp hwrite
      cases hstore
      exact h.of_users rfl
  | elsewhere husers => exact h.of_users husers

/-- A request that neither signs in nor logs out leaves the tokens alone. -/
theorem Remembers.writes {cfg : Config} {w : World} {call : Call} (hid : call.io.userId ≠ "")
    (h : Remembers hashes w.store) (hwrites : Writes cfg w call False store) :
    Remembers hashes store :=
  hwrites.keeps h fun _ _ hkept hwrite => hkept.write hid hwrite

end Writes

/-! ## Sign-ins -/

section SignIns

variable {cfg : AuthService.Config} {io : AuthService.Io} {hashes : String → Option String}

/-- A refresh token of the account, signed at that time. -/
def RefreshTokenOf (cfg : AuthService.Config) (issuedAt : ℤ) (userId : String) (token : Jwt) :
    Prop :=
  userId ≠ "" ∧ ∃ email role, token =
    ⟨.session userId email role,
      cfg.signAsync (refreshSecret cfg) (.session userId email role) issuedAt⟩

/-- What a reply hands out is what the store remembers. -/
def Answered (cfg : AuthService.Config) (io : AuthService.Io) (hashes : String → Option String)
    (reply : AuthService.Reply) (w : World) : Prop :=
  match session reply with
  | none => OnStore (Remembers hashes) w
  | some (userId, token) => RefreshTokenOf cfg io.now userId token ∧
      OnStore (Remembers (Function.update hashes userId (some (cfg.hashOTP token.text)))) w

def Answers (cfg : AuthService.Config) (io : AuthService.Io) (hashes : String → Option String)
    (P : World → Prop) (m : Handler AuthService.Reply) : Prop :=
  Triple P m (Answered cfg io hashes) (OnStore (Remembers hashes))

theorem answered_of_tokens {user : User} {reply : AuthService.Reply} {w : World}
    (hreply : session reply = some (user.id, (generateTokens cfg io user).refreshToken))
    (hid : user.id ≠ "") (hw : OnStore (Remembers (Function.update hashes user.id
      (some (cfg.hashOTP (generateTokens cfg io user).refreshToken.text)))) w) :
    Answered cfg io hashes reply w := by
  unfold Answered
  rw [hreply]
  exact ⟨⟨hid, user.email, user.role, rfl⟩, hw⟩

/-- What a sign-in stores last is what its reply hands out. -/
theorem Ends.answered {cfg : Config} {w w' : World} {call : Call} {reply : AuthService.Reply}
    (hid : call.io.userId ≠ "") (h : Remembers hashes w.store)
    (hends : OnStore (Ends cfg w call reply) w') :
    Answered cfg.toAuth call.io.toAuth hashes reply w' := by
  cases hsession : session reply with
  | none =>
      simp only [OnStore, Ends, hsession] at hends
      simp only [Answered, hsession]
      exact h.writes hid hends
  | some given =>
      simp only [OnStore, Ends, hsession] at hends
      simp only [Answered, hsession]
      obtain ⟨before, user, hbefore, huser, htoken, hwrite⟩ := hends
      have hstored := (h.writes hid hbefore).setRefreshToken hwrite
      exact ⟨⟨hstored.1, user.email, user.role, huser ▸ htoken ▸ rfl⟩, hstored.2⟩

theorem Concludes.answers {cfg : Config} {w : World} {call : Call} {P : World → Prop}
    {m : Handler AuthService.Reply} (hid : call.io.userId ≠ "") (h : Remembers hashes w.store)
    (hm : Concludes cfg w call P m) : Answers cfg.toAuth call.io.toAuth hashes P m :=
  hm.conseq (fun _ hw => hw) (fun _ _ hw => Ends.answered hid h hw) fun _ hw => h.writes hid hw

end SignIns

/-! ## Calls that are counted -/

section Counted

variable {α β : Type} {I J : Store → Prop} {n : ℕ} {store : Store}

/-- The store is known, and `n` more calls go through. -/
def Exactly (n : ℕ) (store : Store) (w : World) : Prop := w.storeCalls = n ∧ w.store = store

theorem read_exactly {f : Store → α} {g : α → Handler β} {R : β → World → Prop} (hE : I store)
    (h : ∀ m, n = m + 1 → Triple (Exactly m store) (g (f store)) R (OnStore I)) :
    Triple (Exactly n store) (query f >>= g) R (OnStore I) := by
  have hread : Triple (Exactly n store) (query f)
      (fun a w => (a = f store ∧ ∃ m, n = m + 1 ∧ Exactly m store w)) (OnStore I) := by
    constructor
    · intro w a w' hw hrun
      unfold query storeCall at hrun
      obtain ⟨rfl, rfl⟩ := hw
      split at hrun
      · cases hrun
      · rename_i m hcalls
        cases hrun
        exact ⟨rfl, m, hcalls, rfl, rfl⟩
    · intro w e w' hw hrun
      unfold query storeCall at hrun
      obtain ⟨rfl, rfl⟩ := hw
      split at hrun
      · cases hrun
        exact hE
      · cases hrun
  refine hread.bind fun a => Triple.intro fun ha => ?_
  subst ha
  exact ⟨fun ⟨m, hm, hw⟩ hrun => (h m hm).ok hw hrun, fun ⟨m, hm, hw⟩ hrun =>
    (h m hm).error hw hrun⟩

/-- At most `n` more calls go through. -/
def Limited (n : ℕ) (I : Store → Prop) (w : World) : Prop := w.storeCalls ≤ n ∧ I w.store

theorem write_limited {f : Store → Except Exn Store}
    (h : ∀ store store', I store → f store = .ok store' → J store') :
    Triple (Limited (n + 1) I) (write f) (fun _ => Limited n J) (OnStore I) := by
  constructor
  · intro w a w' hw hrun
    have hJ : J w'.store := (write_triple h).ok hw.2 hrun
    refine ⟨?_, hJ⟩
    have hn := hw.1
    unfold write storeCall at hrun
    split at hrun
    · cases hrun
    · rename_i hcalls
      cases hf : f w.store with
      | error e =>
          simp only [hf, Except.map] at hrun
          cases hrun
      | ok store' =>
          simp only [hf, Except.map] at hrun
          cases hrun
          simp only
          omega
  · intro w e w' hw hrun
    exact (write_triple h).error hw.2 hrun

theorem write_exhausted {f : Store → Except Exn Store} :
    Triple (Limited 0 I) (write f) (fun _ _ => False) (OnStore I) := by
  constructor
  · intro w a w' hw hrun
    unfold write storeCall at hrun
    rw [Nat.le_zero.mp hw.1] at hrun
    cases hrun
  · intro w e w' hw hrun
    exact (write_triple (J := fun _ => True) fun _ _ _ _ => trivial).error hw.2 hrun

end Counted

/-! ## Sign-ins with a code -/

section Codes

variable {cfg : AuthService.Config} {io : AuthService.Io} {hashes : String → Option String}
  {store : Store}

/-- An account waits for this code to confirm its address. -/
def AwaitsCode (cfg : AuthService.Config) (io : AuthService.Io) (store : Store)
    (email otp : String) : Prop :=
  ∃ user ∈ store.users.findUnique (.email email), user.isVerified = false ∧
    AcceptsOtp cfg io.now user otp

instance (store : Store) (email otp : String) : Decidable (AwaitsCode cfg io store email otp) :=
  inferInstanceAs (Decidable (∃ _ ∈ _, _))

/-- The approval of the account is not backed by a submission. -/
def Unbacked (store : Store) (userId : String) : Prop :=
  ∃ p ∈ store.kycProfiles.findUnique userId, p.status = .APPROVED ∧ p.submittedAt = none

instance (store : Store) (userId : String) : Decidable (Unbacked store userId) :=
  inferInstanceAs (Decidable (∃ _ ∈ _, _))

/-- The store fails a sign-in by number after it has stored the token. -/
def CutOff (cfg : AuthService.Config) (io : AuthService.Io) (store : Store)
    (phone otp : String) : Prop :=
  ∃ number ∈ (normalizePhone phone).toOption, ∃ user ∈ store.users.findUnique (.phone number),
    AcceptsOtp cfg io.now user otp ∧
      (io.storeCalls = 3 ∨ io.storeCalls = 4 ∧ Unbacked store user.id)

instance (store : Store) (phone otp : String) : Decidable (CutOff cfg io store phone otp) :=
  inferInstanceAs (Decidable (∃ _ ∈ _, ∃ _ ∈ _, _))

theorem verifyOtp_answers {email otp : String} (h : Remembers hashes store)
    (hnone : ¬(AwaitsCode cfg io store email otp ∧ 2 ≤ io.storeCalls)) :
    Answers cfg io hashes (Exactly io.storeCalls store) (verifyOtp cfg io email otp) := by
  have hfail : ∀ n w, Exactly n store w → OnStore (Remembers hashes) w := by
    rintro n w ⟨-, rfl⟩
    exact h
  refine read_exactly h fun n hn => ?_
  refine Triple.orThrow_bind (hfail n) fun user hfound => ?_
  refine Triple.require_bind (hfail n) fun hunverified => ?_
  refine Triple.lift_bind (hfail n) fun _ hotp => ?_
  have hcalls : n = 0 := by
    by_contra hne
    exact hnone ⟨⟨user, hfound, hunverified, checkOtp_accepts hotp⟩, by omega⟩
  subst hcalls
  have hconfirm : Triple (Exactly 0 store) (updateUser user.id confirmOtp) (fun _ _ => False)
      (OnStore (Remembers hashes)) := by
    refine Triple.pre write_exhausted fun w hw => ?_
    exact ⟨hw.1.le, hfail 0 w hw⟩
  exact hconfirm.bind fun _ => Triple.unreachable

theorem updateProfile_ok {userId : String} {p : KYCProfile}
    (hfound : store.kycProfiles.findUnique userId = some p) (f : RowUpdate KYCProfile.keys) :
    store.updateProfile userId f =
      .ok { store with kycProfiles := store.kycProfiles.update userId f } := by
  simp [Store.updateProfile, hfound, Outcome.require, pure, Except.pure, bind, Except.bind]

/-- The store gives up before the token is stored. -/
theorem confirm_early {user : User} {reply : Tokens → Handler AuthService.Reply} :
    Answers cfg io hashes (Limited 1 (Remembers hashes))
      (updateUser user.id confirmOtp >>= fun _ => startSession cfg io user >>= reply) := by
  refine Triple.bind (write_limited fun _ _ h hwrite => h.updateUser (fun _ => rfl) hwrite)
    fun _ => ?_
  have hsession : Triple (Limited 0 (Remembers hashes)) (startSession cfg io user)
      (fun _ _ => False) (OnStore (Remembers hashes)) :=
    Triple.bind write_exhausted fun _ => Triple.unreachable
  exact hsession.bind fun _ => Triple.unreachable

/-- The store answers to the end. -/
theorem confirm_stocked {user : User} {n : ℕ} (profiles : Table KYCProfile.keys)
    (reply : Tokens → KYCStatus → AuthService.Reply)
    (hreply : ∀ status, session (reply (generateTokens cfg io user) status) =
      some (user.id, (generateTokens cfg io user).refreshToken))
    (hn : (∃ p ∈ profiles.findUnique user.id, p.status = .APPROVED ∧ p.submittedAt = none) →
      1 ≤ n) :
    Answers cfg io hashes
      (Stocked (n + 3) fun store => Remembers hashes store ∧ store.kycProfiles = profiles)
      (do
        updateUser user.id confirmOtp
        let tokens ← startSession cfg io user
        let kycProfile ← findProfile user.id
        if (kycProfile.map KYCProfile.status).getD .NOT_STARTED = .APPROVED ∧
            (kycProfile.bind KYCProfile.submittedAt) = none then do
          updateProfile user.id (setKycStatus .IN_PROGRESS)
          pure (reply tokens .IN_PROGRESS)
        else pure (reply tokens ((kycProfile.map KYCProfile.status).getD .NOT_STARTED))) := by
  have hconfirm : Triple
      (Stocked (n + 3) fun store => Remembers hashes store ∧ store.kycProfiles = profiles)
      (updateUser user.id confirmOtp)
      (fun _ => Stocked (n + 2) fun store => Remembers hashes store ∧ store.kycProfiles = profiles)
      (OnStore (Remembers hashes)) := by
    refine (try_stocked fun store store' h hwrite => ?_).conseq (fun _ hw => hw)
      (fun _ _ hw => hw) fun _ hw => hw.1
    refine ⟨h.1.updateUser (fun _ => rfl) hwrite, ?_⟩
    rw [(Store.updateUser_eq_ok hwrite).2]
    exact h.2
  refine hconfirm.bind fun _ => ?_
  set tokens := generateTokens cfg io user with htokens
  set hashes' := Function.update hashes user.id (some (cfg.hashOTP tokens.refreshToken.text))
    with hhashes'
  have hsession : Triple
      (Stocked (n + 2) fun store => Remembers hashes store ∧ store.kycProfiles = profiles)
      (startSession cfg io user)
      (fun issued w => issued = tokens ∧ Stocked (n + 1) (fun store =>
        (user.id ≠ "" ∧ Remembers hashes' store) ∧ store.kycProfiles = profiles) w)
      (OnStore (Remembers hashes)) := by
    have hwrite := try_stocked (n := n + 1)
      (I := fun store => Remembers hashes store ∧ store.kycProfiles = profiles)
      (J := fun store => (user.id ≠ "" ∧ Remembers hashes' store) ∧ store.kycProfiles = profiles)
      (f := (·.updateUser user.id (setRefreshToken (some (cfg.hashOTP tokens.refreshToken.text)))))
      fun store store' h hwrite => by
        refine ⟨h.1.setRefreshToken hwrite, ?_⟩
        rw [(Store.updateUser_eq_ok hwrite).2]
        exact h.2
    refine (hwrite.conseq (fun _ hw => hw) (fun _ _ hw => hw) fun _ hw => hw.1).bind fun _ => ?_
    exact Triple.pure fun w hw => ⟨rfl, hw⟩
  refine hsession.bind fun issued => Triple.intro fun hissued => ?_
  subst hissued
  refine stocked_bind query_stocked fun kycProfile => ?_
  have hdone : ∀ status w, Stocked 0 (fun store => user.id ≠ "" ∧ Remembers hashes' store) w →
      Answered cfg io hashes (reply tokens status) w := fun status w hw =>
    answered_of_tokens (hreply status) hw.2.1 hw.2.2
  refine Triple.ite (fun hleak => ?_) fun _ => Triple.pure fun w hw => ?_
  · refine Triple.pre (P := fun w => kycProfile = profiles.findUnique user.id ∧
      Stocked n (fun store =>
      (user.id ≠ "" ∧ Remembers hashes' store) ∧ store.kycProfiles = profiles) w)
      (Triple.intro fun hprofile => ?_) fun w hw => ?_
    · obtain ⟨p, hp, hunbacked⟩ : ∃ p ∈ profiles.findUnique user.id,
          p.status = .APPROVED ∧ p.submittedAt = none := by
        rw [← hprofile]
        cases kycProfile with
        | none => simp at hleak
        | some p => exact ⟨p, rfl, by simpa using hleak⟩
      obtain ⟨m, rfl⟩ : ∃ m, n = m + 1 := ⟨n - 1, by have := hn ⟨p, hp, hunbacked⟩; omega⟩
      refine stocked_bind (write_stocked (J := fun store => user.id ≠ "" ∧ Remembers hashes' store)
        fun store hstore => ?_) fun _ => ?_
      · have hfound : store.kycProfiles.findUnique user.id = some p := hstore.2 ▸ hp
        exact ⟨_, updateProfile_ok hfound _, hstore.1.1, hstore.1.2.of_users rfl⟩
      · exact Triple.pure fun w hw => hdone _ w ⟨Nat.zero_le _, hw.2⟩
    · exact ⟨hw.2.2.trans (by rw [hw.2.1.2]), hw.1, hw.2.1⟩
  · exact hdone _ w ⟨Nat.zero_le _, hw.2.1.1⟩

theorem verifyManualPhoneOtp_answers {phone otp : String} (h : Remembers hashes store)
    (hnone : ¬CutOff cfg io store phone otp) :
    Answers cfg io hashes (Exactly io.storeCalls store)
      (verifyManualPhoneOtp cfg io phone otp) := by
  have hfail : ∀ n w, Exactly n store w → OnStore (Remembers hashes) w := by
    rintro n w ⟨-, rfl⟩
    exact h
  refine Triple.lift_bind (hfail _) fun number hnumber => ?_
  refine read_exactly h fun n hn => ?_
  refine Triple.orThrow_bind (hfail n) fun user hfound => ?_
  refine Triple.lift_bind (hfail n) fun _ hotp => ?_
  have hcalls : ¬(io.storeCalls = 3 ∨ io.storeCalls = 4 ∧ Unbacked store user.id) := fun hcut =>
    hnone ⟨number, by simp [hnumber, Except.toOption], user, hfound, checkOtp_accepts hotp, hcut⟩
  by_cases hearly : n ≤ 1
  · exact Triple.pre confirm_early fun w hw => ⟨hw.1.trans_le hearly, hfail n w hw⟩
  · obtain ⟨m, rfl⟩ : ∃ m, n = m + 3 := ⟨n - 3, by omega⟩
    refine Triple.pre (confirm_stocked (n := m) store.kycProfiles
      (fun tokens status => .mobileVerified "Mobile OTP verified" _ user.id tokens user.role
        user.email user.phone status) (fun _ => rfl) fun hunbacked => ?_) fun w hw => ?_
    · have hfour : io.storeCalls ≠ 4 := fun hfour => hcalls (.inr ⟨hfour, hunbacked⟩)
      omega
    · obtain ⟨hw, rfl⟩ := hw
      exact ⟨hw.ge, h, rfl⟩

end Codes

end Aegis.Identity
