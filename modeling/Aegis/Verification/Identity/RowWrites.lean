import Aegis.Verification.Identity.Writes

/-! # What a request does to the rows of an account

What it may do to the profile of an account is a chain of a few kinds of writes, each with what
the request has shown before. A platform and a consent come from the account or were there. -/

namespace Aegis.Identity

open Relation Aegis.Action JsString DynamicQCommerce AuthService KycService

/-! ## The law of a request -/

section Law

variable (cfg : Config) (w : World) (call : Call)

/-- What an onboarding request may have done to the store that it found. -/
structure Moves (store : Store) : Prop where
  users : ∀ userId, w.store.users.findUnique (.id userId) ≠ none →
    store.users.findUnique (.id userId) ≠ none
  linked : (∀ userId, w.store.users.findUnique (.id userId) = none →
      w.store.kycProfiles.findUnique userId = none) →
    ∀ userId, store.users.findUnique (.id userId) = none →
      store.kycProfiles.findUnique userId = none
  platform : ∀ userId user, store.users.findUnique (.id userId) = some user →
    (w.store.users.findUnique (.id userId) = none ∧ user.platform = none) ∨
    SignsUp cfg w call userId user.platform ∨
    ∃ before, w.store.users.findUnique (.id userId) = some before ∧ before.platform = user.platform
  profile : ∀ userId, ReflTransGen (ProfileWrite cfg w call userId)
    (w.store.kycProfiles.findUnique userId) (store.kycProfiles.findUnique userId)
  consent : ∀ userId setup, store.kycPayoutSetups.findUnique userId = some setup →
    setup.financialDataConsent = true →
    Consents cfg w call userId ∨ OpensSetup w call userId ∨
    ∃ before, w.store.kycPayoutSetups.findUnique userId = some before ∧
      before.financialDataConsent = true

end Law

/-! ## Writes -/

section Writes

variable {cfg : Config} {w : World} {call : Call} {store store' : Store}

theorem Moves.refl : Moves cfg w call w.store where
  users _ h := h
  linked h := h
  platform _ user h := .inr (.inr ⟨user, h, rfl⟩)
  profile _ := .refl
  consent _ setup h hconsent := .inr (.inr ⟨setup, h, hconsent⟩)

/-- A write of other tables. -/
theorem Moves.elsewhere (h : Moves cfg w call store) (husers : store'.users = store.users)
    (hprofiles : store'.kycProfiles = store.kycProfiles)
    (hsetups : store'.kycPayoutSetups = store.kycPayoutSetups) : Moves cfg w call store' where
  users := husers ▸ h.users
  linked := husers ▸ hprofiles ▸ h.linked
  platform := husers ▸ h.platform
  profile := hprofiles ▸ h.profile
  consent := hsetups ▸ h.consent

theorem Moves.updateUser (h : Moves cfg w call store) {userId : String} {f : RowUpdate User.keys}
    (hf : ∀ user, (f.apply user).platform = user.platform)
    (hwrite : store.updateUser userId f = .ok store') : Moves cfg w call store' := by
  obtain ⟨-, rfl⟩ := Store.updateUser_eq_ok hwrite
  have hnone : ∀ id, (store.users.update (.id userId) f).findUnique (.id id) = none ↔
      store.users.findUnique (.id id) = none := by
    intro id
    rw [Table.findUnique_update, Option.map_eq_none_iff]
  exact
    { users := fun id hid => (hnone id).not.mpr (h.users id hid)
      linked := fun hlinked id hid => h.linked hlinked id ((hnone id).mp hid)
      platform := by
        intro id user huser
        change (store.users.update (.id userId) f).findUnique (.id id) = some user at huser
        rw [Table.findUnique_update, Option.map_eq_some_iff] at huser
        obtain ⟨row, hrow, rfl⟩ := huser
        have hkept : (if UserIndex.id userId ∈ row.keys then f.apply row else row).platform =
            row.platform := by
          split
          · exact hf row
          · rfl
        rw [hkept]
        exact h.platform id row hrow
      profile := h.profile
      consent := h.consent }

theorem Moves.createUser (h : Moves cfg w call store) {user : User}
    (hplatform : user.platform = none)
    (hwrite : store.createUser user = .ok store') : Moves cfg w call store' := by
  obtain ⟨users, hcreate, rfl⟩ := Store.createUser_eq_ok hwrite
  have hfound : ∀ id, users.findUnique (.id id) =
      if UserIndex.id id ∈ user.keys then some user else store.users.findUnique (.id id) :=
    fun id => Table.findUnique_create hcreate _
  exact
    { users := by
        intro id hid
        change users.findUnique (.id id) ≠ none
        rw [hfound]
        split
        · simp
        · exact h.users id hid
      linked := by
        intro hlinked id hid
        change users.findUnique (.id id) = none at hid
        rw [hfound] at hid
        split at hid
        · cases hid
        · exact h.linked hlinked id hid
      platform := by
        intro id row hrow
        change users.findUnique (.id id) = some row at hrow
        rw [hfound] at hrow
        split at hrow
        · rename_i hkey
          cases hrow
          have hfresh : store.users.findUnique (.id id) = none :=
            (Table.findUnique_eq_none _ _).mpr fun other hother hkey' =>
              (Table.create_eq_some hcreate).1 other hother _ hkey' hkey
          exact .inl ⟨by_contra fun hsome => h.users id hsome hfresh, hplatform⟩
        · exact h.platform id row hrow
      profile := h.profile
      consent := h.consent }

/-- A change of unique columns that keeps the id writes no platform but that of a signup. -/
theorem Moves.modifyUser (h : Moves cfg w call store) {userId : String} {f : User → User}
    (hid : ∀ user, (f user).id = user.id)
    (hplatform : ∀ user, (f user).platform = user.platform ∨
      SignsUp cfg w call userId (f user).platform)
    (hwrite : store.modifyUser userId f = .ok store') : Moves cfg w call store' := by
  obtain ⟨users, hmodify, rfl⟩ := Store.modifyUser_eq_ok hwrite
  have hfound : ∀ id, users.findUnique (.id id) = (store.users.findUnique (.id id)).map fun row =>
      if UserIndex.id userId ∈ row.keys then f row else row :=
    fun id =>
      Table.findUnique_modify hmodify fun row => by rw [mem_id_keys_iff, mem_id_keys_iff, hid]
  have hnone : ∀ id, users.findUnique (.id id) = none ↔ store.users.findUnique (.id id) = none := by
    intro id
    rw [hfound, Option.map_eq_none_iff]
  exact
    { users := fun id hid => (hnone id).not.mpr (h.users id hid)
      linked := fun hlinked id hid => h.linked hlinked id ((hnone id).mp hid)
      platform := by
        intro id user huser
        change users.findUnique (.id id) = some user at huser
        rw [hfound, Option.map_eq_some_iff] at huser
        obtain ⟨row, hrow, rfl⟩ := huser
        split
        · rename_i hkey
          have huserId : id = userId :=
            (mem_id_keys_iff.mp (Table.key_of_findUnique hrow)).symm.trans
              (mem_id_keys_iff.mp hkey)
          rcases hplatform row with hkept | hsigns
          · rw [hkept]
            exact h.platform id row hrow
          · exact .inr (.inl (huserId ▸ hsigns))
        · exact h.platform id row hrow
      profile := h.profile
      consent := h.consent }

theorem Moves.createProfile (h : Moves cfg w call store) {profile : KYCProfile}
    (hstatus : profile.status ≠ .APPROVED ∧ profile.status ≠ .REJECTED)
    (hwrite : store.createProfile profile = .ok store') :
    Moves cfg w call store' := by
  have huser : store.users.findUnique (.id profile.userId) ≠ none := by
    simp only [Store.createProfile, Outcome.bind_eq_ok, Outcome.require_eq_ok] at hwrite
    exact hwrite.choose_spec.1
  obtain ⟨kycProfiles, hcreate, rfl⟩ := Store.createProfile_eq_ok hwrite
  have hfound : ∀ id, kycProfiles.findUnique id =
      if id ∈ profile.keys then some profile else store.kycProfiles.findUnique id :=
    fun id => Table.findUnique_create hcreate id
  exact
    { users := h.users
      linked := by
        intro hlinked id hid
        change kycProfiles.findUnique id = none
        have hne : id ∉ profile.keys := by
          intro hmem
          exact huser (by rw [← List.mem_singleton.mp hmem]; exact hid)
        rw [hfound, if_neg hne]
        exact h.linked hlinked id hid
      platform := h.platform
      profile := by
        intro id
        change ReflTransGen _ _ (kycProfiles.findUnique id)
        by_cases hmem : id ∈ profile.keys
        · have hfresh : store.kycProfiles.findUnique id = none :=
            (Table.findUnique_eq_none _ _).mpr fun row hrow hkey =>
              (Table.create_eq_some hcreate).1 row hrow id hkey hmem
          rw [hfound, if_pos hmem]
          exact (hfresh ▸ h.profile id).tail (.opened hstatus.1 hstatus.2)
        · rw [hfound, if_neg hmem]
          exact h.profile id
      consent := h.consent }

theorem Moves.updateProfile (h : Moves cfg w call store) {userId : String}
    {f : RowUpdate KYCProfile.keys}
    (hf : ∀ p, store.kycProfiles.findUnique userId = some p →
      ReflTransGen (ProfileWrite cfg w call userId) (some p) (some (f.apply p)))
    (hwrite : store.updateProfile userId f = .ok store') : Moves cfg w call store' := by
  have hstore := Store.updateProfile_eq_ok hwrite
  subst hstore
  exact
    { users := h.users
      linked := by
        intro hlinked id hid
        change (store.kycProfiles.update userId f).findUnique id = none
        rw [Table.findUnique_update, h.linked hlinked id hid, Option.map_none]
      platform := h.platform
      profile := by
        intro id
        change ReflTransGen _ _ ((store.kycProfiles.update userId f).findUnique id)
        rw [Table.findUnique_update]
        have hpath := h.profile id
        cases hfound : store.kycProfiles.findUnique id with
        | none =>
            rw [hfound] at hpath
            exact hpath
        | some p =>
            rw [hfound] at hpath
            simp only [Option.map_some]
            split
            · rename_i hkey
              have hid : userId = id := by
                have hkey' := Table.key_of_findUnique hfound
                simp only [KYCProfile.keys, List.mem_singleton] at hkey hkey'
                exact hkey.trans hkey'.symm
              subst hid
              exact hpath.trans (hf p hfound)
            · exact hpath
      consent := h.consent }

/-- A setup that consents was written with a consent, or consented before. -/
theorem Moves.upsertPayoutSetup (h : Moves cfg w call store) {row : KYCPayoutSetup}
    {f : RowUpdate KYCPayoutSetup.keys}
    (hopens : store.kycPayoutSetups.findUnique row.userId = none →
      Consents cfg w call row.userId ∨ OpensSetup w call row.userId)
    (hf : Consents cfg w call row.userId ∨
      ∀ setup, (f.apply setup).financialDataConsent = setup.financialDataConsent)
    (hwrite : upsertPayoutSetup store row f = .ok store') : Moves cfg w call store' := by
  obtain ⟨setups, hupsert, hstore⟩ := Outcome.bind_eq_ok.mp hwrite
  cases hstore
  have hupsert := upsertRow_eq_ok hupsert
  exact
    { users := h.users
      linked := h.linked
      platform := h.platform
      profile := h.profile
      consent := by
        intro id setup hsetup hconsent
        change setups.findUnique id = some setup at hsetup
        by_cases hid : row.userId = id
        · subst hid
          rcases Table.upsert_cases hupsert with ⟨hnone, -⟩ | ⟨old, hold, rfl⟩
          · rcases hopens hnone with hconsents | hopens
            · exact .inl hconsents
            · exact .inr (.inl hopens)
          · rw [Table.findUnique_update_self, hold] at hsetup
            cases hsetup
            rcases hf with hconsents | hf
            · exact .inl hconsents
            · exact h.consent _ old hold (by rw [← hf old]; exact hconsent)
        · have hsame : setups.findUnique id = store.kycPayoutSetups.findUnique id :=
            findUnique_upsert_of_ne KYCPayoutSetup.userId (fun _ => rfl) rfl hid hupsert
          exact h.consent id setup (hsame.symm.trans hsetup) hconsent }

/-- An account is opened without a platform, but for an exchange. -/
theorem Opens.platform (hother : ¬call.request.Exchanges) {user : User}
    (h : Opens cfg w call user) : user.platform = none := by
  cases h with
  | ofProvider hredeems => exact absurd hredeems.exchanges hother
  | _ => rfl

theorem UserWrite.platform (hother : ¬call.request.Exchanges) {isSession : Prop} {userId : String}
    {f : RowUpdate User.keys} (h : UserWrite cfg w call isSession userId f) (user : User) :
    (f.apply user).platform = user.platform := by
  cases h with
  | verified hexchanges | linked hexchanges => exact absurd hexchanges hother
  | _ => rfl

/-- What one write preserves. -/
theorem Moves.write (hother : ¬call.request.Exchanges) {isSession : Prop}
    (h : Moves cfg w call store) (hwrite : Write cfg w call isSession store store') :
    Moves cfg w call store' := by
  cases hwrite with
  | createUser hopens hwrite => exact h.createUser (hopens.platform hother) hwrite
  | updateUser hupdate hwrite => exact h.updateUser (hupdate.platform hother) hwrite
  | signUp hrequest haccount _ hwrite =>
      refine h.modifyUser ?_ (fun row => .inr ?_) hwrite
      · exact fun _ => rfl
      · exact ⟨_, _, _, hrequest, haccount, rfl, rfl⟩
  | nameAdmin _ hwrite =>
      refine h.modifyUser ?_ ?_ hwrite
      · exact fun _ => rfl
      · exact fun _ => .inl rfl
  | createProfile hstatus hwrite => exact h.createProfile (hstatus.resolve_left hother) hwrite
  | updateProfile hf hwrite =>
      exact h.updateProfile (fun p hp => (hf p hp).resolve_left hother) hwrite
  | upsertPayoutSetup hopens hf hwrite => exact h.upsertPayoutSetup hopens hf hwrite
  | elsewhere husers hprofiles hsetups => exact h.elsewhere husers hprofiles hsetups

/-- What any request but an exchange may have done. -/
theorem step_moves (hother : ¬call.request.Exchanges) : Moves cfg w call (step cfg w call).store :=
  (step_writes cfg w call).keeps .refl fun _ _ h hwrite => h.write hother hwrite

end Writes

/-! ## Chains of writes -/

section Chains

variable {cfg : Config} {w : World} {call : Call} {userId : String} {p p' : KYCProfile}

theorem status_of_files {status : KYCStatus} (h : Files call userId status) :
    status = .IN_PROGRESS ∨ status = .SUBMITTED := by
  obtain ⟨request, -, -, -, htarget⟩ := h
  cases request with
  | uploadBank userId bankDetails =>
      obtain ⟨_, -, hstatus⟩ := Option.map_eq_some_iff.mp htarget
      exact .inl hstatus.symm
  | submit userId platformId => exact .inr (Option.some.inj htarget).symm
  | getStatus userId => cases htarget
  | _ => exact .inl (Option.some.inj htarget).symm

/-- Why the status of a profile is what it is after a request. -/
inductive Change (cfg : Config) (w : World) (call : Call) (userId : String) (p p' : KYCProfile) :
    Prop
  | kept : p'.status = p.status → Change cfg w call userId p p'
  | started : p.status = .NOT_STARTED → p'.status = .IN_PROGRESS → Change cfg w call userId p p'
  | filed : Files call userId p'.status → Change cfg w call userId p p'
  | signedUp {platform} : SignsUp cfg w call userId platform → p'.status = .IN_PROGRESS →
      Change cfg w call userId p p'
  | submitted : Submits cfg w call userId → p'.status = .APPROVED → Change cfg w call userId p p'
  | reviewed : Reviews cfg w call userId p'.status → p'.reviewedAt ≠ none →
      Change cfg w call userId p p'
  | withdrawn : ProvesNumber cfg w call userId → p.status = .APPROVED → p.submittedAt = none →
      p'.status = .IN_PROGRESS → Change cfg w call userId p p'

/-- The times of a submission and of a review may be set but not cleared. -/
structure Dated (p p' : KYCProfile) : Prop where
  submittedAt : p.submittedAt ≠ none → p'.submittedAt ≠ none
  reviewedAt : p.reviewedAt ≠ none → p'.reviewedAt ≠ none

theorem Dated.refl : Dated p p := ⟨id, id⟩

theorem ProfileWrite.exists_some {x : Option KYCProfile}
    (h : ProfileWrite cfg w call userId (some p) x) : ∃ q, x = some q ∧ Dated p q := by
  cases h
  case dated => exact ⟨_, rfl, fun _ => by simp, id⟩
  case submitted => exact ⟨_, rfl, fun _ => by simp [approve], fun _ => by simp [approve]⟩
  case reviewed => exact ⟨_, rfl, id, fun _ => by simp⟩
  all_goals exact ⟨_, rfl, id, id⟩

/-- A status that stands keeps its cause. -/
theorem Change.of_status {q : KYCProfile} (h : Change cfg w call userId p p')
    (hstatus : q.status = p'.status) (hdated : Dated p' q) : Change cfg w call userId p q := by
  cases h with
  | kept hkept => exact .kept (hstatus.trans hkept)
  | started hp hp' => exact .started hp (hstatus.trans hp')
  | filed hfiles => exact .filed (hstatus ▸ hfiles)
  | signedUp hsigns hp' => exact .signedUp hsigns (hstatus.trans hp')
  | submitted hsubmits hp' => exact .submitted hsubmits (hstatus.trans hp')
  | reviewed hreviews hdate => exact .reviewed (hstatus ▸ hreviews) (hdated.reviewedAt hdate)
  | withdrawn hproves hp hnone hp' => exact .withdrawn hproves hp hnone (hstatus.trans hp')

theorem Change.write {q : KYCProfile} (h : Change cfg w call userId p p') (hdated : Dated p p')
    (hwrite : ProfileWrite cfg w call userId (some p') (some q)) :
    Change cfg w call userId p q := by
  cases hwrite with
  | started hstatus =>
      cases h with
      | kept hkept => exact .started (hkept.symm.trans hstatus) rfl
      | filed hfiles =>
          rw [hstatus] at hfiles
          rcases status_of_files hfiles with h | h <;> cases h
      | reviewed hreviews _ =>
          rw [hstatus] at hreviews
          obtain ⟨_, _, _, -, -, -, h | h⟩ := hreviews <;> cases h
      | started _ h | signedUp _ h | submitted _ h | withdrawn _ _ _ h =>
          rw [hstatus] at h
          cases h
  | filed hfiles => exact .filed hfiles
  | dated hfiles => exact h.of_status rfl ⟨fun _ => by simp, id⟩
  | signedUp hsigns => exact .signedUp hsigns rfl
  | submitted hsubmits => exact .submitted hsubmits rfl
  | reviewed hreviews => exact .reviewed hreviews (by simp)
  | withdrawn hproves hstatus hnone =>
      have hp : p.submittedAt = none := by
        by_contra hsome
        exact hdated.submittedAt hsome hnone
      have hrequest : ∃ request, call.request = .auth request := by
        obtain ⟨phone, otp, user, hrequest, -⟩ := hproves
        exact ⟨_, hrequest⟩
      obtain ⟨request, hrequest⟩ := hrequest
      cases h with
      | kept hkept => exact .withdrawn hproves (hkept.symm.trans hstatus) hp rfl
      | filed hfiles =>
          rw [hstatus] at hfiles
          rcases status_of_files hfiles with h | h <;> cases h
      | submitted hsubmits _ =>
          obtain ⟨bearer, user, hother, -⟩ := hsubmits
          rw [hrequest] at hother
          cases hother
      | reviewed hreviews _ =>
          obtain ⟨bearer, admin, note, hother, -⟩ := hreviews
          rw [hrequest] at hother
          cases hother
      | started _ h | signedUp _ h | withdrawn _ _ _ h =>
          rw [hstatus] at h
          cases h

theorem change_of_path {x : Option KYCProfile}
    (h : ReflTransGen (ProfileWrite cfg w call userId) (some p) x) :
    ∃ p', x = some p' ∧ Change cfg w call userId p p' ∧ Dated p p' := by
  induction h with
  | refl => exact ⟨p, rfl, .kept rfl, .refl⟩
  | tail _ hwrite ih =>
      obtain ⟨p', rfl, hchange, hdated⟩ := ih
      obtain ⟨q, rfl, hq⟩ := hwrite.exists_some
      exact ⟨q, rfl, hchange.write hdated hwrite, fun h => hq.submittedAt (hdated.submittedAt h),
        fun h => hq.reviewedAt (hdated.reviewedAt h)⟩

/-- A profile that a request opens starts out neither approved nor rejected. -/
theorem opened_of_path (h : ReflTransGen (ProfileWrite cfg w call userId) none (some p')) :
    ∃ p, p.status ≠ .APPROVED ∧ p.status ≠ .REJECTED ∧ Change cfg w call userId p p' := by
  rcases h.cases_head with h | ⟨x, hopened, hrest⟩
  · cases h
  · cases hopened with
    | opened happroved hrejected =>
        obtain ⟨q, hq, hchange, -⟩ := change_of_path hrest
        cases hq
        exact ⟨_, happroved, hrejected, hchange⟩

end Chains

end Aegis.Identity
