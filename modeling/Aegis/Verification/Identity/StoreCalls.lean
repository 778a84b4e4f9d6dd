import Aegis.Model.Auth

/-! # What one store call does

A reader learns what the store holds; a writer leaves it as the write says. A call that is
lost or refused leaves the store as it was. -/

namespace Aegis.Identity

open Aegis.Action DynamicQCommerce

/-- A property of the store alone. -/
def OnStore (I : Store → Prop) (w : World) : Prop := I w.store

theorem onStore_of_eq {I : Store → Prop} {store : Store} (hstore : I store) :
    ∀ w, OnStore (· = store) w → OnStore I w := by
  intro w hw
  rw [OnStore, show w.store = store from hw]
  exact hstore

section Rules

variable {α β : Type} {I J : Store → Prop}

theorem storeCall_triple {f : Store → Except Exn (α × Store)} {Q : α → Store → Prop}
    (h : ∀ store a store', I store → f store = .ok (a, store') → Q a store') :
    Triple (OnStore I) (storeCall f) (fun a => OnStore (Q a)) (OnStore I) := by
  constructor
  · intro w a w' hw hrun
    unfold storeCall at hrun
    split at hrun
    · cases hrun
    · split at hrun
      · cases hrun
      · rename_i hf
        cases hrun
        exact h w.store _ _ hw hf
  · intro w e w' hw hrun
    unfold storeCall at hrun
    split at hrun
    · cases hrun
      exact hw
    · split at hrun
      · cases hrun
        exact hw
      · cases hrun

theorem query_triple {f : Store → α} :
    Triple (OnStore I) (query f) (fun a => OnStore fun store => I store ∧ a = f store)
      (OnStore I) := by
  refine storeCall_triple fun store a store' hI h => ?_
  cases h
  exact ⟨hI, rfl⟩

/-- What a known store holds is known to what follows the reader. -/
theorem read_bind {f : Store → α} {g : α → Handler β} {store : Store}
    {R : β → World → Prop} (hE : I store)
    (h : Triple (OnStore (· = store)) (g (f store)) R (OnStore I)) :
    Triple (OnStore (· = store)) (query f >>= g) R (OnStore I) := by
  have hread : Triple (OnStore (· = store)) (query f)
      (fun a w => a = f store ∧ OnStore (· = store) w) (OnStore I) := by
    refine query_triple.conseq (fun _ hw => hw) (fun a w hw => ?_) (onStore_of_eq hE)
    obtain ⟨hstore, ha⟩ := hw
    exact ⟨hstore ▸ ha, hstore⟩
  exact hread.bind fun a => Triple.intro fun ha => ha ▸ h

theorem write_triple {f : Store → Except Exn Store}
    (h : ∀ store store', I store → f store = .ok store' → J store') :
    Triple (OnStore I) (write f) (fun _ => OnStore J) (OnStore I) := by
  refine storeCall_triple fun store a store' hI hf => ?_
  cases hcall : f store with
  | error e =>
      rw [hcall] at hf
      cases hf
  | ok written =>
      rw [hcall] at hf
      cases hf
      exact h store _ hI hcall

/-- The service in memory does not touch the store. -/
theorem onRegistry_triple {m : Service α} {Pr : Registry → Prop} {Qr : α → Registry → Prop}
    {Er : Registry → Prop} (h : Triple Pr m Qr Er) :
    Triple (fun w => Pr w.registry ∧ OnStore I w) (onRegistry m)
      (fun a w => (∃ registry, Qr a registry) ∧ OnStore I w) (OnStore I) :=
  Triple.focus h (fun _ hw => hw.1) (fun _ _ registry hw hQ => ⟨⟨registry, hQ⟩, hw.2⟩)
    fun _ _ hw _ => hw.2

theorem onRegistry_keeps {m : Service α} :
    Triple (OnStore I) (onRegistry m) (fun _ => OnStore I) (OnStore I) := by
  have htrivial : Triple (fun _ => True) m (fun _ _ => True) fun _ => True := Triple.trivial
  exact (onRegistry_triple htrivial).conseq (fun _ hw => ⟨True.intro, hw⟩) (fun _ _ hw => hw.2)
    fun _ hw => hw

end Rules

/-! ## Writes of users and profiles -/

namespace Store

variable {store store' : Store} {user : User} {id : String} {profile : KYCProfile}

theorem createUser_eq_ok (h : store.createUser user = .ok store') :
    ∃ users, store.users.create user = some users ∧ store' = { store with users } := by
  simp only [createUser, Outcome.bind_eq_ok, Outcome.orThrow_eq_ok] at h
  obtain ⟨users, hcreate, hstore⟩ := h
  cases hstore
  exact ⟨users, hcreate, rfl⟩

theorem updateUser_eq_ok {f : RowUpdate User.keys} (h : store.updateUser id f = .ok store') :
    store.users.findUnique (.id id) ≠ none ∧
      store' = { store with users := store.users.update (.id id) f } := by
  simp only [updateUser, Outcome.bind_eq_ok, Outcome.require_eq_ok] at h
  obtain ⟨-, hfound, hstore⟩ := h
  cases hstore
  exact ⟨hfound, rfl⟩

theorem modifyUser_eq_ok {f : User → User} (h : store.modifyUser id f = .ok store') :
    ∃ users, store.users.modify (.id id) f = some users ∧ store' = { store with users } := by
  simp only [modifyUser, Outcome.bind_eq_ok, Outcome.require_eq_ok, Outcome.orThrow_eq_ok] at h
  obtain ⟨-, -, users, hmodify, hstore⟩ := h
  cases hstore
  exact ⟨users, hmodify, rfl⟩

theorem createProfile_eq_ok (h : store.createProfile profile = .ok store') :
    ∃ kycProfiles, store.kycProfiles.create profile = some kycProfiles ∧
      store' = { store with kycProfiles } := by
  simp only [createProfile, Outcome.bind_eq_ok, Outcome.require_eq_ok, Outcome.orThrow_eq_ok] at h
  obtain ⟨-, -, kycProfiles, hcreate, hstore⟩ := h
  cases hstore
  exact ⟨kycProfiles, hcreate, rfl⟩

theorem updateProfile_eq_ok {f : RowUpdate KYCProfile.keys}
    (h : store.updateProfile id f = .ok store') :
    store' = { store with kycProfiles := store.kycProfiles.update id f } := by
  simp only [updateProfile, Outcome.bind_eq_ok, Outcome.require_eq_ok] at h
  obtain ⟨-, -, hstore⟩ := h
  cases hstore
  rfl

/-- A write of a profile is one of the table of profiles. -/
theorem upsertProfile_eq_ok {f : RowUpdate KYCProfile.keys}
    (h : store.upsertProfile profile f = .ok store') :
    ∃ kycProfiles, store.kycProfiles.upsert profile.userId profile f = some kycProfiles ∧
      store' = { store with kycProfiles } := by
  unfold upsertProfile at h
  cases hfound : store.kycProfiles.findUnique profile.userId with
  | none =>
      rw [hfound] at h
      obtain ⟨kycProfiles, hcreate, hstore⟩ := createProfile_eq_ok h
      refine ⟨kycProfiles, ?_, hstore⟩
      simp only [Table.upsert, hfound, hcreate]
  | some existing =>
      rw [hfound] at h
      refine ⟨_, ?_, updateProfile_eq_ok h⟩
      simp only [Table.upsert, hfound]

/-- Both plain writes of a profile are cases of the upsert. -/
theorem upsertProfile_of_createProfile {f : RowUpdate KYCProfile.keys}
    (h : store.createProfile profile = .ok store') :
    store.upsertProfile profile f = .ok store' := by
  obtain ⟨kycProfiles, hcreate, -⟩ := createProfile_eq_ok h
  have hnone : store.kycProfiles.findUnique profile.userId = none := by
    have hfresh := (Table.create_eq_some hcreate).1
    refine List.find?_eq_none.mpr fun p hp hkey => ?_
    exact hfresh p hp profile.userId (by simpa using hkey) (by simp [KYCProfile.keys])
  simp only [upsertProfile, hnone, h]

theorem upsertProfile_of_updateProfile {f : RowUpdate KYCProfile.keys}
    (h : store.updateProfile profile.userId f = .ok store') :
    store.upsertProfile profile f = .ok store' := by
  cases hfound : store.kycProfiles.findUnique profile.userId with
  | none =>
      simp only [updateProfile, hfound, Outcome.bind_eq_ok, Outcome.require_eq_ok] at h
      exact absurd rfl h.choose_spec.1
  | some existing => simp only [upsertProfile, hfound, h]

end Store

end Aegis.Identity
