import Aegis.Model.DynamicQCommerce
import Aegis.Model.Payments

/-! # The state behind the identity endpoints

The tables that sign-in and onboarding read and write, the provider sessions in memory,
and the store calls of a handler. A call that comes after the connection is lost fails;
what was written before stays. -/

namespace Aegis.Identity

open DynamicQCommerce

structure KYCBasicIdentity where
  userId : String
  fullName : String
  /-- An ISO date. -/
  dob : String
  gender : String
  deriving DecidableEq, Repr

structure KYCIdentityVerification where
  userId : String
  aadhaarNumber : String
  panNumber : String
  aadhaarDocUrl : Option String
  panDocUrl : Option String
  deriving DecidableEq, Repr

def KYCBasicIdentity.keys (b : KYCBasicIdentity) : List String := [b.userId]

def KYCIdentityVerification.keys (v : KYCIdentityVerification) : List String := [v.userId]

structure Store extends Db where
  kycBasicIdentities : Table KYCBasicIdentity.keys := .empty
  kycIdentityVerifications : Table KYCIdentityVerification.keys := .empty

structure World where
  store : Store
  registry : Registry
  /-- How many store calls still go through. -/
  storeCalls : ℕ

abbrev Handler := Action World Exn

def onRegistry {α : Type} (m : Service α) : Handler α :=
  Action.focus World.registry (fun registry w => { w with registry }) m

section Calls

variable {α : Type}

def storeCall (f : Store → Except Exn (α × Store)) : Handler α := fun w =>
  match w.storeCalls with
  | 0 => (.error Payments.storeDown, w)
  | n + 1 =>
      match f w.store with
      | .error e => (.error e, { w with storeCalls := n })
      | .ok (a, store) => (.ok a, { w with store, storeCalls := n })

def query (f : Store → α) : Handler α := storeCall fun store => .ok (f store, store)

/-- A write that the store may refuse. -/
def write (f : Store → Except Exn Store) : Handler Unit := storeCall fun store =>
  (f store).map fun store => ((), store)

end Calls

/-! ## Users -/

namespace Store

open Outcome

variable (store : Store)

def createUser (user : User) : Except Exn Store := do
  let users ← orThrow (store.users.create user) Payments.constraintFailed
  pure { store with users }

def updateUser (id : String) (f : RowUpdate User.keys) : Except Exn Store := do
  require (store.users.findUnique (.id id) ≠ none) Payments.recordNotFound
  pure { store with users := store.users.update (.id id) f }

/-- An update of unique columns. -/
def modifyUser (id : String) (f : User → User) : Except Exn Store := do
  require (store.users.findUnique (.id id) ≠ none) Payments.recordNotFound
  let users ← orThrow (store.users.modify (.id id) f) Payments.constraintFailed
  pure { store with users }

/-- A profile refers to its user. -/
def createProfile (profile : KYCProfile) : Except Exn Store := do
  require (store.users.findUnique (.id profile.userId) ≠ none) Payments.foreignKeyFailed
  let kycProfiles ← orThrow (store.kycProfiles.create profile) Payments.constraintFailed
  pure { store with kycProfiles }

def updateProfile (userId : String) (f : RowUpdate KYCProfile.keys) : Except Exn Store := do
  require (store.kycProfiles.findUnique userId ≠ none) Payments.recordNotFound
  pure { store with kycProfiles := store.kycProfiles.update userId f }

def upsertProfile (profile : KYCProfile) (f : RowUpdate KYCProfile.keys) : Except Exn Store :=
  match store.kycProfiles.findUnique profile.userId with
  | none => store.createProfile profile
  | some _ => store.updateProfile profile.userId f

end Store

def findUser (k : UserIndex) : Handler (Option User) := query fun store => store.users.findUnique k

def createUser (user : User) : Handler Unit := write (·.createUser user)

def updateUser (id : String) (f : RowUpdate User.keys) : Handler Unit := write (·.updateUser id f)

def modifyUser (id : String) (f : User → User) : Handler Unit := write (·.modifyUser id f)

def setOtp (code : String) (expiresAt : ℤ) : RowUpdate User.keys where
  apply u := { u with otpCode := some code, otpExpiresAt := some expiresAt }
  keys_apply _ := rfl

def clearOtp : RowUpdate User.keys where
  apply u := { u with otpCode := none, otpExpiresAt := none }
  keys_apply _ := rfl

/-- The OTP is used up and proves the address or the number. -/
def confirmOtp : RowUpdate User.keys where
  apply u := { u with otpCode := none, otpExpiresAt := none, isVerified := true }
  keys_apply _ := rfl

def setRefreshToken (hash : Option String) : RowUpdate User.keys where
  apply u := { u with refreshToken := hash }
  keys_apply _ := rfl

def resetPasswordHash (passwordHash : String) : RowUpdate User.keys where
  apply u := { u with passwordHash, otpCode := none, otpExpiresAt := none }
  keys_apply _ := rfl

def verifyOnPlatform (platform : String) : RowUpdate User.keys where
  apply u := { u with isVerified := true, platform := some platform }
  keys_apply _ := rfl

def setPlatform (platform : String) : RowUpdate User.keys where
  apply u := { u with platform := some platform }
  keys_apply _ := rfl

def setDriverName (driverName : String) : RowUpdate User.keys where
  apply u := { u with driverName := some driverName }
  keys_apply _ := rfl

/-! ## KYC profiles -/

def findProfile (userId : String) : Handler (Option KYCProfile) :=
  query fun store => store.kycProfiles.findUnique userId

def createProfile (profile : KYCProfile) : Handler Unit := write (·.createProfile profile)

def updateProfile (userId : String) (f : RowUpdate KYCProfile.keys) : Handler Unit :=
  write (·.updateProfile userId f)

def upsertProfile (profile : KYCProfile) (f : RowUpdate KYCProfile.keys) : Handler Unit :=
  write (·.upsertProfile profile f)

def blankProfile (userId : String) (status : KYCStatus) : KYCProfile where
  userId := userId
  status := status
  submittedAt := none
  reviewedAt := none
  reviewNote := none

def setKycStatus (status : KYCStatus) : RowUpdate KYCProfile.keys where
  apply p := { p with status }
  keys_apply _ := rfl

def approve (now : ℤ) : RowUpdate KYCProfile.keys where
  apply p := { p with status := .APPROVED, submittedAt := some now, reviewedAt := some now }
  keys_apply _ := rfl

end Aegis.Identity
