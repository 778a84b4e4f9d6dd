import Aegis.Model.IdentityStore

/-! # Know your customer

`KycService`, whose callers are authenticated, and `ManualKycController`, which takes the
user's id from the request. -/

namespace Aegis.KycService

open Aegis.Action DynamicQCommerce Identity

/-! ## The tables of the questionnaire -/

section Tables

variable (store : Store)

/-- Insert or update under the user's id; a new row refers to its user. -/
def upsertRow {ρ : Type} {keys : ρ → List String} (table : Table keys) (userId : String) (row : ρ)
    (f : RowUpdate keys) : Except Exn (Table keys) := do
  Outcome.require
    (table.findUnique userId ≠ none ∨ store.users.findUnique (.id userId) ≠ none)
    Payments.foreignKeyFailed
  Outcome.orThrow (table.upsert userId row f) Payments.constraintFailed

def upsertBasicIdentity (row : KYCBasicIdentity) (f : RowUpdate KYCBasicIdentity.keys) :
    Except Exn Store := do
  let kycBasicIdentities ← upsertRow store store.kycBasicIdentities row.userId row f
  pure { store with kycBasicIdentities }

def upsertPersonalDetails (row : KYCPersonalDetails) (f : RowUpdate KYCPersonalDetails.keys) :
    Except Exn Store := do
  let kycPersonalDetails ← upsertRow store store.kycPersonalDetails row.userId row f
  pure { store with kycPersonalDetails }

def upsertIdentityVerification (row : KYCIdentityVerification)
    (f : RowUpdate KYCIdentityVerification.keys) : Except Exn Store := do
  let kycIdentityVerifications ← upsertRow store store.kycIdentityVerifications row.userId row f
  pure { store with kycIdentityVerifications }

def upsertPayoutSetup (row : KYCPayoutSetup) (f : RowUpdate KYCPayoutSetup.keys) :
    Except Exn Store := do
  let kycPayoutSetups ← upsertRow store store.kycPayoutSetups row.userId row f
  pure { store with kycPayoutSetups }

def upsertFraudAnalysis (row : FraudAnalysis) (f : RowUpdate FraudAnalysis.keys) :
    Except Exn Store := do
  let fraudAnalyses ← upsertRow store store.fraudAnalyses row.userId row f
  pure { store with fraudAnalyses }

end Tables

/-! ## The service -/

variable (now : ℤ)

/-- `undefined` leaves a column as it is. -/
def keepUnless {α : Type} (value old : Option α) : Option α := value.or old

structure BasicIdentityDto where
  fullName : String
  dob : String
  gender : String
  deriving DecidableEq, Repr

structure PersonalDetailsDto where
  address : String
  city : String
  state : String
  pincode : String
  deriving DecidableEq, Repr

structure IdentityVerificationDto where
  aadhaarNumber : String
  panNumber : String
  aadhaarDocUrl : Option String := none
  panDocUrl : Option String := none
  deriving DecidableEq, Repr

structure PayoutSetupDto where
  method : PayoutMethod
  financialDataConsent : Bool
  consentVersion : String
  upiId : Option String := none
  accountNumber : Option String := none
  ifscCode : Option String := none
  accountHolder : Option String := none
  bankName : Option String := none
  deriving DecidableEq, Repr

def updateKycStatus (userId : String) : Handler Unit := do
  let profile ← findProfile userId
  if profile.map KYCProfile.status = some .NOT_STARTED then
    updateProfile userId (setKycStatus .IN_PROGRESS)
  else pure ()

/-- A step of the questionnaire writes its row and opens the profile. -/
def saveStep (save : Store → Except Exn Store) (userId message : String) : Handler String := do
  write save
  updateKycStatus userId
  pure message

def saveBasicIdentity (userId : String) (dto : BasicIdentityDto) : Handler String :=
  saveStep (fun store => upsertBasicIdentity store ⟨userId, dto.fullName, dto.dob, dto.gender⟩
    { apply := fun b => { b with fullName := dto.fullName, dob := dto.dob, gender := dto.gender }
      keys_apply := fun _ => rfl }) userId "Identity Foundation established."

def savePersonalDetails (userId : String) (dto : PersonalDetailsDto) : Handler String :=
  saveStep (fun store => upsertPersonalDetails store
    ⟨userId, dto.address, dto.city, dto.state, dto.pincode⟩
    { apply := fun d =>
        { d with address := dto.address, city := dto.city, state := dto.state,
                 pincode := dto.pincode }
      keys_apply := fun _ => rfl }) userId "Analytic attributes preserved."

def saveIdentityVerification (userId : String) (dto : IdentityVerificationDto) : Handler String :=
  saveStep (fun store => upsertIdentityVerification store
    ⟨userId, dto.aadhaarNumber, dto.panNumber, dto.aadhaarDocUrl, dto.panDocUrl⟩
    { apply := fun v =>
        { v with
          aadhaarNumber := dto.aadhaarNumber
          panNumber := dto.panNumber
          aadhaarDocUrl := keepUnless dto.aadhaarDocUrl v.aadhaarDocUrl
          panDocUrl := keepUnless dto.panDocUrl v.panDocUrl }
      keys_apply := fun _ => rfl }) userId "Forensic documentation verified."

def newPayoutSetup (userId : String) (dto : PayoutSetupDto) : KYCPayoutSetup where
  userId := userId
  method := dto.method
  upiId := dto.upiId
  accountNumber := dto.accountNumber
  ifscCode := dto.ifscCode
  accountHolder := dto.accountHolder
  bankName := dto.bankName
  consentVersion := some dto.consentVersion
  financialDataConsent := true
  financialDataConsentAt := some now

def payoutSetupUpdate (dto : PayoutSetupDto) : RowUpdate KYCPayoutSetup.keys where
  apply s :=
    { s with
      method := dto.method
      upiId := keepUnless dto.upiId s.upiId
      accountNumber := keepUnless dto.accountNumber s.accountNumber
      ifscCode := keepUnless dto.ifscCode s.ifscCode
      accountHolder := keepUnless dto.accountHolder s.accountHolder
      bankName := keepUnless dto.bankName s.bankName
      consentVersion := some dto.consentVersion
      financialDataConsent := true
      financialDataConsentAt := some now }
  keys_apply _ := rfl

def savePayoutSetup (userId : String) (dto : PayoutSetupDto) : Handler String := do
  require (dto.financialDataConsent = true) (Exn.badRequest
    "Explicit financial data consent is required to configure payout details.")
  require (dto.method = .UPI → given dto.upiId ≠ none)
    (Exn.badRequest "UPI ID is required for UPI payout method.")
  require (dto.method = .BANK → given dto.accountNumber ≠ none ∧ given dto.ifscCode ≠ none ∧
      given dto.accountHolder ≠ none)
    (Exn.badRequest
      "Account number, IFSC code, and account holder name are required for bank payout.")
  saveStep (fun store => upsertPayoutSetup store (newPayoutSetup now userId dto)
    (payoutSetupUpdate now dto)) userId "Payout setup saved."

/-- A complete questionnaire of a driver with enough tenure is approved at once. -/
def submit (userId : String) : Handler String := do
  let complete ← query fun store =>
    decide (store.kycBasicIdentities.findUnique userId ≠ none ∧
      store.kycPersonalDetails.findUnique userId ≠ none ∧
      store.kycIdentityVerifications.findUnique userId ≠ none ∧
      store.kycPayoutSetups.findUnique userId ≠ none)
  require (complete = true)
    (Exn.badRequest "Please complete all KYC steps before submitting.")
  let found ← findUser (.id userId)
  let user ← orThrow found (Exn.notFound "User not found. Please register first.")
  let engagementDays := Eligibility.resolveEngagementDaysSince user.createdAt now
  require (Eligibility.MIN_ENGAGEMENT_DAYS_STANDARD ≤ engagementDays)
    (Exn.badRequest ("Minimum platform engagement of " ++
      toString Eligibility.MIN_ENGAGEMENT_DAYS_STANDARD ++
      " days is required before KYC submission. Current tenure: " ++ toString engagementDays ++
      " days."))
  updateProfile userId (approve now)
  pure "KYC approved successfully! You can now enroll in insurance plans."

/-- An administrator's decision. -/
def reviewSubmission (userId : String) (status : KYCStatus) (reviewNote : Option String) :
    Handler String := do
  require (status = .APPROVED ∨ status = .REJECTED)
    (Exn.badRequest "Invalid status. Must be APPROVED or REJECTED.")
  updateProfile userId
    { apply := fun p =>
        { p with status, reviewedAt := some now, reviewNote := given reviewNote }
      keys_apply := fun _ => rfl }
  pure (if status = .APPROVED then "KYC approved successfully." else "KYC rejected successfully.")

end Aegis.KycService

namespace Aegis.ManualKyc

open Aegis.Action DynamicQCommerce Identity KycService

/-- What a request puts into the JSON notes of the profile. -/
inductive MetaPatch where
  | pan (url : String)
  | aadhaar (frontUrl backUrl : String)
  | drivingLicense (url : String)
  | bankProof (url : Option String)
  | profile (platformId : Option String)
  deriving DecidableEq, Repr

structure BankDetails where
  accountNumber : Option String := none
  ifscCode : Option String := none
  passbookOrChequeImageUrl : Option String := none
  deriving DecidableEq, Repr

/-- The text of the notes after a patch. -/
structure Config where
  patchMeta : (reviewNote : Option String) → MetaPatch → String

structure Io where
  now : ℤ
  fraudAnalysisId : String
  deriving DecidableEq, Repr

inductive Reply where
  | message (message : String)
  | submitted (message status : String)
  | status (status : String) (verificationNotes : Option String)
  deriving DecidableEq, Repr

variable (cfg : Config) (io : Io)

/-- The notes of a profile, which is created when there is none. -/
def loadMeta (userId : String) : Handler (Option String) := do
  let found ← findProfile userId
  match found with
  | some profile => pure profile.reviewNote
  | none => do
      createProfile (blankProfile userId .IN_PROGRESS)
      pure none

def saveMeta (userId : String) (reviewNote : String) (status : KYCStatus) : Handler Unit :=
  upsertProfile { blankProfile userId status with reviewNote := some reviewNote }
    { apply := fun p => { p with status, reviewNote := some reviewNote }
      keys_apply := fun _ => rfl }

def pendingVerification (userId : String) (aadhaarDocUrl panDocUrl : Option String) :
    KYCIdentityVerification :=
  ⟨userId, "PENDING", "PENDING", aadhaarDocUrl, panDocUrl⟩

def uploadPan (userId panImageUrl : String) : Handler Reply := do
  require (userId ≠ "" ∧ panImageUrl ≠ "")
    (Exn.badRequest "userId and panImageUrl are required")
  let notes ← loadMeta userId
  write fun store => upsertIdentityVerification store
    (pendingVerification userId none (some panImageUrl))
    { apply := fun v => { v with panDocUrl := some panImageUrl }, keys_apply := fun _ => rfl }
  saveMeta userId (cfg.patchMeta notes (.pan panImageUrl)) .IN_PROGRESS
  pure (.message "PAN uploaded")

def uploadAadhaar (userId frontUrl backUrl : String) : Handler Reply := do
  require (userId ≠ "" ∧ frontUrl ≠ "" ∧ backUrl ≠ "")
    (Exn.badRequest "userId, aadhaarFrontUrl and aadhaarBackUrl are required")
  let notes ← loadMeta userId
  write fun store => upsertIdentityVerification store
    (pendingVerification userId (some frontUrl) none)
    { apply := fun v => { v with aadhaarDocUrl := some frontUrl }, keys_apply := fun _ => rfl }
  saveMeta userId (cfg.patchMeta notes (.aadhaar frontUrl backUrl)) .IN_PROGRESS
  pure (.message "Aadhaar uploaded")

def uploadDl (userId dlImageUrl : String) : Handler Reply := do
  require (userId ≠ "" ∧ dlImageUrl ≠ "")
    (Exn.badRequest "userId and dlImageUrl are required")
  let notes ← loadMeta userId
  saveMeta userId (cfg.patchMeta notes (.drivingLicense dlImageUrl)) .IN_PROGRESS
  pure (.message "Driving license uploaded")

def newBankSetup (userId : String) (details : BankDetails) : KYCPayoutSetup where
  userId := userId
  method := .BANK
  upiId := none
  accountNumber := given details.accountNumber
  ifscCode := given details.ifscCode
  accountHolder := some "PENDING"
  bankName := some "PENDING"
  consentVersion := some "manual-v1"
  financialDataConsent := true
  financialDataConsentAt := some io.now

def bankUpdate (details : BankDetails) : RowUpdate KYCPayoutSetup.keys where
  apply s :=
    { s with
      accountNumber := keepUnless (given details.accountNumber) s.accountNumber
      ifscCode := keepUnless (given details.ifscCode) s.ifscCode }
  keys_apply _ := rfl

def uploadBank (userId : String) (bankDetails : Option BankDetails) : Handler Reply := do
  require (userId ≠ "") (Exn.badRequest "userId is required")
  let notes ← loadMeta userId
  let details ← orThrow bankDetails
    (Exn.typeError "Cannot read properties of undefined (reading 'accountNumber')")
  write fun store =>
    upsertPayoutSetup store (newBankSetup io userId details) (bankUpdate details)
  saveMeta userId (cfg.patchMeta notes (.bankProof details.passbookOrChequeImageUrl)) .IN_PROGRESS
  pure (.message "Bank details uploaded")

def newFraudAnalysis (userId : String) : FraudAnalysis where
  id := io.fraudAnalysisId
  userId := userId
  gpsLatitude := none
  gpsLongitude := none
  riskScore := .fin 0
  status := "INCONCLUSIVE"
  deviceIntegrity := none
  networkType := none
  velocityCheck := none
  accelerometerVariance := none
  barometricPressureHpa := none
  acousticMatchConfidence := none
  isKinematicallyValid := none
  fraudReason := none

def submit (userId : String) (platformId : Option String) : Handler Reply := do
  require (userId ≠ "") (Exn.badRequest "userId is required")
  let notes ← loadMeta userId
  saveMeta userId (cfg.patchMeta notes (.profile platformId)) .SUBMITTED
  updateProfile userId
    { apply := fun p => { p with submittedAt := some io.now }, keys_apply := fun _ => rfl }
  write fun store => upsertFraudAnalysis store (newFraudAnalysis io userId)
    { apply := fun a => { a with status := "INCONCLUSIVE" }, keys_apply := fun _ => rfl }
  pure (.submitted "KYC submitted for review" "pending")

def normalizedStatus : KYCStatus → String
  | .APPROVED => "verified"
  | .REJECTED => "rejected"
  | _ => "pending"

def getStatus (userId : String) : Handler Reply := do
  let profile ← findProfile userId
  let _ ← loadMeta userId
  pure (.status (normalizedStatus ((profile.map KYCProfile.status).getD .NOT_STARTED))
    (given (profile.bind KYCProfile.reviewNote)))

inductive Request where
  | uploadPan (userId panImageUrl : String)
  | uploadAadhaar (userId frontUrl backUrl : String)
  | uploadDl (userId dlImageUrl : String)
  | uploadBank (userId : String) (bankDetails : Option BankDetails)
  | submit (userId : String) (platformId : Option String)
  | getStatus (userId : String)
  deriving DecidableEq, Repr

namespace Request

def userId : Request → String
  | uploadPan userId _ | uploadAadhaar userId _ _ | uploadDl userId _ | uploadBank userId _
  | submit userId _ | getStatus userId => userId

def handle : Request → Handler Reply
  | uploadPan userId panImageUrl => ManualKyc.uploadPan cfg userId panImageUrl
  | uploadAadhaar userId frontUrl backUrl => ManualKyc.uploadAadhaar cfg userId frontUrl backUrl
  | uploadDl userId dlImageUrl => ManualKyc.uploadDl cfg userId dlImageUrl
  | uploadBank userId bankDetails => ManualKyc.uploadBank cfg io userId bankDetails
  | submit userId platformId => ManualKyc.submit cfg io userId platformId
  | getStatus userId => ManualKyc.getStatus userId

end Request

end Aegis.ManualKyc
