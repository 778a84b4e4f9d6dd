import Aegis.Library.JsonText
import Aegis.Model.Kyc
import Mathlib.Logic.Function.Basic

/-! # Overlapping uploads of one user

Every call of `uploadPan`, `uploadAadhaar`, `uploadDl` and `uploadBank` is a thread, whose
statements are steps; one that fails ends its call. The documents of all of them are in the column
`reviewNote`, which an administrator's review writes as well. -/

namespace Aegis.ConcurrentKyc

open DynamicQCommerce Identity ManualKyc

/-! ## The notes -/

/-- The column `reviewNote`: a reviewer's text, or what `JSON.stringify` made of a meta, kept as
the value that `JSON.parse` gives back. -/
inductive Note where
  | text (s : String)
  | stringified (value : Json)

def Note.parse : Note → Option Json
  | text s => JsonText.parse s
  | stringified value => some value

structure Profile where
  status : KYCStatus
  submittedAt : Option ℤ := none
  reviewedAt : Option ℤ := none
  reviewNote : Option Note := none

/-- What `loadMeta` returns. An array has the type of an object as well. -/
inductive ManualMeta where
  | object (fields : List (String × Json))
  | array (items : List Json)

def ManualMeta.empty : ManualMeta := object [("documents", .obj [])]

/-- Notes that are no JSON, or none of an object, hold no documents. -/
def parseMeta (reviewNote : Option Note) : ManualMeta :=
  match reviewNote.bind Note.parse with
  | some (.obj fields) => .object fields
  | some (.arr items) => .array items
  | _ => .empty

/-- The members of `{ ...value }`; a string has its code units. -/
def spread : Json → List (String × Json)
  | .obj fields => fields
  | .arr items => items.zipIdx.map fun (item, i) => (toString i, item)
  | .str s =>
      (s.toList.flatMap fun c => (JsonText.unitsOf c).reverse).zipIdx.map fun (unit, i) =>
        (toString i, .str (String.singleton (JsonText.charOf unit)))
  | _ => []

/-- The members of `{ ...(meta.documents || {}) }`. -/
def ManualMeta.documents : ManualMeta → List (String × Json)
  | object fields => (((Json.obj fields).get "documents").map spread).getD []
  | array _ => []

/-- The meta with the documents set, after `JSON.stringify`, which leaves out what an array has
besides its items. Of repeated members the last one counts. -/
def ManualMeta.withDocuments (docs : List (String × Json)) : ManualMeta → Json
  | object fields =>
      .obj (fields ++ [("documents", .obj ((object fields).documents ++ docs))])
  | array items => .arr items

/-! ## The calls -/

inductive UploadCall where
  | uploadPan (panImageUrl : String)
  | uploadAadhaar (aadhaarFrontUrl aadhaarBackUrl : String)
  | uploadDl (dlImageUrl : String)
  | uploadBank (io : ManualKyc.Io) (bankDetails : Option BankDetails)
  deriving DecidableEq

/-- A pending document; `JSON.stringify` leaves out a url that is undefined. -/
def pendingDoc (url : Option String) : Json :=
  .obj ((url.map fun url => ("url", Json.str url)).toList ++ [("status", .str "pending")])

namespace UploadCall

/-- The checks of the request. -/
def accepted (userId : String) : UploadCall → Bool
  | uploadPan panImageUrl => userId ≠ "" && panImageUrl ≠ ""
  | uploadAadhaar aadhaarFrontUrl aadhaarBackUrl =>
      userId ≠ "" && aadhaarFrontUrl ≠ "" && aadhaarBackUrl ≠ ""
  | uploadDl dlImageUrl => userId ≠ "" && dlImageUrl ≠ ""
  | uploadBank _ _ => userId ≠ ""

/-- The documents that the call sets. -/
def documents : UploadCall → List (String × Json)
  | uploadPan panImageUrl => [("pan", pendingDoc (some panImageUrl))]
  | uploadAadhaar aadhaarFrontUrl aadhaarBackUrl =>
      [("aadhaarFront", pendingDoc (some aadhaarFrontUrl)),
        ("aadhaarBack", pendingDoc (some aadhaarBackUrl))]
  | uploadDl dlImageUrl => [("drivingLicense", pendingDoc (some dlImageUrl))]
  | uploadBank _ bankDetails =>
      [("bankProof", pendingDoc (bankDetails.bind BankDetails.passbookOrChequeImageUrl))]

end UploadCall

/-- Where a call stands: about to create the profile that it did not find, to write the table of
its own, or to save the meta that it has loaded. -/
inductive UploadPc where
  | start
  | creating
  | loaded (manual : ManualMeta)
  | saving (manual : ManualMeta)
  | done

/-- What `loadMeta` returns goes on to the table that the document is also kept in; the driving
license is kept in none. -/
def afterLoad (manual : ManualMeta) : UploadCall → UploadPc
  | .uploadDl _ => .saving manual
  | _ => .loaded manual

/-- The rows of the user and every call. `uploaded` keeps the documents of the calls that are
through, the last one of each slot. -/
structure Vault (τ : Type) where
  profile : Option Profile := none
  identityVerification : Option KYCIdentityVerification := none
  payoutSetup : Option KYCPayoutSetup := none
  uploaded : String → Option Json := fun _ => none
  pc : τ → UploadPc := fun _ => .start

/-- The next statement of a call, one that fails or never comes, or a review. -/
inductive KycEvent (τ : Type) where
  | run (t : τ)
  | fail (t : τ)
  | review (now : ℤ) (status : KYCStatus) (reviewNote : Option String)

namespace Vault

variable {τ : Type} [DecidableEq τ]

def goTo (s : Vault τ) (t : τ) (pc : UploadPc) : Vault τ :=
  { s with pc := Function.update s.pc t pc }

/-- The upsert between `loadMeta` and `saveMeta`; without bank details it is not reached. -/
def writeRow (userId : String) (call : UploadCall) (s : Vault τ) : Option (Vault τ) :=
  match call with
  | .uploadPan panImageUrl =>
      some { s with identityVerification := some (s.identityVerification.elim
        (pendingVerification userId none (some panImageUrl))
        fun v => { v with panDocUrl := some panImageUrl }) }
  | .uploadAadhaar aadhaarFrontUrl _ =>
      some { s with identityVerification := some (s.identityVerification.elim
        (pendingVerification userId (some aadhaarFrontUrl) none)
        fun v => { v with aadhaarDocUrl := some aadhaarFrontUrl }) }
  | .uploadDl _ => some s
  | .uploadBank io bankDetails =>
      bankDetails.map fun details =>
        { s with payoutSetup := some (s.payoutSetup.elim (newBankSetup io userId details)
          (bankUpdate details).apply) }

/-- `saveMeta` and the end of the call. -/
def saveMeta (call : UploadCall) (manual : ManualMeta) (s : Vault τ) : Vault τ :=
  let reviewNote := some (Note.stringified (manual.withDocuments call.documents))
  { s with
    profile := some (s.profile.elim { status := .IN_PROGRESS, reviewNote }
      fun p => { p with status := .IN_PROGRESS, reviewNote })
    uploaded := fun slot => ((Json.obj call.documents).get slot).or (s.uploaded slot) }

/-- The next statement of the call `t`. A profile that another call has created in the meantime
is a constraint that fails. -/
def runStep (userId : String) (call : UploadCall) (s : Vault τ) (t : τ) : Vault τ :=
  match s.pc t with
  | .start =>
      if call.accepted userId then
        match s.profile with
        | some p => s.goTo t (afterLoad (parseMeta p.reviewNote) call)
        | none => s.goTo t .creating
      else s.goTo t .done
  | .creating =>
      match s.profile with
      | some _ => s.goTo t .done
      | none =>
          { s with profile := some { status := .IN_PROGRESS } }.goTo t (afterLoad .empty call)
  | .loaded manual =>
      match s.writeRow userId call with
      | some s => s.goTo t (.saving manual)
      | none => s.goTo t .done
  | .saving manual => (s.saveMeta call manual).goTo t .done
  | .done => s

/-- `KycService.reviewSubmission`; there must be a profile. -/
def reviewSubmission (now : ℤ) (status : KYCStatus) (reviewNote : Option String) (s : Vault τ) :
    Vault τ :=
  if status = .APPROVED ∨ status = .REJECTED then
    { s with profile := s.profile.map fun p =>
      { p with status, reviewedAt := some now, reviewNote := (given reviewNote).map .text } }
  else s

def step (userId : String) (calls : τ → UploadCall) (s : Vault τ) : KycEvent τ → Vault τ
  | .run t => s.runStep userId (calls t) t
  | .fail t => s.goTo t .done
  | .review now status reviewNote => s.reviewSubmission now status reviewNote

end Vault

end Aegis.ConcurrentKyc
