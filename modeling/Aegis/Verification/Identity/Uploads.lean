import Aegis.Library.Run
import Aegis.Model.ConcurrentKyc

/-! # Documents that are uploaded at once

An upload saves all documents as it has loaded them, with its own among them, and a review puts a
text in their place. What is kept is therefore what every one of them carries on. -/

namespace Aegis.ConcurrentKyc

open DynamicQCommerce Run

variable {τ : Type}

/-! ## The property -/

/-- The document of a slot, as `getDriverDetails` finds it. -/
def documentIn (reviewNote : Option Note) (slot : String) : Option Json :=
  ((reviewNote.bind Note.parse).bind fun value => value.get "documents").bind fun docs =>
    docs.get slot

def Vault.reviewNote (s : Vault τ) : Option Note := s.profile.bind Profile.reviewNote

/-- Every document whose upload is through is in the stored meta, the last one of its slot. -/
def Kept (s : Vault τ) : Prop :=
  ∀ slot, ∀ doc ∈ s.uploaded slot, documentIn s.reviewNote slot = some doc

/-- What a review leaves as it is, the notes and the columns of the review apart. -/
structure LeavesRest (s s' : Vault τ) : Prop where
  submittedAt : s'.profile.map Profile.submittedAt = s.profile.map Profile.submittedAt
  identityVerification : s'.identityVerification = s.identityVerification
  payoutSetup : s'.payoutSetup = s.payoutSetup
  pc : s'.pc = s.pc

/-! ## The condition -/

/-- The documents of the other slots that are uploaded by then are in what an upload has loaded,
which is no array, and those of all slots in the text of a review. -/
def Carries (calls : τ → UploadCall) (s : Vault τ) : KycEvent τ → Prop
  | .run t =>
      match s.pc t with
      | .saving (.object fields) =>
          ∀ slot, (Json.obj (calls t).documents).get slot = none → ∀ doc ∈ s.uploaded slot,
            (Json.obj (ManualMeta.object fields).documents).get slot = some doc
      | .saving (.array _) => False
      | _ => True
  | .fail _ => True
  | .review _ status reviewNote => status = .APPROVED ∨ status = .REJECTED →
      ∀ slot, ∀ doc ∈ s.uploaded slot, documentIn ((given reviewNote).map .text) slot = some doc

/-! ## What is read of what is saved -/

theorem get_obj_append (fields rest : List (String × Json)) (key : String) :
    (Json.obj (fields ++ rest)).get key =
      ((Json.obj rest).get key).or ((Json.obj fields).get key) := by
  simp only [Json.get, List.reverse_append, List.lookup_append]

theorem documentIn_object (fields docs : List (String × Json)) (slot : String) :
    documentIn (some (.stringified ((ManualMeta.object fields).withDocuments docs))) slot =
      ((Json.obj docs).get slot).or
        ((Json.obj (ManualMeta.object fields).documents).get slot) := by
  have hdocuments : (Json.obj (fields ++ [("documents",
      .obj ((ManualMeta.object fields).documents ++ docs))])).get "documents" =
        some (.obj ((ManualMeta.object fields).documents ++ docs)) := by
    rw [get_obj_append]
    rfl
  rw [← get_obj_append]
  simp only [documentIn, Option.bind_some, Note.parse, ManualMeta.withDocuments, hdocuments]

theorem documentIn_array (items : List Json) (docs : List (String × Json)) (slot : String) :
    documentIn (some (.stringified ((ManualMeta.array items).withDocuments docs))) slot = none :=
  rfl

/-- Every call sets a document. -/
theorem exists_document (call : UploadCall) :
    ∃ slot doc, (Json.obj call.documents).get slot = some doc := by
  cases call with
  | uploadPan panImageUrl => exact ⟨"pan", _, rfl⟩
  | uploadAadhaar aadhaarFrontUrl aadhaarBackUrl => exact ⟨"aadhaarBack", _, rfl⟩
  | uploadDl dlImageUrl => exact ⟨"drivingLicense", _, rfl⟩
  | uploadBank io bankDetails => exact ⟨"bankProof", _, rfl⟩

/-- What is stored is loaded, so an upload that finds the notes as it has loaded them carries
everything on. -/
theorem get_documents_parseMeta {reviewNote : Option Note} {slot : String} {doc : Json}
    (h : documentIn reviewNote slot = some doc) :
    (Json.obj (parseMeta reviewNote).documents).get slot = some doc := by
  simp only [documentIn, Option.bind_eq_some_iff] at h
  obtain ⟨docs, ⟨value, ⟨note, rfl, hparse⟩, hdocs⟩, hdoc⟩ := h
  cases value with
  | obj fields =>
      cases docs with
      | obj members =>
          have hmeta : parseMeta (some note) = .object fields := by
            simp only [parseMeta, Option.bind_some, hparse]
          rw [hmeta, ManualMeta.documents, hdocs]
          exact hdoc
      | _ => cases hdoc
  | _ => cases hdocs

/-! ## Steps -/

section Steps

variable {calls : τ → UploadCall} {s s' : Vault τ}

theorem kept_congr (huploaded : s'.uploaded = s.uploaded) (hnote : s'.reviewNote = s.reviewNote) :
    Kept s' ↔ Kept s := by
  rw [Kept, Kept, huploaded, hnote]

theorem reviewNote_saveMeta (call : UploadCall) (manual : ManualMeta) :
    (s.saveMeta call manual).reviewNote =
      some (.stringified (manual.withDocuments call.documents)) := by
  cases hprofile : s.profile <;> simp [Vault.reviewNote, Vault.saveMeta, hprofile]

theorem kept_saveMeta_object {call : UploadCall} {fields : List (String × Json)} :
    Kept (s.saveMeta call (.object fields)) ↔
      ∀ slot, (Json.obj call.documents).get slot = none → ∀ doc ∈ s.uploaded slot,
        (Json.obj (ManualMeta.object fields).documents).get slot = some doc := by
  have hslot (slot : String) : (∀ doc ∈ (s.saveMeta call (.object fields)).uploaded slot,
      documentIn (s.saveMeta call (.object fields)).reviewNote slot = some doc) ↔
        ((Json.obj call.documents).get slot = none → ∀ doc ∈ s.uploaded slot,
          (Json.obj (ManualMeta.object fields).documents).get slot = some doc) := by
    rw [reviewNote_saveMeta, documentIn_object]
    cases hown : (Json.obj call.documents).get slot with
    | none => simp [Vault.saveMeta, hown]
    | some doc => simp [Vault.saveMeta, hown]
  exact forall_congr' hslot

/-- What is added to an array is not saved. -/
theorem not_kept_saveMeta_array {call : UploadCall} {items : List Json} :
    ¬Kept (s.saveMeta call (.array items)) := by
  intro h
  obtain ⟨slot, doc, hdoc⟩ := exists_document call
  have huploaded : (s.saveMeta call (.array items)).uploaded slot = some doc := by
    simp [Vault.saveMeta, hdoc]
  have hstored := h slot doc huploaded
  rw [reviewNote_saveMeta, documentIn_array] at hstored
  cases hstored

theorem kept_writeRow {userId : String} {call : UploadCall} (h : s.writeRow userId call = some s') :
    Kept s' ↔ Kept s := by
  cases call with
  | uploadPan panImageUrl =>
      cases h
      exact kept_congr rfl rfl
  | uploadAadhaar aadhaarFrontUrl aadhaarBackUrl =>
      cases h
      exact kept_congr rfl rfl
  | uploadDl dlImageUrl =>
      cases h
      exact Iff.rfl
  | uploadBank io bankDetails =>
      obtain ⟨details, -, rfl⟩ := Option.map_eq_some_iff.mp h
      exact kept_congr rfl rfl

theorem kept_reviewSubmission_iff (hs : Kept s) (now : ℤ) (status : KYCStatus)
    (reviewNote : Option String) : Kept (s.reviewSubmission now status reviewNote) ↔
      Carries calls s (.review now status reviewNote) := by
  by_cases hstatus : status = .APPROVED ∨ status = .REJECTED
  · simp only [Carries, Vault.reviewSubmission, hstatus, true_implies]
    cases hprofile : s.profile with
    | some p => simp [Kept, Vault.reviewNote]
    | none =>
        have hnone (slot : String) : s.uploaded slot = none := by
          rw [Option.eq_none_iff_forall_not_mem]
          intro doc hdoc
          have hstored := hs slot doc hdoc
          simp [Vault.reviewNote, hprofile, documentIn] at hstored
        simp [Kept, hnone]
  · simp only [Carries, Vault.reviewSubmission, hstatus, false_implies, iff_true]
    exact hs

variable [DecidableEq τ] {t : τ}

@[simp] theorem kept_goTo {pc : UploadPc} : Kept (s.goTo t pc) ↔ Kept s := Iff.rfl

theorem kept_runStep_iff (userId : String) (hs : Kept s) :
    Kept (s.runStep userId (calls t) t) ↔ Carries calls s (.run t) := by
  cases hpc : s.pc t with
  | start =>
      have hkept : Kept (s.runStep userId (calls t) t) := by
        simp only [Vault.runStep, hpc]
        split
        · split <;> exact hs
        · exact hs
      simpa only [Carries, hpc, iff_true] using hkept
  | creating =>
      have hkept : Kept (s.runStep userId (calls t) t) := by
        simp only [Vault.runStep, hpc]
        split
        · exact hs
        · rename_i hprofile
          have hnote : s.reviewNote = none := by rw [Vault.reviewNote, hprofile, Option.bind_none]
          refine (kept_congr ?_ ?_).mpr hs
          · rfl
          · exact hnote.symm
      simpa only [Carries, hpc, iff_true] using hkept
  | loaded manual =>
      have hkept : Kept (s.runStep userId (calls t) t) := by
        simp only [Vault.runStep, hpc]
        cases hrow : s.writeRow userId (calls t) with
        | some s' => exact (kept_writeRow hrow).mpr hs
        | none => exact hs
      simpa only [Carries, hpc, iff_true] using hkept
  | saving manual =>
      cases manual with
      | object fields =>
          simp only [Vault.runStep, hpc, kept_goTo, Carries]
          exact kept_saveMeta_object
      | array items =>
          simp only [Vault.runStep, hpc, kept_goTo, Carries, iff_false]
          exact not_kept_saveMeta_array
  | done => simpa only [Vault.runStep, hpc, Carries, iff_true] using hs

theorem kept_step_iff (userId : String) (hs : Kept s) (e : KycEvent τ) :
    Kept (s.step userId calls e) ↔ Carries calls s e := by
  cases e with
  | run t => exact kept_runStep_iff userId hs
  | fail t => simpa only [Vault.step, kept_goTo, Carries, iff_true] using hs
  | review now status reviewNote => exact kept_reviewSubmission_iff hs now status reviewNote

/-- A review writes the columns of the review and the notes. -/
theorem leavesRest_review (userId : String) (s : Vault τ) (now : ℤ) (status : KYCStatus)
    (reviewNote : Option String) :
    LeavesRest s (s.step userId calls (.review now status reviewNote)) := by
  simp only [Vault.step, Vault.reviewSubmission]
  split
  · refine ⟨?_, rfl, rfl, rfl⟩
    cases hprofile : s.profile <;> simp
  · exact ⟨rfl, rfl, rfl, rfl⟩

end Steps

/-! ## Runs -/

/-- Whatever uploads and reviews overlap: the documents are kept throughout exactly if every save
and every review carries on those that are uploaded by then. All else is left alone by reviews. -/
theorem always_kept_iff [DecidableEq τ] (userId : String) (calls : τ → UploadCall)
    (profile : Option Profile) (identityVerification : Option Identity.KYCIdentityVerification)
    (payoutSetup : Option KYCPayoutSetup) (events : List (KycEvent τ)) :
    (Always (Vault.step userId calls) Kept { profile, identityVerification, payoutSetup } events ↔
      Along (Vault.step userId calls) (Carries calls)
        { profile, identityVerification, payoutSetup } events) ∧
      ∀ (s : Vault τ) (now : ℤ) (status : KYCStatus) (reviewNote : Option String),
        LeavesRest s (s.step userId calls (.review now status reviewNote)) := by
  refine ⟨always_iff_along (fun s e hs => kept_step_iff userId hs e) ?_, leavesRest_review userId⟩
  intro slot doc hdoc
  cases hdoc

/-- An upload saves over the notes that it has loaded, which are no array, and a review finds no
document yet. -/
def InTurn (s : Vault τ) : KycEvent τ → Prop
  | .run t => ∀ manual, s.pc t = .saving manual →
      parseMeta s.reviewNote = manual ∧ ∃ fields, manual = .object fields
  | .fail _ => True
  | .review _ _ _ => ∀ slot, s.uploaded slot = none

theorem InTurn.carries {calls : τ → UploadCall} {s : Vault τ} {e : KycEvent τ} (h : InTurn s e)
    (hs : Kept s) : Carries calls s e := by
  cases e with
  | run t =>
      cases hpc : s.pc t with
      | saving manual =>
          obtain ⟨hnote, fields, rfl⟩ := h manual hpc
          simp only [Carries, hpc]
          intro slot _ doc hdoc
          rw [← hnote]
          exact get_documents_parseMeta (hs slot doc hdoc)
      | _ => simp only [Carries, hpc]
  | fail t => trivial
  | review now status reviewNote =>
      intro _ slot doc hdoc
      rw [h slot] at hdoc
      cases hdoc

/-- Uploads that come one after the other keep each other's documents. -/
theorem always_kept_in_turn [DecidableEq τ] (userId : String) (calls : τ → UploadCall)
    {s : Vault τ} (hs : Kept s) {events : List (KycEvent τ)}
    (h : Along (Vault.step userId calls) InTurn s events) :
    Always (Vault.step userId calls) Kept s events :=
  always_of_step (fun _ e hkept hturn => (kept_step_iff userId hkept e).mpr (hturn.carries hkept))
    hs h

/-! ## Two documents -/

namespace Form

/-- The two requests of a form. -/
inductive Field where
  | pan
  | license
  deriving DecidableEq

def calls : Field → UploadCall
  | .pan => .uploadPan "https://files.example/pan.jpg"
  | .license => .uploadDl "https://files.example/dl.jpg"

def profile : Profile where
  status := .IN_PROGRESS

/-- Both calls load the notes before either saves them. -/
def together : List (KycEvent Field) :=
  [.run .pan, .run .license, .run .pan, .run .pan, .run .license]

/-- One call after the other, and a review with a note. -/
def reviewed : List (KycEvent Field) :=
  [.run .pan, .run .pan, .run .pan, .run .license, .run .license,
    .review 1000 .APPROVED (some "Looks good")]

/-- An upload after a note that is a JSON array. -/
def afterArray : List (KycEvent Field) :=
  [.review 1000 .REJECTED (some "[]"), .run .license, .run .license]

theorem not_kept_of_none {s : Vault Field} (slot : String) {doc : Json}
    (huploaded : s.uploaded slot = some doc) (hnone : documentIn s.reviewNote slot = none) :
    ¬Kept s := by
  intro h
  have hstored := h slot doc huploaded
  rw [hnone] at hstored
  cases hstored

end Form

open Form in
/-- The second save drops the PAN, the review both documents, and what is added to an array is
never stored. -/
theorem not_always_kept :
    ¬Always (Vault.step "u1" calls) Kept { profile := some profile } together ∧
      ¬Always (Vault.step "u1" calls) Kept { profile := some profile } reviewed ∧
      ¬Always (Vault.step "u1" calls) Kept { profile := some profile } afterArray := by
  refine ⟨fun h => ?_, fun h => ?_, fun h => ?_⟩
  · exact not_kept_of_none "pan" rfl rfl h.last
  · exact not_kept_of_none "pan" rfl rfl h.last
  · exact not_kept_of_none "drivingLicense" rfl rfl h.last

end Aegis.ConcurrentKyc
