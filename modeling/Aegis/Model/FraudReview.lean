import Aegis.Library.JsString
import Aegis.Library.Text
import Aegis.Model.Fraud
import Aegis.Model.Kyc
import Mathlib.Logic.Function.Basic

/-! # The review of an analysis

`analyzeFraud` queues the review of an inconclusive analysis before it stores the verdict;
other operations may run between the two. The queue `fraud-review` keeps a job until it is
completed, and a failed one for good. -/

namespace Aegis.FraudService

open Outcome RedisState

section Halves

variable (cfg : Config) (io : FraudIo) (userId : String) (dto : AnalyzeFraudDto)

/-- The risk score of the scorer, once its review is queued. -/
def queueVerdict (signal : DuplicateClaimSignal) (s : System) :
    Except Exn (Option JsNumber) × System :=
  match readVerdict (io.scoring.ml.getD failClosed) signal with
  | .error e => (.error e, s)
  | .ok verdict =>
      match queueReview io userId verdict.riskScore s.redis with
      | .error e => (.error e, s)
      | .ok redis => (.ok (some verdict.riskScore), { s with redis })

/-- `analyzeFraud` until a verdict remains to be stored. -/
def beginAnalysis (s : System) : Except Exn (Option JsNumber) × System :=
  if kinematicAnomaly dto then
    let (e, db) := refuse io userId (spoofedData dto false KINEMATIC_REASON) KINEMATIC_REASON s.db
    (.error e, { s with db })
  else if atmosAnomaly dto then
    let (e, db) := refuse io userId (spoofedData dto true ATMOS_REASON) ATMOS_REASON s.db
    (.error e, { s with db })
  else
    match detectDuplicateClaim cfg io userId dto s.db with
    | .error e => (.error e, s)
    | .ok (signal, db) =>
        let s := { s with db }
        match io.scoring.features with
        | none => (.ok none, s)
        | some _ => queueVerdict io userId signal s

/-- The rest of it; a verdict that cannot be stored is lost. -/
def storeAnalysis (riskScore : JsNumber) (db : Db) : Db :=
  (storeVerdict cfg io userId dto riskScore db).toOption.getD db

end Halves

/-! ## Decisions -/

def setStatus (status : String) : RowUpdate FraudAnalysis.keys where
  apply a := { a with status }
  keys_apply _ := rfl

section Decisions

variable (writable : Bool) (userId : String)

/-- The body may name any status. -/
def reviewSubmission (status : String) (db : Db) : Except Exn Db := do
  require (writable = true) Payments.storeDown
  require (db.fraudAnalyses.findUnique userId ≠ none) Payments.recordNotFound
  pure { db with fraudAnalyses := db.fraudAnalyses.update userId (setStatus status) }

def escalateSubmission (db : Db) : Except Exn Db := reviewSubmission writable userId "ESCALATED" db

/-- `AdminService.decideFraudCase`. -/
def decideFraudCase (readable : Bool) (analysisId : String) (approve : Bool) (db : Db) :
    Except Exn Db := do
  require (readable = true) Payments.storeDown
  let analysis ← orThrow (db.fraudAnalyses.rows.find? fun a => a.id = analysisId)
    (.notFound "Fraud analysis not found")
  reviewSubmission writable analysis.userId (if approve then "APPROVED" else "REJECTED") db

end Decisions

/-! ## The report

`buildSimplePdf`; the lines come from the analysis and its user. -/

open JsString in
def escape (value : String) : String :=
  replaceAll ')' "\\)" (replaceAll '(' "\\(" (replaceAll '\\' "\\\\" value))

/-- The lines are 16 units apart and may leave the page. -/
def contentLine (index : ℕ) (line : String) : String :=
  "1 0 0 1 50 " ++ toString (760 - index * 16 : ℤ) ++ " Tm (" ++ escape line ++ ") Tj"

def contentStream (lines : List String) : String :=
  "BT /F1 12 Tf\n" ++ "\n".intercalate (lines.mapIdx contentLine) ++ "\nET"

/-- `Buffer.byteLength(value, 'utf8')`. -/
def byteLength (value : String) : ℕ := value.utf8ByteSize

def fontRef : String := "5 0 R"

def pdfObjects (contentStream : String) : List String :=
  ["1 0 obj\n<< /Type /Catalog /Pages 2 0 R >>\nendobj",
    "2 0 obj\n<< /Type /Pages /Kids [3 0 R] /Count 1 >>\nendobj",
    "3 0 obj\n<< /Type /Page /Parent 2 0 R /MediaBox [0 0 612 792] /Contents 4 0 R " ++
      "/Resources << /Font << /F1 " ++ fontRef ++ " >> >> >>\nendobj",
    "4 0 obj\n<< /Length " ++ toString (byteLength contentStream) ++ " >>\nstream\n" ++
      contentStream ++ "\nendstream\nendobj",
    "5 0 obj\n<< /Type /Font /Subtype /Type1 /BaseFont /Helvetica >>\nendobj"]

/-- The file as far as it is written, with the offsets of its objects. -/
structure PdfParts where
  parts : List String
  offsets : List ℕ
  total : ℕ
  deriving DecidableEq, Repr

def pdfHeader : String := "%PDF-1.3\n"

def addObject (file : PdfParts) (obj : String) : PdfParts where
  parts := file.parts ++ [obj ++ "\n"]
  offsets := file.offsets ++ [file.total]
  total := file.total + byteLength (obj ++ "\n")

def addObjects (objects : List String) : PdfParts :=
  objects.foldl addObject ⟨[pdfHeader], [0], byteLength pdfHeader⟩

def xrefLine (offset : ℕ) : String := Text.padStart (toString offset) 10 '0' ++ " 00000 n "

def pdfXref (objects : List String) (offsets : List ℕ) : String :=
  "\n".intercalate (("xref\n0 " ++ toString (objects.length + 1)) :: "0000000000 65535 f " ::
    offsets.tail.map xrefLine) ++ "\n"

def pdfTrailer (objects : List String) (xrefStart : ℕ) : String :=
  "trailer\n<< /Size " ++ toString (objects.length + 1) ++ " /Root 1 0 R >>\nstartxref\n" ++
    toString xrefStart ++ "\n%%EOF\n"

def buildSimplePdf (lines : List String) : ByteArray :=
  let objects := pdfObjects (contentStream lines)
  let file := addObjects objects
  (String.join (file.parts ++
    [pdfXref objects file.offsets, pdfTrailer objects file.total])).toUTF8

end Aegis.FraudService

namespace Aegis.FraudQueueProcessor

open FraudService

structure JobIo where
  now : ℤ
  readAnalysis : Bool := true
  writeAnalysis : Bool := true
  deriving DecidableEq, Repr

/-- An analysis that is still inconclusive is rejected. The notification that follows cannot
fail. -/
def process (io : JobIo) (userId : String) (db : Db) : Except Exn String × Db :=
  if io.readAnalysis then
    match db.fraudAnalyses.findUnique userId with
    | none => (.ok "skipped", db)
    | some analysis =>
        if analysis.status ≠ "INCONCLUSIVE" then (.ok "skipped", db)
        else if io.writeAnalysis then
          (.ok "rejected", { db with
            fraudAnalyses := db.fraudAnalyses.update userId (setStatus "AUTO_REJECTED") })
        else (.error Payments.storeDown, db)
  else (.error Payments.storeDown, db)

end Aegis.FraudQueueProcessor

namespace Aegis.ManualKyc

/-- `submit` on the tables that it shares with the rest of the system; it uses no others. -/
def submitOn (cfg : Config) (io : Io) (storeCalls : ℕ) (userId : String)
    (platformId : Option String) (db : Db) : Db :=
  (submit cfg io userId platformId ⟨{ toDb := db }, .empty, storeCalls⟩).2.store.toDb

end Aegis.ManualKyc

/-! ## Overlapping reviews

Every execution of a `review-ttl` job and every operation of an analyst is a thread. The
read and the write of `process` and of `decideFraudCase` are steps of their own. -/

namespace Aegis.ConcurrentReview

open FraudService FraudQueueProcessor

inductive ReviewCall where
  | process (io : JobIo) (userId : String)
  | reviewSubmission (writable : Bool) (userId status : String)
  | escalateSubmission (writable : Bool) (userId : String)
  | decideFraudCase (writable readable : Bool) (analysisId : String) (approve : Bool)
  deriving DecidableEq

/-- Where a call stands: a worker that has read `INCONCLUSIVE`, an administrator who has read
the analysis. -/
inductive ReviewPc where
  | start
  | rejecting
  | deciding (userId : String)
  | done
  deriving DecidableEq

/-- `decided` keeps the status that an analyst has set last for the driver. -/
structure Desk (τ : Type) where
  db : Db
  decided : String → Option String := fun _ => none
  pc : τ → ReviewPc := fun _ => .start

/-- What `process` finds before it rejects. -/
def expired (io : JobIo) (userId : String) (db : Db) : Bool :=
  io.readAnalysis &&
    (db.fraudAnalyses.findUnique userId).any fun analysis => analysis.status = "INCONCLUSIVE"

/-- The update of `process`, whatever the status is by now. -/
def reject (io : JobIo) (userId : String) (db : Db) : Db :=
  if io.writeAnalysis then
    { db with fraudAnalyses := db.fraudAnalyses.update userId (setStatus "AUTO_REJECTED") }
  else db

/-- The user whose analysis an administrator opens. -/
def openedCase (readable : Bool) (analysisId : String) (db : Db) : Option String :=
  if readable then (db.fraudAnalyses.rows.find? fun a => a.id = analysisId).map FraudAnalysis.userId
  else none

namespace Desk

variable {τ : Type} [DecidableEq τ]

def goTo (s : Desk τ) (t : τ) (pc : ReviewPc) : Desk τ :=
  { s with pc := Function.update s.pc t pc }

/-- An analyst's write; one that fails leaves everything as it was. -/
def decide (writable : Bool) (userId status : String) (s : Desk τ) : Desk τ :=
  match reviewSubmission writable userId status s.db with
  | .error _ => s
  | .ok db => { s with db, decided := Function.update s.decided userId (some status) }

/-- One step of the thread `t`. -/
def step (calls : τ → ReviewCall) (s : Desk τ) (t : τ) : Desk τ :=
  match calls t, s.pc t with
  | .process io userId, .start =>
      s.goTo t (if expired io userId s.db then .rejecting else .done)
  | .process io userId, .rejecting => { s with db := reject io userId s.db }.goTo t .done
  | .reviewSubmission writable userId status, .start =>
      (s.decide writable userId status).goTo t .done
  | .escalateSubmission writable userId, .start =>
      (s.decide writable userId "ESCALATED").goTo t .done
  | .decideFraudCase _ readable analysisId _, .start =>
      s.goTo t ((openedCase readable analysisId s.db).elim .done .deciding)
  | .decideFraudCase writable _ _ approve, .deciding userId =>
      (s.decide writable userId (if approve then "APPROVED" else "REJECTED")).goTo t .done
  | _, _ => s

end Desk

end Aegis.ConcurrentReview
