import Aegis.Model.Schema
import Aegis.Library.Outcome

/-! # The payment gateway as seen by `PaymentsService`

A reply records both what the gateway did with a POST and what the caller saw of it, so
a request that was executed although its response was lost is a reply like any other. -/

namespace Aegis.Gateway

variable {α β : Type}

/-- The environment variables that `payments.service.ts` reads. -/
structure Env where
  razorpayKeyId : Option String := none
  razorpayKeySecret : Option String := none
  razorpayTestMode : Option String := none
  razorpayxSourceAccount : Option String := none
  razorpayxPayoutMode : Option String := none
  deriving DecidableEq, Repr

/-- An unset variable and an empty one are both falsy. -/
def isSet (v : Option String) : Bool := v.getD "" ≠ ""

def Env.hasSourceAccount (env : Env) : Bool := isSet env.razorpayxSourceAccount

def Env.isRazorpayTestMode (env : Env) : Bool :=
  ((env.razorpayTestMode.getD "").toList.map Char.toLower = "true".toList) ||
    "rzp_test_".toList.isPrefixOf (env.razorpayKeyId.getD "").toList

def Env.hasCredentials (env : Env) : Bool :=
  isSet env.razorpayKeyId && isSet env.razorpayKeySecret

/-! ## One POST -/

/-- The fate of one POST: `done` is what the gateway executed, if anything. -/
inductive Reply (α : Type) where
  | unreachable (message : String)
  | lost (done : α) (message : String)
  | refused (status : ℕ) (text : String)
  | failed (done : α) (status : ℕ) (text : String)
  | garbled (done : α) (message : String)
  | answered (done : α)
  deriving DecidableEq, Repr

def Reply.executed : Reply α → Option α
  | unreachable _ | refused _ _ => none
  | lost a _ | failed a _ _ | garbled a _ | answered a => some a

/-- What a settled `fetch` gives: the status and the body. -/
inductive Response (α : Type) where
  | notOk (status : ℕ) (text : String)
  | notJson (message : String)
  | json (body : α)
  deriving DecidableEq, Repr

def Reply.response : Reply α → Except Exn (Response α)
  | unreachable message | lost _ message => .error (.error message)
  | refused status text | failed _ status text => .ok (.notOk status text)
  | garbled _ message => .ok (.notJson message)
  | answered a => .ok (.json a)

/-- The replies still to come and what has been executed so far. -/
structure Wire (α : Type) where
  replies : List (Reply α)
  executed : List α

/-- `fetch(url, { method: 'POST', … })`. -/
def fetchPost (w : Wire α) : Except Exn (Response α) × Wire α :=
  match w.replies with
  | [] => (.error (.error "fetch failed"), w)
  | r :: rest => (r.response, ⟨rest, w.executed ++ r.executed.toList⟩)

/-! ## Retries -/

/-- Runs the operation up to `retries + 1` times and keeps the last error. -/
def withRetry {σ ε : Type} (operation : σ → Except ε α × σ) : ℕ → σ → Except ε α × σ
  | 0, s => operation s
  | retries + 1, s =>
      match operation s with
      | (.ok a, s') => (.ok a, s')
      | (.error _, s') => withRetry operation retries s'

def readBody (path : String) : Response α → Except Exn α
  | .notOk status text =>
      .error (.error ("RazorpayX " ++ path ++ " failed (" ++ toString status ++ "): " ++ text))
  | .notJson message => .error (.error message)
  | .json body => .ok body

/-- The body that came back, and every execution of the request. -/
def razorpayXRequest (env : Env) (path : String) (replies : List (Reply α)) :
    Except Exn α × List α :=
  if env.hasCredentials then
    let (response, wire) := withRetry fetchPost 2 ⟨replies, []⟩
    (response >>= readBody path, wire.executed)
  else
    (.error (.error "Missing Razorpay credentials in environment variables"), [])

/-! ## The three requests of a payout -/

structure ContactBody where
  name : String
  email : Option String
  contact : String
  referenceId : String
  deriving DecidableEq, Repr

def contactBody (user : User) : ContactBody where
  name := user.driverName.getD "Aegis Driver"
  email := some user.email
  contact := user.phone.getD "9000000000"
  referenceId := "aegis_user_" ++ user.id

/-- Where a fund account sends money. -/
inductive FundAccount where
  | vpa (address : String)
  | bankAccount (name ifsc accountNumber : String)
  deriving DecidableEq, Repr

/-- The account that `createRazorpayFundAccount` registers for a payout setup. -/
def fundAccountOf (setup : KYCPayoutSetup) : Except Exn FundAccount :=
  match setup.method with
  | .UPI =>
      if isSet setup.upiId then .ok (.vpa (setup.upiId.getD ""))
      else .error (.badRequest "UPI payout setup is missing for driver")
  | .BANK =>
      if isSet setup.accountNumber && isSet setup.ifscCode then
        .ok (.bankAccount (setup.accountHolder.getD "Aegis Driver") (setup.ifscCode.getD "")
          (setup.accountNumber.getD ""))
      else .error (.badRequest "Bank payout setup is missing account details for driver")

/-- The part of a payout response that the caller reads. -/
structure RazorpayPayout where
  id : String
  referenceId : Option String
  deriving DecidableEq, Repr

end Aegis.Gateway
