import Aegis.Library.Json
import Aegis.Model.IdentityEndpoints

/-! # The app and the server

The envelope that the server puts around every body, `request` of the app with its renewal of
tokens, and both of them together: any number of calls share the tokens on the device. -/

namespace Aegis.Http

/-- A response; `body` is `none` when it is not JSON. -/
structure Response where
  status : ℕ
  body : Option Json

def Response.ok (response : Response) : Bool := 200 ≤ response.status ∧ response.status ≤ 299

/-- `key in value` of an object. -/
def has (value : Json) (key : String) : Bool := (value.get key).isSome

def enveloped (data : Json) : Bool := has data "success" && has data "data" && has data "error"

/-- `ApiResponseInterceptor`, on what a handler returns. -/
def intercept (data : Option Json) : Json :=
  match data with
  | some data =>
      if enveloped data then data
      else .obj [("success", .bool true), ("data", data), ("error", .null)]
  | none => .obj [("success", .bool true), ("data", .null), ("error", .null)]

def statusOf : Exn → ℕ
  | .badRequest _ => 400
  | .unauthorized _ => 401
  | .forbidden _ => 403
  | .notFound _ => 404
  | .conflict _ => 409
  | .error _ | .typeError _ | .database _ => 500

/-- `GlobalExceptionFilter`. -/
def catchException (e : Exn) : Response where
  status := statusOf e
  body := some (.obj [("success", .bool false), ("data", .null), ("error", .str e.message)])

def respond (result : Except Exn (Option Json)) : Response :=
  match result with
  | .ok data => ⟨200, some (intercept data)⟩
  | .error e => catchException e

end Aegis.Http

namespace Aegis.MobileClient

open Http Identity AuthService

/-- The tokens in `AsyncStorage`. -/
structure Stored where
  accessToken : Option String
  refreshToken : Option String
  deriving DecidableEq, Repr

/-- The envelope is opened where there is one. -/
def unwrap (data : Json) : Json :=
  if has data "success" && has data "data" then (data.get "data").getD .null else data

def errMsg (data : Json) : Json :=
  match (data.get "error").filter Json.truthy, (data.get "message").filter Json.truthy with
  | some message, _ | none, some message => message
  | none, none => .str "Something went wrong"

/-- What a call ends with when its response is not to be followed by a renewal. -/
inductive Ended where
  | returned (value : Json)
  | failed (errMsg : Json)

def conclude (response : Response) : Ended :=
  let data := response.body.getD .null
  if response.ok then .returned (unwrap data) else .failed (MobileClient.errMsg data)

def textOf (value : Json) (key : String) : Option String :=
  match value.get key with
  | some (.str text) => if text = "" then none else some text
  | _ => none

/-- The pair of tokens that a response to `/auth/refresh` brings. -/
def renewal (response : Response) : Option Stored :=
  if response.ok then
    let data := response.body.getD .null
    match textOf data "accessToken", textOf data "refreshToken" with
    | some accessToken, some refreshToken => some ⟨some accessToken, some refreshToken⟩
    | _, _ => none
  else none

/-- Where a call to `request` with `requiresAuth` is. -/
inductive Phase where
  | idle
  | sent (attempt : ℕ) (token : Option String)
  | answered (attempt : ℕ) (response : Response)
  | refreshing (response : Response) (refreshToken : String)
  | refreshed (response refreshRes : Response)
  | ended (result : Ended)

/-- `_attempt`. -/
def Phase.attempt : Phase → ℕ
  | sent attempt _ | answered attempt _ => attempt
  | idle | refreshing _ _ | refreshed _ _ | ended _ => 0

/-- A token that is not the empty string. -/
def present (token : Option String) : Option String := token.filter (· ≠ "")

def send (stored : Stored) (attempt : ℕ) : Phase := .sent attempt (present stored.accessToken)

/-- The next step of a call once a response is there. -/
def receive (stored : Stored) : Phase → Stored × Phase
  | .answered attempt response =>
      match present stored.refreshToken with
      | some refreshToken =>
          if response.status = 401 ∧ attempt = 0 then (stored, .refreshing response refreshToken)
          else (stored, .ended (conclude response))
      | none => (stored, .ended (conclude response))
  | .refreshed response refreshRes =>
      match renewal refreshRes with
      | some renewed => (renewed, send renewed 1)
      | none => (stored, .ended (conclude response))
  | phase => (stored, phase)

/-! ## The system -/

structure System (τ : Type) where
  world : World
  stored : Stored
  phase : τ → Phase

/-- The body of `/auth/refresh` after a renewal, before it is put into the envelope. -/
def tokensJson (tokens : Tokens) : Json :=
  .obj [("accessToken", .str tokens.accessToken.text),
    ("refreshToken", .str tokens.refreshToken.text)]

def refreshBody : Identity.Reply → Option Json
  | .auth (.refreshed tokens) => some (tokensJson tokens)
  | _ => none

/-- `POST /auth/refresh`. -/
def refreshCall (sentBy : Option String) (io : Identity.Io) (refreshToken : String) : Call where
  request := .auth (.refresh refreshToken)
  sentBy := sentBy
  io := io

inductive Event (τ : Type) where
  | start (t : τ)
  /-- The server handles the request of a call and answers it with this response. -/
  | serve (t : τ) (call : Call) (response : Response)
  | serveRefresh (t : τ) (sentBy : Option String) (io : Identity.Io)
  | receive (t : τ)
  /-- A `fetch` of the call rejects, whether or not the server has handled the request. -/
  | lose (t : τ) (errMsg : String)
  /-- `AuthContext` stores the tokens of a sign-in, or removes them. -/
  | keep (stored : Stored)
  /-- The server handles a request of someone else. -/
  | elsewhere (call : Call)

section Steps

variable {τ : Type} [DecidableEq τ] (cfg : Identity.Config) (s : System τ)

def step : Event τ → System τ
  | .start t =>
      match s.phase t with
      | .idle => { s with phase := Function.update s.phase t (send s.stored 0) }
      | _ => s
  | .serve t call response =>
      match s.phase t with
      | .sent attempt _ =>
          { s with
            world := Identity.step cfg s.world call
            phase := Function.update s.phase t (.answered attempt response) }
      | _ => s
  | .serveRefresh t sentBy io =>
      match s.phase t with
      | .refreshing response refreshToken =>
          let (result, world) := (refreshCall sentBy io refreshToken).run cfg s.world
          { s with
            world
            phase :=
              Function.update s.phase t (.refreshed response (respond (result.map refreshBody))) }
      | _ => s
  | .receive t =>
      let (stored, phase) := MobileClient.receive s.stored (s.phase t)
      { s with stored, phase := Function.update s.phase t phase }
  | .lose t errMsg =>
      match s.phase t with
      | .sent _ _ | .answered _ _ | .refreshing _ _ | .refreshed _ _ =>
          { s with phase := Function.update s.phase t (.ended (.failed (.str errMsg))) }
      | _ => s
  | .keep stored => { s with stored }
  | .elsewhere call => { s with world := Identity.step cfg s.world call }

end Steps

end Aegis.MobileClient
