import Aegis.Library.Run
import Aegis.Model.MobileClient
import Aegis.Verification.Identity.RefreshSessions

/-! # Calls of the app

Whatever else goes on, a call is handled at most once and ends with what its handler did. The reply
of `/auth/refresh` comes in an envelope that the app does not open there, so no token is renewed. -/

namespace Aegis.MobileClient

open Http Identity AuthService

/-! ## The envelope -/

/-- What a call ends with after its handler. -/
def outcome : Except Exn (Option Json) → Ended
  | .ok none => .returned .null
  | .ok (some data) => .returned (if enveloped data then (data.get "data").getD .null else data)
  | .error e => .failed (.str (if e.message = "" then "Something went wrong" else e.message))

theorem unwrap_intercept (data : Option Json) :
    Ended.returned (unwrap (intercept data)) = outcome (.ok data) := by
  cases data with
  | none => rfl
  | some data =>
      unfold intercept outcome
      dsimp only
      split
      · rename_i h
        have hboth : (has data "success" && has data "data") = true := by
          rw [enveloped, Bool.and_eq_true] at h
          exact h.1
        rw [unwrap, if_pos hboth]
      · rfl

theorem conclude_catchException (e : Exn) :
    conclude (catchException e) = outcome (.error e) := by
  have hok : (catchException e).ok = false := by cases e <;> rfl
  have hfailed : conclude (catchException e) =
      .failed
        (errMsg (.obj [("success", .bool false), ("data", .null), ("error", .str e.message)])) := by
    rw [conclude, hok]
    rfl
  rw [hfailed, outcome]
  by_cases h : e.message = ""
  · rw [h]
    rfl
  · simp [errMsg, Json.get, Json.truthy, Option.filter, h]

theorem conclude_respond (result : Except Exn (Option Json)) :
    conclude (respond result) = outcome result := by
  cases result with
  | ok data => exact unwrap_intercept data
  | error e => exact conclude_catchException e

/-- The tokens of a renewal are one level down. -/
theorem renewal_respond {result : Except Exn (Option Json)}
    (h : ∀ data, result = .ok (some data) → enveloped data = false) :
    renewal (respond result) = none := by
  match result with
  | .ok none => rfl
  | .ok (some data) =>
      have hplain : intercept (some data) =
          .obj [("success", .bool true), ("data", data), ("error", .null)] := by
        rw [intercept, h data rfl]
        rfl
      rw [respond, hplain]
      rfl
  | .error e => cases e <;> rfl

theorem renewal_refreshBody (result : Except Exn Identity.Reply) :
    renewal (respond (result.map refreshBody)) = none := by
  refine renewal_respond fun data hdata => ?_
  cases result with
  | error e => cases hdata
  | ok reply =>
      have hbody : refreshBody reply = some data := Except.ok.inj hdata
      unfold refreshBody at hbody
      split at hbody
      · cases hbody
        rfl
      · cases hbody

/-! ## Steps -/

/-- How far a call is; only a renewal of its tokens takes it back. -/
def Phase.rank : Phase → ℕ
  | .idle => 0
  | .sent _ _ => 1
  | .answered _ _ => 2
  | .refreshing _ _ => 3
  | .refreshed _ _ => 4
  | .ended _ => 5

def Phase.UnderWay (phase : Phase) : Prop := 0 < phase.rank ∧ phase.rank < 5

section Steps

variable {τ : Type} [DecidableEq τ]

/-- The server takes in the request of a call that is under way, and answers it so. -/
def Handles (t : τ) (response : Response) (s : System τ) (e : Event τ) : Prop :=
  (∃ call, e = .serve t call response) ∧ ∃ attempt token, s.phase t = .sent attempt token

/-- The request of a call that is under way fails on the way. -/
def Loses (t : τ) (errMsg : String) (s : System τ) (e : Event τ) : Prop :=
  e = .lose t errMsg ∧ (s.phase t).UnderWay

/-- What a step does to a call. -/
inductive Advance (cfg : Identity.Config) (s : System τ) (t : τ) : Event τ → Phase → Prop
  | started : s.phase t = .idle → Advance cfg s t (.start t) (send s.stored 0)
  | served {call attempt token response} : s.phase t = .sent attempt token →
      Advance cfg s t (.serve t call response) (.answered attempt response)
  | refreshed {sentBy io response refreshToken} : s.phase t = .refreshing response refreshToken →
      Advance cfg s t (.serveRefresh t sentBy io) (.refreshed response
        (respond (((refreshCall sentBy io refreshToken).run cfg s.world).1.map refreshBody)))
  | concluded {attempt response} : s.phase t = .answered attempt response →
      Advance cfg s t (.receive t) (.ended (conclude response))
  | renewing {response refreshToken} : s.phase t = .answered 0 response → response.status = 401 →
      present s.stored.refreshToken = some refreshToken →
        Advance cfg s t (.receive t) (.refreshing response refreshToken)
  | resent {response refreshRes renewed} : s.phase t = .refreshed response refreshRes →
      renewal refreshRes = some renewed → Advance cfg s t (.receive t) (send renewed 1)
  | refused {response refreshRes} : s.phase t = .refreshed response refreshRes →
      renewal refreshRes = none → Advance cfg s t (.receive t) (.ended (conclude response))
  | lost {errMsg} : (s.phase t).UnderWay → Advance cfg s t (.lose t errMsg)
      (.ended (.failed (.str errMsg)))

variable {cfg : Identity.Config} {s : System τ} {e : Event τ} {t : τ}

/-- A step at another call leaves this one where it is. -/
theorem Advance.update {t' : τ} {phase : Phase} (h : Advance cfg s t' e phase) (t : τ) :
    Function.update s.phase t' phase t = s.phase t ∨
      Advance cfg s t e (Function.update s.phase t' phase t) := by
  by_cases ht : t = t'
  · subst ht
    rw [Function.update_self]
    exact .inr h
  · exact .inl (Function.update_of_ne ht ..)

omit [DecidableEq τ] in
theorem receive_phase (cfg : Identity.Config) (s : System τ) (t : τ) :
    (receive s.stored (s.phase t)).2 = s.phase t ∨
      Advance cfg s t (.receive t) (receive s.stored (s.phase t)).2 := by
  cases hphase : s.phase t with
  | answered attempt response =>
      right
      unfold receive
      dsimp only
      split
      · rename_i refreshToken htoken
        split
        · rename_i h
          obtain ⟨hstatus, rfl⟩ := h
          exact .renewing hphase hstatus htoken
        · exact .concluded hphase
      · exact .concluded hphase
  | refreshed response refreshRes =>
      right
      unfold receive
      dsimp only
      split
      · rename_i renewed hrenewed
        exact .resent hphase hrenewed
      · rename_i hnone
        exact .refused hphase hnone
  | idle | sent attempt token | refreshing response refreshToken | ended result => exact .inl rfl

theorem step_phase (cfg : Identity.Config) (s : System τ) (e : Event τ) (t : τ) :
    (step cfg s e).phase t = s.phase t ∨ Advance cfg s t e ((step cfg s e).phase t) := by
  cases e with
  | start t' =>
      dsimp only [step]
      split
      · rename_i hphase
        exact Advance.update (.started hphase) t
      · exact .inl rfl
  | serve t' call response =>
      dsimp only [step]
      split
      · rename_i hphase
        exact Advance.update (.served hphase) t
      · exact .inl rfl
  | serveRefresh t' sentBy io =>
      dsimp only [step]
      split
      · rename_i hphase
        exact Advance.update (.refreshed hphase) t
      · exact .inl rfl
  | receive t' =>
      dsimp only [step]
      rcases receive_phase cfg s t' with hsame | hadvance
      · rw [hsame, Function.update_eq_self]
        exact .inl rfl
      · exact hadvance.update t
  | lose t' errMsg =>
      dsimp only [step]
      have hlost : (s.phase t').UnderWay → Function.update s.phase t'
          (.ended (.failed (.str errMsg))) t = s.phase t ∨ Advance cfg s t (.lose t' errMsg)
            (Function.update s.phase t' (.ended (.failed (.str errMsg))) t) :=
        fun hway => Advance.update (.lost hway) t
      cases hphase : s.phase t' with
      | idle | ended result => exact .inl rfl
      | sent _ _ | answered _ _ | refreshing _ _ | refreshed _ _ =>
          exact hlost (by simp [hphase, Phase.UnderWay, Phase.rank])
  | keep stored => exact .inl rfl
  | elsewhere call => exact .inl rfl

/-- The app finds no tokens in the replies that it waits for. -/
def NoRenewal (s : System τ) : Prop :=
  ∀ t response refreshRes, s.phase t = .refreshed response refreshRes → renewal refreshRes = none

omit [DecidableEq τ] in
theorem NoRenewal.of_idle (h : ∀ t, s.phase t = .idle) : NoRenewal s := by
  intro t response refreshRes hphase
  rw [h t] at hphase
  cases hphase

theorem NoRenewal.step (h : NoRenewal s) (cfg : Identity.Config) (e : Event τ) :
    NoRenewal (step cfg s e) := by
  intro t response refreshRes hphase
  rcases step_phase cfg s e t with hsame | hadvance
  · exact h t response refreshRes (hsame ▸ hphase)
  · rw [hphase] at hadvance
    cases hadvance with
    | refreshed => exact renewal_refreshBody _

theorem rank_step (h : NoRenewal s) (cfg : Identity.Config) (e : Event τ) (t : τ) :
    (s.phase t).rank ≤ ((step cfg s e).phase t).rank := by
  rcases step_phase cfg s e t with hsame | hadvance
  · rw [hsame]
  · generalize (step cfg s e).phase t = phase at hadvance
    cases hadvance with
    | resent hphase hrenewed =>
        rw [h t _ _ hphase] at hrenewed
        cases hrenewed
    | started hphase | served hphase | refreshed hphase | concluded hphase
    | renewing hphase | refused hphase => simp [hphase, Phase.rank, send]
    | lost hway => exact hway.2.le

theorem stored_step (h : NoRenewal s) (cfg : Identity.Config) (e : Event τ) :
    (step cfg s e).stored = match e with
      | .keep stored => stored
      | _ => s.stored := by
  cases e with
  | receive t =>
      dsimp only [step]
      unfold receive
      split
      · split
        · split <;> rfl
        · rfl
      · rename_i hphase
        rw [h t _ _ hphase]
      · rfl
  | start t | serve t call response | serveRefresh t sentBy io | lose t errMsg =>
      dsimp only [step]
      split <;> rfl
  | keep stored | elsewhere call => rfl

end Steps

/-! ## Runs -/

section Runs

variable {τ : Type} [DecidableEq τ] {cfg : Identity.Config} {s : System τ} {t : τ}

/-- The tokens that `AuthContext` stores. -/
def kept : Event τ → Option Stored
  | .keep stored => some stored
  | _ => none

theorem stored_final (h : NoRenewal s) (events : List (Event τ)) :
    (Run.final (step cfg) s events).stored = ((events.filterMap kept).getLast?).getD s.stored := by
  induction events generalizing s with
  | nil => rfl
  | cons e events ih =>
      rw [Run.final_cons, ih (h.step cfg e), stored_step h cfg e, List.filterMap_cons]
      cases e with
      | keep stored => simp [kept, List.getLast?_cons]
      | _ => rfl

/-- A call whose request has been handled is not sent again. -/
theorem not_handled_again {response : Response} {events : List (Event τ)} (h : NoRenewal s)
    (hrank : 2 ≤ (s.phase t).rank) : ¬Run.Sometime (step cfg) (Handles t response) s events := by
  induction events generalizing s with
  | nil => exact id
  | cons e events ih =>
      rintro (⟨⟨-, attempt, token, hphase⟩, -⟩ | hlater)
      · rw [hphase] at hrank
        simp [Phase.rank] at hrank
      · exact ih (h.step cfg e) (hrank.trans (rank_step h cfg e t)) hlater

theorem not_handled_twice {first second : Response} {events : List (Event τ)} (h : NoRenewal s) :
    ¬Run.After (step cfg) (Handles t first) (Run.Sometime (step cfg) (Handles t second)) s
      events := by
  induction events generalizing s with
  | nil => exact id
  | cons e events ih =>
      rintro (⟨⟨⟨call, rfl⟩, attempt, token, hphase⟩, hagain⟩ | hlater)
      · have hanswered : (step cfg s (.serve t call first)).phase t = .answered attempt first := by
          simp only [step, hphase, Function.update_self]
        refine not_handled_again (h.step cfg _) ?_ hagain
        rw [hanswered]
        exact le_rfl
      · exact ih (h.step cfg e) hlater

/-- What a call that is that far has been answered, or how it was lost. -/
def Told (came : Response → Prop) (lost : String → Prop) : Phase → Prop
  | .idle | .sent _ _ => True
  | .answered _ response | .refreshing response _ | .refreshed response _ => came response
  | .ended result => (∃ errMsg, lost errMsg ∧ result = .failed (.str errMsg)) ∨
      ∃ response, came response ∧ result = conclude response

section Told

variable {came came' : Response → Prop} {lost lost' : String → Prop} {phase : Phase}

theorem Told.mono (h : Told came lost phase) (hcame : ∀ response, came response → came' response)
    (hlost : ∀ errMsg, lost errMsg → lost' errMsg) : Told came' lost' phase := by
  cases phase with
  | idle | sent _ _ => trivial
  | answered _ response | refreshing response _ | refreshed response _ => exact hcame response h
  | ended result =>
      rcases h with ⟨errMsg, h, hresult⟩ | ⟨response, h, hresult⟩
      · exact .inl ⟨errMsg, hlost errMsg h, hresult⟩
      · exact .inr ⟨response, hcame response h, hresult⟩

omit [DecidableEq τ] in
theorem Told.advance {e : Event τ} (h : Told came lost (s.phase t))
    (hcame : ∀ response, Handles t response s e → came response)
    (hlost : ∀ errMsg, Loses t errMsg s e → lost errMsg) (hadvance : Advance cfg s t e phase) :
    Told came lost phase := by
  cases hadvance with
  | started | resent => trivial
  | served hphase => exact hcame _ ⟨⟨_, rfl⟩, _, _, hphase⟩
  | refreshed hphase =>
      rw [hphase] at h
      exact h
  | renewing hphase =>
      rw [hphase] at h
      exact h
  | concluded hphase | refused hphase =>
      rw [hphase] at h
      exact .inr ⟨_, h, rfl⟩
  | lost hway => exact .inl ⟨_, hlost _ ⟨rfl, hway⟩, rfl⟩

end Told

theorem told_final (cfg : Identity.Config) (hidle : ∀ t, s.phase t = .idle)
    (events : List (Event τ)) (t : τ) :
    Told (fun response => Run.Sometime (step cfg) (Handles t response) s events)
      (fun errMsg => Run.Sometime (step cfg) (Loses t errMsg) s events)
      ((Run.final (step cfg) s events).phase t) := by
  induction events using List.reverseRecOn with
  | nil =>
      rw [Run.final_nil, hidle t]
      trivial
  | append_singleton events e ih =>
      have hbefore := ih.mono (fun _ h => Run.Sometime.snoc (i := e) h)
        fun _ h => Run.Sometime.snoc (i := e) h
      rw [Run.final_snoc]
      rcases step_phase cfg (Run.final (step cfg) s events) e t with hsame | hadvance
      · rw [hsame]
        exact hbefore
      · exact hbefore.advance (fun _ h => .of_last h) (fun _ h => .of_last h) hadvance

end Runs

section Main

variable {τ : Type} [DecidableEq τ]

/-- Before any call. -/
def System.start (w : World) (stored : Stored) : System τ := ⟨w, stored, fun _ => .idle⟩

/-- In every run each call is handled at most once, and the tokens on the device are those that a
sign-in stored last: no call is sent again with renewed ones. -/
theorem handled_once (cfg : Identity.Config) (w : World) (stored : Stored)
    (events : List (Event τ)) :
    (∀ t first second, ¬Run.After (step cfg) (Handles t first)
      (Run.Sometime (step cfg) (Handles t second)) (.start w stored) events) ∧
    (Run.final (step cfg) (.start w stored) events).stored =
      ((events.filterMap kept).getLast?).getD stored := by
  have hstart : NoRenewal (.start w stored : System τ) := .of_idle fun _ => rfl
  exact ⟨fun t first second => not_handled_twice hstart, stored_final hstart events⟩

/-- A call that has ended was lost on the way, or was handled and gives its caller what the handler
of this very call returned or threw. -/
theorem ended_outcome (cfg : Identity.Config) (w : World) (stored : Stored)
    (events : List (Event τ)) (t : τ) (result : Ended)
    (hserves : ∀ t call response, Event.serve t call response ∈ events →
      ∃ handled, response = respond handled)
    (hended : (Run.final (step cfg) (.start w stored) events).phase t = .ended result) :
    (∃ errMsg, Run.Sometime (step cfg) (Loses t errMsg) (.start w stored) events ∧
      result = .failed (.str errMsg)) ∨
    ∃ handled, Run.Sometime (step cfg) (Handles t (respond handled)) (.start w stored) events ∧
      result = outcome handled := by
  have htold := told_final cfg (s := .start w stored) (fun _ => rfl) events t
  rw [hended] at htold
  rcases htold with hlost | ⟨response, hcame, rfl⟩
  · exact .inl hlost
  · obtain ⟨-, e, he, ⟨⟨call, rfl⟩, -⟩⟩ := hcame.exists_mem
    obtain ⟨handled, rfl⟩ := hserves t call response he
    exact .inr ⟨handled, hcame, conclude_respond handled⟩

/-- Three calls at once. The first is answered; the second finds its token expired and its renewal
is answered; the third is handled, but its response is lost. -/
theorem ended_outcome_three :
    let handled : Except Exn (Option Json) := .ok (some (.obj [("email", .str "ravi@zepto.in")]))
    let expired : Except Exn (Option Json) := .error (.unauthorized "Unauthorized")
    let poll := SignedText.send 3600000 (.user (some "token") .submitKyc)
    let events : List (Event ℕ) :=
      [.start 0, .start 1, .serve 1 poll (respond expired), .start 2, .receive 1,
        .serve 0 poll (respond handled), .serve 2 poll (respond handled),
        .serveRefresh 1 none (SignedText.send 3601000 (.auth (.refresh ""))).io,
        .lose 2 "Network request failed", .receive 1, .receive 0]
    let start : System ℕ :=
      .start (SignedText.world SignedText.ravi) ⟨some "token", some "refresh"⟩
    let told (t : ℕ) (result : Ended) : Prop :=
      (∃ errMsg, Run.Sometime (step SignedText.cfg) (Loses t errMsg) start events ∧
        result = .failed (.str errMsg)) ∨
      ∃ handled, Run.Sometime (step SignedText.cfg) (Handles t (respond handled)) start events ∧
        result = outcome handled
    told 0 (outcome handled) ∧ told 1 (outcome expired) ∧
      told 2 (.failed (.str "Network request failed")) := by
  intro handled expired poll events start told
  have hserves : ∀ t call response, Event.serve t call response ∈ events →
      ∃ handled, response = respond handled := by
    intro t call response hserve
    simp only [events, List.mem_cons, Event.serve.injEq, reduceCtorEq, List.not_mem_nil, false_or,
      or_false] at hserve
    rcases hserve with ⟨-, -, rfl⟩ | ⟨-, -, rfl⟩ | ⟨-, -, rfl⟩
    · exact ⟨expired, rfl⟩
    · exact ⟨handled, rfl⟩
    · exact ⟨handled, rfl⟩
  exact ⟨ended_outcome SignedText.cfg _ _ events 0 _ hserves rfl,
    ended_outcome SignedText.cfg _ _ events 1 _ hserves rfl,
    ended_outcome SignedText.cfg _ _ events 2 _ hserves rfl⟩

end Main

end Aegis.MobileClient
