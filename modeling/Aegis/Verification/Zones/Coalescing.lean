import Aegis.Library.Run
import Aegis.Model.Coalescing
import Aegis.Model.Pipeline

/-! # Coalesced executions and cancellation

The leader completes its future on some of its ways out only, a waiter awaits the leader's own
future, and the entry is written and removed by its key. -/

namespace Aegis.PipelineService

open Run

variable {τ ε : Type} [DecidableEq τ]

/-! ## The law -/

namespace Coalescer

/-- What the call has left with, or leaves with if its pipeline ends in `outcome`. -/
def response (s : Coalescer τ ε) (t : τ) (outcome : Outcome ε) : Option (Exit ε) :=
  match s.phase t with
  | .left exit => some exit
  | _ => (s.future t).map fun fut => (complete outcome fut).2

end Coalescer

/-- No future is left behind undone, and nobody waits for one; only the owner takes an entry
away; and a cancelled waiter leaves the call it waits for alone. -/
structure Upheld (s : Coalescer τ ε) (event : RunEvent τ ε) : Prop where
  done : ∀ t exit, (s.step event).phase t = .left exit →
    ∀ fut ∈ (s.step event).future t, fut.Done
  awaited : ∀ t creator must, (s.step event).phase t = .waiting creator must →
    (s.step event).phase creator = .leading ∨ ∃ fut ∈ (s.step event).future creator, fut.Done
  own : ∀ creator, s.inflight = some creator → (s.step event).inflight ≠ some creator →
    event.call = creator
  responses : ∀ t creator must outcome, event = .cancel t → s.phase t = .waiting creator must →
    (s.step event).response creator outcome = s.response creator outcome

/-- No leader is cancelled or fails at its deadline, no waiter leads while there is an entry,
and no waiter is cancelled before the future is done. -/
def Undisturbed (s : Coalescer τ ε) : RunEvent τ ε → Prop
  | .start _ => True
  | .resume t => ∀ creator error, s.phase t = .waiting creator false →
      s.future creator = some (.exception error) → s.inflight = none
  | .finish t outcome => s.phase t = .leading →
      outcome ≠ .cancelled ∧ ∀ error, outcome ≠ .timeout (.error error)
  | .cancel t => ∀ creator must, s.phase t = .waiting creator must →
      s.future creator ≠ some .pending

/-! ## The invariant -/

/-- There is an entry exactly while its owner leads, and a future is pending exactly as long. -/
structure Led (s : Coalescer τ ε) : Prop where
  entry : ∀ t, s.inflight = some t → s.phase t = .leading
  leading : ∀ t, s.phase t = .leading → s.inflight = some t ∧ (s.future t).isSome
  created : ∀ t fut, s.future t = some fut →
    (s.phase t = .leading ∧ fut = .pending) ∨
      ((∃ exit, s.phase t = .left exit) ∧ fut.Done ∧ fut ≠ .cancelled)
  waited : ∀ t creator must, s.phase t = .waiting creator must → (s.future creator).isSome

namespace Coalescer

variable (s : Coalescer τ ε) (t : τ)

@[simp] theorem goTo_phase_self (phase : RunPhase τ ε) : (s.goTo t phase).phase t = phase :=
  Function.update_self ..

theorem goTo_phase_of_ne {t' : τ} (phase : RunPhase τ ε) (h : t' ≠ t) :
    (s.goTo t phase).phase t' = s.phase t' :=
  Function.update_of_ne h ..

@[simp] theorem goTo_future (phase : RunPhase τ ε) : (s.goTo t phase).future = s.future := rfl

@[simp] theorem goTo_inflight (phase : RunPhase τ ε) : (s.goTo t phase).inflight = s.inflight := rfl

@[simp] theorem setFuture_future_self (fut : Future PipelineResponse ε) :
    (s.setFuture t fut).future t = some fut :=
  Function.update_self ..

@[simp] theorem setFuture_phase (fut : Future PipelineResponse ε) :
    (s.setFuture t fut).phase = s.phase := rfl

@[simp] theorem lead_inflight : (s.lead t).inflight = some t := rfl

@[simp] theorem lead_phase_self : (s.lead t).phase t = .leading := Function.update_self ..

theorem lead_phase_of_ne {t' : τ} (h : t' ≠ t) : (s.lead t).phase t' = s.phase t' :=
  Function.update_of_ne h ..

@[simp] theorem lead_future_self : (s.lead t).future t = some .pending := Function.update_self ..

theorem lead_future_of_ne {t' : τ} (h : t' ≠ t) : (s.lead t).future t' = s.future t' :=
  Function.update_of_ne h ..

/-- The state that a leader leaves behind. -/
def ended (fut : Future PipelineResponse ε) (exit : Exit ε) : Coalescer τ ε :=
  { (s.setFuture t fut).leave t exit with inflight := none }

variable (fut : Future PipelineResponse ε) (exit : Exit ε)

@[simp] theorem ended_inflight : (s.ended t fut exit).inflight = none := rfl

@[simp] theorem ended_phase_self : (s.ended t fut exit).phase t = .left exit :=
  Function.update_self ..

theorem ended_phase_of_ne {t' : τ} (h : t' ≠ t) : (s.ended t fut exit).phase t' = s.phase t' :=
  Function.update_of_ne h ..

@[simp] theorem ended_future_self : (s.ended t fut exit).future t = some fut :=
  Function.update_self ..

theorem ended_future_of_ne {t' : τ} (h : t' ≠ t) : (s.ended t fut exit).future t' = s.future t' :=
  Function.update_of_ne h ..

end Coalescer

/-- What an undisturbed step of the call `t` can do. -/
inductive Stepped (s : Coalescer τ ε) (t : τ) : Coalescer τ ε → Prop where
  | stays : Stepped s t s
  | goes (phase : RunPhase τ ε) (hnone : s.future t = none) (hleading : phase ≠ .leading)
      (hwaiting : ∀ creator must, phase = .waiting creator must → (s.future creator).isSome) :
      Stepped s t (s.goTo t phase)
  | leads (hnone : s.future t = none) (hinflight : s.inflight = none) : Stepped s t (s.lead t)
  | finishes (fut : Future PipelineResponse ε) (exit : Exit ε) (hphase : s.phase t = .leading)
      (hdone : fut.Done) (hcancelled : fut ≠ .cancelled) :
      Stepped s t (s.ended t fut exit)

section Invariant

omit [DecidableEq τ]

variable {s : Coalescer τ ε} {t : τ}

theorem Led.init : Led ({} : Coalescer τ ε) where
  entry := by simp
  leading := by simp
  created := by simp
  waited := by simp

theorem Led.pending (hs : Led s) (hleading : s.phase t = .leading) :
    s.future t = some .pending := by
  obtain ⟨fut, hfut⟩ := Option.isSome_iff_exists.mp (hs.leading t hleading).2
  obtain ⟨-, rfl⟩ | ⟨⟨exit, hleft⟩, -⟩ := hs.created t fut hfut
  · exact hfut
  · rw [hleading] at hleft
    cases hleft

/-- A call that neither leads nor has left has no future. -/
theorem Led.future_eq_none (hs : Led s) (hleading : s.phase t ≠ .leading)
    (hleft : ∀ exit, s.phase t ≠ .left exit) : s.future t = none := by
  by_contra h
  obtain ⟨fut, hfut⟩ := Option.ne_none_iff_exists'.mp h
  obtain ⟨hphase, -⟩ | ⟨⟨exit, hphase⟩, -⟩ := hs.created t fut hfut
  · exact hleading hphase
  · exact hleft exit hphase

theorem Led.done (hs : Led s) {exit : Exit ε} (hleft : s.phase t = .left exit) :
    ∀ fut ∈ s.future t, fut.Done := by
  intro fut hfut
  obtain ⟨hleading, -⟩ | ⟨-, hdone, -⟩ := hs.created t fut hfut
  · rw [hleading] at hleft
    cases hleft
  · exact hdone

theorem Led.awaited (hs : Led s) {creator : τ} {must : Bool}
    (hwaiting : s.phase t = .waiting creator must) :
    s.phase creator = .leading ∨ ∃ fut ∈ s.future creator, fut.Done := by
  obtain ⟨fut, hfut⟩ := Option.isSome_iff_exists.mp (hs.waited t creator must hwaiting)
  obtain ⟨hleading, -⟩ | ⟨-, hdone, -⟩ := hs.created creator fut hfut
  · exact .inl hleading
  · exact .inr ⟨fut, hfut, hdone⟩

theorem complete_pending {outcome : Outcome ε} (hcancelled : outcome ≠ .cancelled)
    (htimeout : ∀ error, outcome ≠ .timeout (.error error)) :
    (complete outcome .pending).1.Done ∧ (complete outcome .pending).1 ≠ .cancelled := by
  cases outcome with
  | result response => exact ⟨trivial, nofun⟩
  | timeout fallback =>
      cases fallback with
      | ok response => exact ⟨trivial, nofun⟩
      | error error => exact absurd rfl (htimeout error)
  | failed error => exact ⟨trivial, nofun⟩
  | cancelled => exact absurd rfl hcancelled

end Invariant

namespace Coalesced

/-- The answer at the deadline when there is no record. -/
def response : PipelineResponse :=
  timeoutResponse { now := 0, features := none, risk := fun _ => none, pricing := fun _ => none }
    { Ew := 8000 } "8860145b5dfffff" {}

end Coalesced

/-! ## One step -/

section Steps

variable {s s' : Coalescer τ ε} {t : τ}

theorem stepped_await (hnone : s.future t = none) {creator : τ}
    (hcreator : (s.future creator).isSome)
    (hexception : ∀ error, s.future creator = some (.exception error) → s.inflight = none) :
    Stepped s t (s.await t creator) := by
  unfold Coalescer.await
  split
  · exact .goes _ hnone nofun (by rintro _ _ ⟨⟩; exact hcreator)
  · exact .goes _ hnone nofun (by rintro _ _ ⟨⟩; exact hcreator)
  · exact .goes _ hnone nofun nofun
  · rename_i error hfut
    exact .leads hnone (hexception error hfut)
  · exact .goes _ hnone nofun nofun

theorem Led.stepped_start (hs : Led s) : Stepped s t (s.start t) := by
  unfold Coalescer.start
  split
  · rename_i creator hidle hinflight
    have hpending : s.future creator = some .pending := hs.pending (hs.entry creator hinflight)
    exact stepped_await (hs.future_eq_none (by simp [hidle]) (by simp [hidle])) (by simp [hpending])
      (by simp [hpending])
  · rename_i hidle hinflight
    exact .leads (hs.future_eq_none (by simp [hidle]) (by simp [hidle])) hinflight
  · exact .stays

theorem Led.stepped_resume (hs : Led s) (hok : Undisturbed s (.resume t)) :
    Stepped s t (s.resume t) := by
  unfold Coalescer.resume
  split
  · rename_i creator hwaiting
    exact stepped_await (hs.future_eq_none (by simp [hwaiting]) (by simp [hwaiting]))
      (hs.waited t creator _ hwaiting) (fun error => hok creator error hwaiting)
  · rename_i hwaiting
    exact .goes _ (hs.future_eq_none (by simp [hwaiting]) (by simp [hwaiting])) nofun nofun
  · exact .stays

theorem Led.stepped_finish (hs : Led s) {outcome : Outcome ε}
    (hok : Undisturbed s (.finish t outcome)) : Stepped s t (s.finish t outcome) := by
  unfold Coalescer.finish
  split
  · rename_i fut hleading hfut
    obtain rfl : Future.pending = fut := Option.some.inj ((hs.pending hleading).symm.trans hfut)
    obtain ⟨hcancelled, htimeout⟩ := hok hleading
    obtain ⟨hdone, hkept⟩ := complete_pending hcancelled htimeout
    exact .finishes _ _ hleading hdone hkept
  · exact .stays

theorem Led.stepped_cancel (hs : Led s) (hok : Undisturbed s (.cancel t)) :
    Stepped s t (s.cancel t) := by
  unfold Coalescer.cancel
  split
  · rename_i hidle
    exact .goes _ (hs.future_eq_none (by simp [hidle]) (by simp [hidle])) nofun nofun
  · rename_i creator must hwaiting
    split
    · rename_i hpending
      exact absurd hpending (hok creator must hwaiting)
    · refine .goes _ (hs.future_eq_none (by simp [hwaiting]) (by simp [hwaiting])) nofun ?_
      rintro _ _ ⟨⟩
      exact hs.waited t creator must hwaiting
  · exact .stays

theorem Led.stepped (hs : Led s) {event : RunEvent τ ε} (hok : Undisturbed s event) :
    Stepped s event.call (s.step event) := by
  cases event with
  | start t => exact hs.stepped_start
  | resume t => exact hs.stepped_resume hok
  | finish t outcome => exact hs.stepped_finish hok
  | cancel t => exact hs.stepped_cancel hok

theorem Led.goTo (hs : Led s) {phase : RunPhase τ ε} (hnone : s.future t = none)
    (hleading : phase ≠ .leading)
    (hwaiting : ∀ creator must, phase = .waiting creator must → (s.future creator).isSome) :
    Led (s.goTo t phase) := by
  have hidle : s.phase t ≠ .leading := fun h => by simp [hs.pending h] at hnone
  constructor
  · intro t' hentry
    have hphase := hs.entry t' hentry
    rw [s.goTo_phase_of_ne t phase (by rintro rfl; exact hidle hphase)]
    exact hphase
  · intro t' hphase
    by_cases h : t' = t
    · subst h
      rw [s.goTo_phase_self] at hphase
      exact absurd hphase hleading
    · rw [s.goTo_phase_of_ne t phase h] at hphase
      exact hs.leading t' hphase
  · intro t' fut hfut
    rw [s.goTo_phase_of_ne t phase (by rintro rfl; simp [hnone] at hfut)]
    exact hs.created t' fut hfut
  · intro t' creator must hphase
    by_cases h : t' = t
    · subst h
      rw [s.goTo_phase_self] at hphase
      exact hwaiting creator must hphase
    · rw [s.goTo_phase_of_ne t phase h] at hphase
      exact hs.waited t' creator must hphase

theorem Led.lead (hs : Led s) (hnone : s.future t = none) (hinflight : s.inflight = none) :
    Led (s.lead t) := by
  constructor
  · rintro t' ⟨⟩
    exact s.lead_phase_self t
  · intro t' hphase
    by_cases h : t' = t
    · subst h
      simp
    · rw [s.lead_phase_of_ne t h] at hphase
      have hentry := (hs.leading t' hphase).1
      rw [hinflight] at hentry
      cases hentry
  · intro t' fut hfut
    by_cases h : t' = t
    · subst h
      rw [s.lead_future_self] at hfut
      exact .inl ⟨s.lead_phase_self t', (Option.some.inj hfut).symm⟩
    · rw [s.lead_future_of_ne t h] at hfut
      rw [s.lead_phase_of_ne t h]
      exact hs.created t' fut hfut
  · intro t' creator must hphase
    by_cases h : t' = t
    · subst h
      simp at hphase
    · rw [s.lead_phase_of_ne t h] at hphase
      have hcreator := hs.waited t' creator must hphase
      rw [s.lead_future_of_ne t (by rintro rfl; simp [hnone] at hcreator)]
      exact hcreator

theorem Led.ended (hs : Led s) {fut : Future PipelineResponse ε} (exit : Exit ε)
    (hphase : s.phase t = .leading) (hdone : fut.Done) (hcancelled : fut ≠ .cancelled) :
    Led (s.ended t fut exit) := by
  -- the leader was the only one
  have hother : ∀ t', t' ≠ t → s.phase t' ≠ .leading := by
    intro t' h hphase'
    have hentry := (hs.leading t hphase).1
    rw [(hs.leading t' hphase').1] at hentry
    exact h (Option.some.inj hentry)
  constructor
  · nofun
  · intro t' hphase'
    by_cases h : t' = t
    · subst h
      simp at hphase'
    · rw [s.ended_phase_of_ne t fut exit h] at hphase'
      exact absurd hphase' (hother t' h)
  · intro t' fut' hfut
    by_cases h : t' = t
    · subst h
      rw [s.ended_future_self] at hfut
      obtain rfl := Option.some.inj hfut
      exact .inr ⟨⟨exit, s.ended_phase_self t' fut exit⟩, hdone, hcancelled⟩
    · rw [s.ended_future_of_ne t fut exit h] at hfut
      rw [s.ended_phase_of_ne t fut exit h]
      exact hs.created t' fut' hfut
  · intro t' creator must hphase'
    have hcreator : (s.future creator).isSome := by
      by_cases h : t' = t
      · subst h
        simp at hphase'
      · rw [s.ended_phase_of_ne t fut exit h] at hphase'
        exact hs.waited t' creator must hphase'
    by_cases h : creator = t
    · subst h
      simp
    · rw [s.ended_future_of_ne t fut exit h]
      exact hcreator

theorem Stepped.led (hstep : Stepped s t s') (hs : Led s) : Led s' := by
  cases hstep with
  | stays => exact hs
  | goes phase hnone hleading hwaiting => exact hs.goTo hnone hleading hwaiting
  | leads hnone hinflight => exact hs.lead hnone hinflight
  | finishes fut exit hphase hdone hcancelled => exact hs.ended exit hphase hdone hcancelled

/-- Once the leader is gone, whoever waits for it goes on. -/
theorem Led.resume_goes_on (hs : Led s) {creator : τ} {must : Bool}
    (hwaiting : s.phase t = .waiting creator must) (hgone : s.phase creator ≠ .leading)
    (creator' : τ) (must' : Bool) : (s.step (.resume t)).phase t ≠ .waiting creator' must' := by
  obtain ⟨fut, hfut, hdone⟩ := (hs.awaited hwaiting).resolve_left hgone
  rw [Option.mem_def] at hfut
  cases must with
  | true => simp [Coalescer.step, Coalescer.resume, Coalescer.leave, hwaiting]
  | false =>
      cases fut with
      | pending => exact absurd hdone Future.not_done_pending
      | result response =>
          simp [Coalescer.step, Coalescer.resume, Coalescer.await, Coalescer.leave, hwaiting, hfut]
      | exception error => simp [Coalescer.step, Coalescer.resume, Coalescer.await, hwaiting, hfut]
      | cancelled =>
          simp [Coalescer.step, Coalescer.resume, Coalescer.await, Coalescer.leave, hwaiting, hfut]

theorem Stepped.own (hstep : Stepped s t s') (hs : Led s) {creator : τ}
    (hentry : s.inflight = some creator) (hgone : s'.inflight ≠ some creator) : t = creator := by
  cases hstep with
  | stays => exact absurd hentry hgone
  | goes => exact absurd hentry hgone
  | leads hnone hinflight =>
      rw [hinflight] at hentry
      cases hentry
  | finishes fut exit hphase =>
      rw [(hs.leading t hphase).1] at hentry
      exact Option.some.inj hentry

/-- A cancellation that finds the future done concerns the waiter alone. -/
theorem Led.response_cancel (hs : Led s) {creator : τ} {must : Bool}
    (hwaiting : s.phase t = .waiting creator must) (hdone : s.future creator ≠ some .pending)
    (outcome : Outcome ε) : (s.cancel t).response creator outcome = s.response creator outcome := by
  have hother : creator ≠ t := by
    rintro rfl
    have hnone : s.future creator = none :=
      hs.future_eq_none (by simp [hwaiting]) (by simp [hwaiting])
    have hcreator := hs.waited creator creator must hwaiting
    simp [hnone] at hcreator
  have hcancel : s.cancel t = s.goTo t (.waiting creator true) := by
    simp [Coalescer.cancel, hwaiting]
  rw [hcancel, Coalescer.response, s.goTo_phase_of_ne t _ hother]
  rfl

theorem Led.upheld (hs : Led s) {event : RunEvent τ ε} (hok : Undisturbed s event) :
    Upheld s event := by
  have hstep : Stepped s event.call (s.step event) := hs.stepped hok
  have hs' : Led (s.step event) := hstep.led hs
  exact
    { done := fun t exit hleft => hs'.done hleft
      awaited := fun t creator must hwaiting => hs'.awaited hwaiting
      own := fun creator hentry hgone => hstep.own hs hentry hgone
      responses := by
        rintro t creator must outcome rfl hwaiting
        exact hs.response_cancel hwaiting (hok creator must hwaiting) outcome }

/-- A waiter that leads in spite of an entry overwrites it. -/
theorem Led.undisturbed_resume (hs : Led s) (h : Upheld s (.resume t)) :
    Undisturbed s (.resume t) := by
  intro creator error hwaiting hfut
  have hresume : s.step (.resume t) = s.lead t := by
    simp [Coalescer.step, Coalescer.resume, Coalescer.await, hwaiting, hfut]
  by_contra hentry
  obtain ⟨owner, howner⟩ := Option.ne_none_iff_exists'.mp hentry
  have hleading := hs.entry owner howner
  have hother : t ≠ owner := by
    rintro rfl
    rw [hwaiting] at hleading
    cases hleading
  refine hother (h.own owner howner ?_)
  rw [hresume]
  simpa using hother

/-- A leader that leaves by a cancellation leaves its future pending. -/
theorem Led.undisturbed_finish (hs : Led s) {outcome : Outcome ε}
    (h : Upheld s (.finish t outcome)) : Undisturbed s (.finish t outcome) := by
  intro hleading
  have hfinish : s.step (.finish t outcome) =
      s.ended t (complete outcome .pending).1 (complete outcome .pending).2 := by
    simp [Coalescer.step, Coalescer.finish, hleading, hs.pending hleading, Coalescer.ended]
  have hdone : (complete outcome .pending).1.Done := by
    refine h.done t _ (by rw [hfinish, Coalescer.ended_phase_self]) _ ?_
    rw [hfinish, Coalescer.ended_future_self]
    rfl
  constructor
  · rintro rfl
    exact hdone
  · rintro error rfl
    exact hdone

/-- A waiter that is cancelled takes the pending future with it, so a success of the leader
would end in an error. -/
theorem Led.undisturbed_cancel (hs : Led s) (h : Upheld s (.cancel t)) :
    Undisturbed s (.cancel t) := by
  intro creator must hwaiting hpending
  have hleading : s.phase creator = .leading := by
    obtain ⟨hleading, -⟩ | ⟨-, hdone, -⟩ := hs.created creator _ hpending
    · exact hleading
    · exact absurd hdone Future.not_done_pending
  have hcancel : s.step (.cancel t) = s.setFuture creator .cancelled := by
    simp [Coalescer.step, Coalescer.cancel, hwaiting, hpending, Future.cancel]
  have hresponse := h.responses t creator must (.result Coalesced.response) rfl hwaiting
  rw [hcancel] at hresponse
  simp [Coalescer.response, hleading, hpending, complete, Future.setResult] at hresponse

theorem Led.undisturbed (hs : Led s) {event : RunEvent τ ε} (h : Upheld s event) :
    Undisturbed s event := by
  cases event with
  | start t => trivial
  | resume t => exact hs.undisturbed_resume h
  | finish t outcome => exact hs.undisturbed_finish h
  | cancel t => exact hs.undisturbed_cancel h

end Steps

/-- The law holds along a run if and only if nothing disturbs the leaders. -/
theorem upheld_iff_undisturbed (events : List (RunEvent τ ε)) :
    Along Coalescer.step Upheld {} events ↔ Along Coalescer.step Undisturbed {} events :=
  along_iff_of_inv (fun _ _ hs => ⟨hs.undisturbed, hs.upheld⟩)
    (fun _ _ hs hok => (hs.stepped hok).led hs) Led.init

namespace Coalesced

/-- The leader is cancelled. -/
def abandoned : List (RunEvent ℕ Refusal) :=
  [.start 0, .start 1, .cancel 0, .finish 0 .cancelled]

/-- The waiter is cancelled. -/
def corrupted : List (RunEvent ℕ Refusal) :=
  [.start 0, .start 1, .cancel 1, .finish 0 (.result response)]

/-- The leader fails, and both waiters lead. -/
def crossed : List (RunEvent ℕ Refusal) :=
  [.start 0, .start 1, .start 2, .finish 0 (.failed .features), .resume 1, .resume 2,
    .finish 1 (.result response)]

end Coalesced

open Coalesced in
/-- A waiter is left with a future that nobody completes; a call whose pipeline has succeeded
leaves with an error; the entry of a call that still leads is removed. -/
theorem not_upheld :
    (¬ Along Coalescer.step Upheld {} abandoned ∧
      (final Coalescer.step {} abandoned).phase 0 = .left .CancelledError ∧
      (final Coalescer.step {} abandoned).phase 1 = .waiting 0 false ∧
      (final Coalescer.step {} abandoned).future 0 = some .pending) ∧
    (¬ Along Coalescer.step Upheld {} corrupted ∧
      (final Coalescer.step {} corrupted).phase 0 = .left .InvalidStateError) ∧
    (¬ Along Coalescer.step Upheld {} crossed ∧
      (final Coalescer.step {} crossed).phase 2 = .leading ∧
      (final Coalescer.step {} crossed).inflight = none) := by
  refine ⟨⟨?_, rfl, rfl, rfl⟩, ⟨?_, rfl⟩, ?_, rfl, rfl⟩
  · rintro ⟨-, -, -, hfinish, -⟩
    exact hfinish.done 0 .CancelledError rfl .pending rfl
  · rintro ⟨-, -, hcancel, -⟩
    have hresponse := hcancel.responses 1 0 false (.result response) rfl rfl
    cases hresponse
  · rintro ⟨-, -, -, -, -, -, hfinish, -⟩
    have howner := hfinish.own 2 rfl nofun
    cases howner

end Aegis.PipelineService
