import Aegis.Library.Run
import Aegis.Verification.Payouts.EventWindow
import Mathlib.Data.Fintype.Basic

/-! # One event, one payout

Overlapping calls of `processPayout`. What decides is what the store holds when a call
creates its event or settles: its own look at the store may be stale by then. -/

namespace Aegis.PayoutService.Dispatch

open Outcome Payments

variable {τ : Type} (cfg : Config) (calls : τ → PayoutCall)

/-! ## The property and its condition -/

def typeOf (t : τ) : String := eventType (calls t).2

/-- No type has two events created for it, and no policy two transfers for a type. -/
structure OneEvent (s : Dispatch τ) : Prop where
  created : s.created.Pairwise fun e f => e.type ≠ f.type
  paid : s.log.Pairwise fun x y => ¬Rivals x y

/-- A call creates its event only while no call of the type would find one, and settles only
while the policy has no row for the event. -/
def Current (s : Dispatch τ) (t : τ) : Prop :=
  match s.pc t with
  | .missing _ _ =>
      (calls t).1.createEvent = true →
        ∀ u, typeOf calls u = typeOf calls t → NoRecentEvent (typeOf calls t) (calls u).1.now s.db
  | .settling policy _ disruption => rowOf s.db policy.id disruption.id = none
  | _ => True

instance (type : String) (now : ℤ) (db : Db) : Decidable (NoRecentEvent type now db) :=
  inferInstanceAs (Decidable (∀ e ∈ db.disruptionEvents.rows, _))

instance [Fintype τ] (s : Dispatch τ) (t : τ) : Decidable (Current calls s t) := by
  unfold Current
  split <;> infer_instance

/-! ## The invariant -/

/-- The event is the latest of the type, and recent for some call. -/
structure Canonical (db : Db) (type : String) (e : DisruptionEvent) : Prop where
  latest : latestEvent type db = some e
  recent : ∃ u, typeOf calls u = type ∧ (calls u).1.now ≤ e.occurredAt + HOUR

/-- The event that a call is working on. -/
def atHand : Pc → Option DisruptionEvent
  | .identified _ _ disruption | .settling _ _ disruption => some disruption
  | _ => none

/-- All events in use are the latest of their types. -/
structure Inv (s : Dispatch τ) : Prop where
  atHand : ∀ t, ∀ e ∈ atHand (s.pc t), Canonical calls s.db (typeOf calls t) e
  logged : ∀ x ∈ s.log, ∃ e, Canonical calls s.db x.type e ∧
    x.transfer.disruptionEventId = e.id ∧ (rowOf s.db x.transfer.policyId e.id).isSome = true
  created : ∀ e ∈ s.created, Canonical calls s.db e.type e
  oneEvent : OneEvent s

variable {cfg calls} {s : Dispatch τ} {t : τ}

theorem inv_start (s : System) : Inv calls (⟨s, [], [], fun _ => .start⟩ : Dispatch τ) where
  atHand t e h := by cases h
  logged x h := by cases h
  created e h := by cases h
  oneEvent := ⟨.nil, .nil⟩

theorem Canonical.unique {db : Db} {type : String} {e f : DisruptionEvent}
    (he : Canonical calls db type e) (hf : Canonical calls db type f) : e = f :=
  Option.some.inj (he.latest.symm.trans hf.latest)

theorem Canonical.frame {db db' : Db} {type : String} {e : DisruptionEvent}
    (h : Canonical calls db type e) (hsame : db'.disruptionEvents = db.disruptionEvents) :
    Canonical calls db' type e := by
  refine ⟨?_, h.recent⟩
  rw [latestEvent, hsame]
  exact h.latest

/-- No event of the type is in use when a call may create one. -/
theorem not_canonical {db : Db} {type : String} {e : DisruptionEvent}
    (hnone : ∀ u, typeOf calls u = type → NoRecentEvent type (calls u).1.now db) :
    ¬Canonical calls db type e := by
  rintro ⟨hlatest, u, hu, hrecent⟩
  obtain ⟨hfound, htype⟩ := latestEvent_spec hlatest
  have hlater := hnone u hu e (Table.mem_of_findUnique hfound) htype
  omega

variable [DecidableEq τ]

/-! ## The steps -/

/-- A move that changes neither the events nor the ledger nor the logs. -/
theorem Inv.goTo (h : Inv calls s) {pc : Pc}
    (hpc : ∀ e ∈ Dispatch.atHand pc, Canonical calls s.db (typeOf calls t) e) :
    Inv calls (s.goTo t pc) := by
  refine ⟨fun t' e he => ?_, h.logged, h.created, h.oneEvent.created, h.oneEvent.paid⟩
  by_cases heq : t' = t
  · subst heq
    simp only [Dispatch.goTo, Function.update_self] at he
    exact hpc e he
  · simp only [Dispatch.goTo, Function.update_of_ne heq] at he
    exact h.atHand t' e he

theorem Inv.findEvent (h : Inv calls s) (policy : Policy) (h3Cell : String) :
    Inv calls (s.goTo t (findEvent (calls t) s policy h3Cell)) := by
  refine h.goTo fun e he => ?_
  rw [Dispatch.findEvent] at he
  split at he
  · split at he
    · rename_i disruption hfound
      cases he
      rw [findFirst_eq, Option.filter_eq_some_iff, decide_eq_true_eq] at hfound
      refine ⟨hfound.1, t, rfl, ?_⟩
      have hrecent := hfound.2
      rw [HOUR]
      omega
    · cases he
  · cases he

theorem Inv.createEvent (h : Inv calls s) {policy : Policy} {h3Cell : String}
    (hpc : s.pc t = .missing policy h3Cell) (hcurrent : Current calls s t) :
    Inv calls (createEvent (calls t) s t policy h3Cell) := by
  rw [Current, hpc] at hcurrent
  rw [Dispatch.createEvent]
  split
  · rename_i hcreate
    split
    · rename_i disruptionEvents hrow
      have hnone := hcurrent hcreate
      have hcreated : Created (calls t).1 (calls t).2 s.db { s.db with disruptionEvents } :=
        ⟨hnone t rfl, disruptionEvents, hrow, rfl⟩
      have hold : ∀ type e, Canonical calls s.db type e →
          type ≠ typeOf calls t ∧ Canonical calls { s.db with disruptionEvents } type e := by
        intro type e he
        have hne : type ≠ typeOf calls t := by
          rintro rfl
          exact not_canonical hnone he
        exact ⟨hne, by rw [hcreated.latestEvent_of_ne hne]; exact he.latest, he.recent⟩
      have hnow : (newEvent (calls t).1 (calls t).2).occurredAt = (calls t).1.now := rfl
      have hnew : Canonical calls { s.db with disruptionEvents } (typeOf calls t)
          (newEvent (calls t).1 (calls t).2) := by
        refine ⟨hcreated.latestEvent_self, t, rfl, ?_⟩
        rw [hnow, HOUR]
        omega
      refine ⟨fun t' e he => ?_, fun x hx => ?_, fun e he => ?_, ?_, h.oneEvent.paid⟩
      · by_cases heq : t' = t
        · subst heq
          simp only [Dispatch.goTo, Function.update_self] at he
          cases he
          exact hnew
        · simp only [Dispatch.goTo, Function.update_of_ne heq] at he
          exact (hold _ e (h.atHand t' e he)).2
      · obtain ⟨e, he, hid, hisSome⟩ := h.logged x hx
        exact ⟨e, (hold _ e he).2, hid, hisSome⟩
      · rcases List.mem_append.mp he with he | he
        · exact (hold _ e (h.created e he)).2
        · cases List.mem_singleton.mp he
          exact hnew
      · refine List.pairwise_append.mpr ⟨h.oneEvent.created, List.pairwise_singleton _ _, ?_⟩
        intro e he f hf
        cases List.mem_singleton.mp hf
        exact (hold _ e (h.created e he)).1
    · exact h.goTo fun e he => by cases he
  · exact h.goTo fun e he => by cases he

omit [DecidableEq τ] in
theorem exists_settlement (cfg : Config) (s : Dispatch τ) (c : PayoutCall) (policy : Policy)
    (h3Cell : String) (disruption : DisruptionEvent) :
    ∃ executed, Adds c.1.settle (settlementOf c.1 c.2 policy h3Cell disruption) s.toWorld
      (settleOrQueue cfg c.1 c.2 policy (settlementOf c.1 c.2 policy h3Cell disruption)
        s.toSystem).2.toWorld executed := by
  rw [settleOrQueue_world]
  exact exists_adds cfg.toConfig c.1.settle _ s.toWorld

theorem Inv.settle (h : Inv calls s) {policy : Policy} {h3Cell : String}
    {disruption : DisruptionEvent} (hpc : s.pc t = .settling policy h3Cell disruption)
    (hfree : rowOf s.db policy.id disruption.id = none)
    (hsound : ∀ r ∈ (calls t).1.settle.payout, Sound r) :
    Inv calls (settle cfg (calls t) s t policy h3Cell disruption) := by
  have hheld : Canonical calls s.db (typeOf calls t) disruption :=
    h.atHand t disruption (by rw [hpc]; rfl)
  obtain ⟨executed, hadds⟩ := exists_settlement cfg s (calls t) policy h3Cell disruption
  rw [Dispatch.settle]
  generalize settleOrQueue cfg (calls t).1 (calls t).2 policy
    (settlementOf (calls t).1 (calls t).2 policy h3Cell disruption) s.toSystem = settled at hadds ⊢
  obtain ⟨result, system⟩ := settled
  dsimp only at hadds ⊢
  rw [hadds.transfers, List.drop_left]
  have hkept : ∀ type e, Canonical calls s.db type e → Canonical calls system.db type e :=
    fun type e he => he.frame hadds.events
  refine ⟨fun t' e he => ?_, fun x hx => ?_, fun e he => hkept _ _ (h.created e he),
    h.oneEvent.created, List.pairwise_append.mpr ⟨h.oneEvent.paid, hadds.pairwise hsound _ _, ?_⟩⟩
  · by_cases heq : t' = t
    · subst heq
      simp only [Dispatch.goTo, Function.update_self] at he
      cases he
    · simp only [Dispatch.goTo, Function.update_of_ne heq] at he
      exact hkept _ _ (h.atHand t' e he)
  · rcases List.mem_append.mp hx with hx | hx
    · obtain ⟨e, he, hid, hrow⟩ := h.logged x hx
      exact ⟨e, hkept _ _ he, hid, (hadds.keeps 0).rows _ _ hrow⟩
    · obtain ⟨hentry, hrow⟩ := hadds.entryFor hx
      refine ⟨disruption, ?_, hentry.disruptionEventId, ?_⟩
      · rw [hentry.type]
        exact hkept _ _ hheld
      · rw [hentry.policyId]
        exact hrow
  · rintro x hx y hy ⟨hpolicy, htype⟩
    -- both are for the latest event of the type, for which `x` has its row already
    obtain ⟨hentry, -⟩ := hadds.entryFor hy
    obtain ⟨e, he, -, hrow⟩ := h.logged x hx
    rw [htype, hentry.type] at he
    rw [he.unique hheld, hpolicy, hentry.policyId, hfree] at hrow
    cases hrow

theorem Inv.step (h : Inv calls s) (hcurrent : Current calls s t)
    (hsound : ∀ r ∈ (calls t).1.settle.payout, Sound r) : Inv calls (step cfg calls s t) := by
  rw [Dispatch.step]
  split
  · split
    · exact h.goTo fun e he => by cases he
    · exact h.goTo fun e he => by cases he
  · exact h.findEvent _ _
  · rename_i policy h3Cell hpc
    exact h.createEvent hpc hcurrent
  · rename_i policy h3Cell disruption hpc
    refine h.goTo fun e he => h.atHand t e ?_
    rw [hpc]
    rw [findPayout] at he
    split at he
    · split at he
      · cases he
      · exact he
    · cases he
  · rename_i policy h3Cell disruption hpc
    rw [Current, hpc] at hcurrent
    exact h.settle hpc hcurrent hsound
  · exact h

/-! ## Runs -/

/-- In whatever order the calls take their steps: if none acts on a stale look at the store, no
type gets a second event and no policy a second transfer for a type. -/
theorem always_oneEvent (cfg : Config) (calls : τ → PayoutCall) (s : System) (schedule : List τ)
    (hsound : ∀ t, ∀ r ∈ (calls t).1.settle.payout, Sound r)
    (h : Run.Along (Dispatch.step cfg calls) (Current calls)
      ⟨s, [], [], fun _ => .start⟩ schedule) :
    Run.Always (Dispatch.step cfg calls) OneEvent ⟨s, [], [], fun _ => .start⟩ schedule :=
  (Run.always_of_step (fun _ t hs ht => hs.step ht (hsound t)) (inv_start s) h).mono
    fun _ => Inv.oneEvent

/-! ## The logs -/

/-- The logs account for every new event and every transfer. -/
structure Accounts (start : System) (s : Dispatch τ) : Prop where
  events : s.db.disruptionEvents.rows = start.db.disruptionEvents.rows ++ s.created
  transfers : s.transfers = start.transfers ++ s.log.map Executed.transfer

theorem Accounts.step {start : System} (h : Accounts start s) :
    Accounts start (Dispatch.step cfg calls s t) := by
  rw [Dispatch.step]
  split
  · split
    · exact ⟨h.events, h.transfers⟩
    · exact ⟨h.events, h.transfers⟩
  · exact ⟨h.events, h.transfers⟩
  · rw [Dispatch.createEvent]
    split
    · split
      · rename_i disruptionEvents hcreate
        refine ⟨?_, h.transfers⟩
        simp only [Dispatch.goTo, (Table.create_eq_some hcreate).2, h.events, List.append_assoc]
      · exact ⟨h.events, h.transfers⟩
    · exact ⟨h.events, h.transfers⟩
  · exact ⟨h.events, h.transfers⟩
  · rename_i policy h3Cell disruption hpc
    obtain ⟨executed, hadds⟩ := exists_settlement cfg s (calls t) policy h3Cell disruption
    refine ⟨?_, ?_⟩
    · simp only [Dispatch.settle, Dispatch.goTo, hadds.events, h.events]
    · have hself : Executed.transfer ∘ executedIn (calls t) = id := rfl
      simp only [Dispatch.settle, Dispatch.goTo]
      rw [hadds.transfers, List.drop_left, List.map_append, List.map_map, hself, List.map_id,
        h.transfers, List.append_assoc]
  · exact h

theorem always_accounts (cfg : Config) (calls : τ → PayoutCall) (s : System) (schedule : List τ) :
    Run.Always (Dispatch.step cfg calls) (Accounts s) ⟨s, [], [], fun _ => .start⟩ schedule :=
  Run.always_of_step (fun _ _ h _ => h.step) ⟨by simp, by simp⟩
    (Run.along_of_forall (fun _ _ => trivial) _)

/-! ## A call by itself -/

/-- What is left of `processPayout` once the event is identified. -/
def payEvent (cfg : Config) (c : PayoutCall) (policy : Policy) (h3Cell : String)
    (disruption : DisruptionEvent) (s : System) : Except Exn ProcessPayoutResult × System :=
  if c.1.readPayout then
    match s.db.payouts.findUnique (.policyId_disruptionEventId policy.id disruption.id) with
    | some existingPayout =>
        (.ok (.existing existingPayout.id existingPayout.transactionId
          (c.2.payoutAmount.getD 0) (existingPayout.approvedPayout.getD 0)), s)
    | none =>
        let (result, s) := settleOrQueue cfg c.1 c.2 policy
          (settlementOf c.1 c.2 policy h3Cell disruption) s
        (.ok result, s)
  else (.error storeDown, s)

theorem step_done {result : Except Exn ProcessPayoutResult} (h : s.pc t = .done result) :
    Dispatch.step cfg calls s t = s := by
  simp only [Dispatch.step, h]

variable (cfg calls) in
theorem final_identified (s : Dispatch τ) {policy : Policy} {h3Cell : String}
    {disruption : DisruptionEvent} (h : s.pc t = .identified policy h3Cell disruption) :
    (Run.final (Dispatch.step cfg calls) s [t, t]).toSystem =
        (payEvent cfg (calls t) policy h3Cell disruption s.toSystem).2 ∧
      (Run.final (Dispatch.step cfg calls) s [t, t]).pc t =
        .done (payEvent cfg (calls t) policy h3Cell disruption s.toSystem).1 := by
  have hstep : Dispatch.step cfg calls s t =
      s.goTo t (findPayout (calls t) s policy h3Cell disruption) := by
    simp only [Dispatch.step, h]
  rw [Run.final_cons, hstep, findPayout, payEvent]
  by_cases hread : (calls t).1.readPayout = true
  · simp only [hread, if_true]
    cases hrow : s.db.payouts.findUnique
        (.policyId_disruptionEventId policy.id disruption.id) with
    | some existingPayout => simp [goTo, Dispatch.step]
    | none => simp [goTo, Dispatch.step, settle]
  · simp [hread, goTo, Dispatch.step]

/-- What is left of `processPayout` behind the gates. -/
def payGated (cfg : Config) (c : PayoutCall) (policy : Policy) (h3Cell : String) (s : System) :
    Except Exn ProcessPayoutResult × System :=
  match findOrCreateEvent c.1 c.2 s.db with
  | .error e => (.error e, s)
  | .ok (disruption, db) => payEvent cfg c policy h3Cell disruption { s with db }

theorem final_gated (s : Dispatch τ) {policy : Policy} {h3Cell : String}
    (h : s.pc t = .gated policy h3Cell) :
    (Run.final (Dispatch.step cfg calls) s [t, t, t, t]).toSystem =
        (payGated cfg (calls t) policy h3Cell s.toSystem).2 ∧
      (Run.final (Dispatch.step cfg calls) s [t, t, t, t]).pc t =
        .done (payGated cfg (calls t) policy h3Cell s.toSystem).1 := by
  have hstep : Dispatch.step cfg calls s t = s.goTo t (findEvent (calls t) s policy h3Cell) := by
    simp only [Dispatch.step, h]
  rw [Run.final_cons, hstep, findEvent, payGated, findOrCreateEvent]
  by_cases hread : (calls t).1.readEvent = true
  · simp only [hread, if_true, require, ok_bind]
    cases hfound : s.db.disruptionEvents.findFirstDesc
        (fun e => e.type = eventType (calls t).2 && (calls t).1.now - 3600 * 1000 ≤ e.occurredAt)
        DisruptionEvent.occurredAt with
    | some disruption =>
        have hat : (s.goTo t (.identified policy h3Cell disruption)).pc t =
            .identified policy h3Cell disruption := by simp [goTo]
        have hdone := final_identified cfg calls _ hat
        have hlast : Run.final (Dispatch.step cfg calls)
            (s.goTo t (.identified policy h3Cell disruption)) [t, t, t] =
              Run.final (Dispatch.step cfg calls)
                (s.goTo t (.identified policy h3Cell disruption)) [t, t] :=
          step_done hdone.2
        dsimp only
        rw [hlast]
        exact hdone
    | none =>
        have hmissing : Dispatch.step cfg calls (s.goTo t (.missing policy h3Cell)) t =
            createEvent (calls t) (s.goTo t (.missing policy h3Cell)) t policy h3Cell := by
          simp [Dispatch.step, goTo]
        dsimp only
        rw [Run.final_cons, hmissing, createEvent]
        by_cases hcreate : (calls t).1.createEvent = true
        · cases hrow : s.db.disruptionEvents.create (newEvent (calls t).1 (calls t).2) with
          | some disruptionEvents =>
              simp only [goTo, hcreate, if_true, hrow, orThrow, ok_bind]
              exact final_identified cfg calls _ (by simp)
          | none => simp [goTo, hcreate, hrow, Dispatch.step, orThrow]
        · simp [goTo, hcreate, Dispatch.step]
  · simp [hread, goTo, Dispatch.step, require]

/-- A call that no other overlaps does what `processPayout` says. -/
theorem final_alone (h : s.pc t = .start) :
    (Run.final (Dispatch.step cfg calls) s [t, t, t, t, t]).toSystem =
        (processPayout cfg (calls t).1 (calls t).2 s.toSystem).2 ∧
      (Run.final (Dispatch.step cfg calls) s [t, t, t, t, t]).pc t =
        .done (processPayout cfg (calls t).1 (calls t).2 s.toSystem).1 := by
  rw [Run.final_cons, processPayout]
  cases hgates : checkGates cfg (calls t).1 (calls t).2 s.toSystem with
  | error e => simp [goTo, Dispatch.step, h, hgates]
  | ok passed =>
      obtain ⟨policy, h3Cell⟩ := passed
      have hstep : Dispatch.step cfg calls s t = s.goTo t (.gated policy h3Cell) := by
        simp only [Dispatch.step, h, hgates]
      rw [hstep]
      exact final_gated (s.goTo t (.gated policy h3Cell)) (by simp [goTo])

/-! ## The dispatch and the cron -/

namespace Overlap

open Payouts.Ungated Payouts.Priced Closing

def eventIdOf : Fin 2 → String
  | 0 => "e2"
  | 1 => "e3"

/-- Two calls for one driver, a second apart. -/
def overlapping (t : Fin 2) : PayoutCall :=
  ({ ioAt (7200000 + 1000 * t) t with eventId := eventIdOf t }, params)

theorem overlapping_sound (t : Fin 2) : ∀ r ∈ (overlapping t).1.settle.payout, Sound r :=
  (Closing.allSucceed (7200000 + 1000 * t) t).settle.undisturbed.answered

end Overlap

open Overlap Payouts.Ungated Payouts.Priced in
/-- One after the other, the two calls share one event and one transfer. -/
theorem always_oneEvent_sequential :
    Run.Always (step config overlapping) OneEvent ⟨halted, [], [], fun _ => .start⟩
      [0, 0, 0, 0, 0, 1, 1, 1, 1, 1] := by
  refine always_oneEvent config overlapping halted _ overlapping_sound ?_
  decide

open Overlap Payouts.Ungated Payouts.Priced in
/-- Neither call finds an event, each creates one, and the policy is paid for both. -/
theorem not_always_oneEvent :
    ¬Run.Always (step config overlapping) OneEvent ⟨halted, [], [], fun _ => .start⟩
        [0, 0, 1, 1, 0, 1, 0, 1, 0, 1] ∧
      ((Run.final (step config overlapping) ⟨halted, [], [], fun _ => .start⟩
        [0, 0, 1, 1, 0, 1, 0, 1, 0, 1]).log.map fun x => (x.transfer.policyId, x.time)) =
          [("p1", 7200000), ("p1", 7201000)] := by
  refine ⟨fun h => ?_, by decide⟩
  have hcreated : ¬((Run.final (step config overlapping) ⟨halted, [], [], fun _ => .start⟩
      [0, 0, 1, 1, 0, 1, 0, 1, 0, 1]).created.Pairwise fun e f => e.type ≠ f.type) := by
    decide
  exact hcreated h.last.created

end Aegis.PayoutService.Dispatch
