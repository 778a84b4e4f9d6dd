import Aegis.Model.Payout
import Aegis.Verification.Payments.ExactlyOnce
import Aegis.Verification.Payouts.Amounts
import Aegis.Verification.Payouts.Processing

/-! # The window of a disruption event

The one-hour window of a payout is anchored at the event that `processPayout` finds, the
latest of its type, whoever's call created it. -/

namespace Aegis.PayoutService

open Outcome Payments

/-! ## The latest event -/

def HOUR : ℤ := 3600 * 1000

def latestEvent (type : String) (db : Db) : Option DisruptionEvent :=
  db.disruptionEvents.findFirstDesc (fun e => e.type = type) DisruptionEvent.occurredAt

section Events

variable {io : ProcessIo} {params : ProcessPayoutParams} {db db' : Db}
    {disruption : DisruptionEvent}

/-- No event of the type lies within the hour before `now`. -/
def NoRecentEvent (type : String) (now : ℤ) (db : Db) : Prop :=
  ∀ e ∈ db.disruptionEvents.rows, e.type = type → e.occurredAt + HOUR < now

/-- The query of `processPayout` finds the latest event or none. -/
theorem findFirst_eq (type : String) (now : ℤ) (db : Db) :
    db.disruptionEvents.findFirstDesc
      (fun e => e.type = type && now - 3600 * 1000 ≤ e.occurredAt) DisruptionEvent.occurredAt =
      (latestEvent type db).filter fun e => now - 3600 * 1000 ≤ e.occurredAt :=
  Table.findFirstDesc_and_le _ _ _ _

theorem findFirst_eq_none {type : String} {now : ℤ} :
    db.disruptionEvents.findFirstDesc
      (fun e => e.type = type && now - 3600 * 1000 ≤ e.occurredAt) DisruptionEvent.occurredAt =
      none ↔ NoRecentEvent type now db := by
  rw [Table.findFirstDesc_eq_none, NoRecentEvent, HOUR]
  refine forall₂_congr fun e _ => ?_
  by_cases htype : e.type = type
  · simp only [htype, decide_true, Bool.true_and, decide_eq_false_iff_not, true_implies]
    omega
  · simp [htype]

/-- A new event comes more than an hour after all others of its type. -/
structure Created (io : ProcessIo) (params : ProcessPayoutParams) (db db' : Db) : Prop where
  none : NoRecentEvent (eventType params) io.now db
  create : ∃ disruptionEvents, db.disruptionEvents.create (newEvent io params) =
    some disruptionEvents ∧ db' = { db with disruptionEvents }

theorem findOrCreateEvent_cases (h : findOrCreateEvent io params db = .ok (disruption, db')) :
    (db' = db ∧ latestEvent (eventType params) db = some disruption ∧
        io.now ≤ disruption.occurredAt + HOUR) ∨
      (disruption = newEvent io params ∧ Created io params db db') := by
  obtain ⟨_, -, h⟩ := bind_eq_ok.mp h
  split at h
  · rename_i hfound
    cases h
    rw [findFirst_eq, Option.filter_eq_some_iff, decide_eq_true_eq] at hfound
    refine .inl ⟨rfl, hfound.1, ?_⟩
    have hrecent := hfound.2
    rw [HOUR]
    omega
  · rename_i hnone
    obtain ⟨_, -, h⟩ := bind_eq_ok.mp h
    obtain ⟨disruptionEvents, hcreate, h⟩ := bind_eq_ok.mp h
    cases h
    exact .inr ⟨rfl, findFirst_eq_none.mp hnone, disruptionEvents, orThrow_eq_ok.mp hcreate, rfl⟩

theorem Created.latestEvent_self (h : Created io params db db') :
    latestEvent (eventType params) db' = some (newEvent io params) := by
  obtain ⟨hnone, disruptionEvents, hcreate, rfl⟩ := h
  have hnew : (newEvent io params).type = eventType params := rfl
  refine Table.findFirstDesc_create_of_lt hcreate (by simp [hnew]) fun e he htype => ?_
  have hearlier := hnone e he (by simpa using htype)
  have hnow : (newEvent io params).occurredAt = io.now := rfl
  rw [hnow]
  simp only [HOUR] at hearlier
  omega

theorem Created.latestEvent_of_ne (h : Created io params db db') {type : String}
    (hne : type ≠ eventType params) : latestEvent type db' = latestEvent type db := by
  obtain ⟨-, disruptionEvents, hcreate, rfl⟩ := h
  have hnew : (newEvent io params).type = eventType params := rfl
  exact Table.findFirstDesc_create_of_not _ hcreate (by simp [hnew, Ne.symm hne])

/-- Events on record stay on record. -/
theorem Created.findUnique (h : Created io params db db') {id : String} {e : DisruptionEvent}
    (he : db.disruptionEvents.findUnique id = some e) :
    db'.disruptionEvents.findUnique id = some e := by
  obtain ⟨-, disruptionEvents, hcreate, rfl⟩ := h
  have hmem := (Table.findUnique_eq_some _ _ _).mp he
  exact (Table.findUnique_eq_some _ _ _).mpr ⟨(Table.mem_create hcreate).mpr (.inl hmem.1), hmem.2⟩

/-- The event of a call is afterwards the latest of its type, and its window is open. -/
theorem findOrCreateEvent_latest (h : findOrCreateEvent io params db = .ok (disruption, db')) :
    latestEvent (eventType params) db' = some disruption ∧
      io.now ≤ disruption.occurredAt + HOUR := by
  rcases findOrCreateEvent_cases h with ⟨rfl, hlatest, hopen⟩ | ⟨rfl, hcreated⟩
  · exact ⟨hlatest, hopen⟩
  · refine ⟨hcreated.latestEvent_self, ?_⟩
    have hnow : (newEvent io params).occurredAt = io.now := rfl
    rw [hnow, HOUR]
    omega

theorem latestEvent_spec {type : String} {e : DisruptionEvent} (h : latestEvent type db = some e) :
    db.disruptionEvents.findUnique e.id = some e ∧ e.type = type := by
  obtain ⟨hmem, htype⟩ := Table.findFirstDesc_eq_some h
  exact ⟨(Table.findUnique_eq_some _ _ _).mpr ⟨hmem, by simp [DisruptionEvent.keys]⟩,
    by simpa using htype⟩

end Events

/-! ## Runs and their transfers -/

/-- The system and the transfers executed so far. -/
structure Journal extends System where
  log : List Executed := []

def payCall (cfg : Config) (j : Journal) (c : PayoutCall) : Journal :=
  let s := (processPayout cfg c.1 c.2 j.toSystem).2
  ⟨s, j.log ++ (s.transfers.drop j.transfers.length).map (executedIn c)⟩

def eventOf (db : Db) (x : Executed) : Option DisruptionEvent :=
  db.disruptionEvents.findUnique x.transfer.disruptionEventId

/-- The two transfers are for one policy and one type of disruption. -/
def Rivals (x y : Executed) : Prop :=
  x.transfer.policyId = y.transfer.policyId ∧ x.type = y.type

instance : DecidableRel Rivals := fun _ _ => inferInstanceAs (Decidable (_ ∧ _))

/-- The transfer is for an event on record, of the type of the call, and made at most an hour after
it. -/
structure Within (db : Db) (x : Executed) (e : DisruptionEvent) : Prop where
  event : eventOf db x = some e
  type : e.type = x.type
  inWindow : x.time ≤ e.occurredAt + HOUR

/-- Each transfer is within the window of its event, and the later event comes after the window of
the earlier one. -/
def Apart (db : Db) (x y : Executed) : Prop :=
  ∃ e f, Within db x e ∧ Within db y f ∧ e.occurredAt + HOUR < f.occurredAt ∧
    f.occurredAt ≤ y.time

/-- The event is the latest of its type, or one that came more than an hour later is. -/
def UpToDate (now : ℤ) (type : String) (e : DisruptionEvent) (db : Db) : Prop :=
  ∃ f, latestEvent type db = some f ∧
    (f = e ∨ (e.occurredAt + HOUR < f.occurredAt ∧ f.occurredAt ≤ now))

/-- Where a transfer stands: its event and its row are on record. -/
structure Placed (now : ℤ) (db : Db) (x : Executed) (e : DisruptionEvent) : Prop
    extends Within db x e where
  row : (rowOf db x.transfer.policyId x.transfer.disruptionEventId).isSome = true
  upToDate : UpToDate now x.type e db

structure Spaced (now : ℤ) (db : Db) (log : List Executed) : Prop where
  placed : ∀ x ∈ log, ∃ e, Placed now db x e
  apart : log.Pairwise fun x y => Rivals x y → Apart db x y

/-! ## What a call keeps -/

/-- Events and rows stay on record, and newer events come more than an hour later. -/
structure Keeps (now : ℤ) (db db' : Db) : Prop where
  events : ∀ id e, db.disruptionEvents.findUnique id = some e →
    db'.disruptionEvents.findUnique id = some e
  rows : ∀ policyId disruptionEventId, (rowOf db policyId disruptionEventId).isSome = true →
    (rowOf db' policyId disruptionEventId).isSome = true
  upToDate : ∀ type e, UpToDate now type e db → UpToDate now type e db'

section Keeps

variable {cfg : Config} {io : ProcessIo} {params : ProcessPayoutParams} {db db' db'' : Db}
  {x y : Executed} {e : DisruptionEvent} {log : List Executed} {now now' : ℤ}

theorem Keeps.refl (now : ℤ) (db : Db) : Keeps now db db :=
  ⟨fun _ _ => id, fun _ _ => id, fun _ _ => id⟩

theorem Keeps.trans (h : Keeps now db db') (h' : Keeps now db' db'') : Keeps now db db'' :=
  ⟨fun id e he => h'.events id e (h.events id e he), fun p d hr => h'.rows p d (h.rows p d hr),
    fun type e he => h'.upToDate type e (h.upToDate type e he)⟩

theorem Within.keeps (h : Within db x e) (hk : Keeps now db db') : Within db' x e :=
  ⟨hk.events _ _ h.event, h.type, h.inWindow⟩

theorem Placed.keeps (h : Placed now db x e) (hk : Keeps now db db') : Placed now db' x e :=
  ⟨h.toWithin.keeps hk, hk.rows _ _ h.row, hk.upToDate _ _ h.upToDate⟩

theorem Apart.keeps (h : Apart db x y) (hk : Keeps now db db') : Apart db' x y := by
  obtain ⟨e, f, he, hf, hlt⟩ := h
  exact ⟨e, f, he.keeps hk, hf.keeps hk, hlt⟩

theorem Spaced.keeps (h : Spaced now db log) (hk : Keeps now db db') : Spaced now db' log := by
  refine ⟨fun x hx => ?_, h.apart.imp fun hxy hrivals => (hxy hrivals).keeps hk⟩
  obtain ⟨e, he⟩ := h.placed x hx
  exact ⟨e, he.keeps hk⟩

theorem Spaced.later (h : Spaced now db log) (hle : now ≤ now') : Spaced now' db log := by
  refine ⟨fun x hx => ?_, h.apart⟩
  obtain ⟨e, he⟩ := h.placed x hx
  obtain ⟨f, hf, hfe⟩ := he.upToDate
  exact ⟨e, he.toWithin, he.row, f, hf, hfe.imp_right fun hlater => ⟨hlater.1,
    hlater.2.trans hle⟩⟩

theorem Created.keeps (h : Created io params db db') : Keeps io.now db db' := by
  refine ⟨fun id e he => h.findUnique he, fun p d hr => ?_, ?_⟩
  · obtain ⟨-, disruptionEvents, -, rfl⟩ := h
    exact hr
  · rintro type e ⟨f, hf, hfe⟩
    by_cases htype : type = eventType params
    · have hspec := latestEvent_spec hf
      have hlater := h.none f (Table.mem_of_findUnique hspec.1) (hspec.2.trans htype)
      have hnow : (newEvent io params).occurredAt = io.now := rfl
      refine ⟨newEvent io params, by rw [htype, h.latestEvent_self], .inr ⟨?_, le_rfl⟩⟩
      rw [hnow]
      rcases hfe with rfl | ⟨hfe, -⟩
      · exact hlater
      · simp only [HOUR] at hfe hlater ⊢
        omega
    · exact ⟨f, by rw [h.latestEvent_of_ne htype, hf], hfe⟩

theorem EventStep.keeps (h : EventStep io params db db') : Keeps io.now db db' := by
  rcases h with rfl | ⟨disruption, h⟩
  · exact .refl _ _
  · rcases findOrCreateEvent_cases h with ⟨rfl, -, -⟩ | ⟨-, hcreated⟩
    · exact .refl _ _
    · exact hcreated.keeps

/-- A settlement leaves the events alone and removes no row. -/
theorem keeps_of_claimAfter {cfg : Payments.Config} {dto : ParametricPayoutDto}
    {key : PayoutIdempotencyKey} {row : Payout} (h : ClaimAfter cfg dto db db' key row) (now : ℤ) :
    Keeps now db db' := by
  have hevents := h.others.parties.disruptionEvents
  refine ⟨fun id e he => by rwa [hevents], fun p d hr => ?_, ?_⟩
  · by_cases hclaim : p = dto.policyId ∧ d = dto.disruptionEventId
    · rw [hclaim.1, hclaim.2, h.row]
      rfl
    · rw [h.others.rowOf hclaim]
      exact hr
  · rintro type e ⟨f, hf, hfe⟩
    refine ⟨f, ?_, hfe⟩
    rw [latestEvent, hevents]
    exact hf

end Keeps

/-! ## One call -/

section Step

variable {cfg : Config} {io : ProcessIo} {params : ProcessPayoutParams}

/-- What a settlement adds: transfers for a claim that then has a row, at most one if the
gateway says what it executes. -/
structure Adds (io : Payments.Io) (dto : ParametricPayoutDto) (w w' : World)
    (executed : List Transfer) : Prop where
  transfers : w'.transfers = w.transfers ++ executed
  own : ∀ t ∈ executed, OwnTransfer dto t
  atMostOne : (∀ r ∈ io.payout, Sound r) → executed.length ≤ 1
  row : executed ≠ [] → (rowOf w'.db dto.policyId dto.disruptionEventId).isSome = true
  events : w'.db.disruptionEvents = w.db.disruptionEvents
  keeps : ∀ now, Keeps now w.db w'.db

theorem railSpec_length {io : Payments.Io} {dto : ParametricPayoutDto}
    {result : Except Exn Gateway.RazorpayPayout} {executed : List Transfer}
    (h : RailSpec io dto result executed) (hsound : ∀ r ∈ io.payout, Sound r) :
    executed.length ≤ 1 := by
  rcases h.sound hsound with ⟨rfl, -⟩ | ⟨p, t, -, rfl⟩
  · exact Nat.zero_le 1
  · exact le_rfl

theorem exists_adds (cfg : Payments.Config) (io : Payments.Io) (dto : ParametricPayoutDto)
    (w : World) : ∃ executed, Adds io dto w (processParametricPayout cfg io dto w).2 executed := by
  have hcases := processParametricPayout_cases cfg io dto w
  generalize (processParametricPayout cfg io dto w).1 = result at hcases
  generalize (processParametricPayout cfg io dto w).2 = w' at hcases ⊢
  cases hcases with
  | refused e => exact ⟨[], by simp, by simp, by simp, by simp, rfl,
      fun now => .refl now _⟩
  | cached k owner found success => exact ⟨[], by simp, by simp, by simp, by simp, rfl,
      fun now => .refl now _⟩
  | settled p executed db' admitted rail after =>
      refine ⟨executed, rfl, rail.own, railSpec_length rail, fun _ => ?_,
        after.others.parties.disruptionEvents, keeps_of_claimAfter after⟩
      rw [after.row]
      rfl
  | failed e railResult executed db' admitted rail cause after =>
      refine ⟨executed, rfl, rail.own, railSpec_length rail, fun _ => ?_,
        after.others.parties.disruptionEvents, keeps_of_claimAfter after⟩
      rw [after.row]
      rfl

theorem settleOrQueue_world (policy : Policy) (dto : ParametricPayoutDto) (s : System) :
    (settleOrQueue cfg io params policy dto s).2.toWorld =
      (processParametricPayout cfg.toConfig io.settle dto s.toWorld).2 := by
  rw [settleOrQueue]
  split
  · rename_i h
    rw [h]
  · rename_i h
    rw [h]

/-- What an entry of the log says of a settlement. -/
structure EntryFor (params : ProcessPayoutParams) (now : ℤ) (policy : Policy)
    (disruption : DisruptionEvent) (y : Executed) : Prop where
  policyId : y.transfer.policyId = policy.id
  disruptionEventId : y.transfer.disruptionEventId = disruption.id
  type : y.type = eventType params
  time : y.time = now

theorem Adds.entryFor {policy : Policy} {h3Cell : String} {disruption : DisruptionEvent}
    {w w' : World} {executed : List Transfer}
    (h : Adds io.settle (settlementOf io params policy h3Cell disruption) w w' executed)
    {y : Executed}
    (hy : y ∈ executed.map (executedIn (io, params))) :
    EntryFor params io.now policy disruption y ∧
      (rowOf w'.db policy.id disruption.id).isSome = true := by
  obtain ⟨t, ht, rfl⟩ := List.mem_map.mp hy
  have hown := h.own t ht
  exact ⟨⟨hown.policyId, hown.disruptionEventId, rfl, rfl⟩, h.row (List.ne_nil_of_mem ht)⟩

theorem Adds.pairwise {io : Payments.Io} {dto : ParametricPayoutDto} {w w' : World}
    {executed : List Transfer} (h : Adds io dto w w' executed)
    (hsound : ∀ r ∈ io.payout, Sound r) (f : Transfer → Executed) (R : Executed → Executed → Prop) :
    (executed.map f).Pairwise R := by
  have hlength := h.atMostOne hsound
  cases executed with
  | nil => exact .nil
  | cons t rest =>
      have hrest : rest = [] := List.length_eq_zero_iff.mp (by simpa using hlength)
      rw [hrest]
      exact List.pairwise_singleton _ _

variable {j : Journal} {policy : Policy} {h3Cell : String} {disruption : DisruptionEvent} {db : Db}

/-- Nothing is executed, and what was on record stays so. -/
theorem Spaced.unmoved (h : Spaced io.now j.db j.log)
    (hprocess : (processPayout cfg io params j.toSystem).2 = { j.toSystem with db })
    (hevents : EventStep io params j.db db) :
    Spaced io.now (payCall cfg j (io, params)).db (payCall cfg j (io, params)).log := by
  have hsame : payCall cfg j (io, params) = ⟨{ j.toSystem with db }, j.log⟩ := by
    simp only [payCall, hprocess, List.drop_length, List.map_nil, List.append_nil]
  rw [hsame]
  exact h.keeps hevents.keeps

/-- A transfer for the event just identified comes after the windows of its rivals' events. -/
theorem Placed.apart {x y : Executed} {e : DisruptionEvent} (h : Placed io.now db x e)
    (hlatest : latestEvent x.type db = some disruption)
    (hfree : rowOf db x.transfer.policyId disruption.id = none)
    (hy : Within db y disruption) (hnow : io.now = y.time) : Apart db x y := by
  obtain ⟨f, hf, hfe⟩ := h.upToDate
  cases hlatest.symm.trans hf
  rcases hfe with rfl | ⟨hlater, htime⟩
  · -- the event of `x` is the one just identified, so `x` has its row
    have hkey := Table.key_of_findUnique h.event
    simp only [DisruptionEvent.keys, List.mem_singleton] at hkey
    have hrow := h.row
    rw [hkey, hfree] at hrow
    cases hrow
  · exact ⟨e, disruption, h.toWithin, hy, hlater, hnow ▸ htime⟩

theorem Spaced.handed (h : Spaced io.now j.db j.log)
    (hi : Identified cfg io params j.toSystem policy h3Cell disruption db)
    (hfree : rowOf db policy.id disruption.id = none) (hsound : ∀ r ∈ io.settle.payout, Sound r) :
    Spaced io.now (payCall cfg j (io, params)).db (payCall cfg j (io, params)).log := by
  obtain ⟨hlatest, hopen⟩ := findOrCreateEvent_latest hi.event
  have hspec := latestEvent_spec hlatest
  have hold : Spaced io.now db j.log := h.keeps (EventStep.keeps (.inr ⟨_, hi.event⟩))
  obtain ⟨executed, hadds⟩ := exists_adds cfg.toConfig io.settle
    (settlementOf io params policy h3Cell disruption) { j.toSystem with db }.toWorld
  have hworld : (processPayout cfg io params j.toSystem).2.toWorld =
      (processParametricPayout cfg.toConfig io.settle
        (settlementOf io params policy h3Cell disruption) { j.toSystem with db }.toWorld).2 := by
    rw [processPayout_handed hi hfree, settleOrQueue_world]
  rw [← hworld] at hadds
  have hlog : (payCall cfg j (io, params)).log =
      j.log ++ executed.map (executedIn (io, params)) := by
    simp only [payCall, hadds.transfers, List.drop_left]
  have hdb : (payCall cfg j (io, params)).db = (processPayout cfg io params j.toSystem).2.db := rfl
  rw [hlog, hdb]
  have hkept := hold.keeps (hadds.keeps io.now)
  have hwithin : ∀ y, EntryFor params io.now policy disruption y → Within db y disruption := by
    intro y hy
    refine ⟨?_, hspec.2.trans hy.type.symm, hy.time ▸ hopen⟩
    rw [eventOf, hy.disruptionEventId]
    exact hspec.1
  refine ⟨fun y hy => ?_, List.pairwise_append.mpr ⟨hkept.apart, hadds.pairwise hsound _ _, ?_⟩⟩
  · rcases List.mem_append.mp hy with hy | hy
    · exact hkept.placed y hy
    · obtain ⟨hentry, hrow⟩ := hadds.entryFor hy
      refine ⟨disruption, (hwithin y hentry).keeps (hadds.keeps io.now), ?_,
        (hadds.keeps io.now).upToDate _ _ ⟨disruption, ?_, .inl rfl⟩⟩
      · rw [hentry.policyId, hentry.disruptionEventId]
        exact hrow
      · rw [hentry.type]
        exact hlatest
  · rintro x hx y hy ⟨hpolicy, htype⟩
    obtain ⟨hentry, -⟩ := hadds.entryFor hy
    obtain ⟨e, he⟩ := hold.placed x hx
    have hapart : Apart db x y :=
      he.apart (by rw [htype, hentry.type, hlatest]) (by rw [hpolicy, hentry.policyId, hfree])
        (hwithin y hentry) hentry.time.symm
    exact hapart.keeps (hadds.keeps io.now)

/-- Every call keeps the transfers spaced. -/
theorem Spaced.call (h : Spaced io.now j.db j.log)
    (hsound : ∀ r ∈ io.settle.payout, Sound r) :
    Spaced io.now (payCall cfg j (io, params)).db (payCall cfg j (io, params)).log := by
  have hcases := processPayout_cases cfg io params j.toSystem
  generalize hresult : (processPayout cfg io params j.toSystem).1 = result at hcases
  generalize hstate : (processPayout cfg io params j.toSystem).2 = s' at hcases
  cases hcases with
  | refused e db hevents hstopped => exact h.unmoved hstate hevents
  | existing policy h3Cell disruption db row hi hrow =>
      exact h.unmoved hstate (.inr ⟨disruption, hi.event⟩)
  | handed policy h3Cell disruption db hi hfree => exact h.handed hi hfree hsound

end Step

/-! ## Runs of calls -/

section Runs

variable {cfg : Config} {j : Journal} {calls : List PayoutCall} {now : ℤ}

/-- The calls come in the order of their clocks. -/
def InOrder (calls : List PayoutCall) : Prop := calls.Pairwise fun c d => c.1.now ≤ d.1.now

variable (cfg) in
theorem Spaced.run (h : Spaced now j.db j.log) (hlater : ∀ c ∈ calls, now ≤ c.1.now)
    (horder : InOrder calls) (hsound : ∀ c ∈ calls, ∀ r ∈ c.1.settle.payout, Sound r) :
    ∃ now', Spaced now' (Run.final (payCall cfg) j calls).db
      (Run.final (payCall cfg) j calls).log := by
  induction calls generalizing j now with
  | nil => exact ⟨now, h⟩
  | cons c calls ih =>
      obtain ⟨hafter, horder⟩ := List.pairwise_cons.mp horder
      have hstep : Spaced c.1.now (payCall cfg j c).db (payCall cfg j c).log :=
        (h.later (hlater c (by simp))).call (hsound c (by simp))
      exact ih hstep hafter horder fun d hd => hsound d (by simp [hd])

/-- A third rival comes more than an hour after the first. -/
theorem Apart.third {db : Db} {x y z : Executed} (h : Apart db x y) (h' : Apart db y z) :
    x.time + HOUR < z.time := by
  obtain ⟨e, f, he, hf, hlater, -⟩ := h
  obtain ⟨f', g, hf', -, hlater', htime⟩ := h'
  cases hf.event.symm.trans hf'.event
  have hwindow := he.inWindow
  omega

theorem processPayout_transfers (cfg : Config) (io : ProcessIo) (params : ProcessPayoutParams)
    (s : System) : s.transfers <+: (processPayout cfg io params s).2.transfers := by
  have hcases := processPayout_cases cfg io params s
  generalize (processPayout cfg io params s).1 = result at hcases
  generalize (processPayout cfg io params s).2 = s' at hcases ⊢
  cases hcases with
  | refused e db hevents hstopped => exact List.prefix_rfl
  | existing policy h3Cell disruption db row hi hrow => exact List.prefix_rfl
  | handed policy h3Cell disruption db hi hfree =>
      obtain ⟨executed, htransfers, -⟩ := exists_executed cfg.toConfig io.settle
        (settlementOf io params policy h3Cell disruption) { s with db }.toWorld
      rw [settleOrQueue_world, htransfers]
      exact List.prefix_append _ _

/-- The log holds the transfers of the run, in order. -/
theorem transfers_run (cfg : Config) (j : Journal) (calls : List PayoutCall) :
    ∃ added, (Run.final (payCall cfg) j calls).log = j.log ++ added ∧
      (Run.final (payCall cfg) j calls).transfers =
        j.transfers ++ added.map Executed.transfer := by
  induction calls generalizing j with
  | nil => exact ⟨[], by simp, by simp⟩
  | cons c calls ih =>
      obtain ⟨added, hlog, htransfers⟩ := ih (payCall cfg j c)
      have hprefix := List.prefix_iff_eq_append.mp
        (processPayout_transfers cfg c.1 c.2 j.toSystem)
      refine ⟨_, by rw [Run.final_cons, hlog, payCall, List.append_assoc], ?_⟩
      rw [Run.final_cons, htransfers, List.map_append, List.map_map, ← List.append_assoc]
      congr 1
      have hself : Executed.transfer ∘ executedIn c = id := rfl
      rw [hself, List.map_id, hprefix]
      rfl

/-- Rival transfers are for different events more than an hour apart, each made within the hour
of its event, and a third rival comes more than an hour after the first. -/
theorem rivals_apart (cfg : Config) (s : System) (calls : List PayoutCall)
    (horder : InOrder calls) (hsound : ∀ c ∈ calls, ∀ r ∈ c.1.settle.payout, Sound r) :
    ((Run.final (payCall cfg) ⟨s, []⟩ calls).log.Pairwise fun x y =>
        Rivals x y → Apart (Run.final (payCall cfg) ⟨s, []⟩ calls).db x y) ∧
      ∀ x y z, List.Sublist [x, y, z] (Run.final (payCall cfg) ⟨s, []⟩ calls).log →
        Rivals x y → Rivals y z → x.time + HOUR < z.time := by
  obtain ⟨now, hnow⟩ : ∃ now, ∀ c ∈ calls, now ≤ c.1.now := by
    cases calls with
    | nil => exact ⟨0, by simp⟩
    | cons c calls =>
        refine ⟨c.1.now, fun d hd => ?_⟩
        rcases List.mem_cons.mp hd with rfl | hd
        · exact le_rfl
        · exact (List.pairwise_cons.mp horder).1 d hd
  have hstart : Spaced now (⟨s, []⟩ : Journal).db (⟨s, []⟩ : Journal).log := ⟨by simp, .nil⟩
  obtain ⟨now', hspaced⟩ := hstart.run cfg hnow horder hsound
  refine ⟨hspaced.apart, fun x y z hsub hxy hyz => ?_⟩
  have hthree := hspaced.apart.sublist hsub
  simp only [List.pairwise_cons, List.mem_cons, List.not_mem_nil, or_false] at hthree
  exact (hthree.1 y (.inl rfl) hxy).third (hthree.2.1 z rfl hyz)

end Runs

/-- Any two rival transfers are at least an hour apart. -/
def HourApart (log : List Executed) : Prop :=
  log.Pairwise fun x y => Rivals x y → x.time + HOUR ≤ y.time

/-- Every operation of the call succeeds. -/
structure AllSucceed (io : ProcessIo) : Prop where
  readPolicy : io.readPolicy = true
  readEligibility : io.readEligibility = true
  redisUp : io.redisUp = true
  readEvent : io.readEvent = true
  createEvent : io.createEvent = true
  readPayout : io.readPayout = true
  redisPush : io.redisPush = true
  settle : Faultless io.settle

/-! ## A window that closes between two calls -/

namespace Closing

open Payments.Sample Payouts Payouts.Ungated Payouts.Priced

/-- An event of the type, 59 minutes before noon. -/
def opened : System where
  toWorld := { halted.toWorld with
    db := { halted.db with
      disruptionEvents := .singleton
        { event with type := "ELITE_PARAMETRIC_TRIGGER", occurredAt := 3660000 } } }
  redis := halted.redis

def ioAt (now : ℤ) (n : ℕ) : ProcessIo :=
  { callIo.process ⟨now, true⟩ with
    settle := { io with
      payoutId := "po" ++ toString n
      claimCaseId := "cc" ++ toString n
      payout := [.answered ⟨"pout_" ++ toString n, none⟩] } }

def params : ProcessPayoutParams := { driverId := "u1", payoutAmount := some 400 }

/-- Calls at noon and two minutes later. -/
def calls : List PayoutCall := [(ioAt 7200000 1, params), (ioAt 7320000 2, params)]

theorem allSucceed (now : ℤ) (n : ℕ) : AllSucceed (ioAt now n) where
  readPolicy := rfl
  readEligibility := rfl
  redisUp := rfl
  readEvent := rfl
  createEvent := rfl
  readPayout := rfl
  redisPush := rfl
  settle := ⟨rfl, rfl, rfl, ⟨_, rfl⟩, ⟨_, rfl⟩, ⟨_, rfl⟩, rfl, rfl, rfl, rfl⟩

theorem calls_allSucceed : ∀ c ∈ calls, AllSucceed c.1 := by
  intro c hc
  simp only [calls, List.mem_cons, List.not_mem_nil, or_false] at hc
  rcases hc with rfl | rfl
  · exact allSucceed _ _
  · exact allSucceed _ _

theorem calls_inOrder : InOrder calls := by
  rw [InOrder]
  decide

end Closing

open Closing Payouts.Ungated in
theorem rivals_apart_closing :
    ((Run.final (payCall config) ⟨opened, []⟩ calls).log.Pairwise fun x y =>
        Rivals x y → Apart (Run.final (payCall config) ⟨opened, []⟩ calls).db x y) ∧
      ∀ x y z, List.Sublist [x, y, z] (Run.final (payCall config) ⟨opened, []⟩ calls).log →
        Rivals x y → Rivals y z → x.time + HOUR < z.time :=
  rivals_apart config opened calls calls_inOrder fun c hc =>
    (calls_allSucceed c hc).settle.undisturbed.answered

open Closing Payouts.Ungated in
/-- The window of the first event closes, and the policy is paid again two minutes later. -/
theorem not_hourApart :
    InOrder calls ∧ (∀ c ∈ calls, AllSucceed c.1) ∧
      ¬HourApart (Run.final (payCall config) ⟨opened, []⟩ calls).log := by
  refine ⟨calls_inOrder, calls_allSucceed, ?_⟩
  rw [HourApart]
  decide

end Aegis.PayoutService
