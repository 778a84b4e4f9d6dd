import Aegis.Verification.Payouts.Authorisation

/-! # What one payout call does

Every case of `processPayout`: refused, answered from the ledger, or handed to the
settlement. -/

namespace Aegis.PayoutService

open Outcome RedisState Payments

variable (cfg : Config) (io : ProcessIo) (params : ProcessPayoutParams) (s : System)

/-- The gates are passed, the event is found or created, and the ledger can be read. -/
structure Identified (policy : Policy) (h3Cell : String) (disruption : DisruptionEvent)
    (db : Db) : Prop where
  gates : checkGates cfg io params s = .ok (policy, h3Cell)
  event : findOrCreateEvent io params s.db = .ok (disruption, db)
  read : io.readPayout = true

/-- The events stay as they are, or the event of the call is found or created. -/
def EventStep (db db' : Db) : Prop :=
  db' = db ∨ ∃ disruption, findOrCreateEvent io params db = .ok (disruption, db')

inductive ProcessCases : Except Exn ProcessPayoutResult → System → Prop where
  | refused (e : Exn) (db : Db) (events : EventStep io params s.db db)
      (stopped : ∀ policy h3Cell disruption db,
        ¬Identified cfg io params s policy h3Cell disruption db) :
      ProcessCases (.error e) { s with db }
  | existing (policy : Policy) (h3Cell : String) (disruption : DisruptionEvent) (db : Db)
      (row : Payout) (identified : Identified cfg io params s policy h3Cell disruption db)
      (found : rowOf db policy.id disruption.id = some row) :
      ProcessCases (.ok (.existing row.id row.transactionId (params.payoutAmount.getD 0)
        (row.approvedPayout.getD 0))) { s with db }
  | handed (policy : Policy) (h3Cell : String) (disruption : DisruptionEvent) (db : Db)
      (identified : Identified cfg io params s policy h3Cell disruption db)
      (free : rowOf db policy.id disruption.id = none) :
      ProcessCases
        (.ok (settleOrQueue cfg io params policy (settlementOf io params policy h3Cell disruption)
          { s with db }).1)
        (settleOrQueue cfg io params policy (settlementOf io params policy h3Cell disruption)
          { s with db }).2

variable {cfg io params s}

theorem Identified.unique {policy policy' : Policy} {h3Cell h3Cell' : String}
    {disruption disruption' : DisruptionEvent} {db db' : Db}
    (h : Identified cfg io params s policy h3Cell disruption db)
    (h' : Identified cfg io params s policy' h3Cell' disruption' db') :
    policy = policy' ∧ h3Cell = h3Cell' ∧ disruption = disruption' ∧ db = db' := by
  have hgates := h.gates.symm.trans h'.gates
  have hevent := h.event.symm.trans h'.event
  simp only [Except.ok.injEq, Prod.mk.injEq] at hgates hevent
  exact ⟨hgates.1, hgates.2, hevent.1, hevent.2⟩

/-- The event is of the type asked for, recent, and on record afterwards. -/
theorem findOrCreateEvent_spec {disruption : DisruptionEvent} {db db' : Db}
    (h : findOrCreateEvent io params db = .ok (disruption, db')) :
    (∃ disruptionEvents, db' = { db with disruptionEvents }) ∧
      disruption ∈ db'.disruptionEvents.rows := by
  obtain ⟨_, -, h⟩ := bind_eq_ok.mp h
  split at h
  · rename_i hfound
    cases h
    exact ⟨⟨_, rfl⟩, (Table.findFirstDesc_eq_some hfound).1⟩
  · obtain ⟨_, -, h⟩ := bind_eq_ok.mp h
    obtain ⟨disruptionEvents, hcreate, h⟩ := bind_eq_ok.mp h
    cases h
    exact ⟨⟨_, rfl⟩, (Table.mem_create (orThrow_eq_ok.mp hcreate)).mpr (.inr rfl)⟩

theorem EventStep.frame {db db' : Db} (h : EventStep io params db db') :
    ∃ disruptionEvents, db' = { db with disruptionEvents } := by
  rcases h with rfl | ⟨disruption, h⟩
  · exact ⟨_, rfl⟩
  · exact (findOrCreateEvent_spec h).1

variable (cfg io params s)

theorem processPayout_cases :
    ProcessCases cfg io params s (processPayout cfg io params s).1
      (processPayout cfg io params s).2 := by
  unfold processPayout
  split
  · rename_i e hgates
    refine .refused e s.db (.inl rfl) ?_
    intro policy h3Cell disruption db h
    cases hgates.symm.trans h.gates
  · rename_i policy h3Cell hgates
    split
    · rename_i e hevent
      refine .refused e s.db (.inl rfl) ?_
      intro policy' h3Cell' disruption db h
      cases hevent.symm.trans h.event
    · rename_i disruption db hevent
      dsimp only
      split
      · rename_i hread
        have hidentified : Identified cfg io params s policy h3Cell disruption db :=
          ⟨hgates, hevent, hread⟩
        split
        · rename_i row hrow
          exact .existing policy h3Cell disruption db row hidentified hrow
        · rename_i hrow
          exact .handed policy h3Cell disruption db hidentified hrow
      · rename_i hread
        refine .refused storeDown db (.inr ⟨disruption, hevent⟩) ?_
        intro policy' h3Cell' disruption' db' h
        exact hread h.read

variable {cfg io params s}

theorem processPayout_existing {policy : Policy} {h3Cell : String} {disruption : DisruptionEvent}
    {db : Db} {row : Payout} (h : Identified cfg io params s policy h3Cell disruption db)
    (hrow : rowOf db policy.id disruption.id = some row) :
    processPayout cfg io params s =
      (.ok (.existing row.id row.transactionId (params.payoutAmount.getD 0)
        (row.approvedPayout.getD 0)), { s with db }) := by
  have hfind : db.payouts.findUnique (.policyId_disruptionEventId policy.id disruption.id) =
      some row := hrow
  simp only [processPayout, h.gates, h.event, h.read, if_true, hfind]

theorem processPayout_handed {policy : Policy} {h3Cell : String} {disruption : DisruptionEvent}
    {db : Db} (h : Identified cfg io params s policy h3Cell disruption db)
    (hrow : rowOf db policy.id disruption.id = none) :
    processPayout cfg io params s =
      (.ok (settleOrQueue cfg io params policy (settlementOf io params policy h3Cell disruption)
          { s with db }).1,
        (settleOrQueue cfg io params policy (settlementOf io params policy h3Cell disruption)
          { s with db }).2) := by
  have hfind : db.payouts.findUnique (.policyId_disruptionEventId policy.id disruption.id) =
      none := hrow
  simp only [processPayout, h.gates, h.event, h.read, if_true, hfind]

/-- The driver owns the policy that passed the gates. -/
theorem Identified.owner {policy : Policy} {h3Cell : String} {disruption : DisruptionEvent}
    {db : Db} (h : Identified cfg io params s policy h3Cell disruption db) :
    OwnsPolicy (settlementOf io params policy h3Cell disruption) db := by
  have hauthorised : Payouts.Authorised cfg ⟨io.now, io.redisUp⟩ s
      (settlementOf io params policy h3Cell disruption) := Payouts.checkGates_authorised h.gates
  obtain ⟨policy', hauthorised⟩ := hauthorised
  obtain ⟨⟨disruptionEvents, rfl⟩, -⟩ := findOrCreateEvent_spec h.event
  exact ⟨policy', hauthorised.found, hauthorised.owner⟩

/-! ## The settlement asked for -/

/-- The operations of a payout call as those of a request. -/
def ProcessIo.toCallIo (io : ProcessIo) : Payouts.CallIo where
  readPolicy := io.readPolicy
  readEligibility := io.readEligibility
  readEvent := io.readEvent
  eventId := io.eventId
  createEvent := io.createEvent
  readPayout := io.readPayout
  readClaim := true
  redisPush := io.redisPush
  createDlq := true
  settle := io.settle

/-- What the call hands to `processParametricPayout`, if it gets there. -/
def settlementAsked (cfg : Config) (io : ProcessIo) (params : ProcessPayoutParams) (s : System) :
    Option ParametricPayoutDto :=
  (Payouts.settlesProcess cfg ⟨io.now, io.redisUp⟩ io.toCallIo s params).map Prod.fst

theorem settlementAsked_eq_some {dto : ParametricPayoutDto}
    (h : settlementAsked cfg io params s = some dto) :
    ∃ policy h3Cell disruption db, Identified cfg io params s policy h3Cell disruption db ∧
      rowOf db policy.id disruption.id = none ∧
      dto = settlementOf io params policy h3Cell disruption := by
  obtain ⟨⟨dto', s'⟩, hsettles, rfl⟩ := Option.map_eq_some_iff.mp h
  rw [Payouts.settlesProcess] at hsettles
  split at hsettles
  · cases hsettles
  · rename_i policy h3Cell hgates
    split at hsettles
    · cases hsettles
    · rename_i disruption db hevent
      split at hsettles
      · rename_i hfree
        cases hsettles
        exact ⟨policy, h3Cell, disruption, db, ⟨hgates, hevent, hfree.1⟩, hfree.2, rfl⟩
      · cases hsettles

end Aegis.PayoutService
