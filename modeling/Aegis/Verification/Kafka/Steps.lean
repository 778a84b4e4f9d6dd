import Aegis.Library.Run
import Aegis.Model.Orders
import Aegis.Model.Payout
import Aegis.Model.ReliableProducer

/-! # Everything that touches the producer's state

Besides the producer and its jobs, two other services write rows of `kafka_dlq`: a payment
whose policy could not be created, and a payout whose retries are used up. -/

namespace Aegis.Kafka

section Steps

variable {P : Type}

/-- A row as another service writes it, `json` being the value of its payload. -/
def recorded (json : DlqPayload → P) (io : CreateIo) (d : KafkaDLQ) : DlqEntry P where
  id := io.id
  topic := d.topic
  eventKey := d.eventKey
  payload := .value (json d.payload)
  error := d.error
  retryCount := d.retryCount
  status := d.status
  createdAt := io.now

inductive Op (P : Type) where
  | start (connected : Bool)
  | stop
  | emit (io : EmitIo) (event : Event P)
  | publishToDlqTopic (fields : DlqFields P) (io : PublishIo) (originalPayload : P)
      (reason : String)
  | pushToDlq (io : CreateIo) (entry : DlqData P)
  | drain (io : DrainQueueIo)
  | replay (io : ReplayPendingIo)
  | markDead (update : Reply) (id : String)
  | policyFailed (io : CreateIo) (userId : String) (dto : Payments.VerifyPaymentDto)
      (order : RazorpayOrder) (plan : WeeklyPlan) (e : Exn)
  | retriesExhausted (io : CreateIo) (entry : PayoutRetry) (attempts : ℕ) (e : Exn)

variable (json : DlqPayload → P)

def step (s : State P) : Op P → State P
  | .start connected => onModuleInit connected s
  | .stop => onModuleDestroy s
  | .emit io event => (emit io event s).2
  | .publishToDlqTopic fields io originalPayload reason =>
      publishToDlqTopic fields io originalPayload reason s
  | .pushToDlq io entry => pushToDlq io entry s
  | .drain io => drainQueue io s
  | .replay io => replayPending io s
  | .markDead update id => markDead update id s
  | .policyFailed io userId dto order plan e =>
      createRow io.create (recorded json io (Payments.policyFailure userId dto order plan e)) s
  | .retriesExhausted io entry attempts e =>
      createRow io.create (recorded json io (PayoutService.deadLetter entry attempts e)) s

end Steps

/-! ## What the parts do to the state -/

section Parts

variable {P : Type}

theorem emitRaw_of_initialised {s : State P} (hs : s.initialised = true) (send : Reply)
    (event : Event P) :
    emitRaw send event s =
      (if send.returned then .ok () else .error sendFailed, { s with
        delivered := if send.effective then s.delivered ++ [event] else s.delivered
        kafkaAvailable := send.returned || s.kafkaAvailable }) := by
  rw [emitRaw, if_pos hs]
  cases send with
  | ok => rfl
  | error effective => cases effective <;> rfl

theorem emitRaw_of_not_initialised {s : State P} (hs : s.initialised = false) (send : Reply)
    (event : Event P) : emitRaw send event s = (.error (.error "Producer not initialised"), s) := by
  simp [emitRaw, hs]

/-- What sending a message leaves alone. -/
theorem emitRaw_frame (send : Reply) (event : Event P) (s : State P) :
    ∃ delivered kafkaAvailable,
      (emitRaw send event s).2 = { s with delivered, kafkaAvailable } := by
  cases hs : s.initialised with
  | false =>
      rw [emitRaw_of_not_initialised hs]
      exact ⟨s.delivered, s.kafkaAvailable, by rw [← hs]⟩
  | true =>
      rw [emitRaw_of_initialised hs]
      exact ⟨_, _, by rw [← hs]⟩

/-- A row that is written is new. -/
theorem createRow_cases (create : Reply) (row : DlqEntry P) (s : State P) :
    createRow create row s = s ∨ ∃ kafkaDLQ, s.kafkaDLQ.create row = some kafkaDLQ ∧
      createRow create row s = { s with kafkaDLQ } := by
  unfold createRow
  split
  swap
  · exact .inl rfl
  cases hrow : s.kafkaDLQ.create row with
  | none => exact .inl rfl
  | some kafkaDLQ => exact .inr ⟨kafkaDLQ, rfl, rfl⟩

/-! ### Rules for what the drain keeps -/

section Keeps

variable {I : State P → Prop} {topic : String}

/-- What the parts of a turn keep, a turn keeps. -/
theorem drainTurn_keeps (hsend : ∀ r event s, I s → I (emitRaw r event s).2)
    (hpush : ∀ r raw s, I s → I (lPush r topic raw s).2) (hpop : ∀ r s, I s → I (rPop r topic s).2)
    (hlog : ∀ e s, I s → I { s with drained := s.drained ++ [(topic, e)] })
    (io : DrainIo) (turn : ℕ) {c : ℕ × State P} (hc : I c.2) :
    I (drainTurn io topic turn c).state.2 := by
  obtain ⟨processed, s⟩ := c
  have hpopped := hpop (io.rPop turn) s hc
  rw [drainTurn]
  by_cases hbatch : processed < DRAIN_BATCH_SIZE
  swap
  · rw [if_neg hbatch]
    exact hc
  rw [if_pos hbatch]
  rcases hraw : rPop (io.rPop turn) topic s with ⟨raw, s₁⟩
  rw [hraw] at hpopped
  rcases raw with _ | raw
  · exact hpopped
  cases raw with
  | corrupt text =>
      dsimp only
      split <;> exact hpopped
  | entry e =>
      have hsent := hsend (io.send processed) e.toEvent s₁ hpopped
      dsimp only
      rcases hresult : emitRaw (io.send processed) e.toEvent s₁ with ⟨result, s₂⟩
      rw [hresult] at hsent
      cases result with
      | ok _ => exact hlog e s₂ hsent
      | error _ => exact hpush io.lPush (.entry e) s₂ hsent

theorem drainTopic_keeps (hturn : ∀ (io : DrainIo) turn (c : ℕ × State P), I c.2 →
    I (drainTurn io topic turn c).state.2) (io : DrainIo) {s : State P} (hs : I s) :
    I (drainTopic io topic s).2 :=
  Loop.run_preserves (fun c => I c.2) (fun turn _ c hc => hturn io turn c hc) hs

theorem drainQueue_keeps (hredis : ∀ s, I s → I { s with redisClient := true })
    (htopic : ∀ (io : DrainIo) topic s, I s → I (drainTopic io topic s).2) (io : DrainQueueIo)
    {s : State P} (hs : I s) : I (drainQueue io s) := by
  unfold drainQueue
  cases s.initialised with
  | false => exact hs
  | true =>
      rw [if_pos rfl]
      cases hconnected : s.redisClient || io.connect with
      | false => simpa [getRedis, hconnected] using hs
      | true =>
          simp only [getRedis, hconnected, if_true]
          cases io.keys with
          | none => exact hredis s hs
          | some keys =>
              refine Loop.run_preserves I (fun topic _ s hs => ?_) (hredis s hs)
              exact htopic (io.topic topic) topic s hs

end Keeps

end Parts

end Aegis.Kafka
