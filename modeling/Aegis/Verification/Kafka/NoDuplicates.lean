import Aegis.Verification.Kafka.DeadLetters

/-! # Nothing is invented, and nothing is doubled

Whatever fails, the broker has only what it was sent. Where no call takes effect and then reports a
failure, an event is in no more places than it was handed in. -/

namespace Aegis.Kafka

open Payments (storeDown)

/-- The service, and the events that it was handed: emitted, published for the topic of the dead
letters with the payload wrapped, pushed, or recorded by another service. -/
structure Handed (P : Type) where
  service : State P := {}
  events : List (Event P) := []

section Law

variable {P : Type} (json : DlqPayload → P)

def handedBy : Op P → List (Event P)
  | .emit _ event => [event]
  | .publishToDlqTopic fields io originalPayload reason =>
      [dlqEvent fields io originalPayload reason]
  | .pushToDlq io entry => (pending io entry).event?.toList
  | .policyFailed io userId dto order plan e =>
      (recorded json io (Payments.policyFailure userId dto order plan e)).event?.toList
  | .retriesExhausted io entry attempts e =>
      (recorded json io (PayoutService.deadLetter entry attempts e)).event?.toList
  | .start _ | .stop | .drain _ | .replay _ | .markDead _ _ => []

def handedStep (c : Handed P) (op : Op P) : Handed P :=
  ⟨step json c.service op, c.events ++ handedBy json op⟩

/-- Whatever is anywhere was handed in, and a list has events of its own topic only. -/
structure Known (events : List (Event P)) (s : State P) : Prop where
  delivered : ∀ e ∈ s.delivered, e ∈ events
  queues : ∀ topic, ∀ raw ∈ s.queues topic, ∀ e, raw.event? = some e → e ∈ events ∧ e.topic = topic
  rows : ∀ r ∈ s.kafkaDLQ.rows, ∀ e, r.event? = some e → e ∈ events

/-- No event is in more places than it was handed in. -/
def Once [DecidableEq P] (c : Handed P) : Prop := ∀ e, places e c.service ≤ c.events.count e

/-- The call that sends is not answered with a failure after it took effect, and what it has sent is
noted. -/
def Noted (io : ReplayIo) : Prop :=
  io.reply .send ≠ .error true ∧
    (io.reply .send = .ok → io.reply .close = .ok ∧ io.crash ≠ some .send)

def Definite : Op P → Prop
  | .emit io _ => io.send ≠ .error true ∧ io.push.lPush ≠ .error true
  | .publishToDlqTopic _ io _ _ => io.send ≠ .error true
  | .drain io => ∀ topic processed, (io.topic topic).send processed ≠ .error true
  | .replay io => ∀ id, Noted (io.entry id)
  | _ => True

end Law

theorem Reply.effective_eq_returned {r : Reply} (h : r ≠ .error true) :
    r.effective = r.returned := by
  cases r with
  | ok => rfl
  | error effective =>
      cases effective with
      | false => rfl
      | true => exact absurd rfl h

/-! ## Nothing is invented -/

section Known

variable {P : Type} {events : List (Event P)} {s : State P}

theorem Known.mono (h : Known events s) (more : List (Event P)) : Known (events ++ more) s where
  delivered e he := List.mem_append_left more (h.delivered e he)
  queues topic raw hraw e he :=
    ⟨List.mem_append_left more (h.queues topic raw hraw e he).1, (h.queues topic raw hraw e he).2⟩
  rows r hr e he := List.mem_append_left more (h.rows r hr e he)

/-- A change that adds nothing. -/
theorem Known.of_subset {s' : State P} (h : Known events s)
    (hdelivered : ∀ e ∈ s'.delivered, e ∈ s.delivered)
    (hqueues : ∀ topic, ∀ raw ∈ s'.queues topic, raw ∈ s.queues topic)
    (hrows : s'.kafkaDLQ.rows.map core = s.kafkaDLQ.rows.map core) : Known events s' where
  delivered e he := h.delivered e (hdelivered e he)
  queues topic raw hraw := h.queues topic raw (hqueues topic raw hraw)
  rows r hr e he := by
    have hmem : core r ∈ s.kafkaDLQ.rows.map core := hrows ▸ List.mem_map_of_mem hr
    obtain ⟨r', hr', hcore⟩ := List.mem_map.mp hmem
    exact h.rows r' hr' e ((congrArg Prod.snd hcore).trans he)

theorem Known.emitRaw (h : Known events s) (send : Reply) {event : Event P}
    (hevent : event ∈ events) : Known events (emitRaw send event s).2 := by
  cases hs : s.initialised with
  | false =>
      rw [emitRaw_of_not_initialised hs]
      exact h
  | true =>
      rw [emitRaw_of_initialised hs]
      refine ⟨fun e he => ?_, h.queues, h.rows⟩
      dsimp only at he
      split at he
      · rcases List.mem_append.mp he with he | he
        · exact h.delivered e he
        · rwa [List.mem_singleton.mp he]
      · exact h.delivered e he

theorem Known.lPush (h : Known events s) (r : Reply) {topic : String} {raw : Raw P}
    (hraw : ∀ e, raw.event? = some e → e ∈ events ∧ e.topic = topic) :
    Known events (lPush r topic raw s).2 := by
  unfold Kafka.lPush
  dsimp only
  split
  · refine ⟨h.delivered, fun topic' raw' hraw' => ?_, h.rows⟩
    by_cases htopic : topic' = topic
    · subst htopic
      dsimp only at hraw'
      rw [Function.update_self] at hraw'
      rcases List.mem_cons.mp hraw' with rfl | hraw'
      · exact hraw
      · exact h.queues topic' raw' hraw'
    · dsimp only at hraw'
      rw [Function.update_of_ne htopic] at hraw'
      exact h.queues topic' raw' hraw'
  · exact h

theorem Known.rPop (h : Known events s) (r : Reply) (topic : String) :
    Known events (rPop r topic s).2 := by
  unfold Kafka.rPop
  dsimp only
  split
  · refine h.of_subset (fun _ he => he) (fun topic' raw hraw => ?_) rfl
    by_cases htopic : topic' = topic
    · subst htopic
      dsimp only at hraw
      rw [Function.update_self] at hraw
      exact List.dropLast_subset _ hraw
    · dsimp only at hraw
      rwa [Function.update_of_ne htopic] at hraw
  · exact h

theorem Known.createRow (h : Known events s) (create : Reply) {row : DlqEntry P}
    (hrow : ∀ e, row.event? = some e → e ∈ events) : Known events (createRow create row s) := by
  rcases createRow_cases create row s with hsame | ⟨t, hcreate, hwritten⟩
  · rw [hsame]
    exact h
  · rw [hwritten]
    refine ⟨h.delivered, h.queues, fun r hr e he => ?_⟩
    rcases (Table.mem_create hcreate).mp hr with hr | rfl
    · exact h.rows r hr e he
    · exact hrow e he

/-- What a list yields was handed in for its topic. -/
theorem Known.popped (h : Known events s) {r : Reply} {topic : String} {raw : Raw P}
    (hraw : (Kafka.rPop r topic s).1 = some raw) {e : Event P} (he : raw.event? = some e) :
    e ∈ events ∧ e.topic = topic := by
  rw [rPop_eq] at hraw
  dsimp only at hraw
  split at hraw
  · exact h.queues topic raw (List.mem_of_getLast? hraw) e he
  · cases hraw

theorem Known.drainTurn (h : Known events s) (io : DrainIo) (topic : String)
    (turn processed : ℕ) : Known events (drainTurn io topic turn (processed, s)).state.2 := by
  rw [Kafka.drainTurn]
  split
  swap
  · exact h
  have hpopped := h.rPop (io.rPop turn) topic
  rcases hraw : Kafka.rPop (io.rPop turn) topic s with ⟨raw, s₁⟩
  rw [hraw] at hpopped
  rcases raw with _ | raw
  · exact hpopped
  cases raw with
  | corrupt text =>
      dsimp only
      split <;> exact hpopped
  | entry e =>
      have hentry : ∀ e', (Raw.entry e).event? = some e' → e' ∈ events ∧ e'.topic = topic :=
        fun e' he' => h.popped (congrArg Prod.fst hraw) he'
      have hsent := hpopped.emitRaw (io.send processed) (hentry e.toEvent rfl).1
      dsimp only
      rcases hresult : Kafka.emitRaw (io.send processed) e.toEvent s₁ with ⟨result, s₂⟩
      rw [hresult] at hsent
      cases result with
      | ok _ => exact ⟨hsent.delivered, hsent.queues, hsent.rows⟩
      | error _ => exact hsent.lPush io.lPush hentry

theorem Known.drainQueue (h : Known events s) (io : DrainQueueIo) :
    Known events (drainQueue io s) := by
  refine drainQueue_keeps (fun _ hs => ⟨hs.delivered, hs.queues, hs.rows⟩) (fun io topic s hs => ?_)
    io h
  exact drainTopic_keeps (fun io turn c hc => hc.drainTurn io topic turn c.1) io hs

theorem Known.emit (h : Known events s) (io : EmitIo) {event : Event P} (hevent : event ∈ events) :
    Known events (emit io event s).2 := by
  have hfirst : Known events (emitKafka io.send event s).2 := by
    unfold emitKafka
    split
    · have hsent := h.emitRaw io.send hevent
      rcases hresult : Kafka.emitRaw io.send event s with ⟨result, s₁⟩
      rw [hresult] at hsent
      cases result with
      | ok _ => exact hsent
      | error _ => exact ⟨hsent.delivered, hsent.queues, hsent.rows⟩
    · exact h
  unfold Kafka.emit
  rcases hresult : emitKafka io.send event s with ⟨sent, s₁⟩
  rw [hresult] at hfirst
  cases sent with
  | true => exact hfirst
  | false =>
      have hsecond : Known events (push io.push event s₁).2 := by
        unfold push
        cases hredis : s₁.redisClient || io.push.connect with
        | false => simpa [getRedis, hredis] using hfirst
        | true =>
            simp only [getRedis, hredis, if_true]
            have hconnected : Known events { s₁ with redisClient := true } :=
              ⟨hfirst.delivered, hfirst.queues, hfirst.rows⟩
            refine hconnected.lPush _ fun e he => ?_
            cases he
            exact ⟨hevent, rfl⟩
      dsimp only
      rcases hpushed : push io.push event s₁ with ⟨queued, s₂⟩
      rw [hpushed] at hsecond
      cases queued with
      | true => exact hsecond
      | false =>
          refine hsecond.createRow _ fun e he => ?_
          cases he
          exact hevent

/-- A pass over a dead letter changes its row and sends its event at most. -/
theorem Known.replayEntry (h : Known events s) (io : ReplayIo) {entry : DlqEntry P}
    (hentry : ∀ e, entry.event? = some e → e ∈ events) :
    Known events (replayEntry io entry s).state := by
  have hcall : ∀ c failed {f : RowUpdate (DlqEntry.keys (P := P))},
      (∀ r, core (f.apply r) = core r) →
        Action.Keeps (Known events) (io.call c failed (Kafka.updateRow entry.id f)) := by
    intro c failed f hf
    refine Action.Keeps.of_final fun s hs => ?_
    rw [call_eq]
    dsimp only
    split
    · exact hs.of_subset (fun _ he => he) (fun _ _ hraw => hraw)
        (map_core_update hf s.kafkaDLQ entry.id)
    · exact hs
  have htry : Action.Keeps (Known events) (tryReplay io entry) := by
    refine (hcall .mark storeDown fun _ => rfl).bind fun _ => ?_
    have hparse : Action.Triple (Known events) (parse entry.payload)
        (fun p s => entry.payload = .value p ∧ Known events s) (Known events) := by
      cases entry.payload with
      | corrupt => exact Action.Triple.throw fun _ hs => hs
      | value p => exact Action.Triple.pure fun _ hs => ⟨rfl, hs⟩
    refine hparse.bind fun p => Action.Triple.intro fun hpayload => ?_
    have hevent : entry.event? = some ⟨entry.topic, entry.eventKey, p⟩ := by
      simp [DlqEntry.event?, hpayload]
    have hsent : Action.Keeps (Known events)
        (replayFn io entry.id ⟨entry.topic, entry.eventKey, p⟩) := by
      refine Action.Keeps.of_final fun s hs => ?_
      rw [replayFn_final]
      have hlogged : ∀ replays, Known events { s with replays } :=
        fun _ => ⟨hs.delivered, hs.queues, hs.rows⟩
      exact (hlogged _).emitRaw _ (hentry _ hevent)
    exact hsent.bind fun _ => hcall .close storeDown fun _ => rfl
  have htried := htry.final h
  unfold Kafka.replayEntry
  rcases hresult : tryReplay io entry s with ⟨result, s₁⟩
  rw [hresult] at htried
  rcases result with (i | _)
  · cases i with
    | crashed => exact ⟨htried.delivered, htried.queues, htried.rows⟩
    | thrown ex =>
        have hsettled := (hcall .settle storeDown (f := settled entry.retryCount ex)
          fun _ => rfl).final htried
        dsimp only at hsettled ⊢
        rcases hcalled : io.call .settle storeDown
          (Kafka.updateRow entry.id (settled entry.retryCount ex)) s₁ with ⟨result, s₂⟩
        rw [hcalled] at hsettled
        rcases result with (i | _)
        · cases i with
          | crashed => exact ⟨hsettled.delivered, hsettled.queues, hsettled.rows⟩
          | thrown _ => exact hsettled
        · exact hsettled
  · exact htried

theorem Known.replayPending (h : Known events s) (io : ReplayPendingIo) :
    Known events (replayPending io s) := by
  unfold Kafka.replayPending
  split
  swap
  · exact h
  refine Loop.run_preserves (Known events) (fun entry hentry s' hs' => ?_) h
  refine hs'.replayEntry (io.entry entry.id) fun e he => ?_
  exact h.rows entry (Table.mem_findManyDesc.mp (List.mem_of_mem_take hentry)).1 e he

theorem Known.step (json : DlqPayload → P) {c : Handed P} (h : Known c.events c.service)
    (op : Op P) :
    Known (handedStep json c op).events (handedStep json c op).service := by
  have hmore := h.mono (handedBy json op)
  have hnew : ∀ e ∈ handedBy json op, e ∈ c.events ++ handedBy json op :=
    fun e he => List.mem_append_right c.events he
  cases op with
  | start connected => exact ⟨hmore.delivered, hmore.queues, hmore.rows⟩
  | stop => exact ⟨hmore.delivered, hmore.queues, hmore.rows⟩
  | emit io event => exact hmore.emit io (hnew event (List.mem_singleton.mpr rfl))
  | publishToDlqTopic fields io originalPayload reason =>
      have hevent := hnew (dlqEvent fields io originalPayload reason) (List.mem_singleton.mpr rfl)
      have hsent := hmore.emitRaw io.send hevent
      change Known _ (publishToDlqTopic fields io originalPayload reason c.service)
      rcases publishToDlqTopic_cases fields io originalPayload reason c.service with
        hcase | ⟨row, hrow, -, -, -, hcase⟩
      · exact hcase ▸ hsent
      · rw [hcase]
        exact hsent.createRow _ fun e he => Option.some.inj (hrow.symm.trans he) ▸ hevent
  | pushToDlq io entry => exact hmore.createRow _ fun e he => hnew e (Option.mem_toList.mpr he)
  | drain io => exact hmore.drainQueue io
  | replay io => exact hmore.replayPending io
  | markDead update id =>
      change Known _ (markDead update id c.service)
      unfold markDead
      split
      · exact hmore.of_subset (fun _ he => he) (fun _ _ hraw => hraw)
          (map_core_update (fun _ => rfl) c.service.kafkaDLQ id)
      · exact hmore
  | policyFailed io userId dto order plan e =>
      exact hmore.createRow _ fun e he => hnew e (Option.mem_toList.mpr he)
  | retriesExhausted io entry attempts e =>
      exact hmore.createRow _ fun e he => hnew e (Option.mem_toList.mpr he)

end Known

/-- Whatever fails, an event that the broker has, that waits in a list or that a dead letter holds
was handed in, with this key and this payload. -/
theorem known_events {P : Type} (json : DlqPayload → P) (ops : List (Op P)) :
    Run.Always (handedStep json) (fun c => Known c.events c.service) {} ops := by
  have hstart : Known [] ({} : State P) :=
    ⟨fun _ he => absurd he List.not_mem_nil, fun _ _ hraw => absurd hraw List.not_mem_nil,
      fun _ hr => absurd hr List.not_mem_nil⟩
  exact Run.always_of_step (fun c op h (_ : True) => h.step json op) hstart
    (Run.along_of_forall (fun _ _ => trivial) _)

/-! ## Nothing is doubled -/

section Once

variable {P : Type} [DecidableEq P] {events : List (Event P)} {s : State P} (e : Event P)

omit [DecidableEq P] in
/-- A message that is reported as failed was not sent. -/
theorem not_effective_of_emitRaw {send : Reply} (hsend : send ≠ .error true) {event : Event P}
    {s' : State P} {ex : Exn} (h : emitRaw send event s = (.error ex, s')) :
    (s.initialised && send.effective) = false := by
  cases hs : s.initialised with
  | false => rfl
  | true =>
      rw [emitRaw_of_initialised hs] at h
      rw [Bool.true_and, Reply.effective_eq_returned hsend]
      cases hreturned : send.returned with
      | false => rfl
      | true =>
          rw [hreturned] at h
          cases h

theorem places_drainTurn_le (h : Known events s) {io : DrainIo} {topic : String}
    {turn processed : ℕ}
    (hsend : io.send processed ≠ .error true) :
    places e (drainTurn io topic turn (processed, s)).state.2 ≤ places e s := by
  rw [drainTurn]
  by_cases hbatch : processed < DRAIN_BATCH_SIZE
  swap
  · rw [if_neg hbatch]
    exact le_rfl
  rw [if_pos hbatch, rPop_eq]
  cases hlast : (s.queues topic).getLast? with
  | none =>
      rw [ite_self]
      exact (places_rPop_of_none e (io.rPop turn) topic hlast).le
  | some raw =>
      have hpopped := places_rPop e (io.rPop turn) topic hlast
      cases hreturned : (io.rPop turn).returned with
      | false =>
          rw [if_neg Bool.false_ne_true]
          change places e (rPop (io.rPop turn) topic s).2 ≤ places e s
          omega
      | true =>
          rw [if_pos rfl]
          cases raw with
          | corrupt text =>
              dsimp only
              split
              · change places e (rPop (io.rPop turn) topic s).2 ≤ places e s
                omega
              · change places e (rPop (io.rPop turn) topic s).2 ≤ places e s
                omega
          | entry entry =>
              have hentry := (h.queues topic _ (List.mem_of_getLast? hlast) entry.toEvent rfl).2
              rw [Reply.effective_of_returned hreturned] at hpopped
              set s₁ := (rPop (io.rPop turn) topic s).2
              have hsent := places_emitRaw e (io.send processed) entry.toEvent s₁
              have hrestored := places_lPush e io.lPush topic (.entry entry)
                (emitRaw (io.send processed) entry.toEvent s₁).2
              simp only [Raw.event?, Option.some.injEq, true_and] at hpopped hrestored
              dsimp only
              cases hresult : emitRaw (io.send processed) entry.toEvent s₁ with
              | mk result s₂ =>
                  rw [hresult] at hsent hrestored
                  dsimp only at hsent hrestored
                  cases result with
                  | ok _ =>
                      -- The entry was counted in the list, which is that of its topic.
                      have hmoved := one_mono (fun hdelivered : (s₁.initialised &&
                        (io.send processed).effective) = true ∧ entry.toEvent = e =>
                          (⟨hdelivered.2 ▸ hentry.symm, hdelivered.2⟩ :
                            topic = e.topic ∧ entry.toEvent = e))
                      change places e s₂ ≤ places e s
                      omega
                  | error _ =>
                      have hnothing := not_effective_of_emitRaw hsend hresult
                      rw [hnothing, one_neg (by simp)] at hsent
                      have hback := one_mono (fun hback : io.lPush.effective = true ∧
                        topic = e.topic ∧ entry.toEvent = e => hback.2)
                      change places e (lPush io.lPush topic (.entry entry) s₂).2 ≤ places e s
                      omega

theorem places_drainQueue_le (h : Known events s) {io : DrainQueueIo}
    (hsend : ∀ topic processed, (io.topic topic).send processed ≠ .error true) :
    places e (drainQueue io s) ≤ places e s := by
  have hkept : Known events (drainQueue io s) ∧ places e (drainQueue io s) ≤ places e s := by
    unfold drainQueue
    cases hs : s.initialised with
    | false => exact ⟨h, le_rfl⟩
    | true =>
        rw [if_pos rfl]
        cases hredis : s.redisClient || io.connect with
        | false => simpa [getRedis, hredis] using h
        | true =>
            simp only [getRedis, hredis, if_true]
            have hstart : Known events { s with redisClient := true } :=
              ⟨h.delivered, h.queues, h.rows⟩
            cases io.keys with
            | none => exact ⟨hstart, le_rfl⟩
            | some keys =>
                refine Loop.run_preserves (fun s' => Known events s' ∧ places e s' ≤ places e s)
                  (fun topic _ s' hs' => ?_) ⟨hstart, le_rfl⟩
                refine Loop.run_preserves
                  (fun c : ℕ × State P => Known events c.2 ∧ places e c.2 ≤ places e s)
                  (fun turn _ c hc => ?_) hs'
                exact ⟨hc.1.drainTurn _ topic turn c.1,
                  (places_drainTurn_le e hc.1 (hsend topic c.1)).trans hc.2⟩
  exact hkept.2

theorem places_emit_le (h : ReplaysKnown s) {io : EmitIo} (hsend : io.send ≠ .error true)
    (hpush : io.push.lPush ≠ .error true) (event : Event P) :
    places e (emit io event s).2 ≤ places e s + one (event = e) := by
  obtain ⟨hkafka, -, hrows, hreplays⟩ := emitKafka_spec io.send event s
  have hsent := places_emitKafka e io.send event s
  rw [Reply.effective_eq_returned hsend, ← hkafka] at hsent
  unfold emit
  rcases hfirst : emitKafka io.send event s with ⟨sent, s₁⟩
  rw [hfirst] at hrows hreplays hsent
  dsimp only at hrows hreplays hsent
  cases sent with
  | true =>
      have hone := one_mono (fun hevent : true = true ∧ event = e => hevent.2)
      change places e s₁ ≤ _
      omega
  | false =>
      rw [one_neg (by simp)] at hsent
      obtain ⟨hpushed, hrows', hreplays'⟩ := push_spec io.push event s₁
      have hqueued := places_push e io.push event s₁
      rw [Reply.effective_eq_returned hpush, ← hpushed] at hqueued
      dsimp only
      rcases hsecond : push io.push event s₁ with ⟨queued, s₂⟩
      rw [hsecond] at hrows' hreplays' hqueued
      dsimp only at hrows' hreplays' hqueued
      cases queued with
      | true =>
          have hone := one_mono (fun hevent : true = true ∧ event = e => hevent.2)
          change places e s₂ ≤ _
          omega
      | false =>
          rw [one_neg (by simp)] at hqueued
          have hknown : ReplaysKnown s₂ := h.of_same ⟨hreplays'.trans hreplays, hrows'.trans hrows⟩
          have hwritten := places_createRow e hknown io.dlq.create (pending io.dlq
            ⟨event.topic, event.key, event.payload, some "Kafka and Redis both unavailable"⟩)
          have hone := one_mono (fun hevent : (io.dlq.create.effective = true ∧
            ∀ r ∈ s₂.kafkaDLQ.rows, r.id ≠ (pending io.dlq ⟨event.topic, event.key, event.payload,
              some "Kafka and Redis both unavailable"⟩).id) ∧ some event = some e =>
                Option.some.inj hevent.2)
          change places e (createRow io.dlq.create (pending io.dlq ⟨event.topic, event.key,
            event.payload, some "Kafka and Redis both unavailable"⟩) s₂) ≤ _
          rw [hwritten]
          have hevent : (pending io.dlq ⟨event.topic, event.key, event.payload,
            some "Kafka and Redis both unavailable"⟩).event? = some event := rfl
          rw [hevent]
          omega

/-! ### A pass -/

section Pass

variable {s' : State P} {entry : DlqEntry P} {io : ReplayIo}

theorem places_eq_of_core (hdelivered : s'.delivered = s.delivered) (hqueues : s'.queues = s.queues)
    (hreplays : s'.replays = s.replays)
    (hrows : s'.kafkaDLQ.rows.map core = s.kafkaDLQ.rows.map core) : places e s' = places e s := by
  have hcount : ∀ t : State P,
      t.kafkaDLQ.rows.countP (fun r => decide (r.event? = some e) && !replayed t r.id) =
        (t.kafkaDLQ.rows.map core).countP fun c => decide (c.2 = some e) && !replayed t c.1 := by
    intro t
    rw [List.countP_map]
    rfl
  unfold places
  rw [hcount, hcount, hrows, hdelivered, hqueues]
  simp only [replayed, hreplays]

theorem countP_add_one_le {α : Type} {p q : α → Bool} {l : List α} {x : α}
    (hqp : ∀ y ∈ l, q y = true → p y = true) (hx : x ∈ l) (hp : p x = true) (hq : q x = false) :
    l.countP q + 1 ≤ l.countP p := by
  obtain ⟨before, after, rfl⟩ := List.append_of_mem hx
  have hbefore := List.countP_mono_left (l := before) fun y hy => hqp y (by simp [hy])
  have hafter := List.countP_mono_left (l := after) fun y hy => hqp y (by simp [hy])
  simp only [List.countP_append, List.countP_cons, hp, hq, if_true, Bool.false_eq_true, if_false]
  omega

/-- Once it is on record that the event has been sent, its row counts no more. -/
theorem places_logged_le {event : Event P} (hentry : core entry ∈ s.kafkaDLQ.rows.map core)
    (hevent : entry.event? = some event) (hnot : replayed s entry.id = false) (io : ReplayIo) :
    places e { s with replays :=
        s.replays ++ [⟨entry.id, event, s.initialised && (io.reply .send).effective⟩] } +
      one ((s.initialised && (io.reply .send).effective) = true ∧ event = e) ≤ places e s := by
  set delivered := s.initialised && (io.reply .send).effective
  set s' : State P := { s with replays := s.replays ++ [⟨entry.id, event, delivered⟩] }
  have hreplayed : ∀ id, replayed s' id =
      (replayed s id || decide (entry.id = id) && delivered) := by
    intro id
    simp [replayed, s']
  have hfewer : ∀ r ∈ s.kafkaDLQ.rows, (decide (r.event? = some e) && !replayed s' r.id) = true →
      (decide (r.event? = some e) && !replayed s r.id) = true := by
    intro r _ hr
    obtain ⟨hcarried, hr⟩ := Bool.and_eq_true_iff.mp hr
    rw [hreplayed, Bool.not_or] at hr
    rw [hcarried, (Bool.and_eq_true_iff.mp hr).1]
    rfl
  have hplaces : places e s' = s.delivered.count e +
      (s.queues e.topic).countP (fun raw => decide (raw.event? = some e)) +
      s.kafkaDLQ.rows.countP fun r => decide (r.event? = some e) && !replayed s' r.id := rfl
  rw [hplaces, places]
  by_cases hmoved : delivered = true ∧ event = e
  · obtain ⟨r, hr, hcore⟩ := List.mem_map.mp hentry
    have hid : r.id = entry.id := congrArg Prod.fst hcore
    have hcarried : r.event? = some e :=
      (congrArg Prod.snd hcore).trans (hevent.trans (congrArg some hmoved.2))
    have hrows := countP_add_one_le hfewer hr (by simp [hcarried, hid, hnot])
      (by simp [hcarried, hid, hreplayed, hmoved.1])
    rw [one_pos hmoved]
    omega
  · have hrows := List.countP_mono_left hfewer
    rw [one_neg hmoved]
    omega

/-- Where a pass over a row is: `sent` says whether its event has been sent. -/
structure Under (entry : DlqEntry P) (sent : Bool) (s s' : State P) : Prop where
  initialised : s'.initialised = true
  places : ∀ e, places e s' ≤ places e s
  known : ReplaysKnown s'
  core : s'.kafkaDLQ.rows.map core = s.kafkaDLQ.rows.map core
  others : ∀ r ∈ s'.kafkaDLQ.rows, r.id ≠ entry.id → r ∈ s.kafkaDLQ.rows
  replayed : ∀ id, replayed s' id = (replayed s id || (decide (entry.id = id) && sent))

theorem Under.start (hs : s.initialised = true) (hknown : ReplaysKnown s) :
    Under entry false s s where
  initialised := hs
  places _ := le_rfl
  known := hknown
  core := rfl
  others _ hr _ := hr
  replayed id := by rw [Bool.and_false, Bool.or_false]

theorem Under.updateRow {sent : Bool} (h : Under entry sent s s')
    {f : RowUpdate (DlqEntry.keys (P := P))} (hf : ∀ r, Kafka.core (f.apply r) = Kafka.core r) :
    Under entry sent s (Kafka.updateRow entry.id f s') where
  initialised := h.initialised
  places e := by
    have hsame : Kafka.places e (Kafka.updateRow entry.id f s') = Kafka.places e s' :=
      places_eq_of_core e rfl rfl rfl (map_core_update hf s'.kafkaDLQ entry.id)
    exact hsame.trans_le (h.places e)
  known c hc := by
    obtain ⟨r, hr, hid⟩ := h.known c hc
    have hmem : Kafka.core r ∈ (s'.kafkaDLQ.update entry.id f).rows.map Kafka.core := by
      rw [map_core_update hf]
      exact List.mem_map_of_mem hr
    obtain ⟨r', hr', hcore⟩ := List.mem_map.mp hmem
    exact ⟨r', hr', (congrArg Prod.fst hcore).trans hid⟩
  core := (map_core_update hf s'.kafkaDLQ entry.id).trans h.core
  others r' hr' hid := by
    obtain ⟨r, hr, hr'⟩ := Table.mem_update.mp hr'
    split at hr'
    · rename_i hkey
      have hown : r'.id = entry.id := by
        rw [← hr']
        exact (congrArg Prod.fst (hf r)).trans (List.mem_singleton.mp hkey).symm
      exact absurd hown hid
    · exact h.others r' (hr' ▸ hr) hid
  replayed := h.replayed

theorem Under.call {sent : Bool} (h : Under entry sent s s') (c : RemoteCall) (failed : Exn)
    {f : RowUpdate (DlqEntry.keys (P := P))} (hf : ∀ r, Kafka.core (f.apply r) = Kafka.core r) :
    Under entry sent s (io.call c failed (Kafka.updateRow entry.id f) s').2 := by
  rw [call_eq]
  dsimp only
  split
  · exact h.updateRow hf
  · exact h

/-- The event goes from its row to the broker. -/
theorem Under.replayFn (h : Under entry false s s') {event : Event P}
    (hentry : Kafka.core entry ∈ s.kafkaDLQ.rows.map Kafka.core)
    (hevent : entry.event? = some event) (hnot : Kafka.replayed s entry.id = false) :
    Under entry (io.reply .send).effective s (Kafka.replayFn io entry.id event s').2 := by
  have hmem : Kafka.core entry ∈ s'.kafkaDLQ.rows.map Kafka.core := h.core ▸ hentry
  obtain ⟨hknown, hrows⟩ := known_replayFn h.known hmem event io
  obtain ⟨delivered, kafkaAvailable, hframe⟩ := emitRaw_frame (io.reply .send) event { s' with
    replays := s'.replays ++ [⟨entry.id, event, s'.initialised && (io.reply .send).effective⟩] }
  have hreplayed : ∀ id, Kafka.replayed (Kafka.replayFn io entry.id event s').2 id =
      (Kafka.replayed s' id || (decide (entry.id = id) && (io.reply .send).effective)) := by
    intro id
    rw [replayFn_final, hframe]
    simp [Kafka.replayed, h.initialised]
  refine ⟨?_, fun e => ?_, hknown, by rw [hrows, h.core], by rw [hrows]; exact h.others, ?_⟩
  · rw [replayFn_final, hframe]
    exact h.initialised
  · rw [replayFn_final, places_emitRaw]
    exact (places_logged_le e hmem hevent (h.replayed entry.id ▸ by simp [hnot]) io).trans
      (h.places e)
  · intro id
    rw [hreplayed, h.replayed, Bool.and_false, Bool.or_false]

/-- A pass is over with a row that either still waits or is closed. -/
def Over (entry : DlqEntry P) (s s' : State P) : Prop :=
  Under entry false s s' ∨ Under entry true s s' ∧
    ∀ r ∈ s'.kafkaDLQ.rows, r.id = entry.id → r.status = "DEAD"

theorem over_settle (h : Under entry false s s') {ex : Exn}
    (htry : tryReplay io entry s = (.error (.thrown ex), s')) :
    ∃ t, Over entry s t ∧
      (replayEntry io entry s = .next t ∨ replayEntry io entry s = .stop (down t)) :=
  ⟨_, .inl (h.call .settle storeDown fun _ => rfl), replayEntry_of_thrown htry⟩

theorem over_replayEntry (hs : s.initialised = true) (hknown : ReplaysKnown s)
    (hentry : core entry ∈ s.kafkaDLQ.rows.map core) (hnot : replayed s entry.id = false)
    (hnoted : Noted io) : ∃ t, Over entry s t ∧
      (replayEntry io entry s = .next t ∨ replayEntry io entry s = .stop (down t)) := by
  have hstart : Under entry false s s := .start hs hknown
  have hmark : Under entry false s
      (io.call .mark storeDown (updateRow entry.id (marked entry.retryCount)) s).2 :=
    hstart.call .mark storeDown fun _ => rfl
  rcases hcall : io.call .mark storeDown (updateRow entry.id (marked entry.retryCount)) s with
    ⟨result, s₁⟩
  rw [hcall] at hmark
  rcases result with (i | _)
  · have htry : tryReplay io entry s = (.error i, s₁) := Action.bind_of_error hcall
    cases i with
    | crashed => exact ⟨s₁, .inl hmark, .inr (replayEntry_of_crashed htry)⟩
    | thrown ex => exact over_settle hmark htry
  cases hpayload : entry.payload with
  | corrupt =>
      have hparse : (parse entry.payload : Action (State P) Interrupt P) s₁ =
          (.error (.thrown (.error "Unexpected token in JSON")), s₁) := by
        rw [hpayload]
        rfl
      exact over_settle hmark ((Action.bind_of_ok hcall).trans (Action.bind_of_error hparse))
  | value p =>
      have hevent : entry.event? = some ⟨entry.topic, entry.eventKey, p⟩ := by
        simp [DlqEntry.event?, hpayload]
      have hparse : (parse entry.payload : Action (State P) Interrupt P) s₁ = (.ok p, s₁) := by
        rw [hpayload]
        rfl
      have htry : tryReplay io entry s = (replayFn io entry.id ⟨entry.topic, entry.eventKey, p⟩ >>=
          fun _ => io.call .close storeDown (updateRow entry.id closed)) s₁ :=
        (Action.bind_of_ok hcall).trans (Action.bind_of_ok hparse)
      have hsent : Under entry (io.reply .send).effective s
          (replayFn io entry.id ⟨entry.topic, entry.eventKey, p⟩ s₁).2 :=
        hmark.replayFn hentry hevent hnot
      have hresult := replayFn_eq io hmark.initialised entry.id ⟨entry.topic, entry.eventKey, p⟩
      rcases hreplay : replayFn io entry.id ⟨entry.topic, entry.eventKey, p⟩ s₁ with ⟨result, s₂⟩
      rw [hreplay] at hsent hresult
      have hfirst := congrArg Prod.fst hresult
      dsimp only at hfirst hsent
      cases hsend : io.reply .send with
      | error effective =>
          obtain rfl : effective = false := by
            cases effective with
            | false => rfl
            | true => exact absurd hsend hnoted.1
          rw [hsend] at hsent hfirst
          by_cases hcrash : io.crash = some .send
          · rw [if_pos hcrash] at hfirst
            subst hfirst
            exact ⟨s₂, .inl hsent, .inr (replayEntry_of_crashed
              (htry.trans (Action.bind_of_error hreplay)))⟩
          · rw [if_neg hcrash] at hfirst
            subst hfirst
            exact over_settle hsent (htry.trans (Action.bind_of_error hreplay))
      | ok =>
          obtain ⟨hclose, hcrash⟩ := hnoted.2 hsend
          rw [hsend] at hsent hfirst
          rw [if_neg hcrash] at hfirst
          subst hfirst
          have hclosed := hsent.updateRow (f := closed) fun _ => rfl
          have hdead : ∀ r ∈ (updateRow entry.id closed s₂).kafkaDLQ.rows, r.id = entry.id →
              r.status = "DEAD" := by
            intro r hr hid
            obtain ⟨before, -, hr⟩ := Table.mem_update.mp hr
            split at hr
            · rw [← hr]
              rfl
            · rename_i hkey
              exact absurd (List.mem_singleton.mpr (hr ▸ hid).symm) hkey
          have hcalled := (Action.bind_of_ok hreplay (f := fun _ =>
            io.call .close storeDown (updateRow entry.id closed))).trans
              (call_eq .close storeDown (updateRow entry.id closed))
          rw [hclose] at hcalled
          refine ⟨_, .inr ⟨hclosed, hdead⟩, ?_⟩
          by_cases hlast : io.crash = some .close
          · rw [if_pos hlast] at hcalled
            exact .inr (replayEntry_of_crashed (htry.trans hcalled))
          · rw [if_neg hlast] at hcalled
            exact .inl (replayEntry_of_ok (htry.trans hcalled))

/-- The rows whose event has been sent are closed. -/
structure Closed (s : State P) : Prop where
  known : ReplaysKnown s
  closed : ∀ r ∈ s.kafkaDLQ.rows, replayed s r.id = true → r.status = "DEAD"

theorem Over.closed (h : Over entry s s') (hs : Closed s) (hnot : replayed s entry.id = false) :
    Closed s' := by
  have hstep : ∀ {sent : Bool}, Under entry sent s s' → (sent = true →
      ∀ r ∈ s'.kafkaDLQ.rows, r.id = entry.id → r.status = "DEAD") → Closed s' := by
    intro sent hunder hdead
    refine ⟨hunder.known, fun r hr hdone => ?_⟩
    rw [hunder.replayed] at hdone
    by_cases hid : r.id = entry.id
    · rw [hid, hnot, decide_eq_true rfl, Bool.false_or, Bool.true_and] at hdone
      exact hdead hdone r hr hid
    · rw [decide_eq_false (Ne.symm hid), Bool.false_and, Bool.or_false] at hdone
      exact hs.closed r (hunder.others r hr hid) hdone
  rcases h with h | ⟨h, hdead⟩
  · exact hstep h fun hfalse => absurd hfalse Bool.false_ne_true
  · exact hstep h fun _ => hdead

/-- A run of the replay with the rows still to be replayed. -/
structure ToReplay (n : Event P → ℕ) (entries : List (DlqEntry P)) (s : State P) : Prop where
  initialised : s.initialised = true
  places : ∀ e, places e s ≤ n e
  closed : Closed s
  todo : ∀ r ∈ entries, core r ∈ s.kafkaDLQ.rows.map core ∧ replayed s r.id = false
  distinct : entries.Pairwise fun r r' => r.id ≠ r'.id

theorem ToReplay.over {n : Event P → ℕ} {entries : List (DlqEntry P)}
    (h : ToReplay n (entry :: entries) s) (hover : Over entry s s') : ToReplay n entries s' := by
  obtain ⟨hfirst, hdistinct⟩ := List.pairwise_cons.mp h.distinct
  have hnot := (h.todo entry List.mem_cons_self).2
  have hstep : ∀ {sent : Bool}, Under entry sent s s' → ToReplay n entries s' := by
    intro sent hunder
    refine ⟨hunder.initialised, fun e => (hunder.places e).trans (h.places e),
      hover.closed h.closed hnot, fun r hr => ?_, hdistinct⟩
    obtain ⟨hmem, hwaits⟩ := h.todo r (List.mem_cons_of_mem _ hr)
    refine ⟨hunder.core ▸ hmem, ?_⟩
    rw [hunder.replayed, hwaits, decide_eq_false (hfirst r hr), Bool.false_and, Bool.false_or]
  rcases hover with hunder | ⟨hunder, -⟩
  · exact hstep hunder
  · exact hstep hunder

theorem replayPending_le (h : Closed s) {io : ReplayPendingIo}
    (hnoted : ∀ id, Noted (io.entry id)) :
    Closed (replayPending io s) ∧ ∀ e, places e (replayPending io s) ≤ places e s := by
  unfold replayPending
  split
  swap
  · exact ⟨h, fun _ => le_rfl⟩
  rename_i hstart
  have hfound : ToReplay (places · s) (getPendingEntries 20 s) s := by
    refine ⟨(Bool.and_eq_true_iff.mp hstart).1, fun _ => le_rfl, h, fun r hr => ?_,
      pairwise_getPendingEntries 20 s⟩
    obtain ⟨hmem, hpending⟩ := Table.mem_findManyDesc.mp (List.mem_of_mem_take hr)
    refine ⟨List.mem_map_of_mem hmem, ?_⟩
    by_contra hdone
    exact not_pending_of_dead hpending (h.closed r hmem (Bool.not_eq_false _ ▸ hdone))
  have hpass : ∀ entry entries s₁, ToReplay (places · s) (entry :: entries) s₁ → ∃ t,
      ToReplay (places · s) entries t ∧ (replayEntry (io.entry entry.id) entry s₁ = .next t ∨
        replayEntry (io.entry entry.id) entry s₁ = .stop (down t)) := by
    intro entry entries s₁ h₁
    obtain ⟨hmem, hnot⟩ := h₁.todo entry List.mem_cons_self
    obtain ⟨t, hover, hresult⟩ := over_replayEntry h₁.initialised h₁.closed.known hmem hnot
      (hnoted entry.id)
    exact ⟨t, h₁.over hover, hresult⟩
  have hdone : ∀ s', ToReplay (places · s) [] s' →
      Closed s' ∧ ∀ e, places e s' ≤ places e s := fun _ h' => ⟨h'.closed, h'.places⟩
  refine Loop.run_remaining (ToReplay (places · s)) (Q := fun _ _ => True) hdone ?_ ?_ hfound
    (Loop.turns_of_forall (fun _ _ => trivial) _ _)
  · intro entry entries s₁ s₂ h₁ _ hnext
    obtain ⟨t, ht, hresult | hresult⟩ := hpass entry entries s₁ h₁
    · rw [hnext] at hresult
      cases hresult
      exact ht
    · rw [hnext] at hresult
      cases hresult
  · intro entry entries s₁ s₂ h₁ _ hstop
    obtain ⟨t, ht, hresult | hresult⟩ := hpass entry entries s₁ h₁
    · rw [hstop] at hresult
      cases hresult
    · rw [hstop] at hresult
      cases hresult
      exact ⟨⟨ht.closed.known, ht.closed.closed⟩, ht.places⟩

end Pass

theorem places_publishToDlqTopic_le (h : ReplaysKnown s) (fields : DlqFields P) {io : PublishIo}
    (hsend : io.send ≠ .error true) (originalPayload : P) (reason : String) :
    places e (publishToDlqTopic fields io originalPayload reason s) ≤
      places e s + one (dlqEvent fields io originalPayload reason = e) := by
  have hsent := places_emitRaw e io.send (dlqEvent fields io originalPayload reason) s
  rcases publishToDlqTopic_cases fields io originalPayload reason s with
    hcase | ⟨row, hevent, -, -, ⟨ex, hfailed⟩, hcase⟩
  · rw [hcase, hsent]
    exact Nat.add_le_add_left (one_mono fun hplaced => hplaced.2) _
  · have hnothing := not_effective_of_emitRaw hsend (Prod.ext hfailed rfl)
    have hsame := sameRows_emitRaw io.send (dlqEvent fields io originalPayload reason) s
    rw [hnothing, one_neg (by simp)] at hsent
    rw [hcase, places_createRow e (h.of_same hsame), hsent, hevent]
    exact Nat.add_le_add_left (one_mono fun hplaced => Option.some.inj hplaced.2) _

/-! ### Every step -/

omit [DecidableEq P] in
theorem Closed.of_same {s' : State P} (h : Closed s) (hsame : SameRows s s') : Closed s' where
  known := h.known.of_same hsame
  closed r hr hdone := by
    rw [hsame.kafkaDLQ] at hr
    refine h.closed r hr ?_
    simpa only [replayed, hsame.replays] using hdone

omit [DecidableEq P] in
theorem Closed.createRow (h : Closed s) (create : Reply) (row : DlqEntry P) :
    Closed (createRow create row s) := by
  rcases createRow_cases create row s with hsame | ⟨t, hcreate, hwritten⟩
  · rw [hsame]
    exact h
  · refine ⟨h.known.createRow create row, fun r hr hdone => ?_⟩
    rw [hwritten] at hr hdone
    rcases (Table.mem_create hcreate).mp hr with hr | rfl
    · exact h.closed r hr hdone
    · have hfresh := (Table.create_eq_some hcreate).1
      have hnot := h.known.not_replayed fun r' hr' hid =>
        hfresh r' hr' r'.id (List.mem_singleton.mpr rfl) (List.mem_singleton.mpr hid)
      exact absurd (hnot.symm.trans hdone) Bool.false_ne_true

theorem markDead_le (h : Closed s) (update : Reply) (id : String) :
    Closed (markDead update id s) ∧ ∀ e, places e (markDead update id s) = places e s := by
  unfold markDead
  split
  swap
  · exact ⟨h, fun _ => rfl⟩
  have hcore : ∀ r, core ((setStatus (P := P) "DEAD").apply r) = core r := fun _ => rfl
  have hrows := map_core_update hcore s.kafkaDLQ id
  refine ⟨⟨fun c hc => ?_, fun r' hr' hdone => ?_⟩, fun e => places_eq_of_core e rfl rfl rfl hrows⟩
  · obtain ⟨r, hr, hid⟩ := h.known c hc
    have hmem : core r ∈ (s.kafkaDLQ.update id (setStatus "DEAD")).rows.map core :=
      hrows ▸ List.mem_map_of_mem hr
    obtain ⟨r', hr', hsame⟩ := List.mem_map.mp hmem
    exact ⟨r', hr', (congrArg Prod.fst hsame).trans hid⟩
  · obtain ⟨r, hr, hr'⟩ := Table.mem_update.mp hr'
    split at hr'
    · rw [← hr']
      rfl
    · exact hr' ▸ h.closed r hr (hr' ▸ hdone)

/-- What holds between the steps. -/
structure Accounted (c : Handed P) : Prop where
  known : Known c.events c.service
  closed : Closed c.service
  once : Once c

theorem Accounted.step (json : DlqPayload → P) {c : Handed P} {op : Op P} (h : Accounted c)
    (hop : Definite op) : Accounted (handedStep json c op) := by
  obtain ⟨hknown, hclosed, honce⟩ := h
  suffices hafter : Closed (handedStep json c op).service ∧ Once (handedStep json c op) from
    ⟨hknown.step json op, hafter.1, hafter.2⟩
  have hquiet : ∀ {s'}, (∀ e, places e s' ≤ places e c.service) →
      ∀ e, places e s' ≤ (c.events ++ handedBy json op).count e := by
    intro s' hplaces e
    rw [List.count_append]
    exact ((hplaces e).trans (honce e)).trans (Nat.le_add_right _ _)
  have hrow : ∀ create row, handedBy json op = row.event?.toList → ∀ e,
      places e (createRow create row c.service) ≤ (c.events ++ handedBy json op).count e := by
    intro create row hhanded e
    rw [places_createRow e hclosed.known, List.count_append, hhanded]
    have hone := one_mono (fun hevent : (create.effective = true ∧
      ∀ r ∈ c.service.kafkaDLQ.rows, r.id ≠ row.id) ∧ row.event? = some e => hevent.2)
    have hcount : row.event?.toList.count e = one (row.event? = some e) := by
      cases row.event? with
      | none => rfl
      | some event => by_cases hevent : event = e <;> simp [hevent]
    have hbefore := honce e
    omega
  have hadded : ∀ {s'} event, handedBy json op = [event] →
      (∀ e, places e s' ≤ places e c.service + one (event = e)) →
        ∀ e, places e s' ≤ (c.events ++ handedBy json op).count e := by
    intro s' event hhanded hplaces e
    have hcount : [event].count e = one (event = e) := by
      by_cases hevent : event = e <;> simp [hevent]
    rw [List.count_append, hhanded, hcount]
    exact (hplaces e).trans (Nat.add_le_add_right (honce e) _)
  cases op with
  | start connected => exact ⟨⟨hclosed.known, hclosed.closed⟩, hquiet fun _ => le_rfl⟩
  | stop => exact ⟨⟨hclosed.known, hclosed.closed⟩, hquiet fun _ => le_rfl⟩
  | emit io event =>
      obtain ⟨-, s', hsame, hcases⟩ := emit_cases io event c.service
      refine ⟨?_, hadded event rfl
        fun e => places_emit_le e hclosed.known hop.1 hop.2 event⟩
      change Closed (emit io event c.service).2
      rcases hcases with hcase | hcase
      · rw [hcase]
        exact hclosed.of_same hsame
      · rw [hcase]
        exact (hclosed.of_same hsame).createRow _ _
  | publishToDlqTopic fields io originalPayload reason =>
      have hsame := hclosed.of_same
        (sameRows_emitRaw io.send (dlqEvent fields io originalPayload reason) c.service)
      refine ⟨?_, hadded (dlqEvent fields io originalPayload reason) rfl fun e =>
        places_publishToDlqTopic_le e hclosed.known fields hop originalPayload reason⟩
      change Closed (publishToDlqTopic fields io originalPayload reason c.service)
      rcases publishToDlqTopic_cases fields io originalPayload reason c.service with
        hcase | ⟨row, -, -, -, -, hcase⟩
      · exact hcase ▸ hsame
      · exact hcase ▸ hsame.createRow _ _
  | pushToDlq io entry => exact ⟨hclosed.createRow _ _, hrow io.create _ rfl⟩
  | drain io =>
      exact ⟨hclosed.of_same (sameRows_drainQueue io c.service),
        hquiet fun e => places_drainQueue_le e hknown hop⟩
  | replay io =>
      obtain ⟨hafter, hplaces⟩ := replayPending_le hclosed hop
      exact ⟨hafter, hquiet hplaces⟩
  | markDead update id =>
      obtain ⟨hafter, hplaces⟩ := markDead_le hclosed update id
      exact ⟨hafter, hquiet fun e => (hplaces e).le⟩
  | policyFailed io userId dto order plan e =>
      exact ⟨hclosed.createRow _ _, hrow io.create _ rfl⟩
  | retriesExhausted io entry attempts e =>
      exact ⟨hclosed.createRow _ _, hrow io.create _ rfl⟩

end Once

/-- Where no send or push takes effect and is then reported as failed, and the replay notes what it
has sent, each event is in no more places than it was handed in: it is not delivered twice. -/
theorem never_doubled {P : Type} [DecidableEq P] (json : DlqPayload → P) (ops : List (Op P))
    (hops : ∀ op ∈ ops, Definite op) : Run.Always (handedStep json) Once {} ops := by
  have hstart : Accounted ({} : Handed P) :=
    ⟨(known_events json []).initial,
      ⟨fun _ hc => absurd hc List.not_mem_nil, fun _ hr => absurd hr List.not_mem_nil⟩,
      fun _ => Nat.zero_le _⟩
  have halways := Run.always_of_step (fun _ op h (hop : Definite op) => Accounted.step json h hop)
    hstart (Run.along_of_forall hops _)
  exact halways.mono fun _ h => h.once

open Outage in
/-- An event that no tier takes but the table, a replay that fails, and one that gets through. -/
theorem never_doubled_replayed :
    let stored : EmitIo := ⟨.error false, ⟨false, .ok, 1⟩, ⟨.ok, "r1", 1⟩⟩
    Run.Always (handedStep json) Once {} [.start false, .emit stored event,
      .replay ⟨true, fun _ => ⟨fun c => if c = .send then .error false else .ok, none⟩⟩,
      .replay ⟨true, fun _ => ⟨fun _ => .ok, none⟩⟩] :=
  never_doubled json _ (by simp [Definite, Noted])

end Aegis.Kafka
