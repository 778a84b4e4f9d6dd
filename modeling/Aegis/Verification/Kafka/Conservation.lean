import Aegis.Verification.Kafka.Steps

/-! # No event is dropped

An event is with the broker, in the list of its topic, or in a dead letter that has not been
delivered. Where it is handed on, it is counted at both ends: an event counts once for each
time it was submitted. -/

namespace Aegis.Kafka

open Payments (storeDown)

section Places

variable {P : Type}

def Raw.event? : Raw P → Option (Event P)
  | .entry e => some e.toEvent
  | .corrupt _ => none

def DlqEntry.event? (r : DlqEntry P) : Option (Event P) :=
  match r.payload with
  | .value p => some ⟨r.topic, r.eventKey, p⟩
  | .corrupt => none

/-- A replay of the row has reached the broker. -/
def replayed (s : State P) (id : String) : Bool :=
  s.replays.any fun c => decide (c.id = id) && c.delivered

variable [DecidableEq P] (e : Event P)

/-- In how many places an event is: with the broker, in the list of its topic, and in rows
that are not yet delivered. -/
def places (s : State P) : ℕ :=
  s.delivered.count e + (s.queues e.topic).countP (fun raw => decide (raw.event? = some e)) +
    s.kafkaDLQ.rows.countP fun r => decide (r.event? = some e) && !replayed s r.id

end Places

/-- The service and the events whose submission was not reported to have failed. -/
structure Account (P : Type) where
  service : State P := {}
  submitted : List (Event P) := []

section Account

variable {P : Type} (json : DlqPayload → P)

def submit (c : Account P) : Op P → List (Event P)
  | .emit io event =>
      match (emit io event c.service).1 with
      | .ok _ => c.submitted ++ [event]
      | .error _ => c.submitted
  | _ => c.submitted

def accountStep (c : Account P) (op : Op P) : Account P :=
  ⟨step json c.service op, submit c op⟩

/-- Every submitted event is somewhere, as often as it was submitted. -/
def Kept [DecidableEq P] (c : Account P) : Prop :=
  ∀ e, c.submitted.count e ≤ places e c.service

/-- A tier takes the event: the broker, Redis, or the table of dead letters. -/
def Taken (io : EmitIo) (s : State P) : Prop :=
  (s.kafkaAvailable && s.initialised && io.send.effective) = true ∨
    ((s.redisClient || io.push.connect) && io.push.lPush.effective) = true ∨
    (io.dlq.create.effective = true ∧ ∀ r ∈ s.kafkaDLQ.rows, r.id ≠ io.dlq.id)

/-- A turn of the drain keeps the entry it is about: no pop fails after taking it, and where the
broker does not get it, the push that restores it takes effect. -/
def TurnKeeps (io : DrainIo) (topic : String) (turn : ℕ) (c : ℕ × State P) : Prop :=
  c.1 < DRAIN_BATCH_SIZE → ∀ entry, (c.2.queues topic).getLast? = some (.entry entry) →
    io.rPop turn ≠ .error true ∧
      (io.rPop turn = .ok →
        (c.2.initialised && (io.send c.1).effective) = true ∨ io.lPush.effective = true)

def TopicKeeps (io : DrainIo) (topic : String) (s : State P) : Prop :=
  Loop.Turns (drainTurn io topic) (TurnKeeps io topic)
    (List.range ((s.queues topic).length + 1)) (0, s)

def DrainKeeps (io : DrainQueueIo) (s : State P) : Prop :=
  s.initialised = true → (s.redisClient || io.connect) = true → ∀ keys ∈ io.keys,
    Loop.Turns (fun topic s => .next (drainTopic (io.topic topic) topic s).2)
      (fun topic s => TopicKeeps (io.topic topic) topic s)
      (topicsOf keys { s with redisClient := true }) { s with redisClient := true }

/-- Where the step is an emission, a tier takes the event; where it is a drain, each turn keeps
its entry. -/
def Keeps (c : Account P) : Op P → Prop
  | .emit io _ => Taken io c.service
  | .drain io => DrainKeeps io c.service
  | _ => True

end Account

/-! ## Where the parts put an event -/

section Parts

theorem effective_of_emitRaw {P : Type} {send : Reply} {event : Event P} {s s' : State P} {u : Unit}
    (h : emitRaw send event s = (.ok u, s')) : (s.initialised && send.effective) = true := by
  cases hs : s.initialised with
  | false =>
      rw [emitRaw_of_not_initialised hs] at h
      cases h
  | true =>
      rw [emitRaw_of_initialised hs] at h
      cases hsend : send.returned with
      | false =>
          rw [hsend] at h
          cases h
      | true => exact Reply.effective_of_returned hsend

theorem rPop_eq {P : Type} (r : Reply) (topic : String) (s : State P) :
    rPop r topic s = (if r.returned then (s.queues topic).getLast? else none,
      (rPop r topic s).2) := rfl

variable {P : Type} [DecidableEq P] (e : Event P)

/-- What is counted once when `p` holds. -/
def one (p : Prop) [Decidable p] : ℕ := if p then 1 else 0

@[simp] theorem one_pos {p : Prop} [Decidable p] (h : p) : one p = 1 := if_pos h

@[simp] theorem one_neg {p : Prop} [Decidable p] (h : ¬p) : one p = 0 := if_neg h

theorem one_mono {p q : Prop} [Decidable p] [Decidable q] (h : p → q) : one p ≤ one q := by
  by_cases hp : p
  · rw [one_pos hp, one_pos (h hp)]
  · rw [one_neg hp]
    exact Nat.zero_le _

theorem places_emitRaw (send : Reply) (event : Event P) (s : State P) :
    places e (emitRaw send event s).2 =
      places e s + one ((s.initialised && send.effective) = true ∧ event = e) := by
  cases hs : s.initialised with
  | false => simp [emitRaw_of_not_initialised hs]
  | true =>
      rw [emitRaw_of_initialised hs]
      cases send.effective with
      | false => simp [places, replayed]
      | true =>
          by_cases hevent : event = e
          · simp [places, replayed, hevent]
            omega
          · simp [places, replayed, hevent]

theorem places_lPush (r : Reply) (topic : String) (raw : Raw P) (s : State P) :
    places e (lPush r topic raw s).2 =
      places e s + one (r.effective = true ∧ topic = e.topic ∧ raw.event? = some e) := by
  cases hr : r.effective with
  | false => simp [lPush, hr]
  | true =>
      by_cases htopic : topic = e.topic
      · subst htopic
        by_cases hraw : raw.event? = some e
        · simp [lPush, hr, places, replayed, hraw]
          omega
        · simp [lPush, hr, places, replayed, hraw]
      · simp [lPush, hr, places, replayed, htopic, Function.update_of_ne (Ne.symm htopic)]

theorem places_rPop (r : Reply) (topic : String) {raw : Raw P} {s : State P}
    (hraw : (s.queues topic).getLast? = some raw) :
    places e s = places e (rPop r topic s).2 +
      one (r.effective = true ∧ topic = e.topic ∧ raw.event? = some e) := by
  obtain ⟨queue, hqueue⟩ : ∃ queue, s.queues topic = queue ++ [raw] :=
    ⟨_, (List.dropLast_append_getLast? raw hraw).symm⟩
  cases hr : r.effective with
  | false => simp [rPop, hr]
  | true =>
      by_cases htopic : topic = e.topic
      · subst htopic
        by_cases hevent : raw.event? = some e
        · simp [rPop, hr, places, replayed, hevent, hqueue]
          omega
        · simp [rPop, hr, places, replayed, hevent, hqueue]
      · simp [rPop, hr, places, replayed, htopic, Function.update_of_ne (Ne.symm htopic)]

theorem places_rPop_of_none (r : Reply) (topic : String) {s : State P}
    (hraw : (s.queues topic).getLast? = none) : places e (rPop r topic s).2 = places e s := by
  have hqueue := List.getLast?_eq_none_iff.mp hraw
  cases hr : r.effective with
  | false => simp [rPop, hr]
  | true =>
      have hsame : Function.update s.queues topic [] = s.queues := by
        rw [← hqueue, Function.update_eq_self]
      simp [rPop, hr, hqueue, hsame, places, replayed]

/-! ## The drain -/

theorem le_places_drainTurn {io : DrainIo} {topic : String} {turn : ℕ} {c : ℕ × State P}
    (h : TurnKeeps io topic turn c) :
    places e c.2 ≤ places e (drainTurn io topic turn c).state.2 := by
  obtain ⟨processed, s⟩ := c
  rw [drainTurn]
  by_cases hbatch : processed < DRAIN_BATCH_SIZE
  swap
  · rw [if_neg hbatch]
    exact le_rfl
  rw [if_pos hbatch, rPop_eq]
  cases hlast : (s.queues topic).getLast? with
  | none =>
      rw [ite_self]
      exact (places_rPop_of_none e (io.rPop turn) topic hlast).ge
  | some raw =>
      have hpopped := places_rPop e (io.rPop turn) topic hlast
      cases raw with
      | corrupt text =>
          have hsame : places e s = places e (rPop (io.rPop turn) topic s).2 := by
            simpa [Raw.event?] using hpopped
          cases (io.rPop turn).returned with
          | false => exact hsame.le
          | true =>
              simp only [if_true]
              split <;> exact hsame.le
      | entry entry =>
          obtain ⟨hlost, hback⟩ := h hbatch entry hlast
          cases hreply : io.rPop turn with
          | error effective =>
              cases effective with
              | true => exact absurd hreply hlost
              | false => simp [rPop]
          | ok =>
              rw [hreply] at hpopped
              set s₁ := (rPop .ok topic s).2
              have hinit : s₁.initialised = s.initialised := rfl
              have hsent := places_emitRaw e (io.send processed) entry.toEvent s₁
              have hrestored := places_lPush e io.lPush topic (.entry entry)
                (emitRaw (io.send processed) entry.toEvent s₁).2
              simp only [Reply.effective_ok, true_and, Raw.event?, Option.some.injEq]
                at hpopped hrestored
              rw [if_pos Reply.returned_ok]
              dsimp only
              cases hresult : emitRaw (io.send processed) entry.toEvent s₁ with
              | mk result s₂ =>
                  rw [hresult] at hsent hrestored
                  dsimp only at hsent hrestored hback
                  cases result with
                  | ok _ =>
                      have hdelivered := effective_of_emitRaw hresult
                      have hcounted := one_mono
                        (fun h : topic = e.topic ∧ entry.toEvent = e => And.intro hdelivered h.2)
                      change places e s ≤ places e s₂
                      omega
                  | error _ =>
                      change places e s ≤ places e (lPush io.lPush topic (.entry entry) s₂).2
                      rcases hback hreply with hdelivered | hpush
                      · have hcounted := one_mono
                          (fun h : topic = e.topic ∧ entry.toEvent = e => And.intro hdelivered h.2)
                        rw [hinit] at hsent
                        omega
                      · have hcounted := one_mono
                          (fun h : topic = e.topic ∧ entry.toEvent = e => And.intro hpush h)
                        omega

theorem le_places_drainTopic {io : DrainIo} {topic : String} {s : State P}
    (h : TopicKeeps io topic s) : places e s ≤ places e (drainTopic io topic s).2 :=
  Loop.run_invariant (fun c => places e s ≤ places e c.2)
    (fun _ _ hc hturn => hc.trans (le_places_drainTurn e hturn)) le_rfl h

theorem le_places_drainQueue {io : DrainQueueIo} {s : State P} (h : DrainKeeps io s) :
    places e s ≤ places e (drainQueue io s) := by
  unfold drainQueue
  cases hs : s.initialised with
  | false => exact le_rfl
  | true =>
      rw [if_pos rfl]
      cases hredis : s.redisClient || io.connect with
      | false => simp [getRedis, hredis]
      | true =>
          simp only [getRedis, hredis, if_true]
          cases hkeys : io.keys with
          | none => exact le_rfl
          | some keys =>
              exact Loop.run_invariant (fun s' => places e s ≤ places e s')
                (fun topic s' hs' htopic => hs'.trans (le_places_drainTopic e htopic)) le_rfl
                (h hs hredis keys hkeys)

/-! ## Emitting -/

/-- Every replay is of a row of the table. -/
def ReplaysKnown (s : State P) : Prop := ∀ c ∈ s.replays, ∃ r ∈ s.kafkaDLQ.rows, r.id = c.id

omit [DecidableEq P] in
theorem ReplaysKnown.not_replayed {s : State P} (h : ReplaysKnown s) {id : String}
    (hid : ∀ r ∈ s.kafkaDLQ.rows, r.id ≠ id) : replayed s id = false := by
  rw [replayed, List.any_eq_false]
  intro c hc
  obtain ⟨r, hr, hrc⟩ := h c hc
  have hne : c.id ≠ id := fun hcid => hid r hr (hrc.trans hcid)
  simp [hne]

theorem places_createRow {s : State P} (h : ReplaysKnown s) (create : Reply) (row : DlqEntry P) :
    places e (createRow create row s) = places e s +
      one ((create.effective = true ∧ ∀ r ∈ s.kafkaDLQ.rows, r.id ≠ row.id) ∧
        row.event? = some e) := by
  unfold createRow
  cases hcreate : create.effective with
  | false => simp
  | true =>
      rw [if_pos rfl]
      cases hrow : s.kafkaDLQ.create row with
      | none =>
          have htaken : ¬∀ r ∈ s.kafkaDLQ.rows, r.id ≠ row.id := by
            intro hfresh
            obtain ⟨t, ht⟩ := Table.exists_create (t := s.kafkaDLQ) (r := row)
              (by simpa [DlqEntry.keys, eq_comm] using hfresh)
            rw [hrow] at ht
            cases ht
          simp [htaken]
      | some t =>
          obtain ⟨hfresh, hrows⟩ := Table.create_eq_some hrow
          have hfresh : ∀ r ∈ s.kafkaDLQ.rows, r.id ≠ row.id := by
            simpa [DlqEntry.keys, eq_comm] using hfresh
          have hreplayed := h.not_replayed hfresh
          by_cases hevent : row.event? = some e
          · rw [one_pos ⟨⟨rfl, hfresh⟩, hevent⟩]
            have hcount : replayed { s with kafkaDLQ := t } row.id = false := hreplayed
            simp only [places, hrows, List.countP_append, List.countP_singleton, hevent, hcount]
            rfl
          · rw [one_neg fun hall => hevent hall.2]
            simp [places, hrows, hevent, replayed]

/-- The first tier sends where the broker counts as available. -/
theorem places_emitKafka (send : Reply) (event : Event P) (s : State P) :
    places e (emitKafka send event s).2 =
      places e s +
        one ((s.kafkaAvailable && s.initialised && send.effective) = true ∧ event = e) := by
  have hsent := places_emitRaw e send event s
  unfold emitKafka
  cases hon : s.kafkaAvailable && s.initialised with
  | false => simp
  | true =>
      have hs : s.initialised = true := (Bool.and_eq_true_iff.mp hon).2
      rw [hs, Bool.true_and] at hsent
      rw [if_pos rfl, Bool.true_and]
      cases hresult : emitRaw send event s with
      | mk result s₁ =>
          rw [hresult] at hsent
          cases result <;> exact hsent

theorem places_push (io : PushIo) (event : Event P) (s : State P) :
    places e (push io event s).2 =
      places e s + one (((s.redisClient || io.connect) && io.lPush.effective) = true ∧
        event = e) := by
  unfold push
  cases hredis : s.redisClient || io.connect with
  | false => simp [getRedis, hredis]
  | true =>
      have hpushed := places_lPush e io.lPush event.topic (.entry ⟨event, io.now⟩)
        { s with redisClient := true }
      simp only [getRedis, hredis, if_true, Bool.true_and]
      rw [hpushed]
      have hiff : (io.lPush.effective = true ∧ event.topic = e.topic ∧
          (Raw.entry (⟨event, io.now⟩ : QueueEntry P)).event? = some e) ↔
          (io.lPush.effective = true ∧ event = e) := by
        constructor
        · rintro ⟨hpush, -, hevent⟩
          exact ⟨hpush, Option.some.inj hevent⟩
        · rintro ⟨hpush, rfl⟩
          exact ⟨hpush, rfl, rfl⟩
      simp only [one, hiff]
      rfl

omit [DecidableEq P] in
/-- A tier that says it has taken the event has taken it, and one that says no leaves the next
tier what it needs. -/
theorem emitKafka_spec (send : Reply) (event : Event P) (s : State P) :
    (emitKafka send event s).1 = (s.kafkaAvailable && s.initialised && send.returned) ∧
      (emitKafka send event s).2.redisClient = s.redisClient ∧
      (emitKafka send event s).2.kafkaDLQ = s.kafkaDLQ ∧
      (emitKafka send event s).2.replays = s.replays := by
  unfold emitKafka
  cases hon : s.kafkaAvailable && s.initialised with
  | false => simp
  | true =>
      rw [if_pos rfl, emitRaw_of_initialised (Bool.and_eq_true_iff.mp hon).2]
      cases send.returned <;> exact ⟨rfl, rfl, rfl, rfl⟩

omit [DecidableEq P] in
theorem push_spec (io : PushIo) (event : Event P) (s : State P) :
    (push io event s).1 = ((s.redisClient || io.connect) && io.lPush.returned) ∧
      (push io event s).2.kafkaDLQ = s.kafkaDLQ ∧ (push io event s).2.replays = s.replays := by
  unfold push
  cases hredis : s.redisClient || io.connect with
  | false => simp [getRedis, hredis]
  | true =>
      simp only [getRedis, hredis, if_true, lPush]
      cases io.lPush.effective <;> exact ⟨rfl, rfl, rfl⟩

/-- An emission adds its event somewhere when a tier takes it, and takes nothing away. -/
theorem places_emit {s : State P} (h : ReplaysKnown s) (io : EmitIo) (event : Event P) :
    places e s ≤ places e (emit io event s).2 ∧
      (Taken io s → places e s + one (event = e) ≤ places e (emit io event s).2) := by
  obtain ⟨hkafka, hredisClient, hrows, hreplays⟩ := emitKafka_spec io.send event s
  have hsent := places_emitKafka e io.send event s
  unfold emit
  rcases hfirst : emitKafka io.send event s with ⟨sent, s₁⟩
  rw [hfirst] at hkafka hredisClient hrows hreplays hsent
  dsimp only at hkafka hredisClient hrows hreplays hsent
  cases sent with
  | true =>
      have heffective : (s.kafkaAvailable && s.initialised && io.send.effective) = true := by
        obtain ⟨hon, hreturned⟩ := Bool.and_eq_true_iff.mp hkafka.symm
        rw [hon, Reply.effective_of_returned hreturned]
        rfl
      have hone := one_mono (fun hevent : event = e => And.intro heffective hevent)
      exact ⟨by simp only; omega, fun _ => by simp only; omega⟩
  | false =>
      obtain ⟨hpushed, hrows', hreplays'⟩ := push_spec io.push event s₁
      have hqueued := places_push e io.push event s₁
      dsimp only
      rcases hsecond : push io.push event s₁ with ⟨queued, s₂⟩
      rw [hsecond] at hpushed hrows' hreplays' hqueued
      dsimp only at hpushed hrows' hreplays' hqueued
      rw [hredisClient] at hpushed hqueued
      cases queued with
      | true =>
          have heffective : ((s.redisClient || io.push.connect) && io.push.lPush.effective) =
              true := by
            obtain ⟨hon, hreturned⟩ := Bool.and_eq_true_iff.mp hpushed.symm
            rw [hon, Reply.effective_of_returned hreturned]
            rfl
          have hone := one_mono (fun hevent : event = e => And.intro heffective hevent)
          exact ⟨by simp only; omega, fun _ => by simp only; omega⟩
      | false =>
          have hknown : ReplaysKnown s₂ := by
            intro c hc
            rw [hreplays', hreplays] at hc
            rw [hrows', hrows]
            exact h c hc
          set row : DlqEntry P := pending io.dlq ⟨event.topic, event.key, event.payload,
            some "Kafka and Redis both unavailable"⟩
          have hevent : row.event? = some event := rfl
          have hid : row.id = io.dlq.id := rfl
          have hwritten := places_createRow e hknown io.dlq.create row
          rw [hrows', hrows, hevent, hid] at hwritten
          change places e s ≤ places e (createRow io.dlq.create row s₂) ∧
            (Taken io s → places e s + one (event = e) ≤
              places e (createRow io.dlq.create row s₂))
          refine ⟨by omega, fun htaken => ?_⟩
          rcases htaken with hkafka | hredis | hdlq
          · have hone := one_mono (fun hevent : event = e => And.intro hkafka hevent)
            omega
          · have hone := one_mono (fun hevent : event = e => And.intro hredis hevent)
            omega
          · have hone := one_mono (fun hevent : event = e =>
              And.intro hdlq (congrArg some hevent))
            omega

/-! ## Replaying -/

/-- What no change of a row touches. -/
def core (r : DlqEntry P) : String × Option (Event P) := (r.id, r.event?)

omit [DecidableEq P] in
theorem eq_of_id_eq {t : Table (DlqEntry.keys (P := P))} {r r' : DlqEntry P} (hr : r ∈ t.rows)
    (hr' : r' ∈ t.rows) (hid : r.id = r'.id) : r = r' :=
  Table.eq_of_mem_keys (k := r'.id) hr hr' (by simp [DlqEntry.keys, hid]) (by simp [DlqEntry.keys])

omit [DecidableEq P] in
theorem countP_id_le_one (t : Table (DlqEntry.keys (P := P))) (id : String) :
    t.rows.countP (fun r => decide (r.id = id)) ≤ 1 := by
  obtain ⟨rows, hunique⟩ := t
  induction rows with
  | nil => simp
  | cons r rows ih =>
      obtain ⟨hr, hrows⟩ := List.pairwise_cons.mp hunique
      by_cases hid : r.id = id
      · have hnone : rows.countP (fun r => decide (r.id = id)) = 0 := by
          rw [List.countP_eq_zero]
          intro r' hr' hid'
          have hne := hr r' hr' r.id (by simp [DlqEntry.keys])
          simp [DlqEntry.keys, hid, of_decide_eq_true hid'] at hne
        simp [hid, hnone]
      · simpa [hid] using ih hrows

/-- What a pass over the rows of `s₀` keeps: an event is in no fewer than `n` places. -/
structure Replaying (n : ℕ) (s₀ s : State P) : Prop where
  counted : n ≤ places e s
  known : ReplaysKnown s
  same : s.kafkaDLQ.rows.map core = s₀.kafkaDLQ.rows.map core

section Replaying

variable {e} {n : ℕ} {s₀ s : State P}

/-- A step that changes neither the replays nor what a row is about moves no event. -/
theorem Replaying.of_same {s' : State P} (h : Replaying e n s₀ s)
    (hdelivered : s'.delivered = s.delivered) (hqueues : s'.queues = s.queues)
    (hreplays : s'.replays = s.replays)
    (hrows : s'.kafkaDLQ.rows.map core = s.kafkaDLQ.rows.map core) : Replaying e n s₀ s' := by
  have hcount : ∀ t : State P,
      t.kafkaDLQ.rows.countP (fun r => decide (r.event? = some e) && !replayed t r.id) =
        (t.kafkaDLQ.rows.map core).countP
          fun c => decide (c.2 = some e) && !replayed t c.1 := by
    intro t
    rw [List.countP_map]
    rfl
  have hplaces : places e s' = places e s := by
    unfold places
    rw [hcount, hcount, hrows, hdelivered, hqueues]
    simp only [replayed, hreplays]
  refine ⟨hplaces ▸ h.counted, ?_, hrows.trans h.same⟩
  intro c hc
  rw [hreplays] at hc
  obtain ⟨r, hr, hid⟩ := h.known c hc
  have hmem : core r ∈ s'.kafkaDLQ.rows.map core := hrows ▸ List.mem_map_of_mem hr
  obtain ⟨r', hr', hcore⟩ := List.mem_map.mp hmem
  exact ⟨r', hr', (congrArg Prod.fst hcore).trans hid⟩

omit [DecidableEq P] in
theorem map_core_update {f : RowUpdate (DlqEntry.keys (P := P))}
    (hf : ∀ r, core (f.apply r) = core r)
    (t : Table (DlqEntry.keys (P := P))) (id : String) :
    (t.update id f).rows.map core = t.rows.map core := by
  simp only [Table.update, Table.updateMany, List.map_map]
  refine List.map_congr_left fun r _ => ?_
  by_cases hid : id ∈ DlqEntry.keys r
  · simp [hid, hf]
  · simp [hid]

theorem Replaying.updateRow (h : Replaying e n s₀ s) {f : RowUpdate (DlqEntry.keys (P := P))}
    (hf : ∀ r, core (f.apply r) = core r) (id : String) :
    Replaying e n s₀ (updateRow id f s) :=
  h.of_same rfl rfl rfl (map_core_update hf s.kafkaDLQ id)

omit [DecidableEq P] in
/-- A remote call: whether it returns, and whether it has its effect. -/
theorem call_eq {io : ReplayIo} {s : State P} (c : RemoteCall) (failed : Exn)
    (f : State P → State P) :
    io.call c failed f s =
      (if io.crash = some c then .error .crashed
        else if (io.reply c).returned then .ok () else .error (.thrown failed),
        if (io.reply c).effective then f s else s) := by
  unfold ReplayIo.call
  dsimp only
  split
  · rfl
  · split <;> rfl

theorem keeps_call {f : RowUpdate (DlqEntry.keys (P := P))} (hf : ∀ r, core (f.apply r) = core r)
    (io : ReplayIo) (c : RemoteCall) (failed : Exn) (id : String) :
    Action.Keeps (Replaying e n s₀) (io.call c failed (Kafka.updateRow id f)) := by
  refine Action.Keeps.of_final fun s hs => ?_
  rw [call_eq]
  dsimp only
  split
  · exact hs.updateRow hf id
  · exact hs

omit [DecidableEq P] in
theorem replayFn_final (io : ReplayIo) (id : String) (event : Event P) :
    (replayFn io id event s).2 = (emitRaw (io.reply .send) event { s with
      replays := s.replays ++ [⟨id, event, s.initialised && (io.reply .send).effective⟩] }).2 := by
  unfold replayFn
  dsimp only
  rcases emitRaw (io.reply .send) event { s with
      replays := s.replays ++ [⟨id, event, s.initialised && (io.reply .send).effective⟩] } with
    ⟨result, s'⟩
  dsimp only
  split
  · rfl
  · cases result <;> rfl

omit [DecidableEq P] in
/-- Setting one row apart lowers a count by at most one. -/
theorem countP_le_countP_add_one {p q : DlqEntry P → Bool} (id : String)
    (h : ∀ r ∈ s.kafkaDLQ.rows, p r = true → r.id ≠ id → q r = true) :
    s.kafkaDLQ.rows.countP p ≤ s.kafkaDLQ.rows.countP q + 1 := by
  have hsplit := s.kafkaDLQ.rows.countP_eq_countP_filter_add p fun r => decide (r.id = id)
  rw [List.countP_filter, List.countP_filter] at hsplit
  have hone : s.kafkaDLQ.rows.countP (fun r => p r && decide (r.id = id)) ≤ 1 := by
    refine le_trans (List.countP_mono_left fun r _ hr => ?_) (countP_id_le_one s.kafkaDLQ id)
    exact (Bool.and_eq_true_iff.mp hr).2
  have hrest : s.kafkaDLQ.rows.countP (fun r => p r && !decide (r.id = id)) ≤
      s.kafkaDLQ.rows.countP q := by
    refine List.countP_mono_left fun r hr hpr => ?_
    obtain ⟨hp, hid⟩ := Bool.and_eq_true_iff.mp hpr
    exact h r hr hp (by simpa using hid)
  omega

/-- The event moves from its row to the broker, or stays where it was. -/
theorem le_places_replayFn {entry : DlqEntry P} {event : Event P}
    (hentry : core entry ∈ s.kafkaDLQ.rows.map core) (hevent : entry.event? = some event)
    (io : ReplayIo) : places e s ≤ places e (replayFn io entry.id event s).2 := by
  rw [replayFn_final]
  set delivered := s.initialised && (io.reply .send).effective
  set s' : State P := { s with replays := s.replays ++ [⟨entry.id, event, delivered⟩] }
  rw [places_emitRaw]
  change places e s ≤ places e s' + one (delivered = true ∧ event = e)
  have hreplayed : ∀ id, replayed s' id =
      (replayed s id || decide (entry.id = id) && delivered) := by
    intro id
    simp [replayed, s']
  have habout : ∀ r ∈ s.kafkaDLQ.rows, r.id = entry.id → r.event? = some event := by
    intro r hr hid
    obtain ⟨r', hr', hcore⟩ := List.mem_map.mp hentry
    have hid' : r'.id = entry.id := congrArg Prod.fst hcore
    rw [eq_of_id_eq hr hr' (hid.trans hid'.symm)]
    exact (congrArg Prod.snd hcore).trans hevent
  have hplaces : places e s' = s.delivered.count e +
      (s.queues e.topic).countP (fun raw => decide (raw.event? = some e)) +
      s.kafkaDLQ.rows.countP fun r => decide (r.event? = some e) && !replayed s' r.id := rfl
  rw [hplaces, places]
  by_cases hmoved : delivered = true ∧ event = e
  · have hrows := countP_le_countP_add_one (s := s)
      (p := fun r => decide (r.event? = some e) && !replayed s r.id)
      (q := fun r => decide (r.event? = some e) && !replayed s' r.id) entry.id (by
        intro r _ hr hid
        have hne : ¬entry.id = r.id := fun h => hid h.symm
        simpa [hreplayed, hne] using hr)
    rw [one_pos hmoved]
    omega
  · have hrows : s.kafkaDLQ.rows.countP
          (fun r => decide (r.event? = some e) && !replayed s r.id) ≤
        s.kafkaDLQ.rows.countP fun r => decide (r.event? = some e) && !replayed s' r.id := by
      refine List.countP_mono_left fun r hr hcounted => ?_
      obtain ⟨hcarried, hnot⟩ := Bool.and_eq_true_iff.mp hcounted
      have hstill : (decide (entry.id = r.id) && delivered) = false := by
        by_contra hnow
        obtain ⟨hid, hdelivered⟩ := Bool.and_eq_true_iff.mp (Bool.not_eq_false _ ▸ hnow)
        have hsame := habout r hr (of_decide_eq_true hid).symm
        rw [of_decide_eq_true hcarried] at hsame
        exact hmoved ⟨hdelivered, (Option.some.inj hsame).symm⟩
      rw [Bool.and_eq_true_iff]
      exact ⟨hcarried, by rw [hreplayed, hstill, Bool.or_false]; exact hnot⟩
    omega

omit [DecidableEq P] in
theorem known_replayFn {entry : DlqEntry P} (hknown : ReplaysKnown s)
    (hentry : core entry ∈ s.kafkaDLQ.rows.map core) (event : Event P) (io : ReplayIo) :
    ReplaysKnown (replayFn io entry.id event s).2 ∧
      (replayFn io entry.id event s).2.kafkaDLQ = s.kafkaDLQ := by
  obtain ⟨delivered, kafkaAvailable, hframe⟩ := emitRaw_frame (io.reply .send) event { s with
    replays := s.replays ++ [⟨entry.id, event, s.initialised && (io.reply .send).effective⟩] }
  rw [replayFn_final, hframe]
  refine ⟨fun c hc => ?_, rfl⟩
  rcases List.mem_append.mp hc with hc | hc
  · exact hknown c hc
  · rw [List.mem_singleton.mp hc]
    obtain ⟨r, hr, hcore⟩ := List.mem_map.mp hentry
    exact ⟨r, hr, congrArg Prod.fst hcore⟩

theorem keeps_tryReplay {entry : DlqEntry P} (hentry : core entry ∈ s₀.kafkaDLQ.rows.map core)
    (io : ReplayIo) : Action.Keeps (Replaying e n s₀) (tryReplay io entry) := by
  refine (keeps_call (fun _ => rfl) io .mark storeDown entry.id).bind fun _ => ?_
  have hparse : Action.Triple (Replaying e n s₀) (parse entry.payload)
      (fun p s => entry.payload = .value p ∧ Replaying e n s₀ s) (Replaying e n s₀) := by
    cases entry.payload with
    | corrupt => exact Action.Triple.throw fun _ hs => hs
    | value p => exact Action.Triple.pure fun _ hs => ⟨rfl, hs⟩
  refine hparse.bind fun p => Action.Triple.intro fun hpayload => ?_
  have hevent : entry.event? = some ⟨entry.topic, entry.eventKey, p⟩ := by
    simp [DlqEntry.event?, hpayload]
  have hreplay : Action.Keeps (Replaying e n s₀)
      (replayFn io entry.id ⟨entry.topic, entry.eventKey, p⟩) := by
    refine Action.Keeps.of_final fun s hs => ?_
    have hmem : core entry ∈ s.kafkaDLQ.rows.map core := hs.same ▸ hentry
    obtain ⟨hknown, hrows⟩ :=
      known_replayFn hs.known hmem ⟨entry.topic, entry.eventKey, p⟩ io
    exact ⟨hs.counted.trans (le_places_replayFn hmem hevent io), hknown, by rw [hrows, hs.same]⟩
  exact hreplay.bind fun _ => keeps_call (fun _ => rfl) io .close storeDown entry.id

theorem Replaying.down (h : Replaying e n s₀ s) : Replaying e n s₀ (down s) :=
  h.of_same rfl rfl rfl rfl

theorem Replaying.replayEntry (h : Replaying e n s₀ s) {entry : DlqEntry P}
    (hentry : core entry ∈ s₀.kafkaDLQ.rows.map core) (io : ReplayIo) :
    Replaying e n s₀ (replayEntry io entry s).state := by
  have htried := (keeps_tryReplay hentry io).final h
  unfold Kafka.replayEntry
  rcases htry : tryReplay io entry s with ⟨result, s₁⟩
  rw [htry] at htried
  rcases result with (i | _)
  · cases i with
    | crashed => exact htried.down
    | thrown ex =>
        have hsettled := (keeps_call (f := settled entry.retryCount ex) (fun _ => rfl) io .settle
          storeDown entry.id).final htried
        dsimp only at hsettled ⊢
        rcases hcall : io.call .settle storeDown
          (Kafka.updateRow entry.id (settled entry.retryCount ex)) s₁ with ⟨result, s₂⟩
        rw [hcall] at hsettled
        rcases result with (i | _)
        · cases i with
          | crashed => exact hsettled.down
          | thrown _ => exact hsettled
        · exact hsettled
  · exact htried

end Replaying

/-- A pass over the dead letters loses no event. -/
theorem replaying_replayPending {s : State P} (h : ReplaysKnown s) (io : ReplayPendingIo) :
    Replaying e (places e s) s (replayPending io s) := by
  have hstart : Replaying e (places e s) s s := ⟨le_rfl, h, rfl⟩
  unfold replayPending
  split
  swap
  · exact hstart
  have hfound : ∀ entry ∈ getPendingEntries 20 s, core entry ∈ s.kafkaDLQ.rows.map core :=
    fun entry hentry =>
      List.mem_map_of_mem (Table.mem_findManyDesc.mp (List.mem_of_mem_take hentry)).1
  exact Loop.run_preserves (Replaying e (places e s) s)
    (fun entry hentry s' hs' => hs'.replayEntry (hfound entry hentry) (io.entry entry.id)) hstart

end Parts

/-! ## Whole runs -/

section Runs

variable {P : Type}

theorem ReplaysKnown.createRow {s : State P} (h : ReplaysKnown s) (create : Reply)
    (row : DlqEntry P) : ReplaysKnown (createRow create row s) := by
  rcases createRow_cases create row s with hrow | ⟨t, hrow, hwritten⟩
  · rw [hrow]
    exact h
  · rw [hwritten]
    intro c hc
    obtain ⟨r, hr, hid⟩ := h c hc
    exact ⟨r, (Table.mem_create hrow).mpr (.inl hr), hid⟩

/-- What leaves the dead letters and their replays alone. -/
structure SameRows (s s' : State P) : Prop where
  replays : s'.replays = s.replays
  kafkaDLQ : s'.kafkaDLQ = s.kafkaDLQ

theorem SameRows.trans {s s' s'' : State P} (h : SameRows s s') (h' : SameRows s' s'') :
    SameRows s s'' := ⟨h'.replays.trans h.replays, h'.kafkaDLQ.trans h.kafkaDLQ⟩

theorem ReplaysKnown.of_same {s s' : State P} (h : ReplaysKnown s) (hsame : SameRows s s') :
    ReplaysKnown s' := by
  intro c hc
  rw [hsame.replays] at hc
  rw [hsame.kafkaDLQ]
  exact h c hc

/-- An emission leaves the rows there are and writes at most one. -/
theorem emit_cases (io : EmitIo) (event : Event P) (s : State P) :
    (emit io event s).1 = .ok () ∧ ∃ s', SameRows s s' ∧
      ((emit io event s).2 = s' ∨
        (emit io event s).2 = pushToDlq io.dlq ⟨event.topic, event.key, event.payload,
          some "Kafka and Redis both unavailable"⟩ s') := by
  obtain ⟨-, -, hrows, hreplays⟩ := emitKafka_spec io.send event s
  unfold emit
  rcases hfirst : emitKafka io.send event s with ⟨sent, s₁⟩
  rw [hfirst] at hrows hreplays
  cases sent with
  | true => exact ⟨rfl, s₁, ⟨hreplays, hrows⟩, .inl rfl⟩
  | false =>
      obtain ⟨-, hrows', hreplays'⟩ := push_spec io.push event s₁
      dsimp only
      rcases hsecond : push io.push event s₁ with ⟨queued, s₂⟩
      rw [hsecond] at hrows' hreplays'
      cases queued with
      | true => exact ⟨rfl, s₂, ⟨hreplays'.trans hreplays, hrows'.trans hrows⟩, .inl rfl⟩
      | false => exact ⟨rfl, s₂, ⟨hreplays'.trans hreplays, hrows'.trans hrows⟩, .inr rfl⟩

theorem sameRows_lPush (r : Reply) (topic : String) (raw : Raw P) (s : State P) :
    SameRows s (lPush r topic raw s).2 := by
  unfold lPush
  cases r.effective <;> exact ⟨rfl, rfl⟩

theorem sameRows_rPop (r : Reply) (topic : String) (s : State P) :
    SameRows s (rPop r topic s).2 := by
  unfold rPop
  cases r.effective <;> exact ⟨rfl, rfl⟩

theorem sameRows_emitRaw (send : Reply) (event : Event P) (s : State P) :
    SameRows s (emitRaw send event s).2 := by
  obtain ⟨delivered, kafkaAvailable, hframe⟩ := emitRaw_frame send event s
  rw [hframe]
  exact ⟨rfl, rfl⟩

/-- Past the broker there is one row at most. -/
theorem publishToDlqTopic_cases (fields : DlqFields P) (io : PublishIo) (originalPayload : P)
    (reason : String) (s : State P) :
    let s' := (emitRaw io.send (dlqEvent fields io originalPayload reason) s).2
    publishToDlqTopic fields io originalPayload reason s = s' ∨
      ∃ row : DlqEntry P, row.event? = some (dlqEvent fields io originalPayload reason) ∧
        isPending row = true ∧ row.retryCount = 0 ∧
        (∃ e, (emitRaw io.send (dlqEvent fields io originalPayload reason) s).1 = .error e) ∧
        publishToDlqTopic fields io originalPayload reason s = createRow io.dlq.create row s' := by
  unfold publishToDlqTopic
  dsimp only
  rcases emitRaw io.send (dlqEvent fields io originalPayload reason) s with ⟨result, s'⟩
  cases result with
  | ok _ => exact .inl rfl
  | error e => exact .inr ⟨pending io.dlq _, rfl, rfl, rfl, ⟨e, rfl⟩, rfl⟩

theorem sameRows_drainTopic (io : DrainIo) (topic : String) {s s' : State P} (h : SameRows s s') :
    SameRows s (drainTopic io topic s').2 :=
  drainTopic_keeps (I := SameRows s)
    (fun io turn _ hc => drainTurn_keeps
      (fun r event t ht => ht.trans (sameRows_emitRaw r event t))
      (fun r raw t ht => ht.trans (sameRows_lPush r topic raw t))
      (fun r t ht => ht.trans (sameRows_rPop r topic t))
      (fun _ _ ht => ⟨ht.replays, ht.kafkaDLQ⟩) io turn hc) io h

theorem sameRows_drainQueue (io : DrainQueueIo) (s : State P) : SameRows s (drainQueue io s) :=
  drainQueue_keeps (fun _ h => ⟨h.replays, h.kafkaDLQ⟩)
    (fun io topic _ h => sameRows_drainTopic io topic h) io ⟨rfl, rfl⟩

variable [DecidableEq P] (json : DlqPayload → P)

/-- An event that is submitted counts once more, and a step that keeps its entries takes no
event away. -/
theorem kept_accountStep {c : Account P} {op : Op P} (h : Kept c) (hknown : ReplaysKnown c.service)
    (hop : Keeps c op) :
    Kept (accountStep json c op) ∧ ReplaysKnown (accountStep json c op).service := by
  have hwritten : ∀ {s'}, ReplaysKnown s' → (∀ e, places e c.service ≤ places e s') →
      ∀ create row, (∀ e, c.submitted.count e ≤ places e (createRow create row s')) ∧
        ReplaysKnown (createRow create row s') := by
    intro s' hknown' hle create row
    refine ⟨fun e => ?_, hknown'.createRow create row⟩
    rw [places_createRow e hknown']
    exact (h e).trans ((hle e).trans (Nat.le_add_right _ _))
  cases op with
  | start connected => exact ⟨h, hknown⟩
  | stop => exact ⟨h, hknown⟩
  | emit io event =>
      obtain ⟨hok, s', hsame, hcases⟩ := emit_cases io event c.service
      have hsubmitted : submit c (.emit io event) = c.submitted ++ [event] := by
        simp [submit, hok]
      refine ⟨fun e => ?_, ?_⟩
      · have hplaced := (places_emit e hknown io event).2 hop
        have hcount : (c.submitted ++ [event]).count e = c.submitted.count e + one (event = e) := by
          by_cases hevent : event = e
          · simp [hevent]
          · simp [hevent]
        change (submit c (.emit io event)).count e ≤ places e (emit io event c.service).2
        rw [hsubmitted, hcount]
        exact (Nat.add_le_add_right (h e) _).trans hplaced
      · have hknown' := hknown.of_same hsame
        rcases hcases with hcase | hcase
        · change ReplaysKnown (emit io event c.service).2
          rw [hcase]
          exact hknown'
        · change ReplaysKnown (emit io event c.service).2
          rw [hcase]
          exact hknown'.createRow _ _
  | publishToDlqTopic fields io originalPayload reason =>
      have hknown' := hknown.of_same
        (sameRows_emitRaw io.send (dlqEvent fields io originalPayload reason) c.service)
      have hle : ∀ e, places e c.service ≤ places e
          (emitRaw io.send (dlqEvent fields io originalPayload reason) c.service).2 :=
        fun e => places_emitRaw e io.send _ c.service ▸ Nat.le_add_right _ _
      change (∀ e, c.submitted.count e ≤
        places e (publishToDlqTopic fields io originalPayload reason c.service)) ∧
          ReplaysKnown (publishToDlqTopic fields io originalPayload reason c.service)
      rcases publishToDlqTopic_cases fields io originalPayload reason c.service with
        hsent | ⟨row, -, -, -, -, hrow⟩
      · rw [hsent]
        exact ⟨fun e => (h e).trans (hle e), hknown'⟩
      · rw [hrow]
        exact hwritten hknown' hle io.dlq.create row
  | pushToDlq io entry => exact hwritten hknown (fun _ => le_rfl) io.create (pending io entry)
  | drain io =>
      exact ⟨fun e => (h e).trans (le_places_drainQueue e hop),
        hknown.of_same (sameRows_drainQueue io c.service)⟩
  | replay io =>
      exact ⟨fun e => (h e).trans (replaying_replayPending e hknown io).counted,
        fun r hr => (replaying_replayPending r.event hknown io).known r hr⟩
  | markDead update id =>
      have hmarked : ∀ e, Replaying e (places e c.service) c.service
          (markDead update id c.service) := by
        intro e
        have hstart : Replaying e (places e c.service) c.service c.service := ⟨le_rfl, hknown, rfl⟩
        unfold markDead
        split
        · exact hstart.updateRow (f := setStatus "DEAD") (fun _ => rfl) id
        · exact hstart
      refine ⟨fun e => (h e).trans (hmarked e).counted, ?_⟩
      change ReplaysKnown (markDead update id c.service)
      intro r hr
      exact (hmarked r.event).known r hr
  | policyFailed io userId dto order plan ex =>
      exact hwritten hknown (fun _ => le_rfl) io.create _
  | retriesExhausted io entry attempts ex =>
      exact hwritten hknown (fun _ => le_rfl) io.create _

/-- Where a tier takes every event that is emitted and the drain keeps every entry it is about,
every event whose submission was not reported to have failed is with the broker, in the list of
its topic, or in a dead letter that is not yet delivered. -/
theorem never_dropped (ops : List (Op P)) (h : Run.Along (accountStep json) Keeps {} ops) :
    Run.Always (accountStep json) Kept {} ops := by
  have hstart : Kept ({} : Account P) ∧ ReplaysKnown ({} : Account P).service :=
    ⟨fun e => Nat.zero_le _, fun c hc => absurd hc List.not_mem_nil⟩
  have hrun : Run.Always (accountStep json)
      (fun c : Account P => Kept c ∧ ReplaysKnown c.service) {} ops := by
    refine Run.always_of_step ?_ hstart h
    intro c op hc hop
    exact kept_accountStep json hc.1 hc.2 hop
  exact hrun.mono fun _ hc => hc.1

end Runs

/-! ## Three ways to lose an event -/

namespace Outage

def event : Event String := ⟨"driver_telemetry", some "d1", "first"⟩

/-- Neither the broker nor Redis is there, and the store does not take the row. -/
def unstored : EmitIo := ⟨.error false, ⟨false, .ok, 1⟩, ⟨.error false, "r1", 1⟩⟩

/-- The event goes to Redis. -/
def queued : EmitIo := ⟨.error false, ⟨true, .ok, 1⟩, ⟨.ok, "r1", 1⟩⟩

/-- The broker refuses the entry and Redis does not take it back. -/
def unrestored : DrainQueueIo :=
  ⟨true, some ["driver_telemetry"], fun _ => ⟨fun _ => .ok, fun _ => .error false, .error false⟩⟩

/-- The pop takes the entry and its answer is lost. -/
def unanswered : DrainQueueIo :=
  ⟨true, some ["driver_telemetry"], fun _ => ⟨fun _ => .error true, fun _ => .ok, .ok⟩⟩

/-- The broker refuses the entry and Redis takes it back. -/
def restored : DrainQueueIo :=
  ⟨true, some ["driver_telemetry"], fun _ => ⟨fun _ => .ok, fun _ => .error false, .ok⟩⟩

def json : DlqPayload → String := fun _ => "{}"

end Outage

open Outage in
theorem never_dropped_restored :
    Kept (Run.final (accountStep json) {} [.start false, .emit queued event, .drain restored]) := by
  refine (never_dropped json [.start false, .emit queued event, .drain restored] ?_).last
  refine ⟨trivial, .inr (.inl rfl), fun _ _ keys hkeys => ?_, trivial⟩
  cases hkeys
  refine ⟨⟨fun _ _ _ => ⟨by decide, fun _ => .inr rfl⟩, fun _ hnext => ?_⟩, fun _ _ => trivial⟩
  cases hnext

open Outage in
theorem not_kept_outage :
    ¬Kept (Run.final (accountStep json) {} [.start false, .emit unstored event]) ∧
      ¬Kept (Run.final (accountStep json) {}
        [.start false, .emit queued event, .drain unrestored]) ∧
      ¬Kept (Run.final (accountStep json) {}
        [.start false, .emit queued event, .drain unanswered]) := by
  refine ⟨fun h => ?_, fun h => ?_, fun h => ?_⟩
  · exact absurd (h event) (by decide)
  · exact absurd (h event) (by decide)
  · exact absurd (h event) (by decide)

end Aegis.Kafka
