import Mathlib.Data.List.Dedup
import Aegis.Verification.Kafka.Steps

/-! # The order of the fallback lists

A list is pushed at its head and popped at its end. A delivery that fails puts its entry back
at the head, behind all others, so the order survives a failure only where nothing else waits
behind the entry. -/

namespace Aegis.Kafka

open Loop

section Order

variable {P : Type}

def Raw.parsed : Raw P → Option (QueueEntry P)
  | .entry e => some e
  | .corrupt _ => none

@[simp] theorem Raw.parsed_entry (e : QueueEntry P) : (Raw.entry e).parsed = some e := rfl

@[simp] theorem Raw.parsed_corrupt (text : String) :
    (Raw.corrupt text : Raw P).parsed = none := rfl

/-- The entries that a drain of the topic would meet, the next one first. -/
def waiting (topic : String) (s : State P) : List (QueueEntry P) :=
  (s.queues topic).reverse.filterMap Raw.parsed

/-- The entries of the topic's list that the drain has delivered, the earliest first. -/
def drainedFrom (topic : String) (s : State P) : List (QueueEntry P) :=
  s.drained.filterMap fun d => if d.1 = topic then some d.2 else none

/-- What was delivered had waited longest, and the rest waits in the order it had. -/
def LeftAsItWas (topic : String) (s s' : State P) : Prop :=
  ∃ k, drainedFrom topic s' = drainedFrom topic s ++ (waiting topic s).take k ∧
    waiting topic s' = (waiting topic s).drop k

/-- Draining against a Redis that answers, with what the drain function does at each call. -/
def answering (send : ℕ → Reply) : DrainIo := ⟨fun _ => .ok, send, .ok⟩

/-- A run of the drain: the drain function may begin to fail at any entry of any topic. -/
structure Drain where
  connect : Bool
  keys : Option (List String)
  send : String → ℕ → Reply

def Drain.io (d : Drain) : DrainQueueIo :=
  ⟨d.connect, d.keys, fun topic => answering (d.send topic)⟩

/-- The entry at which a drain breaks off, with what is left behind it. -/
def failure (send : ℕ → Reply) : ℕ → List (Raw P) → Option (QueueEntry P × List (Raw P))
  | _, [] => none
  | processed, .corrupt text :: rest =>
      if processed < DRAIN_BATCH_SIZE ∧ text ≠ "" then failure send processed rest else none
  | processed, .entry e :: rest =>
      if processed < DRAIN_BATCH_SIZE then
        if (send processed).returned then failure send (processed + 1) rest else some (e, rest)
      else none

/-- The drain gets to the topic. -/
def Drain.Reaches (d : Drain) (topic : String) (s : State P) : Prop :=
  s.initialised = true ∧ (s.redisClient || d.connect) = true ∧ ∃ keys ∈ d.keys, topic ∈ keys

/-- Behind an entry whose delivery fails there are at most copies of it. -/
def Drain.FailsLast (d : Drain) (topic : String) (s : State P) : Prop :=
  d.Reaches topic s → ∀ e rest, failure (d.send topic) 0 (s.queues topic).reverse = some (e, rest) →
    ∀ x ∈ rest.filterMap Raw.parsed, x = e

/-! ## One list -/

/-- The entries that are delivered, from those of the list in the order in which it is popped. -/
def taken (send : ℕ → Reply) : ℕ → List (Raw P) → List (QueueEntry P)
  | _, [] => []
  | processed, .corrupt text :: rest =>
      if processed < DRAIN_BATCH_SIZE ∧ text ≠ "" then taken send processed rest else []
  | processed, .entry e :: rest =>
      if processed < DRAIN_BATCH_SIZE ∧ (send processed).returned = true then
        e :: taken send (processed + 1) rest
      else []

/-- What is left of the list, in the order in which it will be popped. -/
def left (send : ℕ → Reply) : ℕ → List (Raw P) → List (Raw P)
  | _, [] => []
  | processed, .corrupt text :: rest =>
      if processed < DRAIN_BATCH_SIZE then
        if text = "" then rest else left send processed rest
      else .corrupt text :: rest
  | processed, .entry e :: rest =>
      if processed < DRAIN_BATCH_SIZE then
        if (send processed).returned then left send (processed + 1) rest else rest ++ [.entry e]
      else .entry e :: rest

theorem append_singleton_eq_cons_iff {α : Type} (l : List α) (a : α) :
    l ++ [a] = a :: l ↔ ∀ x ∈ l, x = a := by
  induction l with
  | nil => simp
  | cons b l ih =>
      constructor
      · intro h
        rw [List.cons_append] at h
        obtain ⟨rfl, htail⟩ := List.cons.inj h
        have hall := ih.mp htail
        intro x hx
        rcases List.mem_cons.mp hx with rfl | hx
        · rfl
        · exact hall x hx
      · intro h
        have hb : b = a := h b (by simp)
        subst hb
        rw [List.cons_append, ih.mpr fun x hx => h x (by simp [hx])]

/-- The delivered entries and those left are the entries of the list, in order, exactly when
the entry that fails has at most copies of itself behind it. -/
theorem taken_append_left_iff (send : ℕ → Reply) (processed : ℕ) (queue : List (Raw P)) :
    taken send processed queue ++ (left send processed queue).filterMap Raw.parsed =
        queue.filterMap Raw.parsed ↔
      ∀ e rest, failure send processed queue = some (e, rest) →
        ∀ x ∈ rest.filterMap Raw.parsed, x = e := by
  induction queue generalizing processed with
  | nil => simp [taken, left, failure]
  | cons raw queue ih =>
      cases raw with
      | corrupt text =>
          by_cases hbatch : processed < DRAIN_BATCH_SIZE
          · by_cases htext : text = ""
            · simp [taken, left, failure, hbatch, htext, List.filterMap_cons]
            · simpa [taken, left, failure, hbatch, htext, List.filterMap_cons] using ih processed
          · simp [taken, left, failure, hbatch]
      | entry e =>
          by_cases hbatch : processed < DRAIN_BATCH_SIZE
          · by_cases hsend : (send processed).returned = true
            · simpa [taken, left, failure, hbatch, hsend] using ih (processed + 1)
            · simpa [taken, left, failure, hbatch, hsend] using
                append_singleton_eq_cons_iff (queue.filterMap Raw.parsed) e
          · simp [taken, left, failure, hbatch]

/-! ## The loop over a list -/

theorem drainedFrom_snoc (topic topic' : String) (e : QueueEntry P) (s : State P) :
    drainedFrom topic { s with drained := s.drained ++ [(topic', e)] } =
      drainedFrom topic s ++ if topic' = topic then [e] else [] := by
  by_cases h : topic' = topic <;> simp [drainedFrom, h]

/-- What a loop over the topic's list has done, its entries being `queue` in the order in which
they are popped. -/
structure Drained (send : ℕ → Reply) (topic : String) (processed : ℕ) (queue : List (Raw P))
    (s s' : State P) : Prop where
  initialised : s'.initialised = true
  drained : drainedFrom topic s' = drainedFrom topic s ++ taken send processed queue
  queue : s'.queues topic = (left send processed queue).reverse

section Turn

variable {send : ℕ → Reply} {topic : String} {processed turn : ℕ} {queue : List (Raw P)}
  {s : State P}

/-- The state after the last element of the topic's list is popped. -/
def popped (topic : String) (queue : List (Raw P)) (s : State P) : State P :=
  { s with queues := Function.update s.queues topic queue.reverse }

@[simp] theorem drainedFrom_popped :
    drainedFrom topic (popped topic queue s) = drainedFrom topic s :=
  rfl

theorem rPop_of_queue {raw : Raw P} (hqueue : s.queues topic = (raw :: queue).reverse) :
    rPop .ok topic s = (some raw, popped topic queue s) := by
  simp [rPop, hqueue, popped]

variable (send turn) in
theorem drainTurn_corrupt {text : String} (hbatch : processed < DRAIN_BATCH_SIZE)
    (hqueue : s.queues topic = (.corrupt text :: queue).reverse) :
    drainTurn (answering send) topic turn (processed, s) =
      if text = "" then .stop (processed, popped topic queue s)
      else .next (processed, popped topic queue s) := by
  simp only [drainTurn, answering, rPop_of_queue hqueue, if_pos hbatch]

variable (turn) in
theorem drainTurn_sent {e : QueueEntry P} (hs : s.initialised = true)
    (hbatch : processed < DRAIN_BATCH_SIZE) (hsend : (send processed).returned = true)
    (hqueue : s.queues topic = (.entry e :: queue).reverse) :
    drainTurn (answering send) topic turn (processed, s) =
      .next (processed + 1, { popped topic queue s with
        delivered := s.delivered ++ [e.toEvent]
        kafkaAvailable := true
        drained := s.drained ++ [(topic, e)] }) := by
  have heffective := Reply.effective_of_returned hsend
  have hsent := emitRaw_of_initialised (s := popped topic queue s) hs (send processed) e.toEvent
  rw [hsend, heffective] at hsent
  simp only [drainTurn, answering, rPop_of_queue hqueue, if_pos hbatch, hsent]
  rfl

variable (turn) in
theorem drainTurn_failed {e : QueueEntry P} (hs : s.initialised = true)
    (hbatch : processed < DRAIN_BATCH_SIZE) (hsend : (send processed).returned = false)
    (hqueue : s.queues topic = (.entry e :: queue).reverse) :
    drainTurn (answering send) topic turn (processed, s) =
      .stop (processed, { popped topic queue s with
        queues := Function.update s.queues topic (.entry e :: queue.reverse)
        delivered := if (send processed).effective then s.delivered ++ [e.toEvent]
          else s.delivered }) := by
  have hsent := emitRaw_of_initialised (s := popped topic queue s) hs (send processed) e.toEvent
  rw [hsend] at hsent
  simp only [drainTurn, answering, rPop_of_queue hqueue, if_pos hbatch, hsent]
  simp [lPush, popped]

/-- The loop over the list in terms of the two halves into which it divides the entries. -/
theorem run_drainTurn {turns : List ℕ} (hs : s.initialised = true)
    (hqueue : s.queues topic = queue.reverse) (hturns : queue.length < turns.length) :
    Drained send topic processed queue s
      (run (drainTurn (answering send) topic) turns (processed, s)).2 := by
  induction queue generalizing turns processed s with
  | nil =>
      cases turns with
      | nil => exact absurd hturns (Nat.not_lt_zero _)
      | cons turn turns =>
          by_cases hbatch : processed < DRAIN_BATCH_SIZE
          · have hstop : drainTurn (answering send) topic turn (processed, s) =
                .stop (processed, popped topic [] s) := by
              simp [drainTurn, hbatch, answering, rPop, hqueue, popped]
            rw [run_cons_stop hstop]
            exact ⟨hs, by simp [taken, drainedFrom, popped], by simp [left, popped]⟩
          · have hstop : drainTurn (answering send) topic turn (processed, s) =
                .stop (processed, s) := by
              simp [drainTurn, hbatch]
            rw [run_cons_stop hstop]
            exact ⟨hs, by simp [taken], hqueue⟩
  | cons raw queue ih =>
      cases turns with
      | nil => exact absurd hturns (Nat.not_lt_zero _)
      | cons turn turns =>
          have hmore : queue.length < turns.length := by simpa using hturns
          by_cases hbatch : processed < DRAIN_BATCH_SIZE
          swap
          · have hstop : drainTurn (answering send) topic turn (processed, s) =
                .stop (processed, s) := by
              simp [drainTurn, hbatch]
            rw [run_cons_stop hstop]
            cases raw <;>
              exact ⟨hs, by simp [taken, hbatch], by simpa [left, hbatch] using hqueue⟩
          have hpopped : (popped topic queue s).queues topic = queue.reverse := by simp [popped]
          cases raw with
          | corrupt text =>
              have hturn := drainTurn_corrupt send turn hbatch hqueue
              by_cases htext : text = ""
              · rw [if_pos htext] at hturn
                rw [run_cons_stop hturn]
                exact ⟨hs, by simp [taken, htext, drainedFrom, popped],
                  by simp [left, htext, hbatch, hpopped]⟩
              · rw [if_neg htext] at hturn
                rw [run_cons_next hturn]
                have hrest : Drained send topic processed queue (popped topic queue s)
                    (run (drainTurn (answering send) topic) turns
                      (processed, popped topic queue s)).2 := ih hs hpopped hmore
                obtain ⟨hinit, hdrained, hleft⟩ := hrest
                exact ⟨hinit, by simpa [taken, hbatch, htext] using hdrained,
                  by simpa [left, hbatch, htext] using hleft⟩
          | entry e =>
              by_cases hsend : (send processed).returned = true
              · have hturn := drainTurn_sent turn hs hbatch hsend hqueue
                rw [run_cons_next hturn]
                set s' : State P := { popped topic queue s with
                  delivered := s.delivered ++ [e.toEvent]
                  kafkaAvailable := true
                  drained := s.drained ++ [(topic, e)] }
                have hrest : Drained send topic (processed + 1) queue s'
                    (run (drainTurn (answering send) topic) turns (processed + 1, s')).2 :=
                  ih hs hpopped hmore
                obtain ⟨hinit, hdrained, hleft⟩ := hrest
                refine ⟨hinit, ?_, by simpa [left, hbatch, hsend] using hleft⟩
                rw [hdrained]
                simp [taken, hbatch, hsend, drainedFrom, s']
              · have hsend := Bool.not_eq_true _ ▸ hsend
                have hturn := drainTurn_failed turn hs hbatch hsend hqueue
                rw [run_cons_stop hturn]
                exact ⟨hs, by simp [taken, hsend, drainedFrom, popped],
                  by simp [left, hbatch, hsend]⟩

end Turn

theorem drained_drainTopic (send : ℕ → Reply) (topic : String) {s : State P}
    (hs : s.initialised = true) : Drained send topic 0 (s.queues topic).reverse s
      (drainTopic (answering send) topic s).2 :=
  run_drainTurn hs (by simp) (by simp)

/-! ## The other lists -/

/-- What the drain of another topic leaves alone. -/
structure SameList (topic : String) (s s' : State P) : Prop where
  initialised : s'.initialised = s.initialised
  drained : drainedFrom topic s' = drainedFrom topic s
  queue : s'.queues topic = s.queues topic

theorem SameList.rfl (topic : String) (s : State P) : SameList topic s s :=
  ⟨Eq.refl _, Eq.refl _, Eq.refl _⟩

theorem SameList.trans {topic : String} {s s' s'' : State P} (h : SameList topic s s')
    (h' : SameList topic s' s'') : SameList topic s s'' :=
  ⟨h'.initialised.trans h.initialised, h'.drained.trans h.drained, h'.queue.trans h.queue⟩

section Frames

variable (topic : String) {topic' : String} (s : State P)

theorem sameList_emitRaw (send : Reply) (event : Event P) :
    SameList topic s (emitRaw send event s).2 := by
  unfold emitRaw
  cases send with
  | ok => split <;> exact ⟨rfl, rfl, rfl⟩
  | error effective => cases effective <;> split <;> exact ⟨rfl, rfl, rfl⟩

variable {topic} (h : topic' ≠ topic)
include h

theorem sameList_lPush (r : Reply) (raw : Raw P) : SameList topic s (lPush r topic' raw s).2 := by
  cases hr : r.effective with
  | false => simpa [lPush, hr] using SameList.rfl topic s
  | true => exact ⟨by simp [lPush, hr], by simp [lPush, hr, drainedFrom],
      by simp [lPush, hr, Function.update_of_ne h.symm]⟩

theorem sameList_rPop (r : Reply) : SameList topic s (rPop r topic' s).2 := by
  cases hr : r.effective with
  | false => simpa [rPop, hr] using SameList.rfl topic s
  | true => exact ⟨by simp [rPop, hr], by simp [rPop, hr, drainedFrom],
      by simp [rPop, hr, Function.update_of_ne h.symm]⟩

theorem sameList_drainTurn (io : DrainIo) (turn : ℕ) {c : ℕ × State P}
    (hc : SameList topic s c.2) : SameList topic s (drainTurn io topic' turn c).state.2 :=
  drainTurn_keeps (fun r event s' hs' => hs'.trans (sameList_emitRaw topic s' r event))
    (fun r raw s' hs' => hs'.trans (sameList_lPush s' h r raw))
    (fun r s' hs' => hs'.trans (sameList_rPop s' h r))
    (fun e s' hs' => hs'.trans ⟨rfl, by simp [drainedFrom_snoc, h], rfl⟩) io turn hc

theorem sameList_drainTopic (io : DrainIo) : SameList topic s (drainTopic io topic' s).2 :=
  drainTopic_keeps (fun io turn _ hc => sameList_drainTurn s h io turn hc) io (SameList.rfl topic s)

end Frames

/-! ## A run of the drain -/

section Runs

variable (d : Drain) (topic : String) (s : State P)

theorem sameList_topics {topics : List String} (h : topic ∉ topics) :
    SameList topic s
      (run (fun topic s => .next (drainTopic (d.io.topic topic) topic s).2) topics s) := by
  induction topics generalizing s with
  | nil => exact SameList.rfl topic s
  | cons first topics ih =>
      obtain ⟨hne, hrest⟩ := not_or.mp (List.mem_cons.not.mp h)
      rw [run_cons_next rfl]
      exact (sameList_drainTopic s (Ne.symm hne) (d.io.topic first)).trans (ih _ hrest)

/-- A topic's list is drained once, and the other topics do not touch it. -/
theorem drained_topics {topics : List String} (hs : s.initialised = true)
    (hnodup : topics.Nodup) (hmem : topic ∈ topics) :
    Drained (d.send topic) topic 0 (s.queues topic).reverse s
      (run (fun topic s => .next (drainTopic (d.io.topic topic) topic s).2) topics s) := by
  induction topics generalizing s with
  | nil => cases hmem
  | cons first topics ih =>
      obtain ⟨hfirst, hnodup⟩ := List.nodup_cons.mp hnodup
      rw [run_cons_next rfl]
      by_cases htopic : first = topic
      · subst htopic
        obtain ⟨hinit, hdrained, hqueue⟩ := drained_drainTopic (d.send first) first hs
        have hrest := sameList_topics d first (drainTopic (d.io.topic first) first s).2 hfirst
        exact ⟨hrest.initialised.trans hinit, hrest.drained.trans hdrained,
          hrest.queue.trans hqueue⟩
      · have hframe := sameList_drainTopic s htopic (d.io.topic first)
        have hmem : topic ∈ topics := (List.mem_cons.mp hmem).resolve_left (Ne.symm htopic)
        obtain ⟨hinit, hdrained, hqueue⟩ :=
          ih (drainTopic (d.io.topic first) first s).2 (hframe.initialised.trans hs) hnodup hmem
        rw [hframe.queue] at hdrained hqueue
        exact ⟨hinit, hdrained.trans (by rw [hframe.drained]), hqueue⟩

variable {d topic s}

theorem drained_of_reaches (h : d.Reaches topic s) :
    Drained (d.send topic) topic 0 (s.queues topic).reverse s (drainQueue d.io s) := by
  obtain ⟨hs, hredis, keys, hkeys, hmem⟩ := h
  have hrun : drainQueue d.io s =
      run (fun topic s => .next (drainTopic (d.io.topic topic) topic s).2)
        (topicsOf keys { s with redisClient := true }) { s with redisClient := true } := by
    have hkeys : d.keys = some keys := hkeys
    simp only [drainQueue, if_pos hs, getRedis, Drain.io, hredis, if_true, hkeys]
  rw [hrun]
  cases hqueue : s.queues topic with
  | nil =>
      have hskip : topic ∉ topicsOf keys { s with redisClient := true } := by
        simp [topicsOf, hqueue]
      have hframe := sameList_topics d topic { s with redisClient := true } hskip
      exact ⟨hframe.initialised.trans hs, hframe.drained.trans (by simp [taken, drainedFrom]),
        hframe.queue.trans (by simp [left, hqueue])⟩
  | cons raw queue =>
      have hdrain : topic ∈ topicsOf keys { s with redisClient := true } := by
        simpa [topicsOf, hqueue] using List.mem_dedup.mpr hmem
      have hdrained := drained_topics d topic { s with redisClient := true } hs
        (keys.nodup_dedup.filter _) hdrain
      rw [← hqueue]
      exact ⟨hdrained.initialised, hdrained.drained, hdrained.queue⟩

theorem sameList_of_not_reaches (h : ¬d.Reaches topic s) :
    SameList topic s (drainQueue d.io s) := by
  unfold drainQueue
  by_cases hs : s.initialised = true
  swap
  · rw [if_neg hs]
    exact SameList.rfl topic s
  rw [if_pos hs]
  by_cases hredis : (s.redisClient || d.connect) = true
  swap
  · simp only [getRedis, Drain.io, hredis]
    exact SameList.rfl topic s
  simp only [getRedis, Drain.io, hredis, if_true]
  cases hkeys : d.keys with
  | none => exact ⟨rfl, rfl, rfl⟩
  | some keys =>
      have hmem : topic ∉ keys := fun hmem => h ⟨hs, hredis, keys, hkeys, hmem⟩
      have hskip : topic ∉ topicsOf keys { s with redisClient := true } := by
        exact fun hin => hmem (List.mem_dedup.mp (List.mem_filter.mp hin).1)
      have hframe := sameList_topics d topic { s with redisClient := true } hskip
      exact ⟨hframe.initialised, hframe.drained, hframe.queue⟩

theorem SameList.leftAsItWas {s' : State P} (h : SameList topic s s') :
    LeftAsItWas topic s s' :=
  ⟨0, by simp [h.drained], by simp [waiting, h.queue]⟩

theorem Drained.leftAsItWas_iff {send : ℕ → Reply} {s' : State P}
    (h : Drained send topic 0 (s.queues topic).reverse s s') :
    LeftAsItWas topic s s' ↔
      ∀ e rest, failure send 0 (s.queues topic).reverse = some (e, rest) →
        ∀ x ∈ rest.filterMap Raw.parsed, x = e := by
  rw [← taken_append_left_iff]
  have hwaiting : waiting topic s' =
      (left send 0 (s.queues topic).reverse).filterMap Raw.parsed := by
    rw [waiting, h.queue, List.reverse_reverse]
  constructor
  · rintro ⟨k, hdrained, hleft⟩
    have htaken : (waiting topic s).take k = taken send 0 (s.queues topic).reverse :=
      List.append_cancel_left (hdrained.symm.trans h.drained)
    rw [← hwaiting, ← htaken, hleft]
    exact List.take_append_drop k _
  · intro hsplit
    refine ⟨(taken send 0 (s.queues topic).reverse).length, ?_, ?_⟩
    · rw [h.drained, waiting, ← hsplit, List.take_left]
    · rw [hwaiting, waiting, ← hsplit, List.drop_left]

/-- A run of the drain leaves a list as it was exactly when what fails fails last. -/
theorem leftAsItWas_iff : LeftAsItWas topic s (drainQueue d.io s) ↔ d.FailsLast topic s := by
  by_cases h : d.Reaches topic s
  · rw [(drained_of_reaches h).leftAsItWas_iff, Drain.FailsLast, forall_prop_of_true h]
  · exact ⟨fun _ hreaches => absurd hreaches h, fun _ => (sameList_of_not_reaches h).leftAsItWas⟩

end Runs

/-! ## Pushes and drains in any order -/

inductive QueueOp (P : Type) where
  | start (connected : Bool)
  | push (io : PushIo) (event : Event P)
  | drain (d : Drain)

def queueStep (s : State P) : QueueOp P → State P
  | .start connected => onModuleInit connected s
  | .push io event => (push io event s).2
  | .drain d => drainQueue d.io s

/-- What a step adds to the topic's list. -/
def pushedBy (topic : String) (s : State P) : QueueOp P → List (QueueEntry P)
  | .push io event =>
      if (s.redisClient || io.connect) && io.lPush.effective && event.topic == topic then
        [⟨event, io.now⟩]
      else []
  | _ => []

/-- What a run adds to the topic's list, in this order. -/
def pushes (topic : String) : State P → List (QueueOp P) → List (QueueEntry P)
  | _, [] => []
  | s, op :: ops => pushedBy topic s op ++ pushes topic (queueStep s op) ops

/-- Where the step is a drain, what fails on the topic's list fails last. -/
def FailsLast (topic : String) (s : State P) : QueueOp P → Prop
  | .drain d => d.FailsLast topic s
  | _ => True

/-- What has been delivered from the topic's list, followed by what waits there. -/
def lineUp (topic : String) (s : State P) : List (QueueEntry P) :=
  drainedFrom topic s ++ waiting topic s

theorem LeftAsItWas.lineUp_eq {topic : String} {s s' : State P} (h : LeftAsItWas topic s s') :
    lineUp topic s' = lineUp topic s := by
  obtain ⟨k, hdrained, hleft⟩ := h
  rw [lineUp, hdrained, hleft, List.append_assoc, List.take_append_drop, lineUp]

theorem lineUp_push (topic : String) (io : PushIo) (event : Event P) (s : State P) :
    lineUp topic (push io event s).2 = lineUp topic s ++ pushedBy topic s (.push io event) := by
  cases hredis : s.redisClient || io.connect with
  | false => simp [push, getRedis, pushedBy, hredis]
  | true =>
      cases hpush : io.lPush.effective with
      | false => simp [push, getRedis, pushedBy, hredis, hpush, lPush, lineUp, drainedFrom, waiting]
      | true =>
          by_cases htopic : event.topic = topic
          · subst htopic
            simp [push, getRedis, pushedBy, hredis, hpush, lPush, lineUp, drainedFrom, waiting]
          · simp [push, getRedis, pushedBy, hredis, hpush, lPush, lineUp, drainedFrom, waiting,
              htopic, Function.update_of_ne (Ne.symm htopic)]

theorem lineUp_queueStep {topic : String} {s : State P} {op : QueueOp P}
    (h : FailsLast topic s op) :
    lineUp topic (queueStep s op) = lineUp topic s ++ pushedBy topic s op := by
  cases op with
  | start connected => exact (List.append_nil _).symm
  | push io event => exact lineUp_push topic io event s
  | drain d => exact ((leftAsItWas_iff.mpr h).lineUp_eq).trans (List.append_nil _).symm

/-- A run of the drain leaves the undelivered entries of a topic in their order exactly when
what fails fails last; where it always does, entries are delivered in the order in which they
were pushed. -/
theorem drained_in_order (topic : String) (s : State P) :
    (∀ d : Drain, LeftAsItWas topic s (drainQueue d.io s) ↔ d.FailsLast topic s) ∧
      ∀ ops, Run.Along queueStep (FailsLast topic) s ops →
        drainedFrom topic (Run.final queueStep s ops) ++
            waiting topic (Run.final queueStep s ops) =
          drainedFrom topic s ++ waiting topic s ++ pushes topic s ops := by
  refine ⟨fun d => leftAsItWas_iff, fun ops h => ?_⟩
  change lineUp topic (Run.final queueStep s ops) = lineUp topic s ++ pushes topic s ops
  induction ops generalizing s with
  | nil => exact (List.append_nil _).symm
  | cons op ops ih =>
      obtain ⟨hop, hops⟩ := h
      rw [Run.final_cons, ih _ hops, lineUp_queueStep hop, pushes, List.append_assoc]

end Order

/-! ## Two entries and one failure -/

namespace Telemetry

def first : Event String := ⟨"driver_telemetry", some "d1", "first"⟩

def second : Event String := ⟨"driver_telemetry", some "d1", "second"⟩

def pair : State String :=
  Run.final queueStep {} [.start false, .push ⟨true, .ok, 1⟩ first, .push ⟨true, .ok, 2⟩ second]

def drain (send : Reply) : Drain := ⟨true, some ["driver_telemetry"], fun _ _ => send⟩

def failsSecond : Drain :=
  ⟨true, some ["driver_telemetry"], fun _ n => if n = 0 then .ok else .error false⟩

end Telemetry

open Telemetry in
/-- Where the last entry is the one that fails, it stays where it was. -/
theorem drained_in_order_pair :
    drainedFrom "driver_telemetry" (Run.final queueStep pair [.drain failsSecond]) ++
        waiting "driver_telemetry" (Run.final queueStep pair [.drain failsSecond]) =
      [⟨first, 1⟩, ⟨second, 2⟩] := by
  have hlast : FailsLast "driver_telemetry" pair (.drain failsSecond) := by
    intro _ e rest h
    have hfailure : some (⟨second, 2⟩, []) = some (e, rest) := h
    cases hfailure
    exact fun x hx => absurd hx (by simp)
  exact ((drained_in_order "driver_telemetry" pair).2 [.drain failsSecond] ⟨hlast, trivial⟩).trans
    (by decide)

open Telemetry in
/-- The entry whose delivery failed is delivered after the one that was pushed later. -/
theorem not_drained_in_order_pair :
    ¬LeftAsItWas "driver_telemetry" pair (drainQueue (drain (.error false)).io pair) ∧
      drainedFrom "driver_telemetry" (Run.final queueStep pair
        [.drain (drain (.error false)), .drain (drain .ok)]) = [⟨second, 2⟩, ⟨first, 1⟩] := by
  refine ⟨fun h => ?_, by decide⟩
  have hlast := leftAsItWas_iff.mp h ⟨rfl, rfl, _, rfl, by decide⟩ ⟨first, 1⟩
    [.entry ⟨second, 2⟩] (by decide) ⟨second, 2⟩ (by decide)
  exact absurd hlast (by decide)

end Aegis.Kafka
