import Aegis.Verification.Kafka.Conservation

/-! # The retries of a dead letter

A pass counts an attempt before it makes it and again when it fails, and takes rows without
looking at their counter. The bound on the attempts therefore needs passes that make the
attempt they count, for rows whose counter is not used up. -/

namespace Aegis.Kafka

open Payments (storeDown)

section Letters

variable {P : Type}

/-- The topic of the rows that record a payment for reconciliation. -/
def reconciliation : String := "PAYMENT_VERIFIED_POLICY_FAILED"

/-- How often the replay function was called for a row. -/
def attempts (s : State P) (id : String) : ℕ := s.replays.countP fun c => decide (c.id = id)

/-- How often the broker did not get the message. -/
def failedAttempts (s : State P) (id : String) : ℕ :=
  s.replays.countP fun c => decide (c.id = id) && !c.delivered

/-- What is asked of a step from `s` to `s'`. -/
structure Proper (s : State P) (op : Op P) (s' : State P) : Prop where
  /-- No row is replayed more than five times. -/
  bounded : ∀ id, attempts s' id ≤ MAX_RETRIES
  /-- A row becomes dead once delivered, after five failures, or by hand. -/
  dead : ∀ r ∈ s.kafkaDLQ.rows, ∀ r' ∈ s'.kafkaDLQ.rows, r'.id = r.id → r.status ≠ "DEAD" →
    r'.status = "DEAD" → replayed s' r.id = true ∨ MAX_RETRIES ≤ failedAttempts s' r.id ∨
      ∃ update, op = .markDead update r.id
  /-- No record for reconciliation has been published. -/
  unpublished : ∀ c ∈ s'.replays, c.event.topic ≠ reconciliation
  /-- The replay closes no record for reconciliation. -/
  unclosed : ∀ io, op = .replay io → ∀ r ∈ s.kafkaDLQ.rows, r.topic = reconciliation →
    r.status ≠ "DEAD" → ∀ r' ∈ s'.kafkaDLQ.rows, r'.id = r.id → r'.status ≠ "DEAD"

/-! ## The condition on a pass -/

/-- The pass gets as far as the replay function. -/
def Attempts (io : ReplayIo) (entry : DlqEntry P) : Prop :=
  (io.reply .mark).returned = true ∧ io.crash ≠ some .mark ∧ ∃ p, entry.payload = .value p

/-- The pass fails at once and writes nothing. -/
def WritesNothing (io : ReplayIo) : Prop :=
  (io.reply .mark).effective = false ∧
    (io.crash = some .mark ∨ (io.reply .settle).effective = false)

/-- A pass that counts an attempt makes it, for a row that is meant for the broker and whose
counter is not used up. -/
def Sound (io : ReplayIo) (entry : DlqEntry P) : Prop :=
  WritesNothing io ∨
    Attempts io entry ∧ entry.retryCount < MAX_RETRIES ∧ entry.topic ≠ reconciliation

/-- Where the step is a run of the replay, each of its passes is sound. -/
def SoundPasses (s : State P) : Op P → Prop
  | .replay io => s.initialised = true → io.findMany = true →
      Loop.Turns (fun entry s => replayEntry (io.entry entry.id) entry s)
        (fun entry _ => Sound (io.entry entry.id) entry) (getPendingEntries 20 s) s
  | _ => True

/-! ## One pass -/

section Pass

variable {io : ReplayIo} {entry : DlqEntry P} {s : State P}

theorem returned_eq_false {r : Reply} (h : r.effective = false) : r.returned = false := by
  cases r with
  | ok => cases h
  | error b => rfl

/-- A call that fails without effect. -/
theorem call_of_not_effective {c : RemoteCall} (h : (io.reply c).effective = false) (failed : Exn)
    (f : State P → State P) :
    io.call c failed f s =
      (.error (if io.crash = some c then .crashed else .thrown failed), s) := by
  rw [call_eq, h, returned_eq_false h]
  by_cases hcrash : io.crash = some c
  · simp [hcrash]
  · simp [hcrash]

theorem replayEntry_of_writesNothing (entry : DlqEntry P) (s : State P) (h : WritesNothing io) :
    replayEntry io entry s = .next s ∨ replayEntry io entry s = .stop (down s) := by
  obtain ⟨hmark, hrest⟩ := h
  have htry : tryReplay io entry s =
      (.error (if io.crash = some .mark then .crashed else .thrown storeDown), s) :=
    Action.bind_of_error (call_of_not_effective hmark storeDown _)
  unfold replayEntry
  rw [htry]
  by_cases hcrash : io.crash = some .mark
  · rw [if_pos hcrash]
    exact .inr rfl
  · have hsettle := hrest.resolve_left hcrash
    rw [if_neg hcrash]
    dsimp only
    rw [call_of_not_effective hsettle]
    by_cases hlast : io.crash = some .settle
    · rw [if_pos hlast]
      exact .inr rfl
    · rw [if_neg hlast]
      exact .inl rfl

/-- What the changes of an attempt make of their row. -/
structure Progress (io : ReplayIo) (entry : DlqEntry P)
    (f : RowUpdate (DlqEntry.keys (P := P))) : Prop where
  id : (f.apply entry).id = entry.id
  topic : (f.apply entry).topic = entry.topic
  retryCount : (f.apply entry).retryCount = entry.retryCount + 1
  dead : (f.apply entry).status = "DEAD" →
    (io.reply .send).effective = true ∨ MAX_RETRIES ≤ entry.retryCount + 1

theorem Progress.marked : Progress io entry (marked entry.retryCount) where
  id := rfl
  topic := rfl
  retryCount := rfl
  dead h := absurd h (by simp [Kafka.marked])

theorem Progress.settled {f : RowUpdate (DlqEntry.keys (P := P))} (h : Progress io entry f)
    (e : Exn) : Progress io entry (f.andThen (settled entry.retryCount e)) where
  id := h.id
  topic := h.topic
  retryCount := rfl
  dead hdead := by
    by_cases hlast : MAX_RETRIES ≤ entry.retryCount + 1
    · exact .inr hlast
    · simp [Kafka.settled, hlast] at hdead

theorem Progress.closed {f : RowUpdate (DlqEntry.keys (P := P))} (h : Progress io entry f)
    (hsend : (io.reply .send).effective = true) : Progress io entry (f.andThen closed) where
  id := h.id
  topic := h.topic
  retryCount := h.retryCount
  dead _ := .inl hsend

/-- What a pass that makes its attempt does to the state: it calls the replay function once and
changes its own row. -/
structure Attempted (io : ReplayIo) (entry : DlqEntry P) (s s' : State P) : Prop where
  replays : ∃ p, s'.replays = s.replays ++
    [⟨entry.id, ⟨entry.topic, entry.eventKey, p⟩, (io.reply .send).effective⟩]
  row : ∃ f, s'.kafkaDLQ = s.kafkaDLQ.update entry.id f ∧ Progress io entry f

/-- The state from which the replay function is called. -/
def markedState (entry : DlqEntry P) (s : State P) : State P :=
  updateRow entry.id (marked entry.retryCount) s

theorem tryReplay_of_attempts (h : Attempts io entry) : ∃ p, tryReplay io entry s =
    (replayFn io entry.id ⟨entry.topic, entry.eventKey, p⟩ >>= fun _ =>
      io.call .close storeDown (updateRow entry.id closed)) (markedState entry s) := by
  obtain ⟨hmark, hcrash, p, hpayload⟩ := h
  refine ⟨p, ?_⟩
  have hcall : io.call .mark storeDown (updateRow entry.id (marked entry.retryCount)) s =
      (.ok (), markedState entry s) := by
    rw [call_eq, if_neg hcrash, if_pos hmark, if_pos (Reply.effective_of_returned hmark)]
    rfl
  have hparse : (parse entry.payload : Action (State P) Interrupt P) (markedState entry s) =
      (.ok p, markedState entry s) := by
    rw [hpayload]
    rfl
  exact (Action.bind_of_ok hcall).trans (Action.bind_of_ok hparse)

/-- The call of the replay function is on record. -/
def logged (io : ReplayIo) (id : String) (event : Event P) (s : State P) : State P :=
  { s with replays := s.replays ++ [⟨id, event, s.initialised && (io.reply .send).effective⟩] }

theorem replayFn_eq (io : ReplayIo) (hs : s.initialised = true) (id : String) (event : Event P) :
    replayFn io id event s =
      (if io.crash = some .send then .error .crashed
        else if (io.reply .send).returned then .ok () else .error (.thrown sendFailed),
        (emitRaw (io.reply .send) event (logged io id event s)).2) := by
  have hsent := emitRaw_of_initialised (s := logged io id event s) hs (io.reply .send) event
  rw [logged] at hsent ⊢
  unfold replayFn
  dsimp only
  rw [hsent]
  by_cases hcrash : io.crash = some .send
  · simp [hcrash]
  · cases (io.reply .send).returned <;> simp [hcrash]

/-- What is left once the replay function has been called: the service is up, the row as marked
and the call on record. -/
structure Called (io : ReplayIo) (entry : DlqEntry P) (s s' : State P) : Prop where
  initialised : s'.initialised = true
  kafkaDLQ : s'.kafkaDLQ = s.kafkaDLQ.update entry.id (marked entry.retryCount)
  replays : ∃ p, s'.replays = s.replays ++
    [⟨entry.id, ⟨entry.topic, entry.eventKey, p⟩, (io.reply .send).effective⟩]

theorem tryReplay_cases (hs : s.initialised = true) (h : Attempts io entry) :
    ∃ s', Called io entry s s' ∧
      (tryReplay io entry s = (.error .crashed, s') ∨
        tryReplay io entry s = (.error (.thrown sendFailed), s') ∨
        (io.reply .send).returned = true ∧
          tryReplay io entry s = io.call .close storeDown (updateRow entry.id closed) s') := by
  obtain ⟨p, htry⟩ := tryReplay_of_attempts (s := s) h
  set event : Event P := ⟨entry.topic, entry.eventKey, p⟩
  have hmarked : (markedState entry s).initialised = true := hs
  have hcall := replayFn_eq io hmarked entry.id event
  obtain ⟨delivered, kafkaAvailable, hframe⟩ :=
    emitRaw_frame (io.reply .send) event (logged io entry.id event (markedState entry s))
  rw [hframe] at hcall
  refine ⟨{ logged io entry.id event (markedState entry s) with delivered, kafkaAvailable },
    ⟨hs, rfl, p, by simp [logged, markedState, updateRow, hs, event]⟩, ?_⟩
  · by_cases hcrash : io.crash = some .send
    · rw [if_pos hcrash] at hcall
      exact .inl (htry.trans (Action.bind_of_error hcall))
    · rw [if_neg hcrash] at hcall
      cases hsend : (io.reply .send).returned with
      | false =>
          rw [hsend] at hcall
          exact .inr (.inl (htry.trans (Action.bind_of_error hcall)))
      | true =>
          rw [hsend] at hcall
          exact .inr (.inr ⟨rfl, htry.trans (Action.bind_of_ok hcall)⟩)

/-- A further call of the pass changes its row once more or not at all. -/
theorem Attempted.call {s' : State P} (h : Attempted io entry s s') (c : RemoteCall)
    {g : RowUpdate (DlqEntry.keys (P := P))}
    (hg : ∀ f, Progress io entry f → Progress io entry (f.andThen g)) :
    Attempted io entry s (io.call c storeDown (updateRow entry.id g) s').2 := by
  obtain ⟨hreplays, f, hrow, hf⟩ := h
  rw [call_eq]
  dsimp only
  split
  · exact ⟨hreplays, f.andThen g, by rw [updateRow, hrow, Table.update_update], hg f hf⟩
  · exact ⟨hreplays, f, hrow, hf⟩

theorem Attempted.settle {s' : State P} (h : Attempted io entry s s') (e : Exn) :
    Attempted io entry s
      (io.call .settle storeDown (updateRow entry.id (settled entry.retryCount e)) s').2 :=
  h.call .settle fun _ hf => hf.settled e

theorem initialised_call (io : ReplayIo) (c : RemoteCall)
    (f : RowUpdate (DlqEntry.keys (P := P))) (id : String) (s' : State P) :
    (io.call c storeDown (updateRow id f) s').2.initialised = s'.initialised := by
  rw [call_eq]
  dsimp only
  split <;> rfl

theorem replayEntry_of_thrown {e : Exn} {s₁ : State P}
    (htry : tryReplay io entry s = (.error (.thrown e), s₁)) :
    replayEntry io entry s = .next
        (io.call .settle storeDown (updateRow entry.id (settled entry.retryCount e)) s₁).2 ∨
      replayEntry io entry s = .stop (down
        (io.call .settle storeDown (updateRow entry.id (settled entry.retryCount e)) s₁).2) := by
  unfold replayEntry
  rw [htry]
  dsimp only
  rcases io.call .settle storeDown (updateRow entry.id (settled entry.retryCount e)) s₁ with
    ⟨result, s₂⟩
  rcases result with (i | _)
  · cases i with
    | crashed => exact .inr rfl
    | thrown _ => exact .inl rfl
  · exact .inl rfl

theorem replayEntry_of_crashed {s₁ : State P}
    (htry : tryReplay io entry s = (.error .crashed, s₁)) :
    replayEntry io entry s = .stop (down s₁) := by
  unfold replayEntry
  rw [htry]

theorem replayEntry_of_ok {s₁ : State P} (htry : tryReplay io entry s = (.ok (), s₁)) :
    replayEntry io entry s = .next s₁ := by
  unfold replayEntry
  rw [htry]

/-- A pass that gets as far as the replay function goes on in a service that is up, or ends with
the process. -/
theorem replayEntry_of_attempts (hs : s.initialised = true) (h : Attempts io entry) :
    ∃ s', Attempted io entry s s' ∧
      (replayEntry io entry s = .next s' ∧ s'.initialised = true ∨
        replayEntry io entry s = .stop (down s')) := by
  obtain ⟨s₁, hcalled, hcases⟩ := tryReplay_cases hs h
  have hstart : Attempted io entry s s₁ := ⟨hcalled.replays, _, hcalled.kafkaDLQ, .marked⟩
  have hcaught : ∀ {s₂ : State P} {e}, Attempted io entry s s₂ → s₂.initialised = true →
      tryReplay io entry s = (.error (.thrown e), s₂) →
      ∃ s', Attempted io entry s s' ∧
        (replayEntry io entry s = .next s' ∧ s'.initialised = true ∨
          replayEntry io entry s = .stop (down s')) := by
    intro s₂ e hattempted hup htry
    refine ⟨_, hattempted.settle e, ?_⟩
    rcases replayEntry_of_thrown htry with hnext | hstop
    · exact .inl ⟨hnext, (initialised_call io .settle _ _ _).trans hup⟩
    · exact .inr hstop
  rcases hcases with htry | htry | ⟨hsend, htry⟩
  · exact ⟨s₁, hstart, .inr (replayEntry_of_crashed htry)⟩
  · exact hcaught hstart hcalled.initialised htry
  · have hclosed := hstart.call .close fun _ hf => hf.closed (Reply.effective_of_returned hsend)
    have hup := (initialised_call io .close closed entry.id s₁).trans hcalled.initialised
    rcases hresult : io.call .close storeDown (updateRow entry.id closed) s₁ with ⟨result, s₂⟩
    rw [hresult] at htry hclosed hup
    rcases result with (i | _)
    · cases i with
      | crashed => exact ⟨s₂, hclosed, .inr (replayEntry_of_crashed htry)⟩
      | thrown e => exact hcaught hclosed hup htry
    · exact ⟨s₂, hclosed, .inl ⟨replayEntry_of_ok htry, hup⟩⟩

end Pass

/-! ## A run of the replay -/

/-- What holds of the dead letters between the steps. -/
structure Counted (s : State P) : Prop where
  known : ReplaysKnown s
  /-- The counter of a row that is still to be replayed is the number of its attempts. -/
  retryCount : ∀ r ∈ s.kafkaDLQ.rows, isPending r = true → r.retryCount = attempts s r.id
  bounded : ∀ id, attempts s id ≤ MAX_RETRIES
  unpublished : ∀ c ∈ s.replays, c.event.topic ≠ reconciliation

theorem not_pending_of_dead {r : DlqEntry P} (h : isPending r = true) : r.status ≠ "DEAD" := by
  intro hdead
  simp [isPending, hdead] at h

/-- A row that was not dead and is dead now was delivered or has failed five times, and is no
record for reconciliation. -/
def Spent (s₀ s : State P) : Prop :=
  ∀ r ∈ s₀.kafkaDLQ.rows, ∀ r' ∈ s.kafkaDLQ.rows, r'.id = r.id →
    r'.topic = r.topic ∧ (r.status ≠ "DEAD" → r'.status = "DEAD" →
      r.topic ≠ reconciliation ∧
        (replayed s r.id = true ∨ MAX_RETRIES ≤ failedAttempts s r.id))

theorem attempts_eq_failedAttempts {s : State P} {id : String} (h : replayed s id = false) :
    failedAttempts s id = attempts s id := by
  refine List.countP_congr fun c hc => ?_
  have hnot : (decide (c.id = id) && c.delivered) = false := by
    rw [replayed, List.any_eq_false] at h
    simpa using h c hc
  by_cases hid : c.id = id
  · simp_all
  · simp [hid]

section Attempt

variable {io : ReplayIo} {entry : DlqEntry P} {s₀ s s' : State P}

/-- A row after an attempt is the one that was replayed or one from before. -/
theorem Attempted.mem_rows (h : Attempted io entry s s') (hentry : entry ∈ s.kafkaDLQ.rows)
    {r' : DlqEntry P} (hr' : r' ∈ s'.kafkaDLQ.rows) :
    (∃ f, Progress io entry f ∧ r' = f.apply entry) ∨
      r' ∈ s.kafkaDLQ.rows ∧ r'.id ≠ entry.id := by
  obtain ⟨-, f, hrow, hf⟩ := h
  rw [hrow] at hr'
  obtain ⟨r, hr, hr'⟩ := Table.mem_update.mp hr'
  by_cases hid : r.id = entry.id
  · have hsame := eq_of_id_eq hr hentry hid
    subst hsame
    rw [if_pos (by simp [DlqEntry.keys])] at hr'
    exact .inl ⟨f, hf, hr'.symm⟩
  · rw [if_neg (by simpa [DlqEntry.keys] using Ne.symm hid)] at hr'
    subst hr'
    exact .inr ⟨hr, hid⟩

theorem Attempted.mem_of_ne (h : Attempted io entry s s') {r : DlqEntry P}
    (hr : r ∈ s.kafkaDLQ.rows) (hid : r.id ≠ entry.id) : r ∈ s'.kafkaDLQ.rows := by
  obtain ⟨-, f, hrow, -⟩ := h
  rw [hrow]
  exact Table.mem_update.mpr ⟨r, hr, if_neg (by simpa [DlqEntry.keys] using Ne.symm hid)⟩

theorem Attempted.attempts (h : Attempted io entry s s') (id : String) :
    attempts s' id = attempts s id + if entry.id = id then 1 else 0 := by
  obtain ⟨⟨p, hreplays⟩, -⟩ := h
  by_cases hid : entry.id = id <;> simp [Kafka.attempts, hreplays, hid]

theorem Attempted.mono (h : Attempted io entry s s') (id : String) :
    (replayed s id = true → replayed s' id = true) ∧
      failedAttempts s id ≤ failedAttempts s' id := by
  obtain ⟨⟨p, hreplays⟩, -⟩ := h
  refine ⟨fun hdone => ?_, ?_⟩
  · simp only [replayed, hreplays, List.any_append, Bool.or_eq_true]
    exact .inl hdone
  · simp only [failedAttempts, hreplays, List.countP_append]
    exact Nat.le_add_right _ _

theorem Attempted.replayed (h : Attempted io entry s s')
    (hsend : (io.reply .send).effective = true) : replayed s' entry.id = true := by
  obtain ⟨⟨p, hreplays⟩, -⟩ := h
  simp [Kafka.replayed, hreplays, hsend]

theorem Counted.attempted (h : Counted s) (hattempt : Attempted io entry s s')
    (hentry : entry ∈ s.kafkaDLQ.rows) (hpending : isPending entry = true)
    (hcount : entry.retryCount < MAX_RETRIES) (htopic : entry.topic ≠ reconciliation) :
    Counted s' := by
  have hown := h.retryCount entry hentry hpending
  refine ⟨?_, ?_, ?_, ?_⟩
  · intro c hc
    obtain ⟨⟨p, hreplays⟩, f, hrow, hf⟩ := id hattempt
    rw [hreplays] at hc
    have hold : ∀ r ∈ s.kafkaDLQ.rows, ∃ r' ∈ s'.kafkaDLQ.rows, r'.id = r.id := by
      intro r hr
      by_cases hid : r.id = entry.id
      · refine ⟨f.apply entry, ?_, hf.id.trans hid.symm⟩
        rw [hrow]
        exact Table.mem_update.mpr ⟨entry, hentry, by simp [DlqEntry.keys]⟩
      · exact ⟨r, hattempt.mem_of_ne hr hid, rfl⟩
    rcases List.mem_append.mp hc with hc | hc
    · obtain ⟨r, hr, hid⟩ := h.known c hc
      obtain ⟨r', hr', hid'⟩ := hold r hr
      exact ⟨r', hr', hid'.trans hid⟩
    · rw [List.mem_singleton.mp hc]
      exact hold entry hentry
  · intro r' hr' hp
    rw [hattempt.attempts]
    rcases hattempt.mem_rows hentry hr' with ⟨f, hf, rfl⟩ | ⟨hr, hid⟩
    · rw [hf.id, if_pos rfl, hf.retryCount, hown]
    · rw [if_neg (Ne.symm hid), h.retryCount r' hr hp, Nat.add_zero]
  · intro id
    rw [hattempt.attempts]
    by_cases hid : entry.id = id
    · subst hid
      rw [if_pos rfl]
      omega
    · rw [if_neg hid]
      exact h.bounded id
  · intro c hc
    obtain ⟨⟨p, hreplays⟩, -⟩ := hattempt
    rw [hreplays] at hc
    rcases List.mem_append.mp hc with hc | hc
    · exact h.unpublished c hc
    · rw [List.mem_singleton.mp hc]
      exact htopic

theorem Spent.attempted (h : Spent s₀ s) (hcounted : Counted s)
    (hattempt : Attempted io entry s s') (hentry : entry ∈ s.kafkaDLQ.rows)
    (hpending : isPending entry = true) (htopic : entry.topic ≠ reconciliation) :
    Spent s₀ s' := by
  intro r hr r' hr' hid
  rcases hattempt.mem_rows hentry hr' with ⟨f, hf, rfl⟩ | ⟨hold, -⟩
  · have hid' : entry.id = r.id := hf.id.symm.trans hid
    obtain ⟨hsame, -⟩ := h r hr entry hentry hid'
    refine ⟨hf.topic.trans hsame, fun _ hdead => ⟨hsame ▸ htopic, ?_⟩⟩
    rw [← hid']
    rcases hf.dead hdead with hsend | hlast
    · exact .inl (hattempt.replayed hsend)
    · cases hdone : replayed s' entry.id with
      | true => exact .inl rfl
      | false =>
          right
          rw [attempts_eq_failedAttempts hdone, hattempt.attempts, if_pos rfl,
            ← hcounted.retryCount entry hentry hpending]
          exact hlast
  · obtain ⟨hsame, hspent⟩ := h r hr r' hold hid
    refine ⟨hsame, fun hlive hdead => ?_⟩
    obtain ⟨hne, hdone⟩ := hspent hlive hdead
    obtain ⟨hmono, hfailed⟩ := hattempt.mono r.id
    exact ⟨hne, hdone.imp hmono fun h => h.trans hfailed⟩

end Attempt

/-- A run of the replay with the rows still to be replayed, which are as it found them. -/
structure Remaining (s₀ : State P) (entries : List (DlqEntry P)) (s : State P) : Prop where
  initialised : s.initialised = true
  todo : ∀ entry ∈ entries, entry ∈ s.kafkaDLQ.rows ∧ isPending entry = true
  distinct : entries.Pairwise fun r r' => r.id ≠ r'.id
  counted : Counted s
  spent : Spent s₀ s

section Loop

variable {io : ReplayIo} {entry : DlqEntry P} {entries : List (DlqEntry P)} {s₀ s s' : State P}

theorem Counted.of_same (h : Counted s) (hsame : SameRows s s') : Counted s' where
  known := h.known.of_same hsame
  retryCount r hr hp := by
    rw [hsame.kafkaDLQ] at hr
    simpa [attempts, hsame.replays] using h.retryCount r hr hp
  bounded id := by simpa [attempts, hsame.replays] using h.bounded id
  unpublished c hc := h.unpublished c (hsame.replays ▸ hc)

theorem Spent.of_same (h : Spent s₀ s) (hsame : SameRows s s') : Spent s₀ s' := by
  intro r hr r' hr' hid
  rw [hsame.kafkaDLQ] at hr'
  simpa [replayed, failedAttempts, hsame.replays] using h r hr r' hr' hid

theorem sameRows_down (s : State P) : SameRows s (down s) := ⟨rfl, rfl⟩

/-- A pass that counts an attempt for a row that is not its last is over with the row; the others
are as they were. -/
theorem Remaining.pass (h : Remaining s₀ (entry :: entries) s) (hsound : Sound io entry) :
    (∀ s', replayEntry io entry s = .next s' → Remaining s₀ entries s') ∧
      ∀ s', replayEntry io entry s = .stop s' → Counted s' ∧ Spent s₀ s' := by
  obtain ⟨hentry, hpending⟩ := h.todo entry (by simp)
  obtain ⟨hfirst, hdistinct⟩ := List.pairwise_cons.mp h.distinct
  rcases hsound with hquiet | ⟨hattempts, hcount, htopic⟩
  · rcases replayEntry_of_writesNothing entry s hquiet with hnext | hstop
    · rw [hnext]
      refine ⟨?_, fun s' hs' => by cases hs'⟩
      rintro s' ⟨⟩
      exact ⟨h.initialised, fun r hr => h.todo r (by simp [hr]), hdistinct, h.counted, h.spent⟩
    · rw [hstop]
      refine ⟨fun s' hs' => (by cases hs'), ?_⟩
      rintro s' ⟨⟩
      exact ⟨h.counted.of_same (sameRows_down s), h.spent.of_same (sameRows_down s)⟩
  · obtain ⟨s₁, hattempt, hcases⟩ := replayEntry_of_attempts h.initialised hattempts
    have hcounted := h.counted.attempted hattempt hentry hpending hcount htopic
    have hspent := h.spent.attempted h.counted hattempt hentry hpending htopic
    rcases hcases with ⟨hnext, hup⟩ | hstop
    · rw [hnext]
      refine ⟨?_, fun s' hs' => by cases hs'⟩
      rintro s' ⟨⟩
      refine ⟨hup, fun r hr => ?_, hdistinct, hcounted, hspent⟩
      obtain ⟨hmem, hp⟩ := h.todo r (by simp [hr])
      exact ⟨hattempt.mem_of_ne hmem (Ne.symm (hfirst r hr)), hp⟩
    · rw [hstop]
      refine ⟨fun s' hs' => (by cases hs'), ?_⟩
      rintro s' ⟨⟩
      exact ⟨hcounted.of_same (sameRows_down s₁), hspent.of_same (sameRows_down s₁)⟩

theorem Spent.rfl (s : State P) : Spent s s := by
  intro r hr r' hr' hid
  have hsame := eq_of_id_eq hr' hr hid
  subst hsame
  exact ⟨Eq.refl _, fun hlive hdead => absurd hdead hlive⟩

theorem pairwise_getPendingEntries (limit : ℕ) (s : State P) :
    (getPendingEntries limit s).Pairwise fun r r' => r.id ≠ r'.id := by
  have hrows : s.kafkaDLQ.rows.Pairwise fun r r' => r.id ≠ r'.id :=
    s.kafkaDLQ.unique.imp fun h => by simpa [DlqEntry.keys] using h
  have hsorted : (s.kafkaDLQ.findManyDesc isPending fun r => -r.createdAt).Pairwise
      fun r r' => r.id ≠ r'.id :=
    ((List.perm_insertionSort _ _).pairwise_iff (fun h => Ne.symm h)).mpr (hrows.filter _)
  exact hsorted.sublist (List.take_sublist limit _)

theorem replayPending_spec (h : Counted s) {io : ReplayPendingIo}
    (hsound : SoundPasses s (.replay io)) :
    Counted (replayPending io s) ∧ Spent s (replayPending io s) := by
  unfold replayPending
  cases hs : s.initialised with
  | false => exact ⟨h, .rfl s⟩
  | true =>
      cases hread : io.findMany with
      | false => exact ⟨h, .rfl s⟩
      | true =>
          have hfound : Remaining s (getPendingEntries 20 s) s := by
            refine ⟨hs, fun entry hentry => ?_, pairwise_getPendingEntries 20 s, h, .rfl s⟩
            exact Table.mem_findManyDesc.mp (List.mem_of_mem_take hentry)
          exact Loop.run_remaining (Remaining s) (fun _ h => ⟨h.counted, h.spent⟩)
            (fun _ _ _ _ h hQ hnext => (h.pass hQ).1 _ hnext)
            (fun _ _ _ _ h hQ hstop => (h.pass hQ).2 _ hstop) hfound (hsound hs hread)

end Loop

/-! ## Every step -/

section Steps

variable {s s' : State P}

/-- A step that keeps every row makes none of them dead. -/
theorem Proper.of_kept (h : Counted s') (hrows : ∀ r ∈ s.kafkaDLQ.rows, r ∈ s'.kafkaDLQ.rows)
    (op : Op P) : Proper s op s' where
  bounded := h.bounded
  dead r hr r' hr' hid hlive hdead := by
    rw [eq_of_id_eq hr' (hrows r hr) hid] at hdead
    exact absurd hdead hlive
  unpublished := h.unpublished
  unclosed _ _ r hr _ hlive r' hr' hid := by
    rwa [eq_of_id_eq hr' (hrows r hr) hid]

theorem attempts_eq_zero (h : ReplaysKnown s) {id : String}
    (hid : ∀ r ∈ s.kafkaDLQ.rows, r.id ≠ id) : attempts s id = 0 := by
  rw [attempts, List.countP_eq_zero]
  intro c hc
  obtain ⟨r, hr, hrc⟩ := h c hc
  have hne : c.id ≠ id := fun hcid => hid r hr (hrc.trans hcid)
  simpa using hne

/-- A new row starts without attempts, or is not to be replayed. -/
theorem Counted.createRow (h : Counted s) (create : Reply) (row : DlqEntry P)
    (hrow : isPending row = true → row.retryCount = 0) :
    Counted (createRow create row s) ∧
      ∀ r ∈ s.kafkaDLQ.rows, r ∈ (createRow create row s).kafkaDLQ.rows := by
  have hknown := h.known.createRow create row
  rcases createRow_cases create row s with hnone | ⟨t, hcreate, hwritten⟩
  · rw [hnone]
    exact ⟨h, fun r hr => hr⟩
  · rw [hwritten] at hknown ⊢
    refine ⟨⟨hknown, fun r hr hp => ?_, h.bounded, h.unpublished⟩,
      fun r hr => (Table.mem_create hcreate).mpr (.inl hr)⟩
    rcases (Table.mem_create hcreate).mp hr with hold | rfl
    · exact h.retryCount r hold hp
    · have hfresh : ∀ r' ∈ s.kafkaDLQ.rows, r'.id ≠ r.id := by
        simpa [DlqEntry.keys, eq_comm] using (Table.create_eq_some hcreate).1
      rw [hrow hp]
      exact (attempts_eq_zero h.known hfresh).symm

theorem mem_markDead {update : Reply} {id : String} {r' : DlqEntry P}
    (hr' : r' ∈ (markDead update id s).kafkaDLQ.rows) :
    r' ∈ s.kafkaDLQ.rows ∨ r'.id = id ∧ r'.status = "DEAD" := by
  unfold markDead at hr'
  split at hr'
  swap
  · exact .inl hr'
  obtain ⟨r, hr, hr'⟩ := Table.mem_update.mp hr'
  by_cases hid : id ∈ DlqEntry.keys r
  · rw [if_pos hid] at hr'
    subst hr'
    exact .inr ⟨(List.mem_singleton.mp hid).symm, rfl⟩
  · rw [if_neg hid] at hr'
    subst hr'
    exact .inl hr

theorem markDead_spec (h : Counted s) (update : Reply) (id : String) :
    Counted (markDead update id s) ∧ Proper s (.markDead update id) (markDead update id s) := by
  have hreplays : (markDead update id s).replays = s.replays := by
    unfold markDead
    split <;> rfl
  have hcounted : Counted (markDead update id s) := by
    refine ⟨?_, fun r' hr' hp => ?_, fun i => ?_, fun c hc => h.unpublished c (hreplays ▸ hc)⟩
    · intro c hc
      obtain ⟨r, hr, hid⟩ := h.known c (hreplays ▸ hc)
      unfold markDead
      split
      swap
      · exact ⟨r, hr, hid⟩
      refine ⟨_, Table.mem_update.mpr ⟨r, hr, Eq.refl _⟩, Eq.trans ?_ hid⟩
      split <;> rfl
    · rcases mem_markDead hr' with hold | ⟨-, hdead⟩
      · simpa [attempts, hreplays] using h.retryCount r' hold hp
      · exact absurd hdead (not_pending_of_dead hp)
    · simpa [attempts, hreplays] using h.bounded i
  refine ⟨hcounted, hcounted.bounded, ?_, hcounted.unpublished, fun io hop => by cases hop⟩
  intro r hr r' hr' hid hlive hdead
  rcases mem_markDead hr' with hold | ⟨hmarked, -⟩
  · rw [eq_of_id_eq hold hr hid] at hdead
    exact absurd hdead hlive
  · exact .inr (.inr ⟨update, by rw [← hid, hmarked]⟩)

variable (json : DlqPayload → P)

theorem step_spec {op : Op P} (h : Counted s) (hop : SoundPasses s op) :
    Counted (step json s op) ∧ Proper s op (step json s op) := by
  have hwritten : ∀ {s'}, SameRows s s' → ∀ create {row : DlqEntry P},
      (isPending row = true → row.retryCount = 0) →
        Counted (createRow create row s') ∧ Proper s op (createRow create row s') := by
    intro s' hs' create row hrow
    obtain ⟨hcounted, hrows⟩ := (h.of_same hs').createRow create row hrow
    exact ⟨hcounted, .of_kept hcounted (fun r hr => hrows r (hs'.kafkaDLQ ▸ hr)) op⟩
  have hsame : ∀ {s'}, SameRows s s' → Counted s' ∧ Proper s op s' := fun hs' =>
    ⟨h.of_same hs', .of_kept (h.of_same hs') (fun r hr => hs'.kafkaDLQ ▸ hr) op⟩
  cases op with
  | start connected => exact hsame ⟨rfl, rfl⟩
  | stop => exact hsame ⟨rfl, rfl⟩
  | emit io event =>
      obtain ⟨-, s₁, hs₁, hcases⟩ := emit_cases io event s
      change Counted (emit io event s).2 ∧ Proper s (.emit io event) (emit io event s).2
      rcases hcases with hcase | hcase
      · rw [hcase]
        exact hsame hs₁
      · rw [hcase]
        exact hwritten hs₁ io.dlq.create fun _ => rfl
  | publishToDlqTopic fields io originalPayload reason =>
      have hs₁ := sameRows_emitRaw io.send (dlqEvent fields io originalPayload reason) s
      rcases publishToDlqTopic_cases fields io originalPayload reason s with
        hsent | ⟨row, -, -, hcount, -, hrow⟩
      · rw [step, hsent]
        exact hsame hs₁
      · rw [step, hrow]
        exact hwritten hs₁ io.dlq.create fun _ => hcount
  | pushToDlq io entry => exact hwritten ⟨rfl, rfl⟩ io.create fun _ => rfl
  | drain io => exact hsame (sameRows_drainQueue io s)
  | replay io =>
      obtain ⟨hcounted, hspent⟩ := replayPending_spec h hop
      refine ⟨hcounted, hcounted.bounded, ?_, hcounted.unpublished, ?_⟩
      · intro r hr r' hr' hid hlive hdead
        exact ((hspent r hr r' hr' hid).2 hlive hdead).2.imp_right .inl
      · intro _ _ r hr htopic hlive r' hr' hid hdead
        exact ((hspent r hr r' hr' hid).2 hlive hdead).1 htopic
  | markDead update id => exact markDead_spec h update id
  | policyFailed io userId dto order plan e => exact hwritten ⟨rfl, rfl⟩ io.create fun _ => rfl
  | retriesExhausted io entry attempts e =>
      exact hwritten ⟨rfl, rfl⟩ io.create fun hp => absurd rfl (not_pending_of_dead hp)

/-- In every run whose passes are sound no dead letter is replayed more than five times, each
becomes dead only once delivered, after five failures or by hand, and the records for
reconciliation are neither published nor closed by the replay. -/
theorem dead_letters_proper (ops : List (Op P)) (h : Run.Along (step json) SoundPasses {} ops) :
    Run.Along (step json) (fun s op => Proper s op (step json s op)) {} ops := by
  have hstart : Counted ({} : State P) :=
    ⟨fun c hc => absurd hc List.not_mem_nil, fun r hr => absurd hr List.not_mem_nil,
      fun _ => Nat.zero_le _, fun c hc => absurd hc List.not_mem_nil⟩
  exact Run.along_of_step (fun s op hs hop => step_spec json hs hop) hstart h

end Steps

end Letters

/-! ## Three ways past the bound -/

namespace Letter

def json : DlqPayload → String := fun _ => "{}"

def event : Event String := ⟨"driver_telemetry", some "d1", "first"⟩

/-- Broker and Redis are away, and the store takes the row. -/
def stored : Op String := .emit ⟨.error false, ⟨false, .ok, 1⟩, ⟨.ok, "r1", 1⟩⟩ event

def replay (mark send settle : Reply) : Op String :=
  .replay ⟨true, fun _ => ⟨fun
    | .mark => mark
    | .send => send
    | .close => .ok
    | .settle => settle, none⟩⟩

/-- The broker refuses the message and the store does not take the outcome. -/
def unsettled : Op String := replay .ok (.error false) (.error false)

/-- The store does not take the mark, so that the replay function is not called. -/
def unmarked : Op String := replay (.error false) .ok .ok

def delivering : Op String := replay .ok .ok .ok

def dto : Payments.VerifyPaymentDto := ⟨"order_1", "pay_1", "signature"⟩

def order : RazorpayOrder where
  id := "o1"
  userId := "u1"
  weeklyPlanId := "plan"
  razorpayOrderId := "order_1"
  amount := 4900
  currency := "INR"
  status := .FAILED
  razorpayPaymentId := some "pay_1"
  razorpaySignature := some "signature"

def plan : WeeklyPlan := ⟨"plan", "basic", "Basic", 49, 500, 7, ["rain"]⟩

def policyFailed : Op String := .policyFailed ⟨.ok, "r1", 1⟩ "u1" dto order plan storeDown

/-- The row after five passes that never called the replay function. -/
def givenUp : DlqEntry String where
  id := "r1"
  topic := "driver_telemetry"
  eventKey := some "d1"
  payload := .value "first"
  error := some (printed storeDown)
  retryCount := 5
  status := "DEAD"
  createdAt := 1

end Letter

open Letter in
theorem dead_letters_proper_delivered :
    Run.Along (step json) (fun s op => Proper s op (step json s op)) {}
      [.start false, stored, delivering] := by
  refine dead_letters_proper json [.start false, stored, delivering] ⟨trivial, trivial, ?_, trivial⟩
  exact fun _ _ => ⟨.inr ⟨⟨rfl, by decide, "first", rfl⟩, by decide, by decide⟩, fun _ _ => trivial⟩

open Letter in
/-- A sixth attempt, a row that is given up without an attempt, and a record for reconciliation
that is published. -/
theorem not_dead_letters_proper :
    ¬Run.Along (step json) (fun s op => Proper s op (step json s op)) {}
        ([.start false, stored] ++ List.replicate 6 unsettled) ∧
      ¬Run.Along (step json) (fun s op => Proper s op (step json s op)) {}
        ([.start false, stored] ++ List.replicate 5 unmarked) ∧
      ¬Run.Along (step json) (fun s op => Proper s op (step json s op)) {}
        [.start false, policyFailed, delivering] := by
  refine ⟨fun h => ?_, fun h => ?_, fun h => ?_⟩
  · obtain ⟨-, -, -, -, -, -, -, hsixth, -⟩ := h
    exact absurd (hsixth.bounded "r1") (by decide)
  · obtain ⟨-, -, -, -, -, -, hfifth, -⟩ := h
    have hdead := hfifth.dead { givenUp with status := "PENDING", retryCount := 4 } (by decide)
      givenUp (by decide) rfl (by decide) rfl
    rcases hdead with hreplayed | hfailed | ⟨update, hop⟩
    · exact absurd hreplayed (by decide)
    · exact absurd hfailed (by decide)
    · cases hop
  · obtain ⟨-, -, hreplay, -⟩ := h
    have hpublished : (⟨"r1", ⟨"PAYMENT_VERIFIED_POLICY_FAILED", some "u1", "{}"⟩, true⟩ :
        Replay String) ∈
          (Run.final (step json) {} [.start false, policyFailed, delivering]).replays :=
      .head _
    exact hreplay.unpublished _ hpublished rfl

end Aegis.Kafka
