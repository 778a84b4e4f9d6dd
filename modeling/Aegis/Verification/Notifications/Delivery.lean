import Aegis.Library.Run
import Aegis.Model.Notifications

/-! # One notification for an event

Records of a topic come more than once. Whatever else writes to the table between them, the first
one that goes through leaves a row and the others leave none. -/

namespace Aegis.NotificationService

/-! ## What a record asks for -/

section Drafts

variable (cfg : Config) (io : Io) (message : KafkaMessage)

/-- The row of a record, whatever the table holds. -/
def draft : Option Notification := do
  let payload ← message.value.filter fun payload => !payload.isNull
  let eventType ← inferEventType payload message.topic
  let userId ← (extractUserId payload).filter fun _ => cfg.notificationRepo
  let text ← buildMessage payload cfg eventType
  pure (eventRow io message payload eventType userId
    (extractEventId payload message.topic message.partition message.offset) text)

/-- Whether the service goes on to write the row. -/
def admitted (row : Notification) (inbox : Inbox) : Bool :=
  row.eventKey.all fun key => io.read && !duplicate key inbox

/-- The duplicate check and the insertion. -/
theorem insert_eq (payload : Json) (eventType userId text : String) (inbox : Inbox) :
    (let eventId := extractEventId payload message.topic message.partition message.offset
      let seen := eventId.map fun eventId => duplicate ⟨userId, eventType, eventId⟩ inbox
      if seen.isSome ∧ ¬io.read then inbox
      else if seen = some true then inbox
      else createRow io (eventRow io message payload eventType userId eventId text) inbox) =
    let row := eventRow io message payload eventType userId
      (extractEventId payload message.topic message.partition message.offset) text
    if admitted io row inbox then createRow io row inbox else inbox := by
  cases hid : extractEventId payload message.topic message.partition message.offset with
  | none => rfl
  | some eventId =>
      cases hread : io.read <;> cases hseen : duplicate ⟨userId, eventType, eventId⟩ inbox <;>
        simp [hread, hseen, admitted, eventRow, Notification.eventKey, Metadata.eventId]

theorem eachMessage_eq (inbox : Inbox) :
    eachMessage cfg io message inbox =
      match draft cfg io message with
      | none => inbox
      | some row => if admitted io row inbox then createRow io row inbox else inbox := by
  unfold eachMessage processKafkaEvent
  cases hvalue : message.value with
  | none =>
      have hdraft : draft cfg io message = none := by simp [draft, hvalue]
      rw [hdraft]
  | some payload =>
      cases hnull : payload.isNull with
      | true =>
          have hdraft : draft cfg io message = none := by simp [draft, hvalue, hnull]
          simp only [hdraft, hnull, if_true]
      | false =>
          have hbody : draft cfg io message = (inferEventType payload message.topic).bind
              fun eventType => ((extractUserId payload).filter fun _ => cfg.notificationRepo).bind
                fun userId => (buildMessage payload cfg eventType).map
                  fun text => eventRow io message payload eventType userId
                    (extractEventId payload message.topic message.partition message.offset)
                      text := by
            simp [draft, hvalue, hnull, Option.filter, Option.map_eq_bind]
          simp only [hnull, hbody, Bool.false_eq_true, if_false]
          cases inferEventType payload message.topic with
          | none => rfl
          | some eventType =>
              cases cfg.notificationRepo with
              | false => cases extractUserId payload <;> rfl
              | true =>
                  cases extractUserId payload with
                  | none => rfl
                  | some userId =>
                      dsimp only [Option.bind_some, Option.filter]
                      cases buildMessage payload cfg eventType with
                      | none => simp
                      | some text => exact insert_eq ..

end Drafts

/-! ## Rows under a key -/

/-- The notifications that there are of an event. -/
def copies (key : EventKey) (inbox : Inbox) : List Notification :=
  inbox.rows.filter fun n => n.eventKey = some key

section Copies

variable {inbox : Inbox} {key : EventKey} {io : Io} {row : Notification}

theorem duplicate_eq_false : duplicate key inbox = false ↔ copies key inbox = [] := by
  simp [duplicate, copies, List.filter_eq_nil_iff]

theorem createRow_rows (h : io.write = true) (hfresh : inbox.findUnique row.id = none) :
    (createRow io row inbox).rows = inbox.rows ++ [row] := by
  have hkeys : ∀ s ∈ inbox.rows, ∀ k ∈ s.keys, k ∉ row.keys := by
    intro s hs k hk hrow
    rw [Notification.keys, List.mem_singleton] at hrow
    exact (inbox.findUnique_eq_none row.id).mp hfresh s hs (hrow ▸ hk)
  obtain ⟨inbox', hcreate⟩ := Table.exists_create hkeys
  rw [createRow, if_pos h, hcreate, Option.getD_some, (Table.create_eq_some hcreate).2]

theorem createRow_cases (io : Io) (row : Notification) (inbox : Inbox) :
    createRow io row inbox = inbox ∨
      (io.write = true ∧ inbox.findUnique row.id = none ∧
        (createRow io row inbox).rows = inbox.rows ++ [row]) := by
  by_cases h : io.write = true
  · cases hcreate : inbox.create row with
    | none => exact .inl (by simp [createRow, h, hcreate])
    | some inbox' =>
        have hfresh : inbox.findUnique row.id = none := by
          refine (inbox.findUnique_eq_none row.id).mpr fun s hs hk => ?_
          exact (Table.create_eq_some hcreate).1 s hs row.id hk (List.mem_singleton.mpr rfl)
        exact .inr ⟨h, hfresh, createRow_rows h hfresh⟩
  · exact .inl (by simp [createRow, h])

theorem copies_of_append {inbox' : Inbox} (h : inbox'.rows = inbox.rows ++ [row]) :
    copies key inbox' = copies key inbox ++ if row.eventKey = some key then [row] else [] := by
  rw [copies, h, List.filter_append, copies]
  by_cases hrow : row.eventKey = some key <;> simp [hrow]

theorem copies_createRow_of_ne (io : Io) (h : row.eventKey ≠ some key) :
    copies key (createRow io row inbox) = copies key inbox := by
  rcases createRow_cases io row inbox with hsame | ⟨-, -, hrows⟩
  · rw [hsame]
  · rw [copies_of_append hrows, if_neg h, List.append_nil]

theorem eventKey_read (n : Notification) : (read.apply n).eventKey = n.eventKey := rfl

theorem length_copies_update (id : String) :
    (copies key (inbox.update id read)).length = (copies key inbox).length := by
  have hkey : ∀ n : Notification,
      (if id ∈ n.keys then read.apply n else n).eventKey = n.eventKey := by
    intro n
    split
    · exact eventKey_read n
    · rfl
  simp only [copies, Table.update, Table.updateMany, List.filter_map, List.length_map,
    decide_eq_true_eq, Function.comp_def, hkey]

end Copies

/-! ## Steps and runs -/

section Steps

variable {cfg : Config} {io : Io} {inbox : Inbox} {key : EventKey}

/-- A record of the event that meets no failure. -/
def GoesThrough (cfg : Config) (key : EventKey) (inbox : Inbox) : Op → Prop
  | .deliver io message => io.read = true ∧ io.write = true ∧ inbox.findUnique io.id = none ∧
      (draft cfg io message).bind Notification.eventKey = some key
  | _ => False

theorem draft_id {message : KafkaMessage} {row : Notification}
    (h : draft cfg io message = some row) : row.id = io.id := by
  simp only [draft, Option.bind_eq_bind, Option.bind_eq_some_iff, Option.pure_def] at h
  obtain ⟨payload, -, eventType, -, userId, -, text, -, h⟩ := h
  exact congrArg Notification.id (Option.some.inj h).symm

/-- The first record that goes through leaves a row, any other one leaves none. -/
theorem copies_eachMessage (cfg : Config) (io : Io) (inbox : Inbox) (key : EventKey)
    (message : KafkaMessage) :
    (copies key (eachMessage cfg io message inbox) = copies key inbox ∧
      (GoesThrough cfg key inbox (.deliver io message) → copies key inbox ≠ [])) ∨
    (copies key inbox = [] ∧ GoesThrough cfg key inbox (.deliver io message) ∧
      ∃ row, copies key (eachMessage cfg io message inbox) = [row]) := by
  rw [eachMessage_eq]
  cases hdraft : draft cfg io message with
  | none => exact .inl ⟨rfl, by simp [GoesThrough, hdraft]⟩
  | some row =>
      dsimp only
      by_cases hkey : row.eventKey = some key
      · have hadmitted : admitted io row inbox = (io.read && !duplicate key inbox) := by
          rw [admitted, hkey, Option.all_some]
        cases hseen : duplicate key inbox with
        | true =>
            have hheld : copies key inbox ≠ [] := by
              rw [Ne, ← duplicate_eq_false, hseen]
              exact Bool.true_eq_false_eq_False
            rw [hadmitted, hseen]
            simp [hheld]
        | false =>
            have hnone : copies key inbox = [] := duplicate_eq_false.mp hseen
            cases hread : io.read with
            | false => exact .inl ⟨by simp [hadmitted, hread], by simp [GoesThrough, hread]⟩
            | true =>
                rw [if_pos (by simp [hadmitted, hread, hseen])]
                rcases createRow_cases io row inbox with hsame | ⟨hwrite, hfresh, hrows⟩
                · rw [hsame]
                  refine .inl ⟨rfl, fun hthrough => ?_⟩
                  have hrows := createRow_rows hthrough.2.1 (draft_id hdraft ▸ hthrough.2.2.1)
                  simp [hsame] at hrows
                · refine .inr ⟨hnone, ⟨hread, hwrite, draft_id hdraft ▸ hfresh, ?_⟩, row, ?_⟩
                  · rw [hdraft, Option.bind_some, hkey]
                  · rw [copies_of_append hrows, hnone, if_pos hkey, List.nil_append]
      · refine .inl ⟨?_, fun hthrough => ?_⟩
        · split
          · exact copies_createRow_of_ne io hkey
          · rfl
        · have howned := hthrough.2.2.2
          rw [hdraft, Option.bind_some] at howned
          exact absurd howned hkey

theorem copies_createInAppNotification {row : Notification} (h : row.eventKey = none) :
    copies key (createInAppNotification cfg io row inbox) = copies key inbox := by
  rw [createInAppNotification]
  split
  · exact copies_createRow_of_ne io (by simp [h])
  · rfl

theorem copies_createMany (now : ℤ) (userId : String) (admins : List (String × String)) :
    copies key (createMany cfg now userId admins inbox) = copies key inbox := by
  rw [createMany]
  split
  · induction admins generalizing inbox with
    | nil => rfl
    | cons admin admins ih =>
        rw [List.foldl_cons, ih]
        exact copies_createRow_of_ne { now := now, id := "" } nofun
  · rfl

theorem length_copies_markAsRead (userId id : String) :
    (copies key (markAsRead cfg io userId id inbox).2).length = (copies key inbox).length := by
  unfold markAsRead
  split
  · split
    · split
      · rfl
      · split
        · exact length_copies_update id
        · rfl
    · rfl
  · rfl

/-- What one operation does to the notifications of an event. -/
theorem copies_step (cfg : Config) (inbox : Inbox) (key : EventKey) (op : Op) :
    ((copies key (step cfg inbox op)).length = (copies key inbox).length ∧
      (GoesThrough cfg key inbox op → copies key inbox ≠ [])) ∨
    (copies key inbox = [] ∧ GoesThrough cfg key inbox op ∧
      (copies key (step cfg inbox op)).length = 1) := by
  cases op with
  | deliver io message =>
      rcases copies_eachMessage cfg io inbox key message with
        ⟨hsame, hthrough⟩ | ⟨hnone, hthrough, row, hrow⟩
      · exact .inl ⟨congrArg List.length hsame, hthrough⟩
      · exact .inr ⟨hnone, hthrough, congrArg List.length hrow⟩
  | send io mailSent params =>
      refine .inl ⟨congrArg List.length ?_, nofun⟩
      change copies key (NotificationService.send cfg io mailSent params inbox).2 = _
      unfold NotificationService.send
      split
      · split
        · rfl
        · exact copies_createInAppNotification rfl
      · rfl
  | login io userId provider =>
      exact .inl ⟨congrArg List.length (copies_createInAppNotification rfl), nofun⟩
  | kycSubmitted now userId admins =>
      exact .inl ⟨congrArg List.length (copies_createMany now userId admins), nofun⟩
  | getNotifications userId limit offset => exact .inl ⟨rfl, nofun⟩
  | getUnreadCount userId => exact .inl ⟨rfl, nofun⟩
  | markAsRead io userId id => exact .inl ⟨length_copies_markAsRead userId id, nofun⟩

theorem length_copies_step_le (op : Op) (h : (copies key inbox).length ≤ 1) :
    (copies key (step cfg inbox op)).length ≤ 1 := by
  rcases copies_step cfg inbox key op with ⟨hsame, -⟩ | ⟨-, -, hone⟩
  · exact hsame.trans_le h
  · exact hone.le

theorem copies_step_ne_nil (cfg : Config) (inbox : Inbox) (op : Op) :
    copies key (step cfg inbox op) ≠ [] ↔
      copies key inbox ≠ [] ∨ GoesThrough cfg key inbox op := by
  rcases copies_step cfg inbox key op with
    ⟨hsame, hthrough⟩ | ⟨-, hthrough, hone⟩
  · rw [← List.length_pos_iff, hsame, List.length_pos_iff]
    exact ⟨.inl, fun h => h.elim id hthrough⟩
  · exact ⟨fun _ => .inr hthrough, fun _ => List.length_pos_iff.mp (by omega)⟩

end Steps

/-- Over every run an event has one notification from the first of its records that goes through
on, and none before. -/
theorem copies_final (cfg : Config) (ops : List Op) (key : EventKey) :
    Run.Always (step cfg) (fun inbox => (copies key inbox).length ≤ 1) .empty ops ∧
      ((copies key (Run.final (step cfg) .empty ops)).length = 1 ↔
        Run.Sometime (step cfg) (GoesThrough cfg key) .empty ops) := by
  have halways : Run.Always (step cfg) (fun inbox => (copies key inbox).length ≤ 1) .empty ops :=
    Run.always_of_step (fun _ op h (_ : True) => length_copies_step_le op h)
      (Nat.zero_le 1) (Run.along_of_forall (fun _ _ => trivial) _)
  have hheld := Run.final_iff_sometime (P := fun inbox => copies key inbox ≠ [])
    (fun inbox op => copies_step_ne_nil cfg inbox op) .empty ops
  have hstart : ¬copies key .empty ≠ [] := fun h => h rfl
  refine ⟨halways, Iff.trans ?_ (hheld.trans (or_iff_right hstart))⟩
  rw [← List.length_pos_iff]
  have hle := halways.last
  omega

end Aegis.NotificationService
