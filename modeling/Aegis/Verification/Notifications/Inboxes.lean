import Aegis.Library.Unwinding
import Aegis.Verification.Notifications.Delivery

/-! # Every account has an inbox of its own

What an account is shown depends on the operations that name it, and on no others. -/

namespace Aegis.NotificationService

def inboxOf (userId : String) (inbox : Inbox) : List Notification :=
  inbox.rows.filter fun n => n.userId = userId

/-- Whether an operation reads or writes for the account. -/
def Op.concerns (userId : String) : Op → Bool
  | deliver _ message => message.value.bind extractUserId = some userId
  | send _ _ params => params.contextUserId = some userId
  | login _ owner _ => owner = userId
  | kycSubmitted _ _ admins => admins.any fun admin => admin.2 = userId
  | getNotifications owner _ _ | getUnreadCount owner | markAsRead _ owner _ => owner = userId

/-- The ids that are drawn for the rows of an operation. -/
def Op.ids : Op → List String
  | deliver io _ | send io _ _ | login io _ _ => [io.id]
  | kycSubmitted _ _ admins => admins.map Prod.fst
  | getNotifications _ _ _ | getUnreadCount _ | markAsRead _ _ _ => []

/-- Random ids do not repeat. -/
def DrawsFresh (inbox : Inbox) (op : Op) : Prop :=
  op.ids.Nodup ∧ ∀ id ∈ op.ids, id ∉ inbox.rows.map Notification.id

instance (inbox : Inbox) (op : Op) : Decidable (DrawsFresh inbox op) :=
  inferInstanceAs (Decidable (_ ∧ _))

/-- The account sees the same, and the first table has no id that the second one lacks. -/
structure Alike (userId : String) (s t : Inbox) : Prop where
  inbox : inboxOf userId s = inboxOf userId t
  ids : s.rows.map Notification.id ⊆ t.rows.map Notification.id

section Writes

variable {userId : String} {s t inbox : Inbox} {io : Io} {row : Notification}

theorem findUnique_eq_none_iff {id : String} :
    inbox.findUnique id = none ↔ id ∉ inbox.rows.map Notification.id := by
  rw [Table.findUnique_eq_none]
  simp [Notification.keys, eq_comm]

theorem inboxOf_of_append {inbox' : Inbox} (h : inbox'.rows = inbox.rows ++ [row]) :
    inboxOf userId inbox' = inboxOf userId inbox ++ if row.userId = userId then [row] else [] := by
  rw [inboxOf, h, List.filter_append, inboxOf]
  by_cases hrow : row.userId = userId <;> simp [hrow]

theorem Alike.createRow_other (h : Alike userId s t) (io : Io) (hrow : row.userId ≠ userId) :
    Alike userId s (createRow io row t) := by
  rcases createRow_cases io row t with hsame | ⟨-, -, hrows⟩
  · rwa [hsame]
  · refine ⟨?_, ?_⟩
    · rw [inboxOf_of_append hrows, if_neg hrow, List.append_nil, h.inbox]
    · rw [hrows, List.map_append]
      exact List.subset_append_of_subset_left _ h.ids

theorem Alike.createRow (h : Alike userId s t) (io : Io)
    (hfresh : row.id ∉ t.rows.map Notification.id) :
    Alike userId (createRow io row s) (createRow io row t) := by
  by_cases hwrite : io.write = true
  · have hs := createRow_rows hwrite (findUnique_eq_none_iff.mpr fun hmem => hfresh (h.ids hmem))
    have ht := createRow_rows hwrite (findUnique_eq_none_iff.mpr hfresh)
    refine ⟨?_, ?_⟩
    · rw [inboxOf_of_append hs, inboxOf_of_append ht, h.inbox]
    · rw [hs, ht, List.map_append, List.map_append]
      exact List.append_subset.mpr
        ⟨List.Subset.trans h.ids (List.subset_append_left _ _), List.subset_append_right _ _⟩
  · simpa [NotificationService.createRow, hwrite] using h

theorem ids_update (id : String) :
    (inbox.update id read).rows.map Notification.id = inbox.rows.map Notification.id := by
  simp only [Table.update, Table.updateMany, List.map_map]
  refine List.map_congr_left fun n _ => ?_
  rw [Function.comp_apply]
  split <;> rfl

theorem inboxOf_update (id : String) :
    inboxOf userId (inbox.update id read) =
      (inboxOf userId inbox).map fun n => if id ∈ n.keys then read.apply n else n := by
  have howner : ∀ n : Notification,
      (if id ∈ n.keys then read.apply n else n).userId = n.userId := by
    intro n
    split <;> rfl
  simp only [inboxOf, Table.update, Table.updateMany, List.filter_map, decide_eq_true_eq,
    Function.comp_def, howner]

theorem Alike.update (h : Alike userId s t) (id : String) :
    Alike userId (s.update id read) (t.update id read) := by
  refine ⟨?_, ?_⟩
  · rw [inboxOf_update, inboxOf_update, h.inbox]
  · rw [ids_update, ids_update]
    exact h.ids

/-- A row of another owner is marked. -/
theorem Alike.update_other (h : Alike userId s t) {n : Notification} (hn : n ∈ t.rows)
    (howner : n.userId ≠ userId) : Alike userId s (t.update n.id read) := by
  refine ⟨?_, ?_⟩
  · rw [inboxOf_update, h.inbox]
    refine ((List.map_congr_left fun m hm => ?_).trans (List.map_id _)).symm
    obtain ⟨hm, howned⟩ := List.mem_filter.mp hm
    rw [if_neg, id_eq]
    intro hid
    have hmn : m = n := Table.eq_of_mem_keys hm hn hid (List.mem_singleton.mpr rfl)
    exact howner (hmn ▸ of_decide_eq_true howned)
  · rw [ids_update]
    exact h.ids

end Writes

/-! ## Reads -/

section Reads

variable {cfg : Config} {userId : String} {s t inbox : Inbox} {io : Io}

theorem notificationsOf_eq :
    notificationsOf userId inbox =
      (inboxOf userId inbox).insertionSort fun m n => n.createdAt ≤ m.createdAt := rfl

theorem Alike.getNotifications (h : Alike userId s t) (limit offset : Option JsNumber) :
    getNotifications cfg userId limit offset s = getNotifications cfg userId limit offset t := by
  simp only [NotificationService.getNotifications, notificationsOf_eq, h.inbox]

theorem Alike.getUnreadCount (h : Alike userId s t) :
    getUnreadCount cfg userId s = getUnreadCount cfg userId t := by
  have hcount : ∀ inbox : Inbox,
      (inbox.rows.countP fun n => n.userId = userId && n.isRead = false) =
        (inboxOf userId inbox).countP fun n => n.isRead = false := by
    intro inbox
    rw [inboxOf, List.countP_filter]
    simp only [Bool.and_comm]
  simp only [NotificationService.getUnreadCount, hcount, h.inbox]

theorem find?_owned (id : String) :
    (inbox.rows.find? fun n => n.id = id && n.userId = userId) =
      (inboxOf userId inbox).find? fun n => n.id = id := by
  rw [inboxOf, List.find?_filter]
  refine congrArg (List.find? · _) (funext fun n => ?_)
  rw [Bool.decide_and, Bool.decide_eq_true, Bool.decide_eq_true, Bool.and_comm]

theorem userId_of_eventKey {n : Notification} {key : EventKey} (h : n.eventKey = some key) :
    n.userId = key.userId := by
  obtain ⟨eventId, -, rfl⟩ := Option.map_eq_some_iff.mp h
  rfl

theorem duplicate_eq (key : EventKey) :
    duplicate key inbox = (inboxOf key.userId inbox).any fun n => n.eventKey = some key := by
  rw [inboxOf, List.any_filter, duplicate]
  refine List.any_congr rfl fun n => ?_
  by_cases hn : n.eventKey = some key
  · simp [hn, userId_of_eventKey hn]
  · simp [hn]

end Reads

/-! ## Operations -/

section Operations

variable {cfg : Config} {userId : String} {s t : Inbox} {io : Io}

theorem draft_userId {message : KafkaMessage} {row : Notification}
    (h : draft cfg io message = some row) : message.value.bind extractUserId = some row.userId := by
  simp only [draft, Option.bind_eq_bind, Option.bind_eq_some_iff, Option.filter_eq_some_iff,
    Option.pure_def] at h
  obtain ⟨payload, ⟨hvalue, -⟩, eventType, -, owner, ⟨howner, -⟩, text, -, hrow⟩ := h
  rw [hvalue, Option.bind_some, howner]
  exact congrArg some (congrArg Notification.userId (Option.some.inj hrow))

theorem Alike.eachMessage_other (h : Alike userId s t) {message : KafkaMessage}
    (howner : message.value.bind extractUserId ≠ some userId) :
    Alike userId s (eachMessage cfg io message t) := by
  rw [eachMessage_eq]
  cases hdraft : draft cfg io message with
  | none => exact h
  | some row =>
      dsimp only
      split
      · exact h.createRow_other io fun hrow => howner (hrow ▸ draft_userId hdraft)
      · exact h

theorem Alike.admitted {row : Notification} (h : Alike userId s t) (hrow : row.userId = userId) :
    admitted io row s = admitted io row t := by
  unfold NotificationService.admitted
  cases hkey : row.eventKey with
  | none => rfl
  | some key =>
      have howner : key.userId = userId := (userId_of_eventKey hkey).symm.trans hrow
      simp only [Option.all_some, duplicate_eq, howner, h.inbox]

theorem Alike.eachMessage (h : Alike userId s t) {message : KafkaMessage}
    (howner : message.value.bind extractUserId = some userId)
    (hfresh : io.id ∉ t.rows.map Notification.id) :
    Alike userId (eachMessage cfg io message s) (eachMessage cfg io message t) := by
  rw [eachMessage_eq, eachMessage_eq]
  cases hdraft : draft cfg io message with
  | none => exact h
  | some row =>
      dsimp only
      have hrow : row.userId = userId := Option.some.inj ((draft_userId hdraft).symm.trans howner)
      rw [h.admitted hrow]
      split
      · exact h.createRow io (draft_id hdraft ▸ hfresh)
      · exact h

theorem Alike.createInAppNotification_other {row : Notification} (h : Alike userId s t)
    (hrow : row.userId ≠ userId) :
    Alike userId s (createInAppNotification cfg io row t) := by
  rw [createInAppNotification]
  split
  · exact h.createRow_other io hrow
  · exact h

theorem Alike.createInAppNotification {row : Notification} (h : Alike userId s t)
    (hfresh : row.id ∉ t.rows.map Notification.id) :
    Alike userId (createInAppNotification cfg io row s) (createInAppNotification cfg io row t) := by
  unfold NotificationService.createInAppNotification
  split
  · exact h.createRow io hfresh
  · exact h

theorem Alike.send_other (h : Alike userId s t) {params : SendParams} (mailSent : Bool)
    (howner : params.contextUserId ≠ some userId) :
    Alike userId s (send cfg io mailSent params t).2 := by
  unfold send
  split
  · cases howner' : params.contextUserId with
    | none => exact h
    | some owner =>
        exact h.createInAppNotification_other fun hrow =>
          howner (howner'.trans (congrArg some hrow))
  · exact h

theorem Alike.send (h : Alike userId s t) (cfg : Config) (params : SendParams) (mailSent : Bool)
    (hfresh : io.id ∉ t.rows.map Notification.id) :
    Twins (Alike userId) (send cfg io mailSent params s) (send cfg io mailSent params t) := by
  unfold NotificationService.send
  split
  · cases params.contextUserId with
    | none => exact ⟨rfl, h⟩
    | some owner => exact ⟨rfl, h.createInAppNotification hfresh⟩
  · exact ⟨rfl, h⟩

theorem Alike.createMany_other (h : Alike userId s t) {now : ℤ} {about : String}
    {admins : List (String × String)} (hadmins : ∀ admin ∈ admins, admin.2 ≠ userId) :
    Alike userId s (createMany cfg now about admins t) := by
  rw [createMany]
  split
  · induction admins generalizing t with
    | nil => exact h
    | cons admin admins ih =>
        rw [List.foldl_cons]
        refine ih ?_ fun other hother => hadmins other (List.mem_cons_of_mem _ hother)
        exact h.createRow_other { now := now, id := "" } (hadmins admin List.mem_cons_self)
  · exact h

/-- A row brings its own id alone. -/
theorem mem_ids_createRow (io : Io) {row : Notification} {id : String}
    (h : id ∈ (createRow io row t).rows.map Notification.id) :
    id ∈ t.rows.map Notification.id ∨ id = row.id := by
  rcases createRow_cases io row t with hsame | ⟨-, -, hrows⟩
  · exact .inl (hsame ▸ h)
  · simpa [hrows, eq_comm] using h

theorem Alike.createMany (h : Alike userId s t) {now : ℤ} {about : String}
    {admins : List (String × String)} (hnodup : (admins.map Prod.fst).Nodup)
    (hfresh : ∀ id ∈ admins.map Prod.fst, id ∉ t.rows.map Notification.id) :
    Alike userId (createMany cfg now about admins s) (createMany cfg now about admins t) := by
  unfold NotificationService.createMany
  split
  · induction admins generalizing s t with
    | nil => exact h
    | cons admin admins ih =>
        obtain ⟨hnew, hnodup⟩ := List.nodup_cons.mp hnodup
        have hadmin : (kycRow now about admin.1 admin.2).id ∉ t.rows.map Notification.id :=
          hfresh admin.1 List.mem_cons_self
        have hstep := h.createRow { now := now, id := "" } hadmin
        refine ih hstep hnodup fun id hid hmem => ?_
        rcases mem_ids_createRow { now := now, id := "" } hmem with hmem | rfl
        · exact hfresh id (List.mem_cons_of_mem _ hid) hmem
        · exact hnew hid
  · exact h

theorem Alike.markAsRead_other (h : Alike userId s t) {owner : String} (id : String)
    (howner : owner ≠ userId) : Alike userId s (markAsRead cfg io owner id t).2 := by
  unfold markAsRead
  split
  · split
    · split
      · exact h
      · rename_i n hfound
        have hboth := List.find?_some hfound
        simp only [Bool.and_eq_true, decide_eq_true_eq] at hboth
        obtain ⟨rfl, hn⟩ := hboth
        split
        · exact h.update_other (List.mem_of_find?_eq_some hfound) (hn ▸ howner)
        · exact h
    · exact h
  · exact h

theorem Alike.markAsRead (h : Alike userId s t) (cfg : Config) (io : Io) (id : String) :
    Twins (Alike userId) (markAsRead cfg io userId id s) (markAsRead cfg io userId id t) := by
  unfold NotificationService.markAsRead
  rw [find?_owned, find?_owned, h.inbox]
  split
  · split
    · split
      · exact ⟨rfl, h⟩
      · split
        · exact ⟨rfl, h.update id⟩
        · exact ⟨rfl, h⟩
    · exact ⟨rfl, h⟩
  · exact ⟨rfl, h⟩

/-- The operations of the others. -/
theorem Alike.hidden (h : Alike userId s t) (cfg : Config) {op : Op}
    (hother : op.concerns userId = false) :
    Alike userId s (step cfg t op) := by
  cases op with
  | deliver io message => exact h.eachMessage_other (of_decide_eq_false hother)
  | send io mailSent params => exact h.send_other mailSent (of_decide_eq_false hother)
  | login io owner provider =>
      exact h.createInAppNotification_other (of_decide_eq_false hother)
  | kycSubmitted now about admins =>
      refine h.createMany_other fun admin hadmin => ?_
      simpa using List.any_eq_false.mp hother admin hadmin
  | getNotifications owner limit offset => exact h
  | getUnreadCount owner => exact h
  | markAsRead io owner id => exact h.markAsRead_other id (of_decide_eq_false hother)

theorem laws (cfg : Config) (userId : String) :
    Unwinding.Laws (fun inbox op => op.run cfg inbox) (Op.concerns userId) (Alike userId)
      (fun _ _ => True) DrawsFresh where
  hidden _ _ _ h _ hother := h.hidden cfg hother
  shown s t op h _ hfresh hown := by
    obtain ⟨hnodup, hfresh⟩ := hfresh
    cases op with
    | deliver io message =>
        exact ⟨rfl, h.eachMessage (of_decide_eq_true hown) (hfresh io.id List.mem_cons_self)⟩
    | send io mailSent params =>
        obtain ⟨hok, hinbox⟩ := h.send cfg params mailSent (hfresh io.id List.mem_cons_self)
        exact ⟨congrArg Answer.sent hok, hinbox⟩
    | login io owner provider =>
        exact ⟨rfl, h.createInAppNotification (hfresh io.id List.mem_cons_self)⟩
    | kycSubmitted now about admins => exact ⟨rfl, h.createMany hnodup hfresh⟩
    | getNotifications owner limit offset =>
        obtain rfl := of_decide_eq_true hown
        exact ⟨congrArg Answer.page (h.getNotifications _ _), h⟩
    | getUnreadCount owner =>
        obtain rfl := of_decide_eq_true hown
        exact ⟨congrArg Answer.unreadCount h.getUnreadCount, h⟩
    | markAsRead io owner id =>
        obtain rfl := of_decide_eq_true hown
        obtain ⟨hresult, hinbox⟩ := h.markAsRead cfg io id
        exact ⟨congrArg Answer.marked hresult, hinbox⟩

end Operations

/-- Without the operations of the others, an account's requests get the same answers and its inbox
ends up the same. -/
theorem answers_concerned (cfg : Config) (userId : String) (inbox : Inbox) (ops : List Op)
    (hfresh : Run.Along (step cfg) DrawsFresh inbox ops) :
    Unwinding.answers (fun inbox op => Op.run cfg inbox op) (Op.concerns userId) inbox ops =
        Unwinding.answers (fun inbox op => Op.run cfg inbox op) (Op.concerns userId) inbox
          (ops.filter (Op.concerns userId)) ∧
      inboxOf userId (Run.final (step cfg) inbox ops) =
        inboxOf userId (Run.final (step cfg) inbox (ops.filter (Op.concerns userId))) := by
  have hstart : Alike userId inbox inbox := ⟨rfl, List.Subset.refl _⟩
  obtain ⟨hanswers, hfinal⟩ := (laws cfg userId).run hstart
    (Run.along_of_forall (fun _ _ => trivial) _) hfresh
  exact ⟨hanswers.symm, hfinal.inbox.symm⟩

/-- A sign-in and a payout of one account, and a stranger who marks what is not theirs. -/
theorem answers_concerned_two :
    let cfg : Config := { toLocaleString := fun _ => "400" }
    let payout : KafkaMessage :=
      { topic := "payout_events", partition := 0, offset := "7", value := some (.obj
        [("userId", .str "ravi"), ("status", .str "completed"), ("amount", .num 400)]) }
    let ops : List Op :=
      [.login ⟨1, "a", true, true⟩ "asha" none, .deliver ⟨2, "b", true, true⟩ payout,
        .markAsRead ⟨3, "", true, true⟩ "asha" "b", .getNotifications "ravi" (some "5") none]
    Unwinding.answers (fun inbox op => Op.run cfg inbox op) (Op.concerns "ravi") .empty ops =
        Unwinding.answers (fun inbox op => Op.run cfg inbox op) (Op.concerns "ravi") .empty
          (ops.filter (Op.concerns "ravi")) ∧
      inboxOf "ravi" (Run.final (step cfg) .empty ops) =
        inboxOf "ravi" (Run.final (step cfg) .empty (ops.filter (Op.concerns "ravi"))) :=
  answers_concerned _ "ravi" .empty _ (by decide)

end Aegis.NotificationService
