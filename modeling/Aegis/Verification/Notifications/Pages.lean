import Aegis.Library.Paging
import Aegis.Verification.Notifications.Inboxes

/-! # Reading an inbox page by page

The pages are counted from the newest notification. A reader who goes on until a page is not full
has seen whatever was there at the start, however much arrives in between. -/

namespace Aegis.NotificationService

/-! ## What a page depends on -/

/-- What no operation changes of a row, and the pages depend on. -/
structure Stamp where
  id : String
  userId : String
  createdAt : ℤ

def Notification.stamp (n : Notification) : Stamp := ⟨n.id, n.userId, n.createdAt⟩

def stamps (inbox : Inbox) : List Stamp := inbox.rows.map Notification.stamp

/-- The stamps of an account, newest first. -/
def newestFirst (userId : String) (stamps : List Stamp) : List Stamp :=
  (stamps.filter fun s => s.userId = userId).insertionSort fun r s => s.createdAt ≤ r.createdAt

section Stamps

variable {cfg : Config} {userId : String} {inbox : Inbox} {io : Io}

theorem map_stamp_notificationsOf :
    (notificationsOf userId inbox).map Notification.stamp = newestFirst userId (stamps inbox) := by
  have hsort := List.map_insertionSort (fun m n : Notification => n.createdAt ≤ m.createdAt)
    (fun r s : Stamp => s.createdAt ≤ r.createdAt) Notification.stamp (inboxOf userId inbox)
    fun _ _ _ _ => Iff.rfl
  rw [notificationsOf_eq, hsort, newestFirst, stamps, List.filter_map]
  rfl

theorem stamps_createRow (io : Io) (row : Notification) :
    (stamps inbox).Sublist (stamps (createRow io row inbox)) := by
  rcases createRow_cases io row inbox with hsame | ⟨-, -, hrows⟩
  · rw [hsame]
  · rw [stamps, stamps, hrows, List.map_append]
    exact List.sublist_append_left _ _

theorem stamps_update (id : String) : stamps (inbox.update id read) = stamps inbox := by
  simp only [stamps, Table.update, Table.updateMany, List.map_map]
  refine List.map_congr_left fun n _ => ?_
  rw [Function.comp_apply]
  split <;> rfl

theorem stamps_createInAppNotification (row : Notification) :
    (stamps inbox).Sublist (stamps (createInAppNotification cfg io row inbox)) := by
  rw [createInAppNotification]
  split
  · exact stamps_createRow io row
  · exact List.Sublist.refl _

theorem stamps_createMany (now : ℤ) (about : String) (admins : List (String × String)) :
    (stamps inbox).Sublist (stamps (createMany cfg now about admins inbox)) := by
  rw [createMany]
  split
  · induction admins generalizing inbox with
    | nil => exact List.Sublist.refl _
    | cons admin admins ih =>
        exact (stamps_createRow { now := now, id := "" } _).trans ih
  · exact List.Sublist.refl _

/-- Rows are only added. -/
theorem stamps_step (op : Op) : (stamps inbox).Sublist (stamps (step cfg inbox op)) := by
  cases op with
  | deliver io message =>
      change (stamps inbox).Sublist (stamps (eachMessage cfg io message inbox))
      rw [eachMessage_eq]
      split
      · exact List.Sublist.refl _
      · split
        · exact stamps_createRow io _
        · exact List.Sublist.refl _
  | send io mailSent params =>
      change (stamps inbox).Sublist (stamps (send cfg io mailSent params inbox).2)
      unfold send
      split
      · split
        · exact List.Sublist.refl _
        · exact stamps_createInAppNotification _
      · exact List.Sublist.refl _
  | login io owner provider => exact stamps_createInAppNotification _
  | kycSubmitted now about admins => exact stamps_createMany now about admins
  | getNotifications owner limit offset => exact List.Sublist.refl _
  | getUnreadCount owner => exact List.Sublist.refl _
  | markAsRead io owner id =>
      change (stamps inbox).Sublist (stamps (markAsRead cfg io owner id inbox).2)
      unfold markAsRead
      split
      · split
        · split
          · exact List.Sublist.refl _
          · split
            · rw [stamps_update]
            · exact List.Sublist.refl _
        · exact List.Sublist.refl _
      · exact List.Sublist.refl _

theorem stamps_final (ops : List Op) :
    (stamps inbox).Sublist (stamps (Run.final (step cfg) inbox ops)) := by
  induction ops generalizing inbox with
  | nil => exact List.Sublist.refl _
  | cons op ops ih => exact (stamps_step op).trans ih

end Stamps

/-! ## The reader -/

/-- The inbox at each request of a reader, by what happens before it. -/
def visits (cfg : Config) : Inbox → List (List Op) → List Inbox
  | _, [] => []
  | inbox, ops :: rest =>
      let inbox := Run.final (step cfg) inbox ops
      inbox :: visits cfg inbox rest

/-- The answers to requests for one page after the other. -/
def readPages (cfg : Config) (userId : String) (limit : ℕ) : ℕ → List Inbox → List Answer
  | _, [] => []
  | offset, inbox :: visits =>
      (Op.run cfg inbox (.getNotifications userId (some (toString limit))
        (some (toString offset)))).1 :: readPages cfg userId limit (offset + limit) visits

section Reader

variable {cfg : Config} {userId : String} {inbox : Inbox} {limit : ℕ}

theorem wholeNumber_natCast (n : ℕ) : wholeNumber (.fin n) = some n := by
  simp [wholeNumber, JsNumber.toFinite?, Option.filter, Rat.isInt]

theorem queryNumber_toString (n : ℕ) : queryNumber (some (toString n)) = some (.fin n) := by
  have hne : (toString n).toList ≠ [] := by
    rw [Nat.toString_eq_repr, Nat.toList_repr]
    exact Nat.toDigits_ne_nil
  have hne : toString n ≠ "" := fun h => hne (congrArg String.toList h)
  have hgiven : (some (toString n)).filter (· ≠ "") = some (toString n) :=
    Option.filter_some_pos (decide_eq_true hne)
  rw [queryNumber, hgiven, Option.map_some]
  exact congrArg some (Json.stringToNumber_repr n)

theorem getNotifications_page (hrepo : cfg.notificationRepo = true) (hpos : 1 ≤ limit)
    (hlimit : limit ≤ 100) (offset : ℕ) :
    (Op.run cfg inbox (.getNotifications userId (some (toString limit))
        (some (toString offset)))).1 =
      .page (some (Paging.page limit offset (notificationsOf userId inbox))) := by
  have hresolve : resolveLimit (some (.fin limit)) = some limit := by
    rw [resolveLimit, Option.getD_some, JsNumber.maxFin, JsNumber.minFin,
      max_eq_left (by exact_mod_cast hpos), min_eq_left (by exact_mod_cast hlimit),
      wholeNumber_natCast]
  have hoffset : resolveOffset (some (.fin offset)) = some offset := by
    rw [resolveOffset, Option.getD_some, JsNumber.maxFin, max_eq_left (by positivity),
      wholeNumber_natCast]
  simp only [Op.run, queryNumber_toString, getNotifications, hrepo, if_true, hresolve, hoffset,
    Paging.page]

theorem readPages_eq (userId : String) (hrepo : cfg.notificationRepo = true) (hpos : 1 ≤ limit)
    (hlimit : limit ≤ 100) (offset : ℕ) (visits : List Inbox) :
    readPages cfg userId limit offset visits =
      (Paging.walk limit offset (visits.map (notificationsOf userId))).map
        fun rows => .page (some rows) := by
  induction visits generalizing offset with
  | nil => rfl
  | cons inbox visits ih =>
      rw [readPages, getNotifications_page hrepo hpos hlimit, ih]
      rfl

/-- The ids that a reader finds at each request. -/
def views (userId : String) (visits : List Inbox) : List (List String) :=
  (visits.map (notificationsOf userId)).map (List.map Notification.id)

theorem ids_notificationsOf :
    (notificationsOf userId inbox).map Notification.id =
      (newestFirst userId (stamps inbox)).map Stamp.id := by
  rw [← map_stamp_notificationsOf, List.map_map]
  rfl

theorem ids_sublist {inbox' : Inbox} (h : (stamps inbox).Sublist (stamps inbox')) :
    ((notificationsOf userId inbox).map Notification.id).Sublist
      ((notificationsOf userId inbox').map Notification.id) := by
  have : Std.Total fun r s : Stamp => s.createdAt ≤ r.createdAt := ⟨fun r s => le_total _ _⟩
  have : IsTrans Stamp fun r s => s.createdAt ≤ r.createdAt := ⟨fun _ _ _ hr hs => hs.trans hr⟩
  rw [ids_notificationsOf, ids_notificationsOf]
  exact (Paging.insertionSort_sublist (h.filter _)).map _

theorem nodup_ids : ((notificationsOf userId inbox).map Notification.id).Nodup := by
  have hrows : (inbox.rows.map Notification.id).Nodup := by
    refine List.pairwise_map.mpr (inbox.unique.imp fun {m n} h hid => ?_)
    exact h m.id (List.mem_singleton.mpr rfl) (List.mem_singleton.mpr hid)
  have hperm : (notificationsOf userId inbox).Perm (inboxOf userId inbox) :=
    List.perm_insertionSort _ _
  exact (hperm.map _).nodup_iff.mpr (hrows.sublist (List.filter_sublist.map _))

theorem grows_views (segments : List (List Op)) :
    Paging.Grows (((notificationsOf userId inbox).map Notification.id) ::
      views userId (visits cfg inbox segments)) := by
  induction segments generalizing inbox with
  | nil => exact List.IsChain.singleton _
  | cons ops segments ih =>
      exact List.isChain_cons_cons.mpr ⟨ids_sublist (stamps_final ops), ih⟩

theorem nodup_views (segments : List (List Op)) :
    ∀ ids ∈ views userId (visits cfg inbox segments), ids.Nodup := by
  intro ids hids
  obtain ⟨rows, hrows, rfl⟩ := List.mem_map.mp hids
  obtain ⟨visit, -, rfl⟩ := List.mem_map.mp hrows
  exact nodup_ids

/-- Operations of the others leave the inbox as it is. -/
theorem inboxOf_final_of_others {ops : List Op}
    (hothers : ∀ op ∈ ops, op.concerns userId = false) :
    inboxOf userId (Run.final (step cfg) inbox ops) = inboxOf userId inbox := by
  induction ops generalizing inbox with
  | nil => rfl
  | cons op ops ih =>
      have halike : Alike userId inbox inbox := ⟨rfl, List.Subset.refl _⟩
      have hstep := (halike.hidden cfg (hothers op List.mem_cons_self)).inbox
      rw [Run.final_cons, ih fun op' hop' => hothers op' (List.mem_cons_of_mem _ hop'), ← hstep]

theorem notificationsOf_visits {segments : List (List Op)}
    (hothers : ∀ ops ∈ segments, ∀ op ∈ ops, op.concerns userId = false) :
    ∀ visit ∈ visits cfg inbox segments,
      notificationsOf userId visit = notificationsOf userId inbox := by
  induction segments generalizing inbox with
  | nil => simp [visits]
  | cons ops segments ih =>
      have hfirst : notificationsOf userId (Run.final (step cfg) inbox ops) =
          notificationsOf userId inbox := by
        rw [notificationsOf_eq, inboxOf_final_of_others (hothers ops List.mem_cons_self),
          notificationsOf_eq]
      intro visit hvisit
      rcases List.mem_cons.mp hvisit with rfl | hvisit
      · exact hfirst
      · have hrest :=
          ih (fun ops' hops' => hothers ops' (List.mem_cons_of_mem _ hops')) visit hvisit
        exact hrest.trans hfirst

end Reader

/-- A reader who goes on to a page that is not full has been shown every notification of the start.
Where only others act in between, the pages are the inbox, newest first. -/
theorem pages_complete (cfg : Config) (userId : String) (limit : ℕ) (inbox : Inbox)
    (segments : List (List Op)) (last : List Notification) (hrepo : cfg.notificationRepo = true)
    (hpos : 1 ≤ limit) (hlimit : limit ≤ 100)
    (hlast : (readPages cfg userId limit 0 (visits cfg inbox segments)).getLast? =
      some (.page (some last))) (hshort : last.length < limit) :
    ∃ pages : List (List Notification),
      readPages cfg userId limit 0 (visits cfg inbox segments) =
        pages.map (fun rows => .page (some rows)) ∧
      (∀ n ∈ notificationsOf userId inbox, ∃ rows ∈ pages, ∃ m ∈ rows, m.id = n.id) ∧
      ((∀ ops ∈ segments, ∀ op ∈ ops, op.concerns userId = false) →
        pages.flatten = notificationsOf userId inbox) := by
  have hpages := readPages_eq userId hrepo hpos hlimit 0 (visits cfg inbox segments)
  have hends : Paging.Ends limit 0 ((visits cfg inbox segments).map (notificationsOf userId)) := by
    rw [hpages, List.getLast?_map, Option.map_eq_some_iff] at hlast
    obtain ⟨rows, hrows, hpage⟩ := hlast
    cases hpage
    exact ⟨last, hrows, hshort⟩
  refine ⟨_, hpages, fun n hn => ?_, fun hothers => ?_⟩
  · have hmem := Paging.mem_walk (grows_views segments) (nodup_views segments)
      (hends.map Notification.id) (List.mem_map_of_mem hn)
    rw [views, Paging.walk_map, ← List.map_flatten] at hmem
    obtain ⟨m, hm, hid⟩ := List.mem_map.mp hmem
    obtain ⟨rows, hrows, hm⟩ := List.mem_flatten.mp hm
    exact ⟨rows, hrows, m, hm, hid⟩
  · refine Paging.flatten_walk_of_forall (fun rows hrows => ?_) hends
    obtain ⟨visit, hvisit, rfl⟩ := List.mem_map.mp hrows
    exact notificationsOf_visits hothers visit hvisit

/-- Three pages of one; a notification comes in after the first of them. -/
theorem pages_complete_three :
    let cfg : Config := { toLocaleString := fun _ => "" }
    let first := Op.login ⟨1, "a", true, true⟩ "ravi" none
    let second := Op.login ⟨2, "b", true, true⟩ "ravi" none
    let inbox := step cfg .empty first
    ∃ pages : List (List Notification),
      readPages cfg "ravi" 1 0 (visits cfg inbox [[], [second], []]) =
        pages.map (fun rows => .page (some rows)) ∧
      (∀ n ∈ notificationsOf "ravi" inbox, ∃ rows ∈ pages, ∃ m ∈ rows, m.id = n.id) ∧
      ((∀ ops ∈ [[], [second], []], ∀ op ∈ ops, op.concerns "ravi" = false) →
        pages.flatten = notificationsOf "ravi" inbox) :=
  pages_complete _ "ravi" 1 _ _ [] rfl (by decide) (by decide)
    (by rw [readPages_eq "ravi" rfl (by decide) (by decide)]; rfl) (by decide)

end Aegis.NotificationService
