import Aegis.Library.Sightings
import Aegis.Verification.Fraud.Scoreable

/-! # Users and their devices

A use of a device is entered with the user and with the device. The device list of a user keeps
the first use of each, so that the switches of the last days miss what was used before. The risk
of a user is that of the events, and no event of another user raises it. -/

namespace Aegis.FraudFeatureService

open HalfEven Run Sightings

structure DeviceUse where
  user_id : String
  device_id : String
  timestamp : ℤ
  deriving DecidableEq, Repr

def useDevice (s : Store) (use : DeviceUse) : Store :=
  s.recordDevice use.user_id use.device_id use.timestamp

/-- The store after the uses. -/
def used (uses : List DeviceUse) : Store := final useDevice {} uses

def devicesOf (s : Store) (user_id : String) : List DeviceEvent :=
  (s.users user_id).elim [] UserRecord.devices

def usersOf (s : Store) (device_id : String) : List String :=
  (s.devices device_id).elim [] DeviceRecord.users

def isHighShare (s : Store) (device_id : String) : Bool :=
  (s.devices device_id).elim false DeviceRecord.high_share

/-! ## The uses of one user and of one device -/

def usesOf (user_id : String) (uses : List DeviceUse) : List DeviceEvent :=
  (uses.filter fun use => use.user_id = user_id).map fun use => ⟨use.device_id, use.timestamp⟩

def sharers (device_id : String) (uses : List DeviceUse) : List String :=
  (uses.filter fun use => use.device_id = device_id).map DeviceUse.user_id

section Steps

variable {s : Store} {use : DeviceUse}

theorem devicesOf_useDevice (s : Store) (use : DeviceUse) (user_id : String) :
    devicesOf (useDevice s use) user_id = if use.user_id = user_id then
      insertOnce DeviceEvent.device_id (devicesOf s user_id) ⟨use.device_id, use.timestamp⟩
    else devicesOf s user_id := by
  by_cases huser : use.user_id = user_id
  · subst huser
    rw [if_pos rfl, devicesOf, devicesOf, useDevice, Store.recordDevice, Store.setUser,
      Store.userOr]
    simp only [Function.update_self, Option.elim_some]
    cases s.users use.user_id with
    | none => rfl
    | some record => rfl
  · rw [if_neg huser, devicesOf, devicesOf, useDevice, Store.recordDevice, Store.setUser]
    simp only [Function.update_of_ne (Ne.symm huser)]

theorem usersOf_useDevice (s : Store) (use : DeviceUse) (device_id : String) :
    usersOf (useDevice s use) device_id =
      if use.device_id = device_id then insertOnce id (usersOf s device_id) use.user_id
      else usersOf s device_id := by
  by_cases hdevice : use.device_id = device_id
  · subst hdevice
    have hlist : ((s.devices use.device_id).getD {}).users = usersOf s use.device_id := by
      rw [usersOf]
      cases s.devices use.device_id with
      | none => rfl
      | some record => rfl
    rw [if_pos rfl, usersOf, useDevice, Store.recordDevice, insertOnce]
    simp only [Function.update_self, Option.elim_some, id, Store.setUser, hlist]
    simp
  · rw [if_neg hdevice, usersOf, usersOf, useDevice, Store.recordDevice]
    simp only [Function.update_of_ne (Ne.symm hdevice), Store.setUser]

/-- The flag of a device is that of its list. -/
theorem isHighShare_useDevice (h : ∀ device_id, isHighShare s device_id =
    decide (3 < (usersOf s device_id).length)) (device_id : String) :
    isHighShare (useDevice s use) device_id =
      decide (3 < (usersOf (useDevice s use) device_id).length) := by
  by_cases hdevice : use.device_id = device_id
  · subst hdevice
    rw [isHighShare, usersOf, useDevice, Store.recordDevice]
    simp only [Function.update_self, Option.elim_some]
  · have hsame := h device_id
    rw [isHighShare, usersOf] at *
    rw [useDevice, Store.recordDevice]
    simp only [Function.update_of_ne (Ne.symm hdevice), Store.setUser]
    exact hsame

end Steps

/-! ## Runs -/

section Runs

variable (uses : List DeviceUse)

theorem devicesOf_used (user_id : String) : devicesOf (used uses) user_id =
    (usesOf user_id uses).foldl (insertOnce DeviceEvent.device_id) [] := by
  have hstep (s : Store) (use : DeviceUse) := devicesOf_useDevice s use user_id
  exact final_map_filter (fun s => devicesOf s user_id) hstep {} uses

theorem usersOf_used (device_id : String) : usersOf (used uses) device_id =
    (sharers device_id uses).foldl (insertOnce id) [] := by
  have hstep (s : Store) (use : DeviceUse) := usersOf_useDevice s use device_id
  exact final_map_filter (fun s => usersOf s device_id) hstep {} uses

theorem isHighShare_used (device_id : String) : isHighShare (used uses) device_id =
    decide (3 < (usersOf (used uses) device_id).length) := by
  induction uses using List.reverseRecOn generalizing device_id with
  | nil => rfl
  | append_singleton uses use ih =>
      rw [used, final_append, ← used]
      exact isHighShare_useDevice ih device_id

end Runs

/-! ## The law -/

/-- The devices that the user used in the window that ends at `now`. -/
def devicesInWindow (uses : List DeviceUse) (user_id : String) (now_ts : ℤ) : ℕ :=
  distinct DeviceEvent.device_id ((usesOf user_id uses).filter fun d =>
    now_ts - DEVICE_SWITCH_WINDOW_DAYS * 86400 ≤ d.timestamp ∧ d.timestamp ≤ now_ts)

/-- The two lists are one relation, kept once on either side; sharing and switching are those of
the uses. -/
structure DeviceLaw (uses : List DeviceUse) (now_ts : ℤ) : Prop where
  reciprocal : ∀ user_id device_id, user_id ∈ usersOf (used uses) device_id ↔
    device_id ∈ (devicesOf (used uses) user_id).map DeviceEvent.device_id
  nodup_users : ∀ device_id, (usersOf (used uses) device_id).Nodup
  nodup_devices : ∀ user_id, ((devicesOf (used uses) user_id).map DeviceEvent.device_id).Nodup
  high_share : ∀ device_id, isHighShare (used uses) device_id = true ↔
    3 < distinct id (sharers device_id uses)
  switches : ∀ user_id, computeDeviceSwitchFrequency ((used uses).users user_id) now_ts =
    devicesInWindow uses user_id now_ts

/-- No device that a user used in the window was used by them before it. -/
def NoOldDevice (uses : List DeviceUse) (now_ts : ℤ) : Prop :=
  ∀ use ∈ uses, now_ts - DEVICE_SWITCH_WINDOW_DAYS * 86400 ≤ use.timestamp →
    ∀ earlier ∈ uses, earlier.user_id = use.user_id → earlier.device_id = use.device_id →
      now_ts - DEVICE_SWITCH_WINDOW_DAYS * 86400 ≤ earlier.timestamp

section Law

variable {uses : List DeviceUse} {now_ts : ℤ}

theorem firsts_devicesOf
    (h : uses.Pairwise fun earlier later => earlier.timestamp ≤ later.timestamp)
    (user_id : String) : Firsts DeviceEvent.device_id DeviceEvent.timestamp
      (usesOf user_id uses) (devicesOf (used uses) user_id) := by
  rw [devicesOf_used]
  apply firsts_foldl
  rw [usesOf, List.pairwise_map]
  exact h.filter _

/-- The list of a device has no times; any will do. -/
theorem firsts_usersOf (device_id : String) : Firsts id (fun _ => 0) (sharers device_id uses)
    (usersOf (used uses) device_id) := by
  rw [usersOf_used]
  apply firsts_foldl
  exact List.pairwise_of_forall fun _ _ => le_rfl

theorem mem_usersOf_iff {user_id device_id : String} : user_id ∈ usersOf (used uses) device_id ↔
    ∃ use ∈ uses, use.user_id = user_id ∧ use.device_id = device_id := by
  have h : Firsts id _ (sharers device_id uses) _ := firsts_usersOf device_id
  constructor
  · intro hmem
    obtain ⟨use, huse, rfl⟩ := List.mem_map.mp (h.first user_id hmem).1
    obtain ⟨huse, hdevice⟩ := List.mem_filter.mp huse
    exact ⟨use, huse, rfl, of_decide_eq_true hdevice⟩
  · rintro ⟨use, huse, rfl, rfl⟩
    have hmem : use.user_id ∈ sharers use.device_id uses :=
      List.mem_map_of_mem (List.mem_filter.mpr ⟨huse, decide_eq_true rfl⟩)
    obtain ⟨u, hu, rfl⟩ := h.complete use.user_id hmem
    exact hu

theorem mem_devicesOf_iff
    (h : uses.Pairwise fun earlier later => earlier.timestamp ≤ later.timestamp)
    {user_id device_id : String} :
    device_id ∈ (devicesOf (used uses) user_id).map DeviceEvent.device_id ↔
      ∃ use ∈ uses, use.user_id = user_id ∧ use.device_id = device_id := by
  have hfirsts := firsts_devicesOf h user_id
  constructor
  · intro hmem
    obtain ⟨d, hd, rfl⟩ := List.mem_map.mp hmem
    obtain ⟨use, huse, rfl⟩ := List.mem_map.mp (hfirsts.first d hd).1
    obtain ⟨huse, huser⟩ := List.mem_filter.mp huse
    exact ⟨use, huse, of_decide_eq_true huser, rfl⟩
  · rintro ⟨use, huse, rfl, rfl⟩
    have hmem : (⟨use.device_id, use.timestamp⟩ : DeviceEvent) ∈ usesOf use.user_id uses :=
      List.mem_map.mpr ⟨use, List.mem_filter.mpr ⟨huse, decide_eq_true rfl⟩, rfl⟩
    obtain ⟨u, hu, hkey⟩ := hfirsts.complete _ hmem
    exact List.mem_map.mpr ⟨u, hu, hkey⟩

theorem high_share_iff (device_id : String) : isHighShare (used uses) device_id = true ↔
    3 < distinct id (sharers device_id uses) := by
  rw [isHighShare_used, decide_eq_true_iff, usersOf_used, length_foldl_insertOnce]

theorem switches_iff (h : uses.Pairwise fun earlier later => earlier.timestamp ≤ later.timestamp)
    (hnow : ∀ use ∈ uses, use.timestamp ≤ now_ts) (user_id : String) :
    computeDeviceSwitchFrequency ((used uses).users user_id) now_ts =
        devicesInWindow uses user_id now_ts ↔
      ∀ e ∈ usesOf user_id uses, now_ts - DEVICE_SWITCH_WINDOW_DAYS * 86400 ≤ e.timestamp →
        ∀ e' ∈ usesOf user_id uses, e'.device_id = e.device_id →
          now_ts - DEVICE_SWITCH_WINDOW_DAYS * 86400 ≤ e'.timestamp := by
  have hcode : computeDeviceSwitchFrequency ((used uses).users user_id) now_ts =
      (distinct DeviceEvent.device_id ((devicesOf (used uses) user_id).filter fun d =>
        now_ts - DEVICE_SWITCH_WINDOW_DAYS * 86400 ≤ d.timestamp) : ℚ) := by
    rw [computeDeviceSwitchFrequency, devicesOf]
    cases (used uses).users user_id with
    | none => rfl
    | some record => rfl
  have hwindow : devicesInWindow uses user_id now_ts = distinct DeviceEvent.device_id
      ((usesOf user_id uses).filter fun d =>
        now_ts - DEVICE_SWITCH_WINDOW_DAYS * 86400 ≤ d.timestamp) := by
    rw [devicesInWindow]
    congr 1
    apply List.filter_congr
    intro d hd
    obtain ⟨use, huse, rfl⟩ := List.mem_map.mp hd
    simp [hnow use (List.mem_of_mem_filter huse)]
  rw [hcode, hwindow, Nat.cast_inj]
  exact (firsts_devicesOf h user_id).distinct_filter_eq_iff fun _ _ hle hin => hin.trans hle

/-- The relation is always right; the switches are where no device is an old one. -/
theorem device_law_iff (uses : List DeviceUse) (now_ts : ℤ)
    (h : uses.Pairwise fun earlier later => earlier.timestamp ≤ later.timestamp)
    (hnow : ∀ use ∈ uses, use.timestamp ≤ now_ts) :
    DeviceLaw uses now_ts ↔ NoOldDevice uses now_ts := by
  have hold : NoOldDevice uses now_ts ↔
      ∀ user_id, computeDeviceSwitchFrequency ((used uses).users user_id) now_ts =
        devicesInWindow uses user_id now_ts := by
    simp only [switches_iff h hnow, usesOf, List.forall_mem_map, List.mem_filter,
      decide_eq_true_eq, and_imp]
    constructor
    · intro hold user_id use huse huser hin earlier hearlier huser' hdevice
      exact hold use huse hin earlier hearlier (huser'.trans huser.symm) hdevice
    · intro hall use huse hin earlier hearlier huser hdevice
      exact hall use.user_id use huse rfl hin earlier hearlier huser hdevice
  rw [hold]
  constructor
  · exact DeviceLaw.switches
  · intro hswitches
    constructor
    case reciprocal =>
      intro user_id device_id
      rw [mem_usersOf_iff, mem_devicesOf_iff h]
    case nodup_users =>
      intro device_id
      simpa using (firsts_usersOf device_id).nodup
    case nodup_devices =>
      intro user_id
      exact (firsts_devicesOf h user_id).nodup
    case high_share => exact high_share_iff
    case switches => exact hswitches

/-- Two devices on one day. -/
theorem device_law_switch : DeviceLaw [⟨"u", "d", 0⟩, ⟨"u", "e", 3600⟩] 7200 :=
  (device_law_iff [⟨"u", "d", 0⟩, ⟨"u", "e", 3600⟩] 7200 (by decide) (by decide)).mpr
    (by unfold NoOldDevice; decide)

/-- A device of last month that is used today is not counted. -/
theorem old_device_missed :
    computeDeviceSwitchFrequency
        ((used [⟨"u", "d", 0⟩, ⟨"u", "d", 30 * 86400⟩]).users "u") (30 * 86400) <
      devicesInWindow [⟨"u", "d", 0⟩, ⟨"u", "d", 30 * 86400⟩] "u" (30 * 86400) := by
  decide

end Law

/-! ## The risk of a user -/

/-- The store after the events. -/
def observed (geo : Geometry) (history : List FraudFeatureRequest) : Store :=
  final (serve geo) {} history

def deviceUse (req : FraudFeatureRequest) : DeviceUse :=
  ⟨req.user_id, req.device_id, req.timestamp⟩

section Reports

variable (user_id : String) (history : List FraudFeatureRequest)

def eventsOf : List FraudFeatureRequest := history.filter fun req => req.user_id = user_id

def claimsOf : List FraudFeatureRequest :=
  history.filter fun req => req.user_id = user_id ∧ 0 < req.claim_amount

/-- The first use of each device. -/
def arrivals : List DeviceEvent :=
  (usesOf user_id (history.map deviceUse)).foldl (insertOnce DeviceEvent.device_id) []

/-- What the events say of the user. -/
structure RiskOf (now_ts : ℤ) (data : RiskScoreData) : Prop where
  account_age_days : ∀ first ∈ (eventsOf user_id history).head?,
    data.account_age_days = max 0 ((now_ts - first.timestamp).tdiv 86400)
  claims_last_30d : data.claims_last_30d =
    ((claimsOf user_id history).filter fun req => now_ts - 30 * 86400 ≤ req.timestamp).length
  distinct_devices_7d : data.distinct_devices_7d =
    ((arrivals user_id history).filter fun d => now_ts - 7 * 86400 ≤ d.timestamp).length
  device_high_share : data.device_high_share = true ↔
    ∃ d ∈ (arrivals user_id history).getLast?, d.device_id ≠ "" ∧
      3 < distinct id (sharers d.device_id (history.map deviceUse))
  risk_score : data.risk_score = riskScore data.account_age_days data.claims_last_30d
    data.distinct_devices_7d data.device_high_share
  risk_label : data.risk_label = riskLabel data.risk_score

/-- Nobody is the user, or on a device of the user. -/
def Strangers (later : List FraudFeatureRequest) : Prop :=
  ∀ req ∈ later, req.user_id ≠ user_id ∧
    ∀ event ∈ eventsOf user_id history, req.device_id ≠ event.device_id

/-- Only the events tell, a user without one is unknown, and the risk wears off while nobody but
strangers to the devices of the user is seen. -/
structure RiskLaw (geo : Geometry) : Prop where
  unknown : eventsOf user_id history = [] → ∀ now_ts, ∃ error,
    getRiskScore (observed geo history) user_id now_ts = .error error ∧ error.status = 404
  known : eventsOf user_id history ≠ [] → ∀ now_ts, ∃ data,
    getRiskScore (observed geo history) user_id now_ts = .ok data ∧
      RiskOf user_id history now_ts data
  fades : ∀ later, Strangers user_id history later →
    ∀ now_ts later_ts data data', now_ts ≤ later_ts →
      getRiskScore (observed geo history) user_id now_ts = .ok data →
      getRiskScore (observed geo (history ++ later)) user_id later_ts = .ok data' →
        data'.risk_score ≤ data.risk_score

end Reports

/-- An older account, fewer claims and fewer new devices. -/
theorem riskScore_mono {age age' : ℤ} {claims claims' devices devices' : ℕ} {share : Bool}
    (hage : age ≤ age') (hclaims : claims' ≤ claims) (hdevices : devices' ≤ devices) :
    riskScore age' claims' devices' share ≤ riskScore age claims devices share := by
  have hnew : (if age' < 7 then 1 / 4 else 0 : ℚ) ≤ if age < 7 then 1 / 4 else 0 := by
    split_ifs <;> first | omega | norm_num
  have hclaimed (x y : ℚ) (hxy : x ≤ y) :
      (if 5 < claims' then x + 3 / 10 else if 2 < claims' then x + 3 / 20 else x) ≤
        if 5 < claims then y + 3 / 10 else if 2 < claims then y + 3 / 20 else y := by
    split_ifs <;> first | omega | linarith
  have hswitched (x y : ℚ) (hxy : x ≤ y) :
      (if 2 < devices' then x + 1 / 4 else x) ≤ if 2 < devices then y + 1 / 4 else y := by
    split_ifs <;> first | omega | linarith
  have hshared (x y : ℚ) (hxy : x ≤ y) :
      (if share then x + 1 / 5 else x) ≤ if share then y + 1 / 5 else y := by
    split_ifs <;> linarith
  exact roundTo_mono 4 (min_le_min_right 1 (hshared _ _ (hswitched _ _ (hclaimed _ _ hnew))))

/-! ### The records -/

theorem usesOf_deviceUse (user_id : String) (history : List FraudFeatureRequest) :
    usesOf user_id (history.map deviceUse) =
      (eventsOf user_id history).map fun req => ⟨req.device_id, req.timestamp⟩ := by
  rw [usesOf, List.filter_map, List.map_map]
  rfl

/-- The times do not matter; any will do. -/
theorem firsts_arrivals (user_id : String) (history : List FraudFeatureRequest) :
    Firsts DeviceEvent.device_id (fun _ => 0) (usesOf user_id (history.map deviceUse))
      (arrivals user_id history) :=
  firsts_foldl _ (List.pairwise_of_forall fun _ _ => le_rfl)

section Observed

variable (geo : Geometry) (user_id : String) (history : List FraudFeatureRequest)

theorem users_serve (s : Store) (req : FraudFeatureRequest) : (serve geo s req).users user_id =
    if req.user_id = user_id then some (visited s req) else s.users user_id := by
  rw [show serve geo s req = s.recordEvent geo req from rfl, recordEvent_users,
    Function.update_apply]
  simp only [eq_comm]

theorem devices_serve (s : Store) (req : FraudFeatureRequest) :
    (serve geo s req).devices = (useDevice s (deviceUse req)).devices := by
  rw [show serve geo s req = s.recordEvent geo req from rfl, Store.recordEvent]
  split
  · rfl
  · rfl

/-- A user is entered at the first event. -/
def enter (created_at : Option ℤ) (ts : ℤ) : Option ℤ := some (created_at.getD ts)

theorem created_at_observed :
    ((observed geo history).users user_id).map UserRecord.created_at =
      (eventsOf user_id history).head?.map FraudFeatureRequest.timestamp := by
  have hstep (s : Store) (req : FraudFeatureRequest) :
      ((serve geo s req).users user_id).map UserRecord.created_at =
        if req.user_id = user_id then
          enter ((s.users user_id).map UserRecord.created_at) req.timestamp
        else (s.users user_id).map UserRecord.created_at := by
    rw [users_serve]
    split
    · rename_i huser
      subst huser
      rw [Option.map_some, visited, found, Store.userOr]
      cases s.users req.user_id with
      | none => rfl
      | some record => rfl
    · rfl
  have hfirst (times : List ℤ) (created : ℤ) :
      times.foldl enter (some created) = some created := by
    induction times with
    | nil => rfl
    | cons ts times ih => exact ih
  have hrun : ((observed geo history).users user_id).map UserRecord.created_at =
      ((eventsOf user_id history).map FraudFeatureRequest.timestamp).foldl enter none :=
    final_map_filter (fun s : Store => (s.users user_id).map UserRecord.created_at) hstep {} history
  rw [hrun]
  cases eventsOf user_id history with
  | nil => rfl
  | cons req events => exact hfirst (events.map FraudFeatureRequest.timestamp) req.timestamp

theorem claims_observed :
    ((observed geo history).users user_id).elim [] UserRecord.claims =
      (claimsOf user_id history).map fun req => ⟨req.claim_amount, req.timestamp⟩ := by
  have hstep (s : Store) (req : FraudFeatureRequest) :
      ((serve geo s req).users user_id).elim [] UserRecord.claims =
        if req.user_id = user_id ∧ 0 < req.claim_amount then
          (s.users user_id).elim [] UserRecord.claims ++ [⟨req.claim_amount, req.timestamp⟩]
        else (s.users user_id).elim [] UserRecord.claims := by
    rw [users_serve]
    by_cases huser : req.user_id = user_id
    · subst huser
      rw [if_pos rfl, Option.elim_some, visited, found, Store.userOr]
      simp only [true_and]
      cases s.users req.user_id with
      | none => rfl
      | some record => rfl
    · rw [if_neg huser, if_neg fun h => huser h.1]
  have hrun : ((observed geo history).users user_id).elim [] UserRecord.claims =
      ((claimsOf user_id history).map fun req => [⟨req.claim_amount, req.timestamp⟩]).foldl
        (· ++ ·) [] :=
    final_map_filter (fun s : Store => (s.users user_id).elim [] UserRecord.claims) hstep {} history
  rw [hrun, List.foldl_map, List.foldl_append_eq_append, List.nil_append, ← List.flatMap_def,
    ← List.map_eq_flatMap]

theorem devicesOf_observed :
    devicesOf (observed geo history) user_id = arrivals user_id history := by
  have hstep (s : Store) (req : FraudFeatureRequest) :
      devicesOf (serve geo s req) user_id = if req.user_id = user_id then
        insertOnce DeviceEvent.device_id (devicesOf s user_id) ⟨req.device_id, req.timestamp⟩
      else devicesOf s user_id := by
    rw [devicesOf, users_serve]
    split
    · rename_i huser
      subst huser
      rw [Option.elim_some, visited, deviceKnown, found, Store.userOr, devicesOf]
      cases s.users req.user_id with
      | none => rfl
      | some record => rfl
    · rfl
  rw [arrivals, usesOf_deviceUse]
  exact final_map_filter (fun s => devicesOf s user_id) hstep {} history

theorem devices_useDevice_congr {s s' : Store} (h : s.devices = s'.devices) (use : DeviceUse) :
    (useDevice s use).devices = (useDevice s' use).devices := by
  cases s
  cases s'
  cases h
  rfl

theorem devices_observed :
    (observed geo history).devices = (used (history.map deviceUse)).devices := by
  induction history using List.reverseRecOn with
  | nil => rfl
  | append_singleton history req ih =>
      rw [observed, final_snoc, ← observed, List.map_append, List.map_singleton, used, final_snoc,
        ← used]
      rw [devices_serve]
      exact devices_useDevice_congr ih (deviceUse req)

/-- The shared device is the one on which the user showed up last. -/
theorem deviceHighShare_iff {record : UserRecord}
    (hrecord : record.devices = arrivals user_id history) :
    (observed geo history).deviceHighShare record = true ↔
      ∃ d ∈ (arrivals user_id history).getLast?, d.device_id ≠ "" ∧
        3 < distinct id (sharers d.device_id (history.map deviceUse)) := by
  have hshare (device_id : String) :
      ((observed geo history).devices device_id).elim false DeviceRecord.high_share = true ↔
        3 < distinct id (sharers device_id (history.map deviceUse)) := by
    rw [devices_observed]
    exact high_share_iff device_id
  rw [Store.deviceHighShare, latestDeviceId, hrecord]
  cases (arrivals user_id history).getLast? with
  | none => simp
  | some d =>
      by_cases hname : d.device_id = ""
      · simp [hname]
      · simp [hname, hshare]

theorem users_observed_eq_none_iff :
    (observed geo history).users user_id = none ↔ eventsOf user_id history = [] := by
  rw [← Option.map_eq_none_iff, created_at_observed, Option.map_eq_none_iff,
    List.head?_eq_none_iff]

theorem riskOf_computeRisk {record : UserRecord}
    (hrecord : (observed geo history).users user_id = some record) (now_ts : ℤ) :
    RiskOf user_id history now_ts
      (computeRisk (observed geo history) user_id record now_ts) := by
  have hcreated := created_at_observed geo user_id history
  have hclaims := claims_observed geo user_id history
  have hdevices : record.devices = arrivals user_id history := by
    rw [← devicesOf_observed geo, devicesOf, hrecord, Option.elim_some]
  rw [hrecord] at hcreated hclaims
  constructor
  case account_age_days =>
    intro first hfirst
    rw [hfirst] at hcreated
    rw [computeRisk, Option.some_inj.mp hcreated]
  case claims_last_30d =>
    rw [computeRisk]
    simp only [Option.elim_some] at hclaims
    rw [hclaims, List.filter_map, List.length_map]
    rfl
  case distinct_devices_7d =>
    have hnodup := (firsts_arrivals user_id history).nodup
    rw [computeRisk, hdevices]
    exact distinct_eq_length (hnodup.sublist (List.filter_sublist.map DeviceEvent.device_id))
  case device_high_share => exact deviceHighShare_iff geo user_id history hdevices
  case risk_score => rfl
  case risk_label => rfl

end Observed

section Law

variable {user_id : String} {history later : List FraudFeatureRequest}

theorem Strangers.eventsOf (h : Strangers user_id history later) :
    eventsOf user_id (history ++ later) = eventsOf user_id history := by
  have hlater : later.filter (fun req => req.user_id = user_id) = [] := by
    rw [List.filter_eq_nil_iff]
    intro req hreq
    simpa using (h req hreq).1
  rw [FraudFeatureService.eventsOf, List.filter_append, hlater, List.append_nil,
    ← FraudFeatureService.eventsOf]

theorem claimsOf_eq (user_id : String) (history : List FraudFeatureRequest) :
    claimsOf user_id history =
      (eventsOf user_id history).filter fun req => 0 < req.claim_amount := by
  rw [claimsOf, eventsOf, List.filter_filter]
  apply List.filter_congr
  intro req _
  simp [Bool.and_comm]

theorem Strangers.sharers (h : Strangers user_id history later) {d : DeviceEvent}
    (hd : d ∈ arrivals user_id history) :
    sharers d.device_id ((history ++ later).map deviceUse) =
      sharers d.device_id (history.map deviceUse) := by
  obtain ⟨event, hevent, rfl⟩ : ∃ event ∈ FraudFeatureService.eventsOf user_id history,
      ⟨event.device_id, event.timestamp⟩ = d := by
    simpa [usesOf_deviceUse] using ((firsts_arrivals user_id history).first d hd).1
  have hlater : (later.map deviceUse).filter (fun use => use.device_id = event.device_id) = [] := by
    rw [List.filter_eq_nil_iff, List.forall_mem_map]
    intro req hreq
    simp [deviceUse, (h req hreq).2 event hevent]
  rw [FraudFeatureService.sharers, List.map_append, List.filter_append, hlater, List.append_nil,
    ← FraudFeatureService.sharers]

/-- Strangers change nothing of what is known, and every window moves on. -/
theorem RiskOf.fades (h : Strangers user_id history later) {now_ts later_ts : ℤ}
    (hnow : now_ts ≤ later_ts) (hevents : eventsOf user_id history ≠ [])
    {data data' : RiskScoreData}
    (hdata : RiskOf user_id history now_ts data)
    (hdata' : RiskOf user_id (history ++ later) later_ts data') :
    data'.risk_score ≤ data.risk_score := by
  have harrivals : arrivals user_id (history ++ later) = arrivals user_id history := by
    rw [arrivals, arrivals, usesOf_deviceUse, usesOf_deviceUse, h.eventsOf]
  obtain ⟨first, hfirst⟩ := Option.ne_none_iff_exists'.mp (mt List.head?_eq_none_iff.mp hevents)
  have hage : data.account_age_days ≤ data'.account_age_days := by
    rw [hdata.account_age_days first hfirst,
      hdata'.account_age_days first (by rw [h.eventsOf]; exact hfirst)]
    exact max_le_max_left 0 (Int.tdiv_le_tdiv (by norm_num) (by omega))
  have hclaims : data'.claims_last_30d ≤ data.claims_last_30d := by
    rw [hdata.claims_last_30d, hdata'.claims_last_30d, claimsOf_eq, claimsOf_eq, h.eventsOf]
    apply List.Sublist.length_le
    apply List.monotone_filter_right
    intro req hreq
    simp only [decide_eq_true_eq] at hreq ⊢
    omega
  have hdevices : data'.distinct_devices_7d ≤ data.distinct_devices_7d := by
    rw [hdata.distinct_devices_7d, hdata'.distinct_devices_7d, harrivals]
    apply List.Sublist.length_le
    apply List.monotone_filter_right
    intro d hd
    simp only [decide_eq_true_eq] at hd ⊢
    omega
  have hshare : data'.device_high_share = data.device_high_share := by
    rw [Bool.eq_iff_iff, hdata.device_high_share, hdata'.device_high_share, harrivals]
    refine exists_congr fun d => and_congr_right fun hd => and_congr_right fun _ => ?_
    rw [h.sharers (List.mem_of_getLast? hd)]
  rw [hdata.risk_score, hdata'.risk_score, hshare]
  exact riskScore_mono hage hclaims hdevices

theorem getRiskScore_known (geo : Geometry) (hname : ¬ user_id.toList.all isWhitespace)
    (hevents : eventsOf user_id history ≠ []) (now_ts : ℤ) : ∃ data,
      getRiskScore (observed geo history) user_id now_ts = .ok data ∧
        RiskOf user_id history now_ts data := by
  have hknown := mt (users_observed_eq_none_iff geo user_id history).mp hevents
  obtain ⟨record, hrecord⟩ := Option.ne_none_iff_exists'.mp hknown
  refine ⟨computeRisk (observed geo history) user_id record now_ts, ?_,
    riskOf_computeRisk geo user_id history hrecord now_ts⟩
  rw [getRiskScore, if_neg hname, hrecord]

theorem risk_law (geo : Geometry) (history : List FraudFeatureRequest) (user_id : String)
    (hname : ¬ user_id.toList.all isWhitespace) : RiskLaw user_id history geo := by
  constructor
  case unknown =>
    intro hevents now_ts
    have hunknown := (users_observed_eq_none_iff geo user_id history).mpr hevents
    exact ⟨_, by rw [getRiskScore, if_neg hname, hunknown], rfl⟩
  case known => exact fun hevents now_ts => getRiskScore_known geo hname hevents now_ts
  case fades =>
    intro later hlater now_ts later_ts data data' hnow hdata hdata'
    by_cases hevents : eventsOf user_id history = []
    · have hunknown := (users_observed_eq_none_iff geo user_id history).mpr hevents
      rw [getRiskScore, if_neg hname, hunknown] at hdata
      cases hdata
    · obtain ⟨found, hfound, hrisk⟩ := getRiskScore_known geo hname hevents now_ts
      have hevents' : eventsOf user_id (history ++ later) ≠ [] := by
        rwa [Strangers.eventsOf hlater]
      obtain ⟨found', hfound', hrisk'⟩ := getRiskScore_known geo hname hevents' later_ts
      obtain rfl : found = data := Except.ok.inj (hfound.symm.trans hdata)
      obtain rfl : found' = data' := Except.ok.inj (hfound'.symm.trans hdata')
      exact RiskOf.fades hlater hnow hevents hrisk hrisk'

/-- One rider and one claim. -/
theorem risk_law_claim : RiskLaw "u1" [Busy.claim] Busy.geo :=
  risk_law Busy.geo [Busy.claim] "u1" (by decide)

end Law

end Aegis.FraudFeatureService
