import Aegis.Library.Run
import Aegis.Model.ZoneDrivers

/-! # One zone for each driver

A set lives as long as anybody pings from the cell, a pointer only as long as its own driver
does. -/

namespace Aegis.RedisState.ZoneRoster

open Run

/-! ## The law -/

/-- A driver is in at most one set, and in the one that the pointer names. -/
structure Unique (s : ZoneRoster) : Prop where
  one : ∀ d c c', d ∈ s.getZoneDrivers true c → d ∈ s.getZoneDrivers true c' → c = c'
  pointed : ∀ d, ∀ c ∈ s.previousZone d, ∀ c', d ∈ s.getZoneDrivers true c' ↔ c' = c

/-- The pointer leads to the zone to leave, or there is no zone to leave. -/
def Traced (s : ZoneRoster) : RosterEvent → Prop
  | .elapse _ => True
  | .ping h3Cell driverId =>
      (∃ c ∈ s.previousZone driverId, c ≠ "") ∨
        ∀ c, driverId ∈ s.getZoneDrivers true c → c = h3Cell

/-- A live pointer leads to a set that outlives it and has the driver in it. -/
def Backed (s : ZoneRoster) : Prop :=
  ∀ d, ∀ pointer ∈ s.zone d, pointer.expiresAt ≤ s.now + ZONE_DRIVER_TTL * 1000 ∧
    (s.now < pointer.expiresAt →
      ∃ set ∈ s.drivers pointer.value, pointer.expiresAt ≤ set.expiresAt ∧ d ∈ set.value)

/-! ## A ping -/

section Ping

variable {s : ZoneRoster} {cell driver : String}

theorem mem_getZoneDrivers {c d : String} : d ∈ s.getZoneDrivers true c ↔
    ∃ set ∈ s.drivers c, s.now < set.expiresAt ∧ d ∈ set.value := by
  unfold getZoneDrivers sMembers get
  rw [if_pos rfl]
  cases hset : s.drivers c with
  | none => simp
  | some set =>
      by_cases hlive : s.now < set.expiresAt
      · simp [hlive]
      · simp [hlive]

theorem mem_sRem {sets : String → Option (Entry (List String))} {now : ℤ}
    {key key' member d : String} :
    d ∈ sMembers (sRem sets key member) now key' ↔
      d ∈ sMembers sets now key' ∧ ¬(d = member ∧ key' = key) := by
  unfold sMembers get sRem
  by_cases hkey : key' = key
  · subst hkey
    rw [Function.update_self]
    cases sets key' with
    | none => simp
    | some set =>
        by_cases hlive : now < set.expiresAt
        · simp [hlive]
        · simp [hlive]
  · simp [hkey]

theorem mem_sAdd {sets : String → Option (Entry (List String))} {now ttl : ℤ}
    {key key' member d : String} (httl : 0 < ttl) :
    d ∈ sMembers (sAdd sets now ttl key member) now key' ↔
      d ∈ sMembers sets now key' ∨ (d = member ∧ key' = key) := by
  unfold sAdd
  by_cases hkey : key' = key
  · subst hkey
    rw [sMembers, get_setEx_self _ _ _ (by omega), Option.getD_some]
    split
    · rename_i hmem
      constructor
      · exact .inl
      · rintro (h | ⟨rfl, -⟩)
        · exact h
        · exact hmem
    · simp
  · rw [sMembers, get_setEx_of_ne _ _ _ _ _ hkey]
    simp [sMembers, hkey]

/-- Who is where after a ping. -/
theorem mem_ping {c d : String} :
    d ∈ (s.step (.ping cell driver)).getZoneDrivers true c ↔
      d ∈ s.getZoneDrivers true c ∧ ¬(d = driver ∧ s.leftZone cell driver = some c) ∨
        d = driver ∧ c = cell := by
  change d ∈ sMembers (sAdd ((s.leftZone cell driver).elim s.drivers fun zone =>
    sRem s.drivers zone driver) s.now ZONE_DRIVER_TTL cell driver) s.now c ↔ _
  rw [mem_sAdd (by decide)]
  refine or_congr_left ?_
  cases s.leftZone cell driver with
  | none => simp [getZoneDrivers]
  | some zone =>
      rw [Option.elim_some, mem_sRem, Option.some.injEq, eq_comm (a := zone)]
      rfl

theorem previousZone_ping (d : String) :
    (s.step (.ping cell driver)).previousZone d =
      if d = driver then some cell else s.previousZone d := by
  change get (setEx s.zone s.now ZONE_DRIVER_TTL driver cell) s.now d = _
  split
  · rename_i hd
    subst hd
    exact get_setEx_self _ _ _ (by rw [ZONE_DRIVER_TTL]; omega)
  · rename_i hd
    exact get_setEx_of_ne _ _ _ _ _ hd

theorem mem_leftZone {c : String} :
    s.leftZone cell driver = some c ↔ s.previousZone driver = some c ∧ c ≠ "" ∧ c ≠ cell := by
  simp [leftZone, Option.filter_eq_some_iff]

/-- A set other than that of the ping keeps its time to live and everybody else. -/
theorem drivers_ping {c d : String} (hc : c ≠ cell) (hd : d ≠ driver) {set : Entry (List String)}
    (hset : set ∈ s.drivers c) (hmem : d ∈ set.value) :
    ∃ set' ∈ (s.step (.ping cell driver)).drivers c,
      set'.expiresAt = set.expiresAt ∧ d ∈ set'.value := by
  have hother : (s.step (.ping cell driver)).drivers c =
      (s.leftZone cell driver).elim s.drivers (fun zone => sRem s.drivers zone driver) c :=
    Function.update_of_ne hc _ _
  rw [Option.mem_def] at hset
  rw [hother]
  cases s.leftZone cell driver with
  | none => exact ⟨set, hset, rfl, hmem⟩
  | some zone =>
      by_cases hzone : c = zone
      · subst hzone
        refine ⟨{ set with value := set.value.filter (· ≠ driver) }, ?_, rfl, ?_⟩
        · simp [sRem, hset]
        · simp [hmem, hd]
      · exact ⟨set, by simpa [sRem, hzone] using hset, rfl, hmem⟩

/-- The set of the ping lives as long as the new pointer. -/
theorem drivers_ping_self {d : String}
    (hd : d ∈ (s.step (.ping cell driver)).getZoneDrivers true cell) :
    ∃ set ∈ (s.step (.ping cell driver)).drivers cell,
      set.expiresAt = s.now + ZONE_DRIVER_TTL * 1000 ∧ d ∈ set.value := by
  obtain ⟨set, hset, -, hmem⟩ := mem_getZoneDrivers.mp hd
  refine ⟨set, hset, ?_, hmem⟩
  have hself : (s.step (.ping cell driver)).drivers cell = some ⟨_, _⟩ := Function.update_self _ _ _
  rw [hself] at hset
  cases hset
  rfl

end Ping

/-! ## Pointers and sets -/

theorem backed_step {s : ZoneRoster} (hs : Backed s) (e : RosterEvent) : Backed (s.step e) := by
  intro d pointer hpointer
  cases e with
  | elapse ms =>
      obtain ⟨hbound, hlive⟩ := hs d pointer hpointer
      constructor
      · change pointer.expiresAt ≤ s.now + ms + _
        omega
      · intro hnow
        change s.now + ms < pointer.expiresAt at hnow
        exact hlive (by omega)
  | ping cell driver =>
      change setEx s.zone s.now ZONE_DRIVER_TTL driver cell d = some pointer at hpointer
      by_cases hd : d = driver
      · subst hd
        rw [setEx, Function.update_self, Option.some.injEq] at hpointer
        subst hpointer
        obtain ⟨set, hset, hexpires, hmem⟩ :=
          drivers_ping_self (s := s) (mem_ping.mpr (.inr ⟨rfl, rfl⟩))
        exact ⟨le_rfl, fun _ => ⟨set, hset, hexpires.ge, hmem⟩⟩
      · rw [setEx, Function.update_of_ne hd] at hpointer
        obtain ⟨hbound, hlive⟩ := hs d pointer hpointer
        refine ⟨hbound, fun hnow => ?_⟩
        obtain ⟨set, hset, hexpires, hmem⟩ := hlive hnow
        by_cases hcell : pointer.value = cell
        · have hstays : d ∈ (s.step (.ping cell driver)).getZoneDrivers true cell :=
            mem_ping.mpr (.inl ⟨mem_getZoneDrivers.mpr
              ⟨set, hcell ▸ hset, hnow.trans_le hexpires, hmem⟩, fun h => hd h.1⟩)
          obtain ⟨set', hset', hexpires', hmem'⟩ := drivers_ping_self hstays
          exact ⟨set', hcell ▸ hset', hexpires' ▸ hbound, hmem'⟩
        · obtain ⟨set', hset', hsame, hmem'⟩ := drivers_ping hcell hd hset hmem
          exact ⟨set', hset', hsame ▸ hexpires, hmem'⟩

/-- Time only empties sets and pointers. -/
theorem unique_elapse {s : ZoneRoster} (hs : Backed s) (h : Unique s) (ms : ℕ) :
    Unique (s.step (.elapse ms)) := by
  have hstays {c d : String} (hd : d ∈ (s.step (.elapse ms)).getZoneDrivers true c) :
      d ∈ s.getZoneDrivers true c := by
    obtain ⟨set, hset, hlive, hmem⟩ := mem_getZoneDrivers.mp hd
    change s.now + ms < set.expiresAt at hlive
    exact mem_getZoneDrivers.mpr ⟨set, hset, by omega, hmem⟩
  have hone (d c c' : String) (hc : d ∈ (s.step (.elapse ms)).getZoneDrivers true c)
      (hc' : d ∈ (s.step (.elapse ms)).getZoneDrivers true c') : c = c' :=
    h.one d c c' (hstays hc) (hstays hc')
  refine ⟨hone, fun d c hc c' => ?_⟩
  obtain ⟨pointer, hpointer, hlive⟩ := Option.bind_eq_some_iff.mp hc
  split at hlive
  · rename_i hnow
    cases hlive
    change s.now + ms < pointer.expiresAt at hnow
    obtain ⟨set, hset, hexpires, hmem⟩ := (hs d pointer hpointer).2 (by omega)
    have hmember : d ∈ (s.step (.elapse ms)).getZoneDrivers true pointer.value :=
      mem_getZoneDrivers.mpr ⟨set, hset, hnow.trans_le hexpires, hmem⟩
    exact ⟨fun hc' => hone d c' _ hc' hmember, fun hc' => hc' ▸ hmember⟩
  · cases hlive

theorem traced_of_unique_ping {s : ZoneRoster} {cell driver : String}
    (hnext : Unique (s.step (.ping cell driver))) : Traced s (.ping cell driver) := by
  by_contra hnot
  obtain ⟨hpointer, hstray⟩ := not_or.mp hnot
  have hleft : s.leftZone cell driver = none := by
    rw [Option.eq_none_iff_forall_ne_some]
    intro c hc
    obtain ⟨hprevious, hne, -⟩ := mem_leftZone.mp hc
    exact hpointer ⟨c, hprevious, hne⟩
  refine hstray fun c hc => hnext.one driver c cell (mem_ping.mpr (.inl ⟨hc, ?_⟩))
    (mem_ping.mpr (.inr ⟨rfl, rfl⟩))
  simp [hleft]

/-- The driver is in the cell of the ping only, whatever the pointer was. -/
theorem eq_cell_of_mem_ping {s : ZoneRoster} (h : Unique s) {cell driver c : String}
    (htraced : Traced s (.ping cell driver))
    (hc : driver ∈ (s.step (.ping cell driver)).getZoneDrivers true c) : c = cell := by
  obtain ⟨hmem, hkept⟩ | ⟨-, hcell⟩ := mem_ping.mp hc
  · obtain ⟨c', hprevious, hne⟩ | hstray := htraced
    · have hc' : c = c' := (h.pointed driver c' hprevious c).mp hmem
      subst hc'
      by_contra hcell
      exact hkept ⟨rfl, mem_leftZone.mpr ⟨hprevious, hne, hcell⟩⟩
    · exact hstray c hmem
  · exact hcell

theorem unique_ping {s : ZoneRoster} (h : Unique s) {cell driver : String}
    (htraced : Traced s (.ping cell driver)) : Unique (s.step (.ping cell driver)) := by
  have hother {d : String} (hd : d ≠ driver) (c : String) :
      d ∈ (s.step (.ping cell driver)).getZoneDrivers true c ↔ d ∈ s.getZoneDrivers true c := by
    rw [mem_ping]
    simp [hd]
  constructor
  · intro d c c' hc hc'
    by_cases hd : d = driver
    · subst hd
      rw [eq_cell_of_mem_ping h htraced hc, eq_cell_of_mem_ping h htraced hc']
    · exact h.one d c c' ((hother hd c).mp hc) ((hother hd c').mp hc')
  · intro d c hc c'
    rw [Option.mem_def, previousZone_ping] at hc
    split at hc
    · rename_i hd
      subst hd
      cases hc
      exact ⟨eq_cell_of_mem_ping h htraced, fun hc' => mem_ping.mpr (.inr ⟨rfl, hc'⟩)⟩
    · rename_i hd
      rw [hother hd]
      exact h.pointed d c hc c'

theorem unique_ping_iff {s : ZoneRoster} (h : Unique s) (cell driver : String) :
    Unique (s.step (.ping cell driver)) ↔ Traced s (.ping cell driver) :=
  ⟨traced_of_unique_ping, unique_ping h⟩

theorem unique_step_iff {s : ZoneRoster} (hs : Backed s) (h : Unique s) (e : RosterEvent) :
    Unique (s.step e) ↔ Traced s e := by
  cases e with
  | elapse ms => exact iff_of_true (unique_elapse hs h ms) trivial
  | ping cell driver => exact unique_ping_iff h cell driver

/-- In every run the law holds at every moment if and only if each ping finds what it has to
leave. -/
theorem always_unique_iff (now : ℤ) (events : List RosterEvent) :
    Always step Unique { now } events ↔ Along step Traced { now } events := by
  have hbacked : Backed { now } := by
    intro d pointer hpointer
    cases hpointer
  have hunique : Unique { now } := by
    refine ⟨fun d c c' hmem => ?_, fun d c hc => ?_⟩
    · simp [getZoneDrivers, sMembers, get] at hmem
    · simp [previousZone, get] at hc
  exact always_iff_along_of_inv (fun s e hs => backed_step hs e)
    (fun s e hs h => unique_step_iff hs h e) hbacked hunique

/-- The other driver keeps the set alive, the pointer is gone. -/
theorem not_always_unique :
    ¬Always step Unique { now := 0 } [.ping "8860145b5dfffff" "d1", .elapse 800000,
      .ping "8860145b5dfffff" "d2", .elapse 200000, .ping "8860145b6dfffff" "d1"] := by
  intro h
  have hsame := h.last.one "d1" "8860145b5dfffff" "8860145b6dfffff" (by decide) (by decide)
  exact absurd hsame (by decide)

end Aegis.RedisState.ZoneRoster
