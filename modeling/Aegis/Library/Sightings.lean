import Mathlib.Data.Finset.Card
import Mathlib.Data.List.Induction

/-! # Sightings in a sliding window

A log of sightings in the order of their times, and the lists that are kept of it: one entry for
each key that was seen in the window. -/

namespace Aegis.Sightings

variable {ε κ : Type*} (key : ε → κ) (time : ε → ℤ)

/-- The entries of the last `w` seconds. -/
def within (w now : ℤ) (log : List ε) : List ε := log.filter fun e => now - time e < w

/-- `kept` holds the latest sighting of every key that was seen in the window. -/
structure Tracks (w now : ℤ) (log kept : List ε) : Prop where
  nodup : (kept.map key).Nodup
  latest : ∀ u ∈ kept, u ∈ log ∧ ∀ e ∈ log, key e = key u → time e ≤ time u
  recent : ∀ u ∈ kept, now - time u < w
  complete : ∀ e ∈ log, now - time e < w → ∃ u ∈ kept, key u = key e

theorem Tracks.empty (w now : ℤ) : Tracks key time w now [] [] := by
  constructor <;> simp

section Lists

variable [DecidableEq κ]

def distinct (log : List ε) : ℕ := (log.map key).dedup.length

/-- Old entries go, and that of the key is replaced. -/
def refresh (w : ℤ) (kept : List ε) (e : ε) : List ε :=
  ((within time w (time e) kept).filter fun u => key u ≠ key e) ++ [e]

/-- Old entries go; a key that is left keeps the entry it has. -/
def keepFirst (w : ℤ) (kept : List ε) (e : ε) : List ε :=
  if (within time w (time e) kept).any fun u => key u = key e then within time w (time e) kept
  else within time w (time e) kept ++ [e]

/-- A key that is in the list keeps the entry it has. -/
def insertOnce (kept : List ε) (e : ε) : List ε :=
  if kept.any fun u => key u = key e then kept else kept ++ [e]

end Lists

/-- `kept` holds the first sighting of every key. -/
structure Firsts (log kept : List ε) : Prop where
  nodup : (kept.map key).Nodup
  first : ∀ u ∈ kept, u ∈ log ∧ ∀ e ∈ log, key e = key u → time u ≤ time e
  complete : ∀ e ∈ log, ∃ u ∈ kept, key u = key e

variable {key time} {w now : ℤ} {log kept : List ε} {e : ε}

theorem mem_within : e ∈ within time w now log ↔ e ∈ log ∧ now - time e < w := by
  simp [within]

/-- A list that is kept by steps of which each keeps track. -/
theorem tracks_foldl {step : List ε → ε → List ε} {R : ε → ε → Prop}
    (hR : ∀ e' e, R e' e → time e' ≤ time e)
    (hstep : ∀ now log kept e, (∀ e' ∈ log, R e' e) → now ≤ time e →
      Tracks key time w now log kept → Tracks key time w (time e) (log ++ [e]) (step kept e))
    (log : List ε) (e : ε) (hlog : (log ++ [e]).Pairwise R) :
    Tracks key time w (time e) (log ++ [e]) ((log ++ [e]).foldl step []) := by
  induction log using List.reverseRecOn generalizing e with
  | nil => exact hstep (time e) [] [] e (by simp) le_rfl (.empty key time w (time e))
  | append_singleton log e' ih =>
      obtain ⟨hbefore, -, hlast⟩ := List.pairwise_append.mp hlog
      have hlast (e'' : ε) (he'' : e'' ∈ log ++ [e']) : R e'' e := hlast e'' he'' e (by simp)
      have htracks := ih e' hbefore
      rw [List.foldl_append]
      exact hstep (time e') (log ++ [e']) _ e hlast (hR e' e (hlast e' (by simp))) htracks

variable [DecidableEq κ]

theorem distinct_eq_card : distinct key log = (log.map key).toFinset.card :=
  (List.card_toFinset _).symm

theorem distinct_eq_length (h : (log.map key).Nodup) : distinct key log = log.length := by
  rw [distinct, List.Nodup.dedup h, List.length_map]

theorem distinct_congr {log log' : List ε}
    (h : ∀ k, (∃ e ∈ log, key e = k) ↔ ∃ e ∈ log', key e = k) :
    distinct key log = distinct key log' := by
  rw [distinct_eq_card, distinct_eq_card]
  congr 1
  ext k
  simpa using h k

/-- A list of some of the keys is no larger, and as large just when it has them all. -/
theorem distinct_eq_iff_of_subset {log log' : List ε}
    (h : ∀ e ∈ log, ∃ e' ∈ log', key e' = key e) :
    distinct key log = distinct key log' ↔ ∀ e' ∈ log', ∃ e ∈ log, key e = key e' := by
  have hsubset : (log.map key).toFinset ⊆ (log'.map key).toFinset := by
    intro k hk
    obtain ⟨e, he, rfl⟩ := List.mem_map.mp (List.mem_toFinset.mp hk)
    obtain ⟨e', he', hkey⟩ := h e he
    exact List.mem_toFinset.mpr (List.mem_map.mpr ⟨e', he', hkey⟩)
  rw [distinct_eq_card, distinct_eq_card]
  constructor
  · intro hcard e' he'
    have heq := Finset.eq_of_subset_of_card_le hsubset hcard.ge
    have hmem : key e' ∈ (log.map key).toFinset := by
      rw [heq]
      exact List.mem_toFinset.mpr (List.mem_map_of_mem he')
    simpa using hmem
  · intro hall
    refine congrArg Finset.card (hsubset.antisymm ?_)
    intro k hk
    obtain ⟨e', he', rfl⟩ := List.mem_map.mp (List.mem_toFinset.mp hk)
    simpa using hall e' he'

namespace Tracks

/-- The entries of any shorter window are as many as the keys seen in it. -/
theorem length_within (h : Tracks key time w now log kept) {v : ℤ} (hv : v ≤ w) :
    (within time v now kept).length = distinct key (within time v now log) := by
  have hnodup : ((within time v now kept).map key).Nodup :=
    h.nodup.sublist (List.filter_sublist.map key)
  rw [← distinct_eq_length hnodup]
  apply distinct_congr
  intro k
  constructor
  · rintro ⟨u, hu, rfl⟩
    obtain ⟨hkept, htime⟩ := mem_within.mp hu
    exact ⟨u, mem_within.mpr ⟨(h.latest u hkept).1, htime⟩, rfl⟩
  · rintro ⟨e, he, rfl⟩
    obtain ⟨hlog, htime⟩ := mem_within.mp he
    obtain ⟨u, hu, hkey⟩ := h.complete e hlog (by omega)
    have hlater := (h.latest u hu).2 e hlog hkey.symm
    exact ⟨u, mem_within.mpr ⟨hu, by omega⟩, hkey⟩

theorem length_eq (h : Tracks key time w now log kept) :
    kept.length = distinct key (within time w now log) := by
  have hall : within time w now kept = kept := by
    apply List.filter_eq_self.mpr
    intro u hu
    exact decide_eq_true (h.recent u hu)
  rw [← h.length_within le_rfl, hall]

/-- A key that is seen again is the latest of its own, any other stays what it was. -/
theorem refresh (h : Tracks key time w now log kept) (hw : 0 < w) (hnow : now ≤ time e)
    (hlog : ∀ e' ∈ log, time e' ≤ time e) :
    Tracks key time w (time e) (log ++ [e]) (refresh key time w kept e) := by
  have hmem : ∀ u, u ∈ Sightings.refresh key time w kept e ↔
      (u ∈ kept ∧ time e - time u < w ∧ key u ≠ key e) ∨ u = e := by
    intro u
    simp [Sightings.refresh, mem_within, and_assoc]
  constructor
  case nodup =>
    rw [Sightings.refresh, List.map_append, List.nodup_append]
    refine ⟨h.nodup.sublist ((List.filter_sublist.trans List.filter_sublist).map key), by simp, ?_⟩
    intro k hk k' hk'
    obtain ⟨u, hu, rfl⟩ := List.mem_map.mp hk
    have hlast : k' = key e := by simpa using hk'
    rw [hlast]
    simpa using (List.mem_filter.mp hu).2
  case latest =>
    intro u hu
    rcases (hmem u).mp hu with ⟨hkept, -, hkey⟩ | rfl
    · obtain ⟨hin, hlater⟩ := h.latest u hkept
      refine ⟨List.mem_append_left _ hin, ?_⟩
      intro e' he' hsame
      rcases List.mem_append.mp he' with hold | hnew
      · exact hlater e' hold hsame
      · rw [List.mem_singleton.mp hnew] at hsame
        exact absurd hsame.symm hkey
    · refine ⟨by simp, ?_⟩
      intro e' he' _
      rcases List.mem_append.mp he' with hold | hnew
      · exact hlog e' hold
      · rw [List.mem_singleton.mp hnew]
  case recent =>
    intro u hu
    rcases (hmem u).mp hu with ⟨-, htime, -⟩ | rfl
    · exact htime
    · omega
  case complete =>
    intro e' he' htime
    by_cases hkey : key e' = key e
    · exact ⟨e, (hmem e).mpr (.inr rfl), hkey.symm⟩
    · rcases List.mem_append.mp he' with hold | hnew
      · obtain ⟨u, hu, hsame⟩ := h.complete e' hold (by omega)
        have hlater := (h.latest u hu).2 e' hold hsame.symm
        exact ⟨u, (hmem u).mpr (.inl ⟨hu, by omega, hsame ▸ hkey⟩), hsame⟩
      · exact absurd (congrArg key (List.mem_singleton.mp hnew)) hkey

/-- A key that was seen in the window, but at no other instant, may keep its entry. -/
theorem keepFirst (h : Tracks key time w now log kept) (hw : 0 < w) (hnow : now ≤ time e)
    (hlog : ∀ e' ∈ log, time e' ≤ time e)
    (hfresh : ∀ e' ∈ log, key e' = key e → time e - time e' < w → time e' = time e) :
    Tracks key time w (time e) (log ++ [e]) (keepFirst key time w kept e) := by
  by_cases hleft : ∃ u ∈ within time w (time e) kept, key u = key e
  · have hkept : Sightings.keepFirst key time w kept e = within time w (time e) kept := by
      rw [Sightings.keepFirst, if_pos (by simpa using hleft)]
    rw [hkept]
    constructor
    case nodup => exact h.nodup.sublist (List.filter_sublist.map key)
    case latest =>
      intro u hu
      obtain ⟨hu, htime⟩ := mem_within.mp hu
      obtain ⟨hin, hlater⟩ := h.latest u hu
      refine ⟨List.mem_append_left _ hin, ?_⟩
      intro e' he' hsame
      rcases List.mem_append.mp he' with hold | hnew
      · exact hlater e' hold hsame
      · rw [List.mem_singleton.mp hnew] at hsame ⊢
        exact (hfresh u hin hsame.symm htime).ge
    case recent =>
      intro u hu
      exact (mem_within.mp hu).2
    case complete =>
      intro e' he' htime
      rcases List.mem_append.mp he' with hold | hnew
      · obtain ⟨u, hu, hsame⟩ := h.complete e' hold (by omega)
        have hlater := (h.latest u hu).2 e' hold hsame.symm
        exact ⟨u, mem_within.mpr ⟨hu, by omega⟩, hsame⟩
      · rw [List.mem_singleton.mp hnew]
        exact hleft
  · -- nobody to keep: the entry is a new one, as if it were refreshed
    have hnew : Sightings.keepFirst key time w kept e = Sightings.refresh key time w kept e := by
      have hnone : ∀ u ∈ within time w (time e) kept, key u ≠ key e :=
        fun u hu hkey => hleft ⟨u, hu, hkey⟩
      have hall : (within time w (time e) kept).filter (fun u => key u ≠ key e) =
          within time w (time e) kept :=
        List.filter_eq_self.mpr fun u hu => decide_eq_true (hnone u hu)
      rw [Sightings.keepFirst, if_neg (by simpa using hnone), Sightings.refresh, hall]
    rw [hnew]
    exact h.refresh hw hnow hlog

end Tracks

theorem tracks_refresh (hw : 0 < w) (log : List ε) (e : ε)
    (hlog : (log ++ [e]).Pairwise fun e' e => time e' ≤ time e) :
    Tracks key time w (time e) (log ++ [e]) ((log ++ [e]).foldl (refresh key time w) []) :=
  tracks_foldl (fun _ _ h => h) (fun _ _ _ _ hle hnow h => h.refresh hw hnow hle) log e hlog

/-- No key is seen twice in a window, but for sightings of one instant. -/
def Fresh (key : ε → κ) (time : ε → ℤ) (w : ℤ) (e' e : ε) : Prop :=
  key e' = key e → time e - time e' < w → time e' = time e

theorem tracks_keepFirst (hw : 0 < w) (log : List ε) (e : ε)
    (hlog : (log ++ [e]).Pairwise fun e' e => time e' ≤ time e)
    (hfresh : (log ++ [e]).Pairwise (Fresh key time w)) :
    Tracks key time w (time e) (log ++ [e]) ((log ++ [e]).foldl (keepFirst key time w) []) := by
  refine tracks_foldl (fun _ _ h => h.1) ?_ log e (hlog.and hfresh)
  intro now log kept e hle hnow h
  exact h.keepFirst hw hnow (fun e' he' => (hle e' he').1) (fun e' he' => (hle e' he').2)

/-! ## First sightings -/

namespace Firsts

/-- One more sighting, of a key that is known or of a new one. -/
theorem insertOnce (h : Firsts key time log kept) (hlog : ∀ e' ∈ log, time e' ≤ time e) :
    Firsts key time (log ++ [e]) (insertOnce key kept e) := by
  by_cases hknown : ∃ u ∈ kept, key u = key e
  · have hkept : Sightings.insertOnce key kept e = kept := by
      rw [Sightings.insertOnce, if_pos (by simpa using hknown)]
    rw [hkept]
    constructor
    case nodup => exact h.nodup
    case first =>
      intro u hu
      obtain ⟨hin, hfirst⟩ := h.first u hu
      refine ⟨List.mem_append_left _ hin, ?_⟩
      intro e' he' hkey
      rcases List.mem_append.mp he' with hold | hnew
      · exact hfirst e' hold hkey
      · rw [List.mem_singleton.mp hnew]
        exact hlog u hin
    case complete =>
      intro e' he'
      rcases List.mem_append.mp he' with hold | hnew
      · exact h.complete e' hold
      · rw [List.mem_singleton.mp hnew]
        exact hknown
  · have hkept : Sightings.insertOnce key kept e = kept ++ [e] := by
      rw [Sightings.insertOnce, if_neg (by simpa using hknown)]
    rw [hkept]
    constructor
    case nodup =>
      rw [List.map_append, List.nodup_append]
      refine ⟨h.nodup, by simp, ?_⟩
      intro k hk k' hk' heq
      obtain ⟨u, hu, rfl⟩ := List.mem_map.mp hk
      have hlast : k' = key e := by simpa using hk'
      exact hknown ⟨u, hu, heq.trans hlast⟩
    case first =>
      intro u hu
      rcases List.mem_append.mp hu with hold | hnew
      · obtain ⟨hin, hfirst⟩ := h.first u hold
        refine ⟨List.mem_append_left _ hin, ?_⟩
        intro e' he' hkey
        rcases List.mem_append.mp he' with hold' | hnew
        · exact hfirst e' hold' hkey
        · rw [List.mem_singleton.mp hnew]
          exact hlog u hin
      · rw [List.mem_singleton.mp hnew]
        refine ⟨by simp, ?_⟩
        intro e' he' hkey
        rcases List.mem_append.mp he' with hold | hnew'
        · obtain ⟨u', hu', hkey'⟩ := h.complete e' hold
          exact absurd ⟨u', hu', hkey'.trans hkey⟩ hknown
        · rw [List.mem_singleton.mp hnew']
    case complete =>
      intro e' he'
      rcases List.mem_append.mp he' with hold | hnew
      · obtain ⟨u, hu, hkey⟩ := h.complete e' hold
        exact ⟨u, List.mem_append_left _ hu, hkey⟩
      · exact ⟨e, by simp, congrArg key (List.mem_singleton.mp hnew).symm⟩

end Firsts

theorem firsts_foldl (log : List ε) (hlog : log.Pairwise fun e' e => time e' ≤ time e) :
    Firsts key time log (log.foldl (insertOnce key) []) := by
  induction log using List.reverseRecOn with
  | nil => constructor <;> simp
  | append_singleton log e ih =>
      obtain ⟨hbefore, -, hlast⟩ := List.pairwise_append.mp hlog
      rw [List.foldl_append]
      exact (ih hbefore).insertOnce fun e' he' => hlast e' he' e (by simp)

/-- There are as many entries as keys; the times do not matter. -/
theorem length_foldl_insertOnce (log : List ε) :
    (log.foldl (insertOnce key) []).length = distinct key log := by
  have h : Firsts key (fun _ => 0) log (log.foldl (insertOnce key) []) :=
    firsts_foldl log (List.pairwise_of_forall fun _ _ => le_rfl)
  rw [← distinct_eq_length h.nodup]
  apply distinct_congr
  intro k
  constructor
  · rintro ⟨u, hu, rfl⟩
    exact ⟨u, (h.first u hu).1, rfl⟩
  · rintro ⟨e, he, rfl⟩
    exact h.complete e he

namespace Firsts

variable {P : ε → Prop} [DecidablePred P]

/-- As many keys are first seen inside a part of the time as are seen there at all, just when
none that is seen there was seen before. -/
theorem distinct_filter_eq_iff (h : Firsts key time log kept)
    (hP : ∀ e e', time e ≤ time e' → P e → P e') :
    distinct key (kept.filter fun u => P u) = distinct key (log.filter fun e => P e) ↔
      ∀ e ∈ log, P e → ∀ e' ∈ log, key e' = key e → P e' := by
  have hsubset : ∀ u ∈ kept.filter fun u => P u, ∃ e ∈ log.filter fun e => P e, key e = key u := by
    intro u hu
    obtain ⟨hkept, hin⟩ := List.mem_filter.mp hu
    exact ⟨u, List.mem_filter.mpr ⟨(h.first u hkept).1, hin⟩, rfl⟩
  rw [distinct_eq_iff_of_subset hsubset]
  constructor
  · intro hall e he hin e' he' hkey
    obtain ⟨u, hu, hsame⟩ := hall e (List.mem_filter.mpr ⟨he, decide_eq_true hin⟩)
    obtain ⟨hkept, hu⟩ := List.mem_filter.mp hu
    have hfirst := (h.first u hkept).2 e' he' (hkey.trans hsame.symm)
    exact hP u e' hfirst (of_decide_eq_true hu)
  · intro hall e he
    obtain ⟨hlog, hin⟩ := List.mem_filter.mp he
    obtain ⟨u, hu, hkey⟩ := h.complete e hlog
    have hu' := hall e hlog (of_decide_eq_true hin) u (h.first u hu).1 hkey
    exact ⟨u, List.mem_filter.mpr ⟨hu, decide_eq_true hu'⟩, hkey⟩

end Firsts

end Aegis.Sightings
