import Aegis.Library.Sightings

/-! # Keys that every write re-arms

A key with a time to live, set anew by each write, holds what was written since the last pause
of that length. -/

namespace Aegis.Bursts

open Sightings

variable {ε β : Type*}

/-- A value and the instant from which it is gone. -/
structure Expiring (β : Type*) where
  value : β
  expiresAt : ℤ

def live (now : ℤ) (key : Option (Expiring β)) : Option β :=
  key.bind fun entry => if now < entry.expiresAt then some entry.value else none

section Runs

variable (time : ε → ℤ) (w : ℤ)

/-- A write to the value that is left, if any. -/
def rearm (write : Option β → ε → β) (key : Option (Expiring β)) (e : ε) : Option (Expiring β) :=
  some ⟨write (live (time e) key) e, time e + w⟩

/-- The last entry is less than `w` before `now`. -/
def Ongoing (now : ℤ) (log : List ε) : Prop := ∃ last ∈ log.getLast?, now < time last + w

instance (now : ℤ) (log : List ε) : Decidable (Ongoing time w now log) :=
  inferInstanceAs (Decidable (∃ last ∈ log.getLast?, now < time last + w))

def extend (burst : List ε) (e : ε) : List ε :=
  if Ongoing time w (time e) burst then burst ++ [e] else [e]

/-- The entries since the last pause. -/
def burst (log : List ε) : List ε := log.foldl (extend time w) []

/-- The burst, if it has not come to its end. -/
def unbroken (now : ℤ) (log : List ε) : List ε :=
  if Ongoing time w now log then burst time w log else []

end Runs

variable {time : ε → ℤ} {w now : ℤ} {log : List ε} {e : ε}

theorem burst_append_singleton :
    burst time w (log ++ [e]) = extend time w (burst time w log) e := by
  rw [burst, List.foldl_append]
  rfl

theorem getLast?_extend (b : List ε) : (extend time w b e).getLast? = some e := by
  rw [extend]
  split <;> simp

theorem getLast?_burst (log : List ε) : (burst time w log).getLast? = log.getLast? := by
  induction log using List.reverseRecOn with
  | nil => rfl
  | append_singleton log e _ =>
      rw [burst_append_singleton, getLast?_extend, List.getLast?_concat]

theorem ongoing_burst : Ongoing time w now (burst time w log) ↔ Ongoing time w now log := by
  rw [Ongoing, Ongoing, getLast?_burst]

theorem burst_ne_nil (h : log ≠ []) : burst time w log ≠ [] := by
  intro hnil
  have hlast : (burst time w log).getLast? = log.getLast? := getLast?_burst log
  rw [hnil, List.getLast?_nil, eq_comm, List.getLast?_eq_none_iff] at hlast
  exact h hlast

/-! ## The value of the key -/

/-- What a first write makes of an entry and a later one of what is there, in terms of the entries
written. -/
structure Holds (write : Option β → ε → β) (value : List ε → β) : Prop where
  first : ∀ e, write none e = value [e]
  later : ∀ b e, b ≠ [] → write (some (value b)) e = value (b ++ [e])

theorem foldl_rearm {write : Option β → ε → β} {value : List ε → β} (h : Holds write value)
    (log : List ε) : log.foldl (rearm time w write) none =
      log.getLast?.map fun last => ⟨value (burst time w log), time last + w⟩ := by
  induction log using List.reverseRecOn with
  | nil => rfl
  | append_singleton log e ih =>
      rw [List.foldl_append, ih, List.getLast?_concat, burst_append_singleton]
      simp only [List.foldl_cons, List.foldl_nil, rearm, Option.map_some]
      congr 2
      cases hlast : log.getLast? with
      | none =>
          have hnil := List.getLast?_eq_none_iff.mp hlast
          subst hnil
          exact h.first e
      | some last =>
          have hne : burst time w log ≠ [] := burst_ne_nil (by rintro rfl; cases hlast)
          have hongoing : Ongoing time w (time e) (burst time w log) ↔ time e < time last + w := by
            rw [ongoing_burst, Ongoing, hlast]
            simp
          rw [extend]
          simp only [live, Option.map_some, Option.bind_some]
          by_cases hlive : time e < time last + w
          · rw [if_pos hlive, if_pos (hongoing.mpr hlive)]
            exact h.later _ e hne
          · rw [if_neg hlive, if_neg (hongoing.not.mpr hlive)]
            exact h.first e

/-- The key is gone after a pause, and else holds the burst. -/
theorem live_rearm {write : Option β → ε → β} {value : List ε → β} (h : Holds write value)
    (now : ℤ) (log : List ε) : live now (log.foldl (rearm time w write) none) =
      if Ongoing time w now log then some (value (burst time w log)) else none := by
  rw [foldl_rearm h, live]
  cases hlast : log.getLast? with
  | none => simp [Ongoing, hlast]
  | some last => simp [Ongoing, hlast]

/-- What is read of the key, given what is read where there is none. -/
theorem elim_live_rearm {write : Option β → ε → β} {value : List ε → β} (h : Holds write value)
    {γ : Type*} {read : β → γ} (reading : List ε → γ)
    (hread : ∀ b, b ≠ [] → read (value b) = reading b) (now : ℤ) (log : List ε) :
    (live now (log.foldl (rearm time w write) none)).elim (reading []) read =
      reading (unbroken time w now log) := by
  rw [live_rearm h, unbroken]
  by_cases hongoing : Ongoing time w now log
  · have hne : burst time w log ≠ [] := by
      apply burst_ne_nil
      rintro rfl
      obtain ⟨last, hlast, -⟩ := hongoing
      cases hlast
    rw [if_pos hongoing, if_pos hongoing, Option.elim_some, hread _ hne]
  · rw [if_neg hongoing, if_neg hongoing, Option.elim_none]

/-! ## The window -/

theorem time_le_of_getLast {last : ε} (hlog : log.Pairwise fun e' e => time e' ≤ time e)
    (hlast : log.getLast? = some last) : ∀ e ∈ log, time e ≤ time last := by
  obtain ⟨before, rfl⟩ := List.getLast?_eq_some_iff.mp hlast
  intro e he
  rcases List.mem_append.mp he with hold | hnew
  · exact (List.pairwise_append.mp hlog).2.2 e hold last (by simp)
  · rw [List.mem_singleton.mp hnew]

/-- What comes before the burst is out of the window of everything in it. -/
theorem burst_spec (log : List ε) (hlog : log.Pairwise fun e' e => time e' ≤ time e) :
    ∃ before, log = before ++ burst time w log ∧
      ∀ e ∈ before, ∀ b ∈ burst time w log, time e + w ≤ time b := by
  induction log using List.reverseRecOn with
  | nil => exact ⟨[], rfl, by simp⟩
  | append_singleton log x ih =>
      obtain ⟨hbefore, -, hlast⟩ := List.pairwise_append.mp hlog
      have hle (e : ε) (he : e ∈ log) : time e ≤ time x := hlast e he x (by simp)
      obtain ⟨before, hsplit, hold⟩ := ih hbefore
      rw [burst_append_singleton, extend]
      by_cases hongoing : Ongoing time w (time x) (burst time w log)
      · rw [if_pos hongoing]
        refine ⟨before, ?_, ?_⟩
        · rw [← List.append_assoc, ← hsplit]
        · intro e he b hb
          rcases List.mem_append.mp hb with hin | hnew
          · exact hold e he b hin
          · obtain ⟨last, hmem, -⟩ := hongoing
            have hin : last ∈ burst time w log := List.mem_of_getLast? hmem
            have hlater : last ∈ log := by
              rw [hsplit]
              exact List.mem_append_right _ hin
            rw [List.mem_singleton.mp hnew]
            exact (hold e he last hin).trans (hle last hlater)
      · rw [if_neg hongoing]
        refine ⟨log, rfl, ?_⟩
        intro e he b hb
        rw [List.mem_singleton.mp hb]
        cases hend : log.getLast? with
        | none =>
            rw [List.getLast?_eq_none_iff.mp hend] at he
            simp at he
        | some last =>
            have hpause : ¬time x < time last + w := by
              intro hlt
              exact hongoing (ongoing_burst.mpr ⟨last, hend, hlt⟩)
            have hlatest := time_le_of_getLast hbefore hend e he
            omega

/-- The window is one of the burst. -/
theorem within_unbroken (hlog : log.Pairwise fun e' e => time e' ≤ time e)
    (hnow : ∀ e ∈ log, time e ≤ now) :
    within time w now (unbroken time w now log) = within time w now log := by
  obtain ⟨before, hsplit, hold⟩ := burst_spec (w := w) log hlog
  have hnone : within time w now before = [] := by
    apply List.filter_eq_nil_iff.mpr
    intro e he
    have hne : burst time w log ≠ [] := by
      apply burst_ne_nil
      rintro rfl
      simp at hsplit
      simp [hsplit.1] at he
    obtain ⟨b, hb⟩ := List.exists_mem_of_ne_nil _ hne
    have hgap := hold e he b hb
    have hlater := hnow b (by rw [hsplit]; exact List.mem_append_right _ hb)
    rw [decide_eq_true_iff]
    omega
  have hburst : within time w now log = within time w now (burst time w log) := by
    conv_lhs => rw [hsplit]
    rw [within, List.filter_append, ← within, hnone, List.nil_append, ← within]
  rw [hburst, unbroken]
  by_cases hongoing : Ongoing time w now log
  · rw [if_pos hongoing]
  · rw [if_neg hongoing]
    symm
    apply List.filter_eq_nil_iff.mpr
    intro e he hin
    have hin' := of_decide_eq_true hin
    cases hlast : log.getLast? with
    | none =>
        rw [List.getLast?_eq_none_iff] at hlast
        subst hlast
        simp [burst] at he
    | some last =>
        have hlatest := time_le_of_getLast hlog hlast e
          (by rw [hsplit]; exact List.mem_append_right _ he)
        exact hongoing ⟨last, hlast, by omega⟩

end Aegis.Bursts
