import Aegis.Model.LiquidityPool
import Mathlib.Tactic.Linarith

/-! # Conservation of the liquidity ledger

What `injectPremium` and `withdrawPayout` do to the three balances that
`getLiquidityStatus` reports, whichever of the keys exist. -/

namespace Aegis.LiquidityPool

open Outcome

/-! ## One key -/

/-- The key has a row. -/
def Recorded (settings : Settings) (key : String) : Prop := (settings.findUnique key).isSome = true

instance (settings : Settings) (key : String) : Decidable (Recorded settings key) :=
  inferInstanceAs (Decidable (_ = true))

theorem valueOr_of_recorded {settings : Settings} {key : String} (h : Recorded settings key)
    (fallback fallback' : ℚ) : valueOr settings key fallback = valueOr settings key fallback' := by
  obtain ⟨row, hrow⟩ := Option.isSome_iff_exists.mp h
  simp [valueOr, hrow]

theorem valueOr_of_not_recorded {settings : Settings} {key : String}
    (h : ¬Recorded settings key) (fallback : ℚ) : valueOr settings key fallback = fallback := by
  have hnone : settings.findUnique key = none := by simpa [Recorded] using h
  simp [valueOr, hnone]

theorem findUnique_put {settings settings' : Settings} {key : String} {value : ℚ}
    (h : put settings key value = .ok settings') (key' : String) :
    settings'.findUnique key' = if key' = key then some
      ⟨key, value⟩ else settings.findUnique key' := by
  have hupsert := orThrow_eq_ok.mp h
  by_cases hkey : key' = key
  · subst hkey
    rw [if_pos rfl, Table.findUnique_upsert_self hupsert (by simp [SystemSetting.keys])]
    cases hfound : settings.findUnique key' with
    | none => rfl
    | some row =>
        have hrow := Table.key_of_findUnique hfound
        simp only [SystemSetting.keys, List.mem_singleton] at hrow
        simp [hrow]
  · rw [if_neg hkey]
    refine Table.findUnique_upsert_of_notMem hupsert (by simpa [SystemSetting.keys] using hkey) ?_
    intro row hrow
    have hrow := Table.key_of_findUnique hrow
    simp only [SystemSetting.keys, List.mem_singleton] at hrow ⊢
    rw [← hrow]
    exact fun h => hkey h.symm

/-- A write never fails: the key is inserted or updated. -/
theorem exists_put (settings : Settings) (key : String) (value : ℚ) :
    ∃ settings', put settings key value = .ok settings' := by
  cases hfound : settings.findUnique key with
  | some row => exact ⟨_, by rw [put, Table.upsert, hfound]; rfl⟩
  | none =>
      have hfresh := (settings.findUnique_eq_none key).mp hfound
      have hcreate : ∀ s ∈ settings.rows, ∀ k ∈ s.keys, k ∉ (SystemSetting.mk key value).keys := by
        intro s hs k hk hkey
        simp only [SystemSetting.keys, List.mem_singleton] at hkey
        exact hfresh s hs (hkey ▸ hk)
      obtain ⟨settings', hcreated⟩ := Table.exists_create hcreate
      exact ⟨settings', orThrow_eq_ok.mpr (by rw [Table.upsert, hfound]; exact hcreated)⟩

theorem valueOr_put {settings settings' : Settings} {key : String} {value : ℚ}
    (h : put settings key value = .ok settings') (key' : String) (fallback : ℚ) :
    valueOr settings' key' fallback =
      if key' = key then value else valueOr settings key' fallback := by
  rw [valueOr, findUnique_put h]
  by_cases hkey : key' = key
  · simp [hkey]
  · simp [hkey, valueOr]

theorem recorded_put {settings settings' : Settings} {key : String} {value : ℚ}
    (h : put settings key value = .ok settings') (key' : String) :
    Recorded settings' key' ↔ key' = key ∨ Recorded settings key' := by
  rw [Recorded, findUnique_put h]
  by_cases hkey : key' = key
  · simp [hkey]
  · simp [hkey, Recorded]

/-! ## The two transactions -/

/-- The writes of an injection. -/
theorem exists_injectTx (settings : Settings) (amountRupees : ℚ) :
    ∃ s₁ s₂ s₃, put settings POOL_KEY
        (valueOr settings POOL_KEY 5000000 + amountRupees * RISK_POOL_WEIGHT) = .ok s₁ ∧
      put s₁ RESERVE_KEY
        (valueOr s₁ RESERVE_KEY 1000000 + amountRupees * CONTINGENCY_WEIGHT) = .ok s₂ ∧
      put s₂ OPERATING_FUND_KEY
        (valueOr s₂ OPERATING_FUND_KEY 0 + amountRupees * OPERATING_WEIGHT) = .ok s₃ ∧
      injectTx settings amountRupees = .ok (⟨amountRupees,
        some (valueOr settings POOL_KEY 5000000 + amountRupees * RISK_POOL_WEIGHT),
        some (valueOr s₁ RESERVE_KEY 1000000 + amountRupees * CONTINGENCY_WEIGHT)⟩, s₃) := by
  obtain ⟨s₁, h₁⟩ := exists_put settings POOL_KEY
    (valueOr settings POOL_KEY 5000000 + amountRupees * RISK_POOL_WEIGHT)
  obtain ⟨s₂, h₂⟩ := exists_put s₁ RESERVE_KEY
    (valueOr s₁ RESERVE_KEY 1000000 + amountRupees * CONTINGENCY_WEIGHT)
  obtain ⟨s₃, h₃⟩ := exists_put s₂ OPERATING_FUND_KEY
    (valueOr s₂ OPERATING_FUND_KEY 0 + amountRupees * OPERATING_WEIGHT)
  refine ⟨s₁, s₂, s₃, h₁, h₂, h₃, ?_⟩
  exact bind_eq_ok.mpr ⟨s₁, h₁, bind_eq_ok.mpr ⟨s₂, h₂, bind_eq_ok.mpr ⟨s₃, h₃, rfl⟩⟩⟩

/-- The write of a withdrawal that the core pool covers. -/
theorem exists_withdrawTx_core {settings : Settings} {amountRupees : ℚ}
    (hpool : ¬valueOr settings POOL_KEY 5000000 < amountRupees) :
    ∃ s₁, put settings POOL_KEY (valueOr settings POOL_KEY 5000000 - amountRupees) = .ok s₁ ∧
      withdrawTx settings amountRupees =
        .ok (⟨.CORE, some (valueOr settings POOL_KEY 5000000 - amountRupees), none⟩, s₁) := by
  obtain ⟨s₁, h₁⟩ := exists_put settings POOL_KEY
    (valueOr settings POOL_KEY 5000000 - amountRupees)
  refine ⟨s₁, h₁, ?_⟩
  rw [withdrawTx, if_neg hpool]
  exact bind_eq_ok.mpr ⟨s₁, h₁, rfl⟩

/-- The writes of a withdrawal that taps the reserve. -/
theorem exists_withdrawTx_mixed {settings : Settings} {amountRupees : ℚ}
    (hpool : valueOr settings POOL_KEY 5000000 < amountRupees)
    (hshort : ¬valueOr settings POOL_KEY 5000000 + valueOr settings RESERVE_KEY 0 < amountRupees) :
    ∃ s₁ s₂, put settings POOL_KEY 0 = .ok s₁ ∧
      put s₁ RESERVE_KEY (valueOr settings RESERVE_KEY 0 -
        (amountRupees - valueOr settings POOL_KEY 5000000)) = .ok s₂ ∧
      withdrawTx settings amountRupees = .ok
        (⟨.MIXED, some 0, some (valueOr settings RESERVE_KEY 0 -
        (amountRupees - valueOr settings POOL_KEY 5000000))⟩, s₂) := by
  obtain ⟨s₁, h₁⟩ := exists_put settings POOL_KEY 0
  obtain ⟨s₂, h₂⟩ := exists_put s₁ RESERVE_KEY (valueOr settings RESERVE_KEY 0 -
    (amountRupees - valueOr settings POOL_KEY 5000000))
  refine ⟨s₁, s₂, h₁, h₂, ?_⟩
  rw [withdrawTx, if_pos hpool, if_neg hshort]
  exact bind_eq_ok.mpr ⟨s₁, h₁, bind_eq_ok.mpr ⟨s₂, h₂, rfl⟩⟩

/-- An injection goes through and moves each share on top of its own default. -/
theorem injectTx_spec (settings : Settings) (amountRupees : ℚ) :
    ∃ injection settings', injectTx settings amountRupees = .ok (injection, settings') ∧
      valueOr settings' POOL_KEY 0 =
        valueOr settings POOL_KEY 5000000 + amountRupees * RISK_POOL_WEIGHT ∧
      valueOr settings' RESERVE_KEY 0 =
        valueOr settings RESERVE_KEY 1000000 + amountRupees * CONTINGENCY_WEIGHT ∧
      valueOr settings' OPERATING_FUND_KEY 0 =
        valueOr settings OPERATING_FUND_KEY 0 + amountRupees * OPERATING_WEIGHT ∧
      ∀ key, Recorded settings key → Recorded settings' key := by
  obtain ⟨s₁, s₂, s₃, h₁, h₂, h₃, htx⟩ := exists_injectTx settings amountRupees
  have hdistinct : POOL_KEY ≠ RESERVE_KEY ∧ POOL_KEY ≠ OPERATING_FUND_KEY ∧
      RESERVE_KEY ≠ OPERATING_FUND_KEY := by decide
  obtain ⟨hpr, hpo, hro⟩ := hdistinct
  refine ⟨_, s₃, htx, ?_, ?_, ?_, ?_⟩
  · simp [valueOr_put h₃, valueOr_put h₂, valueOr_put h₁, hpr, hpo]
  · simp [valueOr_put h₃, valueOr_put h₂, valueOr_put h₁, hpr.symm, hro]
  · simp [valueOr_put h₃, valueOr_put h₂, valueOr_put h₁, hpo.symm, hro.symm]
  · intro key hkey
    simp [recorded_put h₃, recorded_put h₂, recorded_put h₁, hkey]

/-- A withdrawal from the core pool, one that taps the reserve, and one that is refused. -/
inductive Withdrawn (settings : Settings) (amountRupees : ℚ) :
    Except Exn (Withdrawal × Settings) → Prop where
  | core (withdrawal : Withdrawal) (settings' : Settings)
      (covered : amountRupees ≤ valueOr settings POOL_KEY 5000000)
      (pool : valueOr settings' POOL_KEY 0 = valueOr settings POOL_KEY 5000000 - amountRupees)
      (reserve : valueOr settings' RESERVE_KEY 0 = valueOr settings RESERVE_KEY 0)
      (operating : valueOr settings' OPERATING_FUND_KEY 0 = valueOr settings OPERATING_FUND_KEY 0)
      (kept : ∀ key, Recorded settings key → Recorded settings' key) :
      Withdrawn settings amountRupees (.ok (withdrawal, settings'))
  | mixed (withdrawal : Withdrawal) (settings' : Settings)
      (depleted : valueOr settings POOL_KEY 5000000 < amountRupees)
      (covered : amountRupees ≤ valueOr settings POOL_KEY 5000000 + valueOr settings RESERVE_KEY 0)
      (pool : valueOr settings' POOL_KEY 0 = 0)
      (reserve : valueOr settings' RESERVE_KEY 0 = valueOr settings RESERVE_KEY 0 -
        (amountRupees - valueOr settings POOL_KEY 5000000))
      (operating : valueOr settings' OPERATING_FUND_KEY 0 = valueOr settings OPERATING_FUND_KEY 0)
      (kept : ∀ key, Recorded settings key → Recorded settings' key) :
      Withdrawn settings amountRupees (.ok (withdrawal, settings'))
  | refused (e : Exn)
      (short : valueOr settings POOL_KEY 5000000 + valueOr settings RESERVE_KEY 0 < amountRupees)
      (depleted : valueOr settings POOL_KEY 5000000 < amountRupees) :
      Withdrawn settings amountRupees (.error e)

theorem withdrawTx_spec (settings : Settings) (amountRupees : ℚ) :
    Withdrawn settings amountRupees (withdrawTx settings amountRupees) := by
  have hdistinct : POOL_KEY ≠ RESERVE_KEY ∧ POOL_KEY ≠ OPERATING_FUND_KEY ∧
      RESERVE_KEY ≠ OPERATING_FUND_KEY := by decide
  obtain ⟨hpr, hpo, hro⟩ := hdistinct
  by_cases hpool : valueOr settings POOL_KEY 5000000 < amountRupees
  · by_cases hshort :
        valueOr settings POOL_KEY 5000000 + valueOr settings RESERVE_KEY 0 < amountRupees
    · rw [withdrawTx, if_pos hpool, if_pos hshort]
      exact .refused _ hshort hpool
    · obtain ⟨s₁, s₂, h₁, h₂, htx⟩ := exists_withdrawTx_mixed hpool hshort
      rw [htx]
      refine .mixed _ s₂ hpool (not_lt.mp hshort) ?_ ?_ ?_ ?_
      · simp [valueOr_put h₂, valueOr_put h₁, hpr]
      · simp [valueOr_put h₂]
      · simp [valueOr_put h₂, valueOr_put h₁, hpo.symm, hro.symm]
      · intro key hkey
        simp [recorded_put h₂, recorded_put h₁, hkey]
  · obtain ⟨s₁, h₁, htx⟩ := exists_withdrawTx_core hpool
    rw [htx]
    refine .core _ s₁ (not_lt.mp hpool) ?_ ?_ ?_ ?_
    · simp [valueOr_put h₁]
    · simp [valueOr_put h₁, hpr.symm]
    · simp [valueOr_put h₁, hpo.symm]
    · intro key hkey
      simp [recorded_put h₁, hkey]

/-! ## Sequences of calls -/

/-- The table after a call that returns. -/
def perform (settings : Settings) : Op → Except Exn Settings
  | .injectPremium amountRupees =>
      (injectPremium .available settings amountRupees).map Prod.snd
  | .withdrawPayout amountRupees =>
      (withdrawPayout .available settings amountRupees).map Prod.snd

/-- A transaction that throws leaves no trace. -/
def step (settings : Settings) (op : Op) : Settings :=
  match perform settings op with
  | .ok settings' => settings'
  | .error _ => settings

def reportedTotal (settings : Settings) : ℚ :=
  (statusOf settings).coreRiskPool + (statusOf settings).contingencyReserve +
    (statusOf settings).operatingFund

/-- What the call should do to the reported total. -/
def change (settings : Settings) : Op → ℚ
  | .injectPremium amountRupees => amountRupees
  | .withdrawPayout amountRupees =>
      if (perform settings (.withdrawPayout amountRupees)).isOk then -amountRupees else 0

/-- The call moves the reported total by its amount, a refused withdrawal moves nothing, and
no balance becomes negative. -/
structure Conserves (settings : Settings) (op : Op) : Prop where
  total : reportedTotal (step settings op) = reportedTotal settings + change settings op
  refused : (perform settings op).isOk = false → statusOf (step settings op) = statusOf settings
  pool : 0 ≤ (statusOf settings).coreRiskPool → 0 ≤ (statusOf (step settings op)).coreRiskPool
  reserve : 0 ≤ (statusOf settings).contingencyReserve →
    0 ≤ (statusOf (step settings op)).contingencyReserve
  operating : 0 ≤ (statusOf settings).operatingFund →
    0 ≤ (statusOf (step settings op)).operatingFund

/-- The keys that the call reads with a default of its own are there, or it is refused. -/
def Ready (settings : Settings) : Op → Prop
  | .injectPremium _ => Recorded settings POOL_KEY ∧ Recorded settings RESERVE_KEY
  | .withdrawPayout amountRupees =>
      Recorded settings POOL_KEY ∨
        5000000 < (amountRupees : ℚ) ∧ 5000000 + valueOr settings RESERVE_KEY 0 < amountRupees

theorem weights_add : RISK_POOL_WEIGHT + CONTINGENCY_WEIGHT + OPERATING_WEIGHT = 1 := by
  norm_num [RISK_POOL_WEIGHT, CONTINGENCY_WEIGHT, OPERATING_WEIGHT]

theorem shares_add (amountRupees : ℚ) :
    amountRupees * RISK_POOL_WEIGHT + amountRupees * CONTINGENCY_WEIGHT +
      amountRupees * OPERATING_WEIGHT = amountRupees := by
  rw [← mul_add, ← mul_add, weights_add, mul_one]

theorem shares_nonneg (amountRupees : ℚ≥0) :
    0 ≤ (amountRupees : ℚ) * RISK_POOL_WEIGHT ∧ 0 ≤ (amountRupees : ℚ) * CONTINGENCY_WEIGHT ∧
      0 ≤ (amountRupees : ℚ) * OPERATING_WEIGHT := by
  have h : (0 : ℚ) ≤ amountRupees := amountRupees.2
  refine ⟨mul_nonneg h ?_, mul_nonneg h ?_, mul_nonneg h ?_⟩ <;>
    norm_num [RISK_POOL_WEIGHT, CONTINGENCY_WEIGHT, OPERATING_WEIGHT]

/-- How far a default exceeds what is reported of a missing key. -/
theorem valueOr_eq_iff {settings : Settings} {key : String} (fallback : ℚ) (h : 0 < fallback) :
    valueOr settings key fallback = valueOr settings key 0 ↔ Recorded settings key := by
  by_cases hkey : Recorded settings key
  · simp [hkey, valueOr_of_recorded hkey fallback 0]
  · simp [hkey, valueOr_of_not_recorded hkey, h.ne']

theorem valueOr_le {settings : Settings} {key : String} {fallback : ℚ} (h : 0 ≤ fallback) :
    valueOr settings key 0 ≤ valueOr settings key fallback := by
  by_cases hkey : Recorded settings key
  · exact (valueOr_of_recorded hkey 0 fallback).le
  · simpa [valueOr_of_not_recorded hkey] using h

theorem conserves_injectPremium_iff (settings : Settings) (amountRupees : ℚ≥0) :
    Conserves settings (.injectPremium amountRupees) ↔
      Recorded settings POOL_KEY ∧ Recorded settings RESERVE_KEY := by
  obtain ⟨injection, settings', htx, hpool, hreserve, hops, -⟩ :=
    injectTx_spec settings amountRupees
  have hstep : step settings (.injectPremium amountRupees) = settings' := by
    simp [step, perform, injectPremium, htx, Except.map]
  have hok : (perform settings (.injectPremium amountRupees)).isOk = true := by
    simp [perform, injectPremium, htx, Except.map, Except.isOk, Except.toBool]
  have hpoolLe : valueOr settings POOL_KEY 0 ≤ valueOr settings POOL_KEY 5000000 :=
    valueOr_le (by norm_num)
  have hreserveLe : valueOr settings RESERVE_KEY 0 ≤ valueOr settings RESERVE_KEY 1000000 :=
    valueOr_le (by norm_num)
  have hweights := shares_add amountRupees
  have hshares := shares_nonneg amountRupees
  constructor
  · intro h
    have htotal := h.total
    simp only [reportedTotal, statusOf, hstep, hpool, hreserve, hops, change] at htotal
    exact ⟨(valueOr_eq_iff 5000000 (by norm_num)).mp (by linarith),
      (valueOr_eq_iff 1000000 (by norm_num)).mp (by linarith)⟩
  · rintro ⟨hp, hr⟩
    have hpoolEq := valueOr_of_recorded hp 5000000 0
    have hreserveEq := valueOr_of_recorded hr 1000000 0
    constructor
    · simp only [reportedTotal, statusOf, hstep, hpool, hreserve, hops, change]
      linarith
    · intro h
      rw [hok] at h
      cases h
    · intro h
      simp only [statusOf, hstep, hpool] at h ⊢
      linarith
    · intro h
      simp only [statusOf, hstep, hreserve] at h ⊢
      linarith
    · intro h
      simp only [statusOf, hstep, hops] at h ⊢
      linarith

/-- What any withdrawal that goes through does, from whichever balances it is paid. -/
theorem Withdrawn.moved {settings settings' : Settings} {amountRupees : ℚ} {withdrawal : Withdrawal}
    (h : Withdrawn settings amountRupees (.ok (withdrawal, settings'))) :
    (valueOr settings' POOL_KEY 0 + valueOr settings' RESERVE_KEY 0 =
      valueOr settings POOL_KEY 5000000 + valueOr settings RESERVE_KEY 0 - amountRupees) ∧
    valueOr settings' OPERATING_FUND_KEY 0 = valueOr settings OPERATING_FUND_KEY 0 ∧
    0 ≤ valueOr settings' POOL_KEY 0 ∧
    (0 ≤ valueOr settings RESERVE_KEY 0 → 0 ≤ valueOr settings' RESERVE_KEY 0) ∧
    (amountRupees ≤ valueOr settings POOL_KEY 5000000 ∨
      amountRupees ≤ valueOr settings POOL_KEY 5000000 + valueOr settings RESERVE_KEY 0) := by
  cases h with
  | core _ _ covered pool reserve operating kept =>
      refine ⟨?_, operating, ?_, ?_, .inl covered⟩
      · linarith
      · linarith
      · intro h
        linarith
  | mixed _ _ depleted covered pool reserve operating kept =>
      refine ⟨?_, operating, ?_, ?_, .inr covered⟩
      · linarith
      · linarith
      · intro h
        linarith

theorem conserves_of_refused {settings : Settings} {op : Op} {e : Exn}
    (h : perform settings op = .error e) (hchange : change settings op = 0) :
    Conserves settings op := by
  have hstep : step settings op = settings := by
    rw [step, h]
  constructor
  · rw [hstep, hchange, add_zero]
  · intro _
    rw [hstep]
  · rw [hstep]
    exact id
  · rw [hstep]
    exact id
  · rw [hstep]
    exact id

/-- A withdrawal is refused of what is recorded, or beyond every default. -/
theorem Withdrawn.ready {settings : Settings} {amountRupees : ℚ} {e : Exn}
    (h : Withdrawn settings amountRupees (.error e)) : Recorded settings POOL_KEY ∨
      5000000 < amountRupees ∧ 5000000 + valueOr settings RESERVE_KEY 0 < amountRupees := by
  by_cases hp : Recorded settings POOL_KEY
  · exact .inl hp
  · cases h with
    | refused _ short depleted =>
        rw [valueOr_of_not_recorded hp] at short depleted
        exact .inr ⟨depleted, short⟩

/-- A withdrawal that goes through within the default of a pool that has no row. -/
theorem Withdrawn.not_beyond {settings settings' : Settings} {amountRupees : ℚ}
    {withdrawal : Withdrawal} (h : Withdrawn settings amountRupees (.ok (withdrawal, settings')))
    (hp : ¬Recorded settings POOL_KEY) :
    ¬(5000000 < amountRupees ∧ 5000000 + valueOr settings RESERVE_KEY 0 < amountRupees) := by
  obtain ⟨-, -, -, -, hcovered⟩ := h.moved
  rw [valueOr_of_not_recorded hp] at hcovered
  rintro ⟨hdepleted, hshort⟩
  rcases hcovered with hcovered | hcovered
  · linarith
  · linarith

/-- A withdrawal that goes through conserves exactly when the pool has a row. -/
theorem Withdrawn.conserves_iff {settings settings' : Settings} {amountRupees : ℚ≥0}
    {withdrawal : Withdrawal} (h : Withdrawn settings amountRupees (.ok (withdrawal, settings')))
    (hperform : perform settings (.withdrawPayout amountRupees) = .ok settings') :
    Conserves settings (.withdrawPayout amountRupees) ↔ Recorded settings POOL_KEY := by
  obtain ⟨hmoved, hoperating, hpool, hreserve, -⟩ := h.moved
  have hstep : step settings (.withdrawPayout amountRupees) = settings' := by
    rw [step, hperform]
  have hchange : change settings (.withdrawPayout amountRupees) = -amountRupees := by
    simp [change, hperform, Except.isOk, Except.toBool]
  have htotal : reportedTotal settings' = reportedTotal settings + -amountRupees ↔
      Recorded settings POOL_KEY := by
    rw [← valueOr_eq_iff 5000000 (by norm_num)]
    simp only [reportedTotal, statusOf, hoperating]
    constructor
    · intro h
      linarith
    · intro h
      linarith
  constructor
  · intro h
    have htotalEq := h.total
    rw [hstep, hchange] at htotalEq
    exact htotal.mp htotalEq
  · intro hp
    constructor
    · rw [hstep, hchange]
      exact htotal.mpr hp
    · intro hrefused
      rw [hperform] at hrefused
      cases hrefused
    · intro _
      rw [hstep]
      exact hpool
    · rw [hstep]
      exact hreserve
    · rw [hstep]
      intro hops
      exact hops.trans_eq hoperating.symm

/-- A withdrawal that goes through counts the pool in with a default of its own. -/
theorem conserves_withdrawPayout_iff (settings : Settings) (amountRupees : ℚ≥0) :
    Conserves settings (.withdrawPayout amountRupees) ↔ Recorded settings POOL_KEY ∨
      5000000 < (amountRupees : ℚ) ∧ 5000000 + valueOr settings RESERVE_KEY 0 < amountRupees := by
  have hspec := withdrawTx_spec settings amountRupees
  cases htx : withdrawTx settings amountRupees with
  | error e =>
      rw [htx] at hspec
      have hperform : perform settings (.withdrawPayout amountRupees) = .error e := by
        simp [perform, withdrawPayout, htx, Except.map]
      have hchange : change settings (.withdrawPayout amountRupees) = 0 := by
        simp [change, hperform, Except.isOk, Except.toBool]
      exact ⟨fun _ => hspec.ready, fun _ => conserves_of_refused hperform hchange⟩
  | ok outcome =>
      obtain ⟨withdrawal, settings'⟩ := outcome
      rw [htx] at hspec
      have hperform : perform settings (.withdrawPayout amountRupees) = .ok settings' := by
        simp [perform, withdrawPayout, htx, Except.map]
      rw [hspec.conserves_iff hperform]
      constructor
      · exact .inl
      · intro h
        by_contra hp
        exact hspec.not_beyond hp (h.resolve_left hp)

/-- A single call conserves exactly when it is ready, and so does a sequence of calls. -/
theorem along_conserves_iff (settings : Settings) (ops : List Op) :
    Run.Along step Conserves settings ops ↔ Run.Along step Ready settings ops := by
  have hcall : ∀ settings op, Conserves settings op ↔ Ready settings op := by
    intro settings op
    cases op with
    | injectPremium amountRupees => exact conserves_injectPremium_iff settings amountRupees
    | withdrawPayout amountRupees => exact conserves_withdrawPayout_iff settings amountRupees
  exact ⟨Run.Along.mono fun s i => (hcall s i).mp, Run.Along.mono fun s i => (hcall s i).mpr⟩

/-- On a fresh database the first premium brings six million rupees with it, and a withdrawal
pays from a pool that is reported empty. -/
theorem not_along_conserves :
    ¬Run.Along step Conserves .empty [.injectPremium 100] ∧
      ¬Run.Along step Conserves .empty [.withdrawPayout 100] := by
  constructor
  · intro h
    exact absurd h.1.total (by decide +kernel)
  · intro h
    exact absurd h.1.total (by decide +kernel)

/-! ## An initialised ledger -/

theorem recorded_step {settings : Settings} {key : String} (h : Recorded settings key) (op : Op) :
    Recorded (step settings op) key := by
  cases op with
  | injectPremium amountRupees =>
      obtain ⟨injection, settings', htx, -, -, -, hkept⟩ := injectTx_spec settings amountRupees
      simp only [step, perform, injectPremium, htx, Except.map]
      exact hkept key h
  | withdrawPayout amountRupees =>
      have hspec := withdrawTx_spec settings amountRupees
      simp only [step, perform, withdrawPayout]
      cases htx : withdrawTx settings amountRupees with
      | error e => exact h
      | ok outcome =>
          rw [htx] at hspec
          cases hspec with
          | core _ _ covered pool reserve operating kept => exact kept key h
          | mixed _ _ depleted covered pool reserve operating kept => exact kept key h

/-- Once pool and reserve have rows, every sequence of calls conserves. -/
theorem along_conserves {settings : Settings} (hpool : Recorded settings POOL_KEY)
    (hreserve : Recorded settings RESERVE_KEY) (ops : List Op) :
    Run.Along step Conserves settings ops := by
  induction ops generalizing settings with
  | nil => trivial
  | cons op ops ih =>
      refine ⟨?_, ih (recorded_step hpool op) (recorded_step hreserve op)⟩
      cases op with
      | injectPremium amountRupees =>
          exact (conserves_injectPremium_iff settings amountRupees).mpr ⟨hpool, hreserve⟩
      | withdrawPayout amountRupees =>
          exact (conserves_withdrawPayout_iff settings amountRupees).mpr (.inl hpool)

end Aegis.LiquidityPool
