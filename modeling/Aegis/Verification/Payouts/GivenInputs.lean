import Aegis.Verification.Insurance.Deductible
import Aegis.Verification.Payouts.Amounts
import Aegis.Verification.Premium.Cover

/-! # The inputs of the payout formula

`calculatePayout` reads a zero as an input that was not given: the earnings then come from
the driver's profile, the loss fraction from the zone the driver was last seen in. -/

namespace Aegis.PayoutService

open Outcome RedisState InsuranceService

section Given

variable (io : CalculateIo) (s : System) (driverId : String) (Ct : Option ℚ)

/-- The call with both inputs supplied. -/
def calculateGiven (Ew Lf : ℚ) : Except Exn PayoutCalculation :=
  calculatePayout io s ⟨driverId, some Ew, some Lf, Ct⟩

/-- The call computes with its inputs, gives nothing when one of them is nothing, and no more
than for larger inputs. -/
structure FromGiven (Ew Lf : ℚ) : Prop where
  used : ∃ calculation, calculateGiven io s driverId Ct Ew Lf = .ok calculation ∧
    calculation.Ew = Ew ∧ calculation.Lf = Lf
  zero : Ew = 0 ∨ Lf = 0 → ∀ calculation,
    calculateGiven io s driverId Ct Ew Lf = .ok calculation → calculation.payoutAmount = 0
  mono : ∀ Ew' Lf', Ew ≤ Ew' → Lf ≤ Lf' → ∀ calculation calculation',
    calculateGiven io s driverId Ct Ew Lf = .ok calculation →
      calculateGiven io s driverId Ct Ew' Lf' = .ok calculation' →
        calculation.payoutAmount ≤ calculation'.payoutAmount

/-- A zero is what the store in its place holds too. -/
structure Supplied (Ew Lf : ℚ) : Prop where
  earnings : Ew = 0 → io.profile.weeklyEarningsTotal.getD 0 = 0
  loss : Lf = 0 → driverLf io s.redis driverId = 0

end Given

/-! ## The amount -/

theorem amountDue_mono {Ew Ew' Lf Lf' Ct : ℚ} (deductible : ℚ) (hCt : 0 ≤ Ct) (hEw : 0 ≤ Ew)
    (hLf : 0 ≤ Lf) (hEw' : Ew ≤ Ew') (hLf' : Lf ≤ Lf') :
    amountDue Ew Lf Ct deductible ≤ amountDue Ew' Lf' Ct deductible := by
  have hfactor : 0 ≤ Ew' / 7 * Ct := mul_nonneg (by linarith) hCt
  have hgross : Ew / 7 * Ct * Lf ≤ Ew' / 7 * Ct * Lf' := by gcongr
  have hnet : max 0 (Ew / 7 * Ct * Lf - deductible) ≤ max 0 (Ew' / 7 * Ct * Lf' - deductible) :=
    max_le_max le_rfl (sub_le_sub_right hgross _)
  rw [amountDue, amountDue, toFixed2_of_nonneg (le_max_left _ _),
    toFixed2_of_nonneg (le_max_left _ _)]
  have hround : Number.mathRound (max 0 (Ew / 7 * Ct * Lf - deductible) * 100) ≤
      Number.mathRound (max 0 (Ew' / 7 * Ct * Lf' - deductible) * 100) :=
    Int.floor_mono (by linarith)
  have hcast : (Number.mathRound (max 0 (Ew / 7 * Ct * Lf - deductible) * 100) : ℚ) ≤
      Number.mathRound (max 0 (Ew' / 7 * Ct * Lf' - deductible) * 100) := by exact_mod_cast hround
  linarith

theorem amountDue_of_zero {Ew Lf Ct deductible : ℚ} (hdeductible : 0 ≤ deductible)
    (h : Ew = 0 ∨ Lf = 0) : amountDue Ew Lf Ct deductible = 0 := by
  rw [amountDue_eq_zero]
  rcases h with rfl | rfl
  · linarith [zero_div (7 : ℚ)]
  · linarith

theorem ctForPlan_nonneg {plan : Option String} {Ct : ℚ} (h : ctForPlan plan = some Ct) :
    0 ≤ Ct := by
  rcases PremiumService.ctForPlan_cases h with rfl | rfl | rfl | rfl
  · norm_num
  · norm_num
  · norm_num
  · norm_num

/-! ## The condition -/

section Condition

variable {io : CalculateIo} {s : System} {driverId : String} {given : Option ℚ} {policy : Policy}
  {Ew Lf : ℚ}

theorem givenOr_eq_self {given fallback : ℚ} :
    givenOr given fallback = given ↔ (given = 0 → fallback = 0) := by
  rw [givenOr]
  split
  · rename_i h
    simp [h]
  · rename_i h
    simp [h]

/-- What the call computes with. -/
theorem calculateGiven_eq_ok {calculation : PayoutCalculation} {Ct : ℚ}
    (hread : io.readPolicy = true) (hpolicy : activePolicy io.now s.db driverId = some policy)
    (hCt : ctForPlan (some policy.planType) = some Ct)
    (h : calculateGiven io s driverId given Ew Lf = .ok calculation) :
    calculation.Ew = givenOr Ew (io.profile.weeklyEarningsTotal.getD 0) ∧
      calculation.Lf = givenOr Lf (driverLf io s.redis driverId) ∧
      calculation.payoutAmount = amountDue calculation.Ew calculation.Lf Ct
        (resolveDeductible (some policy.planType)) := by
  simp only [calculateGiven, calculatePayout, hread, hpolicy, hCt, require, orThrow, if_true,
    ok_bind, pure_eq, Except.ok.injEq] at h
  subst h
  exact ⟨rfl, rfl, rfl⟩

theorem exists_calculateGiven {Ct : ℚ} (hread : io.readPolicy = true)
    (hpolicy : activePolicy io.now s.db driverId = some policy)
    (hCt : ctForPlan (some policy.planType) = some Ct) (Ew Lf : ℚ) :
    ∃ calculation, calculateGiven io s driverId given Ew Lf = .ok calculation := by
  simp only [calculateGiven, calculatePayout, hread, hpolicy, hCt, require, orThrow, if_true,
    ok_bind, pure_eq]
  exact ⟨_, rfl⟩

/-- Larger inputs than supplied ones are supplied. -/
theorem Supplied.mono {Ew' Lf' : ℚ} (h : Supplied io s driverId Ew Lf) (hEw : 0 ≤ Ew)
    (hLf : 0 ≤ Lf) (hEw' : Ew ≤ Ew') (hLf' : Lf ≤ Lf') : Supplied io s driverId Ew' Lf' where
  earnings hzero := h.earnings (le_antisymm (hEw'.trans_eq hzero) hEw)
  loss hzero := h.loss (le_antisymm (hLf'.trans_eq hzero) hLf)

/-- The formula is about the inputs of the call exactly when no zero stands for a value that
is on record. -/
theorem fromGiven_iff {Ct : ℚ} (hread : io.readPolicy = true)
    (hpolicy : activePolicy io.now s.db driverId = some policy)
    (hCt : ctForPlan (some policy.planType) = some Ct) (hEw : 0 ≤ Ew) (hLf : 0 ≤ Lf) :
    FromGiven io s driverId given Ew Lf ↔ Supplied io s driverId Ew Lf := by
  constructor
  · intro h
    obtain ⟨calculation, hcall, husedEw, husedLf⟩ := h.used
    obtain ⟨hcalculatedEw, hcalculatedLf, -⟩ := calculateGiven_eq_ok hread hpolicy hCt hcall
    exact ⟨givenOr_eq_self.mp (hcalculatedEw.symm.trans husedEw),
      givenOr_eq_self.mp (hcalculatedLf.symm.trans husedLf)⟩
  · intro h
    have hused : ∀ {Ew Lf : ℚ} {calculation : PayoutCalculation},
        Supplied io s driverId Ew Lf →
          calculateGiven io s driverId given Ew Lf = .ok calculation →
          calculation.Ew = Ew ∧ calculation.Lf = Lf ∧
            calculation.payoutAmount =
              amountDue Ew Lf Ct (resolveDeductible (some policy.planType)) := by
      intro Ew Lf calculation hsupplied hcall
      obtain ⟨hcalculatedEw, hcalculatedLf, hamount⟩ :=
        calculateGiven_eq_ok hread hpolicy hCt hcall
      rw [givenOr_eq_self.mpr hsupplied.earnings] at hcalculatedEw
      rw [givenOr_eq_self.mpr hsupplied.loss] at hcalculatedLf
      rw [hcalculatedEw, hcalculatedLf] at hamount
      exact ⟨hcalculatedEw, hcalculatedLf, hamount⟩
    refine ⟨?_, ?_, ?_⟩
    · obtain ⟨calculation, hcall⟩ := exists_calculateGiven hread hpolicy hCt Ew Lf
      obtain ⟨husedEw, husedLf, -⟩ := hused h hcall
      exact ⟨calculation, hcall, husedEw, husedLf⟩
    · intro hzero calculation hcall
      obtain ⟨-, -, hamount⟩ := hused h hcall
      rw [hamount]
      exact amountDue_of_zero (resolveDeductible_nonneg _) hzero
    · intro Ew' Lf' hEw' hLf' calculation calculation' hcall hcall'
      obtain ⟨-, -, hamount⟩ := hused h hcall
      obtain ⟨-, -, hamount'⟩ := hused (h.mono hEw hLf hEw' hLf') hcall'
      rw [hamount, hamount']
      exact amountDue_mono _ (ctForPlan_nonneg hCt) hEw hLf hEw' hLf'

end Condition

/-! ## A zero on the standard plan -/

namespace Standard

open Payouts Payouts.Ungated

/-- The driver of the standard plan earned seven thousand rupees, in a zone at 80 percent. -/
def standardIo : CalculateIo where
  now := noon.now
  readPolicy := true
  redisUp := true
  profile := { weeklyEarningsTotal := some 7000 }

end Standard

open Standard Payouts.Priced in
/-- Half a loss on fourteen thousand rupees is paid on as it is given. -/
theorem fromGiven_half : FromGiven standardIo halted "u1" none 14000 (1 / 2) := by
  have hpolicy : (activePolicy standardIo.now halted.db "u1").map Policy.planType =
      some "STANDARD" := by decide
  obtain ⟨policy, hpolicy, hplan⟩ := Option.map_eq_some_iff.mp hpolicy
  have hCt : ctForPlan (some policy.planType) = some (6 / 10) := by
    rw [hplan]
    decide +kernel
  exact (fromGiven_iff rfl hpolicy hCt (by norm_num) (by norm_num)).mpr
    ⟨fun h => absurd h (by norm_num), fun h => absurd h (by norm_num)⟩

open Standard Payouts.Priced in
/-- No loss at all pays 280 rupees, where a tenth of a loss pays nothing. -/
theorem not_fromGiven_zero : ¬FromGiven standardIo halted "u1" none 7000 0 := by
  intro h
  have hamount : ((calculateGiven standardIo halted "u1" none 7000 0).toOption.map
      PayoutCalculation.payoutAmount) = some 280 := by decide +kernel
  obtain ⟨calculation, hcall, -, -⟩ := h.used
  have hzero := h.zero (.inr rfl) calculation hcall
  rw [hcall] at hamount
  simp [Except.toOption, hzero] at hamount

end Aegis.PayoutService
