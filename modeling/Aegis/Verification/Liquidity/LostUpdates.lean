import Aegis.Verification.Liquidity.Conservation

/-! # Lost updates

Overlapping ledger transactions keep the books as long as none of them reads a balance that
another live one has read: they then have the effect of a serial run. -/

namespace Aegis.LiquidityPool

open Outcome Transactions

/-! ## A transaction that runs alone -/

theorem overlay_put {settings settings' : Settings} {key : String} {value : ℚ}
    {writes : Writes String ℚ} {settings₀ : Settings}
    (hwrites : overlay (view settings₀) writes = view settings)
    (h : put settings key value = .ok settings') :
    overlay (view settings₀) ((key, value) :: writes) = view settings' := by
  funext key'
  have hkey' := congrFun hwrites key'
  have hview : view settings' key' = if key' = key then some value else view settings key' := by
    simp only [view, findUnique_put h]
    split <;> rfl
  simp only [overlay, lookup_cons] at hkey' ⊢
  rw [hview]
  by_cases hkey : key = key'
  · simp [hkey]
  · rw [if_neg hkey, if_neg fun h => hkey h.symm, hkey']

theorem getD_overlay {settings settings₀ : Settings} {writes : Writes String ℚ}
    (hwrites : overlay (view settings₀) writes = view settings) (key : String) (fallback : ℚ) :
    (overlay (view settings₀) writes key).getD fallback = valueOr settings key fallback := by
  rw [hwrites]
  rfl

theorem eval_injectProgram (settings : Settings) (amountRupees : ℚ) :
    ∃ writes injection settings',
      eval (view settings) (injectProgram amountRupees) [] = some writes ∧
      injectTx settings amountRupees = .ok (injection, settings') ∧
      overlay (view settings) writes = view settings' := by
  have hstart : overlay (view settings) [] = view settings := rfl
  obtain ⟨s₁, s₂, s₃, h₁, h₂, h₃, htx⟩ := exists_injectTx settings amountRupees
  have hover₁ := overlay_put hstart h₁
  have hover₂ := overlay_put hover₁ h₂
  have hover₃ := overlay_put hover₂ h₃
  refine ⟨_, _, s₃, ?_, htx, hover₃⟩
  simp only [injectProgram, addTo, eval, getD_overlay hstart, getD_overlay hover₁,
    getD_overlay hover₂]

theorem eval_withdrawProgram {settings : Settings} {amountRupees : ℚ} {writes : Writes String ℚ}
    (h : eval (view settings) (withdrawProgram amountRupees) [] = some writes) :
    ∃ withdrawal settings', withdrawTx settings amountRupees = .ok (withdrawal, settings') ∧
      overlay (view settings) writes = view settings' := by
  have hstart : overlay (view settings) [] = view settings := rfl
  simp only [withdrawProgram, eval, getD_overlay hstart] at h
  by_cases hpool : valueOr settings POOL_KEY 5000000 < amountRupees
  · rw [if_pos hpool] at h
    simp only [eval, getD_overlay hstart] at h
    by_cases hshort :
        valueOr settings POOL_KEY 5000000 + valueOr settings RESERVE_KEY 0 < amountRupees
    · rw [if_pos hshort] at h
      cases h
    · rw [if_neg hshort] at h
      cases h
      obtain ⟨s₁, s₂, h₁, h₂, htx⟩ := exists_withdrawTx_mixed hpool hshort
      exact ⟨_, s₂, htx, overlay_put (overlay_put hstart h₁) h₂⟩
  · rw [if_neg hpool] at h
    cases h
    obtain ⟨s₁, h₁, htx⟩ := exists_withdrawTx_core hpool
    exact ⟨_, s₁, htx, overlay_put hstart h₁⟩

/-- Alone, the statements of a transaction that commits have the effect of the whole call. -/
theorem perform_of_eval {settings : Settings} {op : Op} {writes : Writes String ℚ}
    (h : eval (view settings) op.program [] = some writes) :
    ∃ settings', perform settings op = .ok settings' ∧
      overlay (view settings) writes = view settings' := by
  cases op with
  | injectPremium amountRupees =>
      obtain ⟨writes', injection, settings', heval, htx, hover⟩ :=
        eval_injectProgram settings amountRupees
      have hwrites : some writes = some writes' := h.symm.trans heval
      cases hwrites
      exact ⟨settings', by simp [perform, injectPremium, htx, Except.map], hover⟩
  | withdrawPayout amountRupees =>
      obtain ⟨withdrawal, settings', htx, hover⟩ := eval_withdrawProgram h
      exact ⟨settings', by simp [perform, withdrawPayout, htx, Except.map], hover⟩

theorem readsFirst_program (op : Op) : ReadsFirst [] op.program := by
  cases op with
  | injectPremium amountRupees =>
      refine fun _ => ⟨by simp, fun _ => ⟨by simp, fun _ => ⟨by simp, trivial⟩⟩⟩
  | withdrawPayout amountRupees =>
      intro currentPool
      dsimp only
      split
      · intro currentReserve
        dsimp only
        split
        · trivial
        · exact ⟨by simp, by simp, trivial⟩
      · exact ⟨by simp, trivial⟩

/-! ## The books -/

/-- All keys have a row, and what claims are paid from is not in debt. -/
structure Initialised (settings : Settings) : Prop where
  pool : Recorded settings POOL_KEY
  reserve : Recorded settings RESERVE_KEY
  operating : Recorded settings OPERATING_FUND_KEY
  poolNonneg : 0 ≤ valueOr settings POOL_KEY 0
  reserveNonneg : 0 ≤ valueOr settings RESERVE_KEY 0

def balance (store : Store String ℚ) (key : String) : ℚ := (store key).getD 0

/-- What withdrawals can draw on. -/
def riskCapital (store : Store String ℚ) : ℚ := balance store POOL_KEY + balance store RESERVE_KEY

def total (store : Store String ℚ) : ℚ := riskCapital store + balance store OPERATING_FUND_KEY

def Op.injected : Op → ℚ
  | .injectPremium amountRupees => amountRupees
  | .withdrawPayout _ => 0

def Op.withdrawn : Op → ℚ
  | .injectPremium _ => 0
  | .withdrawPayout amountRupees => amountRupees

def injected (ops : List Op) : ℚ := (ops.map Op.injected).sum

def withdrawn (ops : List Op) : ℚ := (ops.map Op.withdrawn).sum

/-- The ledger holds what it held, what was injected and not what was withdrawn, and no more
was withdrawn than was there to be drawn on. -/
structure Balanced {τ : Type} (ops : τ → Op) (store₀ : Store String ℚ)
    (s : State String ℚ τ) : Prop where
  total : total s.store =
    total store₀ + injected (s.log.map ops) - withdrawn (s.log.map ops)
  covered : withdrawn (s.log.map ops) ≤
    riskCapital store₀ + injected (s.log.map ops) * (RISK_POOL_WEIGHT + CONTINGENCY_WEIGHT)

/-- A call that returns on an initialised ledger keeps the books. -/
theorem Initialised.perform {settings settings' : Settings} {op : Op} (h : Initialised settings)
    (hop : perform settings op = .ok settings') :
    Initialised settings' ∧
      riskCapital (view settings') = riskCapital (view settings) +
        op.injected * (RISK_POOL_WEIGHT + CONTINGENCY_WEIGHT) - op.withdrawn ∧
      total (view settings') = total (view settings) + op.injected - op.withdrawn := by
  have hpoolDefault := valueOr_of_recorded h.pool 5000000 0
  have hreserveDefault := valueOr_of_recorded h.reserve 1000000 0
  have hstep : step settings op = settings' := by
    rw [step, hop]
  have hkept : ∀ key, Recorded settings key → Recorded settings' key := fun key hkey =>
    hstep ▸ recorded_step hkey op
  have hbalance : ∀ settings key, balance (view settings) key = valueOr settings key 0 :=
    fun _ _ => rfl
  cases op with
  | injectPremium amountRupees =>
      obtain ⟨injection, settings'', htx, hpool, hreserve, hops, -⟩ :=
        injectTx_spec settings amountRupees
      have hsame : settings'' = settings' := by
        simpa [LiquidityPool.perform, injectPremium, htx, Except.map] using hop
      subst hsame
      have hweights := shares_add amountRupees
      obtain ⟨hrisk, hcontingency, -⟩ := shares_nonneg amountRupees
      refine ⟨⟨hkept _ h.pool, hkept _ h.reserve, hkept _ h.operating, ?_, ?_⟩, ?_, ?_⟩
      · linarith [h.poolNonneg]
      · linarith [h.reserveNonneg]
      · simp only [riskCapital, hbalance, Op.injected, Op.withdrawn]
        linarith
      · simp only [total, riskCapital, hbalance, Op.injected, Op.withdrawn]
        linarith
  | withdrawPayout amountRupees =>
      have hspec := withdrawTx_spec settings amountRupees
      cases htx : withdrawTx settings amountRupees with
      | error e => simp [LiquidityPool.perform, withdrawPayout, htx, Except.map] at hop
      | ok outcome =>
          obtain ⟨withdrawal, settings''⟩ := outcome
          rw [htx] at hspec
          have hsame : settings'' = settings' := by
            simpa [LiquidityPool.perform, withdrawPayout, htx, Except.map] using hop
          subst hsame
          obtain ⟨hmoved, hoperating, hpool, hreserve, -⟩ := hspec.moved
          refine ⟨⟨hkept _ h.pool, hkept _ h.reserve, hkept _ h.operating, hpool,
            hreserve h.reserveNonneg⟩, ?_, ?_⟩
          · simp only [riskCapital, hbalance, Op.injected, Op.withdrawn]
            linarith
          · simp only [total, riskCapital, hbalance, Op.injected, Op.withdrawn]
            linarith

theorem injected_append (ops : List Op) (op : Op) :
    injected (ops ++ [op]) = injected ops + op.injected := by
  simp [injected]

theorem withdrawn_append (ops : List Op) (op : Op) :
    withdrawn (ops ++ [op]) = withdrawn ops + op.withdrawn := by
  simp [withdrawn]

/-- A serial run of committed calls keeps the books. -/
theorem Initialised.serial {τ : Type} {settings : Settings} (h : Initialised settings)
    {ops : τ → Op} {log : List τ} {store : Store String ℚ}
    (hserial : Serial (fun t => (ops t).program) (view settings) log store) :
    ∃ settings', store = view settings' ∧ Initialised settings' ∧
      riskCapital store = riskCapital (view settings) +
        injected (log.map ops) * (RISK_POOL_WEIGHT + CONTINGENCY_WEIGHT) -
          withdrawn (log.map ops) ∧
      total store = total (view settings) + injected (log.map ops) - withdrawn (log.map ops) := by
  induction hserial with
  | nil => exact ⟨settings, rfl, h, by simp [injected, withdrawn], by simp [injected, withdrawn]⟩
  | snoc log t before writes replayed commits ih =>
      obtain ⟨settings', rfl, hinit, hrisk, htotal⟩ := ih
      obtain ⟨settings'', hperform, hover⟩ := perform_of_eval commits
      obtain ⟨hinit', hrisk', htotal'⟩ := hinit.perform hperform
      refine ⟨settings'', hover, hinit', ?_, ?_⟩
      · rw [hover, hrisk', hrisk]
        simp only [List.map_append, List.map_cons, List.map_nil, injected_append,
          withdrawn_append]
        linarith
      · rw [hover, htotal', htotal]
        simp only [List.map_append, List.map_cons, List.map_nil, injected_append,
          withdrawn_append]
        linarith

/-- Any number of overlapping transactions, as long as each read finds its key unread. -/
theorem always_balanced {τ : Type} [DecidableEq τ] {settings : Settings}
    (hinit : Initialised settings) (ops : τ → Op) {schedule : List τ}
    (halone : Run.Along State.step State.ReadsAlone
      (start (view settings) fun t => (ops t).program) schedule) :
    Run.Always State.step (Balanced ops (view settings))
      (start (view settings) fun t => (ops t).program) schedule := by
  refine (always_serial (fun t => readsFirst_program (ops t)) halone).mono ?_
  intro s hserial
  obtain ⟨settings', hstore, hinit', hrisk, htotal⟩ := hinit.serial hserial
  refine ⟨htotal, ?_⟩
  have hnonneg : 0 ≤ riskCapital s.store := by
    rw [hstore]
    exact add_nonneg hinit'.poolNonneg hinit'.reserveNonneg
  linarith

/-! ## Two payouts at once -/

namespace Overlap

def settings : Settings :=
  ⟨[⟨POOL_KEY, 1000⟩, ⟨RESERVE_KEY, 500⟩, ⟨OPERATING_FUND_KEY, 0⟩], by decide⟩

def ops : Bool → Op
  | false => .injectPremium 100
  | true => .withdrawPayout 600

/-- The withdrawal waits for the end of the injection. -/
def inTurn : List Bool := List.replicate 7 false ++ List.replicate 3 true

def bothWithdraw : Bool → Op := fun _ => .withdrawPayout 600

/-- Both read the pool before either of them commits. -/
def crossed : List Bool := [false, true, false, false, true, true]

end Overlap

open Overlap in
theorem always_balanced_inTurn :
    Run.Always State.step (Balanced ops (view settings))
      (start (view settings) fun t => (ops t).program) inTurn := by
  refine always_balanced ⟨?_, ?_, ?_, ?_, ?_⟩ ops ?_ <;> decide +kernel

open Overlap in
/-- Two payouts of 600 rupees leave 400 of 1000 in the pool: the first is lost. -/
theorem not_always_balanced :
    ¬Run.Always State.step (Balanced bothWithdraw (view settings))
      (start (view settings) fun t => (bothWithdraw t).program) crossed := by
  intro h
  exact absurd h.last.total (by decide +kernel)

end Aegis.LiquidityPool
