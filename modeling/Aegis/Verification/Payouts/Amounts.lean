import Aegis.Verification.Payouts.Authorisation

/-! # Amounts and the payout formula

Drivers send requests whose bodies name amounts; each transfer is compared with what
`calculatePayout` gives for the driver at that moment. -/

namespace Aegis.Payouts

open Outcome RedisState Payments PayoutService PayoutEndpoints

/-! ## Requests of drivers -/

/-- The requests of a driver's token, and the turns of the retry queue. -/
inductive DriverRequest where
  | process (driver : String) (dto : PayoutProcessRequestDto)
  | parametricPayout (driver : String) (body : ParametricPayoutRequest)
  | initiate (driver : String) (dto : PayoutInitiateDto)
  | retry (processed : ℕ)

def token (driver : String) : Principal := ⟨driver, .DRIVER⟩

def DriverRequest.toRequest : DriverRequest → Option Request
  | process driver dto =>
      match resolveAuthorizedDriverId (token driver) dto.driverId with
      | .ok driverId => some (.processPayout (dto.params driverId))
      | .error _ => none
  | parametricPayout driver body => some (.parametricPayout (token driver) body)
  | initiate driver dto => some (.initiate (token driver) dto)
  | retry processed => some (.retry processed)

/-- A request, the moment it is served, the platform's profiles then, and its operations. -/
structure Served where
  request : DriverRequest
  moment : Moment
  profile : String → DriverProfile
  io : CallIo

section Runs

variable (cfg : PayoutService.Config)

def serveDriver (s : System) (i : Served) : System :=
  match i.request.toRequest with
  | some r => serve cfg i.moment i.io s r
  | none => s

/-- `POST /payout/process` is the corresponding request, or is refused. -/
theorem serveDriver_process (s : System) (i : Served) {driver : String}
    {dto : PayoutProcessRequestDto} (h : i.request = .process driver dto) :
    serveDriver cfg s i = (process cfg (i.io.process i.moment) (token driver) dto s).2 := by
  unfold serveDriver process
  rw [h]
  simp only [DriverRequest.toRequest]
  cases resolveAuthorizedDriverId (token driver) dto.driverId with
  | ok driverId => rfl
  | error e => rfl

/-! ## The property -/

/-- What `calculatePayout` gives for the driver at the moment of the request. -/
def formula (s : System) (i : Served) (driverId : String) : Except Exn PayoutCalculation :=
  calculatePayout ⟨i.moment.now, true, i.moment.redisUp, i.profile driverId⟩ s { driverId }

/-- The driver's formula covers the amount. -/
def Covers (s : System) (i : Served) (driverId : String) (paise : ℤ) : Prop :=
  ∃ calculation, formula s i driverId = .ok calculation ∧
    (paise : ℚ) ≤ 100 * calculation.payoutAmount

instance (s : System) (i : Served) (driverId : String) (paise : ℤ) :
    Decidable (Covers s i driverId paise) :=
  match h : formula s i driverId with
  | .ok calculation =>
      decidable_of_iff ((paise : ℚ) ≤ 100 * calculation.payoutAmount) (by simp [Covers, h])
  | .error e => .isFalse (by simp [Covers, h])

/-- Every transfer that the request adds is covered by its driver's formula. -/
def WithinFormula (s : System) (i : Served) : Prop :=
  ∀ t ∈ (serveDriver cfg s i).transfers.drop s.transfers.length, Covers s i t.userId t.amountPaise

instance (s : System) (i : Served) : Decidable (WithinFormula cfg s i) :=
  inferInstanceAs (Decidable (∀ t ∈ _, _))

/-! ## The condition -/

/-- The amount that the settlement of the request asks for, if it is payable, is covered. -/
def Priced (s : System) (i : Served) : Prop :=
  ∀ r dto s', i.request.toRequest = some r → settles cfg i.moment i.io s r = some (dto, s') →
    Payable cfg.toConfig dto s'.db → Covers s i dto.userId (amountPaise dto.approvedPayout)

variable {cfg} {s : System} {i : Served}

/-- What a request adds belongs to a payable settlement of it. -/
theorem added_transfer {r : Request} {moment : Moment} {io : CallIo} {t : Transfer}
    (ht : t ∈ (serve cfg moment io s r).transfers.drop s.transfers.length) :
    ∃ dto s', settles cfg moment io s r = some (dto, s') ∧ Payable cfg.toConfig dto s'.db ∧
      OwnTransfer dto t := by
  have hmoved : (serve cfg moment io s r).transfers ≠ s.transfers := by
    intro h
    rw [h, List.drop_length] at ht
    cases ht
  obtain ⟨dto, s', hsettles, hpayable⟩ := payable_of_serve hmoved
  refine ⟨dto, s', hsettles, hpayable, ?_⟩
  rw [serve_transfers, hsettles] at ht
  dsimp only at ht
  obtain ⟨executed, htransfers, hown⟩ :=
    exists_executed cfg.toConfig io.settle dto s'.toWorld
  rw [htransfers, settles_transfers hsettles, List.drop_left] at ht
  exact hown t ht

theorem withinFormula_of_priced (h : Priced cfg s i) : WithinFormula cfg s i := by
  intro t ht
  unfold serveDriver at ht
  cases hrequest : i.request.toRequest with
  | none => simp [hrequest] at ht
  | some r =>
      rw [hrequest] at ht
      obtain ⟨dto, s', hsettles, hpayable, hown⟩ := added_transfer ht
      rw [hown.userId, hown.amount]
      exact h r dto s' hrequest hsettles hpayable

/-- Whatever drivers ask for, transfers stay within the formula while the amounts of payable
settlements do. -/
theorem along_withinFormula {requests : List Served}
    (h : Run.Along (serveDriver cfg) (Priced cfg) s requests) :
    Run.Along (serveDriver cfg) (WithinFormula cfg) s requests :=
  h.mono fun _ _ => withinFormula_of_priced

/-- Whether or not the settlement is payable. -/
theorem priced_of_settles
    (h : ∀ r ∈ i.request.toRequest, ∀ settlement ∈ settles cfg i.moment i.io s r,
      Covers s i settlement.1.userId (amountPaise settlement.1.approvedPayout)) :
    Priced cfg s i :=
  fun r dto s' hrequest hsettles _ => h r hrequest (dto, s') hsettles

/-- The condition is exact: if no behaviour of the other operations makes the request exceed
the formula, it is priced. -/
theorem priced_of_withinFormula (h : ∀ io, WithinFormula cfg s { i with io }) :
    Priced cfg s i := by
  intro r dto s' hrequest hsettles hpayable
  obtain ⟨io, hsame, hmoved⟩ := exists_serve_of_payable hsettles hpayable
  obtain ⟨executed, htransfers, hown⟩ := exists_executed cfg.toConfig io.settle dto s'.toWorld
  have hserve : (serve cfg i.moment io s r).transfers = s.transfers ++ executed := by
    rw [serve_transfers, hsame, ← settles_transfers hsame]
    exact htransfers
  have hwithin := h io
  simp only [WithinFormula, serveDriver, hrequest, hserve, List.drop_left] at hwithin
  cases executed with
  | nil => exact absurd (by rw [hserve, List.append_nil]) hmoved
  | cons t rest =>
      have ht := hwithin t (by simp)
      rw [(hown t (by simp)).userId, (hown t (by simp)).amount] at ht
      exact ht

end Runs

/-! ## A driver on the standard plan -/

namespace Priced

open Payments.Sample Ungated

/-- The policy's zone is known and halted. -/
def halted : System where
  db := db
  redis :=
    { policies := setEx (fun _ => none) 7200000 POLICY_STATE_TTL "p1"
        { zone := some "8860145b5dfffff" }
      zones := setEx (fun _ => none) 7200000 ZONE_STATE_TTL "8860145b5dfffff"
        { Lf := some (8 / 10), zone_state := some "HALTED" }
      drivers := setEx (fun _ => none) 7200000 DRIVER_STATE_TTL "u1"
        { last_location := some { h3_cell := some "8860145b5dfffff" } } }

/-- Seven thousand rupees a week: the formula gives 280 rupees at a loss of 80 percent. -/
def serving (request : DriverRequest) : Served where
  request := request
  moment := noon
  profile _ := { weeklyEarningsTotal := some 7000 }
  io := callIo

def asking (payoutAmount : ℚ) : Served :=
  serving (.process "u1" { driverId := "u1", payoutAmount := some payoutAmount })

end Priced

open Priced Ungated in
/-- Four hundred rupees less the deductible are within the formula, and are paid once. -/
theorem along_withinFormula_asking :
    Run.Along (serveDriver config) (WithinFormula config) halted [asking 400, asking 400] :=
  along_withinFormula ⟨priced_of_settles (by decide +kernel), priced_of_settles (by decide +kernel),
    trivial⟩

open Priced Ungated in
/-- A driver asks for eight hundred rupees and is paid them. -/
theorem not_along_withinFormula :
    ¬ Run.Along (serveDriver config) (WithinFormula config) halted
      [serving (.parametricPayout "u1" body)] := by
  decide +kernel

end Aegis.Payouts
