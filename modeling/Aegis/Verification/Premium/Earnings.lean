import Aegis.Model.DriverFactory
import Mathlib.Algebra.Order.BigOperators.Group.List
import Mathlib.Data.List.Forall2

/-! # Weekly earnings

Every amount is a whole number of paise, so the roundings of the running totals do nothing. -/

namespace Aegis.DynamicQCommerce

open Aegis.Action

/-! ## Paise -/

/-- A whole number of hundredths. -/
def Paise (q : ℚ) : Prop := ∃ n : ℤ, q = n / 100

theorem paise_formatCurrency (q : ℚ) : Paise (formatCurrency q) := ⟨_, rfl⟩

theorem Paise.zero : Paise 0 := ⟨0, by norm_num⟩

theorem paise_intCast (n : ℤ) : Paise n := ⟨n * 100, by push_cast; ring⟩

theorem Paise.add {p q : ℚ} (hp : Paise p) (hq : Paise q) : Paise (p + q) := by
  obtain ⟨m, rfl⟩ := hp
  obtain ⟨n, rfl⟩ := hq
  exact ⟨m + n, by push_cast; ring⟩

theorem Paise.sub {p q : ℚ} (hp : Paise p) (hq : Paise q) : Paise (p - q) := by
  obtain ⟨m, rfl⟩ := hp
  obtain ⟨n, rfl⟩ := hq
  exact ⟨m - n, by push_cast; ring⟩

/-- What is in paise already is not rounded. -/
theorem Paise.formatCurrency_eq {q : ℚ} (h : Paise q) : formatCurrency q = q := by
  obtain ⟨n, rfl⟩ := h
  rw [formatCurrency, div_mul_cancel₀ _ (by norm_num : (100 : ℚ) ≠ 0), Number.mathRound_intCast]

/-! ## Draws -/

section Draws

variable {R : Type} (stream : RandomStream R) {bad : Prop}

/-- Whatever the source, a draw that returns satisfies `P`, and one that fails shows `bad`. -/
abbrev Draws {α : Type} (bad : Prop) (m : Draw R α) (P : α → Prop) : Prop :=
  Triple (fun _ => True) m (fun a _ => P a) fun _ => bad

theorem draws_pure {α : Type} {a : α} {P : α → Prop} (h : P a) :
    Draws bad (pure a : Draw R α) P := Triple.pure fun _ _ => h

theorem Draws.bind {α β : Type} {m : Draw R α} {f : α → Draw R β} {P : α → Prop} {Q : β → Prop}
    (h : Draws bad m P) (hf : ∀ a, P a → Draws bad (f a) Q) : Draws bad (m >>= f) Q :=
  Triple.bind (h.post fun _ _ ha => ⟨ha, trivial⟩) fun a => Triple.intro (hf a)

theorem draws_nextFloat : Draws bad (nextFloat stream) fun f => 0 ≤ f ∧ f < 1 := by
  constructor
  · intro random f random' _ h
    cases h
    exact ⟨stream.nonneg random, stream.lt_one random⟩
  · intro random e random' _ h
    cases h

/-- A whole number within the bounds, or the lower one where they cross. -/
theorem draws_nextInt (min max : ℤ) :
    Draws bad (nextInt stream min max) fun n => min ≤ n ∧ (min ≤ max → n ≤ max) := by
  refine Triple.ite (fun h => draws_pure ⟨le_rfl, fun _ => by omega⟩) fun h => ?_
  refine (draws_nextFloat stream).bind fun f hf => draws_pure ?_
  have hrange : (0 : ℚ) < (max - min + 1 : ℤ) := by exact_mod_cast (by omega)
  have hlow : 0 ≤ ⌊f * (max - min + 1 : ℤ)⌋ := Int.floor_nonneg.mpr (mul_nonneg hf.1 hrange.le)
  have hhigh : ⌊f * (max - min + 1 : ℤ)⌋ < max - min + 1 := by
    rw [Int.floor_lt]
    nlinarith [hf.2]
  omega

/-- A number drawn only under a condition. -/
theorem draws_nextIntIf (p : Prop) [Decidable p] (min max : ℤ) :
    Draws bad (nextIntIf stream p min max) fun n =>
      (p → min ≤ n ∧ (min ≤ max → n ≤ max)) ∧ (¬p → n = 0) := by
  refine Triple.ite (fun hp => (draws_nextInt stream min max).post fun n _ hn => ?_)
    fun hp => draws_pure ⟨fun hp' => absurd hp' hp, fun _ => rfl⟩
  exact ⟨fun _ => hn, fun hp' => absurd hp hp'⟩

/-- The service's generator is one such stream. -/
theorem nextInt_stream (random : DeterministicRandom) (min max : ℕ) :
    nextInt DeterministicRandom.stream min max random =
      (.ok ((random.nextInt min max).1 : ℤ), (random.nextInt min max).2) := by
  by_cases h : max ≤ min
  · have hcast : (max : ℤ) ≤ min := by exact_mod_cast h
    rw [nextInt, if_pos hcast, DeterministicRandom.nextInt, if_pos h]
    rfl
  · have hcast : ¬(max : ℤ) ≤ min := by exact_mod_cast h
    have hfloor : ⌊((random.next.state - 1 : ℕ) : ℚ) / 2147483646 * ((max : ℤ) - min + 1 : ℤ)⌋ =
        ((random.next.state - 1) * (max - min + 1) / 2147483646 : ℕ) := by
      have hrange : ((max : ℤ) - min + 1 : ℤ) = ((max - min + 1 : ℕ) : ℤ) := by omega
      rw [hrange, Int.cast_natCast, div_mul_eq_mul_div, ← Nat.cast_mul]
      exact Rat.floor_natCast_div_natCast _ 2147483646
    rw [nextInt, if_neg hcast, DeterministicRandom.nextInt, if_neg h]
    simp only [Bind.bind, nextFloat, DeterministicRandom.stream, hfloor]
    rfl

end Draws

/-! ## Orders -/

section Orders

variable {R : Type} (stream : RandomStream R) {bad : Prop}

theorem floor_mul_le {n c : ℤ} {q : ℚ} (hn : 0 ≤ n) (hq : q ≤ c / 100) :
    ⌊(n : ℚ) * q⌋ ≤ c * n / 100 := by
  have hle : (n : ℚ) * q ≤ (c * n : ℤ) / 100 := by
    push_cast
    have hmul := mul_le_mul_of_nonneg_left hq (by exact_mod_cast hn : (0 : ℚ) ≤ n)
    linarith
  have hfloor : ⌊((c * n : ℤ) : ℚ) / (100 : ℕ)⌋ = c * n / (100 : ℕ) :=
    Rat.floor_intCast_div_natCast _ _
  calc ⌊(n : ℚ) * q⌋ ≤ ⌊((c * n : ℤ) : ℚ) / 100⌋ := Int.floor_le_floor hle
    _ = c * n / 100 := hfloor

/-- The orders of a day add up as far as the guard lets them; a working day completes some. -/
structure DayOrders.Drawn (isOffDay : Bool) (orders : DayOrders) : Prop where
  assigned : 0 ≤ orders.assigned
  accepted : orders.accepted = ordersAccepted orders.assigned orders.skipped orders.rejected
  completed : 0 ≤ orders.completed
  working : isOffDay = false →
    orders.skipped + orders.rejected < orders.assigned ∧ 0 < orders.completed

theorem ordersAccepted_eq {assigned skipped rejected : ℤ} (h : skipped + rejected < assigned) :
    ordersAccepted assigned skipped rejected = assigned - skipped - rejected := by
  simp only [ordersAccepted]
  split <;> omega

theorem draws_offDay (assigned : ℤ) (h : 0 ≤ assigned) :
    Draws bad (handleOrders stream true assigned) (DayOrders.Drawn true) := by
  refine (draws_nextInt stream 0 2).bind fun skipped _ => ?_
  refine (draws_nextInt stream 0 1).bind fun rejected _ => ?_
  refine (draws_nextIntIf stream _ _ _).bind fun _ _ => ?_
  exact draws_pure ⟨h, rfl, le_max_left _ _, fun h => by cases h⟩

/-- Skips and rejections are a small part of a working day's orders, cancellations of those
accepted. -/
theorem draws_workingDay (assigned : ℤ) (h : 12 ≤ assigned) :
    Draws bad (handleOrders stream false assigned) (DayOrders.Drawn false) := by
  have hskip := floor_mul_le (c := 15) (by omega : 0 ≤ assigned) (by norm_num : (15 / 100 : ℚ) ≤ _)
  have hreject := floor_mul_le (c := 4) (by omega : 0 ≤ assigned) (by norm_num : (4 / 100 : ℚ) ≤ _)
  have hsome : 0 ≤ ⌊(assigned : ℚ) * (15 / 100)⌋ := Int.floor_nonneg.mpr (by positivity)
  refine (draws_nextInt stream _ _).bind fun skipped hskipped => ?_
  refine (draws_nextInt stream _ _).bind fun rejected hrejected => ?_
  have hskipped := hskipped.2 (by omega)
  have hrejected := hrejected.2 (zero_le_one.trans (le_max_left _ _))
  have hbalance : skipped + rejected + 8 ≤ assigned := by omega
  have hless : skipped + rejected < assigned := by omega
  have haccepted := ordersAccepted_eq hless
  have height : 8 ≤ ordersAccepted assigned skipped rejected := by omega
  have hcancel := floor_mul_le (c := 8) (by omega : 0 ≤ ordersAccepted assigned skipped rejected)
    (by norm_num : (8 / 100 : ℚ) ≤ _)
  refine (draws_nextIntIf stream _ _ _).bind
    fun cancelled hcancelled => ?_
  have hcancelled := (hcancelled.1 (by omega)).2 (zero_le_one.trans (le_max_left _ _))
  have hcompleted : 0 < max 0 (ordersAccepted assigned skipped rejected - cancelled) := by omega
  have hnonneg : 0 ≤ assigned := by omega
  exact draws_pure ⟨hnonneg, rfl, le_max_left _ _, fun _ => ⟨hless, hcompleted⟩⟩

theorem draws_dayOrders (isOffDay : Bool) (surgeMultiplier : ℚ) :
    Draws bad (dayOrders stream isOffDay surgeMultiplier) (DayOrders.Drawn isOffDay) := by
  cases isOffDay with
  | true =>
      refine (draws_nextInt stream 0 4).bind fun assignedBase _ => ?_
      exact draws_offDay stream _ (le_max_left _ _)
  | false =>
      refine (draws_nextInt stream ACTIVE_DAY_ASSIGNED_ORDERS_MIN
        ACTIVE_DAY_ASSIGNED_ORDERS_MAX).bind fun assignedBase _ => ?_
      exact draws_workingDay stream _ (le_max_left _ _)

end Orders

/-! ## A day -/

section Days

variable {R : Type} (stream : RandomStream R) (math : MathFunctions) {bad : Prop}

structure DayEarnings.Drawn (earnings : DayEarnings) : Prop where
  base : Paise earnings.base
  incentives : Paise earnings.incentives
  penalties : Paise earnings.penalties

theorem draws_sampleLogNormal (median sigma : ℚ) :
    Draws bad (sampleLogNormal stream math median sigma) fun _ => True :=
  (draws_nextFloat stream).bind fun _ _ =>
    (draws_nextFloat stream).bind fun _ _ => draws_pure trivial

theorem draws_hasRainIncentiveDay : Draws bad (hasRainIncentiveDay stream) fun _ => True :=
  (draws_nextFloat stream).bind fun _ _ => draws_pure trivial

theorem draws_dayEarnings (isWeekend : Bool) (orders : DayOrders) :
    Draws bad (dayEarnings stream math isWeekend orders) DayEarnings.Drawn := by
  refine (draws_sampleLogNormal stream math _ _).bind fun earningsPerOrder _ => ?_
  refine (draws_hasRainIncentiveDay stream).bind fun rain _ => ?_
  refine (draws_nextIntIf stream _ _ _).bind fun bonus _ => ?_
  have hpenalty : Draws bad
      (if PENALTY_SKIP_THRESHOLD < orders.skipped then nextInt stream 20 PENALTY_CAP_INR
      else nextInt stream 0 20) fun _ => True :=
    Triple.ite (fun _ => (draws_nextInt stream _ _).post fun _ _ _ => trivial)
      fun _ => (draws_nextInt stream _ _).post fun _ _ _ => trivial
  refine hpenalty.bind fun penalty _ => ?_
  refine draws_pure ⟨?_, paise_formatCurrency _, paise_formatCurrency _⟩
  dsimp only
  split
  · exact ⟨250000, by norm_num [BASE_EARNINGS_UPPER_BOUND]⟩
  · split
    · exact paise_formatCurrency _
    · exact paise_formatCurrency _

theorem draws_pick {items : List String} (hbad : items = [] → bad) :
    Draws bad (pick stream items) fun _ => True := by
  have hrest : Draws bad (nextInt stream 0 (items.length - 1) >>= fun index =>
      pure (items.getD index.toNat "")) fun _ => True :=
    (draws_nextInt stream _ _).bind fun _ _ => draws_pure trivial
  by_cases hitems : items = []
  · exact Triple.require_bind (fun _ _ => hbad hitems) fun _ => hrest
  · exact Triple.require_bind_of hitems hrest

theorem draws_servedStores {darkStores : List String} (hbad : darkStores = [] → bad) (count : ℕ) :
    Draws bad (servedStores stream darkStores count) fun _ => True := by
  induction count with
  | zero => exact draws_pure trivial
  | succ count ih =>
      refine (draws_pick stream hbad).bind fun _ _ => ?_
      exact ih.bind fun _ _ => draws_pure trivial

theorem draws_toISODateOnly {R : Type} {date : ℤ} (hbad : timeClip date = none → bad) :
    Draws bad (Action.lift (toISODateOnly date) : Draw R String) fun _ => True := by
  cases hclip : timeClip date with
  | none => exact (Triple.lift fun _ _ => hbad hclip).post fun _ _ _ => trivial
  | some _ =>
      simp only [toISODateOnly, hclip]
      exact draws_pure trivial

theorem draws_drawOffDay (i : ℕ) :
    Draws bad (drawOffDay stream i) fun isOffDay => i < 5 → isOffDay = false :=
  Triple.ite (fun _ => draws_pure fun _ => rfl) fun h =>
    (draws_nextFloat stream).bind fun _ _ => draws_pure fun hi => absurd hi h

/-! ### The row -/

/-- The counts of a row, as far as the guard lets them add up. -/
def Counted (row : DriverDailyBreakdown) : Prop :=
  row.ordersAccepted = ordersAccepted row.ordersAssigned row.ordersSkipped row.ordersRejected

structure DriverDailyBreakdown.Drawn (i : ℕ) (row : DriverDailyBreakdown) : Prop where
  assigned : 0 ≤ row.ordersAssigned
  accepted : Counted row
  completed : 0 ≤ row.completedDeliveries
  working : i < 5 → row.ordersSkipped + row.ordersRejected < row.ordersAssigned ∧
    0 < row.completedDeliveries
  base : Paise row.baseEarnings
  incentives : Paise row.incentives
  penalties : Paise row.penalties
  total : row.totalEarnings = row.baseEarnings + row.incentives - row.penalties

/-- The day is one that a `Date` can hold. -/
def DayInRange (weekStart : ℤ) (i : ℕ) : Prop :=
  timeClip (setUTCDate weekStart (getUTCDate weekStart + i)) ≠ none

theorem draws_dayRow {darkStores : List String} {weekStart : ℤ} {i : ℕ}
    (hstores : darkStores = [] → bad) (hday : ¬DayInRange weekStart i → bad) :
    Draws bad (dayRow stream math darkStores weekStart i) (DriverDailyBreakdown.Drawn i) := by
  refine (draws_drawOffDay stream i).bind fun isOffDay hoff => ?_
  refine (draws_dayOrders stream isOffDay _).bind fun orders horders => ?_
  refine (draws_nextIntIf stream _ _ _).bind fun hoursWorked _ => ?_
  refine (draws_dayEarnings stream math _ orders).bind fun earnings hearnings => ?_
  refine (draws_nextIntIf stream _ _ _).bind fun storesServedCount _ => ?_
  refine (draws_servedStores stream hstores _).bind fun darkStoresServed _ => ?_
  have hclip : timeClip (setUTCDate weekStart (getUTCDate weekStart + i)) = none → bad :=
    fun h => hday fun hrange => hrange h
  refine (draws_toISODateOnly hclip).bind fun date _ => ?_
  refine (draws_nextIntIf stream _ _ _).bind fun distance _ => draws_pure ?_
  have htotal :=
    ((hearnings.base.add hearnings.incentives).sub hearnings.penalties).formatCurrency_eq
  exact ⟨horders.assigned, horders.accepted, horders.completed, fun hi => horders.working (hoff hi),
    hearnings.base, hearnings.incentives, hearnings.penalties, htotal⟩

end Days

/-! ## The week -/

def sumOf (field : DriverDailyBreakdown → ℚ) (rows : List DriverDailyBreakdown) : ℚ :=
  (rows.map field).sum

theorem sumOf_snoc (field : DriverDailyBreakdown → ℚ) (rows : List DriverDailyBreakdown)
    (row : DriverDailyBreakdown) : sumOf field (rows ++ [row]) = sumOf field rows + field row := by
  simp [sumOf]

/-- The running totals are the sums over the rows so far. -/
structure Summed (week : WeeklyBreakdown) : Prop where
  rows : ∀ row ∈ week.dailyBreakdown, ∃ i, DriverDailyBreakdown.Drawn i row
  base : week.totals.baseEarnings = sumOf (·.baseEarnings) week.dailyBreakdown
  incentives : week.totals.incentiveEarnings = sumOf (·.incentives) week.dailyBreakdown
  penalties : week.totals.penalties = sumOf (·.penalties) week.dailyBreakdown
  total : week.totals.weeklyEarningsTotal = sumOf (·.totalEarnings) week.dailyBreakdown
  completed : week.totals.totalCompletedDeliveries =
    (week.dailyBreakdown.map (·.completedDeliveries)).sum

theorem paise_sumOf {field : DriverDailyBreakdown → ℚ} {rows : List DriverDailyBreakdown}
    (h : ∀ row ∈ rows, Paise (field row)) : Paise (sumOf field rows) := by
  induction rows with
  | nil => exact Paise.zero
  | cons row rows ih =>
      have hrest := ih fun row' hrow' => h row' (List.mem_cons_of_mem _ hrow')
      exact (h row List.mem_cons_self).add hrest

theorem DriverDailyBreakdown.Drawn.totalPaise {i : ℕ} {row : DriverDailyBreakdown}
    (h : row.Drawn i) : Paise row.totalEarnings := by
  rw [h.total]
  exact (h.base.add h.incentives).sub h.penalties

/-- One more row: each running total is rounded, which changes nothing. -/
theorem Summed.snoc {week : WeeklyBreakdown} {row : DriverDailyBreakdown} {i : ℕ} (h : Summed week)
    (hrow : row.Drawn i) : Summed ⟨week.dailyBreakdown ++ [row], week.totals.add row⟩ := by
  have hmoney {total : ℚ} {field : DriverDailyBreakdown → ℚ}
      (hfield : ∀ row i, DriverDailyBreakdown.Drawn i row → Paise (field row))
      (htotal : total = sumOf field week.dailyBreakdown) :
      formatCurrency (total + field row) = sumOf field (week.dailyBreakdown ++ [row]) := by
    have hsum : Paise (sumOf field week.dailyBreakdown) :=
      paise_sumOf fun row hmem => (h.rows row hmem).elim fun i hi => hfield row i hi
    rw [htotal, sumOf_snoc]
    exact (hsum.add (hfield row i hrow)).formatCurrency_eq
  refine ⟨fun row' hmem => ?_, hmoney (fun _ _ h => h.base) h.base,
    hmoney (fun _ _ h => h.incentives) h.incentives, hmoney (fun _ _ h => h.penalties) h.penalties,
    hmoney (fun _ _ h => h.totalPaise) h.total, ?_⟩
  · rcases List.mem_append.mp hmem with hmem | hmem
    · exact h.rows row' hmem
    · rw [List.mem_singleton.mp hmem]
      exact ⟨i, hrow⟩
  · simp [DriverWeekSummaryTotals.add, h.completed]

section Weeks

variable {R : Type} (stream : RandomStream R) (math : MathFunctions) {bad : Prop}

/-- The loop over the days, a row for each. -/
theorem draws_weekRows {darkStores : List String} {weekStart : ℤ} {days : List ℕ}
    (hstores : darkStores = [] → bad) (hdays : ∀ i ∈ days, ¬DayInRange weekStart i → bad)
    {week : WeeklyBreakdown} (hweek : Summed week) :
    Draws bad (weekRows stream math darkStores weekStart days week) fun result =>
      Summed result ∧ ∃ rows, result.dailyBreakdown = week.dailyBreakdown ++ rows ∧
        List.Forall₂ DriverDailyBreakdown.Drawn days rows := by
  induction days generalizing week with
  | nil => exact draws_pure ⟨hweek, [], by simp, .nil⟩
  | cons i days ih =>
      refine (draws_dayRow stream math hstores (hdays i List.mem_cons_self)).bind fun row hrow => ?_
      refine (ih (fun j hj => hdays j (List.mem_cons_of_mem _ hj)) (hweek.snoc hrow)).post ?_
      rintro result - ⟨hresult, rows, hrows, hdrawn⟩
      exact ⟨hresult, row :: rows, by rw [hrows, List.append_assoc, List.singleton_append],
        .cons hrow hdrawn⟩

end Weeks

/-! ## The balances -/

/-- The totals of a week that earned enough. -/
structure EarnedTotals (rows : List DriverDailyBreakdown) (totals : DriverWeekSummaryTotals) :
    Prop where
  balance : totals.weeklyEarningsTotal =
    totals.baseEarnings + totals.incentiveEarnings - totals.penalties
  days : totals.weeklyEarningsTotal = sumOf (·.totalEarnings) rows
  deliveries : 0 < totals.totalCompletedDeliveries
  average : totals.averageEarningsPerOrder =
    formatCurrency (totals.weeklyEarningsTotal / totals.totalCompletedDeliveries)

/-- The totals of a week that was raised to the minimum. -/
structure BridgedTotals (totals : DriverWeekSummaryTotals) : Prop where
  minimum : 3900 ≤ totals.weeklyEarningsTotal
  maximum : totals.weeklyEarningsTotal ≤ 4700
  parts : totals.weeklyEarningsTotal = totals.baseEarnings + totals.incentiveEarnings

/-- What holds of the week that is returned; the total of the days decides about the bridge. -/
structure Balanced (week : WeeklyBreakdown) : Prop where
  days : week.dailyBreakdown.length = 7
  earned : ∀ row ∈ week.dailyBreakdown,
    row.totalEarnings = row.baseEarnings + row.incentives - row.penalties
  counted : ∀ row ∈ week.dailyBreakdown,
    row.ordersSkipped + row.ordersRejected < row.ordersAssigned →
      row.ordersAccepted + row.ordersSkipped + row.ordersRejected = row.ordersAssigned
  usedUp : ∀ row ∈ week.dailyBreakdown,
    row.ordersAssigned ≤ row.ordersSkipped + row.ordersRejected →
      row.ordersAccepted = if 0 < row.ordersAssigned then 1 else 0
  working : ∀ row ∈ week.dailyBreakdown.take 5,
    row.ordersAccepted + row.ordersSkipped + row.ordersRejected = row.ordersAssigned
  earnedWeek : 3800 ≤ sumOf (·.totalEarnings) week.dailyBreakdown →
    EarnedTotals week.dailyBreakdown week.totals
  bridgedWeek : sumOf (·.totalEarnings) week.dailyBreakdown < 3800 → BridgedTotals week.totals

theorem ordersAccepted_usedUp {assigned skipped rejected : ℤ} (h : assigned ≤ skipped + rejected) :
    ordersAccepted assigned skipped rejected = if 0 < assigned then 1 else 0 := by
  simp only [ordersAccepted]
  by_cases hassigned : 0 < assigned
  · rw [if_pos ⟨hassigned, by omega⟩, if_pos hassigned]
  · rw [if_neg (fun hand => hassigned hand.1), if_neg hassigned]
    omega

section Rows

variable {rows : List DriverDailyBreakdown}
  (hrows : List.Forall₂ DriverDailyBreakdown.Drawn (List.range 7) rows)

include hrows

/-- The first five days are working days. -/
theorem working_rows {row : DriverDailyBreakdown} (h : row ∈ rows.take 5) :
    row.ordersAccepted + row.ordersSkipped + row.ordersRejected = row.ordersAssigned := by
  have htake := List.forall₂_take 5 hrows
  obtain ⟨i, hi, rfl⟩ := List.mem_iff_getElem.mp h
  have hfive : i < 5 := hi.trans_le (by simp)
  have hdrawn := htake.get (htake.length_eq ▸ hi) hi
  simp only [List.get_eq_getElem, List.getElem_take, List.getElem_range] at hdrawn
  have hworking := (hdrawn.working hfive).1
  rw [List.getElem_take, hdrawn.accepted, ordersAccepted_eq hworking]
  omega

theorem completed_rows : 0 < (rows.map (·.completedDeliveries)).sum := by
  cases hrows with
  | @cons _ row _ rest hrow hrest =>
      have hnonneg : ∀ n ∈ rest.map (·.completedDeliveries), 0 ≤ n := by
        intro n hn
        obtain ⟨row', hrow', rfl⟩ := List.mem_map.mp hn
        obtain ⟨i, hi, rfl⟩ := List.mem_iff_getElem.mp hrow'
        exact (hrest.get (hrest.length_eq ▸ hi) hi).completed
      have hsum := List.sum_nonneg hnonneg
      have hfirst := (hrow.working (by decide)).2
      rw [List.map_cons, List.sum_cons]
      omega

end Rows

theorem Summed.balance {week : WeeklyBreakdown} (h : Summed week) :
    week.totals.weeklyEarningsTotal =
      week.totals.baseEarnings + week.totals.incentiveEarnings - week.totals.penalties := by
  have hsum (rows : List DriverDailyBreakdown)
      (hrows : ∀ row ∈ rows, ∃ i, DriverDailyBreakdown.Drawn i row) :
      sumOf (·.totalEarnings) rows =
        sumOf (·.baseEarnings) rows + sumOf (·.incentives) rows - sumOf (·.penalties) rows := by
    induction rows with
    | nil => simp [sumOf]
    | cons row rows ih =>
        obtain ⟨i, hi⟩ := hrows row List.mem_cons_self
        have hrest := ih fun row' hrow' => hrows row' (List.mem_cons_of_mem _ hrow')
        simp only [sumOf, List.map_cons, List.sum_cons] at hrest ⊢
        rw [hrest, hi.total]
        ring
  rw [h.total, h.base, h.incentives, h.penalties]
  exact hsum _ h.rows

/-- The whole of the rows, whatever becomes of the totals. -/
theorem balanced_of {rows : List DriverDailyBreakdown} {totals : DriverWeekSummaryTotals}
    (hrows : List.Forall₂ DriverDailyBreakdown.Drawn (List.range 7) rows)
    (hdrawn : ∀ row ∈ rows, ∃ i, DriverDailyBreakdown.Drawn i row)
    (hearned : 3800 ≤ sumOf (·.totalEarnings) rows → EarnedTotals rows totals)
    (hbridged : sumOf (·.totalEarnings) rows < 3800 → BridgedTotals totals) :
    Balanced ⟨rows, totals⟩ where
  days := hrows.length_eq.symm
  earned row hrow := (hdrawn row hrow).elim fun _ hi => hi.total
  counted row hrow hless := by
    obtain ⟨i, hi⟩ := hdrawn row hrow
    rw [hi.accepted, ordersAccepted_eq hless]
    omega
  usedUp row hrow hle := by
    obtain ⟨i, hi⟩ := hdrawn row hrow
    rw [hi.accepted, ordersAccepted_usedUp hle]
  working row hrow := working_rows hrows hrow
  earnedWeek := hearned
  bridgedWeek := hbridged

/-- The bridge is split between base pay and incentives. -/
theorem bridgedTotals (totals : DriverWeekSummaryTotals) {extra : ℤ}
    (h : 100 ≤ extra ∧ extra ≤ 900) : BridgedTotals (totals.bridged (3800 + extra)) := by
  have hbase : Paise (((3800 + extra : ℤ) : ℚ) * (85 / 100)) :=
    ⟨(3800 + extra) * 85, by push_cast; ring⟩
  have hincentives : Paise (((3800 + extra : ℤ) : ℚ) * (15 / 100)) :=
    ⟨(3800 + extra) * 15, by push_cast; ring⟩
  have hlow : (100 : ℚ) ≤ extra := by exact_mod_cast h.1
  have hhigh : (extra : ℚ) ≤ 900 := by exact_mod_cast h.2
  constructor
  all_goals
    simp only [DriverWeekSummaryTotals.bridged, (paise_intCast _).formatCurrency_eq,
      hbase.formatCurrency_eq, hincentives.formatCurrency_eq]
    push_cast
    linarith

section Weeks

variable {R : Type} (stream : RandomStream R) (math : MathFunctions) {bad : Prop}

theorem draws_generateDailyBreakdown {darkStores : List String} {weekStart : ℤ}
    (hstores : darkStores = [] → bad) (hdays : ∀ i < 7, ¬DayInRange weekStart i → bad) :
    Draws bad (generateDailyBreakdown stream math darkStores weekStart) Balanced := by
  have hstart : timeClip weekStart = none → bad := fun h =>
    hdays 0 (by decide) fun hrange => hrange (by simpa [setUTCDate] using h)
  have hend : timeClip (setUTCDate weekStart (getUTCDate weekStart + 6)) = none → bad := fun h =>
    hdays 6 (by decide) fun hrange => hrange h
  have hempty (weekStartDate weekEndDate : String) :
      Summed ⟨[], { weekStartDate, weekEndDate }⟩ :=
    ⟨by simp, rfl, rfl, rfl, rfl, rfl⟩
  refine (draws_toISODateOnly hstart).bind fun weekStartDate _ => ?_
  refine (draws_toISODateOnly hend).bind fun weekEndDate _ => ?_
  refine (draws_weekRows stream math hstores (fun i hi => hdays i (List.mem_range.mp hi))
    (hempty weekStartDate weekEndDate)).bind ?_
  rintro week ⟨hweek, rows, hrows, hdrawn⟩
  rw [List.nil_append] at hrows
  subst hrows
  have hdeliveries : 0 < week.totals.totalCompletedDeliveries := by
    rw [hweek.completed]
    exact completed_rows hdrawn
  refine Triple.ite (fun hlow => ?_) fun hlow => ?_
  · refine (draws_nextInt stream 100 900).bind fun extra hextra => draws_pure ?_
    have hless : sumOf (·.totalEarnings) week.dailyBreakdown < 3800 := hweek.total ▸ hlow.1
    exact balanced_of hdrawn hweek.rows (fun h => absurd hless (not_lt.mpr h))
      fun _ => bridgedTotals _ ⟨hextra.1, hextra.2 (by decide)⟩
  · have henough : ¬sumOf (·.totalEarnings) week.dailyBreakdown < 3800 :=
      fun h => hlow ⟨hweek.total ▸ h, hdeliveries⟩
    refine draws_pure (balanced_of hdrawn hweek.rows (fun _ => ?_) fun h => absurd h henough)
    exact ⟨hweek.balance, hweek.total, hdeliveries, if_pos hdeliveries.ne'⟩

end Weeks

/-- The balances, for every stream, store list and week. -/
theorem generateDailyBreakdown_balanced {R : Type} (stream : RandomStream R) (math : MathFunctions)
    (darkStores : List String) (weekStart : ℤ) (random : R) :
    match (generateDailyBreakdown stream math darkStores weekStart random).1 with
    | .ok week => Balanced week
    | .error _ => darkStores = [] ∨ ∃ i < 7, ¬DayInRange weekStart i := by
  have hdraws : Draws (darkStores = [] ∨ ∃ i < 7, ¬DayInRange weekStart i)
      (generateDailyBreakdown stream math darkStores weekStart) Balanced :=
    draws_generateDailyBreakdown stream math .inl fun i hi hday => .inr ⟨i, hi, hday⟩
  rcases hrun : generateDailyBreakdown stream math darkStores weekStart random with ⟨outcome, _⟩
  cases outcome with
  | ok week => exact hdraws.ok trivial hrun
  | error e => exact hdraws.error trivial hrun

/-! ## Two weeks -/

namespace TwoWeeks

theorem tenths_nonneg (n : Fin 10) : 0 ≤ ((n : ℕ) : ℚ) / 10 := by positivity

theorem tenths_lt_one (n : Fin 10) : ((n : ℕ) : ℚ) / 10 < 1 := by
  rw [div_lt_one (by norm_num)]
  exact_mod_cast n.isLt

/-- A stream of tenths, one for each number of draws made before. -/
def script (draw : ℕ → Fin 10) : RandomStream ℕ where
  nextFloat n := (((draw n : ℕ) : ℚ) / 10, n + 1)
  nonneg n := tenths_nonneg (draw n)
  lt_one n := tenths_lt_one (draw n)

/-- Saturday is an off day with one order, and two are skipped. -/
def offDay : RandomStream ℕ :=
  script fun n => if n = 50 then 0 else if n = 51 then 2 else if n = 52 then 9 else 5

/-- Every day draws the lowest pay for an order. -/
def lowPay : RandomStream ℕ :=
  script fun n => if n ∈ [5, 15, 25, 35, 45, 56, 67] then 0 else 5

/-- The values at the arguments that occur. -/
def math : MathFunctions where
  PI := 3141592653589793 / 10 ^ 15
  log x :=
    if x = 63 then 4143134726391533 / 10 ^ 15
    else if x = 1 / 2 then -6931471805599453 / 10 ^ 16
    else -2072326583694641 / 10 ^ 14
  sqrt x := if x < 2 then 11774100225154747 / 10 ^ 16 else 64378980788680416 / 10 ^ 16
  cos _ := -1
  exp x := if x < 3 then 1977291500508388 / 10 ^ 14 else 50968149719971684 / 10 ^ 15

end TwoWeeks

/-- On every day each order is accepted, skipped or rejected. -/
def countsAddUp (week : WeeklyBreakdown) : Bool :=
  week.dailyBreakdown.all fun row =>
    row.ordersAccepted + row.ordersSkipped + row.ordersRejected = row.ordersAssigned

/-- The week earned base pay and incentives less the penalties. -/
def earningsAddUp (week : WeeklyBreakdown) : Bool :=
  week.totals.weeklyEarningsTotal =
    week.totals.baseEarnings + week.totals.incentiveEarnings - week.totals.penalties

open TwoWeeks in
theorem generateDailyBreakdown_unbalanced :
    (generateDailyBreakdown offDay math ["HSR Dark Store 12"] 1609113600000 0).1.toOption.all
        countsAddUp = false ∧
      (generateDailyBreakdown lowPay math ["HSR Dark Store 12"] 1609113600000 0).1.toOption.all
        earningsAddUp = false := by
  constructor <;> decide +kernel

end Aegis.DynamicQCommerce
