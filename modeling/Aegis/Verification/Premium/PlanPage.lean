import Aegis.Model.WeeklyPlans
import Aegis.Verification.Insurance.Deductible
import Aegis.Verification.Premium.Issues

/-! # The price shown and the price charged

The catalogue prices a plan by the driver's earnings band and the digits of the user id, the
checkout by the premium formula. -/

namespace Aegis.PlansService

open Outcome Number PayoutService PremiumService InsuranceService

/-! ## The catalogue -/

theorem mem_setPlan {entries : List WeeklyPlan} {plan p : WeeklyPlan}
    (h : p ∈ setPlan entries plan) : p ∈ entries ∨ p = plan := by
  unfold setPlan at h
  split at h
  · obtain ⟨q, hq, rfl⟩ := List.mem_map.mp h
    split
    · exact .inr rfl
    · exact .inl hq
  · simpa using h

theorem mem_uniquePlans {plans : List WeeklyPlan} {p : WeeklyPlan} (h : p ∈ uniquePlans plans) :
    p ∈ plans := by
  have hfold : ∀ (plans entries : List WeeklyPlan), p ∈ plans.foldl setPlan entries →
      p ∈ entries ∨ p ∈ plans := by
    intro plans
    induction plans with
    | nil => exact fun _ hp => .inl hp
    | cons plan plans ih =>
        intro entries hp
        rcases ih _ hp with hp | hp
        · rcases mem_setPlan hp with hp | rfl
          · exact .inl hp
          · exact .inr List.mem_cons_self
        · exact .inr (List.mem_cons_of_mem _ hp)
  simpa using hfold plans [] h

/-- A plan is shown at the dynamic price of its place in the catalogue. -/
theorem offered_spec {profileOf : String → Option DriverProfile} {readPlans : Bool}
    {userId : String} {db : Db} {shown : List OfferedPlan} {offered : OfferedPlan}
    (h : getWeeklyPlans profileOf readPlans userId db = .ok shown) (hmem : offered ∈ shown) :
    ∃ profile index, profileOf userId = some profile ∧ ∃ plan ∈ db.weeklyPlans.rows,
      offered = offer userId (capturedEarnings profile) index plan := by
  obtain ⟨profile, hprofile, h⟩ := bind_eq_ok.mp h
  obtain ⟨_, -, h⟩ := bind_eq_ok.mp h
  cases h
  obtain ⟨index, hindex, rfl⟩ := List.mem_mapIdx.mp hmem
  have hraw := mem_uniquePlans (List.getElem_mem hindex)
  exact ⟨profile, index, orThrow_eq_ok.mp hprofile, _, (List.mem_insertionSort _).mp hraw, rfl⟩

/-! ## The range of the prices -/

theorem getDecimal_range (userId : String) (offset : ℕ) :
    0 ≤ getDecimal userId offset ∧ getDecimal userId offset ≤ 99 / 100 := by
  have hlt : (userAnchor userId + offset) % 100 ≤ 99 := by omega
  have hcast : (((userAnchor userId + offset) % 100 : ℕ) : ℚ) ≤ 99 := by exact_mod_cast hlt
  have hnonneg : (0 : ℚ) ≤ ((userAnchor userId + offset) % 100 : ℕ) := Nat.cast_nonneg _
  unfold getDecimal
  constructor
  · linarith
  · linarith

theorem bandFloor_range (earnings : ℚ) {low middle high : ℚ} (hlow : low ≤ middle)
    (hhigh : middle ≤ high) :
    low ≤ bandFloor earnings low middle high ∧ bandFloor earnings low middle high ≤ high := by
  unfold bandFloor
  split
  · exact ⟨hlow.trans hhigh, le_rfl⟩
  · split
    · exact ⟨le_rfl, hlow.trans hhigh⟩
    · exact ⟨hlow, hhigh⟩

theorem dynamicPrice_range (userId : String) (earnings : ℚ) (index : ℕ) (plan : WeeklyPlan) :
    19 ≤ dynamicPrice userId earnings index plan ∧
      dynamicPrice userId earnings index plan ≤ 49 := by
  obtain ⟨hdecimal, hdecimal'⟩ := getDecimal_range userId (index * 13)
  have hband : ∀ {low middle high : ℚ}, 19 ≤ low → low ≤ middle → middle ≤ high → high ≤ 48 →
      19 ≤ bandFloor earnings low middle high + getDecimal userId (index * 13) ∧
        bandFloor earnings low middle high + getDecimal userId (index * 13) ≤ 49 := by
    intro low middle high h19 hlow hhigh h48
    obtain ⟨hfloor, hfloor'⟩ := bandFloor_range earnings hlow hhigh
    constructor
    · linarith
    · linarith
  unfold dynamicPrice
  dsimp only
  split
  · exact hband (by norm_num) (by norm_num) (by norm_num) (by norm_num)
  · split
    · exact hband (by norm_num) (by norm_num) (by norm_num) (by norm_num)
    · split
      · exact hband (by norm_num) (by norm_num) (by norm_num) (by norm_num)
      · split
        · exact hband (by norm_num) (by norm_num) (by norm_num) (by norm_num)
        · refine ⟨le_min (by norm_num) ?_, min_le_left _ _⟩
          exact le_trans (by norm_num) (le_max_left _ _)

theorem toFixed2_mem_range {x : ℚ} (lo hi : ℤ) (hlo : 0 ≤ lo) (h : (lo : ℚ) ≤ x) (h' : x ≤ hi) :
    (lo : ℚ) ≤ toFixed2 x ∧ toFixed2 x ≤ hi := by
  have hnonneg : (0 : ℚ) ≤ x := le_trans (by exact_mod_cast hlo) h
  have hlow : lo * 100 ≤ mathRound (x * 100) := by
    rw [le_mathRound_iff]
    push_cast
    linarith
  have hhigh : mathRound (x * 100) ≤ hi * 100 := by
    rw [mathRound_le_iff]
    push_cast
    linarith
  have hlow' : (lo : ℚ) * 100 ≤ mathRound (x * 100) := by exact_mod_cast hlow
  have hhigh' : (mathRound (x * 100) : ℚ) ≤ hi * 100 := by exact_mod_cast hhigh
  rw [toFixed2_of_nonneg hnonneg]
  constructor
  · linarith
  · linarith

/-! ## The order -/

section Order

variable {cfg : Payments.OrderConfig} {io : Payments.CreateOrderIo} {userId weeklyPlanId : String}
  {s : System} {readPlans : Bool} {shown : List OfferedPlan} {offered : OfferedPlan}
  {created : Payments.GatewayOrder}

/-- The amount of the order under the id that the gateway gave it, in rupees. -/
def chargedRupees (cfg : Payments.OrderConfig) (io : Payments.CreateOrderIo)
    (userId weeklyPlanId : String) (s : System) (created : Payments.GatewayOrder) : Option ℚ :=
  ((Payments.createOrder cfg io userId weeklyPlanId s).2.db.razorpayOrders.findUnique
    (.razorpayOrderId created.id)).map fun order => (order.amount : ℚ) / 100

/-- The order of a plan that was shown is made out for the price shown. -/
def QuoteIsCharge (cfg : Payments.OrderConfig) (io : Payments.CreateOrderIo) (readPlans : Bool)
    (userId weeklyPlanId : String) (s : System) : Prop :=
  ∀ shown, getWeeklyPlans io.premium.profileOf readPlans userId s.db = .ok shown →
    ∀ offered ∈ shown, offered.plan.id = weeklyPlanId →
      ∀ created, (Payments.createOrder cfg io userId weeklyPlanId s).1 = .ok created →
        chargedRupees cfg io userId weeklyPlanId s created = some offered.plan.price

/-- The price is what the formula gives, or the bound of the tier that cuts the formula off. -/
def Inputs.Gives (i : Inputs) (price : ℚ) : Prop :=
  let raw := computeRawWeeklyPremium i.Ew i.Lf i.Ct
  (price = resolveTierFloor i.Ct ∧ raw ≤ price) ∨ (price = resolveTierCap i.Ct ∧ price ≤ raw) ∨
    (resolveTierFloor i.Ct < price ∧ price < resolveTierCap i.Ct ∧ raw = price)

/-- What the checkout makes of the plan: the premium, or the list price under the cap. -/
def Chargeable (io : Payments.CreateOrderIo) (userId weeklyPlanId : String) (s : System)
    (price : ℚ) : Prop :=
  match pricingInputs io.premium s userId (some weeklyPlanId) with
  | some i => Inputs.Gives i price
  | none => ∀ plan ∈ s.db.weeklyPlans.findUnique (.id weeklyPlanId),
      price = (mathRound (min plan.price
        (Payments.resolveTierCapForPlanKey (some plan.key)) * 100) : ℚ) / 100

theorem eq_clamp_iff {lo hi raw price : ℚ} (h : lo ≤ hi) :
    price = max lo (min raw hi) ↔ (price = lo ∧ raw ≤ price) ∨ (price = hi ∧ price ≤ raw) ∨
      (lo < price ∧ price < hi ∧ raw = price) := by
  constructor
  · rintro rfl
    rcases le_total raw lo with hlow | hlow
    · exact .inl (by simp [min_eq_left (hlow.trans h), hlow])
    · rcases le_total hi raw with hhigh | hhigh
      · exact .inr (.inl (by simp [h, hhigh]))
      · rw [min_eq_left hhigh, max_eq_right hlow]
        rcases hlow.eq_or_lt with rfl | hlt
        · exact .inl ⟨rfl, le_rfl⟩
        · rcases hhigh.eq_or_lt with rfl | hlt'
          · exact .inr (.inl ⟨rfl, le_rfl⟩)
          · exact .inr (.inr ⟨hlt, hlt', rfl⟩)
  · rintro (⟨rfl, hraw⟩ | ⟨rfl, hraw⟩ | ⟨hlow, hhigh, rfl⟩)
    · rw [max_eq_left ((min_le_left _ _).trans hraw)]
    · rw [min_eq_right hraw, max_eq_right h]
    · rw [min_eq_left hhigh.le, max_eq_right hlow.le]

/-- A premium that can be quoted is the amount of the order. -/
theorem orderAmount_of_quote {plan : WeeklyPlan} {quote : WeeklyPremium} {redis : RedisState.Redis}
    (h : calculateWeeklyPremium io.premium s userId (some weeklyPlanId) = .ok (quote, redis)) :
    (mathRound ((Payments.orderAmount io userId weeklyPlanId s plan).1 * 100) : ℚ) / 100 =
      quote.premium := by
  have hcap := le_resolveTierCapForPlanKey (some plan.key)
  have hamount : (Payments.orderAmount io userId weeklyPlanId s plan).1 = quote.premium := by
    simp only [Payments.orderAmount, h]
    exact min_eq_left (by linarith [quote_le h])
  obtain ⟨k, hpaise⟩ := quote_paise h
  rw [hamount, mathRound_paise hpaise]

theorem le_quote {quote : WeeklyPremium} {redis : RedisState.Redis}
    (h : calculateWeeklyPremium io.premium s userId (some weeklyPlanId) = .ok (quote, redis)) :
    20 ≤ quote.premium := by
  obtain ⟨lo, hi, hrange⟩ := quote_range h
  obtain ⟨_, _, _, _, -, -, -, hquotes⟩ := calculateWeeklyPremium_spec h
  have hlow : (20 : ℚ) ≤ lo := by exact_mod_cast hrange.low
  rw [hquotes.premium, applyPremiumBounds_eq hrange.floor_le_cap, hrange.floor]
  exact hlow.trans (le_max_left _ _)

/-- The checkout comes to the price exactly when it charges it. -/
theorem eq_amount_iff {plan : WeeklyPlan} {price : ℚ}
    (hplan : s.db.weeklyPlans.findUnique (.id weeklyPlanId) = some plan) :
    price = (mathRound ((Payments.orderAmount io userId weeklyPlanId s plan).1 * 100) : ℚ) / 100 ↔
      Chargeable io userId weeklyPlanId s price := by
  cases hquote : calculateWeeklyPremium io.premium s userId (some weeklyPlanId) with
  | ok quoted =>
      obtain ⟨quote, redis⟩ := quoted
      obtain ⟨lo, hi, hrange⟩ := quote_range hquote
      obtain ⟨_, _, _, _, -, -, -, hquotes⟩ := calculateWeeklyPremium_spec hquote
      rw [orderAmount_of_quote hquote, Chargeable, pricingInputs_of_quote hquote, hquotes.premium,
        applyPremiumBounds_eq hrange.floor_le_cap]
      exact eq_clamp_iff hrange.floor_le_cap
  | error e =>
      rw [Chargeable, pricingInputs_of_error hquote]
      simp [Payments.orderAmount, hquote, hplan]

/-- The price shown is the amount of the order exactly when the checkout comes to it; when the
driver can be priced the two are at most 31 rupees apart. -/
theorem shown_charged
    (hshown : getWeeklyPlans io.premium.profileOf readPlans userId s.db = .ok shown)
    (hmem : offered ∈ shown) (hid : offered.plan.id = weeklyPlanId)
    (horder : (Payments.createOrder cfg io userId weeklyPlanId s).1 = .ok created) :
    ∃ amount, chargedRupees cfg io userId weeklyPlanId s created = some amount ∧
      (offered.plan.price = amount ↔ Chargeable io userId weeklyPlanId s offered.plan.price) ∧
      ((pricingInputs io.premium s userId (some weeklyPlanId)).isSome = true →
        |offered.plan.price - amount| ≤ 31) := by
  obtain ⟨plan, order, hplan, hfound, hamount⟩ := createOrder_amount horder
  obtain ⟨profile, index, -, p, -, rfl⟩ := offered_spec hshown hmem
  obtain ⟨hlow, hhigh⟩ := dynamicPrice_range userId (capturedEarnings profile) index p
  refine ⟨order.amount / 100, by simp [chargedRupees, hfound], ?_, ?_⟩
  · rw [hamount]
    exact eq_amount_iff hplan
  · intro hpriced
    cases hquote : calculateWeeklyPremium io.premium s userId (some weeklyPlanId) with
    | error e => simp [pricingInputs_of_error hquote] at hpriced
    | ok quoted =>
        obtain ⟨quote, redis⟩ := quoted
        have hleast := le_quote hquote
        have hmost := quote_le hquote
        have hshownPrice : (19 : ℚ) ≤ (offer userId (capturedEarnings profile) index p).plan.price ∧
            (offer userId (capturedEarnings profile) index p).plan.price ≤ 49 := by
          have hrange := toFixed2_mem_range 19 49 (by norm_num)
            (by exact_mod_cast hlow) (by exact_mod_cast hhigh)
          exact_mod_cast hrange
        rw [hamount, orderAmount_of_quote hquote, abs_le]
        constructor
        · linarith
        · linarith

end Order

/-! ## A plan at the checkout -/

namespace Checkout

/-- The driver of the standard plan, who earned seven thousand rupees. -/
def store : System := Sale.start.toSystem

/-- The plan as it is listed for the driver. -/
def listed : OfferedPlan := offer "u1" 7000 0 Sale.plan

theorem getWeeklyPlans_store :
    getWeeklyPlans Sale.orderIo.premium.profileOf true "u1" store.db = .ok [listed] := by
  rfl

theorem createOrder_store :
    (Payments.createOrder Sale.services.orders Sale.orderIo "u1" "wp1" store).1 =
      .ok ⟨"order_1", some "INR"⟩ := by
  decide +kernel

end Checkout

open Checkout in
theorem shown_charged_standard :
    ∃ amount, chargedRupees Sale.services.orders Sale.orderIo "u1" "wp1" store
        ⟨"order_1", some "INR"⟩ = some amount ∧
      (listed.plan.price = amount ↔ Chargeable Sale.orderIo "u1" "wp1" store listed.plan.price) ∧
      ((pricingInputs Sale.orderIo.premium store "u1" (some "wp1")).isSome = true →
        |listed.plan.price - amount| ≤ 31) :=
  shown_charged getWeeklyPlans_store (List.mem_singleton_self _) rfl createOrder_store

open Checkout in
/-- The driver is shown 29.01 rupees and charged 20. -/
theorem not_quoteIsCharge :
    ¬QuoteIsCharge Sale.services.orders Sale.orderIo true "u1" "wp1" store := by
  intro h
  have hprice : listed.plan.price = 2901 / 100 := by decide +kernel
  have hamount : chargedRupees Sale.services.orders Sale.orderIo "u1" "wp1" store
      ⟨"order_1", some "INR"⟩ = some 20 := by decide +kernel
  have hsame := h [listed] getWeeklyPlans_store listed (List.mem_singleton_self _) rfl _
    createOrder_store
  rw [hamount, hprice] at hsame
  norm_num at hsame

end Aegis.PlansService
