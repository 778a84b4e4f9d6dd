import Aegis.Model.Pricing

/-! # The soft tail of the price

Without the trained model the price is a product of factors that do not sink when what is
asked for rises; the clip keeps their order, and a hundredth of what is above its ceiling. -/

namespace Aegis.PricingService

open HalfEven
open PipelineService (PricingPayload)
open RiskService (clamp)

/-- The ranges that the schema of a request admits. -/
structure ValidPayload (r : PricingPayload) : Prop where
  Ew : 0 ≤ r.Ew
  Lf : r.Lf ∈ Set.Icc (0 : ℚ) 1
  M : r.M ∈ Set.Icc (0 : ℚ) 1
  Ct : ∀ ct ∈ r.Ct, ct ∈ Set.Icc (0 : ℚ) 1
  demand_ratio : r.demand_ratio ∈ Set.Icc (0 : ℚ) 5
  zone_volatility : r.zone_volatility ∈ Set.Icc (0 : ℚ) 1

/-- Each input of `r` is at most that of `r'`; a coverage is compared where both give one. -/
structure PayloadLe (r r' : PricingPayload) : Prop where
  Ew : r.Ew ≤ r'.Ew
  Lf : r.Lf ≤ r'.Lf
  M : r.M ≤ r'.M
  demand_ratio : r.demand_ratio ≤ r'.demand_ratio
  zone_volatility : r.zone_volatility ≤ r'.zone_volatility
  platform : r.platform = r'.platform
  Ct : r.Ct = r'.Ct ∨ ∃ ct ∈ r.Ct, ∃ ct' ∈ r'.Ct, ct ≤ ct'

/-- The price before it is rounded. -/
def exactPremium (r : PricingPayload) : ℚ := softClip (unclippedPremium none r)

/-! ## The clamps -/

section Clamps

theorem clamp_mono (lo hi : ℚ) : Monotone fun value => clamp value lo hi := by
  intro x y hxy
  exact max_le_max le_rfl (min_le_min le_rfl hxy)

theorem le_clamp (value lo hi : ℚ) : lo ≤ clamp value lo hi := le_max_left _ _

theorem clamp_of_mem {value lo hi : ℚ} (h : value ∈ Set.Icc lo hi) : clamp value lo hi = value := by
  rw [clamp, min_eq_right h.2, max_eq_right h.1]

/-- A coverage within the range is its own clamp, so that both branches agree. -/
theorem resolveCt_some (platform : Option String) (ct : ℚ) :
    resolveCt platform (some ct) = clamp ct (4 / 10) (9 / 10) := by
  rw [resolveCt]
  split_ifs with hct
  · rw [clamp_of_mem hct]
  · rfl

theorem platformCt_nonneg : ∀ entry ∈ PLATFORM_CT, 0 ≤ entry.2 := by
  decide +kernel

theorem resolveCt_nonneg (platform : Option String) (ct : Option ℚ) :
    0 ≤ resolveCt platform ct := by
  cases ct with
  | some ct =>
      rw [resolveCt_some]
      exact le_trans (by norm_num) (le_clamp ct _ _)
  | none =>
      rw [resolveCt]
      cases hct : platform.bind fun name =>
          PLATFORM_CT.lookup (JsString.trim (JsString.toLowerCase name)) with
      | none => norm_num [DEFAULT_CT]
      | some ct =>
          obtain ⟨name, -, hname⟩ := Option.bind_eq_some_iff.mp hct
          obtain ⟨entries, entries', hentry, -⟩ := List.lookup_eq_some_iff.mp hname
          exact platformCt_nonneg (JsString.trim (JsString.toLowerCase name), ct) (by simp [hentry])

theorem resolveCt_mono {platform : Option String} {c c' : Option ℚ}
    (h : c = c' ∨ ∃ ct ∈ c, ∃ ct' ∈ c', ct ≤ ct') :
    resolveCt platform c ≤ resolveCt platform c' := by
  rcases h with rfl | ⟨ct, hct, ct', hct', hle⟩
  · rfl
  · cases hct
    cases hct'
    rw [resolveCt_some, resolveCt_some]
    exact clamp_mono _ _ hle

theorem zoneMultiplier_mono {d d' v v' : ℚ} (hd : d ≤ d') (hv : v ≤ v') :
    zoneMultiplier d v ≤ zoneMultiplier d' v' := by
  apply clamp_mono
  linarith

theorem zoneMultiplier_nonneg (d v : ℚ) : 0 ≤ zoneMultiplier d v :=
  le_trans (by norm_num) (le_clamp _ (8 / 10) 2)

end Clamps

/-! ## The clip -/

section Clip

variable {p p' : ℚ}

theorem softClip_mono (h : p ≤ p') : softClip p ≤ softClip p' := by
  have hclamp : clamp p PREMIUM_MIN_CLIPPING PREMIUM_MAX_CLIPPING ≤
      clamp p' PREMIUM_MIN_CLIPPING PREMIUM_MAX_CLIPPING := clamp_mono _ _ h
  have htail : max 0 (p - PREMIUM_MAX_CLIPPING) ≤ max 0 (p' - PREMIUM_MAX_CLIPPING) :=
    max_le_max le_rfl (sub_le_sub_right h _)
  have hrate : (0 : ℚ) ≤ PREMIUM_RESIDUAL_MULTIPLIER := by norm_num [PREMIUM_RESIDUAL_MULTIPLIER]
  exact add_le_add hclamp (mul_le_mul_of_nonneg_left htail hrate)

theorem le_softClip (p : ℚ) : PREMIUM_MIN_CLIPPING ≤ softClip p := by
  have hclamp := le_clamp p PREMIUM_MIN_CLIPPING PREMIUM_MAX_CLIPPING
  have htail : 0 ≤ PREMIUM_RESIDUAL_MULTIPLIER * max 0 (p - PREMIUM_MAX_CLIPPING) :=
    mul_nonneg (by norm_num [PREMIUM_RESIDUAL_MULTIPLIER]) (le_max_left _ _)
  rw [softClip]
  linarith

/-- From the ceiling on the clip is a line that rises. -/
theorem softClip_of_ge (h : PREMIUM_MAX_CLIPPING ≤ p) :
    softClip p =
      PREMIUM_MAX_CLIPPING + PREMIUM_RESIDUAL_MULTIPLIER * (p - PREMIUM_MAX_CLIPPING) := by
  have hrange : PREMIUM_MIN_CLIPPING ≤ PREMIUM_MAX_CLIPPING := by
    norm_num [PREMIUM_MIN_CLIPPING, PREMIUM_MAX_CLIPPING]
  rw [softClip, clamp, min_eq_left h, max_eq_right hrange, max_eq_right (sub_nonneg.mpr h)]

theorem softClip_strictMonoOn : StrictMonoOn softClip (Set.Ici PREMIUM_MAX_CLIPPING) := by
  intro p hp p' hp' hlt
  rw [softClip_of_ge hp, softClip_of_ge hp', PREMIUM_RESIDUAL_MULTIPLIER]
  linarith

end Clip

/-! ## The price -/

section Price

variable {r r' : PricingPayload}

theorem unclippedPremium_mono (hr : ValidPayload r) (hle : PayloadLe r r') :
    unclippedPremium none r ≤ unclippedPremium none r' := by
  have hCt : resolveCt r.platform r.Ct ≤ resolveCt r'.platform r'.Ct := by
    rw [hle.platform]
    exact resolveCt_mono hle.Ct
  have hzone := zoneMultiplier_mono hle.demand_ratio hle.zone_volatility
  have hCt_nonneg := resolveCt_nonneg r.platform r.Ct
  have hzone_nonneg := zoneMultiplier_nonneg r.demand_ratio r.zone_volatility
  have halpha : (0 : ℚ) ≤ ALPHA := by norm_num [ALPHA]
  have hEw := hr.Ew.trans hle.Ew
  have hLf := hr.Lf.1.trans hle.Lf
  have hM : 0 ≤ 1 + r.M := by linarith [hr.M.1]
  have hM' : 0 ≤ 1 + r'.M := by linarith [hle.M]
  have hLf_nonneg := hr.Lf.1
  have hmargin : 1 + r.M ≤ 1 + r'.M := by linarith [hle.M]
  have hCt_nonneg' := hCt_nonneg.trans hCt
  have hearned : r.Ew * ALPHA ≤ r'.Ew * ALPHA := mul_le_mul_of_nonneg_right hle.Ew halpha
  have hlost : r.Ew * ALPHA * r.Lf ≤ r'.Ew * ALPHA * r'.Lf :=
    mul_le_mul hearned hle.Lf hLf_nonneg (by positivity)
  have hcovered : r.Ew * ALPHA * r.Lf * resolveCt r.platform r.Ct ≤
      r'.Ew * ALPHA * r'.Lf * resolveCt r'.platform r'.Ct :=
    mul_le_mul hlost hCt hCt_nonneg (by positivity)
  have hloaded : r.Ew * ALPHA * r.Lf * resolveCt r.platform r.Ct * (1 + r.M) ≤
      r'.Ew * ALPHA * r'.Lf * resolveCt r'.platform r'.Ct * (1 + r'.M) :=
    mul_le_mul hcovered hmargin hM (by positivity)
  exact mul_le_mul hloaded hzone hzone_nonneg (by positivity)

theorem exactPremium_mono (hr : ValidPayload r) (hle : PayloadLe r r') :
    exactPremium r ≤ exactPremium r' := softClip_mono (unclippedPremium_mono hr hle)

theorem roundedPremium_ge : PREMIUM_MIN_CLIPPING ≤ (calculatePremium none r).premium := by
  have hfloor : ((50 : ℕ) : ℚ) ≤ softClip (unclippedPremium none r) := by
    exact_mod_cast le_softClip (unclippedPremium none r)
  exact_mod_cast le_roundTo_of_le 2 hfloor

/-- The price that is answered is the exact one, rounded; that one is no less than the floor,
rises with every input, and strictly with what is above the ceiling. -/
structure SoftTailLaw (r r' : PricingPayload) : Prop where
  answered : (calculatePremium none r).premium = roundTo 2 (exactPremium r)
  floor : PREMIUM_MIN_CLIPPING ≤ exactPremium r ∧
    PREMIUM_MIN_CLIPPING ≤ (calculatePremium none r).premium
  mono : PayloadLe r r' → exactPremium r ≤ exactPremium r'
  strict : PREMIUM_MAX_CLIPPING ≤ unclippedPremium none r →
    unclippedPremium none r < unclippedPremium none r' → exactPremium r < exactPremium r'

theorem soft_tail (r r' : PricingPayload) (hr : ValidPayload r) : SoftTailLaw r r' := by
  constructor
  case answered => rfl
  case floor => exact ⟨le_softClip _, roundedPremium_ge⟩
  case mono => exact exactPremium_mono hr
  case strict =>
    intro hceiling hlt
    exact softClip_strictMonoOn hceiling (hceiling.trans hlt.le) hlt

/-- The clip leaves 305.1 of 810 rupees and 309.15 of 1215. -/
theorem soft_tail_busy :
    exactPremium ⟨60000, 1, some (9 / 10), 0, none, 1, 0⟩ <
      exactPremium ⟨90000, 1, some (9 / 10), 0, none, 1, 0⟩ := by
  have hr : ValidPayload ⟨60000, 1, some (9 / 10), 0, none, 1, 0⟩ := by
    constructor
    case Ct =>
      intro ct hct
      cases hct
      norm_num
    all_goals norm_num
  exact (soft_tail _ ⟨90000, 1, some (9 / 10), 0, none, 1, 0⟩ hr).strict (by decide +kernel)
    (by decide +kernel)

end Price

end Aegis.PricingService
