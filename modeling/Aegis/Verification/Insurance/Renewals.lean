import Aegis.Verification.Insurance.Intervals

/-! # Cover across a renewal

A renewal ends the driver's cover at once. The new cover starts at the same instant for a
weekly plan and after the cooling-off day otherwise. -/

namespace Aegis.InsuranceService

open Outcome PayoutService PremiumService
open Payments (endPolicies weeklyPolicy MS_PER_DAY)

/-- The instants at which one of the driver's ACTIVE policies is in force. -/
def covered (db : Db) (userId : String) : Set ℤ := ⋃ p ∈ activePolicies db userId, cover p

theorem mem_covered {db : Db} {userId : String} {t : ℤ} :
    t ∈ covered db userId ↔ ∃ p ∈ activePolicies db userId, t ∈ cover p := by
  simp [covered]

/-! ## The new cover -/

/-- Old cover ends at `ended`; the new policy runs from `start` until `stop`. -/
structure Span where
  ended : ℤ
  start : ℤ
  stop : ℤ
  deriving DecidableEq, Repr

def Span.cover (span : Span) : Set ℤ := Set.Ico span.start span.stop

section Property

variable (cfg : Config) (io : RenewIo) (driverId : String)

/-- The span of a renewal, by the way it takes. -/
def renewalSpan (db : Db) (latest : Policy) : Option Span :=
  match truthy latest.weeklyPlanId with
  | some weeklyPlanId =>
      (db.weeklyPlans.findUnique (.id weeklyPlanId)).map fun plan =>
        ⟨io.now, io.now, io.now + plan.durationDays * MS_PER_DAY⟩
  | none =>
      some ⟨io.enroll.now, io.enroll.now + MS_PER_DAY,
        io.enroll.now + MS_PER_DAY + 7 * MS_PER_DAY⟩

/-- No instant from now on loses its cover. -/
def KeepsCover (s : System) : Prop :=
  covered s.db driverId ∩ Set.Ici io.now ⊆
    covered (renewPolicy cfg io driverId s).2.db driverId

/-- What an ACTIVE policy would still have covered lies within the new span. -/
def Bridged (db : Db) : Prop :=
  ∀ latest ∈ latestPolicy driverId db, ∀ span ∈ renewalSpan io db latest,
    ∀ p ∈ db.policies.rows, p.userId = driverId → p.status = .ACTIVE →
      max (max io.now span.ended) p.startDate < p.endDate →
        span.start ≤ max (max io.now span.ended) p.startDate ∧ p.endDate ≤ span.stop

instance (db : Db) : Decidable (Bridged io driverId db) :=
  inferInstanceAs (Decidable (∀ latest ∈ _, _))

end Property

/-! ## Old and new cover -/

section Sold

variable {now : ℤ} {userId : String} {db db' : Db} {q : Policy}

/-- Ending the policies cuts their cover off, and nothing else. -/
theorem covered_endPolicies (now : ℤ) (userId : String) (db : Db) :
    covered (endPolicies now userId db) userId = covered db userId ∩ Set.Iio now := by
  ext t
  simp only [Set.mem_inter_iff, mem_covered, Set.mem_Iio, cover, Set.mem_Ico]
  constructor
  · rintro ⟨p, hp, hstart, hend⟩
    have hover := hend.trans_le (endDate_le_of_endPolicies hp)
    obtain ⟨hrow, huser, hactive⟩ := hp
    obtain ⟨r, hr, rfl⟩ := Table.mem_updateMany.mp hrow
    by_cases hended : (r.userId = userId && r.status = .ACTIVE && now < r.endDate) = true
    · rw [if_pos hended] at huser hactive hstart
      simp only [Bool.and_eq_true, decide_eq_true_eq] at hended
      exact ⟨⟨r, ⟨hr, huser, hactive⟩, hstart, hover.trans hended.2⟩, hover⟩
    · rw [if_neg hended] at huser hactive hstart hend
      exact ⟨⟨r, ⟨hr, huser, hactive⟩, hstart, hend⟩, hover⟩
  · rintro ⟨⟨r, ⟨hr, huser, hactive⟩, hstart, hend⟩, hover⟩
    by_cases hlive : now < r.endDate
    · have hmem : { r with endDate := now } ∈ (endPolicies now userId db).policies.rows :=
        Table.mem_updateMany.mpr ⟨r, hr, by simp [huser, hactive, hlive]⟩
      exact ⟨{ r with endDate := now }, ⟨hmem, huser, hactive⟩, hstart, hover⟩
    · have hmem : r ∈ (endPolicies now userId db).policies.rows :=
        Table.mem_updateMany.mpr ⟨r, hr, by simp [hlive]⟩
      exact ⟨r, ⟨hmem, huser, hactive⟩, hstart, hend⟩

theorem covered_sold (hsold : (endPolicies now userId db).policies.create q = some db'.policies)
    (huser : q.userId = userId) (hactive : q.status = .ACTIVE) :
    covered db' userId = covered db userId ∩ Set.Iio now ∪ cover q := by
  rw [← covered_endPolicies]
  ext t
  simp only [Set.mem_union, mem_covered]
  constructor
  · rintro ⟨p, ⟨hp, hpuser, hpactive⟩, ht⟩
    rcases (Table.mem_create hsold).mp hp with hold | rfl
    · exact .inl ⟨p, ⟨hold, hpuser, hpactive⟩, ht⟩
    · exact .inr ht
  · rintro (⟨p, ⟨hp, hpuser, hpactive⟩, ht⟩ | ht)
    · exact ⟨p, ⟨(Table.mem_create hsold).mpr (.inl hp), hpuser, hpactive⟩, ht⟩
    · exact ⟨q, ⟨(Table.mem_create hsold).mpr (.inr rfl), huser, hactive⟩, ht⟩

end Sold

section Renewal

variable {cfg : Config} {io : RenewIo} {driverId : String} {s s' : System}

theorem issueEnrolment_sold {io : EnrollIo} {quote quote' : Quote}
    (h : issueEnrolment io driverId quote s = (.ok quote', s')) :
    (endPolicies io.now driverId s.db).policies.create (enrolledPolicy io driverId quote) =
      some s'.db.policies := by
  unfold issueEnrolment at h
  split at h
  · dsimp only at h
    split at h
    · cases h
    · rename_i created hcreate
      split at h
      · cases h
      · rename_i db hpaid
        cases h
        obtain ⟨-, policies, hsold, rfl⟩ := createPolicy_eq_ok.mp hcreate
        rw [hsold, collect_policies hpaid]
  · cases h

theorem renewWeekly_sold {weeklyPlanId : String} {renewal : Renewal}
    (h : renewWeekly io driverId weeklyPlanId s = (.ok renewal, s')) :
    ∃ plan premium, s.db.weeklyPlans.findUnique (.id weeklyPlanId) = some plan ∧
      (endPolicies io.now driverId s.db).policies.create
          (weeklyPolicy io.now io.policyId driverId plan premium) = some s'.db.policies := by
  unfold renewWeekly at h
  split at h
  · cases h
  · rename_i plan quote redis hquote
    have hplan : s.db.weeklyPlans.findUnique (.id weeklyPlanId) = some plan := by
      obtain ⟨_, -, hrest⟩ := bind_eq_ok.mp hquote
      obtain ⟨found, hfound, hrest⟩ := bind_eq_ok.mp hrest
      obtain ⟨_, -, hrest⟩ := bind_eq_ok.mp hrest
      cases hrest
      exact orThrow_eq_ok.mp hfound
    refine ⟨plan, quote.premium, hplan, ?_⟩
    split at h
    · dsimp only at h
      split at h
      · cases h
      · rename_i created hcreate
        split at h
        · cases h
        · rename_i db hpaid
          cases h
          obtain ⟨-, policies, hsold, rfl⟩ := createPolicy_eq_ok.mp hcreate
          rw [hsold, collect_policies hpaid]
    · cases h

theorem latestPolicy_of_renewable {latest : Policy} (h : renewable io driverId s.db = .ok latest) :
    latestPolicy driverId s.db = some latest := by
  obtain ⟨_, -, h⟩ := bind_eq_ok.mp h
  obtain ⟨found, hfound, h⟩ := bind_eq_ok.mp h
  obtain ⟨_, -, h⟩ := bind_eq_ok.mp h
  cases h
  exact orThrow_eq_ok.mp hfound

/-- A renewal that succeeds sells the latest policy anew for its span. -/
theorem renewPolicy_sold {renewal : Renewal}
    (h : renewPolicy cfg io driverId s = (.ok renewal, s')) :
    ∃ latest span q, latestPolicy driverId s.db = some latest ∧
      renewalSpan io s.db latest = some span ∧ q.userId = driverId ∧ q.status = .ACTIVE ∧
      cover q = span.cover ∧
      (endPolicies span.ended driverId s.db).policies.create q = some s'.db.policies := by
  unfold renewPolicy at h
  split at h
  · cases h
  · rename_i latest hrenewable
    have hlatest := latestPolicy_of_renewable hrenewable
    split at h
    · rename_i weeklyPlanId hplan
      obtain ⟨plan, premium, hfound, hsold⟩ := renewWeekly_sold h
      have hspan : renewalSpan io s.db latest =
          some ⟨io.now, io.now, io.now + plan.durationDays * MS_PER_DAY⟩ := by
        simp [renewalSpan, hplan, hfound]
      exact ⟨latest, _, _, hlatest, hspan, rfl, rfl, rfl, hsold⟩
    · rename_i hplan
      have hspan : renewalSpan io s.db latest =
          some ⟨io.enroll.now, io.enroll.now + MS_PER_DAY,
            io.enroll.now + MS_PER_DAY + 7 * MS_PER_DAY⟩ := by
        simp [renewalSpan, hplan]
      split at h
      · cases h
      · rename_i quote after henroll
        cases h
        unfold enrollPolicy at henroll
        split at henroll
        · cases henroll
        · exact ⟨latest, _, _, hlatest, hspan, rfl, rfl, rfl, issueEnrolment_sold henroll⟩

/-- Nothing is lost exactly when the new span holds all that is still covered. -/
theorem keepsCover_iff {renewal : Renewal}
    (h : (renewPolicy cfg io driverId s).1 = .ok renewal) :
    KeepsCover cfg io driverId s ↔ Bridged io driverId s.db := by
  have hcall : renewPolicy cfg io driverId s =
      (.ok renewal, (renewPolicy cfg io driverId s).2) := by rw [← h]
  obtain ⟨latest, span, q, hlatest, hspan, huser, hactive, hcover, hsold⟩ := renewPolicy_sold hcall
  rw [KeepsCover, covered_sold hsold huser hactive, hcover]
  have hbridged : Bridged io driverId s.db ↔ ∀ p ∈ activePolicies s.db driverId,
      max (max io.now span.ended) p.startDate < p.endDate →
        span.start ≤ max (max io.now span.ended) p.startDate ∧ p.endDate ≤ span.stop := by
    simp only [Bridged, hlatest, Option.mem_some_iff, forall_eq', hspan, activePolicies,
      Set.mem_ofPred_eq, and_imp]
  rw [hbridged]
  constructor
  · intro hkeeps p hp hleft
    have hin : Set.Ico (max (max io.now span.ended) p.startDate) p.endDate ⊆ span.cover := by
      intro t ht
      obtain ⟨hmax, hend⟩ := ht
      simp only [max_le_iff] at hmax
      have hold : t ∈ covered s.db driverId := mem_covered.mpr ⟨p, hp, hmax.2, hend⟩
      rcases hkeeps ⟨hold, hmax.1.1⟩ with ⟨-, hbefore⟩ | hnew
      · exact absurd hmax.1.2 (not_le.mpr hbefore)
      · exact hnew
    exact (Set.Ico_subset_Ico_iff hleft).mp hin
  · rintro hbridge t ⟨hold, hnow⟩
    obtain ⟨p, hp, hstart, hend⟩ := mem_covered.mp hold
    by_cases hbefore : t < span.ended
    · exact .inl ⟨hold, hbefore⟩
    · have hmax : max (max io.now span.ended) p.startDate ≤ t :=
        max_le (max_le hnow (not_lt.mp hbefore)) hstart
      obtain ⟨hfrom, hto⟩ := hbridge p hp (hmax.trans_lt hend)
      exact .inr ⟨hfrom.trans hmax, hend.trans_le hto⟩

end Renewal

/-! ## An hour before the end -/

namespace LastHour

/-- The eighth day after the sale. -/
def now : ℤ := 8 * MS_PER_DAY - 3600000

/-- A policy of the first kind has a weekly plan, one of the second kind an enrolment. -/
def held (weeklyPlanId : Option String) : Policy where
  id := "p1"
  userId := "u1"
  planType := "STANDARD"
  status := .ACTIVE
  premium := 25
  startDate := MS_PER_DAY
  endDate := 8 * MS_PER_DAY
  createdAt := 0
  weeklyPlanId := weeklyPlanId

def store (weeklyPlanId : Option String) : System where
  db := { Sale.start.db with policies := .singleton (held weeklyPlanId) }
  redis :=
    { drivers := RedisState.setEx (fun _ => none) now RedisState.DRIVER_STATE_TTL "u1"
        { last_location := some ⟨some 13, some 80, some Sale.cell⟩ } }

def renewIo : RenewIo where
  now := now
  readLatest := true
  readPlan := true
  premium := { Sale.orderIo.premium with now := now }
  endOld := true
  policyId := "p2"
  createPolicy := true
  pool := .available
  enroll := { Sale.enrollIo with now := now, policyId := "p2" }

end LastHour

open LastHour in
/-- A weekly plan is renewed without a gap. -/
theorem keepsCover_weekly :
    KeepsCover Sale.services.insurance renewIo "u1" (store (some "wp1")) :=
  (keepsCover_iff (show _ = Except.ok (Renewal.weekly "p2") by decide +kernel)).mpr
    (by decide)

open LastHour in
/-- The renewal of an enrolment succeeds, and the last hour of the old cover is gone. -/
theorem not_keepsCover_enrolled :
    (renewPolicy Sale.services.insurance renewIo "u1" (store none)).1.isOk = true ∧
      ¬KeepsCover Sale.services.insurance renewIo "u1" (store none) := by
  refine ⟨by decide +kernel, fun h => ?_⟩
  have hold : now ∈ covered (store none).db "u1" :=
    mem_covered.mpr ⟨held none, ⟨by decide, rfl, rfl⟩, by decide, by decide⟩
  obtain ⟨p, ⟨hp, -, -⟩, ht⟩ := mem_covered.mp (h ⟨hold, le_refl now⟩)
  have hnone :
      ∀ p ∈ (renewPolicy Sale.services.insurance renewIo "u1" (store none)).2.db.policies.rows,
      ¬(p.startDate ≤ now ∧ now < p.endDate) := by decide +kernel
  exact hnone p hp ht

end Aegis.InsuranceService
