import Aegis.Library.Run
import Aegis.Verification.Identity.Redemptions

/-! # One redemption for each code

The flag of a used code is set after the signatures, and the callback does not look at it. -/

namespace Aegis.DynamicQCommerce

open Run

/-! ## The law -/

section Law

variable {τ : Type}

/-- The call has returned normally. -/
def RedemptionPc.Succeeded : RedemptionPc → Prop
  | .exchanged _ | .calledBack _ => True
  | _ => False

instance : DecidablePred RedemptionPc.Succeeded
  | .exchanged _ | .calledBack _ => .isTrue trivial
  | .start | .signingAccess _ | .signingId _ | .failed _ => .isFalse id

def AtMostOnce (s : Redemptions τ) : Prop :=
  ∀ t t', (s.pc t).Succeeded → (s.pc t').Succeeded → t = t'

/-- The session object is not marked as used. -/
def Unmarked (s : Redemptions τ) (sessionId : String) : Prop :=
  ∀ session ∈ s.objects sessionId, session.consumedAt = none

/-- Neither an exchange nor a callback has used the session. -/
def Unused (s : Redemptions τ) (sessionId : String) : Prop :=
  Unmarked s sessionId ∧ ∀ t profile, s.pc t ≠ .calledBack profile

/-- An exchange whose last signature succeeds finds the session unused, and so does a callback
that passes its checks. -/
def FindsUnused (calls : τ → RedemptionCall) (s : Redemptions τ) (turn : Turn τ) : Prop :=
  match calls turn.thread, s.pc turn.thread with
  | .exchange _ _ params, .signingAccess result =>
      turn.signs = true → result.openid = false → Unused s params.sessionId
  | .exchange _ _ params, .signingId _ => turn.signs = true → Unused s params.sessionId
  | .callback io dto, .start =>
      (∃ session, Admitted io dto s.registry session) → Unmarked s dto.sessionId
  | _, _ => True

end Law

/-! ## What the state knows of the calls -/

section Invariant

variable {τ : Type} [DecidableEq τ]

/-- The call is signing for the session. -/
def RedemptionPc.Signing : RedemptionPc → Prop
  | .signingAccess _ | .signingId _ => True
  | _ => False

/-- There is one session object. It is marked by exchanges, and a callback removes it from the
sessions that are found. -/
structure Tracked (sessionId : String) (calls : τ → RedemptionCall) (s : Redemptions τ) : Prop where
  found : ∀ id session, s.registry.sessions id = some session → s.objects id = some session
  only : ∀ id, (s.objects id).isSome → id = sessionId
  signing : ∀ t io provider params, calls t = .exchange io provider params → (s.pc t).Signing →
    params.sessionId = sessionId ∧ (s.objects sessionId).isSome
  exchanged : ∀ t result, s.pc t = .exchanged result → ¬Unmarked s sessionId
  marked : ¬Unmarked s sessionId → ∃ t result, s.pc t = .exchanged result
  calledBack : ∀ t profile, s.pc t = .calledBack profile → s.registry.sessions sessionId = none

variable {sessionId : String} {calls : τ → RedemptionCall} {s : Redemptions τ} {t : τ}

@[simp] theorem goTo_pc_self (pc : RedemptionPc) : (s.goTo t pc).pc t = pc :=
  Function.update_self ..

theorem goTo_pc_of_ne {t' : τ} (pc : RedemptionPc) (h : t' ≠ t) : (s.goTo t pc).pc t' = s.pc t' :=
  Function.update_of_ne h ..

/-- What a turn can do. -/
inductive Stepped (cfg : Config) (calls : τ → RedemptionCall) (s : Redemptions τ)
    (turn : Turn τ) : Redemptions τ → Prop where
  | stays (hfinds : FindsUnused calls s turn) : Stepped cfg calls s turn s
  | moves (registry : Registry) (pc : RedemptionPc) (hfinds : FindsUnused calls s turn)
      (hshrinks : Shrinks s.registry registry) (hpc : ¬pc.Succeeded)
      (hbefore : ¬(s.pc turn.thread).Succeeded)
      (hsigning : pc.Signing → ∃ io provider params,
        calls turn.thread = .exchange io provider params ∧
          ((s.pc turn.thread).Signing ∨ (s.registry.sessions params.sessionId).isSome)) :
      Stepped cfg calls s turn ({ s with registry }.goTo turn.thread pc)
  | exchanges (io : Io) (provider : QCommerceProvider) (params : ExchangeParams)
      (result : ExchangeResult) (hcall : calls turn.thread = .exchange io provider params)
      (hsigning : (s.pc turn.thread).Signing)
      (hfinds : FindsUnused calls s turn ↔ Unused s params.sessionId) :
      Stepped cfg calls s turn (s.finishExchange turn.thread turn.now params.sessionId result)
  | callsBack (io : Io) (dto : CallbackDto) (session : OAuthSessionState) (profile : StaticProfile)
      (driverRecords : String → Option DriverRecord)
      (hcall : calls turn.thread = .callback io dto) (hstart : s.pc turn.thread = .start)
      (hadmitted : Admitted io dto s.registry session)
      (hfinds : FindsUnused calls s turn ↔ Unmarked s dto.sessionId) :
      Stepped cfg calls s turn
        ({ s with
            registry := ⟨Function.update s.registry.sessions dto.sessionId none, driverRecords⟩
          }.goTo turn.thread (.calledBack profile))

theorem stepped_step (cfg : Config) (calls : τ → RedemptionCall) (s : Redemptions τ)
    (turn : Turn τ) : Stepped cfg calls s turn (s.step cfg calls turn) := by
  obtain ⟨t, now, signs⟩ := turn
  cases hcall : calls t with
  | exchange io provider params =>
      cases hpc : s.pc t with
      | start =>
          have hfinds : FindsUnused calls s ⟨t, now, signs⟩ := by
            simp only [FindsUnused, hcall, hpc]
          by_cases h : ∃ session secret,
              Exchangeable cfg io provider params s.registry session secret
          · obtain ⟨session, secret, hmet⟩ := h
            simp only [Redemptions.step, hcall, hpc, beginExchange_of_exchangeable hmet]
            exact .moves _ _ hfinds (.of_eq rfl) id (by simp [hpc, RedemptionPc.Succeeded])
              fun _ => ⟨io, provider, params, hcall, .inr (by simp [hmet.mem])⟩
          · push Not at h
            obtain ⟨e, r', hrun, hshrinks⟩ := beginExchange_of_not h
            simp only [Redemptions.step, hcall, hpc, hrun]
            exact .moves _ _ hfinds hshrinks id (by simp [hpc, RedemptionPc.Succeeded]) nofun
      | signingAccess result =>
          have hsigning : (s.pc t).Signing := by simp [hpc, RedemptionPc.Signing]
          have hbefore : ¬(s.pc t).Succeeded := by simp [hpc, RedemptionPc.Succeeded]
          simp only [Redemptions.step, hcall, hpc]
          split
          · rename_i hsigns
            split
            · rename_i hopenid
              exact .moves _ _ (by simp [FindsUnused, hcall, hpc, hopenid]) (.refl _) id hbefore
                fun _ => ⟨io, provider, params, hcall, .inl hsigning⟩
            · rename_i hopenid
              exact .exchanges io provider params result hcall hsigning
                (by simp [FindsUnused, hcall, hpc, hopenid, hsigns])
          · rename_i hsigns
            exact .moves _ _ (by simp [FindsUnused, hcall, hpc, hsigns]) (.refl _) id hbefore nofun
      | signingId result =>
          have hsigning : (s.pc t).Signing := by simp [hpc, RedemptionPc.Signing]
          have hbefore : ¬(s.pc t).Succeeded := by simp [hpc, RedemptionPc.Succeeded]
          simp only [Redemptions.step, hcall, hpc]
          split
          · rename_i hsigns
            exact .exchanges io provider params result hcall hsigning
              (by simp [FindsUnused, hcall, hpc, hsigns])
          · rename_i hsigns
            exact .moves _ _ (by simp [FindsUnused, hcall, hpc, hsigns]) (.refl _) id hbefore nofun
      | exchanged result =>
          simp only [Redemptions.step, hcall, hpc]
          exact .stays (by simp only [FindsUnused, hcall, hpc])
      | calledBack profile =>
          simp only [Redemptions.step, hcall, hpc]
          exact .stays (by simp only [FindsUnused, hcall, hpc])
      | failed e =>
          simp only [Redemptions.step, hcall, hpc]
          exact .stays (by simp only [FindsUnused, hcall, hpc])
  | callback io dto =>
      by_cases hpc : s.pc t = .start
      · by_cases h : ∃ session, Admitted io dto s.registry session
        · obtain ⟨session, hadmitted⟩ := h
          simp only [Redemptions.step, hcall, hpc, completeOAuthCallback_of_admitted cfg hadmitted]
          refine .callsBack io dto session _ _ hcall hpc hadmitted ?_
          simp only [FindsUnused, hcall, hpc]
          exact ⟨fun h => h ⟨session, hadmitted⟩, fun h _ => h⟩
        · have hfinds : FindsUnused calls s ⟨t, now, signs⟩ := by
            simp only [FindsUnused, hcall, hpc]
            exact fun hadmitted => absurd hadmitted h
          push Not at h
          obtain ⟨e, r', hrun, hshrinks⟩ := completeOAuthCallback_of_not cfg h
          simp only [Redemptions.step, hcall, hpc, hrun]
          exact .moves _ _ hfinds hshrinks id (by simp [hpc, RedemptionPc.Succeeded]) nofun
      · have hstays : s.step cfg calls ⟨t, now, signs⟩ = s := by
          simp only [Redemptions.step, hcall]
          split <;> simp_all
        rw [hstays]
        refine .stays ?_
        simp only [FindsUnused, hcall]
        split <;> simp_all

section Steps

variable {cfg : Config} {s' : Redemptions τ} {turn : Turn τ}

theorem mark_self (now : ℤ) (sessions : String → Option OAuthSessionState) :
    mark now sessionId sessions sessionId =
      (sessions sessionId).map fun session => { session with consumedAt := some now } :=
  Function.update_self ..

theorem mark_of_ne (now : ℤ) (sessions : String → Option OAuthSessionState) {id : String}
    (h : id ≠ sessionId) : mark now sessionId sessions id = sessions id :=
  Function.update_of_ne h ..

omit [DecidableEq τ] in
theorem Tracked.mark (hs : Tracked sessionId calls s) (now : ℤ) :
    (∀ id session, DynamicQCommerce.mark now sessionId s.registry.sessions id = some session →
      DynamicQCommerce.mark now sessionId s.objects id = some session) ∧
    ∀ id, (DynamicQCommerce.mark now sessionId s.objects id).isSome = (s.objects id).isSome := by
  constructor
  · intro id session h
    by_cases hid : id = sessionId
    · subst hid
      rw [mark_self, Option.map_eq_some_iff] at h
      obtain ⟨found, hfound, rfl⟩ := h
      rw [mark_self, hs.found _ _ hfound, Option.map_some]
    · rw [mark_of_ne now _ hid] at h ⊢
      exact hs.found id session h
  · intro id
    by_cases hid : id = sessionId
    · subst hid
      rw [mark_self, Option.isSome_map]
    · rw [mark_of_ne now _ hid]

omit [DecidableEq τ] in
theorem Tracked.sessionId_eq (hs : Tracked sessionId calls s) {id : String}
    (h : (s.registry.sessions id).isSome) : id = sessionId ∧ (s.objects sessionId).isSome := by
  obtain ⟨session, hsession⟩ := Option.isSome_iff_exists.mp h
  have hobject : (s.objects id).isSome := by rw [hs.found id session hsession]; rfl
  obtain rfl := hs.only id hobject
  exact ⟨rfl, hobject⟩

/-- A call that does not succeed leaves the objects alone. -/
theorem Tracked.moves (hs : Tracked sessionId calls s) {registry : Registry} {pc : RedemptionPc}
    (hshrinks : Shrinks s.registry registry) (hpc : ¬pc.Succeeded)
    (hbefore : ¬(s.pc t).Succeeded)
    (hsigning : pc.Signing → ∃ io provider params, calls t = .exchange io provider params ∧
      ((s.pc t).Signing ∨ (s.registry.sessions params.sessionId).isSome)) :
    Tracked sessionId calls ({ s with registry }.goTo t pc) where
  found id session h := hs.found id session (hshrinks id session h)
  only := hs.only
  signing t' io provider params hcall h := by
    by_cases ht : t' = t
    · subst ht
      rw [goTo_pc_self] at h
      obtain ⟨io', provider', params', hcall', hwhere⟩ := hsigning h
      obtain ⟨rfl, rfl, rfl⟩ := RedemptionCall.exchange.inj (hcall.symm.trans hcall')
      rcases hwhere with hwhere | hwhere
      · exact hs.signing t' io provider params hcall hwhere
      · exact hs.sessionId_eq hwhere
    · rw [goTo_pc_of_ne pc ht] at h
      exact hs.signing t' io provider params hcall h
  exchanged t' result h := by
    by_cases ht : t' = t
    · subst ht
      rw [goTo_pc_self] at h
      exact absurd (h ▸ trivial) hpc
    · rw [goTo_pc_of_ne pc ht] at h
      exact hs.exchanged t' result h
  marked h := by
    obtain ⟨t', result, ht'⟩ := hs.marked h
    have ht : t' ≠ t := by
      rintro rfl
      exact hbefore (ht' ▸ trivial)
    exact ⟨t', result, (goTo_pc_of_ne pc ht).trans ht'⟩
  calledBack t' profile h := by
    have hnone : s.registry.sessions sessionId = none := by
      by_cases ht : t' = t
      · subst ht
        rw [goTo_pc_self] at h
        exact absurd (h ▸ trivial) hpc
      · rw [goTo_pc_of_ne pc ht] at h
        exact hs.calledBack t' profile h
    by_contra hsome
    obtain ⟨session, hsession⟩ := Option.ne_none_iff_exists'.mp hsome
    rw [hshrinks sessionId session hsession] at hnone
    cases hnone

theorem Tracked.exchanges (hs : Tracked sessionId calls s) {io : Io}
    {provider : QCommerceProvider} {params : ExchangeParams} (now : ℤ) (result : ExchangeResult)
    (hcall : calls t = .exchange io provider params) (hsigning : (s.pc t).Signing) :
    Tracked sessionId calls (s.finishExchange t now params.sessionId result) := by
  obtain ⟨hid, hobject⟩ := hs.signing t io provider params hcall hsigning
  rw [hid]
  obtain ⟨hfound, hsome⟩ := hs.mark now
  have hmarked : ¬Unmarked (s.finishExchange t now sessionId result) sessionId := by
    obtain ⟨session, hsession⟩ := Option.isSome_iff_exists.mp hobject
    intro h
    have hnone := h { session with consumedAt := some now } (by
      change DynamicQCommerce.mark now sessionId s.objects sessionId = _
      rw [mark_self, hsession, Option.map_some])
    cases hnone
  exact
    { found := hfound
      only := fun id h => hs.only id ((hsome id).symm.trans h)
      signing := by
        intro t' io' provider' params' hcall' h
        have ht : t' ≠ t := by
          rintro rfl
          rw [Redemptions.finishExchange, goTo_pc_self] at h
          exact h
        rw [Redemptions.finishExchange, goTo_pc_of_ne _ ht] at h
        obtain ⟨hid', hobject'⟩ := hs.signing t' io' provider' params' hcall' h
        exact ⟨hid', (hsome sessionId).trans hobject'⟩
      exchanged := fun _ _ _ => hmarked
      marked := fun _ => ⟨t, result, goTo_pc_self _⟩
      calledBack := by
        intro t' profile h
        have ht : t' ≠ t := by
          rintro rfl
          rw [Redemptions.finishExchange, goTo_pc_self] at h
          cases h
        rw [Redemptions.finishExchange, goTo_pc_of_ne _ ht] at h
        change DynamicQCommerce.mark now sessionId s.registry.sessions sessionId = none
        rw [mark_self, hs.calledBack t' profile h, Option.map_none] }

theorem Tracked.callsBack (hs : Tracked sessionId calls s) {io : Io} {dto : CallbackDto}
    {session : OAuthSessionState} {profile : StaticProfile}
    {driverRecords : String → Option DriverRecord} (hcall : calls t = .callback io dto)
    (hstart : s.pc t = .start) (hadmitted : Admitted io dto s.registry session) :
    Tracked sessionId calls
      ({ s with
          registry := ⟨Function.update s.registry.sessions dto.sessionId none, driverRecords⟩
        }.goTo t (.calledBack profile)) := by
  have hid : dto.sessionId = sessionId := (hs.sessionId_eq (by rw [hadmitted.mem]; rfl)).1
  rw [hid]
  exact
    { found := fun id found h => hs.found id found (Shrinks.forget s.registry sessionId id found h)
      only := hs.only
      signing := by
        intro t' io' provider' params' hcall' h
        have ht : t' ≠ t := by
          rintro rfl
          rw [hcall] at hcall'
          cases hcall'
        rw [goTo_pc_of_ne _ ht] at h
        exact hs.signing t' io' provider' params' hcall' h
      exchanged := by
        intro t' result h
        have ht : t' ≠ t := by
          rintro rfl
          rw [goTo_pc_self] at h
          cases h
        rw [goTo_pc_of_ne _ ht] at h
        exact hs.exchanged t' result h
      marked := by
        intro h
        obtain ⟨t', result, ht'⟩ := hs.marked h
        have ht : t' ≠ t := by
          rintro rfl
          rw [hstart] at ht'
          cases ht'
        exact ⟨t', result, (goTo_pc_of_ne _ ht).trans ht'⟩
      calledBack := fun _ _ _ => Function.update_self .. }

theorem Stepped.tracked (hstep : Stepped cfg calls s turn s') (hs : Tracked sessionId calls s) :
    Tracked sessionId calls s' := by
  cases hstep with
  | stays => exact hs
  | moves registry pc hfinds hshrinks hpc hbefore hsigning =>
      exact hs.moves hshrinks hpc hbefore hsigning
  | exchanges io provider params result hcall hsigning hfinds =>
      exact hs.exchanges turn.now result hcall hsigning
  | callsBack io dto session profile driverRecords hcall hstart hadmitted hfinds =>
      exact hs.callsBack hcall hstart hadmitted

/-- Who succeeds is the only one exactly if nobody has succeeded before. -/
theorem atMostOnce_goTo_iff {pc : RedemptionPc} (hpc : pc.Succeeded) (hfresh : ¬(s.pc t).Succeeded)
    {r : Registry} {objects : String → Option OAuthSessionState} :
    AtMostOnce (Redemptions.goTo { s with registry := r, objects } t pc) ↔
      ∀ t', ¬(s.pc t').Succeeded := by
  constructor
  · intro h t' hsucceeded
    have ht : t' ≠ t := by
      rintro rfl
      exact hfresh hsucceeded
    refine ht (h t' t ?_ ?_)
    · rwa [goTo_pc_of_ne pc ht]
    · rwa [goTo_pc_self]
  · intro h t₁ t₂ h₁ h₂
    have honly :
        ∀ t', (Redemptions.goTo { s with registry := r, objects } t pc).pc t' |>.Succeeded →
        t' = t := by
      intro t' h'
      by_contra ht
      rw [goTo_pc_of_ne pc ht] at h'
      exact h t' h'
    rw [honly t₁ h₁, honly t₂ h₂]

omit [DecidableEq τ] in
/-- Nobody has succeeded exactly if the session is unused. -/
theorem Tracked.unused_iff (hs : Tracked sessionId calls s) :
    Unused s sessionId ↔ ∀ t, ¬(s.pc t).Succeeded := by
  constructor
  · rintro ⟨hunmarked, hcallback⟩ t hsucceeded
    cases hpc : s.pc t with
    | exchanged result => exact hs.exchanged t result hpc hunmarked
    | calledBack profile => exact hcallback t profile hpc
    | start | signingAccess | signingId | failed => rw [hpc] at hsucceeded; exact hsucceeded
  · intro h
    constructor
    · by_contra hmarked
      obtain ⟨t, result, ht⟩ := hs.marked hmarked
      exact h t (ht ▸ trivial)
    · intro t profile ht
      exact h t (ht ▸ trivial)

theorem Stepped.atMostOnce_iff (hstep : Stepped cfg calls s turn s')
    (hs : Tracked sessionId calls s) (hbefore : AtMostOnce s) :
    AtMostOnce s' ↔ FindsUnused calls s turn := by
  cases hstep with
  | stays hfinds => exact iff_of_true hbefore hfinds
  | moves registry pc hfinds hshrinks hpc =>
      refine iff_of_true (fun t₁ t₂ h₁ h₂ => ?_) hfinds
      have hother : ∀ t', (Redemptions.goTo { s with registry } turn.thread pc).pc t' |>.Succeeded →
          (s.pc t').Succeeded := by
        intro t' h'
        by_cases ht : t' = turn.thread
        · subst ht
          rw [goTo_pc_self] at h'
          exact absurd h' hpc
        · rwa [goTo_pc_of_ne pc ht] at h'
      exact hbefore t₁ t₂ (hother t₁ h₁) (hother t₂ h₂)
  | exchanges io provider params result hcall hsigning hfinds =>
      have hfresh : ¬(s.pc turn.thread).Succeeded := by
        intro h
        cases hpc : s.pc turn.thread <;> simp_all [RedemptionPc.Signing, RedemptionPc.Succeeded]
      obtain ⟨hid, -⟩ := hs.signing _ io provider params hcall hsigning
      rw [hfinds, hid, hs.unused_iff, Redemptions.finishExchange]
      refine atMostOnce_goTo_iff ?_ hfresh
      exact trivial
  | callsBack io dto session profile driverRecords hcall hstart hadmitted hfinds =>
      have hid : dto.sessionId = sessionId := (hs.sessionId_eq (by rw [hadmitted.mem]; rfl)).1
      -- the session is still found, so no callback has removed it
      have hcallback : ∀ t profile, s.pc t ≠ .calledBack profile := by
        intro t profile ht
        have hnone := hs.calledBack t profile ht
        rw [← hid, hadmitted.mem] at hnone
        cases hnone
      have hunused : Unmarked s sessionId ↔ Unused s sessionId :=
        ⟨fun h => ⟨h, hcallback⟩, fun h => h.1⟩
      rw [hfinds, hid, hunused, hs.unused_iff]
      refine atMostOnce_goTo_iff ?_ (by rw [hstart]; exact id)
      exact trivial

end Steps

end Invariant

/-! ## Whole interleavings -/

section Runs

variable {τ : Type} [DecidableEq τ] (cfg : Config) (calls : τ → RedemptionCall) (io : Io)
  (dto : LoginDto) (driverRecords : String → Option DriverRecord)

omit [DecidableEq τ] in
/-- The session of the run, if it could be created. -/
theorem init_sessions :
    (Redemptions.init io dto driverRecords : Redemptions τ).objects = (fun _ => none) ∨
      (Redemptions.init io dto driverRecords : Redemptions τ).objects =
        Function.update (fun _ => none) io.sessionId (some (newSession io dto)) := by
  simp only [Redemptions.init, startOAuthLogin]
  unfold Action.require
  split
  · rw [Action.bind_of_ok (m := (pure _ : Service PUnit)) rfl]
    split
    · exact .inr rfl
    · exact .inl rfl
  · exact .inl rfl

omit [DecidableEq τ] in
theorem Tracked.init :
    Tracked io.sessionId calls (Redemptions.init io dto driverRecords : Redemptions τ) := by
  have hobject : ∀ id session,
      (Redemptions.init io dto driverRecords : Redemptions τ).objects id = some session →
        id = io.sessionId ∧ session.consumedAt = none := by
    intro id session h
    rcases @init_sessions τ io dto driverRecords with hnone | hsome
    · rw [hnone] at h
      cases h
    · rw [hsome] at h
      by_cases hid : id = io.sessionId
      · subst hid
        rw [Function.update_self] at h
        obtain rfl := Option.some.inj h
        exact ⟨rfl, rfl⟩
      · rw [Function.update_of_ne hid] at h
        cases h
  have hstart : ∀ t, (Redemptions.init io dto driverRecords : Redemptions τ).pc t = .start :=
    fun _ => rfl
  exact
    { found := fun _ _ h => h
      only := by
        intro id h
        obtain ⟨session, hsession⟩ := Option.isSome_iff_exists.mp h
        exact (hobject id session hsession).1
      signing := fun _ _ _ _ _ h => h.elim
      exchanged := by
        intro t result h
        rw [hstart] at h
        cases h
      marked := fun h => absurd (fun session hsession => (hobject _ session hsession).2) h
      calledBack := by
        intro t profile h
        rw [hstart] at h
        cases h }

/-- In every interleaving, at most one call on the session succeeds if and only if whoever
completes finds the session unused. -/
theorem always_atMostOnce_iff (turns : List (Turn τ)) :
    Always (Redemptions.step cfg calls) AtMostOnce (Redemptions.init io dto driverRecords) turns ↔
      Along (Redemptions.step cfg calls) (FindsUnused calls)
        (Redemptions.init io dto driverRecords) turns :=
  always_iff_along_of_inv
    (fun s turn hs => (stepped_step cfg calls s turn).tracked hs)
    (fun s turn hs hbefore => (stepped_step cfg calls s turn).atMostOnce_iff hs hbefore)
    (Tracked.init calls io dto driverRecords) (fun _ _ h => h.elim)

end Runs

namespace Raced

def cfg : Config where
  eliteOauthIssuer := none
  eliteOauthJwtSecret := none
  jwtSecret := some "secret"
  createAnchorFromString := fun _ => 1
  challengeOf := id

def io : Io where
  now := 0
  sessionId := "session-1"
  state := "state-1"
  authCode := "code-1"

def login : LoginDto where
  provider := .ZEPTO
  identifier := "9876543210"
  scope := some "profile"

def exchange : RedemptionCall :=
  .exchange io .ZEPTO { sessionId := "session-1", code := "code-1" }

/-- Two exchanges. -/
def twice : Bool → RedemptionCall := fun _ => exchange

/-- The callback as the second call. -/
def routes : Bool → RedemptionCall := fun second =>
  if second then .callback io { provider := .ZEPTO, sessionId := "session-1", code := "code-1" }
  else exchange

/-- Both exchanges check before either of them is signed. -/
def overlapping : List (Turn Bool) :=
  [⟨false, 0, true⟩, ⟨true, 0, true⟩, ⟨false, 0, true⟩, ⟨true, 0, true⟩]

/-- The callback comes after the exchange. -/
def consecutive : List (Turn Bool) := [⟨false, 0, true⟩, ⟨false, 0, true⟩, ⟨true, 0, true⟩]

end Raced

open Raced in
/-- One code is redeemed twice, by two exchanges at once and by both routes in turn. -/
theorem not_always_atMostOnce :
    ¬Always (Redemptions.step cfg twice) AtMostOnce
        (Redemptions.init io login fun _ => none) overlapping ∧
      ¬Always (Redemptions.step cfg routes) AtMostOnce
        (Redemptions.init io login fun _ => none) consecutive := by
  constructor
  · intro h
    exact Bool.false_ne_true (h.last false true (by decide) (by decide))
  · intro h
    exact Bool.false_ne_true (h.last false true (by decide) (by decide))

end Aegis.DynamicQCommerce
