import Aegis.Library.Run
import Aegis.Model.Orders
import Aegis.Verification.Payments.Issuing
import Aegis.Verification.Payments.Retry

/-! # One order, one policy

Overlapping calls of `verifyPayment` on any orders. What decides is whether an order is
settled by the time a call writes it: its read may be stale by then. -/

namespace Aegis.Payments.Checkout

open Outcome LiquidityPool

variable {τ : Type} (cfg : OrderConfig) (calls : τ → VerifyCall)

/-! ## The property -/

/-- The order is settled. -/
def Succeeded (db : Db) (id : String) : Prop :=
  (db.razorpayOrders.findUnique (.id id)).map RazorpayOrder.status = some .SUCCESS

instance (db : Db) (id : String) : Decidable (Succeeded db id) :=
  inferInstanceAs (Decidable (_ = _))

def issuedFor (s : Checkout τ) (id : String) : List (String × Policy) :=
  s.issued.filter fun p => p.1 = id

def injectedFor (s : Checkout τ) (id : String) : List (String × ℚ) :=
  s.injected.filter fun p => p.1 = id

/-- An order has at most one policy, and its premium is in the pool at most once. -/
def OncePerOrder (s : Checkout τ) : Prop :=
  ∀ id, (s.issuedFor id).length ≤ 1 ∧ (s.injectedFor id).length ≤ 1

variable [DecidableEq τ] in
/-- Orders that are settled stay settled. -/
def StaysSettled (s : Checkout τ) (t : τ) : Prop :=
  ∀ id, Succeeded s.db id → Succeeded (step cfg calls s t).db id

/-! ## The condition -/

/-- The order that the next statement of the call writes. -/
def writes (c : VerifyCall) (db : Db) : VerifyPc → Option String
  | .invalid order => if c.io.markInvalid then some order.id else none
  | .issuing order plan =>
      if (issueTx c.io c.userId c.dto order plan db).isOk ∧ c.io.commit = true then some order.id
      else none
  | .failing order _ _ => if c.io.markFailed then some order.id else none
  | _ => none

/-- The pool is replenished in a transaction that does not commit. -/
def replenishesInVain (c : VerifyCall) (db : Db) : VerifyPc → Prop
  | .issuing order plan =>
      (issueTx c.io c.userId c.dto order plan db).isOk = true ∧ c.io.commit = false ∧
        c.io.pool = .available
  | _ => False

/-- A call writes an order only while it is not settled, and replenishes the pool only in a
transaction that commits. -/
def Timely (s : Checkout τ) (t : τ) : Prop :=
  (∀ id ∈ writes (calls t) s.db (s.pc t), ¬Succeeded s.db id) ∧
    ¬replenishesInVain (calls t) s.db (s.pc t)

instance (c : VerifyCall) (db : Db) (pc : VerifyPc) : Decidable (replenishesInVain c db pc) := by
  unfold replenishesInVain
  split <;> infer_instance

instance (s : Checkout τ) (t : τ) : Decidable (Timely calls s t) :=
  inferInstanceAs (Decidable (_ ∧ _))

/-! ## What a step can do -/

/-- The order that a call is about to write. -/
def atHand : VerifyPc → Option RazorpayOrder
  | .invalid order | .issuing order _ | .failing order _ _ => some order
  | _ => none

section Steps

variable [DecidableEq τ]

/-- What one timely step of `t` leads to. -/
inductive Stepped (s : Checkout τ) (t : τ) : Checkout τ → Prop where
  | still : Stepped s t s
  | moved (db : Db) (pc : VerifyPc) (same : db.razorpayOrders = s.db.razorpayOrders)
      (known : ∀ order ∈ atHand pc, order ∈ atHand (s.pc t) ∨ order ∈ s.db.razorpayOrders.rows) :
      Stepped s t ({ s with db }.goTo t pc)
  | marked (order : RazorpayOrder) (dto : VerifyPaymentDto) (pc : VerifyPc)
      (open_ : ¬Succeeded s.db order.id) (gone : atHand pc = none) :
      Stepped s t ({ s with db := markOrder dto order .FAILED s.db }.goTo t pc)
  | settled (order : RazorpayOrder) (dto : VerifyPaymentDto) (policy : Policy)
      (premium : List (String × ℚ)) (db : Db) (pc : VerifyPc) (held : order ∈ atHand (s.pc t))
      (open_ : ¬Succeeded s.db order.id)
      (orders : db.razorpayOrders = (markOrder dto order .SUCCESS s.db).razorpayOrders)
      (own : ∀ p ∈ premium, p.1 = order.id) (once : premium.length ≤ 1) (gone : atHand pc = none) :
      Stepped s t ({ s with
        db
        issued := s.issued ++ [(order.id, policy)]
        injected := s.injected ++ premium }.goTo t pc)

variable {cfg calls} {s : Checkout τ} {t : τ}

theorem afterRead_atHand {c : VerifyCall} {db : Db} {order : RazorpayOrder}
    (h : order ∈ atHand (afterRead cfg c db)) : order ∈ db.razorpayOrders.rows := by
  rw [afterRead] at h
  split at h
  · cases h
  · rename_i read hown
    have hmem := Table.mem_of_findUnique (ownOrder_spec hown)
    split at h
    · cases h
    · split at h
      · cases h
      · cases h
        exact hmem
      · split at h
        · cases h
        · cases h
          exact hmem

/-- The table after an injection. -/
def inject (settings : Settings) (p : String × ℚ) : Settings :=
  match injectTx settings p.2 with
  | .ok (_, settings) => settings
  | .error _ => settings

theorem replenish_eq (io : VerifyIo) (order : RazorpayOrder) (db : Db) :
    replenish io (order.amount / 100) db =
      { db with systemSettings := (premiumOf io order).foldl inject db.systemSettings } := by
  rw [replenish, premiumOf]
  cases hpool : io.pool with
  | available =>
      cases htx : injectTx db.systemSettings (order.amount / 100) <;>
        simp [injectPremium, inject, htx]
  | tableMissing => simp [injectPremium]
  | down message => simp [injectPremium]

theorem issueTx_spec {io : VerifyIo} {userId : String} {dto : VerifyPaymentDto}
    {order : RazorpayOrder} {plan : WeeklyPlan} {db db' : Db} {policy : Policy}
    (h : issueTx io userId dto order plan db = .ok (policy, db')) :
    db'.razorpayOrders = (markOrder dto order .SUCCESS db).razorpayOrders := by
  obtain ⟨_, -, h⟩ := bind_eq_ok.mp h
  obtain ⟨_, -, h⟩ := bind_eq_ok.mp h
  cases h
  rfl

theorem premiumOf_spec (io : VerifyIo) (order : RazorpayOrder) :
    (∀ p ∈ premiumOf io order, p.1 = order.id) ∧ (premiumOf io order).length ≤ 1 := by
  rw [premiumOf]
  split
  · simp
  · simp

theorem stepped_transact {order : RazorpayOrder} {plan : WeeklyPlan}
    (hpc : s.pc t = .issuing order plan) (h : Timely calls s t) :
    Stepped s t (transact (calls t) order plan s t) := by
  have hheld : order ∈ atHand (s.pc t) := by rw [hpc]; rfl
  obtain ⟨hfresh, hvain⟩ := h
  rw [hpc] at hfresh hvain
  rw [transact]
  split
  · rename_i e htx
    exact .moved s.db _ rfl fun o ho => .inl (by rw [hpc]; exact ho)
  · rename_i policy db htx
    have hok : (issueTx (calls t).io (calls t).userId (calls t).dto order plan s.db).isOk =
        true := by
      rw [htx]
      rfl
    by_cases hcommit : (calls t).io.commit = true
    · have hopen : ¬Succeeded s.db order.id := hfresh order.id (by simp [writes, hok, hcommit])
      obtain ⟨hown, honce⟩ := premiumOf_spec (calls t).io order
      have horders := issueTx_spec htx
      rw [if_pos hcommit, replenish_eq]
      exact .settled order (calls t).dto policy _ _ _ hheld hopen horders hown honce rfl
    · have hnone : premiumOf (calls t).io order = [] := by
        rw [premiumOf, if_neg]
        intro hpool
        exact hvain ⟨hok, by simpa using hcommit, hpool⟩
      rw [if_neg hcommit, replenish_eq, hnone, List.append_nil]
      exact .moved _ _ rfl fun o ho => .inl (by rw [hpc]; exact ho)

theorem stepped (h : Timely calls s t) : Stepped s t (step cfg calls s t) := by
  have hfresh := h.1
  rw [step]
  split
  · exact .moved s.db _ rfl fun o ho => .inr (afterRead_atHand ho)
  · exact .moved s.db _ rfl fun o ho => by cases ho
  · rename_i order hpc
    rw [hpc] at hfresh
    split
    · rename_i hmark
      exact .marked order _ _ (hfresh order.id (by simp [writes, hmark])) rfl
    · exact .moved s.db _ rfl fun o ho => by cases ho
  · rename_i order plan hpc
    exact stepped_transact hpc h
  · rename_i order plan e hpc
    rw [hpc] at hfresh
    split
    · rename_i hmark
      exact .marked order _ _ (hfresh order.id (by simp [writes, hmark])) rfl
    · exact .moved s.db _ rfl fun o ho => by cases ho
  · refine .moved _ _ ?_ fun o ho => by cases ho
    split
    · rfl
    · rfl
  · exact .still

end Steps

/-! ## The invariant -/

section Orders

variable {db : Db} {dto : VerifyPaymentDto} {order : RazorpayOrder} {status : OrderStatus}
  {id : String}

def Known (db : Db) (id : String) : Prop := (db.razorpayOrders.findUnique (.id id)).isSome = true

theorem known_markOrder : Known (markOrder dto order status db) id ↔ Known db id := by
  simp only [Known, markOrder, Table.findUnique_update, Option.isSome_map]

theorem known_of_mem (h : order ∈ db.razorpayOrders.rows) : Known db order.id := by
  have hfound : db.razorpayOrders.findUnique (.id order.id) = some order :=
    (Table.findUnique_eq_some _ _ _).mpr ⟨h, RazorpayOrder.id_mem_keys_iff.mpr rfl⟩
  rw [Known, hfound]
  rfl

theorem succeeded_markOrder_of_ne (h : id ≠ order.id) :
    Succeeded (markOrder dto order status db) id ↔ Succeeded db id := by
  have hsame : (markOrder dto order status db).razorpayOrders.findUnique (.id id) =
      db.razorpayOrders.findUnique (.id id) := by
    refine Table.findUnique_update_of_notMem fun r hr hkey => h ?_
    have hid := Table.key_of_findUnique hr
    rw [RazorpayOrder.id_mem_keys_iff.mp hid, RazorpayOrder.id_mem_keys_iff.mp hkey]
  rw [Succeeded, hsame, Succeeded]

theorem succeeded_markOrder_self (h : Known db order.id) :
    Succeeded (markOrder dto order .SUCCESS db) order.id := by
  obtain ⟨r, hr⟩ := Option.isSome_iff_exists.mp h
  rw [Succeeded, markOrder, Table.findUnique_update_self, hr]
  rfl

end Orders

variable {s : Checkout τ} {t : τ}

structure Inv (s : Checkout τ) : Prop where
  known : ∀ t, ∀ order ∈ atHand (s.pc t), Known s.db order.id
  settled : ∀ id, s.issuedFor id ≠ [] → Succeeded s.db id
  issued : ∀ id, (s.issuedFor id).length ≤ 1
  injected : ∀ id, (s.injectedFor id).length ≤ (s.issuedFor id).length

theorem filter_key {β : Type} {key : String} {l : List (String × β)} (h : ∀ p ∈ l, p.1 = key)
    (id : String) : l.filter (fun p => p.1 = id) = if key = id then l else [] := by
  by_cases hid : key = id
  · rw [if_pos hid, List.filter_eq_self]
    intro p hp
    simp [h p hp, hid]
  · rw [if_neg hid, List.filter_eq_nil_iff]
    intro p hp
    simp [h p hp, hid]

theorem inv_start (db : Db) : Inv (⟨db, [], [], fun _ => .start⟩ : Checkout τ) where
  known t order h := by cases h
  settled id h := absurd rfl h
  issued id := Nat.zero_le 1
  injected id := le_rfl

theorem Inv.purchasedOnce (h : Inv s) : OncePerOrder s :=
  fun id => ⟨h.issued id, (h.injected id).trans (h.issued id)⟩

variable [DecidableEq τ]

/-- What a thread has at hand after its move was known before, or is at hand by then. -/
theorem Inv.known_goTo (h : Inv s) {db : Db} {pc : VerifyPc}
    (hdb : ∀ id, Known s.db id → Known db id) (hpc : ∀ order ∈ atHand pc, Known db order.id)
    (t' : τ) : ∀ order ∈ atHand (Function.update s.pc t pc t'), Known db order.id := by
  intro order horder
  by_cases heq : t' = t
  · rw [heq, Function.update_self] at horder
    exact hpc order horder
  · rw [Function.update_of_ne heq] at horder
    exact hdb _ (h.known t' order horder)

theorem succeeded_markOrder_kept {db : Db} {order : RazorpayOrder} {dto : VerifyPaymentDto}
    {status : OrderStatus} {id : String} (hopen : ¬Succeeded db order.id) (hid : Succeeded db id) :
    Succeeded (markOrder dto order status db) id := by
  refine (succeeded_markOrder_of_ne ?_).mpr hid
  rintro rfl
  exact hopen hid

theorem succeeded_of_orders {db db' : Db} (h : db'.razorpayOrders = db.razorpayOrders)
    {id : String} :
    Succeeded db' id ↔ Succeeded db id := by
  rw [Succeeded, h, Succeeded]

theorem known_of_orders {db db' : Db} (h : db'.razorpayOrders = db.razorpayOrders) {id : String} :
    Known db' id ↔ Known db id := by
  rw [Known, h, Known]

/-- A move that leaves the orders alone. -/
theorem Inv.moved {db : Db} {pc : VerifyPc} (h : Inv s)
    (hsame : db.razorpayOrders = s.db.razorpayOrders)
    (hknown : ∀ order ∈ atHand pc, order ∈ atHand (s.pc t) ∨ order ∈ s.db.razorpayOrders.rows) :
    Inv ({ s with db }.goTo t pc) := by
  refine ⟨h.known_goTo (fun id => (known_of_orders hsame).mpr) fun order horder => ?_,
    fun id hid => (succeeded_of_orders hsame).mpr (h.settled id hid), h.issued, h.injected⟩
  refine (known_of_orders hsame).mpr ?_
  rcases hknown order horder with hold | hread
  · exact h.known t order hold
  · exact known_of_mem hread

/-- An order that is open is marked FAILED. -/
theorem Inv.marked {order : RazorpayOrder} {dto : VerifyPaymentDto} {pc : VerifyPc} (h : Inv s)
    (hopen : ¬Succeeded s.db order.id) (hgone : atHand pc = none) :
    Inv ({ s with db := markOrder dto order .FAILED s.db }.goTo t pc) := by
  refine ⟨h.known_goTo (fun id => known_markOrder.mpr) ?_,
    fun id hid => succeeded_markOrder_kept hopen (h.settled id hid), h.issued, h.injected⟩
  rw [hgone]
  rintro order ⟨⟩

/-- An order that is open is settled, with its policy and its premium. -/
theorem Inv.settles {order : RazorpayOrder} {dto : VerifyPaymentDto} {policy : Policy}
    {premium : List (String × ℚ)} {db : Db} {pc : VerifyPc} (h : Inv s)
    (hheld : order ∈ atHand (s.pc t)) (hopen : ¬Succeeded s.db order.id)
    (horders : db.razorpayOrders = (markOrder dto order .SUCCESS s.db).razorpayOrders)
    (hown : ∀ p ∈ premium, p.1 = order.id) (honce : premium.length ≤ 1)
    (hgone : atHand pc = none) :
    Inv ({ s with
      db
      issued := s.issued ++ [(order.id, policy)]
      injected := s.injected ++ premium }.goTo t pc) := by
  have hnew : s.issuedFor order.id = [] := by
    by_contra hne
    exact hopen (h.settled _ hne)
  have hpolicy : ∀ p ∈ [(order.id, policy)], p.1 = order.id := by simp
  have hissued : ∀ id, (s.issued ++ [(order.id, policy)]).filter (fun p => p.1 = id) =
      s.issuedFor id ++ if order.id = id then [(order.id, policy)] else [] :=
    fun id => by rw [List.filter_append, filter_key hpolicy, issuedFor]
  have hinjected : ∀ id, (s.injected ++ premium).filter (fun p => p.1 = id) =
      s.injectedFor id ++ if order.id = id then premium else [] :=
    fun id => by rw [List.filter_append, filter_key hown, injectedFor]
  have hnone : s.injectedFor order.id = [] := by
    have hle := h.injected order.id
    rw [hnew] at hle
    exact List.length_eq_zero_iff.mp (Nat.le_zero.mp hle)
  refine ⟨h.known_goTo (fun id hid => (known_of_orders horders).mpr (known_markOrder.mpr hid)) ?_,
    fun id hid => (succeeded_of_orders horders).mpr ?_, fun id => ?_, fun id => ?_⟩
  · rw [hgone]
    rintro order ⟨⟩
  · by_cases heq : order.id = id
    · exact heq ▸ succeeded_markOrder_self (h.known t order hheld)
    · refine succeeded_markOrder_kept hopen (h.settled id fun hnil => hid ?_)
      simp only [issuedFor, goTo] at hnil ⊢
      rw [hissued, issuedFor, hnil, if_neg heq, List.append_nil]
  · simp only [issuedFor, goTo]
    rw [hissued]
    by_cases heq : order.id = id
    · rw [← heq, hnew]
      simp
    · rw [if_neg heq, List.append_nil]
      exact h.issued id
  · simp only [issuedFor, injectedFor, goTo]
    rw [hissued, hinjected]
    by_cases heq : order.id = id
    · rw [← heq, hnew, hnone]
      simpa using honce
    · rw [if_neg heq, if_neg heq, List.append_nil, List.append_nil]
      exact h.injected id

theorem Inv.stepped {s' : Checkout τ} (h : Inv s) (hstep : Stepped s t s') :
    Inv s' ∧ ∀ id, Succeeded s.db id → Succeeded s'.db id := by
  cases hstep with
  | still => exact ⟨h, fun _ => id⟩
  | moved db pc hsame hknown =>
      exact ⟨h.moved hsame hknown, fun id => (succeeded_of_orders hsame).mpr⟩
  | marked order dto pc hopen hgone =>
      exact ⟨h.marked hopen hgone, fun id => succeeded_markOrder_kept hopen⟩
  | settled order dto policy premium db pc hheld hopen horders hown honce hgone =>
      exact ⟨h.settles hheld hopen horders hown honce hgone,
        fun id hid => (succeeded_of_orders horders).mpr (succeeded_markOrder_kept hopen hid)⟩

/-! ## Runs -/

variable {cfg calls}

/-- In whatever order the calls take their steps: if every write of an order finds it open, and
the pool is replenished by transactions that commit, then no order gets a second policy or
premium, and none that is settled is opened again. -/
theorem oncePerOrder (db : Db) (schedule : List τ)
    (h : Run.Along (step cfg calls) (Timely calls) ⟨db, [], [], fun _ => .start⟩ schedule) :
    Run.Always (step cfg calls) OncePerOrder ⟨db, [], [], fun _ => .start⟩ schedule ∧
      Run.Along (step cfg calls) (StaysSettled cfg calls) ⟨db, [], [], fun _ => .start⟩
        schedule := by
  have hstep : ∀ (s : Checkout τ) t, Inv s → Timely calls s t →
      Inv (step cfg calls s t) ∧ StaysSettled cfg calls s t :=
    fun s t hs ht => hs.stepped (Checkout.stepped ht)
  exact ⟨(Run.always_of_step (fun s t hs ht => (hstep s t hs ht).1) (inv_start db) h).mono
      fun _ => Inv.purchasedOnce,
    Run.along_of_step hstep (inv_start db) h⟩

/-! ## The logs -/

/-- The logs account for every new policy and every change of the pool. -/
structure Accounts (db : Db) (s : Checkout τ) : Prop where
  policies : s.db.policies.rows.map Policy.id =
    db.policies.rows.map Policy.id ++ s.issued.map fun p => p.2.id
  settings : s.db.systemSettings = s.injected.foldl inject db.systemSettings

theorem issueTx_policies {io : VerifyIo} {userId : String} {dto : VerifyPaymentDto}
    {order : RazorpayOrder} {plan : WeeklyPlan} {db db' : Db} {policy : Policy}
    (h : issueTx io userId dto order plan db = .ok (policy, db')) :
    db'.policies.rows.map Policy.id = db.policies.rows.map Policy.id ++ [policy.id] ∧
      db'.systemSettings = db.systemSettings := by
  obtain ⟨_, -, h⟩ := bind_eq_ok.mp h
  obtain ⟨policies, hcreate, h⟩ := bind_eq_ok.mp h
  cases h
  refine ⟨?_, rfl⟩
  have hids : (endPolicies io.now userId db).policies.rows.map Policy.id =
      db.policies.rows.map Policy.id := by
    simp only [endPolicies, Table.updateMany, List.map_map]
    refine List.map_congr_left fun p _ => ?_
    rw [Function.comp_apply]
    split
    · rfl
    · rfl
  simp only [markOrder, (Table.create_eq_some (orThrow_eq_ok.mp hcreate)).2, List.map_append, hids,
    List.map_singleton]

theorem Accounts.step {db : Db} (h : Accounts db s) : Accounts db (step cfg calls s t) := by
  rw [Checkout.step]
  split
  · exact ⟨h.policies, h.settings⟩
  · exact ⟨h.policies, h.settings⟩
  · split
    · exact ⟨h.policies, h.settings⟩
    · exact ⟨h.policies, h.settings⟩
  · rename_i order plan hpc
    rw [transact]
    split
    · exact ⟨h.policies, h.settings⟩
    · rename_i policy db' htx
      obtain ⟨hpolicies, hsettings⟩ := issueTx_policies htx
      split
      · rw [replenish_eq]
        refine ⟨?_, ?_⟩
        · simp only [goTo, hpolicies, h.policies, List.map_append, List.map_singleton,
            List.append_assoc]
        · simp only [goTo, hsettings, h.settings, List.foldl_append]
      · rw [replenish_eq]
        refine ⟨h.policies, ?_⟩
        simp only [goTo, h.settings, List.foldl_append]
  · split
    · exact ⟨h.policies, h.settings⟩
    · exact ⟨h.policies, h.settings⟩
  · split
    · exact ⟨h.policies, h.settings⟩
    · exact ⟨h.policies, h.settings⟩
  · exact h

theorem always_accounts (db : Db) (schedule : List τ) :
    Run.Always (Checkout.step cfg calls) (Accounts db) ⟨db, [], [], fun _ => .start⟩ schedule :=
  Run.always_of_step (fun _ _ h _ => h.step) ⟨by simp, rfl⟩
    (Run.along_of_forall (fun _ _ => trivial) _)

/-! ## A call by itself -/

theorem final_issuing {order : RazorpayOrder} {plan : WeeklyPlan} (s : Checkout τ)
    (h : s.pc t = .issuing order plan) :
    (Run.final (step cfg calls) s [t, t, t]).db =
        (issuePolicy (calls t).io (calls t).userId (calls t).dto order plan s.db).2 ∧
      (Run.final (step cfg calls) s [t, t, t]).pc t =
        .done (issuePolicy (calls t).io (calls t).userId (calls t).dto order plan s.db).1 := by
  have hfailing : ∀ (s : Checkout τ) e, s.pc t = .failing order plan e →
      (Run.final (step cfg calls) s [t, t]).db =
          trackFailure (calls t).io (calls t).userId (calls t).dto order plan e s.db ∧
        (Run.final (step cfg calls) s [t, t]).pc t = .done (.error policyCreationFailed) := by
    intro s e hs
    by_cases hmark : (calls t).io.markFailed = true
    · by_cases hdlq : (calls t).io.createDlq = true
      · simp [step, hs, goTo, trackFailure, hmark, hdlq, markOrder]
      · simp [step, hs, goTo, trackFailure, hmark, hdlq, markOrder]
    · simp [step, hs, goTo, trackFailure, hmark]
  have hstep : step cfg calls s t = transact (calls t) order plan s t := by rw [step, h]
  rw [Run.final_cons, hstep, transact, issuePolicy]
  cases htx : issueTx (calls t).io (calls t).userId (calls t).dto order plan s.db with
  | error e => exact hfailing _ e (by simp [goTo])
  | ok issued =>
      by_cases hcommit : (calls t).io.commit = true
      · simp [hcommit, goTo, step]
      · simp only [hcommit]
        exact hfailing _ storeDown (by simp [goTo])

/-- A call that no other overlaps does what `verifyPayment` says. -/
theorem final_alone (h : s.pc t = .start) :
    (Run.final (step cfg calls) s [t, t, t, t]).db =
        (verifyPayment cfg (calls t).io (calls t).userId (calls t).dto s.db).2 ∧
      (Run.final (step cfg calls) s [t, t, t, t]).pc t =
        .done (verifyPayment cfg (calls t).io (calls t).userId (calls t).dto s.db).1 := by
  have hstart : step cfg calls s t = s.goTo t (afterRead cfg (calls t) s.db) := by rw [step, h]
  rw [Run.final_cons, hstart, afterRead, verifyPayment]
  cases hown : ownOrder (calls t).io (calls t).userId (calls t).dto s.db with
  | error e => simp [goTo, step]
  | ok order =>
      by_cases hsuccess : order.status = .SUCCESS
      · simp [hsuccess, goTo, step]
      · simp only [hsuccess, if_false]
        cases hsignature : verifyRazorpaySignature cfg (calls t).dto with
        | error e => simp [goTo, step]
        | ok valid =>
            cases valid with
            | false => cases hmark : (calls t).io.markInvalid <;> simp [goTo, step, hmark]
            | true =>
                cases hplan : s.db.weeklyPlans.findUnique (.id order.weeklyPlanId) with
                | none => simp [goTo, step]
                | some plan => exact final_issuing (s.goTo t (.issuing order plan)) (by simp [goTo])

/-! ## Two calls for one order -/

namespace Race

open Payments.Sample

def plan : WeeklyPlan where
  id := "wp1"
  key := "STANDARD"
  name := "Standard"
  price := 79
  maxPayout := 1000
  durationDays := 7
  eligibleDisruptionTypes := ["RAIN"]

def order : RazorpayOrder where
  id := "o1"
  userId := "u1"
  weeklyPlanId := "wp1"
  razorpayOrderId := "order_1"
  amount := 7900
  currency := "INR"
  status := .CREATED
  razorpayPaymentId := none
  razorpaySignature := none

def shop : Db where
  users := .singleton user
  weeklyPlans := .singleton plan
  razorpayOrders := .singleton order

def shopConfig : OrderConfig where
  razorpayKeyId := some "rzp_live_1"
  razorpayKeySecret := some "secret"
  hmacSha256 := fun _ body => body

/-- Every operation goes through. -/
def verifyIo (policyId : String) : VerifyIo where
  now := 7200000
  readOrder := true
  readPolicy := true
  markInvalid := true
  policyId := policyId
  transaction := true
  pool := .available
  commit := true
  markFailed := true
  createDlq := true

/-- The client's retry has the same arguments; a third call has a wrong signature, and the
transaction of a fourth does not commit. -/
def racing : Fin 4 → VerifyCall
  | 0 => ⟨verifyIo "p1", "u1", ⟨"order_1", "pay_1", "order_1|pay_1"⟩⟩
  | 1 => ⟨verifyIo "p2", "u1", ⟨"order_1", "pay_1", "order_1|pay_1"⟩⟩
  | 2 => ⟨verifyIo "p3", "u1", ⟨"order_1", "pay_1", "forged"⟩⟩
  | 3 => ⟨{ verifyIo "p4" with commit := false }, "u1", ⟨"order_1", "pay_1", "order_1|pay_1"⟩⟩

end Race

open Race in
/-- One after the other, the three calls leave one policy. -/
theorem oncePerOrder_sequential :
    Run.Always (step shopConfig racing) OncePerOrder ⟨shop, [], [], fun _ => .start⟩
        [0, 0, 1, 1, 2, 2] ∧
      Run.Along (step shopConfig racing) (StaysSettled shopConfig racing)
        ⟨shop, [], [], fun _ => .start⟩ [0, 0, 1, 1, 2, 2] := by
  refine oncePerOrder shop [0, 0, 1, 1, 2, 2] ?_
  decide

open Race in
/-- Both calls read the order before either commits: it gets two policies and its premium is
injected twice. A call with a wrong signature opens a settled order again. And the premium of a
transaction that did not commit stays in the pool beside that of the retry. -/
theorem not_oncePerOrder :
    ¬Run.Always (step shopConfig racing) OncePerOrder ⟨shop, [], [], fun _ => .start⟩
        [0, 1, 0, 1] ∧
      ¬Run.Along (step shopConfig racing) (StaysSettled shopConfig racing)
        ⟨shop, [], [], fun _ => .start⟩ [0, 2, 0, 2] ∧
      ¬Run.Always (step shopConfig racing) OncePerOrder ⟨shop, [], [], fun _ => .start⟩
        [3, 3, 3, 3, 0, 0] := by
  have htwo : ((Run.final (step shopConfig racing) ⟨shop, [], [], fun _ => .start⟩
      [0, 1, 0, 1]).issuedFor "o1").length = 2 := by
    decide
  have hsettled : Succeeded (Run.final (step shopConfig racing) ⟨shop, [], [], fun _ => .start⟩
      [0, 2, 0]).db "o1" := by
    decide
  have hopen : ¬Succeeded (Run.final (step shopConfig racing) ⟨shop, [], [], fun _ => .start⟩
      [0, 2, 0, 2]).db "o1" := by
    decide
  have hpremium : ((Run.final (step shopConfig racing) ⟨shop, [], [], fun _ => .start⟩
      [3, 3, 3, 3, 0, 0]).injectedFor "o1").length = 2 := by
    decide
  refine ⟨fun h => ?_, ?_, fun h => ?_⟩
  · have hone := (h.last "o1").1
    omega
  · rintro ⟨-, -, -, h, -⟩
    exact hopen (h "o1" hsettled)
  · have hone := (h.last "o1").2
    omega

end Aegis.Payments.Checkout
