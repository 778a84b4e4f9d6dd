import Aegis.Verification.Payments.ExactlyOnce
import Aegis.Verification.Payments.Payable

/-! # Money sent and money booked

The ledger row keeps the amount of the call that created it, while each call sends its own
amount, and at least one rupee. -/

namespace Aegis.Payments

open Gateway Number

section Property

variable (cfg : Config) (w : World) (c : Call)

/-- The transfers that the call executes. -/
def executedBy : List Transfer := (call cfg w c).transfers.drop w.transfers.length

/-- What the ledger row of a transfer books, in paise. -/
def bookedPaise (db : Db) (t : Transfer) : Option ℤ :=
  ((rowOf db t.policyId t.disruptionEventId).bind Payout.approvedPayout).map fun a =>
    mathRound (100 * a)

/-- Every transfer sends what its row books, and nothing is sent for an amount of zero. -/
def SendsBooked : Prop :=
  (∀ t ∈ executedBy cfg w c, bookedPaise (call cfg w c).db t = some t.amountPaise) ∧
    (c.2.approvedPayout = 0 → executedBy cfg w c = [])

instance : Decidable (SendsBooked cfg w c) :=
  inferInstanceAs (Decidable ((∀ t ∈ executedBy cfg w c, _) ∧ _))

/-- The amount on the row that the call settles: that of an old row or its own. -/
def rowAmount (dto : ParametricPayoutDto) (db : Db) : Option ℚ :=
  match rowOf db dto.policyId dto.disruptionEventId with
  | some row => row.approvedPayout
  | none => some dto.approvedPayout

/-- The call asks for something, and its amount, at least one rupee, is that of the row. -/
def AmountsAgree (dto : ParametricPayoutDto) (db : Db) : Prop :=
  dto.approvedPayout ≠ 0 ∧
    (rowAmount dto db).map (fun a => mathRound (100 * a)) = some (amountPaise dto.approvedPayout)

/-- Whatever the gateway does in the call. -/
def AlwaysSendsBooked : Prop := ∀ io, SendsBooked cfg w (io, c.2)

/-- A call that can be paid is for the amount of its row. -/
def PaidAsBooked : Prop := Payable cfg c.2 w.db → AmountsAgree c.2 w.db

end Property

section Rows

variable {cfg : Config} {io : Io} {dto : ParametricPayoutDto} {w w' : World}

/-- Locking a row leaves its amount alone. -/
theorem lockedRow_approvedPayout (db : Db) :
    (lockedRow io dto db).approvedPayout = rowAmount dto db := by
  rw [lockedRow, rowAmount]
  cases rowOf db dto.policyId dto.disruptionEventId with
  | none => rfl
  | some row => rfl

theorem failedRow_approvedPayout (row : Payout) :
    (failedRow io row).approvedPayout = row.approvedPayout := by
  rw [failedRow]
  split
  · rfl
  · rfl

/-- A call that executes transfers leaves a row with the amount it found there, or its own. -/
theorem CallCases.rowAmount {result : Except Exn PayoutResult}
    (h : CallCases cfg io dto w result w')
    (hmoved : w'.transfers ≠ w.transfers) :
    ∃ row, rowOf w'.db dto.policyId dto.disruptionEventId = some row ∧
      row.approvedPayout = Payments.rowAmount dto w.db := by
  cases h with
  | refused e => exact absurd rfl hmoved
  | cached k owner found success => exact absurd rfl hmoved
  | settled p executed db' admitted rail after =>
      exact ⟨_, after.row, lockedRow_approvedPayout w.db⟩
  | failed e result executed db' admitted rail cause after =>
      exact ⟨_, after.row, (failedRow_approvedPayout _).trans (lockedRow_approvedPayout w.db)⟩

theorem executedBy_eq_nil : executedBy cfg w (io, dto) = [] ↔
    (call cfg w (io, dto)).transfers = w.transfers := by
  obtain ⟨executed, hexecuted, -⟩ := exists_executed cfg io dto w
  have hcall : (call cfg w (io, dto)).transfers = w.transfers ++ executed := hexecuted
  simp [executedBy, hcall]

theorem mem_executedBy {t : Transfer} (h : t ∈ executedBy cfg w (io, dto)) : OwnTransfer dto t := by
  obtain ⟨executed, hexecuted, hown⟩ := exists_executed cfg io dto w
  have hcall : (call cfg w (io, dto)).transfers = w.transfers ++ executed := hexecuted
  rw [executedBy, hcall, List.drop_left] at h
  exact hown t h

/-- A transfer sends the amount of the call; its row books the row's. -/
theorem transfer_amounts {t : Transfer} (h : t ∈ executedBy cfg w (io, dto)) :
    t.amountPaise = amountPaise dto.approvedPayout ∧
      bookedPaise (call cfg w (io, dto)).db t =
        (rowAmount dto w.db).map fun a => mathRound (100 * a) := by
  have hown := mem_executedBy h
  have hmoved : (call cfg w (io, dto)).transfers ≠ w.transfers := by
    intro hsame
    rw [executedBy_eq_nil.mpr hsame] at h
    cases h
  obtain ⟨row, hrow, hamount⟩ := (processParametricPayout_cases cfg io dto w).rowAmount hmoved
  have hfound : rowOf (call cfg w (io, dto)).db dto.policyId dto.disruptionEventId = some row :=
    hrow
  refine ⟨hown.amount, ?_⟩
  rw [bookedPaise, hown.policyId, hown.disruptionEventId, hfound]
  exact congrArg _ hamount

/-- Whatever the gateway does, a call sends what is booked: this holds exactly when the
amounts agree wherever the call can be paid. -/
theorem alwaysSendsBooked_iff (w : World) (c : Call) :
    AlwaysSendsBooked cfg w c ↔ PaidAsBooked cfg w c := by
  obtain ⟨-, dto⟩ := c
  constructor
  · intro h hpayable
    obtain ⟨io, hmoved⟩ := hpayable.exists_transfers
    have hexecuted : executedBy cfg w (io, dto) ≠ [] :=
      fun hnil => hmoved (executedBy_eq_nil.mp hnil)
    obtain ⟨t, ht⟩ := List.exists_mem_of_ne_nil _ hexecuted
    obtain ⟨hsent, hbooked⟩ := transfer_amounts ht
    obtain ⟨hamount, hzero⟩ := h io
    refine ⟨fun h0 => hexecuted (hzero h0), ?_⟩
    rw [← hbooked, hamount t ht, hsent]
  · intro h io
    by_cases hmoved : (call cfg w (io, dto)).transfers = w.transfers
    · have hnil := executedBy_eq_nil.mpr hmoved
      refine ⟨?_, fun _ => hnil⟩
      rw [hnil]
      intro t ht
      cases ht
    · obtain ⟨hpositive, hagree⟩ := h (payable_of_transfers hmoved)
      refine ⟨?_, fun h0 => absurd h0 hpositive⟩
      intro t ht
      obtain ⟨hsent, hbooked⟩ := transfer_amounts ht
      rw [hbooked, hagree, hsent]

/-- Along every run, whatever happens at the gateway in each call. -/
theorem along_sendsBooked_iff (cfg : Config) (w : World) (calls : List Call) :
    Run.Along (call cfg) (AlwaysSendsBooked cfg) w calls ↔
      Run.Along (call cfg) (PaidAsBooked cfg) w calls := by
  constructor
  · intro h
    exact h.mono fun w c => (alwaysSendsBooked_iff w c).mp
  · intro h
    exact h.mono fun w c => (alwaysSendsBooked_iff w c).mpr

end Rows

/-! ## Amounts that differ -/

namespace Sample

/-- Every request for a payout is turned down. -/
def ioRefused : Io := { io with payout := [.refused 503 "down"] }

end Sample

open Sample in
/-- Nothing is asked for and a rupee is sent; and a row booked at 800 rupees after a failed
call is settled by a call for 500. -/
theorem not_along_sendsBooked :
    ¬Run.Along (call cfg) (SendsBooked cfg) ⟨db, []⟩ [(io, { dto with approvedPayout := 0 })] ∧
      ¬Run.Along (call cfg) (SendsBooked cfg) ⟨db, []⟩
        [(ioRefused, dto), (io, { dto with approvedPayout := 500 })] := by
  constructor
  · decide +kernel
  · decide +kernel

end Aegis.Payments
