import Aegis.Model.IdempotencyCheck

/-! # Whether the check of a payout key returns

The check reads under the deterministic id, the insertion fails on either unique index. -/

namespace Aegis.PayoutIdempotencyService

section Returns

variable (sha256 : String → String) (args : CheckArgs)

/-- The call returns, or throws, after some number of attempts. -/
def Returns (io : ℕ → CheckIo) (db : Db) : Prop :=
  ∃ fuel, (checkOrCreate sha256 args io fuel 0 db).isSome = true

/-- A record under the id, or none for the user, the cell and the time. -/
def Resolvable (db : Db) : Prop :=
  (db.payoutIdempotencyKeys.findUnique (.id (key sha256 args))).isSome = true ∨
    db.payoutIdempotencyKeys.findUnique (compositeIndex args) = none ∨
    ¬FitsInt4 args.eventTimestamp

instance (db : Db) : Decidable (Resolvable sha256 args db) :=
  inferInstanceAs (Decidable (_ ∨ _))

/-- The store turns an attempt down for another reason. -/
def Fails (io : CheckIo) : Prop := io.readKey = false ∨ io.create = false

variable {sha256 args} {io : ℕ → CheckIo} {db : Db}

theorem create_eq_none (hid : db.payoutIdempotencyKeys.findUnique (.id (key sha256 args)) = none) :
    db.payoutIdempotencyKeys.create (pendingKey sha256 args) = none ↔
      db.payoutIdempotencyKeys.findUnique (compositeIndex args) ≠ none := by
  have hfree := (Table.findUnique_eq_none _ _).mp hid
  constructor
  · intro hcreate hnone
    have hcomposite := (Table.findUnique_eq_none _ _).mp hnone
    obtain ⟨keys, hkeys⟩ := Table.exists_create (t := db.payoutIdempotencyKeys)
      (r := pendingKey sha256 args) (by
        intro s hs k hk hnew
        simp only [PayoutIdempotencyKey.keys, pendingKey, List.mem_cons, List.not_mem_nil,
          or_false] at hnew
        rcases hnew with rfl | rfl
        · exact hfree s hs hk
        · exact hcomposite s hs hk)
    rw [hkeys] at hcreate
    cases hcreate
  · intro hsome
    obtain ⟨row, hrow⟩ := Option.ne_none_iff_exists'.mp hsome
    cases hcreate : db.payoutIdempotencyKeys.create (pendingKey sha256 args) with
    | none => rfl
    | some keys =>
        refine absurd ?_ ((Table.create_eq_some hcreate).1 row (Table.mem_of_findUnique hrow)
          (compositeIndex args) (Table.key_of_findUnique hrow))
        simp [PayoutIdempotencyKey.keys, pendingKey, compositeIndex]

/-- An attempt that is neither resolved nor turned down leads to the next one. -/
theorem checkOrCreate_retry (hblocked : ¬Resolvable sha256 args db) {attempt : ℕ}
    (hfine : ¬Fails (io attempt)) (fuel : ℕ) :
    checkOrCreate sha256 args io (fuel + 1) attempt db =
      checkOrCreate sha256 args io fuel (attempt + 1) db := by
  simp only [Resolvable, not_or, not_not, Option.not_isSome_iff_eq_none] at hblocked
  obtain ⟨hid, hcomposite, hfits⟩ := hblocked
  simp only [Fails, not_or, Bool.not_eq_false] at hfine
  rw [checkOrCreate, if_pos hfine.1, hid]
  dsimp only
  rw [if_pos ⟨hfine.2, hfits⟩, (create_eq_none hid).mpr hcomposite]

/-- As long as the store answers, a blocked call goes on. -/
theorem checkOrCreate_eq_none (hblocked : ¬Resolvable sha256 args db)
    (hfine : ∀ n, ¬Fails (io n)) (fuel attempt : ℕ) :
    checkOrCreate sha256 args io fuel attempt db = none := by
  induction fuel generalizing attempt with
  | zero => rfl
  | succ fuel ih => rw [checkOrCreate_retry hblocked (hfine attempt), ih]

theorem checkOrCreate_of_resolvable (h : Resolvable sha256 args db) :
    (checkOrCreate sha256 args io 1 0 db).isSome = true := by
  rw [checkOrCreate]
  split
  · cases hid : db.payoutIdempotencyKeys.findUnique (.id (key sha256 args)) with
    | some existing => rfl
    | none =>
        dsimp only
        split
        · rename_i hcreate
          cases hkeys : db.payoutIdempotencyKeys.create (pendingKey sha256 args) with
          | some keys => rfl
          | none =>
              rcases h with hsome | hnone | hfits
              · simp [hid] at hsome
              · exact absurd hnone ((create_eq_none hid).mp hkeys)
              · exact absurd hcreate.2 hfits
        · rfl
  · rfl

/-- The attempts before the first one that is turned down change nothing. -/
theorem checkOrCreate_of_fails {n attempt : ℕ} (h : Fails (io (attempt + n))) :
    (checkOrCreate sha256 args io (n + 1) attempt db).isSome = true := by
  induction n generalizing attempt with
  | zero =>
      rw [checkOrCreate]
      rcases h with hread | hcreate
      · simp only [Nat.add_zero] at hread
        simp [hread]
      · simp only [Nat.add_zero] at hcreate
        simp only [hcreate, Bool.false_eq_true, false_and, if_false]
        split
        · cases db.payoutIdempotencyKeys.findUnique (.id (key sha256 args)) <;> rfl
        · rfl
  | succ n ih =>
      have hnext : Fails (io (attempt + 1 + n)) := by
        rwa [Nat.add_right_comm, Nat.add_assoc]
      rw [checkOrCreate]
      split
      · cases db.payoutIdempotencyKeys.findUnique (.id (key sha256 args)) with
        | some existing => rfl
        | none =>
            dsimp only
            split
            · cases db.payoutIdempotencyKeys.create (pendingKey sha256 args) with
              | some keys => rfl
              | none => exact ih hnext
            · rfl
      · rfl

/-- The call returns unless a record for the user, the cell and the time stands under another
id and the store never fails. -/
theorem returns_iff (sha256 : String → String) (args : CheckArgs) (io : ℕ → CheckIo) (db : Db) :
    Returns sha256 args io db ↔ Resolvable sha256 args db ∨ ∃ n, Fails (io n) := by
  constructor
  · rintro ⟨fuel, hreturned⟩
    by_contra h
    rw [not_or, not_exists] at h
    rw [checkOrCreate_eq_none h.1 h.2] at hreturned
    cases hreturned
  · rintro (h | ⟨n, h⟩)
    · exact ⟨1, checkOrCreate_of_resolvable h⟩
    · exact ⟨n + 1, checkOrCreate_of_fails (by rwa [Nat.zero_add])⟩

end Returns

/-! ## Two claims of one driver -/

namespace SameMoment

/-- The second policy's claim for the event of the first. -/
def second : CheckArgs where
  userId := "u1"
  h3Cell := "8860145b5dfffff"
  eventTimestamp := 7200
  policyId := "p2"
  disruptionEventId := "e1"

/-- The record that the first policy's claim left. -/
def first : PayoutIdempotencyKey :=
  { pendingKey id { second with policyId := "p1" } with payoutState := .SUCCESS }

def store : Db := { payoutIdempotencyKeys := .singleton first }

end SameMoment

open SameMoment in
/-- The second claim is checked for ever, with a store that always answers. -/
theorem not_returns_second : ¬Returns id second (fun _ => ⟨true, true, true⟩) store := by
  rintro ⟨fuel, hreturned⟩
  have hblocked : ¬Resolvable id second store := by decide
  rw [checkOrCreate_eq_none hblocked (fun _ => by simp [Fails])] at hreturned
  cases hreturned

end Aegis.PayoutIdempotencyService
