import Aegis.Library.Table
import Mathlib.Algebra.BigOperators.Group.List.Basic
import Mathlib.Data.List.Find

/-! # Tables that agree outside of some keys

A set of keys that no row straddles divides a table into the rows under these keys and the rest.
Operations under keys of one part do not show in the other. -/

namespace Aegis.Table

universe u v

variable {ρ : Type u} {κ : Type v} {keys : ρ → List κ} {F : κ → Bool}

/-- No row is stored under keys of both parts. -/
def DividedBy (F : κ → Bool) (t : Table keys) : Prop :=
  ∀ r ∈ t.rows, ∀ k ∈ keys r, ∀ l ∈ keys r, F k = F l

/-- The rows that are not stored under the keys. -/
def outside (F : κ → Bool) (t : Table keys) : List ρ := t.rows.filter fun r => !(keys r).any F

/-- Two divided tables with the same rows outside. -/
structure Alike (F : κ → Bool) (t t' : Table keys) : Prop where
  left : t.DividedBy F
  right : t'.DividedBy F
  rows : t.outside F = t'.outside F

variable {t t' u : Table keys} {r : ρ}

theorem any_eq_of_mem {k : κ} (h : ∀ a ∈ keys r, ∀ b ∈ keys r, F a = F b) (hk : k ∈ keys r) :
    (keys r).any F = F k := by
  cases hF : F k with
  | true => exact List.any_eq_true.mpr ⟨k, hk, hF⟩
  | false => simpa using fun a ha => (h a ha k hk).trans hF

theorem mem_outside : r ∈ t.outside F ↔ r ∈ t.rows ∧ ∀ k ∈ keys r, F k = false := by
  simp [outside]

theorem Alike.refl (h : t.DividedBy F) : Alike F t t := ⟨h, h, rfl⟩

theorem Alike.symm (h : Alike F t t') : Alike F t' t := ⟨h.right, h.left, h.rows.symm⟩

theorem Alike.trans (h : Alike F t t') (h' : Alike F t' u) : Alike F t u :=
  ⟨h.left, h'.right, h.rows.trans h'.rows⟩

theorem Alike.mem_outside (h : Alike F t t') : r ∈ t.outside F ↔ r ∈ t'.outside F := by
  rw [h.rows]

theorem DividedBy.mem_outside (h : t.DividedBy F) {k : κ} (hk : F k = false) (hr : r ∈ t.rows)
    (hkr : k ∈ keys r) : r ∈ t.outside F :=
  Table.mem_outside.mpr ⟨hr, fun l hl => (h r hr l hl k hkr).trans hk⟩

/-! ## Queries -/

theorem filter_outside {p : ρ → Bool} (hp : ∀ r ∈ t.rows, p r = true → ∀ k ∈ keys r, F k = false) :
    (t.outside F).filter p = t.rows.filter p := by
  rw [outside, List.filter_filter]
  refine List.filter_congr fun r hr => ?_
  cases hpr : p r with
  | false => rfl
  | true => simpa using hp r hr hpr

/-- A query for rows outside. -/
theorem Alike.findManyDesc (h : Alike F t t') {p : ρ → Bool} (key : ρ → ℤ)
    (hp : ∀ r, r ∈ t.rows ∨ r ∈ t'.rows → p r = true → ∀ k ∈ keys r, F k = false) :
    t.findManyDesc p key = t'.findManyDesc p key := by
  rw [Table.findManyDesc, Table.findManyDesc, ← filter_outside fun r hr => hp r (.inl hr),
    ← filter_outside fun r hr => hp r (.inr hr), h.rows]

theorem Alike.findFirstDesc (h : Alike F t t') {p : ρ → Bool} (key : ρ → ℤ)
    (hp : ∀ r, r ∈ t.rows ∨ r ∈ t'.rows → p r = true → ∀ k ∈ keys r, F k = false) :
    t.findFirstDesc p key = t'.findFirstDesc p key := congrArg List.head? (h.findManyDesc key hp)

variable [DecidableEq κ]

theorem DividedBy.findUnique (h : t.DividedBy F) {k : κ} (hk : F k = false) :
    t.findUnique k = (t.outside F).find? fun r => decide (k ∈ keys r) := by
  rw [outside, List.find?_filter, Table.findUnique]
  refine List.find?_congr fun r hr => ?_
  by_cases hkr : k ∈ keys r
  · have hout := (Table.mem_outside.mp (h.mem_outside hk hr hkr)).2
    simpa [hkr] using hout
  · simp [hkr]

theorem Alike.findUnique (h : Alike F t t') {k : κ} (hk : F k = false) :
    t.findUnique k = t'.findUnique k := by
  rw [h.left.findUnique hk, h.right.findUnique hk, h.rows]

/-- A row that is found outside has no key of the other part. -/
theorem DividedBy.of_findUnique (h : t.DividedBy F) {k l : κ} (hk : F k = false)
    (hr : t.findUnique k = some r) (hl : l ∈ keys r) : F l = false :=
  (h r (mem_of_findUnique hr) l hl k (key_of_findUnique hr)).trans hk

/-! ## Writes outside -/

theorem DividedBy.create (h : t.DividedBy F) (hr : ∀ k ∈ keys r, ∀ l ∈ keys r, F k = F l)
    (hcreate : t.create r = some u) : u.DividedBy F := by
  intro s hs
  rcases (mem_create hcreate).mp hs with hs | rfl
  · exact h s hs
  · exact hr

theorem Alike.create (h : Alike F t t') (hr : ∀ k ∈ keys r, F k = false) :
    Option.Rel (Alike F) (t.create r) (t'.create r) := by
  have hone : ∀ k ∈ keys r, ∀ l ∈ keys r, F k = F l :=
    fun k hk l hl => (hr k hk).trans (hr l hl).symm
  have hfree : ∀ {s s' : Table keys}, Alike F s s' →
      (∀ x ∈ s.rows, ∀ k ∈ keys x, k ∉ keys r) → ∀ x ∈ s'.rows, ∀ k ∈ keys x, k ∉ keys r := by
    intro s s' hs hfresh x hx k hk hkr
    have hout := hs.mem_outside.mpr (hs.right.mem_outside (hr k hkr) hx hk)
    exact hfresh x (Table.mem_outside.mp hout).1 k hk hkr
  by_cases hfresh : ∀ x ∈ t.rows, ∀ k ∈ keys x, k ∉ keys r
  · obtain ⟨u, hu⟩ := exists_create hfresh
    obtain ⟨u', hu'⟩ := exists_create (hfree h hfresh)
    rw [hu, hu']
    refine .some ⟨h.left.create hone hu, h.right.create hone hu', ?_⟩
    rw [outside, outside, (create_eq_some hu).2, (create_eq_some hu').2, List.filter_append,
      List.filter_append]
    exact congrArg (· ++ _) h.rows
  · have hnone : t.create r = none := dif_neg hfresh
    have hnone' : t'.create r = none := dif_neg fun hfresh' => hfresh (hfree h.symm hfresh')
    rw [hnone, hnone']
    exact .none

omit [DecidableEq κ] in
theorem outside_updateMany (p : ρ → Bool) (f : RowUpdate keys) :
    (t.updateMany p f).outside F = (t.outside F).map fun r => if p r then f.apply r else r := by
  rw [outside, outside, updateMany, List.filter_map]
  congr 1
  refine List.filter_congr fun r _ => ?_
  simp [keys_ite]

omit [DecidableEq κ] in
theorem DividedBy.updateMany (h : t.DividedBy F) (p : ρ → Bool) (f : RowUpdate keys) :
    (t.updateMany p f).DividedBy F := by
  intro s hs
  obtain ⟨r, hr, rfl⟩ := mem_updateMany.mp hs
  rw [keys_ite p f r]
  exact h r hr

omit [DecidableEq κ] in
/-- One update of both tables. -/
theorem Alike.updateMany (h : Alike F t t') (p : ρ → Bool) (f : RowUpdate keys) :
    Alike F (t.updateMany p f) (t'.updateMany p f) :=
  ⟨h.left.updateMany p f, h.right.updateMany p f, by
    rw [outside_updateMany, outside_updateMany, h.rows]⟩

theorem Alike.update (h : Alike F t t') (k : κ) (f : RowUpdate keys) :
    Alike F (t.update k f) (t'.update k f) := h.updateMany _ f

theorem Alike.upsert (h : Alike F t t') {k : κ} (hk : F k = false) (f : RowUpdate keys)
    (hr : ∀ l ∈ keys r, F l = false) :
    Option.Rel (Alike F) (t.upsert k r f) (t'.upsert k r f) := by
  rw [Table.upsert, Table.upsert, h.findUnique hk]
  cases t'.findUnique k with
  | none => exact h.create hr
  | some s => exact .some (h.update k f)

/-- Two parts between which all pairs are related. -/
theorem pairwise_of_parts {α : Type u} {R : α → α → Prop} (q : α → Bool) {l : List α}
    (hin : (l.filter q).Pairwise R) (hout : (l.filter fun x => !q x).Pairwise R)
    (hacross : ∀ a ∈ l, ∀ b ∈ l, q a ≠ q b → R a b) : l.Pairwise R := by
  induction l with
  | nil => exact .nil
  | cons a l ih =>
      have hrest : ∀ x ∈ l, ∀ y ∈ l, q x ≠ q y → R x y :=
        fun x hx y hy => hacross x (by simp [hx]) y (by simp [hy])
      cases ha : q a with
      | true =>
          rw [List.filter_cons_of_pos ha] at hin
          rw [List.filter_cons_of_neg (by simp [ha])] at hout
          obtain ⟨hfirst, hin⟩ := List.pairwise_cons.mp hin
          refine List.pairwise_cons.mpr ⟨fun b hb => ?_, ih hin hout hrest⟩
          cases hb' : q b with
          | true => exact hfirst b (List.mem_filter.mpr ⟨hb, hb'⟩)
          | false => exact hacross a (by simp) b (by simp [hb]) (by simp [ha, hb'])
      | false =>
          rw [List.filter_cons_of_neg (by simp [ha])] at hin
          rw [List.filter_cons_of_pos (by simp [ha])] at hout
          obtain ⟨hfirst, hout⟩ := List.pairwise_cons.mp hout
          refine List.pairwise_cons.mpr ⟨fun b hb => ?_, ih hin hout hrest⟩
          cases hb' : q b with
          | true => exact hacross a (by simp) b (by simp [hb]) (by simp [ha, hb'])
          | false => exact hfirst b (List.mem_filter.mpr ⟨hb, by simp [hb']⟩)

/-- The condition under which a change of the row under `k` is accepted. -/
def Movable (t : Table keys) (k : κ) (f : ρ → ρ) : Prop :=
  (t.rows.map fun r => if k ∈ keys r then f r else r).Pairwise fun r s => ∀ k ∈ keys r, k ∉ keys s

theorem movable_iff_modify {k : κ} {f : ρ → ρ} : t.Movable k f ↔ ∃ u, t.modify k f = some u := by
  constructor
  · exact fun h => ⟨_, dif_pos h⟩
  · rintro ⟨u, hu⟩
    unfold modify at hu
    split at hu
    · assumption
    · cases hu

section Modify

variable {k : κ} {f : ρ → ρ}

/-- A row outside stays outside, and a row inside is not changed. -/
theorem DividedBy.any_modified (h : t.DividedBy F) (hk : F k = false)
    (hf : ∀ r, k ∈ keys r → (∀ l ∈ keys r, F l = false) → ∀ l ∈ keys (f r), F l = false)
    (hr : r ∈ t.rows) :
    (keys (if k ∈ keys r then f r else r)).any F = (keys r).any F := by
  by_cases hkr : k ∈ keys r
  · have hout := (Table.mem_outside.mp (h.mem_outside hk hr hkr)).2
    have hmoved := hf r hkr hout
    rw [if_pos hkr, List.any_eq_false.mpr (by simpa using hmoved),
      List.any_eq_false.mpr (by simpa using hout)]
  · rw [if_neg hkr]

theorem DividedBy.outside_modify (h : t.DividedBy F) (hk : F k = false)
    (hf : ∀ r, k ∈ keys r → (∀ l ∈ keys r, F l = false) → ∀ l ∈ keys (f r), F l = false) :
    (t.rows.map fun r => if k ∈ keys r then f r else r).filter (fun r => !(keys r).any F) =
      (t.outside F).map fun r => if k ∈ keys r then f r else r := by
  rw [outside, List.filter_map]
  congr 1
  refine List.filter_congr fun r hr => ?_
  simp only [Function.comp_apply, h.any_modified hk hf hr]

theorem DividedBy.modified (h : t.DividedBy F) (hk : F k = false)
    (hf : ∀ r, k ∈ keys r → (∀ l ∈ keys r, F l = false) → ∀ l ∈ keys (f r), F l = false) {s : ρ}
    (hs : s ∈ t.rows.map fun r => if k ∈ keys r then f r else r) :
    ∀ a ∈ keys s, ∀ b ∈ keys s, F a = F b := by
  obtain ⟨r, hr, rfl⟩ := List.mem_map.mp hs
  by_cases hkr : k ∈ keys r
  · have hmoved := hf r hkr (Table.mem_outside.mp (h.mem_outside hk hr hkr)).2
    rw [if_pos hkr]
    exact fun a ha b hb => (hmoved a ha).trans (hmoved b hb).symm
  · rw [if_neg hkr]
    exact h r hr

theorem DividedBy.modify (h : t.DividedBy F) (hk : F k = false)
    (hf : ∀ r, k ∈ keys r → (∀ l ∈ keys r, F l = false) → ∀ l ∈ keys (f r), F l = false)
    (hu : t.modify k f = some u) : u.DividedBy F := by
  intro s hs
  rw [modify_eq_some hu] at hs
  exact h.modified hk hf hs

/-- Whether the change is accepted is seen from the rows outside. -/
theorem DividedBy.movable_iff (h : t.DividedBy F) (hk : F k = false)
    (hf : ∀ r, k ∈ keys r → (∀ l ∈ keys r, F l = false) → ∀ l ∈ keys (f r), F l = false) :
    t.Movable k f ↔ ((t.outside F).map fun r => if k ∈ keys r then f r else r).Pairwise
      fun r s => ∀ k ∈ keys r, k ∉ keys s := by
  rw [← h.outside_modify hk hf]
  constructor
  · exact fun hmovable => hmovable.sublist List.filter_sublist
  · intro hout
    refine pairwise_of_parts (fun r => !(keys r).any F) hout ?_ ?_
    · have hin : (t.rows.map fun r => if k ∈ keys r then f r else r).filter
          (fun r => !!(keys r).any F) = t.rows.filter fun r => (keys r).any F := by
        rw [List.filter_map]
        have hsame : ∀ r ∈ t.rows.filter fun r => (keys r).any F,
            (if k ∈ keys r then f r else r) = r := by
          intro r hr
          obtain ⟨hmem, hin⟩ := List.mem_filter.mp hr
          obtain ⟨l, hl, hFl⟩ := List.any_eq_true.mp hin
          refine if_neg fun hkr => ?_
          rw [h r hmem l hl k hkr, hk] at hFl
          cases hFl
        calc _ = (t.rows.filter fun r => (keys r).any F).map
              fun r => if k ∈ keys r then f r else r := by
              congr 1
              refine List.filter_congr fun r hr => ?_
              simp only [Function.comp_apply, Bool.not_not, h.any_modified hk hf hr]
          _ = _ := (List.map_congr_left hsame).trans (List.map_id' _)
      rw [hin]
      exact t.unique.sublist List.filter_sublist
    · intro a ha b hb hab l hla hlb
      exact hab (by rw [any_eq_of_mem (h.modified hk hf ha) hla,
        any_eq_of_mem (h.modified hk hf hb) hlb])

theorem Alike.modify (h : Alike F t t') (hk : F k = false)
    (hf : ∀ r, k ∈ keys r → (∀ l ∈ keys r, F l = false) → ∀ l ∈ keys (f r), F l = false) :
    Option.Rel (Alike F) (t.modify k f) (t'.modify k f) := by
  have hiff : t.Movable k f ↔ t'.Movable k f := by
    rw [h.left.movable_iff hk hf, h.right.movable_iff hk hf, h.rows]
  by_cases hmovable : t.Movable k f
  · obtain ⟨u, hu⟩ := movable_iff_modify.mp hmovable
    obtain ⟨u', hu'⟩ := movable_iff_modify.mp (hiff.mp hmovable)
    rw [hu, hu']
    refine .some ⟨h.left.modify hk hf hu, h.right.modify hk hf hu', ?_⟩
    rw [outside, outside, modify_eq_some hu, modify_eq_some hu', h.left.outside_modify hk hf,
      h.right.outside_modify hk hf, h.rows]
  · have hnone : t.modify k f = none := dif_neg hmovable
    have hnone' : t'.modify k f = none := dif_neg fun h' => hmovable (hiff.mpr h')
    rw [hnone, hnone']
    exact .none

end Modify

/-! ## Writes inside -/

omit [DecidableEq κ] in
/-- All rows that a condition selects inside. -/
theorem DividedBy.updateMany_inside (h : t.DividedBy F) {p : ρ → Bool} (f : RowUpdate keys)
    (hp : ∀ r ∈ t.rows, p r = true → ∃ k ∈ keys r, F k = true) : Alike F t (t.updateMany p f) := by
  refine ⟨h, h.updateMany p f, ?_⟩
  rw [outside_updateMany]
  refine ((List.map_congr_left fun r hr => ?_).trans (List.map_id' _)).symm
  obtain ⟨hmem, hout⟩ := Table.mem_outside.mp hr
  refine if_neg fun hpr => ?_
  obtain ⟨k, hk, hFk⟩ := hp r hmem hpr
  rw [hout k hk] at hFk
  cases hFk

theorem DividedBy.update_inside (h : t.DividedBy F) {k : κ} (hk : F k = true)
    (f : RowUpdate keys) : Alike F t (t.update k f) :=
  h.updateMany_inside f fun _ _ hr => ⟨k, by simpa using hr, hk⟩

theorem DividedBy.create_inside (h : t.DividedBy F) {k : κ} (hk : k ∈ keys r)
    (hr : ∀ l ∈ keys r, F l = true) (hu : t.create r = some u) : Alike F t u := by
  refine ⟨h, h.create (fun a ha b hb => (hr a ha).trans (hr b hb).symm) hu, ?_⟩
  have hany : (keys r).any F = true := List.any_eq_true.mpr ⟨k, hk, hr k hk⟩
  rw [outside, outside, (create_eq_some hu).2, List.filter_append]
  simp [hany]

theorem DividedBy.upsert_inside (h : t.DividedBy F) {k : κ} (hk : k ∈ keys r)
    (hr : ∀ l ∈ keys r, F l = true) {f : RowUpdate keys} (hu : t.upsert k r f = some u) :
    Alike F t u := by
  rcases upsert_cases hu with ⟨-, hcreate⟩ | ⟨s, -, rfl⟩
  · exact h.create_inside hk hr hcreate
  · exact h.update_inside (hr k hk) f

theorem DividedBy.modify_inside (h : t.DividedBy F) {k : κ} {f : ρ → ρ} (hk : F k = true)
    (hf : ∀ r, k ∈ keys r → (∀ l ∈ keys r, F l = true) →
      k ∈ keys (f r) ∧ ∀ l ∈ keys (f r), F l = true)
    (hu : t.modify k f = some u) : Alike F t u := by
  have hinside : ∀ r ∈ t.rows, k ∈ keys r → k ∈ keys (f r) ∧ ∀ l ∈ keys (f r), F l = true :=
    fun r hr hkr => hf r hkr fun l hl => (h r hr l hl k hkr).trans hk
  refine ⟨h, ?_, ?_⟩
  · intro s hs
    obtain ⟨r, hr, rfl⟩ := (mem_modify hu).mp hs
    by_cases hkr : k ∈ keys r
    · rw [if_pos hkr]
      have hmoved := (hinside r hr hkr).2
      exact fun a ha b hb => (hmoved a ha).trans (hmoved b hb).symm
    · rw [if_neg hkr]
      exact h r hr
  · have hsame : ∀ r ∈ t.outside F, (if k ∈ keys r then f r else r) = r := by
      intro r hr
      refine if_neg fun hkr => ?_
      rw [(Table.mem_outside.mp hr).2 k hkr] at hk
      cases hk
    calc t.outside F = (t.outside F).map fun r => if k ∈ keys r then f r else r :=
          ((List.map_congr_left hsame).trans (List.map_id' _)).symm
      _ = u.outside F := by
          rw [outside, outside, modify_eq_some hu, List.filter_map]
          congr 1
          refine List.filter_congr fun r hr => ?_
          by_cases hkr : k ∈ keys r
          · have hbefore : (keys r).any F = true := List.any_eq_true.mpr ⟨k, hkr, hk⟩
            have hafter : (keys (f r)).any F = true :=
              List.any_eq_true.mpr ⟨k, (hinside r hr hkr).1, hk⟩
            simp [hkr, hbefore, hafter]
          · simp [hkr]

end Aegis.Table

/-! ## Sums over a table

A row that is created adds its amount, and one that is updated gives up its old amount for
the new one. -/

namespace Aegis.Table

universe u v w

variable {ρ : Type u} {κ : Type v} {M : Type w} [AddCommMonoid M] {keys : ρ → List κ}

def total (amount : ρ → M) (t : Table keys) : M := (t.rows.map amount).sum

/-- The sum over some of the rows, as one over all of them. -/
theorem sum_filter_eq_total (p : ρ → Prop) [DecidablePred p] (amount : ρ → M) (t : Table keys) :
    ((t.rows.filter (p ·)).map amount).sum = t.total fun r => if p r then amount r else 0 := by
  rw [total, List.sum_map_ite]
  simp

theorem total_congr {amount amount' : ρ → M} {t : Table keys}
    (h : ∀ r ∈ t.rows, amount r = amount' r) : t.total amount = t.total amount' := by
  rw [total, total, List.map_congr_left h]

section Writes

variable {amount : ρ → M} {t t' : Table keys} {r : ρ}

/-- An update that leaves the amounts of the rows it changes. -/
theorem total_updateMany {p : ρ → Bool} {f : RowUpdate keys}
    (h : ∀ r ∈ t.rows, p r = true → amount (f.apply r) = amount r) :
    (t.updateMany p f).total amount = t.total amount := by
  rw [total, total, updateMany, List.map_map]
  refine congrArg List.sum (List.map_congr_left fun r hr => ?_)
  rw [Function.comp_apply]
  split
  · exact h r hr ‹_›
  · rfl

theorem nodup_rows (hkeys : ∀ r, keys r ≠ []) (t : Table keys) : t.rows.Nodup := by
  refine t.unique.imp fun {r s} h hsame => ?_
  obtain ⟨k, hk⟩ := List.exists_mem_of_ne_nil _ (hkeys r)
  exact h k hk (hsame ▸ hk)

/-- Tables that have the rows of some amount in common. -/
theorem total_eq_of_mem_iff [DecidableEq M] (hkeys : ∀ r, keys r ≠ [])
    (h : ∀ r, amount r ≠ 0 → (r ∈ t.rows ↔ r ∈ t'.rows)) : t.total amount = t'.total amount := by
  have hsome : ∀ t : Table keys,
      t.total amount = ((t.rows.filter (amount · ≠ 0)).map amount).sum := by
    intro t
    rw [sum_filter_eq_total (fun r => amount r ≠ 0)]
    refine total_congr fun r _ => ?_
    by_cases hzero : amount r = 0
    · rw [hzero, if_neg (by simp)]
    · rw [if_pos hzero]
  rw [hsome t, hsome t']
  refine (List.Perm.map amount ?_).sum_eq
  rw [List.perm_ext_iff_of_nodup ((nodup_rows hkeys t).filter _) ((nodup_rows hkeys t').filter _)]
  intro r
  rw [List.mem_filter, List.mem_filter]
  constructor
  · rintro ⟨hr, hne⟩
    exact ⟨(h r (of_decide_eq_true hne)).mp hr, hne⟩
  · rintro ⟨hr, hne⟩
    exact ⟨(h r (of_decide_eq_true hne)).mpr hr, hne⟩

variable [DecidableEq κ]

theorem total_create (h : t.create r = some t') :
    t'.total amount = t.total amount + amount r := by
  rw [total, total, (create_eq_some h).2, List.map_append, List.sum_append, List.map_singleton,
    List.sum_singleton]

theorem total_update {k : κ} {f : RowUpdate keys} (h : t.findUnique k = some r) :
    (t.update k f).total amount + amount r = t.total amount + amount (f.apply r) := by
  obtain ⟨before, after, hrows⟩ := List.append_of_mem (mem_of_findUnique h)
  have hkey : k ∈ keys r := key_of_findUnique h
  have hunique := t.unique
  rw [hrows, List.pairwise_append, List.pairwise_cons] at hunique
  obtain ⟨-, ⟨hafter, -⟩, hbefore⟩ := hunique
  have hkept : ∀ l : List ρ, (∀ s ∈ l, k ∉ keys s) →
      l.map (fun s => if decide (k ∈ keys s) = true then f.apply s else s) = l := by
    intro l hl
    refine (List.map_congr_left fun s hs => ?_).trans (List.map_id l)
    rw [if_neg (by simpa using hl s hs)]
    rfl
  have hupdated : (t.update k f).rows = before ++ f.apply r :: after := by
    change t.rows.map (fun s => if decide (k ∈ keys s) = true then f.apply s else s) = _
    rw [hrows, List.map_append, List.map_cons, if_pos (by simpa using hkey),
      hkept before fun s hs hmem => hbefore s hs r (by simp) k hmem hkey,
      hkept after fun s hs => hafter s hs k hkey]
  rw [total, total, hupdated, hrows]
  simp only [List.map_append, List.map_cons, List.sum_append, List.sum_cons]
  ac_rfl

end Writes

end Aegis.Table
