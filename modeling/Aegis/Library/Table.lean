import Mathlib.Data.List.Basic
import Mathlib.Data.List.Pairwise
import Mathlib.Data.List.Sort
import Mathlib.Data.Int.Notation

/-! # Tables with unique keys

A row lists every value under which a unique index stores it, so one notion covers
primary keys, composite keys and nullable unique columns. Reads and writes follow
the calls of an object-relational client. -/

namespace Aegis

universe u v

/-- Rows in insertion order; no two rows share a unique key. -/
structure Table {ρ : Type u} {κ : Type v} (keys : ρ → List κ) where
  rows : List ρ
  unique : rows.Pairwise fun r s => ∀ k ∈ keys r, k ∉ keys s

/-- A change of a row that leaves it under the same keys. -/
structure RowUpdate {ρ : Type u} {κ : Type v} (keys : ρ → List κ) where
  apply : ρ → ρ
  keys_apply : ∀ r, keys (apply r) = keys r

/-- The change that changes nothing. -/
def RowUpdate.keep {ρ : Type u} {κ : Type v} {keys : ρ → List κ} : RowUpdate keys where
  apply := id
  keys_apply _ := rfl

@[simp] theorem RowUpdate.keep_apply {ρ : Type u} {κ : Type v} {keys : ρ → List κ} (r : ρ) :
    (RowUpdate.keep : RowUpdate keys).apply r = r := rfl

/-- One change after the other. -/
def RowUpdate.andThen {ρ : Type u} {κ : Type v} {keys : ρ → List κ} (f g : RowUpdate keys) :
    RowUpdate keys where
  apply r := g.apply (f.apply r)
  keys_apply r := (g.keys_apply _).trans (f.keys_apply r)

@[simp] theorem RowUpdate.andThen_apply {ρ : Type u} {κ : Type v} {keys : ρ → List κ}
    (f g : RowUpdate keys) (r : ρ) : (f.andThen g).apply r = g.apply (f.apply r) := rfl

namespace Table

variable {ρ : Type u} {κ : Type v} {keys : ρ → List κ}

def empty : Table keys := ⟨[], List.Pairwise.nil⟩

def singleton (r : ρ) : Table keys := ⟨[r], List.pairwise_singleton _ _⟩

instance : Inhabited (Table keys) := ⟨empty⟩

instance [DecidableEq ρ] : DecidableEq (Table keys) := fun s t =>
  decidable_of_iff (s.rows = t.rows) (by cases s; cases t; simp)

theorem keys_ite (p : ρ → Bool) (f : RowUpdate keys) (r : ρ) :
    keys (if p r then f.apply r else r) = keys r := by
  split
  · exact f.keys_apply r
  · rfl

/-- Rows with the same keys as before stay a table. -/
def updateMany (t : Table keys) (p : ρ → Bool) (f : RowUpdate keys) : Table keys :=
  ⟨t.rows.map fun r => if p r then f.apply r else r, by
    refine List.pairwise_map.mpr (t.unique.imp ?_)
    intro r s h
    simpa only [keys_ite] using h⟩

/-- `findMany` ordered by `key` descending; ties keep the order of insertion. -/
def findManyDesc (t : Table keys) (p : ρ → Bool) (key : ρ → ℤ) : List ρ :=
  (t.rows.filter p).insertionSort fun r s => key s ≤ key r

def findFirstDesc (t : Table keys) (p : ρ → Bool) (key : ρ → ℤ) : Option ρ :=
  (t.findManyDesc p key).head?

theorem mem_findManyDesc {t : Table keys} {p : ρ → Bool} {key : ρ → ℤ} {r : ρ} :
    r ∈ t.findManyDesc p key ↔ r ∈ t.rows ∧ p r = true := by
  rw [findManyDesc, List.mem_insertionSort, List.mem_filter]

theorem findFirstDesc_eq_some {t : Table keys} {p : ρ → Bool} {key : ρ → ℤ} {r : ρ}
    (h : t.findFirstDesc p key = some r) : r ∈ t.rows ∧ p r = true :=
  mem_findManyDesc.mp (List.mem_of_head? h)

theorem head?_insertionSort_cons {α : Type u} (R : α → α → Prop) [DecidableRel R] (a : α)
    (l : List α) : (List.insertionSort R (a :: l)).head? =
      match (List.insertionSort R l).head? with
      | none => some a
      | some b => if R a b then some a else some b := by
  rw [List.insertionSort_cons]
  cases List.insertionSort R l with
  | nil => rfl
  | cons b l =>
      by_cases h : R a b <;> simp [List.orderedInsert, h]

/-- The first of the largest rows that satisfy the query. -/
def FirstLargest (p : ρ → Bool) (key : ρ → ℤ) (l : List ρ) (r : ρ) : Prop :=
  ∃ l₁ l₂, l = l₁ ++ r :: l₂ ∧ p r = true ∧ (∀ x ∈ l₁, p x = true → key x < key r) ∧
    ∀ x ∈ l₂, p x = true → key x ≤ key r

section FirstLargest

variable {p q : ρ → Bool} {key : ρ → ℤ} {l : List ρ} {r : ρ}

theorem FirstLargest.le (h : FirstLargest p key l r) {x : ρ} (hx : x ∈ l) (hp : p x = true) :
    key x ≤ key r := by
  obtain ⟨l₁, l₂, rfl, -, hfront, hback⟩ := h
  rcases List.mem_append.mp hx with hx | hx
  · exact (hfront x hx hp).le
  · rcases List.mem_cons.mp hx with rfl | hx
    · exact le_rfl
    · exact hback x hx hp

theorem FirstLargest.cons_lt (h : FirstLargest p key l r) {a : ρ}
    (ha : p a = true → key a < key r) : FirstLargest p key (a :: l) r := by
  obtain ⟨l₁, l₂, rfl, hr, hfront, hback⟩ := h
  refine ⟨a :: l₁, l₂, rfl, hr, ?_, hback⟩
  intro x hx hp
  rcases List.mem_cons.mp hx with rfl | hx
  · exact ha hp
  · exact hfront x hx hp

theorem FirstLargest.unique {r' : ρ} (h : FirstLargest p key l r) (h' : FirstLargest p key l r') :
    r = r' := by
  obtain ⟨l₁, l₂, rfl, hr, hfront, hback⟩ := h
  obtain ⟨l₁', l₂', hl, hr', hfront', hback'⟩ := h'
  rcases List.append_eq_append_iff.mp hl with ⟨m, hm, hrest⟩ | ⟨m, hm, hrest⟩
  · cases m with
    | nil =>
        cases hrest
        rfl
    | cons b m =>
        cases hrest
        have hlt := hfront' r (by simp [hm]) hr
        exact absurd (hback r' (by simp) hr') (not_le.mpr hlt)
  · cases m with
    | nil =>
        cases hrest
        rfl
    | cons b m =>
        cases hrest
        have hlt := hfront r' (by simp [hm]) hr'
        exact absurd (hback' r (by simp) hr) (not_le.mpr hlt)

theorem firstLargest_of_head? {r : ρ}
    (h : ((l.filter p).insertionSort fun r s => key s ≤ key r).head? = some r) :
    FirstLargest p key l r := by
  induction l generalizing r with
  | nil => cases h
  | cons a l ih =>
      by_cases ha : p a = true
      · rw [List.filter_cons_of_pos ha, head?_insertionSort_cons] at h
        cases hhead : ((l.filter p).insertionSort fun r s => key s ≤ key r).head? with
        | none =>
            rw [hhead] at h
            cases h
            have hnil : l.filter p = [] := by simpa [← List.length_eq_zero_iff] using hhead
            exact ⟨[], l, rfl, ha, by simp,
              fun x hx hp => absurd hp (List.filter_eq_nil_iff.mp hnil x hx)⟩
        | some b =>
            rw [hhead] at h
            simp only at h
            have hb := ih hhead
            by_cases hle : key b ≤ key a
            · rw [if_pos hle] at h
              cases h
              exact ⟨[], l, rfl, ha, by simp, fun x hx hp => (hb.le hx hp).trans hle⟩
            · rw [if_neg hle] at h
              cases h
              exact hb.cons_lt fun _ => not_le.mp hle
      · rw [List.filter_cons_of_neg ha] at h
        exact (ih h).cons_lt fun hp => absurd hp ha

theorem findFirstDesc_eq_some_iff {t : Table keys} :
    t.findFirstDesc p key = some r ↔ FirstLargest p key t.rows r := by
  constructor
  · exact firstLargest_of_head?
  · intro h
    cases hhead : t.findFirstDesc p key with
    | none =>
        obtain ⟨l₁, l₂, hrows, hr, -, -⟩ := h
        have hmem : r ∈ t.findManyDesc p key := mem_findManyDesc.mpr ⟨by simp [hrows], hr⟩
        rw [List.head?_eq_none_iff.mp hhead] at hmem
        cases hmem
    | some b => rw [h.unique (firstLargest_of_head? hhead)]

/-- No row that satisfies the query is larger than the one found. -/
theorem le_of_findFirstDesc {t : Table keys} (h : t.findFirstDesc p key = some r) {x : ρ}
    (hx : x ∈ t.rows) (hp : p x = true) : key x ≤ key r :=
  (findFirstDesc_eq_some_iff.mp h).le hx hp

theorem findFirstDesc_eq_none {t : Table keys} :
    t.findFirstDesc p key = none ↔ ∀ x ∈ t.rows, p x = false := by
  rw [findFirstDesc, List.head?_eq_none_iff, List.eq_nil_iff_forall_not_mem]
  simp [mem_findManyDesc]

/-- A narrower query that the row found still satisfies finds the same row. -/
theorem findFirstDesc_of_imp {t : Table keys} (h : t.findFirstDesc p key = some r)
    (hr : q r = true) (hq : ∀ x, q x = true → p x = true) : t.findFirstDesc q key = some r := by
  obtain ⟨l₁, l₂, hrows, -, hfront, hback⟩ := findFirstDesc_eq_some_iff.mp h
  exact findFirstDesc_eq_some_iff.mpr ⟨l₁, l₂, hrows, hr, fun x hx hp => hfront x hx (hq x hp),
    fun x hx hp => hback x hx (hq x hp)⟩

/-- A lower bound on the key cuts off the largest row or nothing. -/
theorem findFirstDesc_and_le (t : Table keys) (p : ρ → Bool) (key : ρ → ℤ) (c : ℤ) :
    t.findFirstDesc (fun r => p r && c ≤ key r) key =
      (t.findFirstDesc p key).filter fun r => c ≤ key r := by
  cases h : t.findFirstDesc p key with
  | none =>
      rw [findFirstDesc_eq_none] at h
      rw [Option.filter_none, findFirstDesc_eq_none]
      intro x hx
      simp [h x hx]
  | some r =>
      obtain ⟨-, hr⟩ := findFirstDesc_eq_some h
      by_cases hc : c ≤ key r
      · rw [Option.filter_some_pos (by simpa using hc)]
        refine findFirstDesc_of_imp h (by simp [hr, hc]) fun x hx => ?_
        simp only [Bool.and_eq_true] at hx
        exact hx.1
      · rw [Option.filter_some_neg (by simpa using hc), findFirstDesc_eq_none]
        intro x hx
        cases hp : p x with
        | false => rfl
        | true =>
            have hle := le_of_findFirstDesc h hx hp
            have hlt : ¬c ≤ key x := by omega
            simp [hlt]

end FirstLargest

theorem findFirstDesc_singleton (r : ρ) (p : ρ → Bool) (key : ρ → ℤ) :
    (singleton r : Table keys).findFirstDesc p key = if p r then some r else none := by
  by_cases h : p r <;> simp [findFirstDesc, findManyDesc, singleton, h]

variable [DecidableEq κ]

def findUnique (t : Table keys) (k : κ) : Option ρ :=
  t.rows.find? fun r => decide (k ∈ keys r)

/-- Insertion fails when an index already holds one of the row's keys. -/
def create (t : Table keys) (r : ρ) : Option (Table keys) :=
  if h : ∀ s ∈ t.rows, ∀ k ∈ keys s, k ∉ keys r then
    some ⟨t.rows ++ [r], by
      refine List.pairwise_append.mpr ⟨t.unique, List.pairwise_singleton _ _, ?_⟩
      intro s hs r' hr'
      rw [List.mem_singleton.mp hr']
      exact h s hs⟩
  else none

def update (t : Table keys) (k : κ) (f : RowUpdate keys) : Table keys :=
  t.updateMany (fun r => decide (k ∈ keys r)) f

/-- The row under `k` is updated when it exists and `r` is inserted otherwise. -/
def upsert (t : Table keys) (k : κ) (r : ρ) (f : RowUpdate keys) : Option (Table keys) :=
  match t.findUnique k with
  | none => t.create r
  | some _ => some (t.update k f)

/-- A change that may move the row to other index entries; it fails when one is taken. -/
def modify (t : Table keys) (k : κ) (f : ρ → ρ) : Option (Table keys) :=
  if h : (t.rows.map fun r => if k ∈ keys r then f r else r).Pairwise
      fun r s => ∀ k ∈ keys r, k ∉ keys s then some ⟨_, h⟩
  else none

/-! ## Reading back -/

@[simp] theorem findUnique_empty (k : κ) : (empty : Table keys).findUnique k = none := rfl

theorem findUnique_singleton (r : ρ) (k : κ) :
    (singleton r : Table keys).findUnique k = if k ∈ keys r then some r else none := by
  by_cases h : k ∈ keys r <;> simp [findUnique, singleton, h]

theorem findUnique_eq_some (t : Table keys) (k : κ) (r : ρ) :
    t.findUnique k = some r ↔ r ∈ t.rows ∧ k ∈ keys r := by
  constructor
  · intro h
    exact ⟨List.mem_of_find?_eq_some h, by simpa using List.find?_some h⟩
  · rintro ⟨hr, hk⟩
    obtain ⟨rows, unique⟩ := t
    simp only [findUnique] at hr ⊢
    induction rows with
    | nil => simp at hr
    | cons s rows ih =>
        have htail := List.pairwise_cons.mp unique
        rcases List.mem_cons.mp hr with rfl | hr
        · simp [hk]
        · have hs : k ∉ keys s := fun hks => htail.1 r hr k hks hk
          simpa [hs] using ih htail.2 hr

theorem findUnique_eq_none (t : Table keys) (k : κ) :
    t.findUnique k = none ↔ ∀ r ∈ t.rows, k ∉ keys r := by
  simp [findUnique]

theorem mem_of_findUnique {t : Table keys} {k : κ} {r : ρ} (h : t.findUnique k = some r) :
    r ∈ t.rows := ((t.findUnique_eq_some k r).mp h).1

theorem key_of_findUnique {t : Table keys} {k : κ} {r : ρ} (h : t.findUnique k = some r) :
    k ∈ keys r := ((t.findUnique_eq_some k r).mp h).2

/-- A key leads to the only row that lists it. -/
theorem eq_of_findUnique {t : Table keys} {k : κ} {r s : ρ} (h : t.findUnique k = some s)
    (hr : r ∈ t.rows) (hk : k ∈ keys r) : r = s := by
  have hfound : t.findUnique k = some r := (t.findUnique_eq_some k r).mpr ⟨hr, hk⟩
  exact Option.some.inj (hfound.symm.trans h)

/-- Two rows under one key are one row. -/
theorem eq_of_mem_keys {t : Table keys} {k : κ} {r s : ρ} (hr : r ∈ t.rows) (hs : s ∈ t.rows)
    (hk : k ∈ keys r) (hk' : k ∈ keys s) : r = s :=
  eq_of_findUnique ((t.findUnique_eq_some k s).mpr ⟨hs, hk'⟩) hr hk

/-- Every index of a row leads to that row. -/
theorem findUnique_of_findUnique {t : Table keys} {k l : κ} {r : ρ}
    (h : t.findUnique k = some r) (hl : l ∈ keys r) : t.findUnique l = some r :=
  (t.findUnique_eq_some l r).mpr ⟨mem_of_findUnique h, hl⟩

theorem findUnique_updateMany (t : Table keys) (p : ρ → Bool) (f : RowUpdate keys) (k : κ) :
    (t.updateMany p f).findUnique k =
      (t.findUnique k).map fun r => if p r then f.apply r else r := by
  simp only [findUnique, updateMany, List.find?_map, Function.comp_def, keys_ite]

theorem findUnique_update (t : Table keys) (l : κ) (f : RowUpdate keys) (k : κ) :
    (t.update l f).findUnique k =
      (t.findUnique k).map fun r => if l ∈ keys r then f.apply r else r := by
  simp [update, findUnique_updateMany]

theorem findUnique_update_self (t : Table keys) (k : κ) (f : RowUpdate keys) :
    (t.update k f).findUnique k = (t.findUnique k).map f.apply := by
  rw [findUnique_update]
  cases h : t.findUnique k with
  | none => rfl
  | some r => simp [key_of_findUnique h]

@[simp] theorem update_keep (t : Table keys) (k : κ) : t.update k .keep = t := by
  simp [update, updateMany, RowUpdate.keep]

theorem update_update (t : Table keys) (k : κ) (f g : RowUpdate keys) :
    (t.update k f).update k g = t.update k (f.andThen g) := by
  simp only [update, updateMany, List.map_map, Table.mk.injEq]
  refine List.map_congr_left fun r _ => ?_
  by_cases hk : k ∈ keys r
  · simp [hk, f.keys_apply]
  · simp [hk]

/-- A row outside the updated index entry is untouched. -/
theorem findUnique_update_of_notMem {t : Table keys} {k l : κ} {f : RowUpdate keys}
    (h : ∀ r, t.findUnique k = some r → l ∉ keys r) :
    (t.update l f).findUnique k = t.findUnique k := by
  rw [findUnique_update]
  cases hk : t.findUnique k with
  | none => rfl
  | some r => simp [h r hk]

theorem create_eq_some {t t' : Table keys} {r : ρ} (h : t.create r = some t') :
    (∀ s ∈ t.rows, ∀ k ∈ keys s, k ∉ keys r) ∧ t'.rows = t.rows ++ [r] := by
  unfold create at h
  split at h
  · rename_i hfresh
    cases h
    exact ⟨hfresh, rfl⟩
  · cases h

theorem exists_create {t : Table keys} {r : ρ} (h : ∀ s ∈ t.rows, ∀ k ∈ keys s, k ∉ keys r) :
    ∃ t', t.create r = some t' := ⟨_, dif_pos h⟩

/-- A new row that is larger than all that satisfy the query is the one found. -/
theorem findFirstDesc_create_of_lt {t t' : Table keys} {r : ρ} {p : ρ → Bool} {key : ρ → ℤ}
    (h : t.create r = some t') (hr : p r = true)
    (hlt : ∀ x ∈ t.rows, p x = true → key x < key r) : t'.findFirstDesc p key = some r :=
  findFirstDesc_eq_some_iff.mpr ⟨t.rows, [], (create_eq_some h).2, hr, hlt, by simp⟩

/-- A new row outside the query changes nothing. -/
theorem findFirstDesc_create_of_not {t t' : Table keys} {r : ρ} {p : ρ → Bool} (key : ρ → ℤ)
    (h : t.create r = some t') (hr : p r = false) :
    t'.findFirstDesc p key = t.findFirstDesc p key := by
  have hfilter : t'.rows.filter p = t.rows.filter p := by
    simp [(create_eq_some h).2, hr]
  rw [findFirstDesc, findFirstDesc, findManyDesc, findManyDesc, hfilter]

/-- Rows outside the query may change as long as they stay outside. -/
theorem findFirstDesc_update_of_not {t : Table keys} {k : κ} {f : RowUpdate keys} {p : ρ → Bool}
    (key : ρ → ℤ) (h : ∀ r ∈ t.rows, k ∈ keys r → p r = false ∧ p (f.apply r) = false) :
    (t.update k f).findFirstDesc p key = t.findFirstDesc p key := by
  have hfilter : ∀ rows : List ρ, (∀ r ∈ rows, k ∈ keys r → p r = false ∧ p (f.apply r) = false) →
      (rows.map fun r => if k ∈ keys r then f.apply r else r).filter p = rows.filter p := by
    intro rows hrows
    induction rows with
    | nil => rfl
    | cons r rows ih =>
        have hrest := ih fun s hs => hrows s (List.mem_cons_of_mem _ hs)
        by_cases hk : k ∈ keys r
        · obtain ⟨hbefore, hafter⟩ := hrows r (by simp) hk
          simp [hk, hbefore, hafter, hrest]
        · simp [hk, List.filter_cons, hrest]
  have hrows : (t.update k f).rows.filter p = t.rows.filter p := by
    simpa [update, updateMany] using hfilter t.rows h
  rw [findFirstDesc, findFirstDesc, findManyDesc, findManyDesc, hrows]

theorem findUnique_create {t t' : Table keys} {r : ρ} (h : t.create r = some t') (k : κ) :
    t'.findUnique k = if k ∈ keys r then some r else t.findUnique k := by
  obtain ⟨hfresh, hrows⟩ := create_eq_some h
  split
  · rename_i hk
    exact (t'.findUnique_eq_some k r).mpr ⟨by simp [hrows], hk⟩
  · rename_i hk
    simp [findUnique, hrows, List.find?_append, hk]

/-- A new row displaces none. -/
theorem findUnique_create_of_some {t t' : Table keys} {r s : ρ} {k : κ} (h : t.create r = some t')
    (hk : t.findUnique k = some s) : t'.findUnique k = some s := by
  refine (t'.findUnique_eq_some k s).mpr ⟨?_, key_of_findUnique hk⟩
  rw [(create_eq_some h).2]
  exact List.mem_append_left _ (mem_of_findUnique hk)

theorem mem_create {t t' : Table keys} {r s : ρ} (h : t.create r = some t') :
    s ∈ t'.rows ↔ s ∈ t.rows ∨ s = r := by
  simp [(create_eq_some h).2]

omit [DecidableEq κ] in
theorem mem_updateMany {t : Table keys} {p : ρ → Bool} {f : RowUpdate keys} {s : ρ} :
    s ∈ (t.updateMany p f).rows ↔ ∃ r ∈ t.rows, (if p r then f.apply r else r) = s := by
  simp [updateMany]

theorem mem_update {t : Table keys} {k : κ} {f : RowUpdate keys} {s : ρ} :
    s ∈ (t.update k f).rows ↔ ∃ r ∈ t.rows, (if k ∈ keys r then f.apply r else r) = s := by
  simp [update, updateMany]

/-- Rows outside the updated index entry are neither lost nor added. -/
theorem mem_update_of_notMem {t : Table keys} {k : κ} {f : RowUpdate keys} {s : ρ}
    (hs : k ∉ keys s) : s ∈ (t.update k f).rows ↔ s ∈ t.rows := by
  rw [mem_update]
  constructor
  · rintro ⟨r, hr, hrs⟩
    by_cases hk : k ∈ keys r
    · rw [if_pos hk] at hrs
      exact absurd (by rw [← hrs, f.keys_apply]; exact hk) hs
    · rw [if_neg hk] at hrs
      exact hrs ▸ hr
  · exact fun hmem => ⟨s, hmem, if_neg hs⟩

/-- All keys of a row select that row alone. -/
theorem mem_keys_iff_of_findUnique {t : Table keys} {k l : κ} {r s : ρ}
    (hr : t.findUnique k = some r) (hl : l ∈ keys r) (hs : s ∈ t.rows) :
    k ∈ keys s ↔ l ∈ keys s := by
  have hlr := findUnique_of_findUnique hr hl
  constructor
  · intro hk
    rw [eq_of_findUnique hr hs hk]
    exact hl
  · intro hls
    rw [eq_of_findUnique hlr hs hls]
    exact key_of_findUnique hr

/-- It does not matter under which of its keys a row is updated. -/
theorem update_eq_of_findUnique {t : Table keys} {k l : κ} {r : ρ} (f : RowUpdate keys)
    (hr : t.findUnique k = some r) (hl : l ∈ keys r) : t.update k f = t.update l f := by
  have hrows : (t.update k f).rows = (t.update l f).rows := by
    simp only [update, updateMany, decide_eq_true_eq]
    refine List.map_congr_left fun s hs => ?_
    simp only [mem_keys_iff_of_findUnique hr hl hs]
  cases h : t.update k f
  cases h' : t.update l f
  simpa [h, h'] using hrows

theorem modify_eq_some {t t' : Table keys} {k : κ} {f : ρ → ρ} (h : t.modify k f = some t') :
    t'.rows = t.rows.map fun r => if k ∈ keys r then f r else r := by
  unfold modify at h
  split at h
  · cases h
    rfl
  · cases h

theorem mem_modify {t t' : Table keys} {k : κ} {f : ρ → ρ} (h : t.modify k f = some t') {s : ρ} :
    s ∈ t'.rows ↔ ∃ r ∈ t.rows, (if k ∈ keys r then f r else r) = s := by
  simp [modify_eq_some h]

/-- An index whose entries the change leaves alone. -/
theorem findUnique_modify {t t' : Table keys} {k l : κ} {f : ρ → ρ} (h : t.modify l f = some t')
    (hk : ∀ r, k ∈ keys (f r) ↔ k ∈ keys r) :
    t'.findUnique k = (t.findUnique k).map fun r => if l ∈ keys r then f r else r := by
  have hkept : ∀ r, (k ∈ keys (if l ∈ keys r then f r else r)) ↔ k ∈ keys r := by
    intro r
    split
    · exact hk r
    · exact Iff.rfl
  simp only [findUnique, modify_eq_some h, List.find?_map, Function.comp_def, hkept]

/-- A row outside the modified index entry keeps its entries. -/
theorem findUnique_modify_of_notMem {t t' : Table keys} {k l : κ} {f : ρ → ρ}
    (h : t.modify k f = some t') {r : ρ} (hr : t.findUnique l = some r) (hk : k ∉ keys r) :
    t'.findUnique l = some r :=
  (t'.findUnique_eq_some l r).mpr
    ⟨(mem_modify h).mpr ⟨r, mem_of_findUnique hr, by simp [hk]⟩, key_of_findUnique hr⟩

/-! ## Insert or update -/

/-- What an upsert does to every index, in its two branches. -/
theorem upsert_cases {t t' : Table keys} {k : κ} {r : ρ} {f : RowUpdate keys}
    (h : t.upsert k r f = some t') :
    (t.findUnique k = none ∧ t.create r = some t') ∨
    (∃ s, t.findUnique k = some s ∧ t' = t.update k f) := by
  unfold upsert at h
  cases hk : t.findUnique k with
  | none =>
      rw [hk] at h
      exact .inl ⟨rfl, h⟩
  | some s =>
      rw [hk] at h
      cases h
      exact .inr ⟨s, rfl, rfl⟩

/-- After an upsert the row under `k` is the inserted one or the updated one. -/
theorem findUnique_upsert_self {t t' : Table keys} {k : κ} {r : ρ} {f : RowUpdate keys}
    (h : t.upsert k r f = some t') (hk : k ∈ keys r) :
    t'.findUnique k = some (((t.findUnique k).map f.apply).getD r) := by
  rcases upsert_cases h with ⟨hnone, hcreate⟩ | ⟨s, hs, rfl⟩
  · simp [findUnique_create hcreate, hk, hnone]
  · simp [findUnique_update_self, hs]

/-- An upsert leaves alone every index entry that neither branch touches. -/
theorem findUnique_upsert_of_notMem {t t' : Table keys} {k l : κ} {r : ρ} {f : RowUpdate keys}
    (h : t.upsert k r f = some t') (hl : l ∉ keys r)
    (hkl : ∀ s, t.findUnique l = some s → k ∉ keys s) :
    t'.findUnique l = t.findUnique l := by
  rcases upsert_cases h with ⟨-, hcreate⟩ | ⟨s, -, rfl⟩
  · simp [findUnique_create hcreate, hl]
  · exact findUnique_update_of_notMem hkl

end Table

end Aegis
