import Mathlib.Data.List.Nodup
import Mathlib.Data.List.Sort

/-! # Reading a list in pages

A reader asks for one offset after the other while the list grows. Rows that arrive in between
push the others towards later pages, so a page may repeat rows, but none is passed over. -/

namespace Aegis.Paging

universe u

variable {α : Type u}

def page (limit offset : ℕ) (l : List α) : List α := (l.drop offset).take limit

/-- The pages of a reader, each of the list as it is by then. -/
def walk (limit : ℕ) : ℕ → List (List α) → List (List α)
  | _, [] => []
  | offset, l :: views => page limit offset l :: walk limit (offset + limit) views

/-- The reader stops at a page that is not full. -/
def Ends (limit offset : ℕ) (views : List (List α)) : Prop :=
  ∃ last, (walk limit offset views).getLast? = some last ∧ last.length < limit

/-- Every list is a part of the next, in the same order. -/
def Grows (views : List (List α)) : Prop := views.IsChain List.Sublist

theorem ends_singleton {limit offset : ℕ} {l : List α} :
    Ends limit offset [l] ↔ (page limit offset l).length < limit := by
  simp [Ends, walk]

theorem ends_cons_cons {limit offset : ℕ} {l m : List α} {views : List (List α)} :
    Ends limit offset (l :: m :: views) ↔ Ends limit (offset + limit) (m :: views) := by
  simp only [Ends, walk, List.getLast?_cons_cons]

theorem walk_map {β : Type u} (f : α → β) (limit offset : ℕ) (views : List (List α)) :
    walk limit offset (views.map (List.map f)) = (walk limit offset views).map (List.map f) := by
  induction views generalizing offset with
  | nil => rfl
  | cons l views ih => simp only [List.map_cons, walk, ih, page, List.map_take, List.map_drop]

theorem Ends.map {β : Type u} {limit offset : ℕ} {views : List (List α)}
    (h : Ends limit offset views) (f : α → β) : Ends limit offset (views.map (List.map f)) := by
  obtain ⟨last, hlast, hshort⟩ := h
  refine ⟨last.map f, ?_, by simpa using hshort⟩
  rw [walk_map, List.getLast?_map, hlast, Option.map_some]

section Index

variable [DecidableEq α] {l l' : List α} {x : α}

/-- Rows that arrive push a row back, never forward. -/
theorem idxOf_le_idxOf_of_sublist (h : l.Sublist l') (hl' : l'.Nodup) (hx : x ∈ l) :
    l.idxOf x ≤ l'.idxOf x := by
  induction h with
  | slnil => cases hx
  | cons a h ih =>
      obtain ⟨ha, hnodup⟩ := List.nodup_cons.mp hl'
      have hne : a ≠ x := fun heq => ha (heq ▸ h.subset hx)
      rw [List.idxOf_cons_ne _ hne]
      exact (ih hnodup hx).trans (Nat.le_succ _)
  | cons_cons a h ih =>
      by_cases heq : a = x
      · rw [List.idxOf_cons_eq _ heq]
        exact Nat.zero_le _
      · rw [List.idxOf_cons_ne _ heq, List.idxOf_cons_ne _ heq]
        exact Nat.succ_le_succ
          (ih (List.nodup_cons.mp hl').2 ((List.mem_cons.mp hx).resolve_left (Ne.symm heq)))

theorem mem_page {limit offset : ℕ} (hx : x ∈ l) (hle : offset ≤ l.idxOf x)
    (hlt : l.idxOf x < offset + limit) : x ∈ page limit offset l := by
  have hlength := List.idxOf_lt_length_of_mem hx
  refine List.mem_iff_getElem.mpr ⟨l.idxOf x - offset, ?_, ?_⟩
  · simp only [page, List.length_take, List.length_drop]
    omega
  · simp [page, Nat.add_sub_cancel' hle]

/-- A reader who has passed no row so far passes none. -/
theorem mem_walk_of_le {limit offset : ℕ} {views : List (List α)} (hgrows : Grows (l :: views))
    (hnodup : ∀ m ∈ l :: views, m.Nodup) (hends : Ends limit offset (l :: views)) (hx : x ∈ l)
    (hle : offset ≤ l.idxOf x) : x ∈ (walk limit offset (l :: views)).flatten := by
  induction views generalizing l offset with
  | nil =>
      have hlength := List.idxOf_lt_length_of_mem hx
      simp only [ends_singleton, page, List.length_take, List.length_drop] at hends
      simpa [walk] using mem_page hx hle (by omega)
  | cons m views ih =>
      rw [walk, List.flatten_cons, List.mem_append]
      by_cases hlt : l.idxOf x < offset + limit
      · exact .inl (mem_page hx hle hlt)
      · obtain ⟨hsub, hgrows⟩ := List.isChain_cons_cons.mp hgrows
        have hlater := idxOf_le_idxOf_of_sublist hsub (hnodup m (by simp)) hx
        exact .inr (ih hgrows (fun n hn => hnodup n (List.mem_cons_of_mem _ hn))
          (ends_cons_cons.mp hends)
          (hsub.subset hx) (by omega))

/-- What is there when a reader sets out is on one of the pages. -/
theorem mem_walk {limit : ℕ} {views : List (List α)} (hgrows : Grows (l :: views))
    (hnodup : ∀ m ∈ views, m.Nodup) (hends : Ends limit 0 views) (hx : x ∈ l) :
    x ∈ (walk limit 0 views).flatten := by
  cases views with
  | nil => simp [Ends, walk] at hends
  | cons m views =>
      obtain ⟨hsub, hgrows⟩ := List.isChain_cons_cons.mp hgrows
      exact mem_walk_of_le hgrows hnodup hends (hsub.subset hx) (Nat.zero_le _)

end Index

/-- The pages of a list that stays the same, put together, are its rest. -/
theorem flatten_walk_of_forall {limit offset : ℕ} {l : List α} {views : List (List α)}
    (hsame : ∀ m ∈ views, m = l) (hends : Ends limit offset views) :
    (walk limit offset views).flatten = l.drop offset := by
  induction views generalizing offset with
  | nil => simp [Ends, walk] at hends
  | cons m views ih =>
      obtain rfl := hsame m List.mem_cons_self
      rw [walk, List.flatten_cons]
      cases views with
      | nil =>
          simp only [ends_singleton, page, List.length_take, List.length_drop] at hends
          rw [page, walk, List.flatten_nil, List.append_nil, List.take_of_length_le]
          rw [List.length_drop]
          omega
      | cons n views =>
          rw [ih (fun k hk => hsame k (List.mem_cons_of_mem _ hk)) (ends_cons_cons.mp hends), page,
            ← List.drop_drop, List.take_append_drop]

/-! ## Sorted lists -/

section Sorted

variable {r : α → α → Prop} [DecidableRel r] [Std.Total r] [IsTrans α r] {l l' : List α}

/-- Rows that arrive are sorted in, the others keep their order. -/
theorem insertionSort_sublist (h : l.Sublist l') :
    (l.insertionSort r).Sublist (l'.insertionSort r) := by
  induction h with
  | slnil => exact List.Sublist.refl _
  | cons a h ih => exact ih.trans (List.sublist_orderedInsert a _)
  | cons_cons a h ih => exact ih.orderedInsert_sublist a (List.pairwise_insertionSort r _)

end Sorted

end Aegis.Paging
