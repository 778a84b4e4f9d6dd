import Aegis.Library.Run
import Mathlib.Data.Fintype.Defs
import Mathlib.Data.List.Lemmas
import Mathlib.Logic.Function.Basic

/-! # Interleaved transactions over a key-value store

Statements of concurrent transactions interleave as under READ COMMITTED: a read sees the
last committed value or the transaction's own write, a write takes the lock of its key and
waits while another transaction holds it, and the writes become visible at the commit. A
run in which no transaction reads a key that another live one has read is serializable. -/

namespace Aegis.Transactions

universe u v w

variable {κ : Type u} {ν : Type v} {τ : Type w}

/-- A transaction: what it does next may depend on the values it has read. -/
inductive Program (κ : Type u) (ν : Type v) where
  | read (key : κ) (next : Option ν → Program κ ν)
  | write (key : κ) (value : ν) (next : Program κ ν)
  | commit
  | abort

/-- Committed values. -/
abbrev Store (κ : Type u) (ν : Type v) := κ → Option ν

/-- Buffered writes, the latest first. -/
abbrev Writes (κ : Type u) (ν : Type v) := List (κ × ν)

/-! ## Interleavings -/

/-- A live transaction: the rest of its program, its buffer, and what it has read. -/
structure Live (κ : Type u) (ν : Type v) where
  rest : Program κ ν
  writes : Writes κ ν
  reads : List κ

/-- The committed store, who holds the lock of a key, every transaction that has not ended,
and the commits in their order. -/
structure State (κ : Type u) (ν : Type v) (τ : Type w) where
  store : Store κ ν
  holder : κ → Option τ
  live : τ → Option (Live κ ν)
  log : List τ

def start (store : Store κ ν) (program : τ → Program κ ν) : State κ ν τ where
  store := store
  holder _ := none
  live t := some ⟨program t, [], []⟩
  log := []

variable [DecidableEq τ]

namespace State

variable (s : State κ ν τ) (t : τ)

def goTo (live : Live κ ν) : State κ ν τ :=
  { s with live := Function.update s.live t (some live) }

/-- The transaction ends and gives its locks back. -/
def finish : State κ ν τ :=
  { s with
    holder := fun key => if s.holder key = some t then none else s.holder key
    live := Function.update s.live t none }

variable {s t}

theorem goTo_live_self (live : Live κ ν) : (s.goTo t live).live t = some live :=
  Function.update_self t _ s.live

theorem goTo_live_of_ne (live : Live κ ν) {t' : τ} (h : t' ≠ t) :
    (s.goTo t live).live t' = s.live t' := Function.update_of_ne h _ s.live

theorem finish_live_self : (s.finish t).live t = none := Function.update_self t _ s.live

theorem finish_live_of_ne {t' : τ} (h : t' ≠ t) : (s.finish t).live t' = s.live t' :=
  Function.update_of_ne h _ s.live

end State

/-! ## Reading and writing -/

variable [DecidableEq κ]

def lookup (writes : Writes κ ν) (key : κ) : Option ν :=
  (writes.find? fun entry => entry.1 = key).map Prod.snd

def overlay (store : Store κ ν) (writes : Writes κ ν) : Store κ ν :=
  fun key => (lookup writes key).or (store key)

/-- The writes of a transaction that runs alone from here; `none` when it aborts. -/
def eval (store : Store κ ν) : Program κ ν → Writes κ ν → Option (Writes κ ν)
  | .read key next, writes => eval store (next (overlay store writes key)) writes
  | .write key value next, writes => eval store next ((key, value) :: writes)
  | .commit, writes => some writes
  | .abort, _ => none

/-- Every key is read before it is written. -/
def ReadsFirst (reads : List κ) : Program κ ν → Prop
  | .read key next => ∀ value, ReadsFirst (key :: reads) (next value)
  | .write key _ next => key ∈ reads ∧ ReadsFirst reads next
  | .commit | .abort => True

namespace State

variable (s : State κ ν τ) (t : τ)

/-- One statement of `t`. -/
def step : State κ ν τ :=
  match s.live t with
  | none => s
  | some ⟨.read key next, writes, reads⟩ =>
      s.goTo t ⟨next (overlay s.store writes key), writes, key :: reads⟩
  | some ⟨.write key value next, writes, reads⟩ =>
      if s.holder key = none ∨ s.holder key = some t then
        { s with holder := Function.update s.holder key (some t) }.goTo t
          ⟨next, (key, value) :: writes, reads⟩
      else s
  | some ⟨.commit, writes, _⟩ =>
      { s with store := overlay s.store writes, log := s.log ++ [t] }.finish t
  | some ⟨.abort, _, _⟩ => s.finish t

/-- A transaction that is about to read a key finds no other live one that has read it. -/
def ReadsAlone : Prop :=
  match s.live t with
  | some ⟨.read key _, _, _⟩ => ∀ t', t' ≠ t → ∀ live ∈ s.live t', key ∉ live.reads
  | _ => True

instance [Fintype τ] : Decidable (s.ReadsAlone t) := by
  unfold ReadsAlone
  split <;> infer_instance

end State

/-- The log replayed: each transaction runs alone on what the ones before it left. -/
inductive Serial (program : τ → Program κ ν) (store : Store κ ν) : List τ → Store κ ν → Prop where
  | nil : Serial program store [] store
  | snoc (log : List τ) (t : τ) (before : Store κ ν) (writes : Writes κ ν)
      (replayed : Serial program store log before)
      (commits : eval before (program t) [] = some writes) :
      Serial program store (log ++ [t]) (overlay before writes)

/-! ## Serializability -/

/-- Two stores agree on the keys that were read. -/
def Agree (keys : List κ) (store store' : Store κ ν) : Prop := ∀ key ∈ keys, store' key = store key

section Serializability

variable {program : τ → Program κ ν} {store₀ : Store κ ν}

/-- A live transaction goes on as its program would from the start on any store that agrees
on what it has read; its writes are to keys it has read. -/
structure OnTrack (program : Program κ ν) (store : Store κ ν) (live : Live κ ν) : Prop where
  resumes : ∀ store', Agree live.reads store store' →
    eval store' live.rest live.writes = eval store' program []
  guarded : ReadsFirst live.reads live.rest
  buffered : ∀ key, (lookup live.writes key).isSome = true → key ∈ live.reads

structure Inv (program : τ → Program κ ν) (store₀ : Store κ ν) (s : State κ ν τ) : Prop where
  serial : Serial program store₀ s.log s.store
  onTrack : ∀ t live, s.live t = some live → OnTrack (program t) s.store live
  disjoint : ∀ t t' live live', t ≠ t' → s.live t = some live → s.live t' = some live' →
    ∀ key ∈ live.reads, key ∉ live'.reads

omit [DecidableEq κ] in
theorem Agree.trans {keys : List κ} {store store' store'' : Store κ ν}
    (h : Agree keys store store') (h' : Agree keys store' store'') : Agree keys store store'' :=
  fun key hkey => (h' key hkey).trans (h key hkey)

theorem overlay_of_lookup_eq_none {store : Store κ ν} {writes : Writes κ ν} {key : κ}
    (h : lookup writes key = none) : overlay store writes key = store key := by
  simp [overlay, h]

theorem lookup_cons (key key' : κ) (value : ν) (writes : Writes κ ν) :
    lookup ((key, value) :: writes) key' =
      if key = key' then some value else lookup writes key' := by
  by_cases h : key = key' <;> simp [lookup, h]

theorem OnTrack.of_agree {p : Program κ ν} {store store' : Store κ ν} {live : Live κ ν}
    (h : OnTrack p store live) (hagree : Agree live.reads store store') : OnTrack p store' live :=
  ⟨fun store'' h'' => h.resumes store'' (hagree.trans h''), h.guarded, h.buffered⟩

theorem onTrack_start {p : Program κ ν} (hp : ReadsFirst [] p) (store : Store κ ν) :
    OnTrack p store ⟨p, [], []⟩ where
  resumes _ _ := rfl
  guarded := hp
  buffered key h := by simp [lookup] at h

theorem OnTrack.read {p : Program κ ν} {store : Store κ ν} {key : κ}
    {next : Option ν → Program κ ν} {writes : Writes κ ν} {reads : List κ}
    (h : OnTrack p store ⟨.read key next, writes, reads⟩) :
    OnTrack p store ⟨next (overlay store writes key), writes, key :: reads⟩ where
  resumes := by
    intro store' hagree
    have hread : overlay store writes key = overlay store' writes key := by
      simp only [overlay, hagree key (by simp)]
    have hresumes := h.resumes store' fun key' hkey' => hagree key' (by simp [hkey'])
    rw [← hresumes, eval, hread]
  guarded := h.guarded _
  buffered key' hkey' := by simp [h.buffered key' hkey']

theorem OnTrack.write {p : Program κ ν} {store : Store κ ν} {key : κ} {value : ν}
    {next : Program κ ν} {writes : Writes κ ν} {reads : List κ}
    (h : OnTrack p store ⟨.write key value next, writes, reads⟩) :
    OnTrack p store ⟨next, (key, value) :: writes, reads⟩ where
  resumes store' hagree := h.resumes store' hagree
  guarded := h.guarded.2
  buffered key' hkey' := by
    rw [lookup_cons] at hkey'
    by_cases hkey : key = key'
    · exact hkey ▸ h.guarded.1
    · rw [if_neg hkey] at hkey'
      exact h.buffered key' hkey'

theorem OnTrack.commits {p : Program κ ν} {store : Store κ ν} {writes : Writes κ ν}
    {reads : List κ} (h : OnTrack p store ⟨.commit, writes, reads⟩) :
    eval store p [] = some writes := (h.resumes store fun _ _ => rfl).symm

/-- A commit leaves alone what other transactions have read. -/
theorem OnTrack.agree_of_commit {p : Program κ ν} {store : Store κ ν} {writes : Writes κ ν}
    {reads keys : List κ} (h : OnTrack p store ⟨.commit, writes, reads⟩)
    (hdisjoint : ∀ key ∈ keys, key ∉ reads) : Agree keys store (overlay store writes) := by
  intro key hkey
  refine overlay_of_lookup_eq_none ?_
  cases hlookup : lookup writes key with
  | none => rfl
  | some value => exact absurd (h.buffered key (by rw [hlookup]; rfl)) (hdisjoint key hkey)

omit [DecidableEq τ] in
theorem inv_start (hprogram : ∀ t, ReadsFirst [] (program t)) :
    Inv program store₀ (start store₀ program) where
  serial := .nil
  onTrack t live h := by
    cases h
    exact onTrack_start (hprogram t) store₀
  disjoint t t' live live' _ h _ key hkey := by
    cases h
    cases hkey

variable {s : State κ ν τ} {t : τ}

/-- One transaction moves to another point of its program and nothing is committed. -/
theorem Inv.goTo (h : Inv program store₀ s) {live : Live κ ν} {holder : κ → Option τ}
    (hon : OnTrack (program t) s.store live)
    (hreads : ∀ t' live', t' ≠ t → s.live t' = some live' → ∀ key ∈ live.reads, key ∉ live'.reads) :
    Inv program store₀ ({ s with holder }.goTo t live) where
  serial := h.serial
  onTrack t' live' hlive' := by
    by_cases ht : t' = t
    · subst ht
      rw [State.goTo_live_self] at hlive'
      cases hlive'
      exact hon
    · rw [State.goTo_live_of_ne live ht] at hlive'
      exact h.onTrack t' live' hlive'
  disjoint t₁ t₂ live₁ live₂ hne h₁ h₂ key hkey := by
    by_cases ht₁ : t₁ = t
    · subst ht₁
      rw [State.goTo_live_self] at h₁
      rw [State.goTo_live_of_ne live hne.symm] at h₂
      cases h₁
      exact hreads t₂ live₂ hne.symm h₂ key hkey
    · rw [State.goTo_live_of_ne live ht₁] at h₁
      by_cases ht₂ : t₂ = t
      · subst ht₂
        rw [State.goTo_live_self] at h₂
        cases h₂
        exact fun hmem => hreads t₁ live₁ hne h₁ key hmem hkey
      · rw [State.goTo_live_of_ne live ht₂] at h₂
        exact h.disjoint t₁ t₂ live₁ live₂ hne h₁ h₂ key hkey

/-- A transaction ends, with the store changed at most where no other one has read. -/
theorem Inv.finish (h : Inv program store₀ s) {store : Store κ ν} {log : List τ}
    (hserial : Serial program store₀ log store)
    (hagree : ∀ t' live', t' ≠ t → s.live t' = some live' → Agree live'.reads s.store store) :
    Inv program store₀ ({ s with store, log }.finish t) where
  serial := hserial
  onTrack t' live' hlive' := by
    by_cases ht : t' = t
    · subst ht
      rw [State.finish_live_self] at hlive'
      cases hlive'
    · rw [State.finish_live_of_ne ht] at hlive'
      exact (h.onTrack t' live' hlive').of_agree (hagree t' live' ht hlive')
  disjoint t₁ t₂ live₁ live₂ hne h₁ h₂ key hkey := by
    by_cases ht₁ : t₁ = t
    · subst ht₁
      rw [State.finish_live_self] at h₁
      cases h₁
    · rw [State.finish_live_of_ne ht₁] at h₁
      by_cases ht₂ : t₂ = t
      · subst ht₂
        rw [State.finish_live_self] at h₂
        cases h₂
      · rw [State.finish_live_of_ne ht₂] at h₂
        exact h.disjoint t₁ t₂ live₁ live₂ hne h₁ h₂ key hkey

theorem Inv.step (h : Inv program store₀ s) (halone : s.ReadsAlone t) :
    Inv program store₀ (s.step t) := by
  cases hlive : s.live t with
  | none => rwa [State.step, hlive]
  | some live =>
      have hon := h.onTrack t live hlive
      have hothers : ∀ t' live', t' ≠ t → s.live t' = some live' →
          ∀ key ∈ live.reads, key ∉ live'.reads := fun t' live' hne hlive' =>
        h.disjoint t t' live live' hne.symm hlive hlive'
      obtain ⟨rest, writes, reads⟩ := live
      cases rest with
      | read key next =>
          rw [State.ReadsAlone, hlive] at halone
          rw [State.step, hlive]
          refine h.goTo hon.read ?_
          intro t' live' hne hlive' key' hkey'
          rcases List.mem_cons.mp hkey' with rfl | hkey'
          · exact halone t' hne live' hlive'
          · exact hothers t' live' hne hlive' key' hkey'
      | write key value next =>
          rw [State.step, hlive]
          simp only
          by_cases hfree : s.holder key = none ∨ s.holder key = some t
          · rw [if_pos hfree]
            exact h.goTo hon.write hothers
          · rw [if_neg hfree]
            exact h
      | commit =>
          rw [State.step, hlive]
          refine h.finish (.snoc s.log t s.store writes h.serial hon.commits) ?_
          intro t' live' hne hlive'
          refine hon.agree_of_commit ?_
          intro key hkey hreads
          exact hothers t' live' hne hlive' key hreads hkey
      | abort =>
          rw [State.step, hlive]
          exact h.finish h.serial fun _ _ _ _ _ _ => rfl

/-- When every read finds its key unread by the other live transactions, the store is at all
times what the committed transactions leave when they run one after the other. -/
theorem always_serial (hprogram : ∀ t, ReadsFirst [] (program t)) {schedule : List τ}
    (halone : Run.Along State.step State.ReadsAlone (start store₀ program) schedule) :
    Run.Always State.step (fun s => Serial program store₀ s.log s.store) (start store₀ program)
      schedule :=
  (Run.always_of_step (fun _ _ => Inv.step) (inv_start hprogram) halone).mono fun _ h => h.serial

end Serializability

end Aegis.Transactions
