import Mathlib.Data.Fintype.Card
import Mathlib.Data.Fintype.Fin

/-!
# Interleaved runs

Every concurrent part of the migration engine is modelled the same way: one state holds
the position of every goroutine together with the variables they share, and an
executable `step s a : Option σ` says what action `a` does, `none` when `a` is not enabled
in `s` (a goroutine blocked on a lock, a latch that is still running, an empty frame
queue).  An interleaving is a list of actions, and the states a migration can be in are
the `Reachable` ones.

Safety results are proved once per model in the same two steps: an invariant holds of
the initial state and every enabled step keeps it (`Reachable.induct_inv`).
Counterexamples are runs: `run` replays a list of actions, and `reachable_of_run` turns a
replayed schedule into a reachable state, so that a violation found on a schedule is one of
the model.

The section on counting counts the goroutines that have raised a per-device flag; the
atomic counters of the source (`devicesLeftToSend`, `devicesLeftToTransferAuthorityFor`,
`len(ReadyDevices)`) are compared with such counts.  The counters are `atomic.Int32`s: the
models keep the sum of what was added to one, and read it as Go does, wrapped to 32 bits
(`int32`).  Below `2 ^ 31` nothing wraps (`int32_of_lt`).
-/

namespace Architekt

variable {σ α : Type}

/-- The states an interleaving of enabled steps can reach from `init`. -/
inductive Reachable (init : σ) (step : σ → α → Option σ) : σ → Prop
  | init : Reachable init step init
  | step {s s' : σ} (a : α) : Reachable init step s → step s a = some s' → Reachable init step s'

/-- Replay a schedule: the state after the actions, or `none` if one is not enabled. -/
def run (step : σ → α → Option σ) : σ → List α → Option σ
  | s, [] => some s
  | s, a :: as => (step s a).bind fun s' => run step s' as

variable {init : σ} {step : σ → α → Option σ}

/-- An invariant that holds initially and is kept by every enabled step from a reachable
state holds in every reachable state. -/
theorem Reachable.induct_inv {inv : σ → Prop} (h₀ : inv init)
    (hstep : ∀ s a s', Reachable init step s → inv s → step s a = some s' → inv s')
    {s : σ} (hs : Reachable init step s) : inv s := by
  induction hs with
  | init => exact h₀
  | step a hs hstep' ih => exact hstep _ a _ hs ih hstep'

theorem Reachable.run {s s' : σ} (hs : Reachable init step s) :
    ∀ {as : List α}, Architekt.run step s as = some s' → Reachable init step s'
  | [], h => by cases h; exact hs
  | a :: as, h => by
      simp only [Architekt.run, Option.bind_eq_some] at h
      obtain ⟨s₁, h₁, hrest⟩ := h
      exact (hs.step a h₁).run hrest

/-- A schedule replayed from the initial state ends in a reachable state. -/
theorem reachable_of_run {as : List α} {s : σ} (h : run step init as = some s) :
    Reachable init step s :=
  Reachable.init.run h

/-- A schedule whose last state satisfies `p` shows a reachable state that does. -/
theorem exists_reachable_of_run {as : List α} {p : σ → Bool}
    (h : (run step init as).map p = some true) : ∃ s, Reachable init step s ∧ p s = true := by
  cases hr : run step init as with
  | none => simp [hr] at h
  | some s =>
      simp only [hr, Option.map_some', Option.some.injEq] at h
      exact ⟨s, reachable_of_run hr, h⟩

/-! ## Counting goroutines -/

section Count

variable {n : Nat}

/-- The number of the `n` goroutines whose flag is set. -/
def countTrue (f : Fin n → Bool) : Nat := (Finset.univ.filter fun i => f i = true).card

theorem countTrue_le (f : Fin n → Bool) : countTrue f ≤ n :=
  (Finset.card_filter_le _ _).trans_eq (Finset.card_fin n)

/-- Raising a flag that was down adds one to the count. -/
theorem countTrue_update_true {f : Fin n → Bool} {i : Fin n} (h : f i = false) :
    countTrue (Function.update f i true) = countTrue f + 1 := by
  have hfilter : (Finset.univ.filter fun j => Function.update f i true j = true) =
      insert i (Finset.univ.filter fun j => f j = true) := by
    ext j
    by_cases hj : j = i
    · subst hj; simp
    · simp [Function.update_noteq hj, hj]
  rw [countTrue, hfilter, Finset.card_insert_of_not_mem (by simp [h])]
  rfl

/-- The count reaches `n` exactly when every flag is set. -/
theorem le_countTrue_iff {f : Fin n → Bool} : n ≤ countTrue f ↔ ∀ i, f i = true := by
  constructor
  · intro h i
    have hcard : (Finset.univ.filter fun j => f j = true).card = Finset.univ.card :=
      le_antisymm (Finset.card_filter_le _ _) (by simpa [countTrue] using h)
    exact Finset.filter_card_eq hcard i (Finset.mem_univ i)
  · intro h
    simp [countTrue, h]

/-- If every flag of `g` is one of `f` and `g` has as many, the two agree. -/
theorem imp_of_countTrue_le {f g : Fin n → Bool} (h : ∀ i, g i = true → f i = true)
    (hle : countTrue f ≤ countTrue g) (i : Fin n) (hi : f i = true) : g i = true := by
  have hsub : (Finset.univ.filter fun j => g j = true) ⊆ Finset.univ.filter fun j => f j = true :=
    fun j hj => by simp only [Finset.mem_filter] at hj ⊢; exact ⟨hj.1, h j hj.2⟩
  have hmem : i ∈ Finset.univ.filter fun j => f j = true := by simp [hi]
  simpa [← Finset.eq_of_subset_of_card_le hsub hle] using hmem

end Count

/-! ## Go's `int32` -/

/-- Go's `int32(k)`: `k` wrapped to 32-bit two's complement.  It is also what an
`atomic.Int32` holds after `Add`s that sum to `k`, and what its `Load` returns. -/
def int32 (k : Int) : Int := (k + 2147483648) % 4294967296 - 2147483648

/-- Below `2 ^ 31`, and from `-2 ^ 31` on, nothing wraps. -/
theorem int32_of_lt {k : Int} (h₁ : -2 ^ 31 ≤ k) (h₂ : k < 2 ^ 31) : int32 k = k := by
  unfold int32
  simp only [Int.reducePow, Int.reduceNeg] at h₁ h₂
  omega

theorem int32_natCast {a : Nat} (h : a < 2 ^ 31) : int32 a = a :=
  int32_of_lt (by omega) (by exact_mod_cast h)

/-- A comparison of two counts below `2 ^ 31` reads the same wrapped. -/
theorem int32_le_int32_iff {a b : Nat} (ha : a < 2 ^ 31) (hb : b < 2 ^ 31) :
    int32 a ≤ int32 b ↔ a ≤ b := by
  rw [int32_natCast ha, int32_natCast hb]
  exact Int.ofNat_le

end Architekt
