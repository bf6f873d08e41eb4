import Mathlib.Tactic.Common
import Mathlib.Data.List.Basic

/-!
# The convergence policy of the dirty loop

Both dirty-sync drivers decide readiness for authority transfer with the same few lines:
the per-device loop of `MigrateTo` on its local `totalCycles` and
`cyclesBelowDirtyBlockTreshold`, and `DirtyManager.PostMigrateDirty` on the same fields of
its `DeviceStatus` while the VM is not suspended.

```text
totalCycles++
if len(blocks) < MaxDirtyBlocks {
    cyclesBelowDirtyBlockTreshold++
    if cyclesBelowDirtyBlockTreshold > MinCycles { mark ready }
} else if totalCycles > MaxCycles { mark ready }
else { cyclesBelowDirtyBlockTreshold = 0 }
```

`converge` is one such cycle, and `policy` folds it over the sizes of the dirty samples,
keeping the mark once set (`sync.OnceFunc` in the loop, `DeviceStatus.Ready` in the
manager).

Forced convergence fires only on a cycle whose sample is at least `MaxDirtyBlocks`, so a
run of small samples that starts just before cycle `MaxCycles` still has to count up to
`MinCycles`.  The bound that holds for every sample sequence is
`MaxCycles + MinCycles + 1` cycles (`policy_ready_of_le_length`), and it is attained
(`policy_not_ready_at_bound`; both in `policy_ready_bound_exact`); the bound
`MaxCycles + 1` is not (`policy_not_ready_after_maxCycles_succ`).
-/

namespace Architekt

/-- The convergence thresholds of a device (`MigrateToDevice`, `DeviceStatus`). -/
structure Thresholds where
  maxDirtyBlocks : Nat
  minCycles : Nat
  maxCycles : Nat
  deriving Repr, DecidableEq

/-- The two counters of the policy. -/
structure Cycles where
  totalCycles : Nat
  cyclesBelowDirtyBlockTreshold : Nat
  deriving Repr, DecidableEq

namespace Cycles

/-- One cycle of the policy on a sample of `dirty` blocks: the new counters, and whether
the cycle marks the device ready for authority transfer. -/
def converge (t : Thresholds) (c : Cycles) (dirty : Nat) : Cycles × Bool :=
  if dirty < t.maxDirtyBlocks then
    (⟨c.totalCycles + 1, c.cyclesBelowDirtyBlockTreshold + 1⟩,
      decide (t.minCycles < c.cyclesBelowDirtyBlockTreshold + 1))
  else if t.maxCycles < c.totalCycles + 1 then
    (⟨c.totalCycles + 1, c.cyclesBelowDirtyBlockTreshold⟩, true)
  else
    (⟨c.totalCycles + 1, 0⟩, false)

@[simp] theorem converge_totalCycles (t : Thresholds) (c : Cycles) (dirty : Nat) :
    (converge t c dirty).1.totalCycles = c.totalCycles + 1 := by
  unfold converge; split_ifs <;> rfl

/-- A cycle that does not mark the device leaves at most `MinCycles` cycles below the
threshold. -/
theorem converge_below_le (t : Thresholds) (c : Cycles) (dirty : Nat)
    (h : (converge t c dirty).2 = false) :
    (converge t c dirty).1.cyclesBelowDirtyBlockTreshold ≤ t.minCycles := by
  unfold converge at h ⊢
  split_ifs at h ⊢ with h₁ <;> simp_all

/-- Past `MaxCycles`, a cycle that does not mark the device was a cycle below the
threshold. -/
theorem converge_below_succ (t : Thresholds) (c : Cycles) (dirty : Nat)
    (hmax : t.maxCycles ≤ c.totalCycles) (h : (converge t c dirty).2 = false) :
    (converge t c dirty).1.cyclesBelowDirtyBlockTreshold =
      c.cyclesBelowDirtyBlockTreshold + 1 := by
  unfold converge at h ⊢
  split_ifs at h ⊢ with h₁ h₂
  · rfl
  · omega

/-- The counters and the readiness mark after a loop has taken the given samples, in
order. -/
def policy (t : Thresholds) (samples : List Nat) : Cycles × Bool :=
  samples.foldl (fun (acc : Cycles × Bool) n =>
    ((converge t acc.1 n).1, acc.2 || (converge t acc.1 n).2)) (⟨0, 0⟩, false)

@[simp] theorem policy_nil (t : Thresholds) : policy t [] = (⟨0, 0⟩, false) := rfl

@[simp] theorem policy_append_singleton (t : Thresholds) (samples : List Nat) (n : Nat) :
    policy t (samples ++ [n]) =
      ((converge t (policy t samples).1 n).1,
        (policy t samples).2 || (converge t (policy t samples).1 n).2) := by
  simp [policy, List.foldl_append]

variable {t : Thresholds}

@[simp] theorem policy_totalCycles (samples : List Nat) :
    (policy t samples).1.totalCycles = samples.length := by
  induction samples using List.reverseRecOn with
  | nil => rfl
  | append_singleton samples n ih => simp [ih]

theorem policy_unmarked_of_append {samples : List Nat} (n : Nat)
    (h : (policy t (samples ++ [n])).2 = false) :
    (policy t samples).2 = false ∧ (converge t (policy t samples).1 n).2 = false := by
  simpa using h

/-- A device not yet marked has at most `MinCycles` cycles below the threshold. -/
theorem policy_below_le {samples : List Nat} (h : (policy t samples).2 = false) :
    (policy t samples).1.cyclesBelowDirtyBlockTreshold ≤ t.minCycles := by
  induction samples using List.reverseRecOn with
  | nil => exact Nat.zero_le _
  | append_singleton samples n _ =>
      rw [policy_append_singleton]
      exact converge_below_le t _ n (policy_unmarked_of_append n h).2

/-- A device not yet marked `j` cycles past `MaxCycles` has had its last `j` cycles below
the threshold. -/
theorem policy_below_ge {samples : List Nat} (j : Nat) (hlen : t.maxCycles + j ≤ samples.length)
    (h : (policy t samples).2 = false) :
    j ≤ (policy t samples).1.cyclesBelowDirtyBlockTreshold := by
  induction samples using List.reverseRecOn generalizing j with
  | nil => simp at hlen; omega
  | append_singleton samples n ih =>
      obtain ⟨hprev, hcycle⟩ := policy_unmarked_of_append n h
      cases j with
      | zero => exact Nat.zero_le _
      | succ j =>
          simp only [List.length_append, List.length_singleton] at hlen
          have hbelow := ih j (by omega) hprev
          have hstep := converge_below_succ t _ n (by simp; omega) hcycle
          rw [policy_append_singleton, hstep]
          omega

/-- Every device is marked ready for authority transfer by its
`(MaxCycles + MinCycles + 1)`-th cycle, whatever the sizes of its dirty samples. -/
theorem policy_ready_of_le_length (samples : List Nat)
    (hlen : t.maxCycles + t.minCycles + 1 ≤ samples.length) : (policy t samples).2 = true := by
  by_contra hready
  rw [Bool.not_eq_true] at hready
  have hge := policy_below_ge (t.minCycles + 1) (by omega) hready
  have hle := policy_below_le hready
  omega

private theorem policy_replicate_large (m M : Nat) :
    ∀ k ≤ M, policy ⟨1, m, M⟩ (List.replicate k 1) = (⟨k, 0⟩, false)
  | 0, _ => rfl
  | k + 1, hk => by
      rw [List.replicate_succ', policy_append_singleton, policy_replicate_large m M k (by omega)]
      simp [converge]
      omega

private theorem policy_append_replicate_small (m M : Nat) (pre : List Nat)
    (hpre : policy ⟨1, m, M⟩ pre = (⟨M, 0⟩, false)) :
    ∀ j ≤ m, policy ⟨1, m, M⟩ (pre ++ List.replicate j 0) = (⟨M + j, j⟩, false)
  | 0, _ => by simpa using hpre
  | j + 1, hj => by
      rw [List.replicate_succ', ← List.append_assoc, policy_append_singleton,
        policy_append_replicate_small m M pre hpre j (by omega)]
      simp [converge]
      omega

/-- The bound is attained: `MaxCycles` samples at the threshold followed by `MinCycles`
samples below it leave the device unmarked after `MaxCycles + MinCycles` cycles. -/
theorem policy_not_ready_at_bound (maxCycles minCycles : Nat) :
    (policy ⟨1, minCycles, maxCycles⟩
      (List.replicate maxCycles 1 ++ List.replicate minCycles 0)).2 = false := by
  rw [policy_append_replicate_small minCycles maxCycles _
    (policy_replicate_large minCycles maxCycles maxCycles le_rfl) minCycles le_rfl]

/-- The forced-convergence bound is `MaxCycles + MinCycles + 1` cycles: every sample sequence
that long marks the device, and for all `MaxCycles` and `MinCycles` some sequence one cycle
shorter does not. -/
theorem policy_ready_bound_exact :
    (∀ (t : Thresholds) (samples : List Nat),
      t.maxCycles + t.minCycles + 1 ≤ samples.length → (policy t samples).2 = true) ∧
    ∀ maxCycles minCycles : Nat, ∃ (maxDirtyBlocks : Nat) (samples : List Nat),
      samples.length = maxCycles + minCycles ∧
        (policy ⟨maxDirtyBlocks, minCycles, maxCycles⟩ samples).2 = false :=
  ⟨fun _ => policy_ready_of_le_length, fun maxCycles minCycles =>
    ⟨1, _, by simp, policy_not_ready_at_bound maxCycles minCycles⟩⟩

/-- Readiness by the `(MaxCycles + 1)`-th cycle fails: with `MaxDirtyBlocks = 1`,
`MinCycles = 1`, `MaxCycles = 0`, one empty sample does not mark the device. -/
theorem policy_not_ready_after_maxCycles_succ :
    ¬ ∀ (t : Thresholds) (samples : List Nat),
      t.maxCycles + 1 ≤ samples.length → (policy t samples).2 = true := by
  intro h
  exact absurd (h ⟨1, 1, 0⟩ [0] le_rfl) (by decide)

end Cycles

end Architekt
