import Architekt.MigrateTo.Latch
import Architekt.DirtyManager.Latch

/-!
# Suspend and authority transfer under both drivers

The source suspends the VM and hands authority over either from the inline dirty loops of
`MigrateTo` or through the hooks of `DirtyManager`.  For `n ≥ 1` devices and every
interleaving of either, with `n < 2 ^ 31` for the `atomic.Int32` ready counter of
`MigrateTo`:

* `suspend_once_after_all_ready`: the suspend sequence starts at most once, only after
  every device has been marked ready for authority transfer, and once every device is
  marked it is started by the loop that is between its mark and its check
  (`MigrateTo.LatchLaw`, `DirtyManager.LatchLaw`);
* `authority_only_after_suspend`: authority is handed over only after
  `SuspendAndCloseAgentServer` and the final `Msync` have returned `nil` and the VM is
  marked suspended, and never after the sequence has failed
  (`MigrateTo.AuthorityLaw`, `DirtyManager.AuthorityLaw`).
-/

namespace Architekt

section
variable {n : Nat} {cfg : Fin n → MigrateTo.MigrateToDevice} {s : MigrateTo.Sys n}
  {cfg' : Fin n → DirtyManager.DeviceStatus} {s' : DirtyManager.Sys n}

/-- The suspend sequence starts at most once, after every device is ready, and no later than
the iteration that marks the last one, in both drivers, for `1 ≤ n < 2 ^ 31` devices. -/
theorem suspend_once_after_all_ready (hn : 0 < n) (h32 : n < 2 ^ 31) (h : MigrateTo.Reach cfg s)
    (h' : DirtyManager.Reach cfg' s') :
    MigrateTo.LatchLaw cfg s ∧ DirtyManager.LatchLaw cfg' s' :=
  ⟨h.latchLaw hn h32, h'.latchLaw hn⟩

/-- Authority is handed over only after a successful suspend, in both drivers. -/
theorem authority_only_after_suspend (h : MigrateTo.Reach cfg s) (h' : DirtyManager.Reach cfg' s') :
    MigrateTo.AuthorityLaw s ∧ DirtyManager.AuthorityLaw s' :=
  ⟨h.authorityLaw, h'.authorityLaw⟩

end

/-! ## A migration of one device -/

/-- One device, not the memory device, with `MaxDirtyBlocks = 1` and
`MinCycles = MaxCycles = 0`, under the inline loops: its first empty sample marks it. -/
def oneLoopDevice : Fin 1 → MigrateTo.MigrateToDevice := fun _ => ⟨⟨1, 0, 0⟩, false⟩

/-- The same device under `DirtyManager`. -/
def oneHookDevice : Fin 1 → DirtyManager.DeviceStatus := fun _ => ⟨⟨1, 0, 0⟩, false⟩

/-- `k` steps of the device's goroutine, each call returning `nil`, then one whose call
fails if `fail` is set. -/
def deviceSteps {α : Type} (device : Bool → α) (k : Nat) (fail : Bool) : List α :=
  List.replicate k (device true) ++ if fail then [device false] else []

/-- The latch law on both sides of the start of the suspend, in both drivers: with the
device marked and the suspend not started (9 steps of the loop, 6 of the hooks), and once
it has started (10 and 8 steps). -/
theorem suspend_once_one_device :
    0 < 1 ∧ 1 < 2 ^ 31 ∧
    ∃ (s₀ s₁ : MigrateTo.Sys 1) (d₀ d₁ : DirtyManager.Sys 1),
      MigrateTo.Reach oneLoopDevice s₀ ∧ MigrateTo.AllMarked s₀ ∧ s₀.suspendStarts = 0 ∧
      DirtyManager.Reach oneHookDevice d₀ ∧ DirtyManager.AllReady d₀ ∧ d₀.suspendStarts = 0 ∧
      MigrateTo.Reach oneLoopDevice s₁ ∧ s₁.suspendStarts = 1 ∧
      DirtyManager.Reach oneHookDevice d₁ ∧ d₁.suspendStarts = 1 ∧
      (MigrateTo.LatchLaw oneLoopDevice s₀ ∧ DirtyManager.LatchLaw oneHookDevice d₀) ∧
      (MigrateTo.LatchLaw oneLoopDevice s₁ ∧ DirtyManager.LatchLaw oneHookDevice d₁) := by
  have hs₀ : (run (MigrateTo.step oneLoopDevice) (MigrateTo.Sys.init 1)
      (deviceSteps (.device 0) 9 false)).map
        (fun s => (s.loc 0).marked && s.suspendStarts == 0) = some true := by decide
  have hd₀ : (run (DirtyManager.step oneHookDevice) (DirtyManager.Sys.init 1)
      (deviceSteps (.device 0) 6 false)).map
        (fun d => d.readyDevices 0 && d.suspendStarts == 0) = some true := by decide
  have hs₁ : (run (MigrateTo.step oneLoopDevice) (MigrateTo.Sys.init 1)
      (deviceSteps (.device 0) 10 false)).map (fun s => s.suspendStarts == 1) = some true := by
    decide
  have hd₁ : (run (DirtyManager.step oneHookDevice) (DirtyManager.Sys.init 1)
      (deviceSteps (.device 0) 8 false)).map (fun d => d.suspendStarts == 1) = some true := by
    decide
  obtain ⟨s₀, hr₀, hp₀⟩ := exists_reachable_of_run hs₀
  obtain ⟨d₀, hq₀, hp₀'⟩ := exists_reachable_of_run hd₀
  obtain ⟨s₁, hr₁, hp₁⟩ := exists_reachable_of_run hs₁
  obtain ⟨d₁, hq₁, hp₁'⟩ := exists_reachable_of_run hd₁
  simp only [Bool.and_eq_true, beq_iff_eq] at hp₀ hp₀' hp₁ hp₁'
  exact ⟨by decide, by decide, s₀, s₁, d₀, d₁, hr₀, Fin.forall_fin_one.2 hp₀.1, hp₀.2, hq₀,
    Fin.forall_fin_one.2 hp₀'.1, hp₀'.2, hr₁, hp₁, hq₁, hp₁',
    suspend_once_after_all_ready (by decide) (by decide) hr₀ hq₀,
    suspend_once_after_all_ready (by decide) (by decide) hr₁ hq₁⟩

/-- The authority law where its premises hold, in both drivers: once the device has sent
`TransferAuthority` (18 steps of the loop) and `AuthorityTransfer` has been invoked
(13 steps of the hooks), and once the suspend sequence has failed (its first call
failing, after 10 and 8 steps). -/
theorem authority_only_after_suspend_one_device :
    ∃ (s₀ s₁ : MigrateTo.Sys 1) (d₀ d₁ : DirtyManager.Sys 1),
      MigrateTo.Reach oneLoopDevice s₀ ∧ s₀.authoritySent 0 = true ∧
      DirtyManager.Reach oneHookDevice d₀ ∧ 0 < d₀.authorityTransfers ∧
      MigrateTo.Reach oneLoopDevice s₁ ∧ s₁.latch = .returned false ∧
      DirtyManager.Reach oneHookDevice d₁ ∧ d₁.suspendFailed = true ∧
      (MigrateTo.AuthorityLaw s₀ ∧ DirtyManager.AuthorityLaw d₀) ∧
      (MigrateTo.AuthorityLaw s₁ ∧ DirtyManager.AuthorityLaw d₁) := by
  have hs₀ : (run (MigrateTo.step oneLoopDevice) (MigrateTo.Sys.init 1)
      (deviceSteps (.device 0) 18 false)).map (fun s => s.authoritySent 0) = some true := by
    decide
  have hd₀ : (run (DirtyManager.step oneHookDevice) (DirtyManager.Sys.init 1)
      (deviceSteps (.device 0) 13 false)).map (fun d => decide (0 < d.authorityTransfers)) =
        some true := by decide
  have hs₁ : (run (MigrateTo.step oneLoopDevice) (MigrateTo.Sys.init 1)
      (deviceSteps (.device 0) 10 true)).map (fun s => s.latch == .returned false) =
        some true := by decide
  have hd₁ : (run (DirtyManager.step oneHookDevice) (DirtyManager.Sys.init 1)
      (deviceSteps (.device 0) 8 true)).map (fun d => d.suspendFailed) = some true := by decide
  obtain ⟨s₀, hr₀, hp₀⟩ := exists_reachable_of_run hs₀
  obtain ⟨d₀, hq₀, hp₀'⟩ := exists_reachable_of_run hd₀
  obtain ⟨s₁, hr₁, hp₁⟩ := exists_reachable_of_run hs₁
  obtain ⟨d₁, hq₁, hp₁'⟩ := exists_reachable_of_run hd₁
  simp only [decide_eq_true_eq, beq_iff_eq] at hp₀' hp₁
  exact ⟨s₀, s₁, d₀, d₁, hr₀, hp₀, hq₀, hp₀', hr₁, hp₁, hq₁, hp₁',
    authority_only_after_suspend hr₀ hq₀, authority_only_after_suspend hr₁ hq₁⟩

end Architekt
