import Architekt.Transition

/-!
# The hooks of the local devices on the destination

Once every remote device has been received, `MigrateFrom` exposes the configured devices
that are not remote, `stage1Inputs`, one goroutine each (`iutils.ConcurrentMap`):

```text
var remainingRequestedLocalDevices atomic.Int32
remainingRequestedLocalDevices.Add(int32(len(stage1Inputs)))
ConcurrentMap(stage1Inputs, func(index, input) {
	OnLocalDeviceRequested(index, input.Name)
	if remainingRequestedLocalDevices.Add(-1) <= 0 { OnLocalAllDevicesRequested() }
	<create the device, append it to stage2Inputs, Mknod, OnLocalDeviceExposed>
})
```

The counter is an `atomic.Int32`: the model keeps the sum of what was added to it, and
`Add` returns that sum wrapped, `int32`.  With fewer than `2 ^ 31` local devices nothing
wraps, and the results below assume so.  What the rest of a goroutine does to `stage2Inputs` and the device
nodes is modelled, one device at a time, in `Architekt.MigrateFrom.Model`; here it is one
step that ends the goroutine, with or without an error.

`HookInv` says what the counter and the two hooks have recorded in terms of how many
goroutines have counted down, and `allRequested_once` reads the hook's law off it: the
callers of `OnLocalAllDevicesRequested` see it run at most once, only after
`OnLocalDeviceRequested` has run for every local device, and exactly once by the time
`ConcurrentMap` has returned, unless there is no local device at all.
-/

namespace Architekt.MigrateFrom.Local

/-- Where the goroutine of a local device is. -/
inductive Pc
  /-- `OnLocalDeviceRequested(index, input.Name)`. -/
  | requested
  /-- `if remainingRequestedLocalDevices.Add(-1) <= 0 { OnLocalAllDevicesRequested() }`. -/
  | countDown
  /-- The device's creation, its `stage2Inputs` entry, its `Mknod` and
  `OnLocalDeviceExposed`. -/
  | expose
  | done
  | failed
  deriving Repr, DecidableEq

/-- The goroutines of the `m` local devices, the counter, and what the hooks have seen. -/
structure Sys (m : Nat) where
  pc : Fin m → Pc
  /-- The sum of what was added to the `atomic.Int32`. -/
  remainingRequestedLocalDevices : Int
  /-- The local devices whose `OnLocalDeviceRequested` has run. -/
  requestedHooks : Fin m → Bool
  /-- How often `OnLocalAllDevicesRequested` has run. -/
  allRequestedHooks : Nat

variable {m : Nat}

/-- The state when `ConcurrentMap` starts: the counter holds `int32(len(stage1Inputs))`. -/
def Sys.init (m : Nat) : Sys m := ⟨fun _ => .requested, int32 m, fun _ => false, 0⟩

/-- The next step of local device `g`'s goroutine; `ok = false` picks the failure of the
device's creation or exposure. -/
def step (s : Sys m) : Fin m × Bool → Option (Sys m)
  | (g, ok) =>
      match s.pc g with
      | .requested => some { s with
          pc := Function.update s.pc g .countDown
          requestedHooks := Function.update s.requestedHooks g true }
      | .countDown =>
          let r := s.remainingRequestedLocalDevices - 1
          some { s with
            pc := Function.update s.pc g .expose
            remainingRequestedLocalDevices := r
            allRequestedHooks :=
              if int32 r ≤ 0 then s.allRequestedHooks + 1 else s.allRequestedHooks }
      | .expose => some { s with pc := Function.update s.pc g (if ok then .done else .failed) }
      | .done | .failed => none

/-- The states of the goroutines of `m` local devices. -/
def Reach (m : Nat) : Sys m → Prop := Reachable (Sys.init m) step

/-! ## The count-down -/

/-- The goroutine has counted down. -/
def Pc.counted : Pc → Bool
  | .expose | .done | .failed => true
  | _ => false

/-- How many goroutines have counted down. -/
def Sys.counted (s : Sys m) : Nat := countTrue fun g => (s.pc g).counted

/-- The counter is `len(stage1Inputs)` less the goroutines that have counted down; a
goroutine has run `OnLocalDeviceRequested` once it is past it; and
`OnLocalAllDevicesRequested` has run once if every goroutine, and at least one, has
counted down, and never otherwise. -/
structure HookInv (s : Sys m) : Prop where
  remaining : s.remainingRequestedLocalDevices = m - s.counted
  requested : ∀ g, s.requestedHooks g = true ↔ s.pc g ≠ .requested
  allRequested : s.allRequestedHooks = if 0 < m ∧ s.counted = m then 1 else 0

theorem hookInv_init (hm : m < 2 ^ 31) : HookInv (Sys.init m) where
  remaining := by simp [Sys.init, Sys.counted, countTrue, Pc.counted, int32_natCast hm]
  requested _ := by simp [Sys.init]
  allRequested := by
    have : (Sys.init m).counted = 0 := by simp [Sys.init, Sys.counted, countTrue, Pc.counted]
    show 0 = if 0 < m ∧ (Sys.init m).counted = m then 1 else 0
    rw [this]
    split_ifs <;> omega

theorem counted_update (s : Sys m) (g : Fin m) (p : Pc) :
    (fun j => (Function.update s.pc g p j).counted) =
      Function.update (fun j => (s.pc j).counted) g p.counted := by
  funext j
  by_cases hj : j = g
  · subst hj; simp
  · simp [hj]

theorem HookInv.step {s s' : Sys m} {a : Fin m × Bool} (hm : m < 2 ^ 31) (hs : HookInv s)
    (h : step s a = some s') : HookInv s' := by
  obtain ⟨g, ok⟩ := a
  have hreq (p : Pc) (hp : p ≠ .requested) (hg : s.pc g ≠ .requested) :
      ∀ j, s.requestedHooks j = true ↔ Function.update s.pc g p j ≠ .requested := fun j => by
    by_cases hj : j = g
    · subst hj; simp [hs.requested, hg, hp]
    · simp [hs.requested, hj]
  have hsame (p : Pc) (hp : p.counted = (s.pc g).counted) :
      countTrue (fun j => (Function.update s.pc g p j).counted) = s.counted := by
    rw [counted_update]
    exact congrArg countTrue (Function.update_eq_self_iff.2 hp)
  simp only [Local.step] at h
  split at h
  next hpc =>
    cases h
    have hc := hsame .countDown (by simp [hpc, Pc.counted])
    refine ⟨by simp only [Sys.counted, hc]; exact hs.remaining, fun j => ?_,
      by simp only [Sys.counted, hc]; exact hs.allRequested⟩
    by_cases hj : j = g
    · subst hj; simp
    · simp [hs.requested, hj]
  next hpc =>
    cases h
    have hc : countTrue (fun j => (Function.update s.pc g .expose j).counted) = s.counted + 1 := by
      rw [counted_update]
      exact countTrue_update_true (by simp [hpc, Pc.counted])
    have hle := countTrue_le fun j => (Function.update s.pc g Pc.expose j).counted
    have hrem := hs.remaining
    have hall := hs.allRequested
    rw [hc] at hle
    have hr : int32 (s.remainingRequestedLocalDevices - 1) = s.remainingRequestedLocalDevices - 1 :=
      int32_of_lt (by rw [hrem]; omega) (by rw [hrem]; omega)
    refine ⟨by simp only [Sys.counted, hc, hrem]; omega, hreq .expose (by decide) (by simp [hpc]), ?_⟩
    simp only [Sys.counted] at hc hrem hall hle ⊢
    rw [hr]
    simp only [hc, hrem, hall]
    split_ifs <;> omega
  next hpc =>
    cases h
    have hc := hsame (if ok then .done else .failed) (by cases ok <;> simp [hpc, Pc.counted])
    exact ⟨by simp only [Sys.counted, hc]; exact hs.remaining,
      hreq _ (by cases ok <;> decide) (by simp [hpc]), by simp only [Sys.counted, hc]; exact hs.allRequested⟩
  next => cases h
  next => cases h

theorem Reach.hookInv (hm : m < 2 ^ 31) {s : Sys m} (h : Reach m s) : HookInv s :=
  Reachable.induct_inv (hookInv_init hm) (fun _ _ _ _ hs hstep => hs.step hm hstep) h

/-- A goroutine that cannot step has ended, and so has counted down. -/
theorem counted_of_step_none {s : Sys m} {g : Fin m} (h : step s (g, true) = none) :
    (s.pc g).counted = true := by
  simp only [Local.step] at h
  split at h <;> simp_all [Pc.counted]

/-- With fewer than `2 ^ 31` local devices, `OnLocalAllDevicesRequested` runs at most once,
and only after `OnLocalDeviceRequested` has run for every local device.  Once no goroutine
can take a step, which is when `ConcurrentMap` returns, it has run exactly once, or never
if there is no local device. -/
theorem allRequested_once (hm : m < 2 ^ 31) {s : Sys m} (h : Reach m s) :
    s.allRequestedHooks ≤ 1 ∧
    (s.allRequestedHooks = 1 → ∀ g, s.requestedHooks g = true) ∧
    ((∀ a, step s a = none) → s.allRequestedHooks = if m = 0 then 0 else 1) := by
  have hs := h.hookInv hm
  refine ⟨by rw [hs.allRequested]; split_ifs <;> omega, fun h1 g => ?_, fun hend => ?_⟩
  · rw [hs.allRequested] at h1
    split_ifs at h1 with hall
    · have hg := le_countTrue_iff.1 hall.2.ge g
      exact (hs.requested g).2 fun hpc => by simp [hpc, Pc.counted] at hg
  · have hc : s.counted = m :=
      le_antisymm (countTrue_le _) (le_countTrue_iff.2 fun g => counted_of_step_none (hend (g, true)))
    rw [hs.allRequested, hc]
    by_cases h0 : m = 0 <;> simp [h0, Nat.pos_of_ne_zero]

/-- Two local devices, the second failing to be exposed: when both goroutines have ended,
`OnLocalAllDevicesRequested` has run once. -/
theorem allRequested_once_two_devices :
    2 < 2 ^ 31 ∧ ∃ s, Reach 2 s ∧ s.pc 0 = .done ∧ s.pc 1 = .failed ∧ s.allRequestedHooks = 1 ∧
      (s.allRequestedHooks ≤ 1 ∧
        (s.allRequestedHooks = 1 → ∀ g, s.requestedHooks g = true) ∧
        ((∀ a, step s a = none) → s.allRequestedHooks = if 2 = 0 then 0 else 1)) := by
  have hrun : (run step (Sys.init 2) [(0, true), (1, true), (0, true), (1, true), (0, true),
      (1, false)]).map (fun s : Sys 2 => (s.pc 0, s.pc 1, s.allRequestedHooks)) =
        some (.done, .failed, 1) := by decide
  simp only [Option.map_eq_some'] at hrun
  obtain ⟨s, hs, hp⟩ := hrun
  simp only [Prod.mk.injEq] at hp
  exact ⟨by decide, s, reachable_of_run hs, hp.1, hp.2.1, hp.2.2,
    allRequested_once (by decide) (reachable_of_run hs)⟩

end Architekt.MigrateFrom.Local
