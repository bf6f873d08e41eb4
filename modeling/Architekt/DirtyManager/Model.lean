import Architekt.Transition
import Architekt.Convergence
import Architekt.Suspend

/-!
# The dirty sync driven through `DirtyManager`

`DirtyManager` gives the dirty loop of each device three hooks.  Its driver runs, for each
device,

```text
for {
    PreGetDirty(name)                       // Msync the memory device while not suspended
    blocks := <sample and clear the dirty set>
    if !PostGetDirty(name, blocks) { break } // empty sample and VM suspended
    DirtyList(blocks); MigrateDirty(blocks)
    PostMigrateDirty(name, blocks)
}
```

and `PostMigrateDirty` is

```text
if VMState.CheckSuspendedVM() { return }
<convergence policy>; markDeviceReady(name, di)         // under ReadyDevicesLock
readyDevices := len(ReadyDevices)                       // under ReadyDevicesLock
if readyDevices == len(Devices) {
    lock AuthorityTransferLock
    if !AuthorityTransferCompleted { AuthorityTransferCompleted = true; unlock
        VMState.SuspendAndMsync(); AuthorityTransfer() } else { unlock }
}
```

Each lock-protected section is one atomic step of the model; `SuspendAndMsync` runs the
suspend sequence of `Architekt.Suspend` stage by stage.  As in `Architekt.MigrateTo`, a
device's step is chosen by the schedule, the outcome of a call that can fail by an `ok`
flag, and a write to a device is an action of its own, enabled until the VM is marked
suspended.

`DeviceStatus.Ready` and the key of `ReadyDevices` are set in the same step of
`markDeviceReady`, and only the device's own loop reads the first: the model keeps one flag
per device, `readyDevices`.  Besides the manager's variables, `Sys` records the blocks
written to each device and those sent in its `DirtyList`s, how often the suspend sequence
was started, which of its calls returned `nil`, whether it failed, and how often
`AuthorityTransfer` was invoked.
-/

namespace Architekt.DirtyManager

/-- The settings of a device that the hooks read: the thresholds of its `DeviceStatus` and
whether it is the memory device (`name == packager.MemoryName`). -/
structure DeviceStatus where
  thresholds : Thresholds
  isMemory : Bool
  deriving Repr, DecidableEq

/-- Where a device's loop is. -/
inductive Pc
  /-- `PreGetDirty`. -/
  | preGetDirty
  /-- The sample-and-clear of the dirty set. -/
  | getDirty
  /-- `PostGetDirty`. -/
  | postGetDirty
  /-- `DirtyList(blocks)` and `MigrateDirty(blocks)`. -/
  | dirtyList
  /-- `PostMigrateDirty`: the `CheckSuspendedVM` at its start. -/
  | checkSuspended
  /-- `PostMigrateDirty`: the convergence policy and `markDeviceReady`. -/
  | converge
  /-- `PostMigrateDirty`: `len(ReadyDevices)` against `len(Devices)`. -/
  | readReady
  /-- `PostMigrateDirty`: the test-and-set of `AuthorityTransferCompleted`. -/
  | lockAuthority
  /-- `PostMigrateDirty`: inside `VMState.SuspendAndMsync`. -/
  | suspend (stage : SuspendStage)
  /-- `PostMigrateDirty`: `AuthorityTransfer()`. -/
  | authorityTransfer
  | done
  | failed
  deriving Repr, DecidableEq

/-- The local variables of a device's loop; its `DeviceStatus` counters are `cycles`, and
`samples` (the sizes of its samples, in order) is bookkeeping of the model. -/
structure Loc where
  pc : Pc
  blocks : List Nat
  cycles : Cycles
  samples : List Nat
  deriving Repr, DecidableEq

/-- The state of a dirty sync of `n` devices. -/
structure Sys (n : Nat) where
  loc : Fin n → Loc
  /-- The dirty set of each device's tracker. -/
  dirty : Fin n → List Nat
  /-- What `VMState.CheckSuspendedVM` returns. -/
  suspendedVM : Bool
  /-- The keys of `ReadyDevices` (and each device's `DeviceStatus.Ready`). -/
  readyDevices : Fin n → Bool
  authorityTransferCompleted : Bool
  written : Fin n → List Nat
  dirtyListed : Fin n → List Nat
  suspendStarts : Nat
  agentSuspended : Bool
  finalMsynced : Bool
  /-- `SuspendAndMsync` returned an error. -/
  suspendFailed : Bool
  /-- The invocations of `AuthorityTransfer`. -/
  authorityTransfers : Nat

/-- The actions of the interleaving. -/
inductive Action (n : Nat)
  /-- Device `i`'s loop takes its next step; `ok = false` picks the failure of a call that
  can fail. -/
  | device (i : Fin n) (ok : Bool)
  /-- A write to block `b` of device `i`. -/
  | write (i : Fin n) (b : Nat)

variable {n : Nat}

/-- A device's loop before its first `PreGetDirty`. -/
def Loc.init : Loc := ⟨.preGetDirty, [], ⟨0, 0⟩, []⟩

/-- The policy marks the device in the cycle of the current sample. -/
def Loc.marks (t : Thresholds) (l : Loc) : Bool := (Cycles.converge t l.cycles l.blocks.length).2

/-- The local variables after the policy has taken the current sample. -/
def Loc.converged (t : Thresholds) (l : Loc) : Loc := { l with
  pc := .readReady
  cycles := (Cycles.converge t l.cycles l.blocks.length).1
  samples := l.samples ++ [l.blocks.length] }

/-- The state when the loops start: no device is ready and no write is recorded. -/
def Sys.init (n : Nat) : Sys n :=
  ⟨fun _ => Loc.init, fun _ => [], false, fun _ => false, false, fun _ => [], fun _ => [], 0,
    false, false, false, 0⟩

/-- Replace device `i`'s local variables. -/
def Sys.setLoc (s : Sys n) (i : Fin n) (l : Loc) : Sys n := { s with loc := Function.update s.loc i l }

/-- What one step of a device does to the shared variables and to the record of the sync. -/
inductive Effect
  | skip
  /-- The sample cleared the dirty set. -/
  | takeDirty
  /-- `DirtyList(blocks)` returned `nil`. -/
  | dirtyList (blocks : List Nat)
  /-- `markDeviceReady` added the device to `ReadyDevices`. -/
  | markReady
  /-- `AuthorityTransferCompleted = true`, and `SuspendAndMsync` is called. -/
  | startSuspend
  | agentSuspended
  | finalMsynced
  | markSuspended
  /-- `SuspendAndMsync` returned an error. -/
  | suspendFailed
  /-- `AuthorityTransfer()` was invoked. -/
  | authorityTransfer
  deriving Repr, DecidableEq

/-- Apply the effect of device `i`'s step. -/
def Effect.apply (e : Effect) (s : Sys n) (i : Fin n) : Sys n :=
  match e with
  | .skip => s
  | .takeDirty => { s with dirty := Function.update s.dirty i [] }
  | .dirtyList blocks =>
      { s with dirtyListed := Function.update s.dirtyListed i (s.dirtyListed i ++ blocks) }
  | .markReady => { s with readyDevices := Function.update s.readyDevices i true }
  | .startSuspend => { s with authorityTransferCompleted := true, suspendStarts := s.suspendStarts + 1 }
  | .agentSuspended => { s with agentSuspended := true }
  | .finalMsynced => { s with finalMsynced := true }
  | .markSuspended => { s with suspendedVM := true }
  | .suspendFailed => { s with suspendFailed := true }
  | .authorityTransfer => { s with authorityTransfers := s.authorityTransfers + 1 }

/-- The next step of device `i`'s loop: its new local variables and the effect on the
shared state, or `none` once it has stopped. -/
def transition (cfg : Fin n → DeviceStatus) (s : Sys n) (i : Fin n) (ok : Bool) :
    Option (Loc × Effect) :=
  let l := s.loc i
  let goto (pc : Pc) (e : Effect) : Option (Loc × Effect) := some ({ l with pc := pc }, e)
  let fail : Option (Loc × Effect) := goto .failed .skip
  match l.pc with
  | .preGetDirty =>
      if !s.suspendedVM && (cfg i).isMemory && !ok then fail else goto .getDirty .skip
  | .getDirty => some ({ l with pc := .postGetDirty, blocks := s.dirty i }, .takeDirty)
  | .postGetDirty =>
      goto (if l.blocks.length = 0 && s.suspendedVM then .done else .dirtyList) .skip
  | .dirtyList => if ok then goto .checkSuspended (.dirtyList l.blocks) else fail
  | .checkSuspended => goto (if s.suspendedVM then .preGetDirty else .converge) .skip
  | .converge =>
      some (l.converged (cfg i).thresholds,
        if l.marks (cfg i).thresholds && !s.readyDevices i then .markReady else .skip)
  | .readReady =>
      goto (if countTrue s.readyDevices = n then .lockAuthority else .preGetDirty) .skip
  | .lockAuthority =>
      if s.authorityTransferCompleted then goto .preGetDirty .skip
      else goto (.suspend .suspendAgent) .startSuspend
  | .suspend .suspendAgent =>
      if ok then goto (.suspend .msync) .agentSuspended else goto .failed .suspendFailed
  | .suspend .msync =>
      if ok then goto (.suspend .markSuspended) .finalMsynced else goto .failed .suspendFailed
  | .suspend .markSuspended => goto (.suspend .finish) .markSuspended
  | .suspend .finish => goto .authorityTransfer .skip
  | .authorityTransfer => goto (if ok then .preGetDirty else .failed) .authorityTransfer
  | .done => none
  | .failed => none

/-- One action of the interleaving. -/
def step (cfg : Fin n → DeviceStatus) (s : Sys n) : Action n → Option (Sys n)
  | .device i ok => (transition cfg s i ok).map fun r => r.2.apply (s.setLoc i r.1) i
  | .write i b =>
      if s.suspendedVM then none
      else some { s with
        dirty := Function.update s.dirty i ((s.dirty i).insert b)
        written := Function.update s.written i ((s.written i).insert b) }

/-! ## What a step can do -/

/-- The pcs at which a call of the loop can fail outside the suspend sequence. -/
def Pc.fallible : List Pc := [.preGetDirty, .dirtyList]

/-- The transitions of a device's loop, with their guards. -/
inductive Moves (cfg : Fin n → DeviceStatus) (s : Sys n) (i : Fin n) : Loc → Effect → Prop
  | preGetDirty : (s.loc i).pc = .preGetDirty →
      Moves cfg s i { s.loc i with pc := .getDirty } .skip
  | getDirty : (s.loc i).pc = .getDirty →
      Moves cfg s i { s.loc i with pc := .postGetDirty, blocks := s.dirty i } .takeDirty
  | postGetDirty : (s.loc i).pc = .postGetDirty →
      Moves cfg s i { s.loc i with
        pc := if (s.loc i).blocks.length = 0 && s.suspendedVM then .done else .dirtyList } .skip
  | dirtyList : (s.loc i).pc = .dirtyList →
      Moves cfg s i { s.loc i with pc := .checkSuspended } (.dirtyList (s.loc i).blocks)
  | checkSuspended : (s.loc i).pc = .checkSuspended →
      Moves cfg s i { s.loc i with pc := if s.suspendedVM then .preGetDirty else .converge } .skip
  | converge : (s.loc i).pc = .converge →
      Moves cfg s i ((s.loc i).converged (cfg i).thresholds)
        (if (s.loc i).marks (cfg i).thresholds && !s.readyDevices i then .markReady else .skip)
  | readReady : (s.loc i).pc = .readReady →
      Moves cfg s i { s.loc i with
        pc := if countTrue s.readyDevices = n then .lockAuthority else .preGetDirty } .skip
  | lockTaken : (s.loc i).pc = .lockAuthority → s.authorityTransferCompleted = true →
      Moves cfg s i { s.loc i with pc := .preGetDirty } .skip
  | startSuspend : (s.loc i).pc = .lockAuthority → s.authorityTransferCompleted = false →
      Moves cfg s i { s.loc i with pc := .suspend .suspendAgent } .startSuspend
  | agentSuspended : (s.loc i).pc = .suspend .suspendAgent →
      Moves cfg s i { s.loc i with pc := .suspend .msync } .agentSuspended
  | finalMsynced : (s.loc i).pc = .suspend .msync →
      Moves cfg s i { s.loc i with pc := .suspend .markSuspended } .finalMsynced
  | suspendError : (s.loc i).pc = .suspend .suspendAgent ∨ (s.loc i).pc = .suspend .msync →
      Moves cfg s i { s.loc i with pc := .failed } .suspendFailed
  | markSuspended : (s.loc i).pc = .suspend .markSuspended →
      Moves cfg s i { s.loc i with pc := .suspend .finish } .markSuspended
  | finish : (s.loc i).pc = .suspend .finish →
      Moves cfg s i { s.loc i with pc := .authorityTransfer } .skip
  | authorityTransfer (ok : Bool) : (s.loc i).pc = .authorityTransfer →
      Moves cfg s i { s.loc i with pc := if ok then .preGetDirty else .failed } .authorityTransfer
  | fail : (s.loc i).pc ∈ Pc.fallible → Moves cfg s i { s.loc i with pc := .failed } .skip

theorem transition_moves {cfg : Fin n → DeviceStatus} {s : Sys n} {i : Fin n} {ok : Bool}
    {l : Loc} {e : Effect} (h : transition cfg s i ok = some (l, e)) : Moves cfg s i l e := by
  have hfail : (s.loc i).pc ∈ Pc.fallible →
      Moves cfg s i { s.loc i with pc := .failed } .skip := .fail
  cases hpc : (s.loc i).pc <;> simp only [transition, hpc] at h
  case preGetDirty =>
    split at h <;> cases h
    exacts [hfail (by simp [hpc, Pc.fallible]), .preGetDirty hpc]
  case getDirty => cases h; exact .getDirty hpc
  case postGetDirty => cases h; exact .postGetDirty hpc
  case dirtyList =>
    split at h <;> cases h
    exacts [.dirtyList hpc, hfail (by simp [hpc, Pc.fallible])]
  case checkSuspended => cases h; exact .checkSuspended hpc
  case converge => cases h; exact .converge hpc
  case readReady => cases h; exact .readReady hpc
  case lockAuthority =>
    split at h <;> cases h
    exacts [.lockTaken hpc ‹_›, .startSuspend hpc (Bool.eq_false_iff.mpr ‹_›)]
  case suspend stage =>
    cases stage <;> simp only at h
    · split at h <;> cases h
      exacts [.agentSuspended hpc, .suspendError (.inl hpc)]
    · split at h <;> cases h
      exacts [.finalMsynced hpc, .suspendError (.inr hpc)]
    · cases h; exact .markSuspended hpc
    · cases h; exact .finish hpc
  case authorityTransfer => cases h; exact .authorityTransfer ok hpc
  case done | failed => cases h

section Step

variable {cfg : Fin n → DeviceStatus} {s s' : Sys n}

@[simp] theorem Effect.apply_loc (e : Effect) (s : Sys n) (i : Fin n) :
    (e.apply s i).loc = s.loc := by
  cases e <;> rfl

@[simp] theorem Sys.setLoc_loc_self (s : Sys n) (i : Fin n) (l : Loc) : (s.setLoc i l).loc i = l :=
  Function.update_same _ _ _

@[simp] theorem Sys.setLoc_loc_of_ne (s : Sys n) {i j : Fin n} (l : Loc) (h : j ≠ i) :
    (s.setLoc i l).loc j = s.loc j :=
  Function.update_noteq h _ _

/-- After a move of device `i`, a device other than `i` is where it was. -/
theorem loc_apply_setLoc_of_ne {e : Effect} {i j : Fin n} {l : Loc} (h : j ≠ i) :
    (e.apply (s.setLoc i l) i).loc j = s.loc j := by
  simp [h]

/-- Every step is a move of one device or a write. -/
theorem step_cases {a : Action n} (h : step cfg s a = some s') :
    (∃ i l e, Moves cfg s i l e ∧ s' = e.apply (s.setLoc i l) i) ∨
    (∃ i b, s.suspendedVM = false ∧ s' = { s with
        dirty := Function.update s.dirty i ((s.dirty i).insert b)
        written := Function.update s.written i ((s.written i).insert b) }) := by
  cases a with
  | device i ok =>
      simp only [step, Option.map_eq_some'] at h
      obtain ⟨⟨l, e⟩, ht, rfl⟩ := h
      exact .inl ⟨i, l, e, transition_moves ht, rfl⟩
  | write i b =>
      simp only [step] at h
      split at h
      · cases h
      · cases h
        exact .inr ⟨i, b, Bool.eq_false_iff.mpr ‹_›, rfl⟩

end Step

/-- The states of a dirty sync of `n` devices with settings `cfg`. -/
def Reach (cfg : Fin n → DeviceStatus) : Sys n → Prop :=
  Reachable (Sys.init n) (step cfg)

end Architekt.DirtyManager
