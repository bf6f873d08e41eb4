import Architekt.Transition
import Architekt.Convergence
import Architekt.Suspend

/-!
# The source side of a migration: `MigrateTo`

`MigrateTo` runs one goroutine per served device (`iutils.ConcurrentMap` over
`stage5Inputs`).  Each sends its `DevInfo`, raises `devicesLeftToSend` and, if the count
it then loads has reached the number of devices, spawns the sender of
`EventCustomAllDevicesSent`; it migrates every block once, and then runs the dirty loop:

```text
for {
    if !suspendedVM && name == MemoryName { Msync() }
    blocks := mig.GetLatestDirty()
    if blocks == nil { mig.Unlock(); if suspendedVM { break } }
    if blocks != nil { to.DirtyList(blocks); go mig.MigrateDirty(blocks) }
    if !suspendedVM && !(devicesLeftToTransferAuthorityFor.Load() >= N) { wait }
    <convergence policy>; markDeviceAsReadyForAuthorityTransfer()
    if devicesLeftToTransferAuthorityFor.Load() >= N { suspendAndMsyncVM() }
}
to.SendEvent(EventCustomTransferAuthority)
```

`suspendAndMsyncVM` is a `sync.OnceValue`: the first caller runs the suspend sequence
(`SuspendAndCloseAgentServer`, the final `Msync`, then `suspendedVM = true`), later
callers block until it has returned and then get its result.

The model keeps one `Loc` per device and the shared variables in `Sys`.  A device's step
is one of the atomic pieces above; the outcome of a call that can fail is chosen by the
`ok` flag of the action.  `GetLatestDirty` is an atomic return-and-clear of the device's
dirty set, and a write to a device is an action of its own, enabled until `suspendedVM`
is set: guest writes, and the page writes of the `Msync` calls, made while the suspend
sequence runs.  Time is not modelled: the throttle wait may end at any point of the
interleaving.

Besides the source's variables, `Sys` records what the migration has done so far: which
`DevInfo` and `TransferAuthority` frames were sent, how often `AllDevicesSent` was sent,
the blocks written to each device and those sent in its `DirtyList`s, and how often the
suspend sequence was started.  These fields are read by the statements, never by a step.
-/

namespace Architekt.MigrateTo

/-- The per-device settings the loop reads: the thresholds of its `MigrateToDevice`, and
whether it is the memory device (`name == MemoryName`), the only one the loop `Msync`s. -/
structure MigrateToDevice where
  thresholds : Thresholds
  isMemory : Bool
  deriving Repr, DecidableEq

/-- Where a device's goroutine is. -/
inductive Pc
  | sendDevInfo
  | addSent
  | loadSent
  /-- `mig.Migrate(totalBlocks)` and `mig.WaitForCompletion()`. -/
  | migrate
  /-- The top of the dirty loop: `Msync` for the memory device while not suspended. -/
  | msync
  | getLatestDirty
  /-- `mig.Unlock()` and the `suspendedVM` check after an empty sample. -/
  | checkSuspended
  /-- `to.DirtyList(blocks)` and the spawn of `mig.MigrateDirty(blocks)`. -/
  | dirtyList
  | throttle
  | converge
  /-- `if devicesLeftToTransferAuthorityFor.Load() >= N { suspendAndMsyncVM() }`. -/
  | checkReady
  | suspend (stage : SuspendStage)
  | transferAuthority
  /-- `mig.WaitForCompletion()`, then `EventCompleted`. -/
  | complete
  | done
  | failed
  deriving Repr, DecidableEq

/-- The local variables of a device's goroutine.  `added` (it has raised
`devicesLeftToSend`) and `samples` (the sizes of its dirty samples, in order) are
bookkeeping of the model. -/
structure Loc where
  pc : Pc
  blocks : List Nat
  cycles : Cycles
  /-- `markDeviceAsReadyForAuthorityTransfer`'s `sync.OnceFunc` has run. -/
  marked : Bool
  added : Bool
  samples : List Nat
  deriving Repr, DecidableEq

/-- The state of `suspendAndMsyncVM`'s `sync.OnceValue`. -/
inductive Latch
  | idle
  | running
  | returned (ok : Bool)
  deriving Repr, DecidableEq

/-- The state of a migration of `n` devices. -/
structure Sys (n : Nat) where
  loc : Fin n → Loc
  /-- The dirty set of each device's tracker. -/
  dirty : Fin n → List Nat
  /-- The sum of the `Add(1)`s to the `atomic.Int32`s `devicesLeftToSend` and
  `devicesLeftToTransferAuthorityFor`; `Load()` reads it wrapped, `int32`. -/
  devicesLeftToSend : Nat
  devicesLeftToTransferAuthorityFor : Nat
  suspendedVM : Bool
  latch : Latch
  /-- Spawned goroutines that have yet to send `EventCustomAllDevicesSent`. -/
  allDevicesSentSenders : Nat
  devInfoSent : Fin n → Bool
  allDevicesSentEvents : Nat
  written : Fin n → List Nat
  dirtyListed : Fin n → List Nat
  authoritySent : Fin n → Bool
  suspendStarts : Nat
  /-- `SuspendAndCloseAgentServer` has returned `nil`. -/
  agentSuspended : Bool
  /-- The final `Msync` of the suspend sequence has returned `nil`. -/
  finalMsynced : Bool

/-- The actions of the interleaving. -/
inductive Action (n : Nat)
  /-- Device `i`'s goroutine takes its next step; `ok = false` picks the failure of a call
  that can fail (and the cancelled context in the throttle wait). -/
  | device (i : Fin n) (ok : Bool)
  /-- A write to block `b` of device `i`. -/
  | write (i : Fin n) (b : Nat)
  /-- A spawned goroutine sends `EventCustomAllDevicesSent`. -/
  | sendAllDevicesSent

variable {n : Nat}

/-- A device at the start of `MigrateTo`. -/
def Loc.init : Loc := ⟨.sendDevInfo, [], ⟨0, 0⟩, false, false, []⟩

/-- The convergence policy marks the device in the cycle of the current sample. -/
def Loc.marks (t : Thresholds) (l : Loc) : Bool := (Cycles.converge t l.cycles l.blocks.length).2

/-- The local variables after the policy has taken the current sample. -/
def Loc.converged (t : Thresholds) (l : Loc) : Loc := { l with
  pc := .checkReady
  cycles := (Cycles.converge t l.cycles l.blocks.length).1
  marked := l.marked || l.marks t
  samples := l.samples ++ [l.blocks.length] }

/-- The state when `MigrateTo` is called: no write since the trackers were installed. -/
def Sys.init (n : Nat) : Sys n :=
  ⟨fun _ => Loc.init, fun _ => [], 0, 0, false, .idle, 0, fun _ => false, 0, fun _ => [],
    fun _ => [], fun _ => false, 0, false, false⟩

namespace Sys

/-- Replace device `i`'s local variables. -/
def setLoc (s : Sys n) (i : Fin n) (l : Loc) : Sys n := { s with loc := Function.update s.loc i l }

end Sys

/-- What one step of a device does to the shared variables and to the record of the
migration. -/
inductive Effect
  | skip
  /-- `to.SendDevInfo` returned `nil`. -/
  | sendDevInfo
  /-- `devicesLeftToSend.Add(1)`. -/
  | addSent
  /-- The goroutine sending `EventCustomAllDevicesSent` was spawned. -/
  | spawnAllDevicesSent
  /-- `GetLatestDirty` cleared the dirty set. -/
  | takeDirty
  /-- `to.DirtyList(blocks)` returned `nil`. -/
  | dirtyList (blocks : List Nat)
  /-- `devicesLeftToTransferAuthorityFor.Add(1)`. -/
  | markReady
  /-- The first call of `suspendAndMsyncVM` starts its body. -/
  | startSuspend
  | agentSuspended
  | finalMsynced
  /-- `suspendedVM = true`. -/
  | markSuspended
  /-- `suspendAndMsyncVM`'s body returned, with or without an error. -/
  | returned (ok : Bool)
  /-- `EventCustomTransferAuthority` was sent. -/
  | transferAuthority
  deriving Repr, DecidableEq

/-- Apply the effect of device `i`'s step. -/
def Effect.apply (e : Effect) (s : Sys n) (i : Fin n) : Sys n :=
  match e with
  | .skip => s
  | .sendDevInfo => { s with devInfoSent := Function.update s.devInfoSent i true }
  | .addSent => { s with devicesLeftToSend := s.devicesLeftToSend + 1 }
  | .spawnAllDevicesSent => { s with allDevicesSentSenders := s.allDevicesSentSenders + 1 }
  | .takeDirty => { s with dirty := Function.update s.dirty i [] }
  | .dirtyList blocks =>
      { s with dirtyListed := Function.update s.dirtyListed i (s.dirtyListed i ++ blocks) }
  | .markReady =>
      { s with devicesLeftToTransferAuthorityFor := s.devicesLeftToTransferAuthorityFor + 1 }
  | .startSuspend => { s with latch := .running, suspendStarts := s.suspendStarts + 1 }
  | .agentSuspended => { s with agentSuspended := true }
  | .finalMsynced => { s with finalMsynced := true }
  | .markSuspended => { s with suspendedVM := true }
  | .returned ok => { s with latch := .returned ok }
  | .transferAuthority => { s with authoritySent := Function.update s.authoritySent i true }

/-- The next step of device `i`'s goroutine: its new local variables and the effect on the
shared state, or `none` when it is blocked on the latch or has returned. -/
def transition (cfg : Fin n → MigrateToDevice) (s : Sys n) (i : Fin n) (ok : Bool) :
    Option (Loc × Effect) :=
  let l := s.loc i
  let goto (pc : Pc) (e : Effect) : Option (Loc × Effect) := some ({ l with pc := pc }, e)
  let fail : Option (Loc × Effect) := goto .failed .skip
  match l.pc with
  | .sendDevInfo => if ok then goto .addSent .sendDevInfo else fail
  | .addSent => some ({ l with pc := .loadSent, added := true }, .addSent)
  | .loadSent =>
      if int32 n ≤ int32 s.devicesLeftToSend then goto .migrate .spawnAllDevicesSent
      else goto .migrate .skip
  | .migrate => if ok then goto .msync .skip else fail
  | .msync =>
      if !s.suspendedVM && (cfg i).isMemory && !ok then fail else goto .getLatestDirty .skip
  | .getLatestDirty =>
      some ({ l with
        pc := if s.dirty i = [] then .checkSuspended else .dirtyList
        blocks := s.dirty i }, .takeDirty)
  | .checkSuspended => goto (if s.suspendedVM then .transferAuthority else .throttle) .skip
  | .dirtyList => if ok then goto .throttle (.dirtyList l.blocks) else fail
  | .throttle =>
      if !s.suspendedVM && !decide (int32 n ≤ int32 s.devicesLeftToTransferAuthorityFor) && !ok
      then fail
      else goto .converge .skip
  | .converge =>
      some (l.converged (cfg i).thresholds,
        if l.marks (cfg i).thresholds && !l.marked then .markReady else .skip)
  | .checkReady =>
      if int32 n ≤ int32 s.devicesLeftToTransferAuthorityFor then
        match s.latch with
        | .idle => goto (.suspend .suspendAgent) .startSuspend
        | .running => none
        | .returned true => goto .msync .skip
        | .returned false => fail
      else goto .msync .skip
  | .suspend .suspendAgent =>
      if ok then goto (.suspend .msync) .agentSuspended else goto .failed (.returned false)
  | .suspend .msync =>
      if ok then goto (.suspend .markSuspended) .finalMsynced else goto .failed (.returned false)
  | .suspend .markSuspended => goto (.suspend .finish) .markSuspended
  | .suspend .finish => goto .msync (.returned true)
  | .transferAuthority => if ok then goto .complete .transferAuthority else fail
  | .complete => if ok then goto .done .skip else fail
  | .done => none
  | .failed => none

/-- One action of the interleaving. -/
def step (cfg : Fin n → MigrateToDevice) (s : Sys n) : Action n → Option (Sys n)
  | .device i ok => (transition cfg s i ok).map fun r => r.2.apply (s.setLoc i r.1) i
  | .write i b =>
      if s.suspendedVM then none
      else some { s with
        dirty := Function.update s.dirty i ((s.dirty i).insert b)
        written := Function.update s.written i ((s.written i).insert b) }
  | .sendAllDevicesSent =>
      if s.allDevicesSentSenders = 0 then none
      else some { s with
        allDevicesSentSenders := s.allDevicesSentSenders - 1
        allDevicesSentEvents := s.allDevicesSentEvents + 1 }

/-! ## What a step can do

`Moves cfg s i l e` lists the transitions of device `i`'s goroutine with their guards:
from its pc in `s` to the local variables `l`, with the effect `e`.  Every step of the
model is one of them (`transition_moves`), so invariants are proved by cases on `Moves`
and never unfold `transition`. -/

/-- The pcs at which a call can return an error and the goroutine fail. -/
def Pc.fallible : List Pc :=
  [.sendDevInfo, .migrate, .msync, .dirtyList, .throttle, .transferAuthority, .complete]

/-- The transitions of a device's goroutine. -/
inductive Moves (cfg : Fin n → MigrateToDevice) (s : Sys n) (i : Fin n) : Loc → Effect → Prop
  | sendDevInfo : (s.loc i).pc = .sendDevInfo →
      Moves cfg s i { s.loc i with pc := .addSent } .sendDevInfo
  | addSent : (s.loc i).pc = .addSent →
      Moves cfg s i { s.loc i with pc := .loadSent, added := true } .addSent
  | spawn : (s.loc i).pc = .loadSent → int32 n ≤ int32 s.devicesLeftToSend →
      Moves cfg s i { s.loc i with pc := .migrate } .spawnAllDevicesSent
  | noSpawn : (s.loc i).pc = .loadSent → int32 s.devicesLeftToSend < int32 n →
      Moves cfg s i { s.loc i with pc := .migrate } .skip
  | migrate : (s.loc i).pc = .migrate → Moves cfg s i { s.loc i with pc := .msync } .skip
  | msync : (s.loc i).pc = .msync → Moves cfg s i { s.loc i with pc := .getLatestDirty } .skip
  | getLatestDirty : (s.loc i).pc = .getLatestDirty →
      Moves cfg s i { s.loc i with
        pc := if s.dirty i = [] then .checkSuspended else .dirtyList
        blocks := s.dirty i } .takeDirty
  | checkSuspended : (s.loc i).pc = .checkSuspended →
      Moves cfg s i
        { s.loc i with pc := if s.suspendedVM then .transferAuthority else .throttle } .skip
  | dirtyList : (s.loc i).pc = .dirtyList →
      Moves cfg s i { s.loc i with pc := .throttle } (.dirtyList (s.loc i).blocks)
  | throttle : (s.loc i).pc = .throttle → Moves cfg s i { s.loc i with pc := .converge } .skip
  | converge : (s.loc i).pc = .converge →
      Moves cfg s i ((s.loc i).converged (cfg i).thresholds)
        (if (s.loc i).marks (cfg i).thresholds && !(s.loc i).marked then .markReady else .skip)
  | notReady : (s.loc i).pc = .checkReady → int32 s.devicesLeftToTransferAuthorityFor < int32 n →
      Moves cfg s i { s.loc i with pc := .msync } .skip
  | startSuspend : (s.loc i).pc = .checkReady → int32 n ≤ int32 s.devicesLeftToTransferAuthorityFor →
      s.latch = .idle → Moves cfg s i { s.loc i with pc := .suspend .suspendAgent } .startSuspend
  | resume : (s.loc i).pc = .checkReady → int32 n ≤ int32 s.devicesLeftToTransferAuthorityFor →
      s.latch = .returned true → Moves cfg s i { s.loc i with pc := .msync } .skip
  | suspendFailed : (s.loc i).pc = .checkReady → int32 n ≤ int32 s.devicesLeftToTransferAuthorityFor →
      s.latch = .returned false → Moves cfg s i { s.loc i with pc := .failed } .skip
  | agentSuspended : (s.loc i).pc = .suspend .suspendAgent →
      Moves cfg s i { s.loc i with pc := .suspend .msync } .agentSuspended
  | finalMsynced : (s.loc i).pc = .suspend .msync →
      Moves cfg s i { s.loc i with pc := .suspend .markSuspended } .finalMsynced
  | suspendError : (s.loc i).pc = .suspend .suspendAgent ∨ (s.loc i).pc = .suspend .msync →
      Moves cfg s i { s.loc i with pc := .failed } (.returned false)
  | markSuspended : (s.loc i).pc = .suspend .markSuspended →
      Moves cfg s i { s.loc i with pc := .suspend .finish } .markSuspended
  | finish : (s.loc i).pc = .suspend .finish →
      Moves cfg s i { s.loc i with pc := .msync } (.returned true)
  | transferAuthority : (s.loc i).pc = .transferAuthority →
      Moves cfg s i { s.loc i with pc := .complete } .transferAuthority
  | complete : (s.loc i).pc = .complete → Moves cfg s i { s.loc i with pc := .done } .skip
  | fail : (s.loc i).pc ∈ Pc.fallible → Moves cfg s i { s.loc i with pc := .failed } .skip

theorem transition_moves {cfg : Fin n → MigrateToDevice} {s : Sys n} {i : Fin n} {ok : Bool}
    {l : Loc} {e : Effect} (h : transition cfg s i ok = some (l, e)) : Moves cfg s i l e := by
  have hfail : (s.loc i).pc ∈ Pc.fallible →
      Moves cfg s i { s.loc i with pc := .failed } .skip := .fail
  cases hpc : (s.loc i).pc <;> simp only [transition, hpc] at h
  case sendDevInfo =>
    split at h <;> cases h
    exacts [.sendDevInfo hpc, hfail (by simp [hpc, Pc.fallible])]
  case addSent => cases h; exact .addSent hpc
  case loadSent =>
    split at h <;> cases h
    exacts [.spawn hpc ‹_›, .noSpawn hpc (by omega)]
  case migrate =>
    split at h <;> cases h
    exacts [.migrate hpc, hfail (by simp [hpc, Pc.fallible])]
  case msync =>
    split at h <;> cases h
    exacts [hfail (by simp [hpc, Pc.fallible]), .msync hpc]
  case getLatestDirty => cases h; exact .getLatestDirty hpc
  case checkSuspended => cases h; exact .checkSuspended hpc
  case dirtyList =>
    split at h <;> cases h
    exacts [.dirtyList hpc, hfail (by simp [hpc, Pc.fallible])]
  case throttle =>
    split at h <;> cases h
    exacts [hfail (by simp [hpc, Pc.fallible]), .throttle hpc]
  case converge => cases h; exact .converge hpc
  case checkReady =>
    split at h
    · split at h <;> cases h
      exacts [.startSuspend hpc ‹_› ‹_›, .resume hpc ‹_› ‹_›, .suspendFailed hpc ‹_› ‹_›]
    · cases h
      exact .notReady hpc (by omega)
  case suspend stage =>
    cases stage <;> simp only at h
    · split at h <;> cases h
      exacts [.agentSuspended hpc, .suspendError (.inl hpc)]
    · split at h <;> cases h
      exacts [.finalMsynced hpc, .suspendError (.inr hpc)]
    · cases h; exact .markSuspended hpc
    · cases h; exact .finish hpc
  case transferAuthority =>
    split at h <;> cases h
    exacts [.transferAuthority hpc, hfail (by simp [hpc, Pc.fallible])]
  case complete =>
    split at h <;> cases h
    exacts [.complete hpc, hfail (by simp [hpc, Pc.fallible])]
  case done | failed => cases h

section Step

variable {cfg : Fin n → MigrateToDevice} {s s' : Sys n}

@[simp] theorem Effect.apply_loc (e : Effect) (s : Sys n) (i : Fin n) :
    (e.apply s i).loc = s.loc := by
  cases e <;> rfl

@[simp] theorem Sys.setLoc_loc_self (s : Sys n) (i : Fin n) (l : Loc) : (s.setLoc i l).loc i = l :=
  Function.update_same _ _ _

@[simp] theorem Sys.setLoc_loc_of_ne (s : Sys n) {i j : Fin n} (l : Loc) (h : j ≠ i) :
    (s.setLoc i l).loc j = s.loc j :=
  Function.update_noteq h _ _

/-- Every step is a move of one device, a write, or the send of `AllDevicesSent`. -/
theorem step_cases {a : Action n} (h : step cfg s a = some s') :
    (∃ i l e, Moves cfg s i l e ∧ s' = e.apply (s.setLoc i l) i) ∨
    (∃ i b, s.suspendedVM = false ∧ s' = { s with
        dirty := Function.update s.dirty i ((s.dirty i).insert b)
        written := Function.update s.written i ((s.written i).insert b) }) ∨
    (s.allDevicesSentSenders ≠ 0 ∧ s' = { s with
        allDevicesSentSenders := s.allDevicesSentSenders - 1
        allDevicesSentEvents := s.allDevicesSentEvents + 1 }) := by
  cases a with
  | device i ok =>
      simp only [step, Option.map_eq_some'] at h
      obtain ⟨⟨l, e⟩, ht, rfl⟩ := h
      exact .inl ⟨i, l, e, transition_moves ht, rfl⟩
  | write i b =>
      simp only [step] at h
      split at h
      · cases h
      · cases h
        exact .inr (.inl ⟨i, b, Bool.eq_false_iff.mpr ‹_›, rfl⟩)
  | sendAllDevicesSent =>
      simp only [step] at h
      split at h
      · cases h
      · cases h
        exact .inr (.inr ⟨‹_›, rfl⟩)

end Step

/-- The states of a migration of `n` devices with settings `cfg`. -/
def Reach (cfg : Fin n → MigrateToDevice) : Sys n → Prop :=
  Reachable (Sys.init n) (step cfg)

end Architekt.MigrateTo
