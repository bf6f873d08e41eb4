import Architekt.Runner
import Architekt.MigrateFrom.Model

/-!
# The snapshotter: `CreateSnapshot` and its deferred calls

`roles.CreateSnapshot` (`pkg/roles/snapshotter.go`) builds a package.  It starts Firecracker,
the liveness server and the agent server, copies the device inputs into the VM directory,
boots the VM from them, waits for its liveness signal and the agent's `BeforeSuspend`,
takes a full snapshot and writes the package configuration.  Every failure panics.  The
copy of the devices out of the VM directory to their outputs is a deferred call.  Go runs
deferred calls last in, first out when the function returns or panics, so the copy runs
after the `fcServer.Close()` deferred after it, which is there "to stop the Firecracker
process from using the mount", and before the `os.RemoveAll` of the VM directory deferred
before it.

## Model

The body is a list of instructions: a call whose error panics, a call whose result is
ignored, and a `defer`.  `exec` runs them up to the first failing call and collects the
deferred calls, the last one first; `unwind` then runs them in that order.  `Env.ok` says
which calls succeed.  The deferred copy does nothing `if errs != nil`; which panics `errs`
holds by then depends on `utils.GetPanicHandler`, which is not in the repository, so it is
`Env.errsNil`.  A panic in the copy stops it; its own `handlePanics(true)` recovers it.  The
copy's deferred `Close`s of its files, the contexts and their `cancel()`s, and Firecracker's
`Wait` goroutine are left out, as are `KnownNames` and `DiskName`, which are not in the
repository and are parameters.

## Strategy

`exec_body` splits a run of the body at the two `defer`s.  If the setup panics, neither
the copy nor the close is deferred, and no call the run makes is one of the copy
(`createSnapshot_copyFree_of_panic`).  Otherwise both are, and the calls end with the
close, the copy and the setup's deferred calls, none of the earlier ones a call of the copy
(`createSnapshot_calls_of_setup`): no instruction of the two parts runs or defers one
(`copyFree_of_mem_setup`, `copyFree_of_mem_snapshot`, `unwind_copyFree`).

## Results

* `copy_out_between_stop_and_removal`: in every run, whatever fails and whatever `errs`
  holds, each call of the deferred copy comes after Firecracker is closed and before the
  VM directory is removed.
-/

namespace Architekt.Snapshotter

/-- `SnapshotDevice`. -/
structure SnapshotDevice where
  name : String
  input : String
  output : String
  deriving Repr, DecidableEq

/-- The calls of `CreateSnapshot`. -/
inductive Call
  | mkdirChrootBaseDir
  | startFirecrackerServer
  /-- `fcServer.Close()`. -/
  | closeFirecrackerServer
  /-- `os.RemoveAll(filepath.Dir(fcServer.VMPath))`. -/
  | removeVMDirectory
  | openLiveness
  | closeLiveness
  | chownLivenessVSock
  /-- `server.New` of the agent's RPC server. -/
  | startAgentServer
  | closeAgentServer
  | chownAgentVSock
  /-- `iutils.CopyFile(device.Input, filepath.Join(fcServer.VMPath, device.Name), …)`. -/
  | copyDeviceFile (name : String)
  | startVM (disks : List String)
  /-- `os.Remove(filepath.Join(fcServer.VMPath, VSockName))`. -/
  | removeVSock
  | receiveAndCloseLiveness
  | beforeSuspend
  /-- `firecracker.CreateSnapshot(ctx, client, StateName, MemoryName, SnapshotTypeFull)`. -/
  | createSnapshot
  | marshalPackageConfig
  | openPackageConfig
  | writePackageConfig
  | chownPackageConfig
  | closePackageConfig
  /-- The deferred copy: `os.Open(filepath.Join(fcServer.VMPath, device.Name))`. -/
  | openInput (name : String)
  /-- `os.MkdirAll(filepath.Dir(device.Output), os.ModePerm)`. -/
  | mkdirOutputDir (output : String)
  /-- `os.OpenFile(device.Output, os.O_CREATE|os.O_TRUNC|os.O_WRONLY, os.ModePerm)`. -/
  | createOutput (output : String)
  | copy (name output : String)
  | writePadding (output : String)
  deriving Repr, DecidableEq

/-- The calls of the deferred copy. -/
def Call.isCopyOut : Call → Bool
  | .openInput _ | .mkdirOutputDir _ | .createOutput _ | .copy .. | .writePadding _ => true
  | _ => false

/-- The sentinel errors of `CreateSnapshot`. -/
inductive Error
  | couldNotCreateChrootBaseDirectory
  | couldNotStartFirecrackerServer
  | couldNotOpenLivenessServer
  | couldNotChownLivenessServerVSock
  | couldNotStartAgentServer
  | couldNotChownAgentServerVSock
  | couldNotCopyDeviceFile
  | couldNotStartVM
  | couldNotReceiveAndCloseLivenessServer
  | couldNotBeforeSuspend
  | couldNotCreateSnapshot
  | couldNotMarshalPackageConfig
  | couldNotOpenPackageConfigFile
  | couldNotWritePackageConfig
  | couldNotChownPackageConfigFile
  | couldNotOpenInputFile
  | couldNotCreateOutputDir
  | couldNotCreateOutputFile
  | couldNotCopyFile
  | couldNotWritePadding
  deriving Repr, DecidableEq

/-- A deferred call: a call, or the copy of the devices out of the VM directory. -/
inductive Deferred
  | call (c : Call)
  | copyOut
  deriving Repr, DecidableEq

/-- An instruction of the body. -/
inductive Instr
  /-- `if err := c(); err != nil { panic(errors.Join(e, err)) }`. -/
  | must (c : Call) (e : Error)
  /-- A call whose result is ignored. -/
  | run (c : Call)
  | defer (d : Deferred)
  deriving Repr, DecidableEq

/-- What the calls meet. -/
structure Env where
  ok : Call → Bool
  /-- `errs == nil` when the deferred copy runs. -/
  errsNil : Bool

/-- The devices `StartVM` attaches as disks: those of a name not in `KnownNames`, and the
disk. -/
def disks (knownNames : List String) (diskName : String) (devices : List SnapshotDevice) :
    List String :=
  (devices.filter fun d => !knownNames.contains d.name || d.name == diskName).map
    SnapshotDevice.name

/-- The body up to the `defer` of the copy. -/
def setup : List Instr :=
  [.must .mkdirChrootBaseDir .couldNotCreateChrootBaseDirectory,
    .must .startFirecrackerServer .couldNotStartFirecrackerServer,
    .defer (.call .closeFirecrackerServer), .defer (.call .removeVMDirectory),
    .must .openLiveness .couldNotOpenLivenessServer, .defer (.call .closeLiveness),
    .must .chownLivenessVSock .couldNotChownLivenessServerVSock,
    .must .startAgentServer .couldNotStartAgentServer, .defer (.call .closeAgentServer),
    .must .chownAgentVSock .couldNotChownAgentServerVSock]

/-- The body after the `defer` of the copy and of the second `fcServer.Close()`: the device
inputs, the VM, and the snapshot with its package configuration. -/
def snapshot (knownNames : List String) (diskName : String) (devices : List SnapshotDevice) :
    List Instr :=
  (devices.filter fun d => !MigrateFrom.isBlank d.input).map
      (fun d => .must (.copyDeviceFile d.name) .couldNotCopyDeviceFile) ++
    [.must (.startVM (disks knownNames diskName devices)) .couldNotStartVM,
      .defer (.call .removeVSock),
      .must .receiveAndCloseLiveness .couldNotReceiveAndCloseLivenessServer,
      .must .beforeSuspend .couldNotBeforeSuspend,
      .run .closeLiveness, .run .closeAgentServer,
      .must .createSnapshot .couldNotCreateSnapshot,
      .must .marshalPackageConfig .couldNotMarshalPackageConfig,
      .must .openPackageConfig .couldNotOpenPackageConfigFile,
      .defer (.call .closePackageConfig),
      .must .writePackageConfig .couldNotWritePackageConfig,
      .must .chownPackageConfig .couldNotChownPackageConfigFile]

/-- The body of `CreateSnapshot`. -/
def body (knownNames : List String) (diskName : String) (devices : List SnapshotDevice) :
    List Instr :=
  setup ++ [.defer .copyOut, .defer (.call .closeFirecrackerServer)] ++
    snapshot knownNames diskName devices

/-- How far the body got: its calls, the deferred calls with the last deferred first, and
the error it panicked with. -/
structure Progress where
  calls : List Call := []
  deferred : List Deferred := []
  panicked : Option Error := none
  deriving Repr, DecidableEq

/-- Run the body's instructions up to the first failing call. -/
def exec (ok : Call → Bool) : List Instr → Progress → Progress
  | [], p => p
  | .must c e :: is, p =>
      if ok c then exec ok is { p with calls := p.calls ++ [c] }
      else { p with calls := p.calls ++ [c], panicked := some e }
  | .run c :: is, p => exec ok is { p with calls := p.calls ++ [c] }
  | .defer d :: is, p => exec ok is { p with deferred := d :: p.deferred }

/-- The steps of the deferred copy for one device. -/
def copySteps (d : SnapshotDevice) : List (Call × Error) :=
  [(.openInput d.name, .couldNotOpenInputFile), (.mkdirOutputDir d.output, .couldNotCreateOutputDir),
    (.createOutput d.output, .couldNotCreateOutputFile), (.copy d.name d.output, .couldNotCopyFile),
    (.writePadding d.output, .couldNotWritePadding)]

/-- The deferred copy: nothing `if errs != nil`, and otherwise every device's steps up to the
first failure. -/
def copyOut (env : Env) (devices : List SnapshotDevice) : List Call × Option Error :=
  if env.errsNil then Runner.attempt env.ok (devices.flatMap copySteps) else ([], none)

/-- Run the deferred calls in the order of the list, the last deferred first. -/
def unwind (env : Env) (devices : List SnapshotDevice) : List Deferred → List Call
  | [] => []
  | .call c :: ds => c :: unwind env devices ds
  | .copyOut :: ds => (copyOut env devices).1 ++ unwind env devices ds

/-- `CreateSnapshot`: its calls, the deferred ones last, and its `errs`: the copy's error,
then the body's. -/
def createSnapshot (env : Env) (knownNames : List String) (diskName : String)
    (devices : List SnapshotDevice) : List Call × List Error :=
  let p := exec env.ok (body knownNames diskName devices) {}
  (p.calls ++ unwind env devices p.deferred,
    (if Deferred.copyOut ∈ p.deferred then (copyOut env devices).2.toList else []) ++
      p.panicked.toList)

/-! ## `exec` and `unwind` -/

/-- The deferred call of a `defer`. -/
def Instr.deferred? : Instr → Option Deferred
  | .defer d => some d
  | _ => none

/-- The instruction neither makes nor defers a call of the copy. -/
def Instr.copyFree : Instr → Bool
  | .must c _ | .run c | .defer (.call c) => !c.isCopyOut
  | .defer .copyOut => true

section Exec

variable {ok : Call → Bool}

/-- Past a failing call `exec` runs nothing more. -/
theorem exec_append (is₁ is₂ : List Instr) {p : Progress} (hp : p.panicked = none) :
    exec ok (is₁ ++ is₂) p =
      if (exec ok is₁ p).panicked = none then exec ok is₂ (exec ok is₁ p) else exec ok is₁ p := by
  induction is₁ generalizing p with
  | nil => simp [exec, hp]
  | cons i is ih =>
      cases i with
      | must c e =>
          by_cases hc : ok c
          · simp only [exec, hc, if_true]
            exact ih hp
          · simp [exec, hc]
      | run c => exact ih hp
      | defer d => exact ih hp

/-- `exec` only adds deferred calls, of `defer`s it ran. -/
theorem exec_deferred (is : List Instr) (p : Progress) :
    ∃ ds, (exec ok is p).deferred = ds ++ p.deferred ∧ ∀ d ∈ ds, Instr.defer d ∈ is := by
  induction is generalizing p with
  | nil => exact ⟨[], rfl, by simp⟩
  | cons i is ih =>
      cases i with
      | must c e =>
          by_cases hc : ok c
          · obtain ⟨ds, hds, hmem⟩ := ih { p with calls := p.calls ++ [c] }
            exact ⟨ds, by simpa [exec, hc] using hds, fun d hd => List.mem_cons_of_mem _ (hmem d hd)⟩
          · exact ⟨[], by simp [exec, hc], by simp⟩
      | run c =>
          obtain ⟨ds, hds, hmem⟩ := ih { p with calls := p.calls ++ [c] }
          exact ⟨ds, hds, fun d hd => List.mem_cons_of_mem _ (hmem d hd)⟩
      | defer d =>
          obtain ⟨ds, hds, hmem⟩ := ih { p with deferred := d :: p.deferred }
          refine ⟨ds ++ [d], by simpa [exec] using hds, fun d' hd' => ?_⟩
          rcases List.mem_append.1 hd' with hd' | hd'
          · exact List.mem_cons_of_mem _ (hmem d' hd')
          · simp_all

/-- A run of `exec` that ran to the end deferred every `defer`, the last first. -/
theorem exec_deferred_of_none (is : List Instr) {p : Progress}
    (h : (exec ok is p).panicked = none) :
    (exec ok is p).deferred = (is.filterMap Instr.deferred?).reverse ++ p.deferred := by
  induction is generalizing p with
  | nil => rfl
  | cons i is ih =>
      cases i with
      | must c e =>
          by_cases hc : ok c
          · simp only [exec, hc, if_true] at h ⊢
            simpa [Instr.deferred?] using ih h
          · simp [exec, hc] at h
      | run c => simpa [Instr.deferred?] using ih h
      | defer d => simpa [Instr.deferred?] using ih h

/-- `exec` makes calls only of copy-free instructions, besides those made before. -/
theorem exec_calls_copyFree (is : List Instr) (p : Progress)
    (his : ∀ i ∈ is, i.copyFree = true) (hp : ∀ c ∈ p.calls, c.isCopyOut = false) :
    ∀ c ∈ (exec ok is p).calls, c.isCopyOut = false := by
  induction is generalizing p with
  | nil => exact hp
  | cons i is ih =>
      have hi := his i (List.mem_cons_self _ _)
      have his' := fun i' hi' => his i' (List.mem_cons_of_mem _ hi')
      cases i with
      | must c e =>
          have hp' : ∀ c' ∈ p.calls ++ [c], c'.isCopyOut = false := by
            simpa [Instr.copyFree, or_imp, forall_and] using And.intro hp hi
          by_cases hc : ok c
          · simpa [exec, hc] using ih _ his' hp'
          · simpa [exec, hc] using hp'
      | run c =>
          exact ih _ his' (by simpa [Instr.copyFree, or_imp, forall_and] using And.intro hp hi)
      | defer d => exact ih _ his' hp

end Exec

theorem unwind_append (env : Env) (devices : List SnapshotDevice) (ds₁ ds₂ : List Deferred) :
    unwind env devices (ds₁ ++ ds₂) = unwind env devices ds₁ ++ unwind env devices ds₂ := by
  induction ds₁ with
  | nil => rfl
  | cons d ds ih => cases d <;> simp [unwind, ih]

/-- Deferred calls none of which is the deferred copy make no call of the copy. -/
theorem unwind_copyFree {env : Env} {devices : List SnapshotDevice} {ds : List Deferred}
    (hds : ∀ d ∈ ds, ∃ c, d = .call c ∧ c.isCopyOut = false) :
    ∀ c ∈ unwind env devices ds, c.isCopyOut = false := by
  induction ds with
  | nil => simp [unwind]
  | cons d ds ih =>
      obtain ⟨c', rfl, hc'⟩ := hds d (List.mem_cons_self _ _)
      simp only [unwind, List.mem_cons, forall_eq_or_imp]
      exact ⟨hc', ih fun d hd => hds d (List.mem_cons_of_mem _ hd)⟩

/-! ## The copy runs between the stop of Firecracker and the removal of the VM directory -/

section Order

variable {knownNames : List String} {diskName : String} {devices : List SnapshotDevice}

theorem copyFree_of_mem_setup {i : Instr} (hi : i ∈ setup) : i.copyFree = true := by
  simp only [setup, List.mem_cons, List.mem_singleton, List.not_mem_nil, or_false] at hi
  rcases hi with rfl | rfl | rfl | rfl | rfl | rfl | rfl | rfl | rfl | rfl <;> rfl

theorem copyFree_of_mem_snapshot {i : Instr} (hi : i ∈ snapshot knownNames diskName devices) :
    i.copyFree = true := by
  simp only [snapshot, List.mem_append, List.mem_map, List.mem_cons, List.mem_singleton,
    List.not_mem_nil, or_false] at hi
  rcases hi with ⟨d, -, rfl⟩ | rfl | rfl | rfl | rfl | rfl | rfl | rfl | rfl | rfl | rfl | rfl |
    rfl <;> rfl

/-- The deferred calls `snapshot` adds are plain calls, none of the copy. -/
theorem call_of_mem_snapshot {d : Deferred}
    (hd : Instr.defer d ∈ snapshot knownNames diskName devices) :
    ∃ c, d = .call c ∧ c.isCopyOut = false := by
  simp only [snapshot, List.mem_append, List.mem_map, List.mem_cons, List.mem_singleton,
    List.not_mem_nil, or_false] at hd
  rcases hd with ⟨_, -, h⟩ | h | h | h | h | h | h | h | h | h | h | h | h <;> cases h <;>
    exact ⟨_, rfl, rfl⟩

theorem call_of_mem_setup {d : Deferred} (hd : Instr.defer d ∈ setup) :
    ∃ c, d = .call c ∧ c.isCopyOut = false := by
  simp only [setup, List.mem_cons, List.mem_singleton, List.not_mem_nil, or_false] at hd
  rcases hd with h | h | h | h | h | h | h | h | h | h <;> cases h <;> exact ⟨_, rfl, rfl⟩

/-- The body runs `snapshot` only once `setup` has run to its end and deferred the copy and
the second `fcServer.Close()`. -/
theorem exec_body (ok : Call → Bool) :
    exec ok (body knownNames diskName devices) {} =
      if (exec ok setup {}).panicked = none then
        exec ok (snapshot knownNames diskName devices) { exec ok setup {} with
          deferred := .call .closeFirecrackerServer :: .copyOut :: (exec ok setup {}).deferred }
      else exec ok setup {} := by
  rw [body, List.append_assoc, exec_append _ _ rfl]
  rfl

theorem setup_calls_copyFree (ok : Call → Bool) :
    ∀ c ∈ (exec ok setup {}).calls, c.isCopyOut = false :=
  exec_calls_copyFree setup {} (fun _ hi => copyFree_of_mem_setup hi) (by simp)

/-- If the setup panics, no call of the copy is made. -/
theorem createSnapshot_copyFree_of_panic (env : Env) (knownNames : List String)
    (diskName : String) (devices : List SnapshotDevice)
    (hsetup : ¬(exec env.ok setup {}).panicked = none) :
    ∀ c ∈ (createSnapshot env knownNames diskName devices).1, c.isCopyOut = false := by
  obtain ⟨ds, hds, hmem⟩ := @exec_deferred env.ok setup {}
  simp only [createSnapshot, exec_body, if_neg hsetup, List.mem_append]
  rintro c (hc | hc)
  · exact setup_calls_copyFree env.ok c hc
  · rw [hds, List.append_nil] at hc
    exact unwind_copyFree (fun d hd => call_of_mem_setup (hmem d hd)) c hc

/-- Once the setup has deferred its calls, the copy and the second `fcServer.Close()`, the
calls end with that close, the copy and the setup's deferred calls, and no call before
them is one of the copy. -/
theorem exec_snapshot_calls (env : Env) (knownNames : List String) (diskName : String)
    (devices : List SnapshotDevice) {q : Progress}
    (hq : q.deferred = [.call .closeFirecrackerServer, .copyOut, .call .closeAgentServer,
      .call .closeLiveness, .call .removeVMDirectory, .call .closeFirecrackerServer])
    (hcalls : ∀ c ∈ q.calls, c.isCopyOut = false) :
    ∃ A, (∀ c ∈ A, c.isCopyOut = false) ∧
      (exec env.ok (snapshot knownNames diskName devices) q).calls ++
          unwind env devices (exec env.ok (snapshot knownNames diskName devices) q).deferred =
        A ++ [.closeFirecrackerServer] ++ (copyOut env devices).1 ++
          [.closeAgentServer, .closeLiveness, .removeVMDirectory, .closeFirecrackerServer] := by
  obtain ⟨ds, hds, hmem⟩ := @exec_deferred env.ok (snapshot knownNames diskName devices) q
  refine ⟨(exec env.ok (snapshot knownNames diskName devices) q).calls ++ unwind env devices ds,
    fun c hc => ?_, by simp [hds, hq, unwind_append, unwind]⟩
  rcases List.mem_append.1 hc with hc | hc
  · exact exec_calls_copyFree _ q (fun _ hi => copyFree_of_mem_snapshot hi) hcalls c hc
  · exact unwind_copyFree (fun d hd => call_of_mem_snapshot (hmem d hd)) c hc

/-- If the setup runs to its end, the calls end with the second `fcServer.Close()`, the
deferred copy, and the setup's deferred calls; no call before them is one of the copy. -/
theorem createSnapshot_calls_of_setup (env : Env) (knownNames : List String)
    (diskName : String) (devices : List SnapshotDevice)
    (hsetup : (exec env.ok setup {}).panicked = none) :
    ∃ A, (∀ c ∈ A, c.isCopyOut = false) ∧ (createSnapshot env knownNames diskName devices).1 =
      A ++ [.closeFirecrackerServer] ++ (copyOut env devices).1 ++
        [.closeAgentServer, .closeLiveness, .removeVMDirectory, .closeFirecrackerServer] := by
  have hdef : (exec env.ok setup {}).deferred = [.call .closeAgentServer, .call .closeLiveness,
      .call .removeVMDirectory, .call .closeFirecrackerServer] :=
    exec_deferred_of_none setup hsetup
  simp only [createSnapshot, exec_body, if_pos hsetup]
  exact exec_snapshot_calls env knownNames diskName devices (by simp [hdef])
    (setup_calls_copyFree env.ok)

/-- In every run of `CreateSnapshot`, whatever fails and whatever `errs` holds when the
deferred copy runs, each call of the copy comes after `fcServer.Close()` and before the
`os.RemoveAll` of the VM directory. -/
theorem copy_out_between_stop_and_removal (env : Env) (knownNames : List String)
    (diskName : String) (devices : List SnapshotDevice) :
    ∀ pre c post, (createSnapshot env knownNames diskName devices).1 = pre ++ c :: post →
      c.isCopyOut = true → .closeFirecrackerServer ∈ pre ∧ .removeVMDirectory ∈ post := by
  intro pre c post h hc
  by_cases hsetup : (exec env.ok setup {}).panicked = none
  · -- The setup ran: the copy runs between the two `fcServer.Close()`.
    obtain ⟨A, hA, hcalls⟩ := createSnapshot_calls_of_setup env knownNames diskName devices hsetup
    rw [hcalls] at h
    have hpre : c ∉ A ++ [.closeFirecrackerServer] := by
      simp only [List.mem_append, List.mem_singleton, not_or]
      exact ⟨fun hm => by simp [hA c hm] at hc, by rintro rfl; simp [Call.isCopyOut] at hc⟩
    have hpost : c ∉ [Call.closeAgentServer, .closeLiveness, .removeVMDirectory,
        .closeFirecrackerServer] := by
      simp only [List.mem_cons, List.mem_singleton, List.not_mem_nil, or_false]
      rintro (rfl | rfl | rfl | rfl) <;> simp [Call.isCopyOut] at hc
    exact ⟨(Runner.prefix_of_append_eq ((List.append_assoc _ _ _).symm.trans h) hpre).subset
      (by simp), (Runner.suffix_of_append_eq h hpost).subset (by simp)⟩
  · -- The setup failed: no call of the copy is made.
    simp [createSnapshot_copyFree_of_panic env knownNames diskName devices hsetup c
      (h ▸ by simp)] at hc

/-- Every call succeeds, and `errs` is empty when the copy runs. -/
def allSucceed : Env := ⟨fun _ => true, true⟩

/-- The calls of a run with the disk as its only device, in which every call succeeds. -/
def diskOnlyCalls : List Call :=
  (createSnapshot allSucceed [] "disk" [⟨"disk", "disk.img", "out/disk.img"⟩]).1

/-- The disk's copy, the 24th call of that run, comes after the stop of Firecracker and
before the removal of the VM directory. -/
theorem copy_out_between_stop_and_removal_disk_only :
    (diskOnlyCalls = diskOnlyCalls.take 23 ++ .copy "disk" "out/disk.img" :: diskOnlyCalls.drop 24 ∧
        (Call.copy "disk" "out/disk.img").isCopyOut = true) ∧
      (.closeFirecrackerServer ∈ diskOnlyCalls.take 23 ∧
        .removeVMDirectory ∈ diskOnlyCalls.drop 24) :=
  have h : diskOnlyCalls = diskOnlyCalls.take 23 ++ .copy "disk" "out/disk.img" ::
      diskOnlyCalls.drop 24 := rfl
  ⟨⟨h, rfl⟩, copy_out_between_stop_and_removal allSucceed [] "disk"
    [⟨"disk", "disk.img", "out/disk.img"⟩] _ _ _ h rfl⟩

end Order

end Architekt.Snapshotter
