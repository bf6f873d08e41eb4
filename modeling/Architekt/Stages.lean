import Architekt.BlockRange
import Architekt.MigrateFrom.Model
import Architekt.MigrateTo.Model

/-!
# The stages of `StartPeer`: which devices each step works on

Once `MigrateFrom` has returned, every device the destination exposed is an entry of
`stage2Inputs`: the remote devices in the order their `DevInfo` was admitted, then the
local ones (`Architekt.MigrateFrom`).  `MakeMigratable` keeps the entries named in its
`devices`, each with the first `MakeMigratableDevice` of its name (`stage3Inputs`), and
gives each its `totalBlocks` (`stage4Inputs`, the outputs of `ConcurrentMap`, one per
input and in order).  `MigrateTo` keeps the entries named in its own `devices`, each with
the first `MigrateToDevice` of its name (`stage5Inputs`), and runs one goroutine per entry
(`Architekt.MigrateTo`).  Both filters are the same loop:

```text
for _, input := range stage2Inputs {
	var makeMigratableDevice *MakeMigratableDevice
	for _, device := range devices {
		if device.Name == input.name { makeMigratableDevice = &device; break }
	}
	if makeMigratableDevice == nil { continue }
	stage3Inputs = append(stage3Inputs, peerStage3{prev: input, makeMigratableDevice: *makeMigratableDevice})
}
```

The `MaxDirtyBlocks`, `MinCycles` and `MaxCycles` of a `MigrateToDevice` are Go `int`s; a
negative one acts as `0` (`convergeInt_eq`), which is why the thresholds of the model are
natural numbers.

Two more pieces of `MigrateFrom` and of `Resume` read the same data.  Each device node is
made with the number `(Rdev / 256) << 8 | Rdev % 256` of the device's `/dev` node, which is
`Rdev` itself (`deviceID_eq`).  `Resume` reads the package configuration from the base of
the first configured device named `ConfigName`, with the loop of the `DevInfo` callback
(`configBasePath`).
-/

namespace Architekt.Stages

/-- An entry of `stage2Inputs`: a device the destination exposed. -/
structure PeerStage2 where
  name : String
  blockSize : Nat
  id : Nat
  remote : Bool
  /-- `storage.Size()`. -/
  size : Nat
  deriving Repr, DecidableEq

/-- `MakeMigratableDevice`. -/
structure MakeMigratableDevice where
  name : String
  /-- `Expiry` of the volatility monitor, in nanoseconds. -/
  expiry : Nat
  deriving Repr, DecidableEq

/-- `MigrateToDevice`, with the Go `int`s of its thresholds. -/
structure MigrateToDevice where
  name : String
  maxDirtyBlocks : Int
  minCycles : Int
  maxCycles : Int
  /-- `CycleThrottle`, in nanoseconds. -/
  cycleThrottle : Nat
  deriving Repr, DecidableEq

/-- `peerStage3`. -/
structure PeerStage3 where
  prev : PeerStage2
  makeMigratableDevice : MakeMigratableDevice
  deriving Repr, DecidableEq

/-- `peerStage4`, without the storage, the orderer and the dirty tracker. -/
structure PeerStage4 where
  prev : PeerStage3
  totalBlocks : Int
  deriving Repr, DecidableEq

/-- `peerStage5`. -/
structure PeerStage5 where
  prev : PeerStage4
  migrateToDevice : MigrateToDevice
  deriving Repr, DecidableEq

/-- `MakeMigratable`'s filter of `stage2Inputs`. -/
def stage3Inputs (stage2Inputs : List PeerStage2) (devices : List MakeMigratableDevice) :
    List PeerStage3 :=
  stage2Inputs.filterMap fun input =>
    (devices.find? fun device => device.name == input.name).map fun d => ⟨input, d⟩

/-- The body of `MakeMigratable`'s `ConcurrentMap`, as far as the stages go. -/
def makeMigratable (input : PeerStage3) : PeerStage4 :=
  ⟨input, totalBlocks input.prev.size input.prev.blockSize⟩

/-- `stage4Inputs`: the outputs of `ConcurrentMap`, one per input, in order. -/
def stage4Inputs (stage3Inputs : List PeerStage3) : List PeerStage4 :=
  stage3Inputs.map makeMigratable

/-- `MigrateTo`'s filter of `stage4Inputs`. -/
def stage5Inputs (stage4Inputs : List PeerStage4) (devices : List MigrateToDevice) :
    List PeerStage5 :=
  stage4Inputs.filterMap fun input =>
    (devices.find? fun device => device.name == input.prev.prev.name).map fun d => ⟨input, d⟩

/-- The exposed device an entry of `stage5Inputs` came from. -/
def PeerStage5.input (x : PeerStage5) : PeerStage2 := x.prev.prev.prev

/-! ## The thresholds of a served device -/

/-- One cycle of the convergence policy as the loop computes it, with the `int` thresholds
of the device. -/
def convergeInt (d : MigrateToDevice) (c : Cycles) (dirty : Nat) : Cycles × Bool :=
  if (dirty : Int) < d.maxDirtyBlocks then
    (⟨c.totalCycles + 1, c.cyclesBelowDirtyBlockTreshold + 1⟩,
      decide (d.minCycles < ((c.cyclesBelowDirtyBlockTreshold + 1 : Nat) : Int)))
  else if d.maxCycles < ((c.totalCycles + 1 : Nat) : Int) then
    (⟨c.totalCycles + 1, c.cyclesBelowDirtyBlockTreshold⟩, true)
  else
    (⟨c.totalCycles + 1, 0⟩, false)

/-- The thresholds of the model: each `int` of the device, a negative one as `0`. -/
def MigrateToDevice.thresholds (d : MigrateToDevice) : Thresholds :=
  ⟨d.maxDirtyBlocks.toNat, d.minCycles.toNat, d.maxCycles.toNat⟩

/-- The settings of a served device as `Architekt.MigrateTo` reads them. -/
def PeerStage5.toModel (memoryName : String) (x : PeerStage5) : MigrateTo.MigrateToDevice :=
  ⟨x.migrateToDevice.thresholds, x.input.name == memoryName⟩

/-- A negative threshold acts as `0`: the policy of the model, on the settings of a served
device, is the loop's on the device's `int`s. -/
theorem convergeInt_eq (memoryName : String) (x : PeerStage5) (c : Cycles) (dirty : Nat) :
    convergeInt x.migrateToDevice c dirty =
      Cycles.converge (x.toModel memoryName).thresholds c dirty := by
  unfold convergeInt Cycles.converge PeerStage5.toModel MigrateToDevice.thresholds
  dsimp only
  have h₁ : (dirty : Int) < x.migrateToDevice.maxDirtyBlocks ↔
      dirty < x.migrateToDevice.maxDirtyBlocks.toNat := by omega
  have h₂ : x.migrateToDevice.minCycles < ((c.cyclesBelowDirtyBlockTreshold + 1 : Nat) : Int) ↔
      x.migrateToDevice.minCycles.toNat < c.cyclesBelowDirtyBlockTreshold + 1 := by omega
  have h₃ : x.migrateToDevice.maxCycles < ((c.totalCycles + 1 : Nat) : Int) ↔
      x.migrateToDevice.maxCycles.toNat < c.totalCycles + 1 := by omega
  simp only [h₁, h₂, h₃]

/-! ## Device numbers -/

/-- `deviceMajor := uint64(deviceStat.Rdev / 256)`, `deviceMinor := uint64(deviceStat.Rdev % 256)`
and `deviceID := int((deviceMajor << 8) | deviceMinor)`, as the 64 bits `unix.Mknod` passes
on. -/
def deviceID (rdev : UInt64) : UInt64 := ((rdev / 256) <<< 8) ||| (rdev % 256)

/-- The node `MigrateFrom` makes for an exposed device has the number of the device's
`/dev` node: splitting `Rdev` at its low byte and joining the halves again is the identity
on every 64-bit `Rdev`. -/
theorem deviceID_eq (rdev : UInt64) : deviceID rdev = rdev := by
  have hr := rdev.toNat_lt_size
  have hsize : UInt64.size = 2 ^ 64 := rfl
  have hjoin : rdev.toNat / 256 * 2 ^ 8 ||| rdev.toNat % 256 = rdev.toNat := by
    rw [Nat.mul_comm, ← Nat.mul_add_lt_is_or (by omega)]
    omega
  apply UInt64.toNat.inj
  show ((rdev / 256).toBitVec <<< ((8 : UInt64) % 64).toBitVec ||| (rdev % 256).toBitVec).toNat =
    rdev.toNat
  have h8 : ((8 : UInt64) % 64).toBitVec.toNat = 8 := rfl
  rw [BitVec.toNat_or, BitVec.shiftLeft_eq', BitVec.toNat_shiftLeft, h8,
    show (rdev / 256).toBitVec.toNat = rdev.toNat / 256 from UInt64.toNat_div rdev 256,
    show (rdev % 256).toBitVec.toNat = rdev.toNat % 256 from UInt64.toNat_mod rdev 256,
    Nat.shiftLeft_eq, Nat.mod_eq_of_lt (by omega), hjoin]

/-! ## The package configuration of `Resume` -/

/-- The error of `Resume`'s lookup. -/
inductive ResumeError
  | configFileNotFound
  deriving Repr, DecidableEq

/-- `Resume`'s lookup of the package configuration: the `Base` of the first configured
device named `ConfigName`, and `ErrConfigFileNotFound` if it is blank. -/
def configBasePath (configName : String) (devices : List MigrateFrom.MigrateFromDevice) :
    Except ResumeError String :=
  if MigrateFrom.isBlank (MigrateFrom.lookupBase devices configName) then .error .configFileNotFound
  else .ok (MigrateFrom.lookupBase devices configName)

end Architekt.Stages
