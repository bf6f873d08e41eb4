import Architekt.Transition

/-!
# The destination of a migration: `MigrateFrom`

The destination reads one protocol stream per remote device.  For device `index`, the
`DevInfo` frame runs the admission callback

```text
base := <Base of the configured device named di.Name>
if strings.TrimSpace(base) == "" { panic(ErrUnknownDeviceName) }
receivedButNotReadyRemoteDevices.Add(1)
<create the device>; stage2Inputs = append(stage2Inputs, {name: di.Name, remote: true})
Mknod(VMPath/di.Name)
```

and the event handler runs

```text
case EventCustomAllDevicesSent:    cancelAllRemoteDevicesReceivedCtx()
case EventCustomTransferAuthority: if receivedButNotReadyRemoteDevices.Add(-1) <= 0 {
                                       cancelAllRemoteDevicesReadyCtx() }
```

Meanwhile the main flow waits for `allRemoteDevicesReceivedCtx`, takes as `stage1Inputs`
the configured devices whose name is not in `stage2Inputs`, exposes each of them from its
local base (append to `stage2Inputs`, `Mknod`), and waits for `allRemoteDevicesReadyCtx`.

Each device's frames are handled in the order the source sent them, and different devices
interleave arbitrarily: a `Handler` walks its device's `DevInfo` and then its events, one
atomic piece at a time.  The source sends one `DevInfo` per remote device and then its
events, so a `RemoteDevice` is a name and the list of events sent after it.  A failed
`Mknod` (the node exists) panics; so does an unknown device name.  The main flow exposes
each local device in one step.  `Sys` also records which remote devices have raised the
counter and which have had a `TransferAuthority` handled.
-/

namespace Architekt.MigrateFrom

/-- A configured device of `MigrateFrom`: its name and the path of its local base. -/
structure MigrateFromDevice where
  name : String
  base : String
  deriving Repr, DecidableEq

/-- The events the destination handles after a device's `DevInfo`. -/
inductive Event
  | allDevicesSent
  | transferAuthority
  | completed
  deriving Repr, DecidableEq

/-- What the source sent on one device's stream: the name in its `DevInfo`, then the events. -/
structure RemoteDevice where
  name : String
  events : List Event
  deriving Repr, DecidableEq

/-- Where the admission callback of a device's `DevInfo` is. -/
inductive Admission
  /-- The base lookup and `receivedButNotReadyRemoteDevices.Add(1)`. -/
  | add
  /-- The append to `stage2Inputs`. -/
  | append
  /-- `Mknod` of the device node under `VMPath`. -/
  | mknod
  deriving Repr, DecidableEq

/-- Where a device's frame handling is. -/
inductive Handler
  | devInfo (stage : Admission)
  /-- The events still to handle. -/
  | events (rest : List Event)
  /-- A panic in a callback. -/
  | failed
  deriving Repr, DecidableEq

/-- Where the main flow of `MigrateFrom` is. -/
inductive Main
  /-- `<-allRemoteDevicesReceivedCtx.Done()`. -/
  | waitReceived
  /-- Exposing the local devices of `stage1Inputs` still to expose. -/
  | expose (pending : List MigrateFromDevice)
  /-- `<-allRemoteDevicesReadyCtx.Done()`. -/
  | waitReady
  | ready
  | failed
  deriving Repr, DecidableEq

/-- The destination's state for `m` remote devices. -/
structure Sys (m : Nat) where
  handler : Fin m → Handler
  main : Main
  /-- The sum of what was added to the `atomic.Int32`; `Add` returns it wrapped, `int32`. -/
  receivedButNotReadyRemoteDevices : Int
  /-- The names of the entries of `stage2Inputs`, in order. -/
  stage2Inputs : List String
  /-- The device nodes created under `VMPath`. -/
  nodes : List String
  allRemoteDevicesReceived : Bool
  allRemoteDevicesReady : Bool
  /-- The main flow's `stage1Inputs`, once built. -/
  stage1Inputs : List MigrateFromDevice
  admitted : Fin m → Bool
  authorityHandled : Fin m → Bool

/-- The actions of the interleaving: the next piece of device `i`'s frame handling, or the
next step of the main flow. -/
inductive Action (m : Nat)
  | handle (i : Fin m)
  | main

variable {m : Nat}

/-- The `Base` of the configured device named `name`, or `""`. -/
def lookupBase (devices : List MigrateFromDevice) (name : String) : String :=
  ((devices.find? fun d => d.name == name).map MigrateFromDevice.base).getD ""

/-- Go's `unicode.IsSpace`: within Latin-1 the characters `'\t'`, `'\n'`, `'\v'`, `'\f'`,
`'\r'`, `' '`, U+0085 and U+00A0; beyond it those of the `White_Space` table. -/
def isSpace (c : Char) : Bool :=
  let r := c.toNat
  if r ≤ 0xFF then
    (0x09 ≤ r && r ≤ 0x0D) || r == 0x20 || r == 0x85 || r == 0xA0
  else
    r == 0x1680 || (0x2000 ≤ r && r ≤ 0x200A) || r == 0x2028 || r == 0x2029 || r == 0x202F ||
      r == 0x205F || r == 0x3000

/-- `strings.TrimSpace(base) == ""`: `TrimSpace` drops the leading and trailing runes for
which `unicode.IsSpace` holds, so the result is empty exactly when every rune is one. -/
def isBlank (base : String) : Bool := base.data.all isSpace

example : isBlank " \u3000\x85" = true ∧ isBlank "\x1c" = false := by decide

/-- The state when the streams open: every `DevInfo` is still to be handled. -/
def Sys.init (m : Nat) : Sys m :=
  ⟨fun _ => .devInfo .add, .waitReceived, 0, [], [], false, false, [], fun _ => false,
    fun _ => false⟩

/-- Move device `i`'s frame handling to `h`. -/
def Sys.setHandler (s : Sys m) (i : Fin m) (h : Handler) : Sys m :=
  { s with handler := Function.update s.handler i h }

/-- The next piece of device `i`'s frame handling, or `none` when it has nothing left. -/
def handle (devices : List MigrateFromDevice) (remote : Fin m → RemoteDevice) (s : Sys m)
    (i : Fin m) : Option (Sys m) :=
  let r := remote i
  match s.handler i with
  | .devInfo .add =>
      if isBlank (lookupBase devices r.name) then some (s.setHandler i .failed)
      else some ({ s with
        receivedButNotReadyRemoteDevices := s.receivedButNotReadyRemoteDevices + 1
        admitted := Function.update s.admitted i true }.setHandler i (.devInfo .append))
  | .devInfo .append =>
      some ({ s with stage2Inputs := s.stage2Inputs ++ [r.name] }.setHandler i (.devInfo .mknod))
  | .devInfo .mknod =>
      if r.name ∈ s.nodes then some (s.setHandler i .failed)
      else some ({ s with nodes := s.nodes ++ [r.name] }.setHandler i (.events r.events))
  | .events [] => none
  | .events (.allDevicesSent :: rest) =>
      some ({ s with allRemoteDevicesReceived := true }.setHandler i (.events rest))
  | .events (.transferAuthority :: rest) =>
      some ({ s with
        receivedButNotReadyRemoteDevices := s.receivedButNotReadyRemoteDevices - 1
        allRemoteDevicesReady :=
          s.allRemoteDevicesReady || decide (int32 (s.receivedButNotReadyRemoteDevices - 1) ≤ 0)
        authorityHandled := Function.update s.authorityHandled i true }.setHandler i (.events rest))
  | .events (.completed :: rest) => some (s.setHandler i (.events rest))
  | .failed => none

/-- The next step of the main flow, or `none` while it waits or once it is done. -/
def mainStep (devices : List MigrateFromDevice) (s : Sys m) : Option (Sys m) :=
  match s.main with
  | .waitReceived =>
      if s.allRemoteDevicesReceived then
        let stage1 := devices.filter fun d => !s.stage2Inputs.contains d.name
        some { s with main := .expose stage1, stage1Inputs := stage1 }
      else none
  | .expose [] => some { s with main := .waitReady }
  | .expose (d :: rest) =>
      if d.name ∈ s.nodes then some { s with main := .failed }
      else some { s with
        main := .expose rest
        stage2Inputs := s.stage2Inputs ++ [d.name]
        nodes := s.nodes ++ [d.name] }
  | .waitReady => if s.allRemoteDevicesReady then some { s with main := .ready } else none
  | .ready => none
  | .failed => none

/-- One action of the interleaving. -/
def step (devices : List MigrateFromDevice) (remote : Fin m → RemoteDevice) (s : Sys m) :
    Action m → Option (Sys m)
  | .handle i => handle devices remote s i
  | .main => mainStep devices s

/-- The states of the destination with configured `devices` and remote devices `remote`. -/
def Reach (devices : List MigrateFromDevice) (remote : Fin m → RemoteDevice) : Sys m → Prop :=
  Reachable (Sys.init m) (step devices remote)

end Architekt.MigrateFrom
