import Architekt.MigrateTo.Wire
import Architekt.MigrateFrom.Handlers

/-!
# The source and the destination together

`MigrateTo` writes one stream of frames per device (`Architekt.MigrateTo.Wire`);
`MigrateFrom` handles, for each remote device, its `DevInfo` and then its events in the
order they were sent (`Architekt.MigrateFrom.Model`).  What the destination is handed for
a stream of the source is `toRemote`: the device's name and the stream's events, the
`DirtyList`s going to the device's migrator instead.

Streams only grow, so the frames the destination has read when the source is in state `w`
are a prefix of `w`'s streams: a destination run over the streams of a reachable wire
covers every interleaving of the two sides.

## Strategy

The destination's law of readiness (`Architekt.MigrateFrom.Handlers`) needs each stream
to carry at most one `TransferAuthority`.  The protocol automaton `StreamStage.read`
accepts every stream the source can have written (`WireInv`), and a stage determines how
many `TransferAuthority`s were read to reach it (`readFrom_count` with the rank
`StreamStage.authorities`).  So the law holds of the destination reading the streams of
any state of the source, with fewer than `2 ^ 31` devices for its `atomic.Int32`
counter.
-/

namespace Architekt

open MigrateTo

variable {n : Nat} {cfg : Fin n → MigrateToDevice} {w : Wire n}

/-- What `MigrateFrom` is handed for a stream of the source: the name in its `DevInfo`, and
its events in the order sent. -/
def toRemote (name : String) (frames : List Frame) : MigrateFrom.RemoteDevice :=
  ⟨name, frames.filterMap Frame.event?⟩

/-- The remote devices of the destination reading the streams of `w`, device `i` named
`names i`. -/
def remoteOf (names : Fin n → String) (w : Wire n) : Fin n → MigrateFrom.RemoteDevice :=
  fun i => toRemote (names i) (w.stream i)

theorem toRemote_count (name : String) (fs : List Frame) (e : MigrateFrom.Event) :
    (toRemote name fs).events.count e = fs.count (.event e) := by
  induction fs with
  | nil => rfl
  | cons f fs ih =>
      simp only [toRemote] at ih ⊢
      cases f <;> simp [Frame.event?, List.count_cons, ih]

/-! ## What a stage has read -/

/-- The `TransferAuthority`s read to reach a stage. -/
def MigrateTo.StreamStage.authorities : StreamStage → Nat
  | .authority | .completed => 1
  | _ => 0

theorem readFrom_count_authority {fs : List Frame} {st : StreamStage}
    (h : readFrom .fresh fs = some st) : fs.count (.event .transferAuthority) = st.authorities := by
  have := readFrom_count (.event .transferAuthority) (r := StreamStage.authorities)
    (fun st f st' h => by
      rcases st with _ | _ | _ | _ <;> rcases f with _ | _ | ⟨_ | _ | _⟩ <;>
        simp only [StreamStage.read] at h <;> cases h <;> simp [StreamStage.authorities]) h
  simpa [StreamStage.authorities] using this

/-! ## The source's streams are the destination's -/

theorem MigrateTo.WireReach.toRemote_valid (h : WireReach cfg w) (i : Fin n) (name : String) :
    (toRemote name (w.stream i)).Valid := by
  obtain ⟨st, hread, -⟩ := (h.wireInv.stream i).accepted
  show (toRemote name (w.stream i)).events.count .transferAuthority ≤ 1
  rw [toRemote_count, readFrom_count_authority hread]
  cases st <;> decide

variable {devices : List MigrateFrom.MigrateFromDevice} {names : Fin n → String}
  {d d' : MigrateFrom.Sys n} {a : MigrateFrom.Action n}

/-- The destination reading the streams of any state of the source, in any interleaving
of its handlers, with fewer than `2 ^ 31` devices: the step that cancels
`allRemoteDevicesReadyCtx` comes only once every remote device admitted so far has had its
`TransferAuthority` handled. -/
theorem ready_only_after_authority_of_source (hn : n < 2 ^ 31) (hw : WireReach cfg w)
    (hd : MigrateFrom.Reach devices (remoteOf names w) d)
    (hstep : MigrateFrom.step devices (remoteOf names w) d a = some d')
    (hr : d.allRemoteDevicesReady = false) (hr' : d'.allRemoteDevicesReady = true) :
    ∀ i, d'.admitted i = true → d'.authorityHandled i = true := by
  have hinv := MigrateFrom.Reach.admissionInv (fun i => hw.toRemote_valid i (names i))
    (Reachable.step a hd hstep)
  have hle := MigrateFrom.counter_nonpos_of_ready_step hstep hr hr'
  rw [hinv.int32_count hn, hinv.count] at hle
  exact imp_of_countTrue_le (fun i => (hinv.handler i).authorityAdmitted) (by omega)

/-- The destination of the migration of `oneDevice`, which it knows as `disk`. -/
def diskDestination : List MigrateFrom.MigrateFromDevice := [⟨"disk", "/disk"⟩]

/-- The destination admits `disk`, handles its `AllDevicesSent`, and cancels
`allRemoteDevicesReadyCtx` at its `TransferAuthority`. -/
theorem ready_only_after_authority_of_source_one_device :
    1 < 2 ^ 31 ∧ ∃ (w : Wire 1) (d d' : MigrateFrom.Sys 1), WireReach oneDevice w ∧
      MigrateFrom.Reach diskDestination (remoteOf (fun _ => "disk") w) d ∧
      MigrateFrom.step diskDestination (remoteOf (fun _ => "disk") w) d (.handle 0) = some d' ∧
      d.allRemoteDevicesReady = false ∧ d'.allRemoteDevicesReady = true ∧
      ∀ i, d'.admitted i = true → d'.authorityHandled i = true := by
  obtain ⟨w, hw, hs⟩ := oneDevice_reach
  have hremote : remoteOf (fun _ => "disk") w = fun _ => toRemote "disk" oneDeviceStream :=
    funext fun i => by rw [Subsingleton.elim i 0, ← hs]; rfl
  have hrun : (run (MigrateFrom.step diskDestination (remoteOf (fun _ => "disk") w))
      (MigrateFrom.Sys.init 1) [.handle 0, .handle 0, .handle 0, .handle 0]).map (fun d =>
        !d.allRemoteDevicesReady &&
          (MigrateFrom.step diskDestination (remoteOf (fun _ => "disk") w) d (.handle 0)).map
            MigrateFrom.Sys.allRemoteDevicesReady == some true) = some true := by
    rw [hremote]; decide
  obtain ⟨d, hd, hp⟩ := exists_reachable_of_run hrun
  simp only [Bool.and_eq_true, Bool.not_eq_true', beq_iff_eq, Option.map_eq_some'] at hp
  obtain ⟨hr, d', hd', hr'⟩ := hp
  exact ⟨by decide, w, d, d', hw, hd, hd', hr, hr',
    ready_only_after_authority_of_source (by decide) hw hd hd' hr hr'⟩

end Architekt
