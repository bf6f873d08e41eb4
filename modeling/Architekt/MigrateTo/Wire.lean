import Architekt.MigrateTo.DirtySync
import Architekt.MigrateTo.Latch
import Architekt.MigrateTo.Sends
import Architekt.MigrateFrom.Handlers

/-!
# The streams between the source and the destination

Each goroutine of `MigrateTo` writes to the destination through its own `ToProtocol`
(`protocol.NewToProtocol(size, uint32(index), pro)`): `SendDevInfo`, the `DirtyList`s of
its loop, `EventCustomTransferAuthority` and `EventCompleted`.  The sender of
`EventCustomAllDevicesSent` that a goroutine spawns writes on that goroutine's `to` too.
`MigrateFrom` reads one such stream per remote device.

`Wire` is the model of `MigrateTo` with these streams: a step of a device appends the
frames its call sent (`Effect.frames`), and a waiting sender appends `AllDevicesSent`.
The streams carry the frames the destination's handlers of `Architekt.MigrateFrom` read.
Left out are the `WriteAt` frames of the migrator's block transfers and the
`EventPreLock`, `EventPostLock`, `EventPreUnlock` and `EventPostUnlock` events that the
migrator's `Locker_handler` and `Unlocker_handler` send on the same `to`: the
destination's admission and readiness do not read them.

* A wire step is a `MigrateTo` step (`wireStep_sys`), so every law of `MigrateTo` holds of
  the wire, and the records the model keeps (`dirtyListed`, `authoritySent`,
  `devInfoSent`) are what the streams hold (`GhostAt`).
* Every stream is read by the protocol automaton `StreamStage.read`: `DevInfo`, then
  `DirtyList`s, then `TransferAuthority`, then `Completed`, with at most one
  `AllDevicesSent` after `DevInfo` (`WireInv`).  This is what `Architekt.Migration` needs
  to run the destination over the source's streams.
-/

namespace Architekt.MigrateTo

variable {n : Nat} {cfg : Fin n → MigrateToDevice}

/-- A frame on a device's stream: `SendDevInfo`, `DirtyList`, or `SendEvent` of an event
the destination handles. -/
inductive Frame
  | devInfo
  | dirtyList (blocks : List Nat)
  | event (e : MigrateFrom.Event)
  deriving Repr, DecidableEq

/-- The blocks of a `DirtyList` frame. -/
def Frame.blocks : Frame → List Nat
  | .dirtyList blocks => blocks
  | _ => []

/-- The event of an event frame. -/
def Frame.event? : Frame → Option MigrateFrom.Event
  | .event e => some e
  | _ => none

/-- The frames a move puts on its device's stream: the effects that record a send, and
`EventCompleted` when the goroutine leaves `complete` for `done`. -/
def Effect.frames (l : Loc) : Effect → List Frame
  | .sendDevInfo => [.devInfo]
  | .dirtyList blocks => [.dirtyList blocks]
  | .transferAuthority => [.event .transferAuthority]
  | _ => if l.pc = .done then [.event .completed] else []

/-- A migration with the streams it has written so far. -/
structure Wire (n : Nat) where
  sys : Sys n
  /-- The frames sent on each device's stream, in order. -/
  stream : Fin n → List Frame
  /-- The spawned senders of `AllDevicesSent` that have yet to send, by the device whose
  stream they write on. -/
  senders : List (Fin n)

/-- The actions of the interleaving, with the stream a waiting sender writes on. -/
inductive WireAction (n : Nat)
  | device (i : Fin n) (ok : Bool)
  | write (i : Fin n) (b : Nat)
  /-- A sender spawned by device `j` sends `AllDevicesSent`. -/
  | sendAllDevicesSent (j : Fin n)

/-- The action of `MigrateTo` that a wire action takes. -/
def WireAction.sys : WireAction n → Action n
  | .device i ok => .device i ok
  | .write i b => .write i b
  | .sendAllDevicesSent _ => .sendAllDevicesSent

/-- Nothing sent yet. -/
def Wire.init (n : Nat) : Wire n := ⟨Sys.init n, fun _ => [], []⟩

/-- One action of the interleaving, with the frames it sends. -/
def wireStep (cfg : Fin n → MigrateToDevice) (w : Wire n) : WireAction n → Option (Wire n)
  | .device i ok => (transition cfg w.sys i ok).map fun r =>
      ⟨r.2.apply (w.sys.setLoc i r.1) i,
        Function.update w.stream i (w.stream i ++ r.2.frames r.1),
        if r.2 = .spawnAllDevicesSent then w.senders ++ [i] else w.senders⟩
  | .write i b => (step cfg w.sys (.write i b)).map fun s => { w with sys := s }
  | .sendAllDevicesSent j =>
      if j ∈ w.senders then
        (step cfg w.sys .sendAllDevicesSent).map fun s =>
          ⟨s, Function.update w.stream j (w.stream j ++ [.event .allDevicesSent]),
            w.senders.erase j⟩
      else none

/-- The reachable wires of a migration of `n` devices with settings `cfg`. -/
def WireReach (cfg : Fin n → MigrateToDevice) : Wire n → Prop :=
  Reachable (Wire.init n) (wireStep cfg)

/-! ## The wire refines `MigrateTo` -/

section Refine

variable {w w' : Wire n} {a : WireAction n}

/-- One wire step is one step of `MigrateTo`. -/
theorem wireStep_sys (h : wireStep cfg w a = some w') : step cfg w.sys a.sys = some w'.sys := by
  cases a with
  | device i ok =>
      simp only [wireStep, Option.map_eq_some'] at h
      obtain ⟨r, hr, rfl⟩ := h
      simp [WireAction.sys, step, hr]
  | write i b =>
      simp only [wireStep, Option.map_eq_some'] at h
      obtain ⟨s, hs, rfl⟩ := h
      exact hs
  | sendAllDevicesSent j =>
      simp only [wireStep] at h
      split at h
      · simp only [Option.map_eq_some'] at h
        obtain ⟨s, hs, rfl⟩ := h
        exact hs
      · cases h

theorem WireReach.sys (h : WireReach cfg w) : Reach cfg w.sys := by
  induction h with
  | init => exact .init
  | step a _ hstep ih => exact .step _ ih (wireStep_sys hstep)

end Refine

/-! ## The protocol of one stream -/

/-- How far the frames read so far have taken a device's stream. -/
inductive StreamStage
  /-- Nothing read. -/
  | fresh
  /-- `DevInfo` read; `DirtyList`s may follow. -/
  | opened
  /-- `TransferAuthority` read. -/
  | authority
  /-- `Completed` read. -/
  | completed
  deriving Repr, DecidableEq

/-- The protocol automaton of a stream: `DevInfo`, `DirtyList`s, `TransferAuthority`,
`Completed`, and `AllDevicesSent` anywhere after `DevInfo`. -/
def StreamStage.read : StreamStage → Frame → Option StreamStage
  | .fresh, .devInfo => some .opened
  | .opened, .dirtyList _ => some .opened
  | .opened, .event .transferAuthority => some .authority
  | .authority, .event .completed => some .completed
  | .fresh, .event .allDevicesSent => none
  | st, .event .allDevicesSent => some st
  | _, _ => none

/-- Read frames from stage `st`: the stage after them, or `none` at a frame out of turn. -/
def readFrom : StreamStage → List Frame → Option StreamStage
  | st, [] => some st
  | st, f :: fs => (st.read f).bind fun st' => readFrom st' fs

theorem readFrom_append (st : StreamStage) (fs gs : List Frame) :
    readFrom st (fs ++ gs) = (readFrom st fs).bind fun st' => readFrom st' gs := by
  induction fs generalizing st with
  | nil => rfl
  | cons f fs ih => cases h : st.read f <;> simp [readFrom, h, ih]

theorem StreamStage.read_ne_fresh (st : StreamStage) (f : Frame) : st.read f ≠ some .fresh := by
  cases st <;> cases f <;> (try rename_i e; cases e) <;> simp [StreamStage.read]

/-- No frame takes the reader back to `fresh`. -/
theorem readFrom_ne_fresh {st : StreamStage} (hst : st ≠ .fresh) :
    ∀ {fs : List Frame}, readFrom st fs ≠ some .fresh
  | [] => by simpa [readFrom] using hst
  | f :: fs => by
      simp only [readFrom, ne_eq, Option.bind_eq_some, not_exists, not_and]
      exact fun st' hf => readFrom_ne_fresh fun h' => StreamStage.read_ne_fresh _ f (h' ▸ hf)

/-- Only the empty stream leaves the reader where it started. -/
theorem eq_nil_of_readFrom_fresh : ∀ {fs : List Frame}, readFrom .fresh fs = some .fresh → fs = []
  | [], _ => rfl
  | f :: fs, h => by
      simp only [readFrom, Option.bind_eq_some] at h
      obtain ⟨st, hst, h⟩ := h
      exact absurd h (readFrom_ne_fresh fun h' => StreamStage.read_ne_fresh _ f (h' ▸ hst))

/-- A count that each frame of kind `f₀` raises by one along the automaton. -/
theorem readFrom_count (f₀ : Frame) {r : StreamStage → Nat}
    (hr : ∀ st f st', st.read f = some st' → r st + (if f = f₀ then 1 else 0) = r st') :
    ∀ {st st' : StreamStage} {fs : List Frame}, readFrom st fs = some st' →
      r st + fs.count f₀ = r st'
  | _, _, [], h => by cases h; simp
  | st, st', f :: fs, h => by
      simp only [readFrom, Option.bind_eq_some] at h
      obtain ⟨st'', hf, hfs⟩ := h
      have := hr _ _ _ hf
      have := readFrom_count f₀ hr hfs
      simp only [List.count_cons, beq_iff_eq] at *
      omega

/-! ## What a wire step can do -/

section Steps

variable {w w' : Wire n} {a : WireAction n}

/-- Device `i`'s move to `l` with effect `e`, and the frames it sends. -/
def Wire.move (w : Wire n) (i : Fin n) (l : Loc) (e : Effect) : Wire n :=
  ⟨e.apply (w.sys.setLoc i l) i, Function.update w.stream i (w.stream i ++ e.frames l),
    if e = .spawnAllDevicesSent then w.senders ++ [i] else w.senders⟩

/-- A sender spawned by device `j` sends `AllDevicesSent` on `j`'s stream. -/
def Wire.send (w : Wire n) (j : Fin n) : Wire n :=
  ⟨{ w.sys with
      allDevicesSentSenders := w.sys.allDevicesSentSenders - 1
      allDevicesSentEvents := w.sys.allDevicesSentEvents + 1 },
    Function.update w.stream j (w.stream j ++ [.event .allDevicesSent]), w.senders.erase j⟩

/-- Every wire step is a move of one device, a write, or a waiting sender's send. -/
theorem wireStep_cases (h : wireStep cfg w a = some w') :
    (∃ i l e, Moves cfg w.sys i l e ∧ w' = w.move i l e) ∨
    (∃ i b, w.sys.suspendedVM = false ∧ w' = { w with sys := { w.sys with
        dirty := Function.update w.sys.dirty i ((w.sys.dirty i).insert b)
        written := Function.update w.sys.written i ((w.sys.written i).insert b) } }) ∨
    (∃ j ∈ w.senders, w.sys.allDevicesSentSenders ≠ 0 ∧ w' = w.send j) := by
  cases a with
  | device i ok =>
      simp only [wireStep, Option.map_eq_some'] at h
      obtain ⟨⟨l, e⟩, hr, rfl⟩ := h
      exact .inl ⟨i, l, e, transition_moves hr, rfl⟩
  | write i b =>
      simp only [wireStep, step, Option.map_eq_some'] at h
      obtain ⟨s, hs, rfl⟩ := h
      split at hs
      · cases hs
      · cases hs
        exact .inr (.inl ⟨i, b, Bool.eq_false_iff.mpr ‹_›, rfl⟩)
  | sendAllDevicesSent j =>
      simp only [wireStep] at h
      split at h
      · simp only [step, Option.map_eq_some'] at h
        obtain ⟨s, hs, rfl⟩ := h
        split at hs
        · cases hs
        · cases hs
          exact .inr (.inr ⟨j, ‹_›, ‹_›, rfl⟩)
      · cases h

@[simp] theorem Wire.move_sys (w : Wire n) (i : Fin n) (l : Loc) (e : Effect) :
    (w.move i l e).sys = e.apply (w.sys.setLoc i l) i := rfl

@[simp] theorem Wire.move_stream_self (w : Wire n) (i : Fin n) (l : Loc) (e : Effect) :
    (w.move i l e).stream i = w.stream i ++ e.frames l := by
  simp [Wire.move]

theorem Wire.move_stream_of_ne (w : Wire n) {i j : Fin n} (l : Loc) (e : Effect) (h : j ≠ i) :
    (w.move i l e).stream j = w.stream j := by
  simp [Wire.move, Function.update_noteq h]

theorem Wire.move_senders_count (w : Wire n) (i j : Fin n) (l : Loc) (e : Effect) :
    (w.move i l e).senders.count j =
      w.senders.count j + if e = .spawnAllDevicesSent ∧ j = i then 1 else 0 := by
  by_cases he : e = .spawnAllDevicesSent
  · by_cases hj : j = i
    · simp [Wire.move, he, hj]
    · simp [Wire.move, he, hj, List.count_singleton', Ne.symm hj]
  · simp [Wire.move, he]

end Steps

/-! ## Each stream follows the protocol -/

/-- The pcs before the goroutine spawns its sender of `AllDevicesSent`. -/
def Pc.early : Pc → Bool
  | .sendDevInfo | .addSent | .loadSent => true
  | _ => false

/-- How far a goroutine at `pc` has taken its stream; nothing is known of a failed one. -/
def Pc.streamStage : Pc → Option StreamStage
  | .sendDevInfo => some .fresh
  | .complete => some .authority
  | .done => some .completed
  | .failed => none
  | _ => some .opened

/-- The `AllDevicesSent` events of the senders device `i` spawned: sent, or waiting. -/
def Wire.spawned (w : Wire n) (i : Fin n) : Nat :=
  (w.stream i).count (.event .allDevicesSent) + w.senders.count i

/-- Device `i`'s stream follows the protocol as far as its pc says, and its goroutine
spawns at most one sender, after its `DevInfo`. -/
structure StreamAt (w : Wire n) (i : Fin n) : Prop where
  accepted : ∃ st, readFrom .fresh (w.stream i) = some st ∧
    ((w.sys.loc i).pc.streamStage = some st ∨ (w.sys.loc i).pc = .failed)
  early : (w.sys.loc i).pc.early = true → w.spawned i = 0
  once : w.spawned i ≤ 1
  opened : w.spawned i ≠ 0 → w.stream i ≠ []

section Moves

variable {s : Sys n} {i : Fin n} {l : Loc} {e : Effect}

/-- A move's frames take the stream from the stage of the old pc to that of the new one. -/
theorem Moves.readFrom_frames (hm : Moves cfg s i l e) {st : StreamStage}
    (hst : (s.loc i).pc.streamStage = some st ∨ (s.loc i).pc = .failed) :
    ∃ st', readFrom st (e.frames l) = some st' ∧ (l.pc.streamStage = some st' ∨ l.pc = .failed) := by
  cases hm <;> (try split) <;> simp_all [Pc.streamStage, Effect.frames, readFrom, Loc.converged] <;>
    subst hst <;> rfl

/-- Only the moves between the early pcs end at one, and none of them spawns. -/
theorem Moves.early (hm : Moves cfg s i l e) (h : l.pc.early = true) :
    (s.loc i).pc.early = true ∧ e ≠ .spawnAllDevicesSent := by
  cases hm <;> (try split at h) <;> simp_all [Pc.early, Loc.converged]

/-- The sender of `AllDevicesSent` is spawned at `loadSent`. -/
theorem Moves.loadSent_of_spawn (hm : Moves cfg s i l e) (he : e = .spawnAllDevicesSent) :
    (s.loc i).pc = .loadSent := by
  cases hm <;> (try split at he) <;> simp_all

end Moves

theorem Effect.count_frames_allDevicesSent (l : Loc) (e : Effect) :
    (e.frames l).count (.event .allDevicesSent) = 0 := by
  cases e <;> simp only [Effect.frames] <;> (try split) <;> simp

section Spawned

variable {w : Wire n} {i j k : Fin n} {l : Loc} {e : Effect}

theorem Wire.move_spawned_self (w : Wire n) (i : Fin n) (l : Loc) (e : Effect) :
    (w.move i l e).spawned i = w.spawned i + if e = .spawnAllDevicesSent then 1 else 0 := by
  simp only [Wire.spawned, Wire.move_stream_self, List.count_append,
    Effect.count_frames_allDevicesSent, Wire.move_senders_count, and_true, add_zero]
  omega

theorem Wire.move_spawned_of_ne (w : Wire n) (l : Loc) (e : Effect) (h : j ≠ i) :
    (w.move i l e).spawned j = w.spawned j := by
  simp [Wire.spawned, w.move_stream_of_ne l e h, Wire.move_senders_count, h]

/-- A stream the reader has taken past `fresh` is not empty. -/
theorem StreamAt.ne_nil (hs : StreamAt w i) (hpc : (w.sys.loc i).pc.streamStage ≠ some .fresh)
    (hfailed : (w.sys.loc i).pc ≠ .failed) : w.stream i ≠ [] := by
  obtain ⟨st, hread, hst | hst⟩ := hs.accepted
  · rintro h
    rw [h] at hread
    cases hread
    exact hpc hst
  · exact absurd hst hfailed

theorem StreamAt.move_self (hs : StreamAt w i) (hm : Moves cfg w.sys i l e) :
    StreamAt (w.move i l e) i := by
  obtain ⟨st, hread, hst⟩ := hs.accepted
  obtain ⟨st', hframes, hst'⟩ := hm.readFrom_frames hst
  have hsp := w.move_spawned_self i l e
  refine ⟨⟨st', by rw [Wire.move_stream_self, readFrom_append, hread]; exact hframes,
    by simpa using hst'⟩, fun h => ?_, ?_, fun h => ?_⟩
  · obtain ⟨hearly, hne⟩ := hm.early (by simpa using h)
    rw [hsp, if_neg hne]
    exact hs.early hearly
  · by_cases he : e = .spawnAllDevicesSent
    · rw [hsp, if_pos he, hs.early (by rw [hm.loadSent_of_spawn he]; rfl)]
    · rw [hsp, if_neg he]
      exact hs.once
  · rw [Wire.move_stream_self]
    intro hnil
    have hnil' := (List.append_eq_nil.1 hnil).1
    by_cases he : e = .spawnAllDevicesSent
    · have hpc := hm.loadSent_of_spawn he
      exact hs.ne_nil (by rw [hpc]; decide) (by rw [hpc]; decide) hnil'
    · rw [hsp, if_neg he, add_zero] at h
      exact hs.opened h hnil'

/-- `StreamAt j` reads only device `j`'s pc, stream and senders. -/
theorem StreamAt.congr {w' : Wire n} (hs : StreamAt w j) (hloc : w'.sys.loc j = w.sys.loc j)
    (hstream : w'.stream j = w.stream j) (hsp : w'.spawned j = w.spawned j) : StreamAt w' j :=
  ⟨by rw [hloc, hstream]; exact hs.accepted, by rw [hloc, hsp]; exact hs.early, hsp ▸ hs.once,
    by rw [hsp, hstream]; exact hs.opened⟩

theorem StreamAt.move_other (hs : StreamAt w j) (h : j ≠ i) : StreamAt (w.move i l e) j :=
  hs.congr (by simp [h]) (w.move_stream_of_ne l e h) (w.move_spawned_of_ne l e h)

theorem Wire.send_spawned (w : Wire n) (hj : j ∈ w.senders) (k : Fin n) :
    (w.send j).spawned k = w.spawned k := by
  have hpos := List.count_pos_iff.2 hj
  by_cases hk : k = j
  · subst hk
    simp only [Wire.spawned, Wire.send, Function.update_same, List.count_append,
      List.count_erase_self, List.count_singleton_self]
    omega
  · simp [Wire.spawned, Wire.send, Function.update_noteq hk, List.count_erase_of_ne hk]

/-- A waiting sender of device `j` writes on a stream already past `DevInfo`. -/
theorem StreamAt.send_self (hs : StreamAt w j) (hj : j ∈ w.senders) : StreamAt (w.send j) j := by
  obtain ⟨st, hread, hst⟩ := hs.accepted
  have hne : st ≠ .fresh := by
    rintro rfl
    have := List.count_pos_iff.2 hj
    exact hs.opened (by unfold Wire.spawned; omega) (eq_nil_of_readFrom_fresh hread)
  have hsp := w.send_spawned hj j
  have hstream : (w.send j).stream j = w.stream j ++ [.event .allDevicesSent] := by
    simp [Wire.send]
  refine ⟨⟨st, ?_, hst⟩, by rw [hsp]; exact hs.early, hsp ▸ hs.once, fun _ => by simp [hstream]⟩
  rw [hstream, readFrom_append, hread]
  cases st <;> first | exact absurd rfl hne | rfl

theorem StreamAt.send_other (hs : StreamAt w k) (hj : j ∈ w.senders) (h : k ≠ j) :
    StreamAt (w.send j) k :=
  hs.congr rfl (by simp [Wire.send, Function.update_noteq h]) (w.send_spawned hj k)

theorem StreamAt.write (hs : StreamAt w j) (d : Fin n → List Nat) (wr : Fin n → List Nat) :
    StreamAt { w with sys := { w.sys with dirty := d, written := wr } } j :=
  hs.congr rfl rfl rfl

end Spawned

/-! ## The model's records are read off the streams -/

section Ghost

variable {w : Wire n} {i j k : Fin n} {l : Loc} {e : Effect}

/-- The frames sent so far are what the model of `MigrateTo` records of device `i`: its
`DevInfo`, the blocks of its `DirtyList`s in order, and its `TransferAuthority`. -/
structure GhostAt (w : Wire n) (i : Fin n) : Prop where
  devInfo : w.sys.devInfoSent i = true ↔ .devInfo ∈ w.stream i
  dirtyListed : w.sys.dirtyListed i = (w.stream i).flatMap Frame.blocks
  authority : w.sys.authoritySent i = true ↔ .event .transferAuthority ∈ w.stream i

@[simp] theorem Sys.setLoc_devInfoSent (s : Sys n) (i : Fin n) (l : Loc) :
    (s.setLoc i l).devInfoSent = s.devInfoSent := rfl

@[simp] theorem Sys.setLoc_dirtyListed (s : Sys n) (i : Fin n) (l : Loc) :
    (s.setLoc i l).dirtyListed = s.dirtyListed := rfl

@[simp] theorem Sys.setLoc_authoritySent (s : Sys n) (i : Fin n) (l : Loc) :
    (s.setLoc i l).authoritySent = s.authoritySent := rfl

@[simp] theorem Sys.setLoc_allDevicesSentSenders (s : Sys n) (i : Fin n) (l : Loc) :
    (s.setLoc i l).allDevicesSentSenders = s.allDevicesSentSenders := rfl

theorem Effect.apply_devInfoSent_self (e : Effect) (s : Sys n) (i : Fin n) (l : Loc) :
    (e.apply s i).devInfoSent i = true ↔ s.devInfoSent i = true ∨ .devInfo ∈ e.frames l := by
  cases e <;> simp only [Effect.apply, Effect.frames] <;> (try split) <;> simp

theorem Effect.apply_dirtyListed_self (e : Effect) (s : Sys n) (i : Fin n) (l : Loc) :
    (e.apply s i).dirtyListed i = s.dirtyListed i ++ (e.frames l).flatMap Frame.blocks := by
  cases e <;> simp only [Effect.apply, Effect.frames] <;> (try split) <;> simp [Frame.blocks]

theorem Effect.apply_authoritySent_self (e : Effect) (s : Sys n) (i : Fin n) (l : Loc) :
    (e.apply s i).authoritySent i = true ↔
      s.authoritySent i = true ∨ .event .transferAuthority ∈ e.frames l := by
  cases e <;> simp only [Effect.apply, Effect.frames] <;> (try split) <;> simp

theorem GhostAt.move_self (hg : GhostAt w i) : GhostAt (w.move i l e) i where
  devInfo := by simp [Effect.apply_devInfoSent_self _ _ i l, hg.devInfo]
  dirtyListed := by simp [Effect.apply_dirtyListed_self _ _ i l, hg.dirtyListed]
  authority := by simp [Effect.apply_authoritySent_self _ _ i l, hg.authority]

theorem GhostAt.move_other (hg : GhostAt w j) (h : j ≠ i) : GhostAt (w.move i l e) j := by
  have := e.apply_at_of_ne (w.sys.setLoc i l) h
  simp only [Prod.mk.injEq, Sys.setLoc_dirtyListed, Sys.setLoc_authoritySent] at this
  refine ⟨?_, ?_, ?_⟩ <;>
    simp [w.move_stream_of_ne l e h, Effect.apply_devInfoSent_of_ne _ _ h, this, hg.1, hg.2, hg.3]

theorem GhostAt.send (hg : GhostAt w k) (j : Fin n) : GhostAt (w.send j) k := by
  by_cases hk : k = j
  · subst hk
    refine ⟨?_, ?_, ?_⟩ <;> simp [Wire.send, hg.1, hg.2, hg.3, Frame.blocks]
  · have hs : (w.send j).stream k = w.stream k := by simp [Wire.send, Function.update_noteq hk]
    exact ⟨hs ▸ hg.1, hs ▸ hg.2, hs ▸ hg.3⟩

end Ghost

/-! ## The wire invariant -/

theorem Effect.apply_allDevicesSentSenders (e : Effect) (s : Sys n) (i : Fin n) :
    (e.apply s i).allDevicesSentSenders =
      s.allDevicesSentSenders + if e = .spawnAllDevicesSent then 1 else 0 := by
  cases e <;> simp [Effect.apply]

/-- Every stream follows the protocol and carries what the model records, and the waiting
senders are the goroutines the model counts in `allDevicesSentSenders`. -/
structure WireInv (w : Wire n) : Prop where
  stream : ∀ i, StreamAt w i
  ghost : ∀ i, GhostAt w i
  senders : w.senders.length = w.sys.allDevicesSentSenders

theorem wireInv_init : WireInv (Wire.init n) where
  stream _ := ⟨⟨.fresh, rfl, .inl rfl⟩, fun _ => rfl, Nat.zero_le 1, fun h => absurd rfl h⟩
  ghost _ := ⟨by simp [Wire.init, Sys.init], rfl, by simp [Wire.init, Sys.init]⟩
  senders := rfl

section Inv

variable {w w' : Wire n} {a : WireAction n}

theorem WireInv.move (hw : WireInv w) (hm : Moves cfg w.sys i l e) : WireInv (w.move i l e) where
  stream j := by
    by_cases hj : j = i
    · subst hj; exact (hw.stream j).move_self hm
    · exact (hw.stream j).move_other hj
  ghost j := by
    by_cases hj : j = i
    · subst hj; exact (hw.ghost j).move_self
    · exact (hw.ghost j).move_other hj
  senders := by
    rw [Wire.move_sys, Effect.apply_allDevicesSentSenders, Sys.setLoc_allDevicesSentSenders,
      ← hw.senders]
    by_cases he : e = .spawnAllDevicesSent <;> simp [Wire.move, he]

theorem WireInv.send (hw : WireInv w) (hj : j ∈ w.senders) : WireInv (w.send j) where
  stream k := by
    by_cases hk : k = j
    · subst hk; exact (hw.stream k).send_self hj
    · exact (hw.stream k).send_other hj hk
  ghost k := (hw.ghost k).send j
  senders := by simp [Wire.send, List.length_erase_of_mem hj, hw.senders]

theorem WireInv.step (hw : WireInv w) (h : wireStep cfg w a = some w') : WireInv w' := by
  obtain ⟨i, l, e, hm, rfl⟩ | ⟨i, b, -, rfl⟩ | ⟨j, hj, -, rfl⟩ := wireStep_cases h
  · exact hw.move hm
  · exact ⟨fun j => (hw.stream j).write _ _,
      fun j => ⟨(hw.ghost j).1, (hw.ghost j).2, (hw.ghost j).3⟩, hw.senders⟩
  · exact hw.send hj

theorem WireReach.wireInv (h : WireReach cfg w) : WireInv w :=
  Reachable.induct_inv wireInv_init (fun _ _ _ _ hw hs => hw.step hs) h

end Inv

/-! ## A migration of one device -/

/-- One device, not the memory device, with `MaxDirtyBlocks = 1` and
`MinCycles = MaxCycles = 0`: its first empty sample marks it ready. -/
def oneDevice : Fin 1 → MigrateToDevice := fun _ => ⟨⟨1, 0, 0⟩, false⟩

/-- The migration of `oneDevice` with no writes: `DevInfo`, the sender's `AllDevicesSent`,
an empty sample that marks the device, the suspend sequence, another empty sample,
`TransferAuthority` and `Completed`. -/
def oneDeviceSchedule : List (WireAction 1) :=
  let d : WireAction 1 := .device 0 true
  [d, d, d, .sendAllDevicesSent 0, d, d, d, d, d, d, d, d, d, d, d, d, d, d, d, d]

/-- The stream `oneDeviceSchedule` writes. -/
def oneDeviceStream : List Frame :=
  [.devInfo, .event .allDevicesSent, .event .transferAuthority, .event .completed]

theorem oneDevice_reach : ∃ w, WireReach oneDevice w ∧ w.stream 0 = oneDeviceStream := by
  have hrun : (run (wireStep oneDevice) (Wire.init 1) oneDeviceSchedule).map
      (fun w => w.stream 0 == oneDeviceStream) = some true := by decide
  obtain ⟨w, hw, hs⟩ := exists_reachable_of_run hrun
  exact ⟨w, hw, beq_iff_eq.1 hs⟩

end Architekt.MigrateTo
