import Architekt.MigrateTo.DirtySync
import Architekt.MigrateTo.Latch
import Architekt.MigrateTo.Sends

/-!
# The mounter's `MigrateTo`

`MigratableMounter.MigrateTo` runs, for each device, the goroutine of the peer's
`MigrateTo` (`Architekt.MigrateTo.Model`) with two differences:

* the top of its dirty loop has no `Msync` of the memory device;
* its `suspendAndMsyncVM` suspends no agent and makes no final `Msync`:

```text
suspendAndMsyncVM := sync.OnceValue(func() error {
	suspendedVMLock.Lock(); suspendedVM = true; suspendedVMLock.Unlock()
	close(suspendedVMCh)
	return nil
})
```

The mounter is modelled on the peer's state: its own `transition` for the two
differences, the peer's for the rest.  The body of `suspendAndMsyncVM` is the peer's with
its first two stages left out: the caller that starts the latch goes straight to
`suspendedVM = true` and then returns `nil`, while later callers wait in `once.Do` until
it has (the peer's `transition` blocks them while the latch runs).

## Strategy

`asPeer` reads a state of the mounter as the peer records it: the agent suspension and
the final `Msync` count as done once the body of `suspendAndMsyncVM` has started.  One
step of the mounter is a run of the peer (`step_simulates`): the same step, or, for the
start of the body, the peer's first three steps of its suspend sequence with
`SuspendAndCloseAgentServer` and the final `Msync` returning `nil`.  So every reachable
state of the mounter, read `asPeer`, is a reachable state of the peer (`reach_asPeer`),
and the peer's laws of the hand-over hold of the mounter.
-/

namespace Architekt.Mounter

open MigrateTo

variable {n : Nat} {cfg : Fin n → MigrateToDevice}

/-- The stages of the peer's suspend sequence that the mounter's body lacks:
`SuspendAndCloseAgentServer` and the final `Msync`. -/
def Pc.peerOnly : Pc → Bool
  | .suspend .suspendAgent | .suspend .msync => true
  | _ => false

/-- The next step of device `i`'s goroutine in the mounter: its new local variables and the
effect of the step on the shared state. -/
def transition (cfg : Fin n → MigrateToDevice) (s : Sys n) (i : Fin n) (ok : Bool) :
    Option (Loc × Effect) :=
  let l := s.loc i
  match l.pc, s.latch with
  | .msync, _ => some ({ l with pc := .getLatestDirty }, .skip)
  | .checkReady, .idle =>
      if int32 n ≤ int32 s.devicesLeftToTransferAuthorityFor then
        some ({ l with pc := .suspend .markSuspended }, .startSuspend)
      else MigrateTo.transition cfg s i ok
  | .suspend .suspendAgent, _ | .suspend .msync, _ => none
  | _, _ => MigrateTo.transition cfg s i ok

/-- One action of the mounter's interleaving; writes and the senders of `AllDevicesSent`
are the peer's. -/
def step (cfg : Fin n → MigrateToDevice) (s : Sys n) : Action n → Option (Sys n)
  | .device i ok => (transition cfg s i ok).map fun r => r.2.apply (s.setLoc i r.1) i
  | a => MigrateTo.step cfg s a

/-- The states of the mounter's migration of `n` devices with settings `cfg`. -/
def Reach (cfg : Fin n → MigrateToDevice) : Sys n → Prop :=
  Reachable (Sys.init n) (step cfg)

/-! ## The mounter read as the peer -/

/-- The peer's record of a state of the mounter: with no agent and no memory to `Msync`,
both count as done once the body of `suspendAndMsyncVM` has started. -/
def asPeer (s : Sys n) : Sys n :=
  { s with agentSuspended := decide (0 < s.suspendStarts), finalMsynced := decide (0 < s.suspendStarts) }

/-- The effects that set the flags `asPeer` derives from `suspendStarts`, or raise it. -/
def Effect.setsSuspend : Effect → Bool
  | .agentSuspended | .finalMsynced | .startSuspend => true
  | _ => false

theorem Effect.apply_asPeer {e : Effect} (he : Effect.setsSuspend e = false) (t : Sys n)
    (i : Fin n) : e.apply (asPeer t) i = asPeer (e.apply t i) := by
  cases e <;> first | rfl | cases he

/-- Outside the stages the mounter lacks, and unless it starts the latch, no move of the
peer sets the suspend flags. -/
theorem Moves.setsSuspend {s : Sys n} {i : Fin n} {l : Loc} {e : Effect}
    (hm : Moves cfg s i l e) (hpc : Pc.peerOnly (s.loc i).pc = false)
    (hready : (s.loc i).pc = .checkReady → s.latch = .idle →
      int32 s.devicesLeftToTransferAuthorityFor < int32 n) :
    Effect.setsSuspend e = false := by
  cases hm with
  | startSuspend hc hle hl => exact absurd hle (not_le.2 (hready hc hl))
  | agentSuspended hc | finalMsynced hc => simp [hc, Pc.peerOnly] at hpc
  | converge _ => split <;> rfl
  | _ => rfl

/-- What a step of the mounter's goroutine can do: the top of its loop, the start of the
body of `suspendAndMsyncVM`, or a move of the peer's goroutine outside the stages the
mounter lacks other than the start of the body. -/
theorem transition_cases {s : Sys n} {i : Fin n} {ok : Bool} {l : Loc} {e : Effect}
    (h : transition cfg s i ok = some (l, e)) :
    ((s.loc i).pc = .msync ∧ l = { s.loc i with pc := .getLatestDirty } ∧ e = .skip) ∨
    ((s.loc i).pc = .checkReady ∧ s.latch = .idle ∧
      int32 n ≤ int32 s.devicesLeftToTransferAuthorityFor ∧
      l = { s.loc i with pc := .suspend .markSuspended } ∧ e = .startSuspend) ∨
    (Pc.peerOnly (s.loc i).pc = false ∧
      ((s.loc i).pc = .checkReady → s.latch = .idle →
        int32 s.devicesLeftToTransferAuthorityFor < int32 n) ∧
      MigrateTo.transition cfg s i ok = some (l, e)) := by
  simp only [transition] at h
  split at h
  case h_1 hpc => cases h; exact .inl ⟨hpc, rfl, rfl⟩
  case h_2 hpc hl =>
    split at h
    · cases h; exact .inr (.inl ⟨hpc, hl, ‹_›, rfl, rfl⟩)
    · exact .inr (.inr ⟨by simp [hpc, Pc.peerOnly], fun _ _ => by omega, h⟩)
  case h_3 | h_4 => cases h
  case h_5 _ hagent hmsync hidle =>
    refine .inr (.inr ⟨?_, fun hc hl => (hidle hc hl).elim, h⟩)
    unfold Pc.peerOnly
    split <;> simp_all

section Simulation

variable {s s' : Sys n} {i : Fin n} {ok : Bool}

/-- A step of the peer that sets no suspend flag is the same step read `asPeer`. -/
theorem peer_step_asPeer {a : Action n} (h : MigrateTo.step cfg s a = some s')
    (hpc : ∀ i ok, a = .device i ok → Pc.peerOnly (s.loc i).pc = false ∧
      ((s.loc i).pc = .checkReady → s.latch = .idle →
        int32 s.devicesLeftToTransferAuthorityFor < int32 n)) :
    MigrateTo.step cfg (asPeer s) a = some (asPeer s') := by
  cases a with
  | device i ok =>
      simp only [MigrateTo.step, Option.map_eq_some'] at h ⊢
      obtain ⟨⟨l, e⟩, hr, rfl⟩ := h
      obtain ⟨hp, hready⟩ := hpc i ok rfl
      exact ⟨(l, e), hr, Effect.apply_asPeer
        (Moves.setsSuspend (transition_moves hr) hp hready) (s.setLoc i l) i⟩
  | write i b =>
      simp only [MigrateTo.step] at h ⊢
      split at h <;> cases h
      simp_all [asPeer]
  | sendAllDevicesSent =>
      simp only [MigrateTo.step] at h ⊢
      split at h <;> cases h
      simp_all [asPeer]

/-- The start of the mounter's body of `suspendAndMsyncVM` is the peer's start of its
suspend sequence, with `SuspendAndCloseAgentServer` and the final `Msync` returning
`nil`. -/
theorem suspend_simulates (hpc : (s.loc i).pc = .checkReady) (hl : s.latch = .idle)
    (hn : int32 n ≤ int32 s.devicesLeftToTransferAuthorityFor) :
    run (MigrateTo.step cfg) (asPeer s) [.device i true, .device i true, .device i true] =
      some (asPeer (Effect.startSuspend.apply
        (s.setLoc i { s.loc i with pc := .suspend .markSuspended }) i)) := by
  simp only [run, MigrateTo.step, MigrateTo.transition, Effect.apply_loc, Sys.setLoc_loc_self,
    asPeer, hpc, hl, hn, ↓reduceIte, Option.map_some', Option.some_bind]
  simp only [Effect.apply, Sys.setLoc, asPeer, Function.update_idem]
  simp

/-- One step of the mounter is a run of the peer, read `asPeer`. -/
theorem step_simulates {a : Action n} (h : step cfg s a = some s') :
    ∃ as, run (MigrateTo.step cfg) (asPeer s) as = some (asPeer s') := by
  cases a with
  | device i ok =>
      simp only [step, Option.map_eq_some'] at h
      obtain ⟨⟨l, e⟩, hr, rfl⟩ := h
      rcases transition_cases hr with ⟨hpc, rfl, rfl⟩ | ⟨hpc, hl, hn, rfl, rfl⟩ |
        ⟨hpc, hready, he⟩
      · exact ⟨[.device i true], by
          simp [run, MigrateTo.step, MigrateTo.transition, asPeer, Sys.setLoc, Effect.apply, hpc]⟩
      · exact ⟨_, suspend_simulates hpc hl hn⟩
      · have hstep : MigrateTo.step cfg s (.device i ok) = some (e.apply (s.setLoc i l) i) := by
          simp [MigrateTo.step, he]
        exact ⟨[.device i ok], by
          simp [run, peer_step_asPeer hstep (by rintro _ _ ⟨⟩; exact ⟨hpc, hready⟩)]⟩
  | write i b => exact ⟨[.write i b], by simp [run, peer_step_asPeer (a := .write i b) h nofun]⟩
  | sendAllDevicesSent =>
      exact ⟨[.sendAllDevicesSent], by
        simp [run, peer_step_asPeer (a := .sendAllDevicesSent) h nofun]⟩

end Simulation

/-- Every reachable state of the mounter, read as the peer records it, is a reachable state
of the peer. -/
theorem reach_asPeer {s : Sys n} (h : Reach cfg s) : MigrateTo.Reach cfg (asPeer s) := by
  induction h with
  | init => exact .init
  | step a _ hstep ih =>
      obtain ⟨as, has⟩ := step_simulates hstep
      exact ih.run has

/-! ## The peer's laws hold of the mounter -/

section Laws

variable {s : Sys n}

/-- The laws of the hand-over, read off a state of the mounter: the body of
`suspendAndMsyncVM` starts at most once and only after every device is marked ready, a
device sends `TransferAuthority` only once the VM is suspended, `AllDevicesSent` is sent
only after every `DevInfo`, and once a device has sent `TransferAuthority` every block
written to it is in one of its `DirtyList`s or still in its dirty set. -/
structure HandoverLaws (s : Sys n) : Prop where
  suspendOnce : s.suspendStarts ≤ 1
  suspendAfterAllMarked : 0 < s.suspendStarts → AllMarked s
  authorityAfterSuspend : ∀ i, s.authoritySent i = true → s.suspendedVM = true
  allSentAfterDevInfos :
    0 < s.allDevicesSentSenders + s.allDevicesSentEvents → ∀ i, s.devInfoSent i = true
  writtenListedOrDirty :
    ∀ d, s.authoritySent d = true → ∀ b ∈ s.written d, b ∈ s.dirtyListed d ∨ b ∈ s.dirty d

/-- Every reachable state of the mounter's migration of `n` devices, `1 ≤ n < 2 ^ 31`,
obeys the peer's laws of the hand-over. -/
theorem handover_laws (hn : 0 < n) (h32 : n < 2 ^ 31) (h : Reach cfg s) : HandoverLaws s :=
  have hp := reach_asPeer h
  ⟨(hp.latchLaw hn h32).atMostOnce, (hp.latchLaw hn h32).afterAllMarked,
    fun i hi => (hp.authorityLaw.afterSuspend i hi).2.2, (Reach.sendInv h32 hp).allSent,
    fun _ hd => reach_written_listed_or_dirty hp hd⟩

end Laws

/-! ## A migration of one device -/

/-- One device, not the memory device, with `MaxDirtyBlocks = 1` and
`MinCycles = MaxCycles = 0`: its first empty sample marks it ready. -/
def singleDevice : Fin 1 → MigrateToDevice := fun _ => ⟨⟨1, 0, 0⟩, false⟩

/-- The mounter's migration of `singleDevice` up to its first `suspendAndMsyncVM` check:
`DevInfo`, the sender's `AllDevicesSent`, and an empty sample that marks the device. -/
def toCheckReady : List (Action 1) :=
  let d : Action 1 := .device 0 true
  [d, d, d, .sendAllDevicesSent, d, d, d, d, d, d]

/-- The whole migration: then the three steps of the body of `suspendAndMsyncVM`, another
empty sample, `TransferAuthority` and `Completed`. -/
def toDone : List (Action 1) := toCheckReady ++ List.replicate 8 (.device 0 true)

theorem singleDevice_done :
    ∃ s, Reach singleDevice s ∧ s.suspendStarts = 1 ∧ s.authoritySent 0 = true := by
  have hrun : (run (step singleDevice) (Sys.init 1) toDone).map
      (fun s => s.suspendStarts == 1 && s.authoritySent 0) = some true := by decide
  obtain ⟨s, hs, hp⟩ := exists_reachable_of_run hrun
  simp only [Bool.and_eq_true, beq_iff_eq] at hp
  exact ⟨s, hs, hp⟩

/-- The peer reaches the end of the mounter's migration of one device. -/
theorem reach_asPeer_single_device :
    ∃ s, Reach singleDevice s ∧ s.authoritySent 0 = true ∧
      MigrateTo.Reach singleDevice (asPeer s) := by
  obtain ⟨s, hs, -, hauth⟩ := singleDevice_done
  exact ⟨s, hs, hauth, reach_asPeer hs⟩

/-- The laws at the end of the mounter's migration of one device. -/
theorem handover_laws_single_device :
    ∃ s, Reach singleDevice s ∧ s.suspendStarts = 1 ∧ s.authoritySent 0 = true ∧
      0 < 1 ∧ 1 < 2 ^ 31 ∧ HandoverLaws s := by
  obtain ⟨s, hs, hstarts, hauth⟩ := singleDevice_done
  exact ⟨s, hs, hstarts, hauth, Nat.one_pos, by decide, handover_laws Nat.one_pos (by decide) hs⟩

end Architekt.Mounter
