import Architekt.MigrateTo.Model

/-!
# The ready counter and the suspend latch of `MigrateTo`

Four invariants of every reachable state, each proved from `Moves` by a frame lemma for the
moves that do not touch it and a few cases for those that do:

* `MarkInv`: each device's `totalCycles`, `cyclesBelowDirtyBlockTreshold` and mark are the
  convergence `policy` over the sizes of the samples it has taken, and
  `devicesLeftToTransferAuthorityFor` counts the marked devices (the `sync.OnceFunc` raises
  it once per device).
* `PhaseInv`: the latch and the suspend sequence.  While the latch is idle no device runs
  the sequence; while it runs, exactly one device does, and `agentSuspended`,
  `finalMsynced` and `suspendedVM` are set exactly for the stages it has passed; once it
  has returned `nil` all three are set, and once it has returned an error `suspendedVM` is
  not.
* `PendingInv`: a latch that has started was started with every device marked, and while
  every device is marked and the latch is idle, some device is between its mark and its
  call of `suspendAndMsyncVM`.  It reads the `atomic.Int32` ready counter as Go loads it,
  and so holds for fewer than `2 ^ 31` devices (`MarkInv.allMarked_iff_int32`).
* `AuthorityInv`: a device only reaches the `TransferAuthority` send, and only sends it,
  once `suspendedVM` is set.
-/

namespace Architekt.MigrateTo

variable {n : Nat} {cfg : Fin n → MigrateToDevice}

/-- The device is running `suspendAndMsyncVM`'s body. -/
def Pc.inSuspend : Pc → Bool
  | .suspend _ => true
  | _ => false

/-! ## The ready counter -/

/-- A device's convergence state is the policy over the samples it has taken. -/
def Loc.FollowsPolicy (t : Thresholds) (l : Loc) : Prop :=
  l.cycles = (Cycles.policy t l.samples).1 ∧ l.marked = (Cycles.policy t l.samples).2

theorem Loc.FollowsPolicy.converged {t : Thresholds} {l : Loc} (h : l.FollowsPolicy t) :
    (l.converged t).FollowsPolicy t := by
  obtain ⟨hc, hm⟩ := h
  simp only [Loc.FollowsPolicy, Loc.converged, Loc.marks, Cycles.policy_append_singleton, ← hc, ← hm,
    and_self]

/-- Each device's convergence state is the policy over its samples, and the ready counter
counts the marked devices. -/
structure MarkInv (cfg : Fin n → MigrateToDevice) (s : Sys n) : Prop where
  policy : ∀ i, (s.loc i).FollowsPolicy (cfg i).thresholds
  ready : s.devicesLeftToTransferAuthorityFor = countTrue fun i => (s.loc i).marked

theorem markInv_init : MarkInv cfg (Sys.init n) :=
  ⟨fun _ => ⟨rfl, rfl⟩, by simp [Sys.init, Loc.init, countTrue]⟩

theorem Sys.setLoc_marked (s : Sys n) (i : Fin n) (l : Loc) :
    (fun j => ((s.setLoc i l).loc j).marked) = Function.update (fun j => (s.loc j).marked) i l.marked := by
  funext j
  by_cases hj : j = i
  · subst hj; simp
  · simp [hj]

section
variable {s : Sys n} {i : Fin n} {l : Loc} {e : Effect}

/-- A move that keeps the device's convergence state and the counter keeps `MarkInv`. -/
theorem MarkInv.frame (hs : MarkInv cfg s)
    (hl : l.cycles = (s.loc i).cycles ∧ l.marked = (s.loc i).marked ∧
      l.samples = (s.loc i).samples)
    (he : (e.apply (s.setLoc i l) i).devicesLeftToTransferAuthorityFor =
      s.devicesLeftToTransferAuthorityFor) :
    MarkInv cfg (e.apply (s.setLoc i l) i) := by
  refine ⟨fun j => ?_, ?_⟩
  · by_cases hj : j = i
    · subst hj
      simpa [Loc.FollowsPolicy, hl.1, hl.2.1, hl.2.2] using hs.policy j
    · simpa [hj] using hs.policy j
  · rw [he, hs.ready, Effect.apply_loc, Sys.setLoc_marked, hl.2.1, Function.update_eq_self]

theorem MarkInv.move (hs : MarkInv cfg s) (hm : Moves cfg s i l e) :
    MarkInv cfg (e.apply (s.setLoc i l) i) := by
  cases hm with
  | converge _ =>
      refine ⟨fun j => ?_, ?_⟩
      · by_cases hj : j = i
        · subst hj
          simpa using (hs.policy j).converged
        · simpa [hj] using hs.policy j
      · rw [Effect.apply_loc, Sys.setLoc_marked]
        by_cases hnew : (s.loc i).marks (cfg i).thresholds && !(s.loc i).marked
        · simp only [Bool.and_eq_true, Bool.not_eq_true'] at hnew
          rw [if_pos (by simp [hnew])]
          simp only [Effect.apply, Loc.converged, hnew.1, hnew.2, Bool.or_true]
          exact (congrArg (· + 1) hs.ready).trans
            (countTrue_update_true (f := fun j => (s.loc j).marked) hnew.2).symm
        · rw [if_neg hnew]
          have hmarked : ((s.loc i).converged (cfg i).thresholds).marked = (s.loc i).marked := by
            cases h : (s.loc i).marked <;> simp_all [Loc.converged]
          rw [hmarked, Function.update_eq_self]
          exact hs.ready
  | _ => exact hs.frame ⟨rfl, rfl, rfl⟩ rfl

end

/-! ## The suspend sequence -/

/-- The state of the suspend sequence, by the state of the latch. -/
structure PhaseInv (s : Sys n) : Prop where
  idle : s.latch = .idle →
    s.suspendStarts = 0 ∧ s.agentSuspended = false ∧ s.finalMsynced = false ∧ s.suspendedVM = false
  started : s.latch ≠ .idle → s.suspendStarts = 1
  runner : ∀ i, (s.loc i).pc.inSuspend = true → s.latch = .running
  running : s.latch = .running →
    ∃ i st, (s.loc i).pc = .suspend st ∧ (s.agentSuspended, s.finalMsynced, s.suspendedVM) = st.flags
  unique : ∀ i j, (s.loc i).pc.inSuspend = true → (s.loc j).pc.inSuspend = true → i = j
  ok : s.latch = .returned true →
    s.agentSuspended = true ∧ s.finalMsynced = true ∧ s.suspendedVM = true
  error : s.latch = .returned false → s.suspendedVM = false

theorem phaseInv_init : PhaseInv (Sys.init n) := by
  refine ⟨fun _ => ⟨rfl, rfl, rfl, rfl⟩, fun h => absurd rfl h, ?_, ?_, ?_, ?_, ?_⟩ <;>
    simp [Sys.init, Loc.init, Pc.inSuspend]

section
variable {s : Sys n} {i : Fin n} {l : Loc} {e : Effect}

/-- The device running the suspend sequence is the latch's runner, and the flags are
those of its stage. -/
theorem PhaseInv.of_suspend (hs : PhaseInv s) {st : SuspendStage} (hpc : (s.loc i).pc = .suspend st) :
    s.latch = .running ∧ s.suspendStarts = 1 ∧
      (s.agentSuspended, s.finalMsynced, s.suspendedVM) = st.flags := by
  have hrun := hs.runner i (by simp [hpc, Pc.inSuspend])
  obtain ⟨j, st', hj, hflags⟩ := hs.running hrun
  obtain rfl := hs.unique i j (by simp [hpc, Pc.inSuspend]) (by simp [hj, Pc.inSuspend])
  rw [hpc] at hj
  cases hj
  exact ⟨hrun, hs.started (by simp [hrun]), hflags⟩

/-- After a move of device `i`, a device other than `i` is where it was. -/
theorem loc_apply_setLoc_of_ne {j : Fin n} (h : j ≠ i) : ((e.apply (s.setLoc i l) i).loc j) = s.loc j := by
  simp [h]

/-- A move outside the suspend sequence that leaves the latch and the flags alone keeps
`PhaseInv`. -/
theorem PhaseInv.frame (hs : PhaseInv s) (hold : (s.loc i).pc.inSuspend = false)
    (hnew : l.pc.inSuspend = false)
    (he : ((e.apply (s.setLoc i l) i).latch, (e.apply (s.setLoc i l) i).suspendStarts,
      (e.apply (s.setLoc i l) i).agentSuspended, (e.apply (s.setLoc i l) i).finalMsynced,
      (e.apply (s.setLoc i l) i).suspendedVM) =
      (s.latch, s.suspendStarts, s.agentSuspended, s.finalMsynced, s.suspendedVM)) :
    PhaseInv (e.apply (s.setLoc i l) i) := by
  simp only [Prod.mk.injEq] at he
  obtain ⟨hl, hst, ha, hf, hv⟩ := he
  have hpc : ∀ j, ((e.apply (s.setLoc i l) i).loc j).pc.inSuspend = true →
      j ≠ i ∧ (e.apply (s.setLoc i l) i).loc j = s.loc j := by
    intro j hj
    by_cases hji : j = i
    · subst hji; simp [hnew] at hj
    · exact ⟨hji, loc_apply_setLoc_of_ne hji⟩
  refine ⟨?_, ?_, fun j hj => ?_, fun h => ?_, fun j k hj hk => ?_, ?_, ?_⟩
  · rw [hl, hst, ha, hf, hv]; exact hs.idle
  · rw [hl, hst]; exact hs.started
  · rw [hl]; exact hs.runner j (by rw [← (hpc j hj).2]; exact hj)
  · rw [hl] at h
    obtain ⟨j, st, hj, hflags⟩ := hs.running h
    have hji : j ≠ i := by rintro rfl; simp [hj, Pc.inSuspend] at hold
    exact ⟨j, st, by rw [loc_apply_setLoc_of_ne hji, hj], by rw [ha, hf, hv, hflags]⟩
  · rw [(hpc j hj).2] at hj; rw [(hpc k hk).2] at hk; exact hs.unique j k hj hk
  · rw [hl, ha, hf, hv]; exact hs.ok
  · rw [hl, hv]; exact hs.error

theorem Pc.inSuspend_of_mem_fallible {p : Pc} (h : p ∈ Pc.fallible) : p.inSuspend = false := by
  simp only [Pc.fallible, List.mem_cons, List.mem_singleton, List.not_mem_nil, or_false] at h
  rcases h with rfl | rfl | rfl | rfl | rfl | rfl | rfl <;> rfl

/-- If no device but `i` is in the suspend sequence, then after `i`'s move no other device
is in it. -/
theorem eq_of_inSuspend_apply (hnone : ∀ m, m ≠ i → (s.loc m).pc.inSuspend = false) {j : Fin n}
    (hj : ((e.apply (s.setLoc i l) i).loc j).pc.inSuspend = true) : j = i := by
  by_contra hji
  rw [loc_apply_setLoc_of_ne hji, hnone j hji] at hj
  cases hj

/-- While device `i` runs the suspend sequence, no other device does. -/
theorem PhaseInv.others {st : SuspendStage} (hs : PhaseInv s) (hpc : (s.loc i).pc = .suspend st) :
    ∀ m, m ≠ i → (s.loc m).pc.inSuspend = false := fun m hm =>
  Bool.eq_false_iff.mpr fun h => hm (hs.unique m i h (by simp [hpc, Pc.inSuspend]))

/-- The runner moves from `st` to stage `st'`, and the flags move with it. -/
theorem PhaseInv.advance (hs : PhaseInv s) {st st' : SuspendStage}
    (hpc : (s.loc i).pc = .suspend st) (hl : l.pc = .suspend st')
    (he : ((e.apply (s.setLoc i l) i).latch, (e.apply (s.setLoc i l) i).suspendStarts) =
      (s.latch, s.suspendStarts))
    (hflags : ((e.apply (s.setLoc i l) i).agentSuspended, (e.apply (s.setLoc i l) i).finalMsynced,
      (e.apply (s.setLoc i l) i).suspendedVM) = st'.flags) :
    PhaseInv (e.apply (s.setLoc i l) i) := by
  obtain ⟨hrun, hstarts, -⟩ := hs.of_suspend hpc
  simp only [Prod.mk.injEq] at he
  refine ⟨fun h => ?_, fun _ => he.2.trans hstarts, fun _ _ => he.1.trans hrun,
    fun _ => ⟨i, st', by simpa using hl, hflags⟩,
    fun j k hj hk =>
      (eq_of_inSuspend_apply (hs.others hpc) hj).trans (eq_of_inSuspend_apply (hs.others hpc) hk).symm,
    fun h => ?_, fun h => ?_⟩ <;> rw [he.1, hrun] at h <;> cases h

/-- The runner returns, with or without an error. -/
theorem PhaseInv.leave (hs : PhaseInv s) {st : SuspendStage} (hpc : (s.loc i).pc = .suspend st)
    (hl : l.pc.inSuspend = false) (hstarts : (e.apply (s.setLoc i l) i).suspendStarts = s.suspendStarts)
    (hret : ∃ ok, (e.apply (s.setLoc i l) i).latch = .returned ok ∧
      (ok = true → (e.apply (s.setLoc i l) i).agentSuspended = true ∧
        (e.apply (s.setLoc i l) i).finalMsynced = true ∧ (e.apply (s.setLoc i l) i).suspendedVM = true) ∧
      (ok = false → (e.apply (s.setLoc i l) i).suspendedVM = false)) :
    PhaseInv (e.apply (s.setLoc i l) i) := by
  obtain ⟨-, hst, -⟩ := hs.of_suspend hpc
  obtain ⟨ok, hlatch, hok, herr⟩ := hret
  have hnone : ∀ j, ((e.apply (s.setLoc i l) i).loc j).pc.inSuspend = true → False := by
    intro j hj
    obtain rfl := eq_of_inSuspend_apply (hs.others hpc) hj
    simp [hl] at hj
  refine ⟨fun h => ?_, fun _ => hstarts.trans hst, fun j hj => (hnone j hj).elim, fun h => ?_,
    fun j _ hj _ => (hnone j hj).elim, fun h => hok ?_, fun h => herr ?_⟩
  all_goals rw [hlatch] at h; cases h; try rfl

theorem PhaseInv.move (hs : PhaseInv s) (hm : Moves cfg s i l e) :
    PhaseInv (e.apply (s.setLoc i l) i) := by
  cases hm with
  | startSuspend _ _ hidle =>
      obtain ⟨hst, ha, hf, hv⟩ := hs.idle hidle
      have hnone : ∀ m, m ≠ i → (s.loc m).pc.inSuspend = false := fun m _ =>
        Bool.eq_false_iff.mpr fun h => by simp [hs.runner m h] at hidle
      exact ⟨nofun, fun _ => by simp [Effect.apply, Sys.setLoc, hst], fun _ _ => rfl,
        fun _ => ⟨i, .suspendAgent, by simp, by simp [Effect.apply, Sys.setLoc, SuspendStage.flags, ha, hf, hv]⟩,
        fun j k hj hk => (eq_of_inSuspend_apply hnone hj).trans (eq_of_inSuspend_apply hnone hk).symm,
        nofun, nofun⟩
  | agentSuspended hpc | finalMsynced hpc | markSuspended hpc =>
      obtain ⟨-, -, hflags⟩ := hs.of_suspend hpc
      simp only [SuspendStage.flags, Prod.mk.injEq] at hflags
      exact hs.advance hpc rfl rfl (by simp [Effect.apply, Sys.setLoc, SuspendStage.flags, hflags])
  | suspendError hpc =>
      rcases hpc with hpc | hpc <;>
      · obtain ⟨-, -, hflags⟩ := hs.of_suspend hpc
        simp only [SuspendStage.flags, Prod.mk.injEq] at hflags
        exact hs.leave hpc rfl rfl ⟨false, rfl, nofun, fun _ => hflags.2.2⟩
  | finish hpc =>
      obtain ⟨-, -, hflags⟩ := hs.of_suspend hpc
      simp only [SuspendStage.flags, Prod.mk.injEq] at hflags
      exact hs.leave hpc rfl rfl ⟨true, rfl, fun _ => hflags, nofun⟩
  | fail hpc => exact hs.frame (Pc.inSuspend_of_mem_fallible hpc) rfl rfl
  | _ =>
      exact hs.frame (by simp [*, Pc.inSuspend]) (by first | rfl | (split <;> rfl))
        (by first | rfl | (split <;> rfl))

end

/-! ## Readiness and the start of the suspend sequence -/

/-- Every device is marked ready for authority transfer. -/
def AllMarked (s : Sys n) : Prop := ∀ i, (s.loc i).marked = true

/-- The latch starts only once every device is marked, and while every device is marked
and it has not started, a device is on its way to start it. -/
structure PendingInv (s : Sys n) : Prop where
  marked : s.latch ≠ .idle → AllMarked s
  pending : AllMarked s → s.latch = .idle → ∃ j, (s.loc j).pc = .checkReady

theorem pendingInv_init (hn : 0 < n) : PendingInv (Sys.init n) :=
  ⟨fun h => absurd rfl h, fun h => absurd (h ⟨0, hn⟩) (by simp [Sys.init, Loc.init])⟩

theorem MarkInv.allMarked_iff {s : Sys n} (hs : MarkInv cfg s) :
    AllMarked s ↔ s.devicesLeftToTransferAuthorityFor = n := by
  rw [AllMarked, ← le_countTrue_iff, ← hs.ready]
  exact ⟨fun h => le_antisymm (hs.ready ▸ countTrue_le _) h, ge_of_eq⟩

/-- Below `2 ^ 31` devices, the counter as Go loads it has reached `int32(n)` exactly when
every device is marked. -/
theorem MarkInv.allMarked_iff_int32 {s : Sys n} (hs : MarkInv cfg s) (h32 : n < 2 ^ 31) :
    AllMarked s ↔ int32 n ≤ int32 s.devicesLeftToTransferAuthorityFor := by
  rw [int32_le_int32_iff h32 ((hs.ready ▸ countTrue_le _).trans_lt h32), hs.allMarked_iff]
  exact ⟨ge_of_eq, fun h => le_antisymm (hs.ready ▸ countTrue_le _) h⟩

section
variable {s : Sys n} {i : Fin n} {l : Loc} {e : Effect}

theorem allMarked_apply_of_marked (hl : (s.loc i).marked = true → l.marked = true)
    (h : AllMarked s) : AllMarked (e.apply (s.setLoc i l) i) := by
  intro j
  by_cases hj : j = i
  · subst hj; simpa using hl (h j)
  · simpa [hj] using h j

theorem allMarked_of_apply (hl : l.marked = (s.loc i).marked)
    (h : AllMarked (e.apply (s.setLoc i l) i)) : AllMarked s := by
  intro j
  by_cases hj : j = i
  · subst hj; simpa [hl] using h j
  · simpa [hj] using h j

/-- A move that keeps the marks and does not start the latch keeps `PendingInv`, unless it
takes the one device that is on its way to start it away. -/
theorem PendingInv.frame (hs : PendingInv s)
    (hold : (s.loc i).pc = .checkReady → ¬ (AllMarked s ∧ s.latch = .idle))
    (hl : l.marked = (s.loc i).marked)
    (hlatch : (e.apply (s.setLoc i l) i).latch = .idle ↔ s.latch = .idle) :
    PendingInv (e.apply (s.setLoc i l) i) := by
  refine ⟨fun h => allMarked_apply_of_marked (fun h => hl ▸ h) (hs.marked (mt hlatch.2 h)),
    fun h hidle => ?_⟩
  have hall := allMarked_of_apply hl h
  obtain ⟨j, hj⟩ := hs.pending hall (hlatch.1 hidle)
  have hji : j ≠ i := by rintro rfl; exact hold hj ⟨hall, hlatch.1 hidle⟩
  exact ⟨j, by rw [loc_apply_setLoc_of_ne hji, hj]⟩

theorem PendingInv.move (h32 : n < 2 ^ 31) (hs : PendingInv s) (hmark : MarkInv cfg s)
    (hphase : PhaseInv s) (hm : Moves cfg s i l e) : PendingInv (e.apply (s.setLoc i l) i) := by
  cases hm with
  | converge _ =>
      refine ⟨fun h => allMarked_apply_of_marked (fun h => by simp [Loc.converged, h])
        (hs.marked (by split at h <;> exact h)), fun _ _ => ⟨i, by simp [Loc.converged]⟩⟩
  | notReady hpc hlt =>
      exact hs.frame (fun _ h => by rw [hmark.allMarked_iff.1 h.1] at hlt; exact lt_irrefl _ hlt)
        rfl Iff.rfl
  | startSuspend _ hle _ =>
      exact ⟨fun _ => allMarked_apply_of_marked id ((hmark.allMarked_iff_int32 h32).2 hle), nofun⟩
  | resume _ _ hret | suspendFailed _ _ hret =>
      exact hs.frame (fun _ h => by rw [hret] at h; exact absurd h.2 nofun) rfl Iff.rfl
  | suspendError hpc =>
      rcases hpc with hpc | hpc <;>
      · exact hs.frame (fun h => by rw [hpc] at h; cases h) rfl
          (by simp [Effect.apply, (hphase.of_suspend hpc).1])
  | finish hpc =>
      exact hs.frame (fun h => by rw [hpc] at h; cases h) rfl
        (by simp [Effect.apply, (hphase.of_suspend hpc).1])
  | fail hpc =>
      exact hs.frame (fun h => by simp [h, Pc.fallible] at hpc) rfl Iff.rfl
  | _ => exact hs.frame (fun h => by simp_all) rfl Iff.rfl

end

/-! ## The authority transfer -/

/-- A device reaches and sends `TransferAuthority` only once the VM is suspended. -/
structure AuthorityInv (s : Sys n) : Prop where
  breaking : ∀ i, (s.loc i).pc = .transferAuthority → s.suspendedVM = true
  sent : ∀ i, s.authoritySent i = true → s.suspendedVM = true

theorem authorityInv_init : AuthorityInv (Sys.init n) := by
  constructor <;> intro _ h <;> cases h

section
variable {s : Sys n} {i : Fin n} {l : Loc} {e : Effect}

theorem AuthorityInv.frame (hs : AuthorityInv s)
    (hmono : s.suspendedVM = true → (e.apply (s.setLoc i l) i).suspendedVM = true)
    (hnew : l.pc = .transferAuthority → s.suspendedVM = true)
    (hauth : (e.apply (s.setLoc i l) i).authoritySent = s.authoritySent ∨
      s.suspendedVM = true) :
    AuthorityInv (e.apply (s.setLoc i l) i) := by
  refine ⟨fun j hj => hmono ?_, fun j hj => hmono ?_⟩
  · by_cases hji : j = i
    · subst hji; exact hnew (by simpa using hj)
    · exact hs.breaking j (by rwa [loc_apply_setLoc_of_ne hji] at hj)
  · rcases hauth with hauth | hauth
    · exact hs.sent j (hauth ▸ hj)
    · exact hauth

theorem AuthorityInv.move (hs : AuthorityInv s) (hm : Moves cfg s i l e) :
    AuthorityInv (e.apply (s.setLoc i l) i) := by
  cases hm with
  | checkSuspended _ =>
      exact hs.frame id (fun h => by split at h <;> simp_all) (.inl rfl)
  | transferAuthority hpc =>
      exact hs.frame id nofun (.inr (hs.breaking i hpc))
  | markSuspended _ => exact hs.frame (fun _ => rfl) nofun (.inl rfl)
  | _ =>
      refine hs.frame ?_ ?_ (.inl ?_) <;>
        first | exact id | rfl | (intro h; cases h) |
          (split <;> first | exact id | rfl | (intro h; cases h))

end

/-- Once `suspendedVM` is set, `SuspendAndCloseAgentServer` and the final `Msync` have both
returned `nil`. -/
theorem PhaseInv.suspended {s : Sys n} (hs : PhaseInv s) (hv : s.suspendedVM = true) :
    s.agentSuspended = true ∧ s.finalMsynced = true := by
  cases hl : s.latch with
  | idle => simp [(hs.idle hl).2.2.2] at hv
  | running =>
      obtain ⟨_, st, _, hflags⟩ := hs.running hl
      cases st <;> simp_all [SuspendStage.flags]
  | returned ok =>
      cases ok
      · simp [hs.error hl] at hv
      · exact ⟨(hs.ok hl).1, (hs.ok hl).2.1⟩

/-! ## Every reachable state -/

section Reach
variable {s : Sys n}

theorem Reach.markInv (h : Reach cfg s) : MarkInv cfg s := by
  refine Reachable.induct_inv markInv_init (fun s a s' _ hs hstep => ?_) h
  rcases step_cases hstep with ⟨i, l, e, hm, rfl⟩ | ⟨i, b, -, rfl⟩ | ⟨-, rfl⟩
  · exact hs.move hm
  · exact ⟨hs.1, hs.2⟩
  · exact ⟨hs.1, hs.2⟩

theorem Reach.phaseInv (h : Reach cfg s) : PhaseInv s := by
  refine Reachable.induct_inv phaseInv_init (fun s a s' _ hs hstep => ?_) h
  rcases step_cases hstep with ⟨i, l, e, hm, rfl⟩ | ⟨i, b, -, rfl⟩ | ⟨-, rfl⟩
  · exact hs.move hm
  · exact ⟨hs.1, hs.2, hs.3, hs.4, hs.5, hs.6, hs.7⟩
  · exact ⟨hs.1, hs.2, hs.3, hs.4, hs.5, hs.6, hs.7⟩

theorem Reach.pendingInv (hn : 0 < n) (h32 : n < 2 ^ 31) (h : Reach cfg s) : PendingInv s := by
  refine Reachable.induct_inv (pendingInv_init hn) (fun s a s' hr hs hstep => ?_) h
  rcases step_cases hstep with ⟨i, l, e, hm, rfl⟩ | ⟨i, b, -, rfl⟩ | ⟨-, rfl⟩
  · exact hs.move h32 (Reach.markInv hr) (Reach.phaseInv hr) hm
  · exact ⟨hs.1, hs.2⟩
  · exact ⟨hs.1, hs.2⟩

theorem Reach.authorityInv (h : Reach cfg s) : AuthorityInv s := by
  refine Reachable.induct_inv authorityInv_init (fun s a s' _ hs hstep => ?_) h
  rcases step_cases hstep with ⟨i, l, e, hm, rfl⟩ | ⟨i, b, -, rfl⟩ | ⟨-, rfl⟩
  · exact hs.move hm
  · exact ⟨hs.1, hs.2⟩
  · exact ⟨hs.1, hs.2⟩

/-- The law of `suspendAndMsyncVM`'s latch: its body starts at most once, only after every
device has been marked ready for authority transfer, and while every device is marked and
it has not started, a device stands at the `devicesLeftToTransferAuthorityFor.Load()` check
of the iteration that marked it, and its next step starts the body whatever its outcome. -/
structure LatchLaw (cfg : Fin n → MigrateToDevice) (s : Sys n) : Prop where
  atMostOnce : s.suspendStarts ≤ 1
  afterAllMarked : 0 < s.suspendStarts → AllMarked s
  fires : AllMarked s → s.suspendStarts = 0 →
    ∃ j, (s.loc j).pc = .checkReady ∧
      ∀ ok, ∃ s', step cfg s (.device j ok) = some s' ∧ s'.suspendStarts = 1

/-- Every reachable state of a migration of `n ≥ 1` devices obeys the latch's law. -/
theorem Reach.latchLaw (hn : 0 < n) (h32 : n < 2 ^ 31) (h : Reach cfg s) : LatchLaw cfg s := by
  have hphase := h.phaseInv
  have hidle : s.suspendStarts = 0 → s.latch = .idle := fun h0 => by
    by_contra hl
    simp [hphase.started hl] at h0
  refine ⟨?_, fun hpos => (h.pendingInv hn h32).marked fun hl => ?_, fun hall h0 => ?_⟩
  · by_cases hl : s.latch = .idle
    · simp [(hphase.idle hl).1]
    · simp [hphase.started hl]
  · simp [(hphase.idle hl).1] at hpos
  · obtain ⟨j, hj⟩ := (h.pendingInv hn h32).pending hall (hidle h0)
    have hle : int32 n ≤ int32 s.devicesLeftToTransferAuthorityFor := by
      rw [h.markInv.allMarked_iff.1 hall]
    refine ⟨j, hj, fun ok =>
      ⟨Effect.startSuspend.apply (s.setLoc j { s.loc j with pc := .suspend .suspendAgent }) j, ?_, ?_⟩⟩
    · simp only [step, transition, hj, if_pos hle, hidle h0]
      rfl
    · simp [Effect.apply, Sys.setLoc, h0]

/-- A device sends `EventCustomTransferAuthority` only after `SuspendAndCloseAgentServer`
and the final `Msync` have returned `nil` and `suspendedVM` is set; once the suspend
sequence has returned an error, no device has sent it. -/
structure AuthorityLaw (s : Sys n) : Prop where
  afterSuspend : ∀ i, s.authoritySent i = true →
    s.agentSuspended = true ∧ s.finalMsynced = true ∧ s.suspendedVM = true
  noneOnError : s.latch = .returned false → ∀ i, s.authoritySent i = false

theorem Reach.authorityLaw (h : Reach cfg s) : AuthorityLaw s := by
  have hphase := h.phaseInv
  have hauth := h.authorityInv
  refine ⟨fun i hi => ?_, fun hl i => ?_⟩
  · have hv := hauth.sent i hi
    exact ⟨(hphase.suspended hv).1, (hphase.suspended hv).2, hv⟩
  · by_contra hi
    have hv := hauth.sent i (by simpa using hi)
    simp [hphase.error hl] at hv

end Reach

end Architekt.MigrateTo
