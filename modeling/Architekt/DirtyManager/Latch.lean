import Architekt.DirtyManager.Model

/-!
# Readiness, the suspend and the authority transfer in `DirtyManager`

Three invariants of every reachable state of the hooks, each proved from `Moves` by a frame
lemma and a few cases:

* `PolicyInv`: each device's counters and its key in `ReadyDevices` are the convergence
  `policy` over the sizes of its samples.
* `PendingInv`: `AuthorityTransferCompleted` is only set, and the lock only taken with it
  unset, once every device is in `ReadyDevices`; while every device is in it and the flag
  is unset, some loop is at the `len(ReadyDevices)` check or at the lock.
* `PhaseInv`: the flag guards the suspend sequence.  While it is unset nothing has
  happened; once set, the sequence has started once, at most one loop runs it or is about
  to invoke `AuthorityTransfer`, and `agentSuspended`, `finalMsynced` and `suspendedVM`
  are set exactly for the calls it has passed.  `AuthorityTransfer` is invoked only after
  all three are set, and never after the sequence has failed.
-/

namespace Architekt.DirtyManager

variable {n : Nat} {cfg : Fin n → DeviceStatus}

/-- The flags of the suspend sequence while a loop is at `pc`: those of its stage inside
`SuspendAndMsync`, all three before `AuthorityTransfer`, and `none` elsewhere. -/
def Pc.flags : Pc → Option (Bool × Bool × Bool)
  | .suspend st => some st.flags
  | .authorityTransfer => some (true, true, true)
  | _ => none

/-- The part of the state that the suspend sequence and the authority transfer change. -/
def Sys.transferView (s : Sys n) : Bool × Nat × Bool × Nat × Bool × Bool × Bool :=
  (s.authorityTransferCompleted, s.suspendStarts, s.suspendFailed, s.authorityTransfers,
    s.agentSuspended, s.finalMsynced, s.suspendedVM)

section
variable {s : Sys n} {i : Fin n} {l : Loc} {e : Effect}

theorem Effect.apply_readyDevices_of_ne (e : Effect) (t : Sys n) {j : Fin n} (h : j ≠ i) :
    (e.apply t i).readyDevices j = t.readyDevices j := by
  cases e <;> simp [Effect.apply, Function.update_noteq h]

/-! ## The policy -/

/-- Each device's counters and its key in `ReadyDevices` are the policy over its samples. -/
def PolicyInv (cfg : Fin n → DeviceStatus) (s : Sys n) : Prop :=
  ∀ i, (s.loc i).cycles = (Cycles.policy (cfg i).thresholds (s.loc i).samples).1 ∧
    s.readyDevices i = (Cycles.policy (cfg i).thresholds (s.loc i).samples).2

theorem policyInv_init : PolicyInv cfg (Sys.init n) := fun _ => ⟨rfl, rfl⟩

/-- A move that keeps the device's counters and samples and leaves `ReadyDevices` alone
keeps `PolicyInv`. -/
theorem PolicyInv.frame (hs : PolicyInv cfg s)
    (hl : l.cycles = (s.loc i).cycles ∧ l.samples = (s.loc i).samples)
    (he : (e.apply (s.setLoc i l) i).readyDevices = s.readyDevices) :
    PolicyInv cfg (e.apply (s.setLoc i l) i) := by
  intro j
  rw [he]
  by_cases hj : j = i
  · subst hj; simpa [hl.1, hl.2] using hs j
  · simpa [hj] using hs j

theorem PolicyInv.move (hs : PolicyInv cfg s) (hm : Moves cfg s i l e) :
    PolicyInv cfg (e.apply (s.setLoc i l) i) := by
  cases hm with
  | converge _ =>
      intro j
      obtain ⟨hc, hr⟩ := hs i
      by_cases hj : j = i
      · subst hj
        simp only [Effect.apply_loc, Sys.setLoc_loc_self, Loc.converged,
          Cycles.policy_append_singleton, ← hc, ← hr, true_and]
        split <;> simp_all [Effect.apply, Sys.setLoc, Loc.marks]
      · simpa [hj, Effect.apply_readyDevices_of_ne _ _ hj] using hs j
  | _ => exact hs.frame ⟨rfl, rfl⟩ rfl

/-! ## The ready devices and the lock -/

/-- Every device is in `ReadyDevices`. -/
def AllReady (s : Sys n) : Prop := ∀ i, s.readyDevices i = true

/-- The flag is set, and the lock reached, only with every device ready; while every device
is ready and the flag is unset, a loop is at the check or at the lock. -/
structure PendingInv (s : Sys n) : Prop where
  completed : s.authorityTransferCompleted = true → AllReady s
  locking : ∀ i, (s.loc i).pc = .lockAuthority → AllReady s
  pending : AllReady s → s.authorityTransferCompleted = false →
    ∃ j, (s.loc j).pc = .readReady ∨ (s.loc j).pc = .lockAuthority

theorem allReady_iff (s : Sys n) : AllReady s ↔ countTrue s.readyDevices = n :=
  le_countTrue_iff.symm.trans ⟨fun h => le_antisymm (countTrue_le _) h, fun h => h.ge⟩

/-- A move never takes a device out of `ReadyDevices`. -/
theorem Effect.readyDevices_le (e : Effect) (t : Sys n) (j : Fin n) (h : t.readyDevices j = true) :
    (e.apply t i).readyDevices j = true := by
  by_cases hj : j = i
  · subst hj; cases e <;> simp [Effect.apply, h]
  · rwa [Effect.apply_readyDevices_of_ne _ _ hj]

theorem AllReady.apply (h : AllReady s) : AllReady (e.apply (s.setLoc i l) i) :=
  fun j => e.readyDevices_le _ j (h j)

/-- A move that neither leaves nor enters the check or the lock and leaves `ReadyDevices`
and the flag alone keeps `PendingInv`. -/
theorem PendingInv.frame (hs : PendingInv s)
    (hold : (s.loc i).pc ≠ .readReady ∧ (s.loc i).pc ≠ .lockAuthority) (hnew : l.pc ≠ .lockAuthority)
    (he : ((e.apply (s.setLoc i l) i).readyDevices, (e.apply (s.setLoc i l) i).authorityTransferCompleted) =
      (s.readyDevices, s.authorityTransferCompleted)) :
    PendingInv (e.apply (s.setLoc i l) i) := by
  simp only [Prod.mk.injEq] at he
  have hall : AllReady (e.apply (s.setLoc i l) i) ↔ AllReady s := by simp only [AllReady, he.1]
  refine ⟨fun h => hall.2 (hs.completed (he.2 ▸ h)), fun j hj => hall.2 ?_, fun h hc => ?_⟩
  · by_cases hji : j = i
    · subst hji; exact absurd (by simpa using hj) hnew
    · exact hs.locking j (by rwa [loc_apply_setLoc_of_ne hji] at hj)
  · obtain ⟨j, hj⟩ := hs.pending (hall.1 h) (he.2 ▸ hc)
    have hji : j ≠ i := by rintro rfl; exact hj.elim hold.1 hold.2
    exact ⟨j, by rwa [loc_apply_setLoc_of_ne hji]⟩

theorem PendingInv.move (hs : PendingInv s) (hm : Moves cfg s i l e) :
    PendingInv (e.apply (s.setLoc i l) i) := by
  cases hm with
  | converge _ =>
      refine ⟨fun h => (hs.completed ?_).apply, fun j hj => ?_, fun _ _ => ⟨i, .inl (by simp [Loc.converged])⟩⟩
      · split at h <;> exact h
      · by_cases hji : j = i
        · subst hji; simp [Loc.converged] at hj
        · exact (hs.locking j (by rwa [loc_apply_setLoc_of_ne hji] at hj)).apply
  | readReady _ =>
      by_cases hcount : countTrue s.readyDevices = n
      · have hall := (allReady_iff s).2 hcount
        exact ⟨fun _ => hall.apply, fun _ _ => hall.apply, fun _ _ => ⟨i, .inr (by simp [hcount])⟩⟩
      · refine ⟨fun h => (hs.completed h).apply, fun j hj => ?_, fun h _ => ?_⟩
        · by_cases hji : j = i
          · subst hji; simp [hcount] at hj
          · exact (hs.locking j (by rwa [loc_apply_setLoc_of_ne hji] at hj)).apply
        · exact absurd ((allReady_iff s).1 h) hcount
  | lockTaken hpc hc =>
      refine ⟨fun _ => (hs.completed hc).apply, fun j hj => (hs.completed hc).apply, fun _ h => ?_⟩
      simp [Effect.apply, Sys.setLoc, hc] at h
  | startSuspend hpc _ =>
      have hall := hs.locking i hpc
      exact ⟨fun _ => hall.apply, fun _ _ => hall.apply, fun _ h => by simp [Effect.apply] at h⟩
  | fail hpc =>
      refine hs.frame ?_ (by simp) rfl
      constructor <;> intro h <;> simp [h, Pc.fallible] at hpc
  | suspendError hpc => exact hs.frame (by rcases hpc with h | h <;> simp [h]) (by simp) rfl
  | _ => exact hs.frame (by simp_all) (by first | (split <;> simp) | simp) rfl

/-! ## The suspend sequence and the authority transfer -/

/-- The flag guards the suspend sequence and the authority transfer. -/
structure PhaseInv (s : Sys n) : Prop where
  idle : s.authorityTransferCompleted = false →
    s.suspendStarts = 0 ∧ s.suspendFailed = false ∧ s.authorityTransfers = 0 ∧
      (s.agentSuspended, s.finalMsynced, s.suspendedVM) = (false, false, false)
  started : s.authorityTransferCompleted = true → s.suspendStarts = 1
  runner : ∀ i fl, (s.loc i).pc.flags = some fl →
    s.authorityTransferCompleted = true ∧ (s.agentSuspended, s.finalMsynced, s.suspendedVM) = fl ∧
      s.suspendFailed = false ∧ s.authorityTransfers = 0
  unique : ∀ i j, (s.loc i).pc.flags ≠ none → (s.loc j).pc.flags ≠ none → i = j
  ok : 0 < s.authorityTransfers →
    (s.agentSuspended, s.finalMsynced, s.suspendedVM) = (true, true, true)
  error : s.suspendFailed = true →
    s.authorityTransfers = 0 ∧ s.suspendedVM = false ∧ ∀ i, (s.loc i).pc.flags = none

theorem phaseInv_init : PhaseInv (Sys.init n) :=
  ⟨fun _ => ⟨rfl, rfl, rfl, rfl⟩, nofun, fun _ _ h => (by cases h), fun _ _ h => absurd rfl h,
    nofun, nofun⟩

/-- If no device but `i` is in the sequence, then after `i`'s move no other device is. -/
theorem eq_of_flags_apply (hnone : ∀ m, m ≠ i → (s.loc m).pc.flags = none) {j : Fin n}
    (hj : ((e.apply (s.setLoc i l) i).loc j).pc.flags ≠ none) : j = i := by
  by_contra hji
  rw [loc_apply_setLoc_of_ne hji, hnone j hji] at hj
  exact hj rfl

/-- While device `i` is in the sequence, no other device is. -/
theorem PhaseInv.others (hs : PhaseInv s) (hpc : (s.loc i).pc.flags ≠ none) :
    ∀ m, m ≠ i → (s.loc m).pc.flags = none := fun m hm => by
  by_contra h
  exact hm (hs.unique m i h hpc)

/-- A move outside the sequence that leaves its part of the state alone keeps `PhaseInv`. -/
theorem PhaseInv.frame (hs : PhaseInv s) (hold : (s.loc i).pc.flags = none)
    (hnew : l.pc.flags = none)
    (he : (e.apply (s.setLoc i l) i).transferView = s.transferView) :
    PhaseInv (e.apply (s.setLoc i l) i) := by
  simp only [Sys.transferView, Prod.mk.injEq] at he
  obtain ⟨hc, hst, hf, ht, ha, hm, hv⟩ := he
  have hloc : ∀ j, ((e.apply (s.setLoc i l) i).loc j).pc.flags ≠ none →
      (e.apply (s.setLoc i l) i).loc j = s.loc j := by
    intro j hj
    by_cases hji : j = i
    · subst hji; simp [hnew] at hj
    · exact loc_apply_setLoc_of_ne hji
  refine ⟨fun h => ?_, fun h => ?_, fun j fl hj => ?_, fun j k hj hk => ?_, fun h => ?_, fun h => ?_⟩
  · rw [hst, hf, ht, ha, hm, hv]; exact hs.idle (hc ▸ h)
  · rw [hst]; exact hs.started (hc ▸ h)
  · rw [hloc j (by rw [hj]; exact Option.some_ne_none _)] at hj
    rw [hc, ha, hm, hv, hf, ht]; exact hs.runner j fl hj
  · rw [hloc j hj] at hj; rw [hloc k hk] at hk; exact hs.unique j k hj hk
  · rw [ha, hm, hv]; exact hs.ok (ht ▸ h)
  · obtain ⟨h₁, h₂, h₃⟩ := hs.error (hf ▸ h)
    refine ⟨ht ▸ h₁, hv ▸ h₂, fun j => ?_⟩
    by_cases hji : j = i
    · subst hji; simpa using hnew
    · rw [loc_apply_setLoc_of_ne hji]; exact h₃ j

/-- The runner moves from flags `fl` to flags `fl'` inside the sequence. -/
theorem PhaseInv.advance (hs : PhaseInv s) {fl fl' : Bool × Bool × Bool}
    (hpc : (s.loc i).pc.flags = some fl) (hl : l.pc.flags = some fl')
    (he : ((e.apply (s.setLoc i l) i).authorityTransferCompleted,
      (e.apply (s.setLoc i l) i).suspendStarts, (e.apply (s.setLoc i l) i).suspendFailed,
      (e.apply (s.setLoc i l) i).authorityTransfers) =
      (s.authorityTransferCompleted, s.suspendStarts, s.suspendFailed, s.authorityTransfers))
    (hflags : ((e.apply (s.setLoc i l) i).agentSuspended, (e.apply (s.setLoc i l) i).finalMsynced,
      (e.apply (s.setLoc i l) i).suspendedVM) = fl') :
    PhaseInv (e.apply (s.setLoc i l) i) := by
  obtain ⟨hc, -, hf, ht⟩ := hs.runner i fl hpc
  have hothers := hs.others (i := i) (by simp [hpc])
  simp only [Prod.mk.injEq] at he
  obtain ⟨hc', hst', hf', ht'⟩ := he
  refine ⟨fun h => by simp [hc', hc] at h, fun _ => hst' ▸ hs.started hc, fun j fl'' hj => ?_,
    fun j k hj hk => (eq_of_flags_apply hothers hj).trans (eq_of_flags_apply hothers hk).symm,
    fun h => by simp [ht', ht] at h, fun h => by simp [hf', hf] at h⟩
  obtain rfl := eq_of_flags_apply hothers
    (show ((e.apply (s.setLoc i l) i).loc j).pc.flags ≠ none by rw [hj]; exact Option.some_ne_none _)
  simp only [Effect.apply_loc, Sys.setLoc_loc_self, hl, Option.some.injEq] at hj
  exact ⟨hc' ▸ hc, hj ▸ hflags, hf' ▸ hf, ht' ▸ ht⟩

/-- The runner leaves the sequence, keeping the flags: either the sequence failed, or it
invokes `AuthorityTransfer` with all three flags set. -/
theorem PhaseInv.leave (hs : PhaseInv s) {fl : Bool × Bool × Bool}
    (hpc : (s.loc i).pc.flags = some fl) (hl : l.pc.flags = none)
    (he : ((e.apply (s.setLoc i l) i).authorityTransferCompleted,
      (e.apply (s.setLoc i l) i).suspendStarts, (e.apply (s.setLoc i l) i).agentSuspended,
      (e.apply (s.setLoc i l) i).finalMsynced, (e.apply (s.setLoc i l) i).suspendedVM) =
      (s.authorityTransferCompleted, s.suspendStarts, s.agentSuspended, s.finalMsynced, s.suspendedVM))
    (hok : 0 < (e.apply (s.setLoc i l) i).authorityTransfers → fl = (true, true, true))
    (herr : (e.apply (s.setLoc i l) i).suspendFailed = true →
      (e.apply (s.setLoc i l) i).authorityTransfers = 0 ∧ fl.2.2 = false) :
    PhaseInv (e.apply (s.setLoc i l) i) := by
  obtain ⟨hc, hflags, -, -⟩ := hs.runner i fl hpc
  have hothers := hs.others (i := i) (by simp [hpc])
  simp only [Prod.mk.injEq] at he
  obtain ⟨hc', hst', ha', hm', hv'⟩ := he
  have hnone : ∀ j, ((e.apply (s.setLoc i l) i).loc j).pc.flags = none := fun j => by
    by_cases hji : j = i
    · subst hji; simpa using hl
    · rw [loc_apply_setLoc_of_ne hji]; exact hothers j hji
  refine ⟨fun h => by simp [hc', hc] at h, fun _ => hst' ▸ hs.started hc,
    fun j _ hj => absurd (hj.symm.trans (hnone j)) (Option.some_ne_none _),
    fun j _ hj _ => absurd (hnone j) hj,
    fun h => by rw [ha', hm', hv', hflags, hok h], fun h => ?_⟩
  obtain ⟨ht, hv⟩ := herr h
  rw [← hflags] at hv
  exact ⟨ht, hv' ▸ hv, hnone⟩

theorem PhaseInv.move (hs : PhaseInv s) (hm : Moves cfg s i l e) :
    PhaseInv (e.apply (s.setLoc i l) i) := by
  have hrun : ∀ st, (s.loc i).pc = .suspend st →
      (s.agentSuspended, s.finalMsynced, s.suspendedVM) = st.flags ∧ s.authorityTransfers = 0 :=
    fun st hpc => by
      obtain ⟨-, hflags, -, ht⟩ := hs.runner i st.flags (by simp [hpc, Pc.flags])
      exact ⟨hflags, ht⟩
  cases hm with
  | startSuspend _ hc =>
      obtain ⟨hst, hf, ht, hflags⟩ := hs.idle hc
      have hnone : ∀ m, m ≠ i → (s.loc m).pc.flags = none := fun m _ => by
        cases h : (s.loc m).pc.flags with
        | none => rfl
        | some fl => simp [(hs.runner m fl h).1] at hc
      refine ⟨fun h => by simp [Effect.apply] at h, fun _ => by simp [Effect.apply, Sys.setLoc, hst],
        fun j fl hj => ?_,
        fun j k hj hk => (eq_of_flags_apply hnone hj).trans (eq_of_flags_apply hnone hk).symm,
        fun h => by simp [Effect.apply, Sys.setLoc, ht] at h,
        fun h => by simp [Effect.apply, Sys.setLoc, hf] at h⟩
      obtain rfl := eq_of_flags_apply hnone
        (show ((Effect.startSuspend.apply (s.setLoc i _) i).loc j).pc.flags ≠ none by
          rw [hj]; exact Option.some_ne_none _)
      simp only [Effect.apply_loc, Sys.setLoc_loc_self, Pc.flags, SuspendStage.flags,
        Option.some.injEq] at hj
      subst hj
      exact ⟨rfl, hflags, hf, ht⟩
  | agentSuspended hpc | finalMsynced hpc | markSuspended hpc | finish hpc =>
      have hflags := (hrun _ hpc).1
      simp only [SuspendStage.flags, Prod.mk.injEq] at hflags
      exact hs.advance (by rw [hpc]; rfl) rfl rfl
        (by simp [Effect.apply, Sys.setLoc, SuspendStage.flags, hflags])
  | suspendError hpc =>
      rcases hpc with hpc | hpc <;>
      · have ht := (hrun _ hpc).2
        exact hs.leave (by rw [hpc]; rfl) rfl rfl
          (fun h => by simp [Effect.apply, Sys.setLoc, ht] at h) fun _ => ⟨ht, rfl⟩
  | authorityTransfer ok hpc =>
      obtain ⟨-, -, hf, -⟩ := hs.runner i _ (by rw [hpc]; rfl)
      exact hs.leave (by rw [hpc]; rfl) (by split <;> rfl) rfl (fun _ => rfl)
        fun h => by simp [Effect.apply, Sys.setLoc, hf] at h
  | fail hpc =>
      refine hs.frame ?_ rfl rfl
      simp only [Pc.fallible, List.mem_cons, List.mem_singleton, List.not_mem_nil, or_false] at hpc
      rcases hpc with h | h <;> simp [h, Pc.flags]
  | _ =>
      exact hs.frame (by simp_all [Pc.flags]) (by first | (split <;> rfl) | rfl)
        (by first | rfl | (split <;> rfl))

end

/-! ## Every reachable state -/

section Reach
variable {s : Sys n}

theorem Reach.policyInv (h : Reach cfg s) : PolicyInv cfg s := by
  refine Reachable.induct_inv policyInv_init (fun s a s' _ hs hstep => ?_) h
  rcases step_cases hstep with ⟨i, l, e, hm, rfl⟩ | ⟨i, b, -, rfl⟩
  · exact hs.move hm
  · exact hs

theorem Reach.pendingInv (hn : 0 < n) (h : Reach cfg s) : PendingInv s := by
  refine Reachable.induct_inv ⟨nofun, fun _ h => (by cases h), fun h => absurd (h ⟨0, hn⟩) nofun⟩
    (fun s a s' _ hs hstep => ?_) h
  rcases step_cases hstep with ⟨i, l, e, hm, rfl⟩ | ⟨i, b, -, rfl⟩
  · exact hs.move hm
  · exact ⟨hs.1, hs.2, hs.3⟩

theorem Reach.phaseInv (h : Reach cfg s) : PhaseInv s := by
  refine Reachable.induct_inv phaseInv_init (fun s a s' _ hs hstep => ?_) h
  rcases step_cases hstep with ⟨i, l, e, hm, rfl⟩ | ⟨i, b, -, rfl⟩
  · exact hs.move hm
  · exact ⟨hs.1, hs.2, hs.3, hs.4, hs.5, hs.6⟩

/-- The law of the suspend in `DirtyManager`: it starts at most once, only with every device
in `ReadyDevices`, and while every device is in it and the sequence has not started, some
loop is at the `len(ReadyDevices)` check or at the lock, and its next one or two steps
start the sequence whatever their outcome. -/
structure LatchLaw (cfg : Fin n → DeviceStatus) (s : Sys n) : Prop where
  atMostOnce : s.suspendStarts ≤ 1
  afterAllReady : 0 < s.suspendStarts → AllReady s
  fires : AllReady s → s.suspendStarts = 0 →
    ∃ j, ((s.loc j).pc = .lockAuthority ∧
        ∀ ok, ∃ s', step cfg s (.device j ok) = some s' ∧ s'.suspendStarts = 1) ∨
      ((s.loc j).pc = .readReady ∧ ∀ ok ok', ∃ s' s'', step cfg s (.device j ok) = some s' ∧
        step cfg s' (.device j ok') = some s'' ∧ s''.suspendStarts = 1)

/-- Every reachable state of `n ≥ 1` devices obeys the law of the suspend. -/
theorem Reach.latchLaw (hn : 0 < n) (h : Reach cfg s) : LatchLaw cfg s := by
  have hphase := h.phaseInv
  have hpending := h.pendingInv hn
  have hidle : s.suspendStarts = 0 → s.authorityTransferCompleted = false := fun h0 => by
    cases hc : s.authorityTransferCompleted
    · rfl
    · simp [hphase.started hc] at h0
  refine ⟨?_, fun hpos => hpending.completed ?_, fun hall h0 => ?_⟩
  · cases hc : s.authorityTransferCompleted
    · simp [(hphase.idle hc).1]
    · simp [hphase.started hc]
  · cases hc : s.authorityTransferCompleted
    · simp [(hphase.idle hc).1] at hpos
    · rfl
  · have hc := hidle h0
    obtain ⟨j, hj | hj⟩ := hpending.pending hall hc
    · refine ⟨j, .inr ⟨hj, fun ok ok' => ⟨s.setLoc j { s.loc j with pc := .lockAuthority },
        Effect.startSuspend.apply ((s.setLoc j { s.loc j with pc := .lockAuthority }).setLoc j
          { s.loc j with pc := .suspend .suspendAgent }) j, ?_, ?_, ?_⟩⟩⟩
      · simp only [step, transition, hj, if_pos ((allReady_iff s).1 hall)]
        rfl
      · simp only [step, transition, Sys.setLoc_loc_self]
        simp only [Sys.setLoc, hc]
        rfl
      · simp [Effect.apply, Sys.setLoc, h0]
    · refine ⟨j, .inl ⟨hj, fun ok => ⟨Effect.startSuspend.apply
        (s.setLoc j { s.loc j with pc := .suspend .suspendAgent }) j, ?_, ?_⟩⟩⟩
      · simp only [step, transition, hj, hc]
        rfl
      · simp [Effect.apply, Sys.setLoc, h0]

/-- `DirtyManager` invokes `AuthorityTransfer` only once `SuspendAndCloseAgentServer` and
the final `Msync` have returned `nil` and the VM is marked suspended, and never once
`SuspendAndMsync` has returned an error. -/
structure AuthorityLaw (s : Sys n) : Prop where
  invoking : ∀ i, (s.loc i).pc = .authorityTransfer →
    s.agentSuspended = true ∧ s.finalMsynced = true ∧ s.suspendedVM = true
  invoked : 0 < s.authorityTransfers →
    s.agentSuspended = true ∧ s.finalMsynced = true ∧ s.suspendedVM = true
  noneOnError : s.suspendFailed = true → s.authorityTransfers = 0

theorem Reach.authorityLaw (h : Reach cfg s) : AuthorityLaw s := by
  have hphase := h.phaseInv
  refine ⟨fun i hi => ?_, fun hpos => ?_, fun hf => (hphase.error hf).1⟩
  · simpa only [Prod.mk.injEq] using (hphase.runner i (true, true, true) (by rw [hi]; rfl)).2.1
  · simpa only [Prod.mk.injEq] using hphase.ok hpos

end Reach

end Architekt.DirtyManager
