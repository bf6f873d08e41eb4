import Architekt.DirtyManager.Model

/-!
# Dirty blocks under `DirtyManager`

A block written to a device is, at every point, in the device's dirty set, in a `DirtyList`
already sent, or in the sample its loop holds (`DirtyInv`); so once a loop has stopped,
every block written to its device is in one of its `DirtyList`s or still dirty
(`reach_written_listed_or_dirty`).

Neither hook waits for a last sample.  `PostMigrateDirty` invokes `AuthorityTransfer` as
soon as `SuspendAndMsync` returns, before any sample taken after the suspend, so a block
written while the VM was being suspended is in no `DirtyList` when the callback runs
(`authorityTransfer_before_block_listed`).
-/

namespace Architekt.DirtyManager

variable {n : Nat} {cfg : Fin n → DeviceStatus}

/-- The pcs at which the sample may hold blocks not yet sent in a `DirtyList`. -/
def Pc.holdsUnlisted : Pc → Bool
  | .postGetDirty | .dirtyList | .failed => true
  | _ => false

/-- Where the written blocks of device `j` are. -/
structure DirtyAt (s : Sys n) (j : Fin n) : Prop where
  covered : ∀ b ∈ s.written j, b ∈ s.dirty j ∨ b ∈ s.dirtyListed j ∨ b ∈ (s.loc j).blocks
  listed : (s.loc j).pc.holdsUnlisted = false → ∀ b ∈ (s.loc j).blocks, b ∈ s.dirtyListed j

/-- `DirtyAt` for every device. -/
def DirtyInv (s : Sys n) : Prop := ∀ j, DirtyAt s j

theorem dirtyInv_init : DirtyInv (Sys.init n) := fun _ =>
  ⟨fun _ h => (by cases h), fun _ _ h => (by cases h)⟩

section
variable {s : Sys n} {i : Fin n} {l : Loc} {e : Effect}

/-- The part of the state that `DirtyAt j` reads, besides the loop of `j`. -/
def Sys.dirtyView (s : Sys n) (j : Fin n) : List Nat × List Nat × List Nat :=
  (s.dirty j, s.dirtyListed j, s.written j)

theorem Effect.dirtyView_of_ne (e : Effect) (s : Sys n) (l : Loc) {j : Fin n} (h : j ≠ i) :
    (e.apply (s.setLoc i l) i).dirtyView j = s.dirtyView j := by
  cases e <;> simp [Effect.apply, Sys.dirtyView, Sys.setLoc, Function.update_noteq h]

theorem DirtyInv.move_of_at (hs : DirtyInv s) (hi : DirtyAt (e.apply (s.setLoc i l) i) i) :
    DirtyInv (e.apply (s.setLoc i l) i) := by
  intro j
  by_cases hji : j = i
  · exact hji ▸ hi
  · have hv := e.dirtyView_of_ne s l hji
    simp only [Sys.dirtyView, Prod.mk.injEq] at hv
    obtain ⟨hd, hL, hw⟩ := hv
    obtain ⟨h₁, h₂⟩ := hs j
    constructor <;> simpa only [hd, hL, hw, Effect.apply_loc, Sys.setLoc_loc_of_ne _ _ hji]

/-- A move that keeps the sample, from a pc at which it is listed, and leaves the device's
dirty set and list alone keeps `DirtyAt`. -/
theorem DirtyAt.frame (hs : DirtyAt s i) (hl : l.blocks = (s.loc i).blocks)
    (hold : (s.loc i).pc.holdsUnlisted = false)
    (he : (e.apply (s.setLoc i l) i).dirtyView i = s.dirtyView i) :
    DirtyAt (e.apply (s.setLoc i l) i) i := by
  simp only [Sys.dirtyView, Prod.mk.injEq] at he
  obtain ⟨hd, hL, hw⟩ := he
  refine ⟨?_, fun _ => ?_⟩ <;> simp only [hd, hL, hw, Effect.apply_loc, Sys.setLoc_loc_self, hl]
  exacts [hs.covered, hs.listed hold]

theorem DirtyInv.move (hs : DirtyInv s) (hm : Moves cfg s i l e) :
    DirtyInv (e.apply (s.setLoc i l) i) := by
  refine hs.move_of_at ?_
  have hi := hs i
  cases hm with
  | getDirty hpc =>
      refine ⟨fun b hb => ?_, fun h => absurd h (by simp [Pc.holdsUnlisted])⟩
      simp only [Effect.apply, Sys.setLoc, Function.update_same, List.not_mem_nil, false_or] at hb ⊢
      rcases hi.covered b hb with h | h | h
      · exact .inr h
      · exact .inl h
      · exact .inl (hi.listed (by simp [hpc, Pc.holdsUnlisted]) b h)
  | postGetDirty hpc =>
      refine ⟨by simpa [Effect.apply] using hi.covered, fun h b hb => ?_⟩
      simp only [Effect.apply, Sys.setLoc_loc_self] at h hb
      split at h
      · simp_all
      · cases h
  | dirtyList hpc =>
      refine ⟨fun b hb => ?_, fun _ b hb => ?_⟩ <;>
        simp only [Effect.apply, Sys.setLoc, Function.update_same] at hb ⊢
      · rcases hi.covered b hb with h | h | h <;> simp [h]
      · simp [hb]
  | fail _ => exact ⟨by simpa using hi.covered, fun h => absurd h (by simp [Pc.holdsUnlisted])⟩
  | suspendError hpc =>
      exact hi.frame rfl (by rcases hpc with h | h <;> simp [h, Pc.holdsUnlisted]) rfl
  | _ =>
      exact hi.frame rfl (by simp_all [Pc.holdsUnlisted]) (by first | rfl | (split <;> rfl))

theorem DirtyInv.write (hs : DirtyInv s) (b : Nat) :
    DirtyInv { s with
      dirty := Function.update s.dirty i ((s.dirty i).insert b)
      written := Function.update s.written i ((s.written i).insert b) } := by
  intro j
  obtain ⟨h₁, h₂⟩ := hs j
  by_cases hji : j = i
  · subst hji
    refine ⟨fun x hx => ?_, h₂⟩
    simp only [Function.update_same, List.mem_insert_iff] at hx ⊢
    rcases hx with rfl | hx
    · exact .inl (.inl rfl)
    · rcases h₁ x hx with h | h | h
      · exact .inl (.inr h)
      · exact .inr (.inl h)
      · exact .inr (.inr h)
  · exact ⟨by simpa [Function.update_noteq hji] using h₁, h₂⟩

end

theorem Reach.dirtyInv {s : Sys n} (h : Reach cfg s) : DirtyInv s := by
  refine Reachable.induct_inv dirtyInv_init (fun s a s' _ hs hstep => ?_) h
  rcases step_cases hstep with ⟨i, l, e, hm, rfl⟩ | ⟨i, b, -, rfl⟩
  · exact hs.move hm
  · exact hs.write b

/-- Once device `d`'s loop has stopped, every block written to `d` is in one of its
`DirtyList`s or still in its dirty set. -/
theorem reach_written_listed_or_dirty {s : Sys n} (h : Reach cfg s) {d : Fin n}
    (hd : (s.loc d).pc = .done) : ∀ b ∈ s.written d, b ∈ s.dirtyListed d ∨ b ∈ s.dirty d := by
  intro b hb
  have hat := h.dirtyInv d
  rcases hat.covered b hb with h | h | h
  · exact .inr h
  · exact .inl h
  · exact .inl (hat.listed (by simp [hd, Pc.holdsUnlisted]) b h)

/-! ## A schedule -/

/-- One device that is not the memory device, with `MaxDirtyBlocks = 1` and
`MinCycles = MaxCycles = 0`: its first, empty, sample marks it ready; it takes the lock and
starts `SuspendAndMsync`, block `7` is written while the agent is being suspended, and
the loop invokes `AuthorityTransfer`. -/
def transferBeforeListSchedule : List (Action 1) :=
  let d : Action 1 := .device 0 true
  [d, d, d, d, d, d, d, d, .write 0 7, d, d, d, d, d]

/-- In a run of one device, `AuthorityTransfer` is invoked while block `7`, written before
the VM was suspended, is in no `DirtyList`. -/
theorem authorityTransfer_before_block_listed :
    ∃ s : Sys 1, Reach (fun _ => ⟨⟨1, 0, 0⟩, false⟩) s ∧
      0 < s.authorityTransfers ∧ 7 ∈ s.written 0 ∧ 7 ∉ s.dirtyListed 0 := by
  have hrun : (run (step fun _ => ⟨⟨1, 0, 0⟩, false⟩) (Sys.init 1) transferBeforeListSchedule).map
      (fun s => decide (0 < s.authorityTransfers) && (s.written 0).contains 7 &&
        !(s.dirtyListed 0).contains 7) = some true := by decide
  obtain ⟨s, hs, hp⟩ := exists_reachable_of_run hrun
  simp only [Bool.and_eq_true, Bool.not_eq_true', decide_eq_true_eq, List.contains,
    List.elem_eq_mem, decide_eq_false_iff_not] at hp
  exact ⟨s, hs, hp.1.1, hp.1.2, hp.2⟩

end Architekt.DirtyManager
