import Architekt.MigrateTo.Model

/-!
# Dirty blocks on the source

A block written to a device is, at every point of a migration, still in the device's dirty
set, in a `DirtyList` already sent, or in the sample the loop holds (`DirtyInv`).  So a
block is only lost if the device's loop sends `TransferAuthority` while the block is still
dirty (`reach_written_listed_or_dirty`).

That happens.  The loop reads `suspendedVM` after it has sampled an empty set and unlocked
the device, and a write that falls between the two is neither in the sample nor, once
another device's loop has completed the suspend sequence, in any later one:
`transferAuthority_with_unlisted_block` replays such a schedule with two devices.
-/

namespace Architekt.MigrateTo

variable {n : Nat} {cfg : Fin n → MigrateToDevice}

/-- The pcs at which a device's sample is empty: it saw an empty set and is leaving the
loop. -/
def Pc.afterEmptySample : Pc → Bool
  | .checkSuspended | .transferAuthority | .complete | .done => true
  | _ => false

/-- Where the written blocks of device `j` are, and what its last sample holds. -/
structure DirtyAt (s : Sys n) (j : Fin n) : Prop where
  covered : ∀ b, b ∈ s.written j → b ∈ s.dirty j ∨ b ∈ s.dirtyListed j ∨ b ∈ (s.loc j).blocks
  listed : (s.loc j).pc ≠ .dirtyList → (s.loc j).pc ≠ .failed →
    ∀ b ∈ (s.loc j).blocks, b ∈ s.dirtyListed j
  empty : (s.loc j).pc.afterEmptySample = true ∨ s.authoritySent j = true → (s.loc j).blocks = []
  sent : s.authoritySent j = true →
    (s.loc j).pc = .complete ∨ (s.loc j).pc = .done ∨ (s.loc j).pc = .failed

/-- `DirtyAt` for every device. -/
def DirtyInv (s : Sys n) : Prop := ∀ j, DirtyAt s j

theorem dirtyInv_init : DirtyInv (Sys.init n) := fun _ => by
  constructor <;> simp [Sys.init, Loc.init]

section
variable {s : Sys n} {i : Fin n} {l : Loc} {e : Effect}

/-- A move of device `i` keeps `DirtyInv` if it keeps `DirtyAt i` and touches no other
device's dirty set, list or authority. -/
theorem DirtyInv.move_of_at (hs : DirtyInv s)
    (hother : ∀ j, j ≠ i → ((e.apply (s.setLoc i l) i).dirty j, (e.apply (s.setLoc i l) i).dirtyListed j,
      (e.apply (s.setLoc i l) i).written j, (e.apply (s.setLoc i l) i).authoritySent j) =
      (s.dirty j, s.dirtyListed j, s.written j, s.authoritySent j))
    (hi : DirtyAt (e.apply (s.setLoc i l) i) i) : DirtyInv (e.apply (s.setLoc i l) i) := by
  intro j
  by_cases hji : j = i
  · exact hji ▸ hi
  · simp only [Prod.mk.injEq] at hother
    obtain ⟨hd, hL, hw, ha⟩ := hother j hji
    obtain ⟨h₁, h₂, h₃, h₄⟩ := hs j
    constructor <;>
      simpa only [hd, hL, hw, ha, Effect.apply_loc, Sys.setLoc_loc_of_ne _ _ hji]

theorem Effect.apply_at_of_ne (e : Effect) (t : Sys n) {j : Fin n} (h : j ≠ i) :
    ((e.apply t i).dirty j, (e.apply t i).dirtyListed j, (e.apply t i).written j,
      (e.apply t i).authoritySent j) = (t.dirty j, t.dirtyListed j, t.written j, t.authoritySent j) := by
  cases e <;> simp [Effect.apply, Function.update_noteq h]

/-- The pcs from which a move keeps the sample and the record of device `i`. -/
def Pc.keepsSample : Pc → Bool
  | .dirtyList | .complete | .done | .failed => false
  | _ => true

/-- A move that keeps the device's sample, enters no pc that requires it to be empty, and
leaves the device's dirty set, list and authority alone keeps `DirtyAt`. -/
theorem DirtyAt.frame (hs : DirtyAt s i) (hl : l.blocks = (s.loc i).blocks)
    (hold : (s.loc i).pc.keepsSample = true) (hnew : l.pc.afterEmptySample = false)
    (he : ((e.apply (s.setLoc i l) i).dirty i, (e.apply (s.setLoc i l) i).dirtyListed i,
      (e.apply (s.setLoc i l) i).written i, (e.apply (s.setLoc i l) i).authoritySent i) =
      (s.dirty i, s.dirtyListed i, s.written i, s.authoritySent i)) :
    DirtyAt (e.apply (s.setLoc i l) i) i := by
  simp only [Prod.mk.injEq] at he
  obtain ⟨hd, hL, hw, ha⟩ := he
  have hauth : s.authoritySent i = false := by
    by_contra h
    rcases hs.sent (by simpa using h) with h | h | h <;> simp [h, Pc.keepsSample] at hold
  refine ⟨fun b hb => ?_, fun _ _ b hb => ?_, fun h => ?_, fun h => ?_⟩ <;>
    simp only [hd, hL, hw, ha, Effect.apply_loc, Sys.setLoc_loc_self, hl] at *
  · exact hs.covered b hb
  · exact hs.listed (fun h => by simp [h, Pc.keepsSample] at hold)
      (fun h => by simp [h, Pc.keepsSample] at hold) b hb
  · rcases h with h | h <;> simp_all
  · simp_all

/-- A device whose pc is before `TransferAuthority` has not sent it. -/
theorem DirtyAt.authoritySent_false (hs : DirtyAt s i) {p : Pc} (hpc : (s.loc i).pc = p)
    (hp : p ∉ [.complete, .done, .failed]) : s.authoritySent i = false := by
  by_contra h
  rcases hs.sent (by simpa using h) with h | h | h <;> simp_all

theorem DirtyInv.move (hs : DirtyInv s) (hm : Moves cfg s i l e) :
    DirtyInv (e.apply (s.setLoc i l) i) := by
  refine hs.move_of_at (fun j hj => Effect.apply_at_of_ne e _ hj) ?_
  have hi := hs i
  cases hm with
  | getLatestDirty hpc =>
      constructor <;> simp only [Effect.apply, Sys.setLoc, Function.update_same,
        hi.authoritySent_false hpc (by decide)]
      · intro b hb
        rcases hi.covered b hb with h | h | h
        · exact .inr (.inr h)
        · exact .inr (.inl h)
        · exact .inr (.inl (hi.listed (by simp [hpc]) (by simp [hpc]) b h))
      · split <;> simp_all
      · split <;> simp_all [Pc.afterEmptySample]
      · simp
  | dirtyList hpc =>
      constructor <;> simp only [Effect.apply, Sys.setLoc, Function.update_same,
        hi.authoritySent_false hpc (by decide), List.mem_append]
      · intro b hb
        rcases hi.covered b hb with h | h | h
        · exact .inl h
        · exact .inr (.inl (.inl h))
        · exact .inr (.inl (.inr h))
      · exact fun _ _ b hb => .inr hb
      all_goals simp [Pc.afterEmptySample]
  | checkSuspended hpc | transferAuthority hpc | complete hpc =>
      have hempty := hi.empty (.inl (by simp [hpc, Pc.afterEmptySample]))
      have hsent := hi.sent
      constructor <;> simp only [Effect.apply, Sys.setLoc, Function.update_same, hempty]
      · simpa [hempty] using hi.covered
      all_goals simp_all
  | fail _ =>
      constructor <;> simp only [Effect.apply, Sys.setLoc, Function.update_same]
      · exact hi.covered
      · simp
      · simpa [Pc.afterEmptySample] using hi.empty ∘ .inr
      · simp
  | suspendError hpc =>
      rcases hpc with hpc | hpc <;> refine hi.frame rfl ?_ rfl rfl <;> rw [hpc] <;> rfl
  | _ =>
      refine hi.frame rfl ?_ ?_ ?_
      · rw [‹(s.loc i).pc = _›]; rfl
      all_goals first | rfl | (split <;> rfl)

theorem DirtyInv.write (hs : DirtyInv s) (b : Nat) :
    DirtyInv { s with
      dirty := Function.update s.dirty i ((s.dirty i).insert b)
      written := Function.update s.written i ((s.written i).insert b) } := by
  intro j
  obtain ⟨h₁, h₂, h₃, h₄⟩ := hs j
  by_cases hji : j = i
  · subst hji
    refine ⟨fun x hx => ?_, h₂, h₃, h₄⟩
    simp only [Function.update_same, List.mem_insert_iff] at hx ⊢
    rcases hx with rfl | hx
    · exact .inl (.inl rfl)
    · rcases h₁ x hx with h | h | h
      · exact .inl (.inr h)
      · exact .inr (.inl h)
      · exact .inr (.inr h)
  · exact ⟨by simpa [Function.update_noteq hji] using h₁, h₂, h₃, h₄⟩

end

theorem Reach.dirtyInv {s : Sys n} (h : Reach cfg s) : DirtyInv s := by
  refine Reachable.induct_inv dirtyInv_init (fun s a s' _ hs hstep => ?_) h
  rcases step_cases hstep with ⟨i, l, e, hm, rfl⟩ | ⟨i, b, -, rfl⟩ | ⟨-, rfl⟩
  · exact hs.move hm
  · exact hs.write b
  · exact fun j => ⟨(hs j).1, (hs j).2, (hs j).3, (hs j).4⟩

/-- A block written to a device that is in none of the `DirtyList`s its loop sent before
`TransferAuthority` is still in the device's dirty set. -/
theorem reach_written_listed_or_dirty {s : Sys n} (h : Reach cfg s) {d : Fin n}
    (hd : s.authoritySent d = true) : ∀ b ∈ s.written d, b ∈ s.dirtyListed d ∨ b ∈ s.dirty d := by
  intro b hb
  have hat := h.dirtyInv d
  rcases hat.covered b hb with h | h | h
  · exact .inr h
  · exact .inl h
  · simp [hat.empty (.inr hd)] at h

/-- Two devices that are not the memory device, with `MaxDirtyBlocks = 1` and
`MinCycles = MaxCycles = 0`: a device is marked by its first empty sample.  Device `1`
marks last and runs the suspend sequence; device `0` samples an empty set, block `7` is
written to it, device `1` completes the suspend, and device `0` reads `suspendedVM`,
leaves its loop and sends `TransferAuthority`. -/
def lostBlockSchedule : List (Action 2) :=
  let d (i : Fin 2) : Action 2 := .device i true
  [d 0, d 0, d 0, d 0, d 1, d 1, d 1, d 1,
    d 0, d 0, d 0, d 0, d 0, d 0,
    d 1, d 1, d 1, d 1, d 1, d 1,
    d 0, d 0, .write 0 7,
    d 1, d 1, d 1, d 1,
    d 0, d 0]

/-- In a run of two devices, device `0`'s loop sends `TransferAuthority` while block `7`,
written after its last sample, is in none of its `DirtyList`s. -/
theorem transferAuthority_with_unlisted_block :
    ∃ s : Sys 2, Reach (fun _ => ⟨⟨1, 0, 0⟩, false⟩) s ∧
      s.authoritySent 0 = true ∧ 7 ∈ s.written 0 ∧ 7 ∉ s.dirtyListed 0 := by
  have hrun : (run (step fun _ => ⟨⟨1, 0, 0⟩, false⟩) (Sys.init 2) lostBlockSchedule).map
      (fun s => s.authoritySent 0 && (s.written 0).contains 7 && !(s.dirtyListed 0).contains 7) =
      some true := by decide
  obtain ⟨s, hs, hp⟩ := exists_reachable_of_run hrun
  simp only [Bool.and_eq_true, Bool.not_eq_true', List.contains, List.elem_eq_mem,
    decide_eq_true_eq, decide_eq_false_iff_not] at hp
  exact ⟨s, hs, hp.1.1, hp.1.2, hp.2⟩

end Architekt.MigrateTo
