import Architekt.MigrateTo.Model

/-!
# `AllDevicesSent` on the source

Each device's goroutine starts with

```text
to.SendDevInfo(...)
devicesLeftToSend.Add(1)
if devicesLeftToSend.Load() >= int32(len(stage5Inputs)) { go send(EventCustomAllDevicesSent) }
```

`SendInv` ties the counter to the devices that have raised it, and each of those to its
sent `DevInfo`; `SpawnInv` says that once the counter has reached `N` a sender has been
spawned or a goroutine is about to load it.  So in every reachable state
(`allDevicesSent_after_every_devInfo`) `AllDevicesSent` is only sent, or a sender spawned,
once every device's `DevInfo` has been sent, and once every goroutine has raised the
counter and loaded it, a sender has been spawned.  The counter is an `atomic.Int32`: with
fewer than `2 ^ 31` devices its wrapped value is the count (`int32_le_int32_iff`), which
these results assume.

The counter is raised and read in two separate atomic operations, so two goroutines that
both load after the last `Add` both spawn a sender: `allDevicesSent_sent_twice` replays
such a schedule.
-/

namespace Architekt.MigrateTo

variable {n : Nat} {cfg : Fin n → MigrateToDevice}

/-- The pcs before `devicesLeftToSend.Add(1)`. -/
def Pc.beforeAdd : Pc → Bool
  | .sendDevInfo | .addSent => true
  | _ => false

/-- What a device's flag and pc say about its `DevInfo`. -/
structure SendAt (l : Loc) (sent : Bool) : Prop where
  devInfo : l.added = true → sent = true
  notAdded : l.pc.beforeAdd = true → l.added = false
  atAdd : l.pc = .addSent → sent = true

/-- The bookkeeping of `devicesLeftToSend`. -/
structure SendInv (s : Sys n) : Prop where
  count : s.devicesLeftToSend = countTrue fun i => (s.loc i).added
  device : ∀ i, SendAt (s.loc i) (s.devInfoSent i)
  allSent : 0 < s.allDevicesSentSenders + s.allDevicesSentEvents → ∀ i, s.devInfoSent i = true

theorem sendInv_init : SendInv (Sys.init n) :=
  ⟨by simp [Sys.init, Loc.init, countTrue], fun _ => ⟨nofun, fun _ => rfl, nofun⟩,
    by simp [Sys.init]⟩

theorem Sys.setLoc_added (s : Sys n) (i : Fin n) (l : Loc) :
    (fun j => ((s.setLoc i l).loc j).added) = Function.update (fun j => (s.loc j).added) i l.added := by
  funext j
  by_cases hj : j = i
  · subst hj; simp
  · simp [hj]

@[simp] theorem Effect.apply_allDevicesSentEvents (e : Effect) (s : Sys n) (i : Fin n) :
    (e.apply s i).allDevicesSentEvents = s.allDevicesSentEvents := by
  cases e <;> rfl

theorem Effect.apply_devInfoSent_of_ne (e : Effect) (s : Sys n) {i j : Fin n} (h : j ≠ i) :
    (e.apply s i).devInfoSent j = s.devInfoSent j := by
  cases e <;> simp [Effect.apply, Function.update_noteq h]

/-- A move that keeps the device's flag and leaves it past `Add` keeps `SendAt`. -/
theorem SendAt.frame {l l' : Loc} {sent : Bool} (h : SendAt l sent) (hl : l'.added = l.added)
    (hpc : l'.pc.beforeAdd = false) : SendAt l' sent :=
  ⟨hl ▸ h.devInfo, by simp [hpc], fun h' => by simp [h', Pc.beforeAdd] at hpc⟩

section
variable {s : Sys n} {i : Fin n} {l : Loc} {e : Effect}

/-- A move keeps `SendInv` if the counter counts the new flags, the device's own `SendAt`
holds and the senders only run after every `DevInfo`: the other devices' flags, pcs and
`DevInfo`s are untouched. -/
theorem SendInv.move_of (hs : SendInv s)
    (hcount : (e.apply (s.setLoc i l) i).devicesLeftToSend =
      countTrue (Function.update (fun j => (s.loc j).added) i l.added))
    (hi : SendAt l ((e.apply (s.setLoc i l) i).devInfoSent i))
    (hall : 0 < (e.apply (s.setLoc i l) i).allDevicesSentSenders + s.allDevicesSentEvents →
      ∀ j, (e.apply (s.setLoc i l) i).devInfoSent j = true) :
    SendInv (e.apply (s.setLoc i l) i) := by
  refine ⟨by rw [hcount, Effect.apply_loc, Sys.setLoc_added], fun j => ?_, by simpa using hall⟩
  by_cases hji : j = i
  · subst hji; simpa using hi
  · simpa [Effect.apply_devInfoSent_of_ne _ _ hji, hji] using hs.device j

/-- A move past `Add` that keeps the device's flag, the counter, the sent `DevInfo`s and the
senders keeps `SendInv`. -/
theorem SendInv.frame (hs : SendInv s) (hl : l.added = (s.loc i).added)
    (hpc : l.pc.beforeAdd = false)
    (he : ((e.apply (s.setLoc i l) i).devicesLeftToSend, (e.apply (s.setLoc i l) i).devInfoSent,
      (e.apply (s.setLoc i l) i).allDevicesSentSenders) =
      (s.devicesLeftToSend, s.devInfoSent, s.allDevicesSentSenders)) :
    SendInv (e.apply (s.setLoc i l) i) := by
  simp only [Prod.mk.injEq] at he
  refine hs.move_of ?_ ?_ ?_
  · rw [he.1, hl, Function.update_eq_self, hs.count]
  · rw [he.2.1]; exact (hs.device i).frame hl hpc
  · rw [he.2.2, he.2.1]; exact hs.allSent

theorem SendInv.move (h32 : n < 2 ^ 31) (hs : SendInv s) (hm : Moves cfg s i l e) :
    SendInv (e.apply (s.setLoc i l) i) := by
  cases hm with
  | sendDevInfo hpc =>
      have hadded := (hs.device i).notAdded (by simp [hpc, Pc.beforeAdd])
      have hsent : ∀ j, s.devInfoSent j = true → Function.update s.devInfoSent i true j = true :=
        fun j hj => by simp [Function.update_apply, hj]
      refine hs.move_of ?_ ⟨fun _ => by simp [Effect.apply], fun _ => hadded, fun _ => by
        simp [Effect.apply]⟩ fun h j => hsent j (hs.allSent h j)
      rw [Function.update_eq_self, ← hs.count]; rfl
  | addSent hpc =>
      have hadded := (hs.device i).notAdded (by simp [hpc, Pc.beforeAdd])
      refine hs.move_of ?_ ⟨fun _ => (hs.device i).atAdd hpc, by simp [Pc.beforeAdd], nofun⟩
        hs.allSent
      simp only [Effect.apply, Sys.setLoc]
      rw [countTrue_update_true hadded, hs.count]
  | spawn hpc hle =>
      have hall := le_countTrue_iff.mp <| hs.count ▸
        (int32_le_int32_iff h32 ((hs.count ▸ countTrue_le _).trans_lt h32)).1 hle
      refine hs.move_of ?_ ((hs.device i).frame rfl rfl) fun _ j => (hs.device j).devInfo (hall j)
      rw [Function.update_eq_self, ← hs.count]; rfl
  | getLatestDirty _ | checkSuspended _ => exact hs.frame rfl (by split <;> rfl) rfl
  | converge _ => exact hs.frame rfl rfl (by split <;> rfl)
  | _ => exact hs.frame rfl rfl rfl

end

theorem Reach.sendInv (h32 : n < 2 ^ 31) {s : Sys n} (h : Reach cfg s) : SendInv s := by
  refine Reachable.induct_inv sendInv_init (fun s a s' _ hs hstep => ?_) h
  rcases step_cases hstep with ⟨i, l, e, hm, rfl⟩ | ⟨i, b, -, rfl⟩ | ⟨hne, rfl⟩
  · exact hs.move h32 hm
  · exact ⟨hs.1, hs.2, hs.3⟩
  · exact ⟨hs.1, hs.2, fun _ => hs.3 (by omega)⟩

/-! ## Some goroutine spawns the sender -/

/-- Once the counter has reached `N`, a sender has been spawned or some goroutine is about to
load the counter. -/
def SpawnInv (s : Sys n) : Prop :=
  n ≤ s.devicesLeftToSend →
    0 < s.allDevicesSentSenders + s.allDevicesSentEvents ∨ ∃ j, (s.loc j).pc = .loadSent

section
variable {s : Sys n} {i : Fin n} {l : Loc} {e : Effect}

/-- A move that does not load the counter and keeps it and the senders keeps `SpawnInv`. -/
theorem SpawnInv.frame (hs : SpawnInv s) (hold : (s.loc i).pc ≠ .loadSent)
    (he : ((e.apply (s.setLoc i l) i).devicesLeftToSend,
      (e.apply (s.setLoc i l) i).allDevicesSentSenders) =
      (s.devicesLeftToSend, s.allDevicesSentSenders)) :
    SpawnInv (e.apply (s.setLoc i l) i) := by
  simp only [Prod.mk.injEq] at he
  intro hle
  rcases hs (he.1 ▸ hle) with h | ⟨j, hj⟩
  · exact .inl (by simpa [he.2] using h)
  · have hji : j ≠ i := by rintro rfl; exact hold hj
    exact .inr ⟨j, by simpa [hji] using hj⟩

theorem SpawnInv.move (hs : SpawnInv s) (hcount : s.devicesLeftToSend ≤ n)
    (hm : Moves cfg s i l e) : SpawnInv (e.apply (s.setLoc i l) i) := by
  cases hm with
  | addSent _ => exact fun _ => .inr ⟨i, by simp [Effect.apply]⟩
  | spawn _ _ => exact fun _ => .inl (by simp only [Effect.apply]; omega)
  | noSpawn _ hlt =>
      intro hle
      simp only [Effect.apply, Sys.setLoc] at hle
      rw [le_antisymm hcount hle] at hlt
      exact absurd hlt (lt_irrefl _)
  | _ =>
      refine hs.frame (fun h => ?_) (by first | rfl | (split <;> rfl))
      simp_all [Pc.fallible]

end

theorem Reach.spawnInv (hn : 0 < n) (h32 : n < 2 ^ 31) {s : Sys n} (h : Reach cfg s) :
    SpawnInv s := by
  refine Reachable.induct_inv (fun h₀ => absurd h₀ (by simp [Sys.init]; omega))
    (fun s a s' hr hs hstep => ?_) h
  rcases step_cases hstep with ⟨i, l, e, hm, rfl⟩ | ⟨i, b, -, rfl⟩ | ⟨hne, rfl⟩
  · exact hs.move ((Reach.sendInv h32 hr).count ▸ countTrue_le _) hm
  · exact hs
  · exact fun _ => .inl (by dsimp only; omega)

/-- `AllDevicesSent` is sent, and a sender spawned, only after every device's `DevInfo`; and
once every goroutine has raised the counter and loaded it, one of them has spawned a
sender. -/
theorem allDevicesSent_after_every_devInfo (hn : 0 < n) (h32 : n < 2 ^ 31) {s : Sys n}
    (h : Reach cfg s) :
    (0 < s.allDevicesSentSenders + s.allDevicesSentEvents → ∀ i, s.devInfoSent i = true) ∧
    ((∀ i, (s.loc i).added = true ∧ (s.loc i).pc ≠ .loadSent) →
      0 < s.allDevicesSentSenders + s.allDevicesSentEvents) := by
  refine ⟨(h.sendInv h32).allSent, fun hall => ?_⟩
  have hle : n ≤ s.devicesLeftToSend := by
    rw [(h.sendInv h32).count]
    exact le_countTrue_iff.mpr fun i => (hall i).1
  rcases h.spawnInv hn h32 hle with h | ⟨j, hj⟩
  · exact h
  · exact absurd hj (hall j).2

/-- Two devices with one setting, the second raising the counter last: it loads `2` and
spawns the sender, while the first, which loaded `1`, spawned none. -/
def lastSpawnsSchedule : List (Action 2) :=
  [.device 0 true, .device 0 true, .device 0 true, .device 1 true, .device 1 true,
    .device 1 true]

/-- Both implications of the law, with their premises met: after `lastSpawnsSchedule` a
sender is waiting and every goroutine has raised and loaded the counter. -/
theorem allDevicesSent_after_every_devInfo_two_devices :
    ∃ s : Sys 2, Reach (fun _ => ⟨⟨1, 0, 0⟩, false⟩) s ∧
      0 < s.allDevicesSentSenders + s.allDevicesSentEvents ∧
      (∀ i, (s.loc i).added = true ∧ (s.loc i).pc ≠ .loadSent) ∧ 0 < 2 ∧ 2 < 2 ^ 31 ∧
      (0 < s.allDevicesSentSenders + s.allDevicesSentEvents → ∀ i, s.devInfoSent i = true) ∧
      ((∀ i, (s.loc i).added = true ∧ (s.loc i).pc ≠ .loadSent) →
        0 < s.allDevicesSentSenders + s.allDevicesSentEvents) := by
  have hrun : (run (step fun _ => ⟨⟨1, 0, 0⟩, false⟩) (Sys.init 2) lastSpawnsSchedule).map
      (fun s => decide (0 < s.allDevicesSentSenders + s.allDevicesSentEvents) &&
        (s.loc 0).added && (s.loc 1).added && (s.loc 0).pc != .loadSent &&
        (s.loc 1).pc != .loadSent) = some true := by decide
  obtain ⟨s, hs, hp⟩ := exists_reachable_of_run hrun
  simp only [Bool.and_eq_true, decide_eq_true_eq, bne_iff_ne, ne_eq] at hp
  obtain ⟨⟨⟨⟨hpos, h₀⟩, h₁⟩, hp₀⟩, hp₁⟩ := hp
  have hall : ∀ i, (s.loc i).added = true ∧ (s.loc i).pc ≠ .loadSent :=
    Fin.forall_fin_two.2 ⟨⟨h₀, hp₀⟩, ⟨h₁, hp₁⟩⟩
  exact ⟨s, hs, hpos, hall, by decide, by decide,
    allDevicesSent_after_every_devInfo (by decide) (by decide) hs⟩

/-! ## Two senders -/

/-- Both goroutines send their `DevInfo` and raise the counter before either loads it; both
then load `2` and spawn a sender, and both senders send `AllDevicesSent`. -/
def doubleSendSchedule : List (Action 2) :=
  [.device 0 true, .device 1 true, .device 0 true, .device 1 true, .device 0 true,
    .device 1 true, .sendAllDevicesSent, .sendAllDevicesSent]

/-- Whatever the devices' settings, a run of two devices sends `AllDevicesSent` twice. -/
theorem allDevicesSent_sent_twice (cfg : Fin 2 → MigrateToDevice) :
    ∃ s : Sys 2, Reach cfg s ∧ s.allDevicesSentEvents = 2 := by
  have hrun : (run (step cfg) (Sys.init 2) doubleSendSchedule).map
      (fun s => s.allDevicesSentEvents == 2) = some true := rfl
  obtain ⟨s, hs, hp⟩ := exists_reachable_of_run hrun
  exact ⟨s, hs, by simpa using hp⟩

end Architekt.MigrateTo
