import Architekt.MigrateFrom.Model

/-!
# Admission and readiness on the destination

`receivedButNotReadyRemoteDevices` counts the remote devices admitted (their `DevInfo`
raised it) less those whose `TransferAuthority` has been handled (`AdmissionInv`), and a
device's `TransferAuthority` is only handled after its own admission.  So the step that
cancels `allRemoteDevicesReadyCtx` does so once every device admitted so far has had its
`TransferAuthority` handled (`ready_only_after_admitted_authority`), when the source sends
one `TransferAuthority` per device.  The counter is an `atomic.Int32`: with fewer than
`2 ^ 31` devices it never wraps (`AdmissionInv.int32_count`).

Devices not yet admitted do not count: their handlers may run later than another
device's whole stream.  Two schedules of two remote devices show it:

* `stage1Inputs_with_remote_device`: device `1`'s `DevInfo` and `AllDevicesSent` are
  handled before device `0`'s `DevInfo`; the main flow then takes device `0`'s name as a
  local device, and the name ends up twice in `stage2Inputs`.
* `ready_before_admission`: device `0`'s `DevInfo` and `TransferAuthority` are handled
  before device `1`'s `DevInfo`, and the counter reaches `0`.
-/

namespace Architekt.MigrateFrom

variable {m : Nat} {devices : List MigrateFromDevice} {remote : Fin m → RemoteDevice}

/-- The source sends at most one `TransferAuthority` on a device's stream. -/
def RemoteDevice.Valid (r : RemoteDevice) : Prop := r.events.count .transferAuthority ≤ 1

instance (r : RemoteDevice) : Decidable r.Valid :=
  inferInstanceAs (Decidable (r.events.count .transferAuthority ≤ 1))

@[simp] theorem Sys.setHandler_handler_self (s : Sys m) (i : Fin m) (h : Handler) :
    (s.setHandler i h).handler i = h :=
  Function.update_same _ _ _

@[simp] theorem Sys.setHandler_handler_of_ne (s : Sys m) {i j : Fin m} (h : Handler) (hj : j ≠ i) :
    (s.setHandler i h).handler j = s.handler j :=
  Function.update_noteq hj _ _

/-! ## What a step can do -/

/-- The pieces of device `i`'s frame handling, with their guards. -/
inductive Handles (devices : List MigrateFromDevice) (remote : Fin m → RemoteDevice) (s : Sys m)
    (i : Fin m) : Sys m → Prop
  | unknown : s.handler i = .devInfo .add → isBlank (lookupBase devices (remote i).name) = true →
      Handles devices remote s i (s.setHandler i .failed)
  | add : s.handler i = .devInfo .add → isBlank (lookupBase devices (remote i).name) = false →
      Handles devices remote s i ({ s with
        receivedButNotReadyRemoteDevices := s.receivedButNotReadyRemoteDevices + 1
        admitted := Function.update s.admitted i true }.setHandler i (.devInfo .append))
  | append : s.handler i = .devInfo .append →
      Handles devices remote s i
        ({ s with stage2Inputs := s.stage2Inputs ++ [(remote i).name] }.setHandler i (.devInfo .mknod))
  | nodeExists : s.handler i = .devInfo .mknod → (remote i).name ∈ s.nodes →
      Handles devices remote s i (s.setHandler i .failed)
  | mknod : s.handler i = .devInfo .mknod → (remote i).name ∉ s.nodes →
      Handles devices remote s i
        ({ s with nodes := s.nodes ++ [(remote i).name] }.setHandler i (.events (remote i).events))
  | allDevicesSent (rest : List Event) : s.handler i = .events (.allDevicesSent :: rest) →
      Handles devices remote s i ({ s with allRemoteDevicesReceived := true }.setHandler i (.events rest))
  | transferAuthority (rest : List Event) : s.handler i = .events (.transferAuthority :: rest) →
      Handles devices remote s i ({ s with
        receivedButNotReadyRemoteDevices := s.receivedButNotReadyRemoteDevices - 1
        allRemoteDevicesReady :=
          s.allRemoteDevicesReady ||
            decide (int32 (s.receivedButNotReadyRemoteDevices - 1) ≤ 0)
        authorityHandled := Function.update s.authorityHandled i true }.setHandler i (.events rest))
  | completed (rest : List Event) : s.handler i = .events (.completed :: rest) →
      Handles devices remote s i (s.setHandler i (.events rest))

theorem handle_handles {s s' : Sys m} {i : Fin m} (h : handle devices remote s i = some s') :
    Handles devices remote s i s' := by
  cases hh : s.handler i with
  | devInfo stage =>
      cases stage <;> simp only [handle, hh] at h
      · split at h <;> cases h
        exacts [.unknown hh ‹_›, .add hh (Bool.eq_false_iff.mpr ‹_›)]
      · cases h
        exact .append hh
      · split at h <;> cases h
        exacts [.nodeExists hh ‹_›, .mknod hh ‹_›]
  | events rest =>
      cases rest with
      | nil => simp [handle, hh] at h
      | cons e rest =>
          cases e <;> simp only [handle, hh, Option.some.injEq] at h <;> subst h
          exacts [.allDevicesSent rest hh, .transferAuthority rest hh, .completed rest hh]
  | failed => simp [handle, hh] at h

/-- The main flow touches neither the handlers nor the counter and its records. -/
theorem mainStep_frame {s s' : Sys m} (h : mainStep devices s = some s') :
    s'.handler = s.handler ∧ s'.admitted = s.admitted ∧ s'.authorityHandled = s.authorityHandled ∧
      s'.receivedButNotReadyRemoteDevices = s.receivedButNotReadyRemoteDevices ∧
      s'.allRemoteDevicesReady = s.allRemoteDevicesReady := by
  unfold mainStep at h
  split at h
  · split at h <;> cases h
    exact ⟨rfl, rfl, rfl, rfl, rfl⟩
  · cases h; exact ⟨rfl, rfl, rfl, rfl, rfl⟩
  · split at h <;> cases h <;> exact ⟨rfl, rfl, rfl, rfl, rfl⟩
  · split at h <;> cases h
    exact ⟨rfl, rfl, rfl, rfl, rfl⟩
  · cases h
  · cases h

/-! ## The counter -/

/-- What device `i`'s handling has done, by where it is. -/
structure HandlerAt (r : RemoteDevice) (h : Handler) (admitted authority : Bool) : Prop where
  authorityAdmitted : authority = true → admitted = true
  beforeAdd : h = .devInfo .add → admitted = false
  admission : ∀ st, h = .devInfo st → authority = false ∧ (st ≠ .add → admitted = true)
  events : ∀ rest, h = .events rest →
    admitted = true ∧ rest <:+ r.events ∧ (.transferAuthority ∈ rest → authority = false)

/-- The counter is the number of admitted devices less the number whose
`TransferAuthority` was handled. -/
structure AdmissionInv (remote : Fin m → RemoteDevice) (s : Sys m) : Prop where
  handler : ∀ i, HandlerAt (remote i) (s.handler i) (s.admitted i) (s.authorityHandled i)
  count : s.receivedButNotReadyRemoteDevices =
    (countTrue s.admitted : Int) - countTrue s.authorityHandled

theorem admissionInv_init : AdmissionInv remote (Sys.init m) :=
  ⟨fun _ => ⟨fun h => h, fun _ => rfl, fun _ hst => (by cases hst; exact ⟨rfl, fun h => absurd rfl h⟩),
    nofun⟩, by simp [Sys.init, countTrue]⟩

/-- Handling an event keeps `HandlerAt` for the events left. -/
theorem HandlerAt.pop {r : RemoteDevice} {h : Handler} {a b : Bool} {e : Event} {rest : List Event}
    (hi : HandlerAt r h a b) (hh : h = .events (e :: rest)) : HandlerAt r (.events rest) a b :=
  have ⟨hadm, hsuf, hta⟩ := hi.events _ hh
  ⟨hi.authorityAdmitted, nofun, nofun, fun _ h => by
    cases h
    exact ⟨hadm, (List.suffix_cons _ _).trans hsuf, fun h => hta (List.mem_cons_of_mem _ h)⟩⟩

section
variable {s : Sys m} {i : Fin m}

/-- A step of device `i` that leaves the other devices' handlers and records alone, stays in
`HandlerAt` for `i` and keeps the counter equation keeps `AdmissionInv`. -/
theorem AdmissionInv.of_at (hs : AdmissionInv remote s) {s' : Sys m}
    (hother : ∀ j, j ≠ i → s'.handler j = s.handler j ∧ s'.admitted j = s.admitted j ∧
      s'.authorityHandled j = s.authorityHandled j)
    (hi : HandlerAt (remote i) (s'.handler i) (s'.admitted i) (s'.authorityHandled i))
    (hcount : s'.receivedButNotReadyRemoteDevices =
      (countTrue s'.admitted : Int) - countTrue s'.authorityHandled) :
    AdmissionInv remote s' := by
  refine ⟨fun j => ?_, hcount⟩
  by_cases hji : j = i
  · exact hji ▸ hi
  · obtain ⟨h₁, h₂, h₃⟩ := hother j hji
    exact h₁ ▸ h₂ ▸ h₃ ▸ hs.handler j

/-- A handling step of device `i` that only moves its handler, staying in `HandlerAt`,
keeps `AdmissionInv`. -/
theorem AdmissionInv.of_handler (hs : AdmissionInv remote s) (h : Handler)
    (hi : HandlerAt (remote i) h (s.admitted i) (s.authorityHandled i)) :
    AdmissionInv remote (s.setHandler i h) :=
  hs.of_at (fun _ hj => ⟨Sys.setHandler_handler_of_ne _ _ hj, rfl, rfl⟩) (by simpa using hi) hs.count

theorem AdmissionInv.handles (hv : ∀ i, (remote i).Valid) (hs : AdmissionInv remote s)
    {s' : Sys m} (hh : Handles devices remote s i s') : AdmissionInv remote s' := by
  have hi := hs.handler i
  cases hh with
  | unknown _ _ | nodeExists _ _ =>
      exact hs.of_handler .failed ⟨hi.authorityAdmitted, nofun, nofun, nofun⟩
  | add hpc _ =>
      refine hs.of_at (i := i) (fun j hj => by simp [Sys.setHandler, hj]) ?_ ?_ <;>
        simp only [Sys.setHandler, Function.update_same]
      · exact ⟨fun _ => rfl, nofun, fun st h => by
          cases h; exact ⟨(hi.admission _ hpc).1, fun _ => rfl⟩, nofun⟩
      · rw [hs.count, countTrue_update_true (hi.beforeAdd hpc)]
        omega
  | append hpc =>
      have ht : AdmissionInv remote { s with stage2Inputs := s.stage2Inputs ++ [(remote i).name] } :=
        ⟨hs.handler, hs.count⟩
      exact ht.of_handler (.devInfo .mknod) ⟨hi.authorityAdmitted, nofun, fun st h => by
        cases h; exact ⟨(hi.admission _ hpc).1, fun _ => (hi.admission _ hpc).2 nofun⟩, nofun⟩
  | mknod hpc _ =>
      obtain ⟨hauth, hadm⟩ := hi.admission _ hpc
      have ht : AdmissionInv remote { s with nodes := s.nodes ++ [(remote i).name] } :=
        ⟨hs.handler, hs.count⟩
      exact ht.of_handler (.events (remote i).events) ⟨hi.authorityAdmitted, nofun, nofun,
        fun rest h => by cases h; exact ⟨hadm nofun, List.suffix_refl _, fun _ => hauth⟩⟩
  | allDevicesSent rest hpc =>
      have ht : AdmissionInv remote { s with allRemoteDevicesReceived := true } := ⟨hs.handler, hs.count⟩
      exact ht.of_handler (.events rest) (hi.pop hpc)
  | completed rest hpc => exact hs.of_handler (.events rest) (hi.pop hpc)
  | transferAuthority rest hpc =>
      obtain ⟨hadm, hsuf, hta⟩ := hi.events _ hpc
      have hauth := hta (List.mem_cons_self _ _)
      have hnot : .transferAuthority ∉ rest := by
        intro hmem
        have hcount := hsuf.sublist.count_le Event.transferAuthority
        have := hv i
        simp only [RemoteDevice.Valid, List.count_cons_self] at hcount this
        have := List.count_pos_iff.mpr hmem
        omega
      refine hs.of_at (i := i) (fun j hj => by simp [Sys.setHandler, hj]) ?_ ?_ <;>
        simp only [Sys.setHandler, Function.update_same]
      · exact ⟨fun _ => hadm, nofun, nofun, fun rest' h => by
          cases h; exact ⟨hadm, (List.suffix_cons _ _).trans hsuf, fun h => absurd h hnot⟩⟩
      · rw [hs.count, countTrue_update_true hauth]
        omega

end

theorem Reach.admissionInv (hv : ∀ i, (remote i).Valid) {s : Sys m} (h : Reach devices remote s) :
    AdmissionInv remote s := by
  refine Reachable.induct_inv admissionInv_init (fun s a s' _ hs hstep => ?_) h
  cases a with
  | handle i => exact hs.handles hv (handle_handles hstep)
  | main =>
      obtain ⟨hh, ha, hauth, hc, -⟩ := mainStep_frame hstep
      exact ⟨fun i => by rw [hh, ha, hauth]; exact hs.handler i, by rw [hc, ha, hauth]; exact hs.count⟩

/-- Below `2 ^ 31` devices the counter never wraps: `Add` returns what the model sums. -/
theorem AdmissionInv.int32_count {s : Sys m} (hs : AdmissionInv remote s) (hm : m < 2 ^ 31) :
    int32 s.receivedButNotReadyRemoteDevices = s.receivedButNotReadyRemoteDevices := by
  have h₁ := countTrue_le s.admitted
  have h₂ := countTrue_le s.authorityHandled
  rw [hs.count]
  exact int32_of_lt (by omega) (by omega)

/-- The only step that cancels `allRemoteDevicesReadyCtx` handles a `TransferAuthority`
and leaves the counter, as `Add` returns it, at most `0`. -/
theorem counter_nonpos_of_ready_step {s s' : Sys m} {a : Action m}
    (hstep : step devices remote s a = some s') (hr : s.allRemoteDevicesReady = false)
    (hr' : s'.allRemoteDevicesReady = true) : int32 s'.receivedButNotReadyRemoteDevices ≤ 0 := by
  cases a with
  | main => simp [(mainStep_frame hstep).2.2.2.2, hr] at hr'
  | handle i =>
      cases handle_handles hstep with
      | transferAuthority rest _ =>
          simp only [Sys.setHandler, hr, Bool.false_or, decide_eq_true_eq] at hr' ⊢
          exact hr'
      | _ => simp [Sys.setHandler, hr] at hr'

/-- Two configured devices `a` and `b`, both remote: the source sends `DevInfo` on both
streams, then `AllDevicesSent` on the stream of `b`, then `TransferAuthority` on each. -/
def twoRemoteDevices : Fin 2 → RemoteDevice :=
  fun i => if i = 0 then ⟨"a", [.transferAuthority]⟩ else ⟨"b", [.allDevicesSent, .transferAuthority]⟩

/-- The configured devices of `twoRemoteDevices`. -/
def twoConfiguredDevices : List MigrateFromDevice := [⟨"a", "/a"⟩, ⟨"b", "/b"⟩]

/-- When the source sends one `TransferAuthority` per device, and there are fewer than
`2 ^ 31` devices, the step that cancels `allRemoteDevicesReadyCtx` does so only once every
device admitted so far has had its `TransferAuthority` handled. -/
theorem ready_only_after_admitted_authority (hv : ∀ i, (remote i).Valid) (hm : m < 2 ^ 31)
    {s s' : Sys m} {a : Action m} (h : Reach devices remote s)
    (hstep : step devices remote s a = some s') (hr : s.allRemoteDevicesReady = false)
    (hr' : s'.allRemoteDevicesReady = true) :
    ∀ i, s'.admitted i = true → s'.authorityHandled i = true := by
  have hinv := Reach.admissionInv hv (Reachable.step a h hstep)
  have hle := counter_nonpos_of_ready_step hstep hr hr'
  rw [hinv.int32_count hm, hinv.count] at hle
  exact imp_of_countTrue_le (fun i => (hinv.handler i).authorityAdmitted) (by omega)

/-- Both streams handled in turn: the `TransferAuthority` of `b`, handled last, cancels
`allRemoteDevicesReadyCtx` with both devices admitted and both authorities handled. -/
theorem ready_after_both_authorities :
    (∀ i, (twoRemoteDevices i).Valid) ∧ 2 < 2 ^ 31 ∧ ∃ s s' : Sys 2,
      Reach twoConfiguredDevices twoRemoteDevices s ∧
      step twoConfiguredDevices twoRemoteDevices s (.handle 1) = some s' ∧
      s.allRemoteDevicesReady = false ∧ s'.allRemoteDevicesReady = true ∧
      ∀ i, s'.admitted i = true → s'.authorityHandled i = true := by
  have hv : ∀ i, (twoRemoteDevices i).Valid := by decide
  have hrun : (run (step twoConfiguredDevices twoRemoteDevices) (Sys.init 2)
      [.handle 0, .handle 0, .handle 0, .handle 1, .handle 1, .handle 1, .handle 1, .handle 0]).map
      (fun s => !s.allRemoteDevicesReady &&
        (step twoConfiguredDevices twoRemoteDevices s (.handle 1)).map Sys.allRemoteDevicesReady ==
          some true) = some true := by decide
  obtain ⟨s, hs, hp⟩ := exists_reachable_of_run hrun
  simp only [Bool.and_eq_true, Bool.not_eq_true', beq_iff_eq, Option.map_eq_some'] at hp
  obtain ⟨hr, s', hs', hr'⟩ := hp
  exact ⟨hv, by decide, s, s', hs, hs', hr, hr',
    ready_only_after_admitted_authority hv (by decide) hs hs' hr hr'⟩

/-! ## Two schedules -/

/-- Device `b`'s stream is handled up to `AllDevicesSent` before device `a`'s `DevInfo`: the
main flow takes `a` as a local device and exposes it, and `a`'s admission then adds it to
`stage2Inputs` a second time. -/
theorem stage1Inputs_with_remote_device :
    ∃ s : Sys 2, Reach twoConfiguredDevices twoRemoteDevices s ∧
      "a" ∈ s.stage1Inputs.map MigrateFromDevice.name ∧ s.stage2Inputs.count "a" = 2 := by
  have hrun : (run (step twoConfiguredDevices twoRemoteDevices) (Sys.init 2)
      [.handle 1, .handle 1, .handle 1, .handle 1, .main, .main, .handle 0, .handle 0]).map
      (fun s => (s.stage1Inputs.map MigrateFromDevice.name).contains "a" &&
        s.stage2Inputs.count "a" == 2) = some true := by decide
  obtain ⟨s, hs, hp⟩ := exists_reachable_of_run hrun
  simp only [Bool.and_eq_true, List.contains, List.elem_eq_mem, decide_eq_true_eq, beq_iff_eq] at hp
  exact ⟨s, hs, hp.1, hp.2⟩

/-- Device `a`'s stream is handled through its `TransferAuthority` before device `b`'s
`DevInfo`: the counter reaches `0` and `allRemoteDevicesReadyCtx` is cancelled while `b`,
whose `DevInfo` the source has sent, is not admitted. -/
theorem ready_before_admission :
    ∃ s : Sys 2, Reach twoConfiguredDevices twoRemoteDevices s ∧
      s.allRemoteDevicesReady = true ∧ s.admitted 1 = false := by
  have hrun : (run (step twoConfiguredDevices twoRemoteDevices) (Sys.init 2)
      [.handle 0, .handle 0, .handle 0, .handle 0]).map
      (fun s => s.allRemoteDevicesReady && !s.admitted 1) = some true := by decide
  obtain ⟨s, hs, hp⟩ := exists_reachable_of_run hrun
  simp only [Bool.and_eq_true, Bool.not_eq_true'] at hp
  exact ⟨s, hs, hp.1, hp.2⟩

end Architekt.MigrateFrom
