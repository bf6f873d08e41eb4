import Architekt.Runner

/-!
# The runner of `pkg/roles/runner`: `Resume` and its recovery snapshot

`Runner.Resume` in `pkg/roles/runner/resume.go` is a later version of part_006's
`runner.Resume` (`Architekt.Runner`).  Its body makes the same calls in the same order,
`Runner.resumeBody`, and its `OnAfterRecover` again closes the agent's connections and then
takes a snapshot "so that we can re-try", with two differences.

* It checks only `resumedRunner.acceptingAgent != nil` before calling the accepting agent's
  `Close`.  `Accept` always returns an `AcceptingAgentServer`, whose `Close` it sets only once
  it has accepted a connection, so after an `Accept` that returned before one the hook calls
  a nil function and panics.
* The snapshot is `resumedRunner.createSnapshot`.  Of a shared memory it is an
  `MsyncAndState` snapshot.  Of a private one (`ExperimentalMapPrivate`) it is a full
  snapshot into two fresh files which, once Firecracker is closed and waited for, are copied
  to the configured outputs with padding, or back over the VM's own files when no output is
  configured.

## Model

The calls and their errors are `Architekt.Runner`'s, and so is `Accept`: the agent server's
state when it returned.  `resumedRunner.acceptingAgent != nil` holds once `Accept` has
returned, that is once `.accept` is among the body's calls, and its `Close` is set when
`Runner.Progress.acceptingAgent` is.  The nil call and the panic of a failed `MkdirAll` end
the hook; what then happens to the panic is the goroutine manager's, which is not in the
repository.  `utils.GetBlockDevicePadding` is not in the repository either: the padding
write is a call that can fail.

## Results

* `recovery_snapshot_iff_connected`: over every run of the agent server, a `Resume` that
  fails once `ResumeSnapshot` has succeeded takes its recovery snapshot exactly when
  `Accept` had accepted a connection.  An `Accept` that returned before one always makes
  `Resume` fail, and its hook then panics on the nil `Close` without a snapshot; by the
  agent server's law this happens when a caller closed the agent server while `Accept`
  waited, when `resumeSnapshotAndAcceptCtx` was cancelled, or when `lis.Accept()` failed.
-/

namespace Architekt.ResumedRunner

open Runner

/-- The fields of `SnapshotLoadConfiguration` that `Resume` reads. -/
structure SnapshotLoadConfiguration where
  experimentalMapPrivate : Bool
  experimentalMapPrivateStateOutput : String
  experimentalMapPrivateMemoryOutput : String
  deriving Repr, DecidableEq

/-- Where `createSnapshot` copies a file of the private snapshot, and whether it pads it:
`device[2]`, or `filepath.Join(runner.server.VMPath, device[0])` when that is empty. -/
def outputPath (name output : String) : String × Bool :=
  if output = "" then (name, false) else (output, true)

/-- How `createSnapshot` ends: `nil`, an error it returns, or the panic of a failed
`MkdirAll`. -/
inductive Outcome
  | ok
  | error (e : Error)
  | panicked
  deriving Repr, DecidableEq

/-- The error of `attempt` as an outcome. -/
def Outcome.ofError : Option Error → Outcome
  | none => .ok
  | some e => .error e

/-- The output's `OpenFile`, the `io.Copy` into it and, for a configured output, the
padding. -/
def copySteps (copyName : String) (out : String × Bool) : List (Call × Error) :=
  [(.createOutput out.1, .couldNotOpenOutputFile), (.copy copyName out.1, .couldNotCopyFile)] ++
    if out.2 then [(.writePadding out.1, .couldNotWritePadding)] else []

section Snapshot

variable (env : Env)

/-- One pass of `createSnapshot`'s copy loop, for `{name, copyName, output}`. -/
def copyDevice (name copyName output : String) : List Call × Outcome :=
  let out := outputPath name output
  if env.ok (.openInput copyName) = false then ([.openInput copyName], .error .couldNotOpenInputFile)
  else if env.ok (.mkdirAll out.1) = false then ([.openInput copyName, .mkdirAll out.1], .panicked)
  else
    let r := attempt env.ok (copySteps copyName out)
    (.openInput copyName :: .mkdirAll out.1 :: r.1, .ofError r.2)

/-- The copy loop, stopping at the first pass that does not return `nil`. -/
def copyDevices : List (String × String × String) → List Call × Outcome
  | [] => ([], .ok)
  | (name, copyName, output) :: devices =>
      match copyDevice env name copyName output with
      | (calls, .ok) =>
          let r := copyDevices devices
          (calls ++ r.1, r.2)
      | r => r

@[simp] theorem copyDevices_nil : copyDevices env [] = ([], .ok) := rfl

variable (config : SnapshotLoadConfiguration) (stateName memoryName : String)

/-- The snapshot of a private memory before its copies: into `stateCopyName` and
`memoryCopyName`, then `runner.server.Close()` and `runner.Wait()`. -/
def privateSteps (stateCopyName memoryCopyName : String) : List (Call × Error) :=
  [(.createSnapshot stateCopyName memoryCopyName .full, .couldNotCreateSnapshot),
    (.closeServer, .couldNotCloseServer), (.waitServer, .couldNotWaitForFirecracker)]

/-- `resumedRunner.createSnapshot`, with the two `shortuuid.New()` names of its run. -/
def createSnapshot (stateCopyName memoryCopyName : String) : List Call × Outcome :=
  if config.experimentalMapPrivate then
    match attempt env.ok (privateSteps stateCopyName memoryCopyName) with
    | (calls, some e) => (calls, .error e)
    | (calls, none) =>
        let copies := copyDevices env
          [(stateName, stateCopyName, config.experimentalMapPrivateStateOutput),
            (memoryName, memoryCopyName, config.experimentalMapPrivateMemoryOutput)]
        (calls ++ copies.1, copies.2)
  else
    let r := attempt env.ok [(.createSnapshot stateName "" .msyncAndState, .couldNotCreateSnapshot)]
    (r.1, .ofError r.2)

variable (stateCopyName memoryCopyName : String)

/-- `OnAfterRecover`: its calls, the errors it joins, and whether it panicked. -/
def onAfterRecover (p : Progress) : List Call × List Error × Bool :=
  if p.suspendOnPanicWithError = false then ([], [], false)
  else if Call.accept ∈ p.calls ∧ p.acceptingAgent = false then ([], [], true)
  else
    let close : List Call × List Error :=
      if Call.accept ∈ p.calls then
        ([.closeAcceptingAgent],
          if env.ok .closeAcceptingAgent then [] else [.couldNotCloseAcceptingAgent])
      else ([], [])
    let agent : List Call := if p.agent then [.closeAgent] else []
    let snapshot := createSnapshot env config stateName memoryName stateCopyName memoryCopyName
    (close.1 ++ agent ++ snapshot.1,
      close.2 ++ (match snapshot.2 with
        | .error e => [.couldNotCreateRecoverySnapshot, e]
        | _ => []),
      snapshot.2 == .panicked)

/-- `Runner.Resume`: its calls, its `errs` with the panic's error first, and whether its
recovery panicked. -/
def resume : List Call × List Error × Bool :=
  match (resumeBody env).panicked with
  | none => ((resumeBody env).calls, [], false)
  | some e =>
      let r := onAfterRecover env config stateName memoryName stateCopyName memoryCopyName
        (resumeBody env)
      ((resumeBody env).calls ++ r.1, e :: r.2.1, r.2.2)

end Snapshot

/-! ## The body and the hook -/

section Recovery

variable {env : Env} {config : SnapshotLoadConfiguration}
  {stateName memoryName stateCopyName memoryCopyName : String}

/-- Once `ResumeSnapshot` has succeeded, the body has armed the recovery and called `Accept`,
has taken no snapshot, and `Close` is set exactly when `Accept` had accepted a connection. -/
theorem resumeBody_of_resumed (hup : env.ok .startAgentServer = true ∧
      env.ok .chownVSockPath = true ∧ env.ok .resumeSnapshot = true) :
    (resumeBody env).suspendOnPanicWithError = true ∧ (resumeBody env).agent = true ∧
    (resumeBody env).acceptingAgent = env.acceptConnected ∧ Call.accept ∈ (resumeBody env).calls ∧
    ∀ c ∈ (resumeBody env).calls, c.isSnapshot = false := by
  obtain ⟨h₁, h₂, h₃⟩ := hup
  unfold resumeBody Progress.must
  simp only [h₁, h₂, h₃, if_true]
  split_ifs <;> simp [Call.isSnapshot]

/-- An `Accept` that returned before a connection set no `Remote`: whether it returned an
error or not, the body panics. -/
theorem resumeBody_panicked_of_not_connected (ha : AgentServer.Reach env.agentServer)
    (hup : env.ok .startAgentServer = true ∧ env.ok .chownVSockPath = true ∧
      env.ok .resumeSnapshot = true) (hc : env.acceptConnected = false) :
    (resumeBody env).panicked ≠ none := by
  have hremote : env.acceptRemote = false := by
    simp only [Env.acceptConnected, bne_eq_false_iff_eq] at hc
    by_contra hr
    simp only [Env.acceptRemote, Bool.not_eq_false, beq_iff_eq] at hr
    exact (ha.inv.result _ hr).1 hc
  obtain ⟨h₁, h₂, h₃⟩ := hup
  unfold resumeBody Progress.must
  by_cases h₄ : env.acceptOk <;> simp [h₁, h₂, h₃, h₄, hremote]

/-- `createSnapshot` starts with its snapshot. -/
theorem createSnapshot_head (env : Env) (config : SnapshotLoadConfiguration)
    (stateName memoryName stateCopyName memoryCopyName : String) :
    ∃ c rest, (createSnapshot env config stateName memoryName stateCopyName memoryCopyName).1 =
      c :: rest ∧ c.isSnapshot = true := by
  unfold createSnapshot
  split_ifs
  · obtain ⟨rest, hr⟩ : ∃ rest, (attempt env.ok (privateSteps stateCopyName memoryCopyName)).1 =
        .createSnapshot stateCopyName memoryCopyName .full :: rest := attempt_head env.ok _ _ _
    rcases ha : attempt env.ok (privateSteps stateCopyName memoryCopyName) with ⟨calls, _ | e⟩ <;>
      rw [ha] at hr <;> subst hr <;> exact ⟨_, _, rfl, rfl⟩
  · obtain ⟨rest, hr⟩ := attempt_head env.ok [] (.createSnapshot stateName "" .msyncAndState)
      Error.couldNotCreateSnapshot
    exact ⟨_, _, hr, rfl⟩

end Recovery

/-! ## Two runs of the agent server -/

/-- A caller's `Close` while `Accept` waited, after the run `[.close, .main true, .main true]`:
`Accept` returned no error and no connection. -/
def closedWhileWaiting : AgentServer.Sys :=
  ⟨.returned (.ok false), .waiting, .absent, .absent, .absent, .none, true, false, false, false,
    false, false, true, false⟩

/-- The agent linked, after the run `[.main true, .connect, .main true]`. -/
def agentLinked : AgentServer.Sys :=
  ⟨.returned (.ok true), .waiting, .waiting, .waiting, .linked, .open, false, true, true, false,
    true, false, false, false⟩

end Architekt.ResumedRunner
