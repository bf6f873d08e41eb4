import Mathlib.Data.List.Infix
import Architekt.AgentServer

/-!
# The runner: resuming the VM, and taking its last snapshot

`StartRunner` (part_006) gives the peer a runner whose `Resume` resumes the VM from the
snapshot files `stateName` and `memoryName` and returns the two calls that the migration's
suspend sequence makes (`Architekt.SuspendStage`): `SuspendAndCloseAgentServer`, which
takes the last snapshot, and `Msync`.  The guest memory is mapped from `memoryName`,
shared when `mapShared` and private otherwise; a private mapping is never written back, so
the snapshot's memory is then written to a fresh file and copied over `memoryName`, "since
we can't truncate an `mmap`ed file".

`Resume` panics at its first failing call; its deferred `OnAfterRecover` then takes a
recovery snapshot "so that we can re-try", but only once `ResumeSnapshot` has succeeded
(`suspendOnPanicWithError`), and after closing the agent's connections.

## Model

Every call goes to Firecracker, the agent or the file system: `Env.ok` says which calls
succeed, and `Env.memoryCopyName` is the `shortuuid.New()` of the run.  `agent.Accept` is
the agent server of `Architekt.AgentServer`: `Env.agentServer` is its state when `Accept`
returned, and what `Resume` reads of the result, whether `errs` is `nil` and whether
`Remote` and `Close` are set, is derived from that state (`Env.acceptOk`,
`Env.acceptRemote`, `Env.acceptConnected`).  An `Accept` that returns no error and no
`Remote` leaves `acceptingAgent.Remote.AfterResume` a nil function, whose call panics.

A closure's run is the list of `Call`s it made, with the sentinel errors it returned, in
the order `errors.Join` joined them; the wrapped errors of the calls are left out.
`attempt` is the Go sequence `if err := c(); err != nil { return errors.Join(e, err) }` that
all three closures use.  The goroutine that `Resume` spawns to wait on the accepting agent
is left out: its panic joins `ErrCouldNotWaitForAcceptingAgent` into `errs` and cancels
`internalCtx`, under which a later call can fail, as `Env.ok` already allows.
-/

namespace Architekt.Runner

/-- `firecracker.SnapshotType`. -/
inductive SnapshotType
  | full
  | msync
  | msyncAndState
  deriving Repr, DecidableEq

/-- The calls of the runner's closures. -/
inductive Call
  /-- `ipc.StartAgentServer(filepath.Join(server.VMPath, VSockName), agentVSockPort)`. -/
  | startAgentServer
  /-- `os.Chown(agent.VSockPath, UID, GID)`. -/
  | chownVSockPath
  /-- `firecracker.ResumeSnapshot(ctx, client, stateName, memoryName)`. -/
  | resumeSnapshot
  /-- `agent.Accept(resumeSnapshotAndAcceptCtx, ctx)`. -/
  | accept
  /-- `acceptingAgent.Remote.AfterResume(afterResumeCtx)`. -/
  | afterResume
  /-- `acceptingAgent.Remote.BeforeSuspend(suspendCtx)`. -/
  | beforeSuspend
  /-- `acceptingAgent.Close()`. -/
  | closeAcceptingAgent
  /-- `agent.Close()`, which returns nothing. -/
  | closeAgent
  /-- `firecracker.CreateSnapshot(ctx, client, state, memory, type)`. -/
  | createSnapshot (state memory : String) (type : SnapshotType)
  /-- `os.Open(filepath.Join(server.VMPath, name))`. -/
  | openInput (name : String)
  /-- `os.OpenFile(filepath.Join(server.VMPath, name), os.O_TRUNC|os.O_WRONLY, os.ModePerm)`. -/
  | openOutput (name : String)
  /-- `io.Copy(outputFile, inputFile)`. -/
  | copy (src dst : String)
  /-- `runner.server.Close()`, which stops Firecracker (`pkg/roles/runner`). -/
  | closeServer
  /-- `runner.Wait()`. -/
  | waitServer
  /-- `os.MkdirAll(filepath.Dir(path), os.ModePerm)`. -/
  | mkdirAll (path : String)
  /-- `os.OpenFile(path, os.O_CREATE|os.O_TRUNC|os.O_WRONLY, os.ModePerm)`. -/
  | createOutput (path : String)
  /-- `outputFile.Write(make([]byte, paddingLength))`. -/
  | writePadding (path : String)
  deriving Repr, DecidableEq

/-- The sentinel errors the closures join into their result. -/
inductive Error
  | couldNotStartAgentServer
  | couldNotChownVSockPath
  | couldNotResumeSnapshot
  | couldNotAcceptAgent
  | couldNotCallAfterResumeRPC
  | couldNotCallBeforeSuspendRPC
  | couldNotCloseAcceptingAgent
  | couldNotCreateSnapshot
  | couldNotOpenInputFile
  | couldNotOpenOutputFile
  | couldNotCopyFile
  /-- `MigrateTo`'s wrapper of an error of `SuspendAndCloseAgentServer`. -/
  | couldNotSuspendAndCloseAgentServer
  /-- `MigrateTo`'s wrapper of an error of `Msync`. -/
  | couldNotMsyncRunner
  | couldNotCloseServer
  | couldNotWaitForFirecracker
  | couldNotWritePadding
  | couldNotCreateRecoverySnapshot
  /-- The runtime error of calling a nil function. -/
  | nilFunctionCall
  deriving Repr, DecidableEq

/-- What the runner's calls meet. -/
structure Env where
  ok : Call → Bool
  /-- The agent server when `Accept` returned. -/
  agentServer : AgentServer.Sys
  /-- `shortuuid.New()`. -/
  memoryCopyName : String

namespace Env

/-- `Accept` returned a `nil` error: its goroutine ended without a panic of its own, and no
goroutine's panic was joined into `errs`. -/
def acceptOk (env : Env) : Bool :=
  match env.agentServer.main with
  | .returned (.ok _) => !env.agentServer.goroutinePanicked
  | _ => false

/-- `Accept` set `acceptingAgent.Remote`. -/
def acceptRemote (env : Env) : Bool := env.agentServer.main == .returned (.ok true)

/-- `Accept` set `acceptingAgent.Close`: it had accepted a connection. -/
def acceptConnected (env : Env) : Bool := env.agentServer.conn != .none

end Env

/-- `Call.createSnapshot` of any files and type. -/
def Call.isSnapshot : Call → Bool
  | .createSnapshot .. => true
  | _ => false

/-- The sequence `if err := c(); err != nil { return errors.Join(e, err) }` over `steps`:
the calls made, and the sentinel of the one that failed. -/
def attempt {α ε : Type} (ok : α → Bool) : List (α × ε) → List α × Option ε
  | [] => ([], none)
  | (c, e) :: steps =>
      if ok c then
        let r := attempt ok steps
        (c :: r.1, r.2)
      else ([c], some e)

/-- A full snapshot whose memory goes to `memoryCopyName`, copied over `memoryName`. -/
def copySnapshot (stateName memoryName memoryCopyName : String) : List (Call × Error) :=
  [(.createSnapshot stateName memoryCopyName .full, .couldNotCreateSnapshot),
    (.openInput memoryCopyName, .couldNotOpenInputFile),
    (.openOutput memoryName, .couldNotOpenOutputFile),
    (.copy memoryCopyName memoryName, .couldNotCopyFile)]

/-- The `BeforeSuspend` RPC and the close of the accepting agent, before the last snapshot. -/
def closeSteps : List (Call × Error) :=
  [(.beforeSuspend, .couldNotCallBeforeSuspendRPC),
    (.closeAcceptingAgent, .couldNotCloseAcceptingAgent)]

/-- The last snapshot: of a shared memory an `Msync` with the state written beside it, of a
private one a full snapshot through a copy. -/
def lastSnapshot (mapShared : Bool) (stateName memoryName memoryCopyName : String) :
    List (Call × Error) :=
  if mapShared then [(.createSnapshot stateName "" .msyncAndState, .couldNotCreateSnapshot)]
  else copySnapshot stateName memoryName memoryCopyName

/-- The recovery snapshot: a full snapshot, of a private memory through a copy. -/
def recoverySnapshot (mapShared : Bool) (stateName memoryName memoryCopyName : String) :
    List (Call × Error) :=
  if mapShared then [(.createSnapshot stateName memoryName .full, .couldNotCreateSnapshot)]
  else copySnapshot stateName memoryName memoryCopyName

section Closures

variable (env : Env) (mapShared : Bool) (stateName memoryName : String)

/-- `resumedRunner.SuspendAndCloseAgentServer`. -/
def suspendAndCloseAgentServer : List Call × Option Error :=
  match attempt env.ok closeSteps with
  | (calls, some e) => (calls, some e)
  | (calls, none) =>
      let snapshot := attempt env.ok (lastSnapshot mapShared stateName memoryName env.memoryCopyName)
      (calls ++ .closeAgent :: snapshot.1, snapshot.2)

/-- `resumedRunner.Msync`: nothing unless the memory is mapped shared. -/
def msync : List Call × Option Error :=
  if mapShared then attempt env.ok [(.createSnapshot stateName "" .msync, .couldNotCreateSnapshot)]
  else ([], none)

/-- The runner's calls of `MigrateTo`'s `suspendAndMsyncVM`, and the errors it returns. -/
def suspendAndMsyncVM : List Call × List Error :=
  match suspendAndCloseAgentServer env mapShared stateName memoryName with
  | (calls, some e) => (calls, [.couldNotSuspendAndCloseAgentServer, e])
  | (calls, none) =>
      let synced := msync env mapShared stateName
      (calls ++ synced.1, (synced.2.map fun e => [.couldNotMsyncRunner, e]).getD [])

/-- How far `Resume`'s body got: its calls, the variables `OnAfterRecover` reads, and the
error it panicked with. -/
structure Progress where
  calls : List Call := []
  /-- `agent != nil && agent.Close != nil`. -/
  agent : Bool := false
  /-- `acceptingAgent != nil && acceptingAgent.Close != nil`. -/
  acceptingAgent : Bool := false
  suspendOnPanicWithError : Bool := false
  panicked : Option Error := none
  deriving Repr, DecidableEq

/-- `if err := c(); err != nil { panic(errors.Join(e, err)) }`, then the rest `k` of the body. -/
def Progress.must (p : Progress) (c : Call) (e : Error) (k : Progress → Progress) : Progress :=
  let p := { p with calls := p.calls ++ [c] }
  if env.ok c then k p else { p with panicked := some e }

/-- `Resume`'s body, from `StartAgentServer` to the `AfterResume` RPC. -/
def resumeBody : Progress :=
  ({} : Progress).must env .startAgentServer .couldNotStartAgentServer fun p =>
  ({ p with agent := true } : Progress).must env .chownVSockPath .couldNotChownVSockPath fun p =>
  p.must env .resumeSnapshot .couldNotResumeSnapshot fun p =>
  let p : Progress := { p with
    calls := p.calls ++ [.accept]
    suspendOnPanicWithError := true
    acceptingAgent := env.acceptConnected }
  if !env.acceptOk then { p with panicked := some .couldNotAcceptAgent }
  else if !env.acceptRemote then { p with panicked := some .nilFunctionCall }
  else p.must env .afterResume .couldNotCallAfterResumeRPC id

/-- `OnAfterRecover`: past `ResumeSnapshot`, close the agent's connections and take a
snapshot so that the resume can be retried. -/
def onAfterRecover (p : Progress) : List Call × List Error :=
  if p.suspendOnPanicWithError then
    let close : List Call × List Error :=
      if p.acceptingAgent then
        ([.closeAcceptingAgent],
          if env.ok .closeAcceptingAgent then [] else [.couldNotCloseAcceptingAgent])
      else ([], [])
    let agent : List Call := if p.agent then [.closeAgent] else []
    let snapshot := attempt env.ok (recoverySnapshot mapShared stateName memoryName env.memoryCopyName)
    (close.1 ++ agent ++ snapshot.1, close.2 ++ snapshot.2.toList)
  else ([], [])

/-- `runner.Resume`: its calls and its `errs`, the panic's error first. -/
def resume : List Call × List Error :=
  match (resumeBody env).panicked with
  | none => ((resumeBody env).calls, [])
  | some e =>
      let r := onAfterRecover env mapShared stateName memoryName (resumeBody env)
      ((resumeBody env).calls ++ r.1, e :: r.2)

end Closures

/-! ## `attempt` -/

section Attempt

variable {α ε : Type}

/-- A sequence always makes its first call. -/
theorem attempt_head (ok : α → Bool) (steps : List (α × ε)) (c : α) (e : ε) :
    ∃ rest, (attempt ok ((c, e) :: steps)).1 = c :: rest := by
  by_cases hc : ok c <;> simp [attempt, hc]

end Attempt

/-! ## Positions in a list -/

/-- In a list `A ++ B`, a position whose call is not in `A` lies past `A`. -/
theorem prefix_of_append_eq {α : Type} {A B pre post : List α} {c : α}
    (h : A ++ B = pre ++ c :: post) (hc : c ∉ A) : A <+: pre := by
  rcases List.append_eq_append_iff.1 h with ⟨a', rfl, -⟩ | ⟨c', rfl, hc'⟩
  · exact List.prefix_append _ _
  · cases c' with
    | nil => simp
    | cons c'' rest =>
        cases hc'
        simp at hc

/-- In a list `A ++ B`, a position whose call is not in `B` lies before `B`. -/
theorem suffix_of_append_eq {α : Type} {A B pre post : List α} {c : α}
    (h : A ++ B = pre ++ c :: post) (hc : c ∉ B) : B <:+ post := by
  rcases List.append_eq_append_iff.1 h with ⟨a', -, rfl⟩ | ⟨c', -, hc'⟩
  · simp at hc
  · cases c' with
    | nil => simp only [List.nil_append] at hc'; subst hc'; simp at hc
    | cons c'' rest =>
        cases hc'
        exact List.suffix_append _ _

end Architekt.Runner
