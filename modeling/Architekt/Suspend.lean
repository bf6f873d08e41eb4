import Mathlib.Tactic.Common

/-!
# The suspend sequence

Both dirty-sync drivers suspend the VM through the same calls.  `MigrateTo` runs them in
its `suspendAndMsyncVM`, a `sync.OnceValue`:

```text
OnBeforeSuspend()
if err := SuspendAndCloseAgentServer(ctx, suspendTimeout); err != nil { return err }
if err := resumedRunner.Msync(ctx); err != nil { return err }
OnAfterSuspend()
suspendedVM = true
return nil
```

and `DirtyManager` calls `VMState.SuspendAndMsync`, whose `VMStateMgr` is built from the
same `SuspendAndCloseAgentServer`, `suspendTimeout`, `Msync` and hooks.  A goroutine
running the sequence is at one of its stages; the flags record which of the calls have
returned `nil` and whether the VM is marked suspended.
-/

namespace Architekt

/-- Where the goroutine running the suspend sequence is. -/
inductive SuspendStage
  /-- `OnBeforeSuspend`, then `SuspendAndCloseAgentServer`. -/
  | suspendAgent
  /-- The final `Msync`. -/
  | msync
  /-- `OnAfterSuspend`, then `suspendedVM = true`. -/
  | markSuspended
  /-- The sequence returns `nil`. -/
  | finish
  deriving Repr, DecidableEq

/-- `agentSuspended`, `finalMsynced` and `suspendedVM` while the sequence is at `stage`:
set for the calls it has passed. -/
def SuspendStage.flags : SuspendStage → Bool × Bool × Bool
  | .suspendAgent => (false, false, false)
  | .msync => (true, false, false)
  | .markSuspended => (true, true, false)
  | .finish => (true, true, true)

end Architekt
