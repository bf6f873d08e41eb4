import Architekt.Transition

/-!
# The agent server: `Accept` and `Close`

`ipc.StartAgentServer` listens on the unix socket `VSockPath`, through which Firecracker
forwards the guest agent's vsock connection, and gives the runner two closures.  `Close`
removes the socket file, "so that the client can't try to reconnect", and closes the
listener.  `Accept` waits for the agent: it accepts a connection, links the RPC registry over
it in `Wait`, and returns once the agent has linked (`OnClientConnect` cancels `readyCtx`),
or with an error.  The mutex `closeLock` guards `closed`, which `Close` and the accepting
agent's `Close` set before closing the listener or the connection, so that the
`net.ErrClosed` this causes is not taken for a failure.

Besides `Accept`'s own goroutine three others run: the watcher, spawned before
`lis.Accept()`, which closes the server if `internalCtx` is done first; the closer, spawned
once a connection is accepted, which closes the connection and then the server when
`internalCtx` is done first, and otherwise once `remoteCtx` is done; and the registry's link
over the connection, the body of `Wait`'s `sync.OnceValue`.

## Model

`utils.GetPanicHandler` is not in the repository; the model reads it as its names and its
uses say.  `internalCtx` is a child of `acceptCtx` that the deferred `cancel()` cancels
when `Accept` returns, and a `panic` in `Accept` becomes its error.
`handleGoroutinePanics(false, fn)` runs `fn` in a new goroutine that `wait()` does not wait
for, and a panic there is recovered, joined into `errs` and cancels `internalCtx`.  `errs`
is `Accept`'s named result, so a panic recovered after `Accept` has returned reaches no
caller (`goroutinePanicked` records those recovered before).  Two goroutines of `Accept`
can panic this way: the closer, on an error of the accepting agent's `Close`, and the
waiter, which calls `Wait()` and panics on its error.

A `select` takes any of its cases that is ready, as Go picks among ready cases at random.
Each section under `closeLock` is one step.  The agent's side of the link is an actor of
its own: it links (`connect`), or `LinkStream` returns (`hangUp`), failing with
`net.ErrClosed` on a connection closed here.  The callers cancel `acceptCtx` or
`remoteCtx`, call `Close`, and call the accepting agent's `Close` once `Accept` has
returned one.

## Results

* `accept_result`: what each result of `Accept` says about the server.  In particular a
  `nil` error without a remote means that a caller closed the server while `Accept`
  waited, and the context's error comes once `acceptCtx` is cancelled or once the link has
  failed and a goroutine of `Accept` has panicked on it; without a connection it leaves
  the server closed.
-/

namespace Architekt.AgentServer

/-- How `Accept`'s own goroutine ends: the error it panics with, if any, that `errs` then
holds besides what a goroutine's panic joined into it. -/
inductive Result
  /-- No panic of its own; `remote` says whether `ForRemotes` set `Remote`. -/
  | ok (remote : Bool)
  /-- `panic(internalCtx.Err())`. -/
  | contextError
  /-- `panic(errors.Join(ErrCouldNotAcceptAgentClient, err))`. -/
  | couldNotAcceptAgentClient
  /-- `panic(ErrNoRemoteFound)`. -/
  | noRemoteFound
  deriving Repr, DecidableEq

/-- Where `Accept`'s own goroutine is. -/
inductive Main
  /-- `conn, err := lis.Accept()`. -/
  | accept
  /-- `lis.Accept()` returned an error; `closedErr` is `errors.Is(err, net.ErrClosed)`. -/
  | acceptFailed (closedErr : Bool)
  /-- A connection is accepted: `select` on `internalCtx` and `readyCtx`. -/
  | waitReady
  | returned (result : Result)
  deriving Repr, DecidableEq

/-- The watcher spawned before `lis.Accept()`. -/
inductive Watcher
  | waiting
  | done
  deriving Repr, DecidableEq

/-- The closer spawned once a connection is accepted. -/
inductive Closer
  | absent
  | waiting
  /-- `<-remoteCtx.Done()`. -/
  | waitRemote
  /-- The accepting agent's `Close` has closed the connection and waits for `Wait()`. -/
  | closing
  | done
  /-- `panic(errors.Join(ErrCouldNotCloseAcceptingAgentServer, err))`. -/
  | panicked
  deriving Repr, DecidableEq

/-- The waiter, spawned with `handleGoroutinePanics` once a connection is accepted:
`if err := acceptingAgentServer.Wait(); err != nil { panic(err) }`. -/
inductive Waiter
  | absent
  | waiting
  | done
  | panicked
  deriving Repr, DecidableEq

/-- The registry's link over the connection. -/
inductive Link
  | absent
  /-- `LinkStream` runs, and the agent has not linked yet. -/
  | linking
  | linked
  /-- `LinkStream` has returned, and so has `Wait`: with `nil` if `ok`. -/
  | ended (ok : Bool)
  deriving Repr, DecidableEq

/-- The accepted connection. -/
inductive Conn
  | none
  | open
  | closed
  deriving Repr, DecidableEq

/-- A server and one `Accept` on it. -/
structure Sys where
  main : Main
  watcher : Watcher
  closer : Closer
  waiter : Waiter
  link : Link
  conn : Conn
  /-- `closed`, under `closeLock`. -/
  closed : Bool
  listening : Bool
  /-- The socket file at `VSockPath` exists. -/
  socketFile : Bool
  acceptCancelled : Bool
  /-- `OnClientConnect` has cancelled `readyCtx`. -/
  clientConnected : Bool
  remoteCancelled : Bool
  /-- A caller has called `Close`, or the accepting agent's `Close`. -/
  callerClosed : Bool
  /-- A panic of the closer or the waiter was recovered before `Accept` returned: its error
  is in `errs`, and `internalCtx` is cancelled. -/
  goroutinePanicked : Bool
  deriving Repr, DecidableEq

/-- The state when `Accept` is called on a server `StartAgentServer` has just started. -/
def Sys.init : Sys :=
  ⟨.accept, .waiting, .absent, .absent, .absent, .none, false, true, true, false, false, false,
    false, false⟩

/-- `Accept` has returned. -/
def Main.isReturned : Main → Bool
  | .returned _ => true
  | _ => false

/-- `Accept` has no connection yet. -/
def Main.beforeConn : Main → Bool
  | .accept | .acceptFailed _ => true
  | _ => false

namespace Sys

/-- `internalCtx` is done: `acceptCtx` is, `Accept` has returned and run its deferred
`cancel()`, or a goroutine's panic has cancelled it. -/
def internalDone (s : Sys) : Bool := s.acceptCancelled || s.main.isReturned || s.goroutinePanicked

/-- `readyCtx` is done: the agent has linked, or `Accept` has returned and run its deferred
`cancelReadyCtx()`. -/
def readyDone (s : Sys) : Bool := s.clientConnected || s.main.isReturned

/-- `agentServer.Close()`. -/
def closeServer (s : Sys) : Sys := { s with closed := true, listening := false, socketFile := false }

/-- The part of the accepting agent's `Close` under `closeLock`. -/
def closeConn (s : Sys) : Sys := { s with closed := true, conn := .closed }

/-- `handlePanics(false)` of a goroutine that panics: before `Accept` has returned the
error is joined into `errs` and `internalCtx` cancelled. -/
def recover (s : Sys) : Sys := { s with goroutinePanicked := s.goroutinePanicked || !s.main.isReturned }

/-- Whether `Wait` returns `nil` when `LinkStream` returns, with `nil` if `clean`.  On a
connection closed here it fails with `net.ErrClosed`, which is no error once `closed` is
set: `Wait` then returns `remoteCtx.Err()`. -/
def linkResult (s : Sys) (clean : Bool) : Bool :=
  if s.conn = .closed then s.closed && !s.remoteCancelled else clean

end Sys

/-- The actions of the interleaving. -/
inductive Action
  /-- `Accept`'s goroutine steps.  On an open listener `ok` picks whether `lis.Accept()`
  gets a connection; in the `select`, whether it takes `readyCtx` or `internalCtx`. -/
  | main (ok : Bool)
  /-- The watcher's `select` takes `readyCtx` or `internalCtx`. -/
  | watcher (ready : Bool)
  /-- The closer steps; in its `select`, taking `readyCtx` or `internalCtx`. -/
  | closer (ready : Bool)
  /-- The waiter gets the result of `Wait()`. -/
  | waiter
  /-- The agent links over the connection. -/
  | connect
  /-- `LinkStream` returns; on an open connection `clean` says whether with `nil`. -/
  | hangUp (clean : Bool)
  | cancelAccept
  | cancelRemote
  /-- A caller calls `agentServer.Close()`. -/
  | close
  /-- A caller calls the accepting agent's `Close()`. -/
  | closeAccepting
  deriving Repr, DecidableEq

/-- `Accept`'s own goroutine. -/
def mainStep (s : Sys) (ok : Bool) : Option Sys :=
  match s.main with
  | .accept =>
      if !s.listening then some { s with main := .acceptFailed true }
      else if ok then
        some { s with
          main := .waitReady, conn := .open, closer := .waiting, waiter := .waiting, link := .linking }
      else some { s with main := .acceptFailed false }
  | .acceptFailed closedErr =>
      some { s with main := .returned <|
        if s.closed && closedErr then (if s.internalDone then .contextError else .ok false)
        else .couldNotAcceptAgentClient }
  | .waitReady =>
      if ok then
        if s.readyDone then
          some { s with main := .returned (if s.link = .linked then .ok true else .noRemoteFound) }
        else none
      else if s.internalDone then some { s with main := .returned .contextError } else none
  | .returned _ => none

/-- The watcher: `agentServer.Close()` if it takes `internalCtx`. -/
def watcherStep (s : Sys) (ready : Bool) : Option Sys :=
  match s.watcher with
  | .waiting =>
      if ready then (if s.readyDone then some { s with watcher := .done } else none)
      else if s.internalDone then some { s.closeServer with watcher := .done } else none
  | .done => none

/-- The closer: the accepting agent's `Close()`, then `agentServer.Close()` unless `Wait()`
returned an error. -/
def closerStep (s : Sys) (ready : Bool) : Option Sys :=
  match s.closer with
  | .waiting =>
      if ready then (if s.readyDone then some { s with closer := .waitRemote } else none)
      else if s.internalDone then some { s.closeConn with closer := .closing } else none
  | .waitRemote => if s.remoteCancelled then some { s.closeConn with closer := .closing } else none
  | .closing =>
      match s.link with
      | .ended true => some { s.closeServer with closer := .done }
      | .ended false => some { s.recover with closer := .panicked }
      | _ => none
  | _ => none

/-- The waiter: it panics once `Wait()` has returned an error. -/
def waiterStep (s : Sys) : Option Sys :=
  match s.waiter, s.link with
  | .waiting, .ended true => some { s with waiter := .done }
  | .waiting, .ended false => some { s.recover with waiter := .panicked }
  | _, _ => none

/-- One step of the interleaving, `none` when the action is not enabled. -/
def step (s : Sys) : Action → Option Sys
  | .main ok => mainStep s ok
  | .watcher ready => watcherStep s ready
  | .closer ready => closerStep s ready
  | .waiter => waiterStep s
  | .connect =>
      match s.link, s.conn with
      | .linking, .open => some { s with link := .linked, clientConnected := true }
      | _, _ => none
  | .hangUp clean =>
      match s.link with
      | .linking | .linked => some { s with link := .ended (s.linkResult clean) }
      | _ => none
  | .cancelAccept => some { s with acceptCancelled := true }
  | .cancelRemote => some { s with remoteCancelled := true }
  | .close => some { s.closeServer with callerClosed := true }
  | .closeAccepting =>
      if s.main.isReturned ∧ s.conn ≠ .none then some { s.closeConn with callerClosed := true }
      else none

/-- The states of a server and its `Accept`. -/
def Reach : Sys → Prop := Reachable Sys.init step

/-! ## What no step undoes -/

/-- The facts that no step undoes. -/
structure Le (s s' : Sys) : Prop where
  closed : s.closed = true → s'.closed = true
  listening : s.listening = false → s'.listening = false
  socketFile : s.socketFile = false → s'.socketFile = false
  conn : s.conn ≠ .none → s'.conn ≠ .none
  acceptCancelled : s.acceptCancelled = true → s'.acceptCancelled = true
  clientConnected : s.clientConnected = true → s'.clientConnected = true
  callerClosed : s.callerClosed = true → s'.callerClosed = true
  goroutinePanicked : s.goroutinePanicked = true → s'.goroutinePanicked = true

theorem step_le {s s' : Sys} {a : Action} (h : step s a = some s') : Le s s' := by
  cases a <;> simp only [step, mainStep, watcherStep, closerStep, waiterStep] at h <;>
    (repeat' split at h) <;> cases h <;> constructor <;> intro hh <;>
    simp only [Sys.closeServer, Sys.closeConn, Sys.recover, hh, Bool.true_or, ne_eq,
      reduceCtorEq, not_false_eq_true] <;> assumption

/-- Once `Accept` has returned, no step moves it, or ends a link twice, or makes a
connection where there was none, or reaches its `errs`. -/
theorem step_of_returned {s s' : Sys} {a : Action} {r : Result} (hr : s.main = .returned r)
    (h : step s a = some s') :
    s'.main = s.main ∧ (∀ ok, s.link = .ended ok → s'.link = .ended ok) ∧
      (s.conn = .none → s.closer = .absent → s'.conn = .none) ∧
      s'.goroutinePanicked = s.goroutinePanicked := by
  cases a <;> simp only [step, mainStep, watcherStep, closerStep, waiterStep, hr] at h <;>
    (repeat' split at h) <;> cases h <;>
    simp_all [Sys.closeServer, Sys.closeConn, Sys.recover, Main.isReturned]

/-! ## What `Accept`'s result says -/

/-- What each result of `Accept` says about the server.  `Close` is set exactly when a
connection was accepted, `conn ≠ .none`, and `Remote` only with `.ok true`; `errs` is `nil`
for `.ok` unless a goroutine's panic was joined into it, `goroutinePanicked`. -/
def ResultLaw (s : Sys) : Result → Prop
  -- The agent has linked, and `Close` is set.
  | .ok true => s.conn ≠ .none ∧ s.clientConnected = true
  -- A caller closed the server while `Accept` waited: `errs` is `nil`, and neither `Remote`
  -- nor `Close` is set.
  | .ok false =>
      s.conn = .none ∧ s.callerClosed = true ∧ s.listening = false ∧ s.socketFile = false ∧
        s.goroutinePanicked = false
  -- `acceptCtx` is cancelled, or the link failed and a goroutine panicked on `Wait()`'s error,
  -- which `errs` then holds too.
  | .contextError =>
      (s.acceptCancelled = true ∨ s.goroutinePanicked = true ∧ s.link = .ended false) ∧
        (s.conn = .none → s.acceptCancelled = true ∧ s.listening = false ∧ s.socketFile = false)
  | .couldNotAcceptAgentClient => s.conn = .none
  | .noRemoteFound => s.conn ≠ .none ∧ s.clientConnected = true ∧ ∃ ok, s.link = .ended ok

theorem ResultLaw.mono {s s' : Sys} {r : Result} (hle : Le s s')
    (hlink : ∀ ok, s.link = .ended ok → s'.link = .ended ok) (hconn : s.conn = .none → s'.conn = .none)
    (hpanic : s'.goroutinePanicked = s.goroutinePanicked) (h : ResultLaw s r) : ResultLaw s' r := by
  cases r with
  | ok remote =>
      cases remote
      · exact ⟨hconn h.1, hle.callerClosed h.2.1, hle.listening h.2.2.1, hle.socketFile h.2.2.2.1,
          hpanic.trans h.2.2.2.2⟩
      · exact ⟨hle.conn h.1, hle.clientConnected h.2⟩
  | contextError =>
      refine ⟨h.1.imp (hle.acceptCancelled ·) fun hp => ⟨hle.goroutinePanicked hp.1, hlink _ hp.2⟩,
        fun hc => ?_⟩
      have hc₀ : s.conn = .none := by_contra fun hne => hle.conn hne hc
      obtain ⟨ha, hl, hf⟩ := h.2 hc₀
      exact ⟨hle.acceptCancelled ha, hle.listening hl, hle.socketFile hf⟩
  | couldNotAcceptAgentClient => exact hconn h
  | noRemoteFound => exact ⟨hle.conn h.1, hle.clientConnected h.2.1, h.2.2.imp hlink⟩

/-- The invariant of a server and its `Accept`. -/
structure Inv (s : Sys) : Prop where
  /-- Only `agentServer.Close()` closes the listener, and it sets `closed` and removes the
  socket file first. -/
  server : s.listening = false → s.closed = true ∧ s.socketFile = false
  noConn : s.conn = .none → s.closer = .absent ∧ s.link = .absent
  /-- No goroutine of `Accept` that can panic runs before a connection. -/
  noGoroutine : s.conn = .none → s.waiter = .absent ∧ s.goroutinePanicked = false
  beforeConn : s.main.beforeConn = true → s.conn = .none
  waitReady : s.main = .waitReady → s.conn ≠ .none
  closedErr : s.main = .acceptFailed true → s.listening = false
  /-- Before a connection only a caller, or the watcher once `acceptCtx` is done, closes the
  listener. -/
  closedBy : s.main.beforeConn = true → s.listening = false →
    s.acceptCancelled = true ∨ s.callerClosed = true
  linked : s.clientConnected = true → s.link = .linked ∨ ∃ ok, s.link = .ended ok
  /-- A goroutine panics only on the error of `Wait()`, which a failed link returns. -/
  panicked : s.goroutinePanicked = true → s.link = .ended false
  result : ∀ r, s.main = .returned r → ResultLaw s r

theorem inv_init : Inv Sys.init := by
  constructor <;> simp [Sys.init, Main.beforeConn]

/-- A step that leaves `Accept`'s goroutine where it is keeps what its result says. -/
theorem Inv.result_step {s s' : Sys} {a : Action} (hs : Inv s) (h : step s a = some s')
    (hmain : s'.main = s.main) (r : Result) (hr : s'.main = .returned r) : ResultLaw s' r := by
  rw [hmain] at hr
  obtain ⟨-, hlink, hconn, hpanic⟩ := step_of_returned hr h
  exact (hs.result r hr).mono (step_le h) hlink (fun hc => hconn hc (hs.noConn hc).1) hpanic

/-- Past `lis.Accept()`, the clauses about the time before a connection hold. -/
theorem Inv.of_past_accept {s : Sys} (hb : s.main.beforeConn = false)
    (server : s.listening = false → s.closed = true ∧ s.socketFile = false)
    (noConn : s.conn = .none → s.closer = .absent ∧ s.link = .absent)
    (noGoroutine : s.conn = .none → s.waiter = .absent ∧ s.goroutinePanicked = false)
    (waitReady : s.main = .waitReady → s.conn ≠ .none)
    (linked : s.clientConnected = true → s.link = .linked ∨ ∃ ok, s.link = .ended ok)
    (panicked : s.goroutinePanicked = true → s.link = .ended false)
    (result : ∀ r, s.main = .returned r → ResultLaw s r) : Inv s :=
  ⟨server, noConn, noGoroutine, fun h => by simp [hb] at h, waitReady,
    fun h => by simp [h, Main.beforeConn] at hb, fun h => by simp [hb] at h, linked, panicked,
    result⟩

/-- Before a connection, `internalCtx` is done only once `acceptCtx` is. -/
theorem acceptCancelled_of_internalDone {s : Sys} (h : s.internalDone = true)
    (hb : s.main.beforeConn = true) (hp : s.goroutinePanicked = false) : s.acceptCancelled = true := by
  cases hm : s.main <;> simp_all [Sys.internalDone, Main.isReturned, Main.beforeConn]

/-- A closer runs only once `Accept` is past `lis.Accept()`. -/
theorem Inv.beforeConn_eq_false {s : Sys} (hs : Inv s) (h : s.closer ≠ .absent) :
    s.main.beforeConn = false := by
  by_contra hb
  exact h (hs.noConn (hs.beforeConn (by simpa using hb))).1

theorem Inv.of_mainStep {s s' : Sys} {ok : Bool} (hs : Inv s) (h : mainStep s ok = some s') :
    Inv s' := by
  unfold mainStep at h
  split at h
  next hm =>
    have hc := hs.beforeConn (by simp [hm, Main.beforeConn])
    have hby := hs.closedBy (by simp [hm, Main.beforeConn])
    have hng := hs.noGoroutine hc
    split_ifs at h with hl hok <;> cases h
    · exact ⟨hs.server, hs.noConn, hs.noGoroutine, fun _ => hc, by simp,
        fun _ => by simpa using hl, fun _ => hby, hs.linked, hs.panicked, by simp⟩
    · have hcc : s.clientConnected = false := by
        by_contra hcc
        rcases hs.linked (by simpa using hcc) with hlk | ⟨_, hlk⟩ <;> simp [(hs.noConn hc).2] at hlk
      exact .of_past_accept rfl hs.server (by simp) (by simp) (by simp) (by simp [hcc])
        (by simp [hng.2]) (by simp)
    · exact ⟨hs.server, hs.noConn, hs.noGoroutine, fun _ => hc, by simp, by simp, fun _ => hby,
        hs.linked, hs.panicked, by simp⟩
  next closedErr hm =>
    cases h
    have hc := hs.beforeConn (by simp [hm, Main.beforeConn])
    have hng := hs.noGoroutine hc
    refine .of_past_accept rfl hs.server hs.noConn hs.noGoroutine (by simp) hs.linked hs.panicked
      fun r hr => ?_
    cases hr
    have hin : s.internalDone = s.acceptCancelled := by
      simp [Sys.internalDone, hm, Main.isReturned, hng.2]
    split_ifs with hce hid
    · have hl := hs.closedErr (by simp_all)
      exact ⟨.inl (by rwa [← hin]), fun _ => ⟨by rwa [← hin], hl, (hs.server hl).2⟩⟩
    · have hl := hs.closedErr (by simp_all)
      have hcaller := (hs.closedBy (by simp [hm, Main.beforeConn]) hl).resolve_left (by simp_all)
      exact ⟨hc, hcaller, hl, (hs.server hl).2, hng.2⟩
    · exact hc
  next hm =>
    have hc := hs.waitReady hm
    have hin : s.internalDone = (s.acceptCancelled || s.goroutinePanicked) := by
      simp [Sys.internalDone, hm, Main.isReturned]
    have hre : s.readyDone = s.clientConnected := by simp [Sys.readyDone, hm, Main.isReturned]
    split_ifs at h with hok hr hlk hi <;> cases h <;>
      refine .of_past_accept rfl hs.server hs.noConn hs.noGoroutine (by simp) hs.linked
        hs.panicked fun r hr' => ?_ <;>
      cases hr'
    · exact ⟨hc, by rwa [hre] at hr⟩
    · exact ⟨hc, by rwa [hre] at hr, (hs.linked (by rwa [hre] at hr)).resolve_left hlk⟩
    · rw [hin, Bool.or_eq_true] at hi
      exact ⟨hi.imp id fun hp => ⟨hp, hs.panicked hp⟩, fun h' => absurd h' hc⟩
  next => cases h

/-- The closer, and the waiter, step only past `lis.Accept()`; a panic of either is on a
failed link. -/
theorem Inv.of_goroutine {s : Sys} (hs : Inv s) (hb : s.main.beforeConn = false) {s' : Sys}
    (hmain : s'.main = s.main) (server : s'.listening = false → s'.closed = true ∧ s'.socketFile = false)
    (hconn : s'.conn ≠ .none) (hlink : s'.link = s.link) (hcc : s'.clientConnected = s.clientConnected)
    (hpanic : s'.goroutinePanicked = true → s.goroutinePanicked = true ∨ s.link = .ended false)
    (result : ∀ r, s'.main = .returned r → ResultLaw s' r) : Inv s' :=
  .of_past_accept (hmain ▸ hb) server (fun h => absurd h hconn) (fun h => absurd h hconn)
    (fun h => hconn) (by rw [hcc, hlink]; exact hs.linked)
    (fun hp => hlink ▸ (hpanic hp).elim hs.panicked id) result

theorem Inv.step {s s' : Sys} {a : Action} (hs : Inv s) (h : AgentServer.step s a = some s') :
    Inv s' := by
  have h₀ := h
  cases a with
  | main ok => exact hs.of_mainStep h
  | watcher ready =>
      simp only [AgentServer.step, watcherStep] at h
      split at h
      · split_ifs at h with hr hi <;> cases h
        · exact ⟨hs.server, hs.noConn, hs.noGoroutine, hs.beforeConn, hs.waitReady, hs.closedErr,
            hs.closedBy, hs.linked, hs.panicked, hs.result_step h₀ rfl⟩
        · exact ⟨fun _ => ⟨rfl, rfl⟩, hs.noConn, hs.noGoroutine, hs.beforeConn, hs.waitReady,
            fun _ => rfl, fun hb _ => .inl (acceptCancelled_of_internalDone ‹_› hb
              (hs.noGoroutine (hs.beforeConn hb)).2),
            hs.linked, hs.panicked, hs.result_step h₀ rfl⟩
      · cases h
  | closer ready =>
      simp only [AgentServer.step, closerStep] at h
      have hconn : s.conn ≠ .none := fun hn => by simp [(hs.noConn hn).1] at h
      split at h
      next hc =>
        have hb := hs.beforeConn_eq_false (by simp [hc])
        split_ifs at h <;> cases h
        · exact hs.of_goroutine hb rfl hs.server hconn rfl rfl .inl (hs.result_step h₀ rfl)
        · exact hs.of_goroutine hb rfl (fun hl => ⟨rfl, (hs.server hl).2⟩) (by simp [Sys.closeConn])
            rfl rfl .inl (hs.result_step h₀ rfl)
      next hc =>
        split_ifs at h
        cases h
        exact hs.of_goroutine (hs.beforeConn_eq_false (by simp [hc])) rfl
          (fun hl => ⟨rfl, (hs.server hl).2⟩) (by simp [Sys.closeConn]) rfl rfl .inl
          (hs.result_step h₀ rfl)
      next hc =>
        have hb := hs.beforeConn_eq_false (by simp [hc])
        split at h <;> cases h <;> rename_i hl
        · exact hs.of_goroutine hb rfl (fun _ => ⟨rfl, rfl⟩) hconn rfl rfl .inl
            (hs.result_step h₀ rfl)
        · exact hs.of_goroutine hb rfl hs.server hconn rfl rfl (fun _ => .inr hl)
            (hs.result_step h₀ rfl)
      next => cases h
  | waiter =>
      simp only [AgentServer.step, waiterStep] at h
      have hconn : s.conn ≠ .none := fun hn => by simp [(hs.noGoroutine hn).1] at h
      have hb : s.main.beforeConn = false := by
        by_contra hb
        exact hconn (hs.beforeConn (by simpa using hb))
      split at h <;> cases h <;> rename_i hl
      · exact hs.of_goroutine hb rfl hs.server hconn rfl rfl .inl (hs.result_step h₀ rfl)
      · exact hs.of_goroutine hb rfl hs.server hconn rfl rfl (fun _ => .inr hl)
          (hs.result_step h₀ rfl)
  | connect =>
      simp only [AgentServer.step] at h
      split at h
      next hl hc =>
        cases h
        exact ⟨hs.server, by simp [hc], by simp [hc], fun hb => by simpa [hc] using hs.beforeConn hb,
          by simp [hc], hs.closedErr, hs.closedBy, fun _ => .inl rfl,
          fun hp => by simp [hs.panicked hp] at hl, hs.result_step h₀ rfl⟩
      next => cases h
  | hangUp clean =>
      simp only [AgentServer.step] at h
      split at h <;> cases h <;> rename_i hl <;>
        exact ⟨hs.server, fun hn => by simp [(hs.noConn hn).2] at hl,
          fun hn => hs.noGoroutine hn, hs.beforeConn, hs.waitReady, hs.closedErr, hs.closedBy,
          fun _ => .inr ⟨_, rfl⟩, fun hp => by simp [hs.panicked hp] at hl, hs.result_step h₀ rfl⟩
  | cancelAccept =>
      cases h
      exact ⟨hs.server, hs.noConn, hs.noGoroutine, hs.beforeConn, hs.waitReady, hs.closedErr,
        fun _ _ => .inl rfl, hs.linked, hs.panicked, hs.result_step h₀ rfl⟩
  | cancelRemote =>
      cases h
      exact ⟨hs.server, hs.noConn, hs.noGoroutine, hs.beforeConn, hs.waitReady, hs.closedErr,
        hs.closedBy, hs.linked, hs.panicked, hs.result_step h₀ rfl⟩
  | close =>
      cases h
      exact ⟨fun _ => ⟨rfl, rfl⟩, hs.noConn, hs.noGoroutine, hs.beforeConn, hs.waitReady,
        fun _ => rfl, fun _ _ => .inr rfl, hs.linked, hs.panicked, hs.result_step h₀ rfl⟩
  | closeAccepting =>
      simp only [AgentServer.step] at h
      split_ifs at h with hr
      cases h
      have hb : s.main.beforeConn = false := by
        cases hm : s.main <;> simp_all [Main.isReturned, Main.beforeConn]
      exact .of_past_accept hb (fun hl => ⟨rfl, (hs.server hl).2⟩) (by simp [Sys.closeConn])
        (by simp [Sys.closeConn]) (by simp [Sys.closeConn]) hs.linked hs.panicked
        (hs.result_step h₀ rfl)

theorem Reach.inv {s : Sys} (h : Reach s) : Inv s :=
  Reachable.induct_inv inv_init (fun _ _ _ _ hs hstep => hs.step hstep) h

/-- `Accept` returns without having accepted a connection only when a caller closed the
server while it waited, when `acceptCtx` was cancelled, or when `lis.Accept()` failed; and
never with `Remote` set. -/
theorem Reach.result_of_conn_none {s : Sys} {r : Result} (h : Reach s) (hr : s.main = .returned r)
    (hc : s.conn = .none) :
    r = .ok false ∧ s.callerClosed = true ∨ r = .contextError ∧ s.acceptCancelled = true ∨
      r = .couldNotAcceptAgentClient := by
  have hlaw := h.inv.result r hr
  cases r with
  | ok remote =>
      cases remote
      · exact .inl ⟨rfl, hlaw.2.1⟩
      · exact absurd hc hlaw.1
  | contextError => exact .inr (.inl ⟨rfl, (hlaw.2 hc).1⟩)
  | couldNotAcceptAgentClient => exact .inr (.inr rfl)
  | noRemoteFound => exact absurd hc hlaw.1

/-! ## `Accept`'s result -/

/-- What `Accept` has returned says about the server (`ResultLaw`), in every interleaving.
`Close` is set exactly when a connection was accepted.  `Accept` ends without a panic of
its own and with a remote only if the agent has linked, and without one only if a caller
closed the server while `Accept` waited, which leaves `errs` `nil` and neither `Remote`
nor `Close` set.  The context's error comes only once `acceptCtx` is cancelled, or once
the link has failed and a goroutine of `Accept` has panicked on `Wait()`'s error; without
a connection `acceptCtx` was cancelled, and the server is closed and its socket file
removed. -/
theorem accept_result {s : Sys} {r : Result} (h : Reach s) (hr : s.main = .returned r) :
    ResultLaw s r :=
  h.inv.result r hr

/-- Two runs.  A caller's `Close` while `Accept` waits in `lis.Accept()`: `Accept` returns
no error and no remote.  A link that fails before the agent links: the waiter panics, and
`Accept` returns the context's error with `acceptCtx` not cancelled. -/
theorem accept_result_closed_or_link_failed :
    (∃ s, Reach s ∧ s.main = .returned (.ok false) ∧ ResultLaw s (.ok false)) ∧
    ∃ s, Reach s ∧ s.main = .returned .contextError ∧ s.acceptCancelled = false ∧
      ResultLaw s .contextError := by
  have hclose : (run step Sys.init [.close, .main true, .main true]).map Sys.main =
      some (.returned (.ok false)) := by decide
  have hfail : (run step Sys.init [.main true, .hangUp false, .waiter, .main false]).map
      (fun s => (s.main, s.acceptCancelled)) = some (.returned .contextError, false) := by decide
  simp only [Option.map_eq_some', Prod.mk.injEq] at hclose hfail
  obtain ⟨s, hs, hm⟩ := hclose
  obtain ⟨s', hs', hm', ha⟩ := hfail
  exact ⟨⟨s, reachable_of_run hs, hm, accept_result (reachable_of_run hs) hm⟩,
    s', reachable_of_run hs', hm', ha, accept_result (reachable_of_run hs') hm'⟩

end Architekt.AgentServer
