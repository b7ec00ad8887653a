/-
  BtcPoolModules.StratumSwitcher.SessionLifecycle — one session's goroutines and every
  interleaving of them (`StratumSession.go`): the driver (`Run` or `Resume`), the three
  goroutines each `proxyStratum` starts, and the goroutines `tryStop` and
  `reconnectStratumServer` start with `go`.

  A goroutine is a program counter.  A step runs one goroutine through one atomic action: a
  section under the session lock, or one access to a shared field outside it.
  `reconnectStratumServer` runs whole under the lock its caller holds, so a reconnect with all
  its dial attempts is one step.  The environment supplies what the code reads from outside:
  how a copy loop ended, the coin the coordinator holds, and the outcome of each connect
  attempt.  Every step emits a label, so that properties of runs are properties of the label
  trace.

  Upstream connections carry the number of the dial that opened them and the coin whose
  server they dialed; `openUpstreams` are those not yet closed.  The client socket, the
  buffered readers and the coordinator channel are left out: no property here reads them.

  Main results:
    * `stopped_then_nil_manager` — `Stop` can run between the coin watcher's `IsRunning()` and
      its use of `session.manager`, and between `proxyStratum`'s `getStat()` and
      `RegisterStratumSession`.
    * `abandoned_switch_relabels_coin` — an abandoned `switchCoinType` has already written
      `miningCoin`.
    * `tryStop_true_then_reconnect` and `reconnect_never_after_stop` — a `tryStop(e)` that
      returned true only schedules `Stop`; once `Stop` has set `StatStoped` no reconnect starts.
    * `failed_handshake_leaks_upstream` — a failed handshake leaves its connection open.
-/
import Mathlib.Data.List.Basic
import BtcPoolModules.StratumSwitcher.Basic

namespace BtcPoolModules.StratumSwitcher.Lifecycle

/-! ## §1. The session's shared state and the environment's answers. -/

/-- An upstream connection: the dial that opened it, and the coin whose server it dialed. -/
structure Upstream where
  dial : ℕ
  coin : String
  deriving DecidableEq, Repr

/-- The fields of `StratumSession` that its goroutines share, and the manager's map entry. -/
structure Session where
  runningStat : RunningStat
  reconnectCounter : ℕ
  /-- `session.manager != nil`. -/
  managerSet : Bool
  /-- `manager.sessions[session.sessionID] == session`. -/
  registered : Bool
  isBTCAgent : Bool
  miningCoin : String
  serverConn : Option Upstream
  openUpstreams : List Upstream
  /-- Upstream dials so far; the next connection's number. -/
  dials : ℕ
  deriving DecidableEq, Repr

/-- How one `connectStratumServer` attempt ends once its coin has a server: `net.Dial` fails,
`serverSubscribeAndAuthorize` fails or times out, or both succeed. -/
inductive Attempt where
  | dialFailed
  | handshakeFailed
  | ok
  deriving DecidableEq, Repr

/-- How `IOCopyBuffer` returned: `ErrReadFailed`, `ErrWriteFailed`, or another end. -/
inductive CopyEnd where
  | readFailed
  | writeFailed
  | other
  deriving DecidableEq, Repr

/-- What the environment answers to one step. -/
inductive Input where
  | tick
  /-- The handshake succeeded, classified the client (`isBTCAgent`), and the coordinator
  holds `coin` for its sub-account. -/
  | login (coin : String) (btcAgent : Bool)
  /-- `GetW` returned `coin`. -/
  | coin (coin : String)
  | copyEnd (e : CopyEnd)
  /-- The outcomes of the connect attempts, in order; one not listed is a failed dial. -/
  | attempts (outs : List Attempt)
  deriving DecidableEq, Repr

/-- The attempt outcomes an input carries. -/
def Input.outcomes : Input → List Attempt
  | .attempts outs => outs
  | _ => []

/-- Where one goroutine of the session is. -/
inductive Pc where
  /-- `Run`: the locked section that moves a Stopped session to Running. -/
  | run
  /-- `Run` after the lock: protocol detection, the handshake and `findMiningCoin`. -/
  | runProxy
  /-- `runProxyStratum`: the first `connectStratumServer`. -/
  | runConnect
  /-- `Resume` of an upgrade that recorded `coin`: its locked section. -/
  | resume (coin : String)
  /-- `Resume` after the lock: the replayed handshake and `findMiningCoin`, compared with the
  recorded coin. -/
  | resumeReplay (coin : String)
  /-- `proxyStratum`: `getStat()`. -/
  | proxyCheck
  /-- `proxyStratum`: `session.manager.RegisterStratumSession(session)`, then three `go`s. -/
  | proxyRegister
  /-- A relay goroutine before `getReconnectCounter()`; `toClient` for server to client. -/
  | relayStart (toClient : Bool)
  /-- A relay goroutine in `IOCopyBuffer`, in epoch `e`. -/
  | relayCopy (toClient : Bool) (e : ℕ)
  /-- A relay goroutine about to call `tryReconnect(e)`. -/
  | relayReconnect (e : ℕ)
  /-- About to call `tryStop(e)`. -/
  | callTryStop (e : ℕ)
  /-- The coin watcher before `getReconnectCounter()`. -/
  | watchStart
  /-- The coin watcher at `<-session.zkWatchEvent`. -/
  | watchWait (e : ℕ)
  /-- `IsRunning()`. -/
  | watchIsRunning (e : ℕ)
  /-- `currentReconnectCounter != session.getReconnectCounter()`. -/
  | watchCounter (e : ℕ)
  /-- `session.manager.zookeeperManager.GetW(...)`. -/
  | watchGetW (e : ℕ)
  /-- `newMiningCoin == session.miningCoin`. -/
  | watchCompare (e : ℕ) (coin : String)
  /-- `session.manager.stratumServerInfoMap[newMiningCoin]`, then the BTCAgent branch. -/
  | watchLookup (e : ℕ) (coin : String)
  /-- `switchCoinType`: `session.miningCoin = newMiningCoin`, before the lock. -/
  | switchSet (e : ℕ) (coin : String)
  /-- `switchCoinType`: its locked section. -/
  | switchLocked (e : ℕ) (coin : String)
  /-- `Stop`: its locked section. -/
  | stopLock
  /-- `Stop`: closing the sockets. -/
  | stopClose
  /-- `Stop`: `session.manager.ReleaseStratumSession(session)`. -/
  | stopRelease
  /-- `Stop`: `session.manager = nil`. -/
  | stopClear
  | done
  /-- A goroutine that dereferenced the nil `session.manager`: the Go runtime panics. -/
  | panicked
  deriving DecidableEq, Repr

/-- What a step did that properties of runs talk about. -/
inductive Label where
  | silent
  /-- `Stop`'s locked section set `StatStoped`. -/
  | stopped
  /-- `tryStop(e)` returned `result`. -/
  | tryStopped (e : ℕ) (result : Bool)
  /-- `tryReconnect(e)` or `switchCoinType(_, e)` moved to `StatReconnecting`. -/
  | reconnectStarted (e : ℕ)
  /-- `RegisterStratumSession` wrote the map entry. -/
  | registered
  /-- A dereference of the nil `session.manager`. -/
  | nilManager
  deriving DecidableEq, Repr

/-- `retryTimeWhenServerDown`. -/
def retryTimeWhenServerDown : ℕ := 10

/-! ## §2. Connecting, reconnecting, stopping. -/

/-- Close one connection: it leaves the open ones. -/
def closeUpstream (s : Session) : Option Upstream → List Upstream
  | some c => s.openUpstreams.erase c
  | none => s.openUpstreams

/-- `connectStratumServer` with the attempt's outcome, and whether it returned `nil`.  A coin
with no server dials nothing; a dial that succeeds stores the connection in `serverConn`
before the handshake. -/
def connectStratumServer (servers : List String) (s : Session) (a : Attempt) : Session × Bool :=
  if s.miningCoin ∉ servers then (s, false)
  else
    let c : Upstream := ⟨s.dials, s.miningCoin⟩
    let dialed := { s with serverConn := some c, openUpstreams := s.openUpstreams ++ [c]
                           dials := s.dials + 1 }
    match a with
    | .dialFailed => (s, false)
    | .handshakeFailed => (dialed, false)
    | .ok => (dialed, true)

/-- The loop `for i := -1; i < retryTime; i++` of `reconnectStratumServer`, with `n` attempts
left: it stops at the first success. -/
def retryConnect (servers : List String) : ℕ → Session → List Attempt → Session × Bool
  | 0, s, _ => (s, false)
  | n + 1, s, outs =>
    match connectStratumServer servers s (outs.headD .dialFailed) with
    | (s', true) => (s', true)
    | (s', false) => retryConnect servers n s' outs.tail

/-- The body shared by `tryReconnect(e)` and `switchCoinType(_, e)` once their guard passed:
`StatReconnecting` and the counter's increment, then `reconnectStratumServer`: unregister,
close the old upstream, retry, and `go proxyStratum()` back in `StatRunning` or `go Stop()`. -/
def startReconnect (servers : List String) (s : Session) (outs : List Attempt) :
    Session × List Pc :=
  let s1 := { s with runningStat := .reconnecting
                     reconnectCounter := (s.reconnectCounter + 1) % 2 ^ 32
                     registered := false, serverConn := none
                     openUpstreams := closeUpstream s s.serverConn }
  match retryConnect servers (retryTimeWhenServerDown + 1) s1 outs with
  | (s2, true) => ({ s2 with runningStat := .running }, [.proxyCheck])
  | (s2, false) => (s2, [.stopLock])

/-- The guard of `tryStop(e)`, `tryReconnect(e)` and `switchCoinType(_, e)`: the session is
Running and no reconnect has happened since epoch `e`. -/
def Session.inEpoch (s : Session) (e : ℕ) : Bool :=
  s.runningStat = .running && e = s.reconnectCounter

/-- Whether a relay goroutine's copy end asks for a reconnect: a failed read of the upstream
for server-to-client, a failed write to it for client-to-server. -/
def reconnectsOn : Bool → CopyEnd → Bool
  | true, .readFailed => true
  | false, .writeFailed => true
  | _, _ => false

/-! ## §3. One step of one goroutine. -/

/-- One atomic action of the goroutine at `pc`: the new shared state, its new program counter,
the goroutines it starts, and the label. -/
def stepPc (servers : List String) (s : Session) (pc : Pc) (i : Input) :
    Session × Pc × List Pc × Label :=
  match pc with
  | .run =>
    if s.runningStat = .stoped then ({ s with runningStat := .running }, .runProxy, [], .silent)
    else (s, .done, [], .silent)
  | .runProxy =>
    match i with
    | .login c b => ({ s with miningCoin := c, isBTCAgent := b }, .runConnect, [], .silent)
    | _ => (s, .stopLock, [], .silent)
  | .runConnect =>
    let r := connectStratumServer servers s (i.outcomes.headD .dialFailed)
    (r.1, if r.2 then .proxyCheck else .stopLock, [], .silent)
  | .resume coin =>
    if s.runningStat = .stoped then
      ({ s with runningStat := .running }, .resumeReplay coin, [], .silent)
    else (s, .done, [], .silent)
  | .resumeReplay coin =>
    match i with
    | .login c b =>
      if c = coin then ({ s with miningCoin := c, isBTCAgent := b }, .proxyCheck, [], .silent)
      else ({ s with miningCoin := c, isBTCAgent := b }, .stopLock, [], .silent)
    | _ => (s, .stopLock, [], .silent)
  | .proxyCheck =>
    if s.runningStat = .running then (s, .proxyRegister, [], .silent) else (s, .done, [], .silent)
  | .proxyRegister =>
    if s.managerSet then
      ({ s with registered := true }, .done,
        [.relayStart true, .relayStart false, .watchStart], .registered)
    else (s, .panicked, [], .nilManager)
  | .relayStart d => (s, .relayCopy d s.reconnectCounter, [], .silent)
  | .relayCopy d e =>
    match i with
    | .copyEnd r =>
      if reconnectsOn d r && !s.isBTCAgent then (s, .relayReconnect e, [], .silent)
      else (s, .callTryStop e, [], .silent)
    | _ => (s, .relayCopy d e, [], .silent)
  | .relayReconnect e =>
    if s.inEpoch e then
      if s.managerSet then
        let r := startReconnect servers s i.outcomes
        (r.1, .done, r.2, .reconnectStarted e)
      else (s, .panicked, [], .nilManager)
    else (s, .done, [], .silent)
  | .callTryStop e =>
    if s.inEpoch e then (s, .done, [.stopLock], .tryStopped e true)
    else (s, .done, [], .tryStopped e false)
  | .watchStart => (s, .watchWait s.reconnectCounter, [], .silent)
  | .watchWait e => (s, .watchIsRunning e, [], .silent)
  | .watchIsRunning e =>
    if s.runningStat = .stoped then (s, .done, [], .silent) else (s, .watchCounter e, [], .silent)
  | .watchCounter e =>
    if e = s.reconnectCounter then (s, .watchGetW e, [], .silent) else (s, .done, [], .silent)
  | .watchGetW e =>
    if s.managerSet then
      match i with
      | .coin c => (s, .watchCompare e c, [], .silent)
      | _ => (s, .watchWait e, [], .silent)
    else (s, .panicked, [], .nilManager)
  | .watchCompare e c =>
    if c = s.miningCoin then (s, .watchWait e, [], .silent) else (s, .watchLookup e c, [], .silent)
  | .watchLookup e c =>
    if s.managerSet then
      if c ∉ servers then (s, .watchWait e, [], .silent)
      else if s.isBTCAgent then (s, .callTryStop e, [], .silent)
      else (s, .switchSet e c, [], .silent)
    else (s, .panicked, [], .nilManager)
  | .switchSet e c => ({ s with miningCoin := c }, .switchLocked e c, [], .silent)
  | .switchLocked e _ =>
    if s.inEpoch e then
      if s.managerSet then
        let r := startReconnect servers s i.outcomes
        (r.1, .done, r.2, .reconnectStarted e)
      else (s, .panicked, [], .nilManager)
    else (s, .done, [], .silent)
  | .stopLock =>
    if s.runningStat = .stoped then (s, .done, [], .silent)
    else ({ s with runningStat := .stoped }, .stopClose, [], .stopped)
  | .stopClose =>
    ({ s with openUpstreams := closeUpstream s s.serverConn }, .stopRelease, [], .silent)
  | .stopRelease =>
    if s.managerSet then ({ s with registered := false }, .stopClear, [], .silent)
    else (s, .panicked, [], .nilManager)
  | .stopClear => ({ s with managerSet := false }, .done, [], .silent)
  | .done => (s, .done, [], .silent)
  | .panicked => (s, .panicked, [], .silent)

/-- The session and its goroutines, in the order they started. -/
structure World where
  session : Session
  goroutines : List Pc
  deriving DecidableEq, Repr

/-- Goroutine `g` takes one step on input `i`; a goroutine that does not exist does nothing. -/
def World.step (servers : List String) (w : World) (g : ℕ) (i : Input) : World × Label :=
  match w.goroutines[g]? with
  | some pc =>
    let r := stepPc servers w.session pc i
    (⟨r.1, w.goroutines.set g r.2.1 ++ r.2.2.1⟩, r.2.2.2)
  | none => (w, .silent)

/-- A schedule run from `w`: the final world and the labels, one per step. -/
def World.exec (servers : List String) : World → List (ℕ × Input) → World × List Label
  | w, [] => (w, [])
  | w, (g, i) :: rest =>
    let r := (w.step servers g i).1.exec servers rest
    (r.1, (w.step servers g i).2 :: r.2)

/-- A new session: Stopped, its manager set, no upstream. -/
def Session.fresh : Session :=
  { runningStat := .stoped, reconnectCounter := 0, managerSet := true, registered := false
    isBTCAgent := false, miningCoin := "", serverConn := none, openUpstreams := [], dials := 0 }

/-- `RunStratumSession`: a new session whose driver is about to `Run`. -/
def World.initRun : World := ⟨Session.fresh, [.run]⟩

/-- `ResumeStratumSession` of a session that mined `coin`: its inherited upstream is open. -/
def World.initResume (coin : String) : World :=
  ⟨{ Session.fresh with serverConn := some ⟨0, coin⟩, openUpstreams := [⟨0, coin⟩], dials := 1 },
    [.resume coin]⟩

/-! ## §4. Interleavings the locks do not prevent. -/

/-- Two coins with servers. -/
def coins : List String := ["btc", "bch"]

/-- A session logs in on `btc` and goes to pure proxy: the driver's five steps. -/
def loginSchedule : List (ℕ × Input) :=
  [(0, .tick), (0, .login "btc" false), (0, .attempts [.ok]), (0, .tick), (0, .tick)]

/-- The client closes (goroutine 1's copy ends on the client side) and `tryStop(0)` starts
`Stop` (goroutine 4), while the coin watcher (goroutine 3) has woken and passed `IsRunning()`;
`Stop` runs to `session.manager = nil` before the watcher's `GetW`. -/
def watchRaceSchedule : List (ℕ × Input) :=
  loginSchedule ++
  [(1, .tick), (3, .tick), (1, .copyEnd .writeFailed), (1, .tick), (3, .tick), (3, .tick),
   (4, .tick), (4, .tick), (4, .tick), (4, .tick), (3, .tick), (3, .coin "bch")]

/-- `tryStop(0)` starts `Stop` (goroutine 4); the other relay's `tryReconnect(0)` still passes
its guard, reconnects and starts `proxyStratum` (goroutine 5), which passes `getStat()` before
`Stop` takes the lock and registers after `ReleaseStratumSession`. -/
def registerRaceSchedule : List (ℕ × Input) :=
  loginSchedule ++
  [(1, .tick), (1, .copyEnd .writeFailed), (1, .tick), (2, .tick), (2, .copyEnd .writeFailed),
   (2, .attempts [.ok]), (5, .tick), (4, .tick), (4, .tick), (4, .tick), (5, .tick)]

/-- **`Stop` races the unguarded uses of `session.manager`.**  In the first schedule the
label at step 11 is `Stop`'s and the one at step 16 a dereference of the nil manager; in the
second `Stop` has run and `RegisterStratumSession` leaves the Stopped session in
`manager.sessions`. -/
theorem stopped_then_nil_manager :
    (World.initRun.exec coins watchRaceSchedule).2[11]? = some .stopped ∧
    (World.initRun.exec coins watchRaceSchedule).2[16]? = some .nilManager ∧
    (World.initRun.exec coins registerRaceSchedule).1.session.runningStat = .stoped ∧
    (World.initRun.exec coins registerRaceSchedule).1.session.registered = true := by
  decide

/-- The coin watcher (goroutine 3) sees `bch` and passes every check; the server-to-client
relay's `tryReconnect(0)` redials `btc`; then `switchCoinType("bch", 0)` runs. -/
def switchRaceSchedule : List (ℕ × Input) :=
  loginSchedule ++
  [(1, .tick), (3, .tick), (3, .tick), (3, .tick), (3, .tick), (3, .coin "bch"), (3, .tick),
   (3, .tick), (1, .copyEnd .readFailed), (1, .attempts [.ok]), (3, .tick), (3, .tick)]

/-- **An abandoned switch keeps its new coin.**  `switchCoinType` writes `miningCoin` before it
abandons on the counter: the session is Running on a `btc` upstream labelled `bch`. -/
theorem abandoned_switch_relabels_coin :
    (World.initRun.exec coins switchRaceSchedule).1.session.runningStat = .running ∧
    (World.initRun.exec coins switchRaceSchedule).1.session.serverConn = some ⟨1, "btc"⟩ ∧
    (World.initRun.exec coins switchRaceSchedule).1.session.miningCoin = "bch" := by
  decide

/-- **`tryStop` decides nothing final.**  `tryStop(0)` returns true (step 7); the other relay's
`tryReconnect(0)` then starts a reconnect of epoch `0` (step 10). -/
theorem tryStop_true_then_reconnect :
    (World.initRun.exec coins registerRaceSchedule).2[7]? = some (.tryStopped 0 true) ∧
    (World.initRun.exec coins registerRaceSchedule).2[10]? = some (.reconnectStarted 0) := by
  decide

/-- A reconnect whose first attempt fails its handshake and whose second succeeds. -/
def handshakeFailSchedule : List (ℕ × Input) :=
  loginSchedule ++ [(1, .tick), (1, .copyEnd .readFailed), (1, .attempts [.handshakeFailed, .ok])]

/-- After that reconnect, `proxyStratum` (goroutine 4) registers, the client leaves, and
`tryStop(1)` starts `Stop` (goroutine 8), which runs to closing the sockets. -/
def clientLeavesSchedule : List (ℕ × Input) :=
  [(4, .tick), (4, .tick), (5, .tick), (5, .copyEnd .other), (5, .tick), (8, .tick), (8, .tick)]

/-- **A failed handshake leaks its upstream.**  After the reconnect two upstreams are open;
after `Stop` has closed the sockets, the first is still open. -/
theorem failed_handshake_leaks_upstream :
    (World.initRun.exec coins handshakeFailSchedule).1.session.openUpstreams =
      [⟨1, "btc"⟩, ⟨2, "btc"⟩] ∧
    (World.initRun.exec coins (handshakeFailSchedule ++ clientLeavesSchedule)).1.session.runningStat
      = .stoped ∧
    (World.initRun.exec coins (handshakeFailSchedule ++ clientLeavesSchedule)).1.session.openUpstreams
      = [⟨1, "btc"⟩] := by
  decide

/-! ## §5. Once `Stop` has set `StatStoped`, no reconnect starts.

`Run` and `Resume` are the only sections that leave `StatStoped`, and each runs first and
alone: every other goroutine descends from it.  So after `Stop`'s section no goroutine can
leave `StatStoped`, and the guard `runningStat == StatRunning` of `tryReconnect` and
`switchCoinType` fails for every epoch. -/

/-- The driver's first sections, `Run` and `Resume`. -/
def Pc.isDriverStart : Pc → Bool
  | .run | .resume _ => true
  | _ => false

@[simp] theorem connectStratumServer_runningStat (servers : List String) (s : Session)
    (a : Attempt) : (connectStratumServer servers s a).1.runningStat = s.runningStat := by
  unfold connectStratumServer
  split_ifs <;> cases a <;> rfl

/-- `reconnectStratumServer` goes on with `proxyStratum` or with `Stop`, never a driver. -/
@[simp] theorem startReconnect_not_driverStart (servers : List String) (s : Session)
    (outs : List Attempt) : ∀ q ∈ (startReconnect servers s outs).2, q.isDriverStart = false := by
  dsimp only [startReconnect]
  split <;> simp [Pc.isDriverStart]

/-- No step starts a driver, in its own place or as a new goroutine. -/
theorem stepPc_not_driverStart (servers : List String) (s : Session) (pc : Pc) (i : Input) :
    (stepPc servers s pc i).2.1.isDriverStart = false ∧
      ∀ q ∈ (stepPc servers s pc i).2.2.1, q.isDriverStart = false := by
  cases pc <;> dsimp only [stepPc] <;> (repeat' split) <;> simp [Pc.isDriverStart] <;>
    exact startReconnect_not_driverStart _ _ _

/-- Only `Stop`'s locked section says `stopped`, and it leaves `StatStoped`. -/
theorem stepPc_stopped {servers : List String} {s : Session} {pc : Pc} {i : Input}
    (h : (stepPc servers s pc i).2.2.2 = .stopped) :
    pc = .stopLock ∧ (stepPc servers s pc i).1.runningStat = .stoped := by
  cases pc <;> dsimp only [stepPc] at h ⊢ <;> (repeat' split at h) <;> simp_all

/-- From `StatStoped`, a goroutine other than a driver start stays in `StatStoped` and
starts no reconnect. -/
theorem stepPc_of_stoped {servers : List String} {s : Session} {pc : Pc} (i : Input)
    (hs : s.runningStat = .stoped) (hpc : pc.isDriverStart = false) :
    (stepPc servers s pc i).1.runningStat = .stoped ∧
      ∀ e, (stepPc servers s pc i).2.2.2 ≠ .reconnectStarted e := by
  have hepoch : ∀ e, s.inEpoch e = false := by simp [Session.inEpoch, hs]
  cases pc <;> simp only [stepPc, hepoch, hs, Pc.isDriverStart] at hpc ⊢ <;>
    (repeat' split) <;> first | exact ⟨hs, fun _ => nofun⟩ | simp_all

/-- No goroutine is a driver that has not taken its first section. -/
def World.NoDriver (w : World) : Prop := ∀ pc ∈ w.goroutines, pc.isDriverStart = false

/-- A driver that has not taken its first section runs alone. -/
def World.DriverAlone (w : World) : Prop :=
  ∀ pc ∈ w.goroutines, pc.isDriverStart = true → w.goroutines = [pc]

/-- Stopped for good: `StatStoped`, and no driver left to leave it. -/
def World.Quiet (w : World) : Prop := w.session.runningStat = .stoped ∧ w.NoDriver

section Runs

variable {servers : List String} {w : World} {g : ℕ} {i : Input}

@[simp] theorem World.exec_nil : w.exec servers [] = (w, []) := rfl

@[simp] theorem World.exec_cons (rest : List (ℕ × Input)) :
    w.exec servers ((g, i) :: rest) =
      (((w.step servers g i).1.exec servers rest).1,
        (w.step servers g i).2 :: ((w.step servers g i).1.exec servers rest).2) := rfl

/-- After a step a goroutine was there before, or is not a driver start. -/
theorem World.mem_step {q : Pc} (hq : q ∈ (w.step servers g i).1.goroutines) :
    q ∈ w.goroutines ∨ q.isDriverStart = false := by
  unfold World.step at hq
  split at hq
  · rcases List.mem_append.1 hq with hq | hq
    · rcases List.mem_or_eq_of_mem_set hq with hq | rfl
      · exact .inl hq
      · exact .inr (stepPc_not_driverStart ..).1
    · exact .inr ((stepPc_not_driverStart ..).2 q hq)
  · exact .inl hq

theorem World.step_noDriver (h : w.NoDriver) : (w.step servers g i).1.NoDriver :=
  fun q hq => (World.mem_step hq).elim (h q) id

theorem World.step_driverAlone (h : w.DriverAlone) : (w.step servers g i).1.DriverAlone := by
  intro q hq hd
  have hw : w.goroutines = [q] := h q ((World.mem_step hq).resolve_right (by simp [hd])) hd
  cases g with
  | zero =>
    -- the driver itself stepped, and what replaced it is not a driver start
    simp only [World.step, hw, List.getElem?_cons_zero, List.set_cons_zero, List.cons_append,
      List.nil_append, List.mem_cons] at hq
    have hn := stepPc_not_driverStart servers w.session q i
    rcases hq with hq | hq
    · simp [← hq, hd] at hn
    · simp [hn.2 q hq] at hd
  | succ g => simp [World.step, hw]

theorem World.exec_driverAlone (h : w.DriverAlone) (sched : List (ℕ × Input)) :
    (w.exec servers sched).1.DriverAlone := by
  induction sched generalizing w with
  | nil => exact h
  | cons gi rest ih => exact ih (World.step_driverAlone h)

/-- The step that runs `Stop`'s locked section leaves the world quiet. -/
theorem World.step_stopped_quiet (h : w.DriverAlone) (hl : (w.step servers g i).2 = .stopped) :
    (w.step servers g i).1.Quiet := by
  cases hpc : w.goroutines[g]? with
  | none => simp [World.step, hpc] at hl
  | some pc =>
    have hnd' := @World.step_noDriver servers w g i
    simp only [World.step, hpc] at hl hnd' ⊢
    obtain ⟨rfl, hs⟩ := stepPc_stopped hl
    -- `Stop` runs, so no driver is waiting: a waiting driver runs alone
    have hnd : w.NoDriver := fun q hq => by
      by_contra hd
      have hmem := List.getElem?_mem hpc
      rw [h q hq (by simpa using hd), List.mem_singleton] at hmem
      simp [← hmem, Pc.isDriverStart] at hd
    exact ⟨hs, hnd' hnd⟩

/-- A quiet world stays quiet and starts no reconnect. -/
theorem World.step_quiet (h : w.Quiet) :
    (w.step servers g i).1.Quiet ∧ ∀ e, (w.step servers g i).2 ≠ .reconnectStarted e := by
  have hnd := @World.step_noDriver servers w g i h.2
  cases hpc : w.goroutines[g]? with
  | none =>
    simp only [World.step, hpc] at hnd ⊢
    exact ⟨h, by simp⟩
  | some pc =>
    simp only [World.step, hpc] at hnd ⊢
    have hs := @stepPc_of_stoped servers _ _ i h.1 (h.2 pc (List.getElem?_mem hpc))
    exact ⟨⟨hs.1, hnd⟩, hs.2⟩

theorem World.exec_quiet (h : w.Quiet) (sched : List (ℕ × Input)) :
    (w.exec servers sched).1.Quiet ∧ ∀ e, .reconnectStarted e ∉ (w.exec servers sched).2 := by
  induction sched generalizing w with
  | nil => exact ⟨h, by simp⟩
  | cons gi rest ih =>
    obtain ⟨g, i⟩ := gi
    obtain ⟨hq, hl⟩ := @World.step_quiet servers w g i h
    obtain ⟨ih₁, ih₂⟩ := ih hq
    exact ⟨ih₁, fun e he => (List.mem_cons.1 he).elim (fun h => hl e h.symm) (ih₂ e)⟩

end Runs

theorem World.initRun_driverAlone : World.initRun.DriverAlone := by
  simp [World.DriverAlone, World.initRun]

theorem World.initResume_driverAlone (coin : String) : (World.initResume coin).DriverAlone := by
  simp [World.DriverAlone, World.initResume]

/-- **`Stop` is final.**  Start from a new or a resumed session and run any schedule; if the
next step is `Stop`'s locked section, then along every schedule that follows the session stays
in `StatStoped` and no `tryReconnect(e)` or `switchCoinType(_, e)` starts a reconnect, for any
`e`. -/
theorem reconnect_never_after_stop {servers : List String} {w₀ : World}
    (hw₀ : w₀ = .initRun ∨ ∃ coin, w₀ = .initResume coin) (pre : List (ℕ × Input)) (g : ℕ)
    (i : Input) (hstop : ((w₀.exec servers pre).1.step servers g i).2 = .stopped)
    (post : List (ℕ × Input)) :
    let w := ((w₀.exec servers pre).1.step servers g i).1.exec servers post
    w.1.session.runningStat = .stoped ∧ ∀ e, .reconnectStarted e ∉ w.2 := by
  have h₀ : w₀.DriverAlone := by
    rcases hw₀ with rfl | ⟨coin, rfl⟩
    exacts [World.initRun_driverAlone, World.initResume_driverAlone coin]
  obtain ⟨⟨hs, -⟩, hl⟩ :=
    World.exec_quiet (World.step_stopped_quiet (World.exec_driverAlone h₀ pre) hstop) post
  exact ⟨hs, hl⟩

/-- The client ends the session (`tryStop(0)` starts `Stop` as goroutine 4), `Stop` runs,
and the other relay then fails on upstream: its `tryReconnect(0)` abstains. -/
theorem reconnect_never_after_stop_client_close :
    let pre := loginSchedule ++ [(1, .tick), (1, .copyEnd .writeFailed), (1, .tick)]
    ((World.initRun.exec coins pre).1.step coins 4 .tick).2 = .stopped ∧
    let w := ((World.initRun.exec coins pre).1.step coins 4 .tick).1.exec coins
      [(2, .tick), (2, .copyEnd .writeFailed), (2, .attempts [.ok])]
    w.1.session.runningStat = .stoped ∧ ∀ e, .reconnectStarted e ∉ w.2 :=
  ⟨by decide, reconnect_never_after_stop (.inl rfl) _ 4 .tick (by decide) _⟩

end BtcPoolModules.StratumSwitcher.Lifecycle
