/-
  BtcPoolModules.StratumSwitcher.LockOrder — the switcher's goroutines and its mutexes: every
  interleaving of the main goroutine, the session drivers, the relay and coin-watch goroutines,
  the goroutines `tryStop` and `reconnectStratumServer` start, the `NodeWatcher.Run` goroutines,
  the readers behind every timed wait, and the upgrade handler.

  Each goroutine runs the lock skeleton of its Go function (§2): its `Lock` and `Unlock` calls,
  the ZooKeeper manager's locked sections (which step the manager of `ZookeeperManager`), its
  channel sends, the goroutines it starts with `go`, and everything else as one step that
  touches no mutex.  A branch on data becomes a choice of the schedule, and a loop runs as often
  as the schedule says, so the runs of the model include every run of the code.

  `Prog.check` (§3) walks a skeleton with the locks it holds and refuses an acquisition out of
  the order session, manager, ZooKeeper manager, an unlock of a lock not held, a ZooKeeper section
  outside the ZooKeeper lock, and a send or a change of session under a lock.  Every skeleton
  passes (`code_check`), and the check is kept by every step of every goroutine (`World.Inv.step`).

  Main results:
    * `World.Inv.run` — in every reachable state each goroutine's remaining code passes the check from
      the locks it holds, and the ZooKeeper manager keeps its invariant.
    * `switcher_deadlock_free` — no reachable state has a cycle of goroutines each blocked on a
      mutex the next one holds, or at a send while holding one; every nested acquisition follows
      the order; and every send `NodeWatcher.Run` makes under the ZooKeeper lock finds an empty
      buffer.
-/
import BtcPoolModules.StratumSwitcher.ZookeeperManager

namespace BtcPoolModules.StratumSwitcher.LockOrder

/-! ## §1. Mutexes, and the skeletons' syntax. -/

/-- The mutexes a goroutine's code names: its session's `StratumSession.lock`, and the locks of
the `StratumSessionManager`, the `ZookeeperManager` and the `SessionIDManager`. -/
inductive LockName where
  | session
  | manager
  | zookeeper
  | sessionIDs
  deriving DecidableEq, Repr

/-- The nestings allowed: the session's lock, then the manager's, then the ZooKeeper manager's.
The allocator's lock nests with none. -/
def LockName.Before : LockName → LockName → Bool
  | .session, .manager | .session, .zookeeper | .manager, .zookeeper => true
  | _, _ => false

/-- A position in that order. -/
def LockName.rank : LockName → ℕ
  | .session => 0
  | .manager => 1
  | .zookeeper => 2
  | .sessionIDs => 3

theorem LockName.rank_lt_of_before {a b : LockName} (h : a.Before b = true) :
    a.rank < b.rank := by
  cases a <;> cases b <;> first | decide | exact absurd h (by decide)

/-- A mutex of the running program: one for each session, and one for each manager. -/
inductive Lock where
  | session (sessionID : ℕ)
  | manager
  | zookeeper
  | sessionIDs
  deriving DecidableEq, Repr

/-- The mutex a goroutine of session `sid` means by `l`: a session's goroutines lock only their
own session. -/
def LockName.resolve (sid : ℕ) : LockName → Lock
  | .session => .session sid
  | .manager => .manager
  | .zookeeper => .zookeeper
  | .sessionIDs => .sessionIDs

theorem LockName.eq_of_resolve_eq {a b : LockName} {s t : ℕ} (h : a.resolve s = b.resolve t) :
    a = b := by
  cases a <;> cases b <;> first | rfl | cases h

/-- The functions a `go` statement starts. -/
inductive Kind where
  /-- `go manager.RunStratumSession(conn)`. -/
  | runStratumSession
  /-- `go session.Stop()`. -/
  | stop
  /-- `go session.proxyStratum()`. -/
  | proxyStratum
  /-- `proxyStratum`'s relay from the server to the client. -/
  | downStream
  /-- `proxyStratum`'s relay from the client to the server. -/
  | upStream
  /-- `proxyStratum`'s coin watcher. -/
  | coinWatcher
  /-- The goroutine `NodeWatcher.Run` starts. -/
  | nodeWatcher
  /-- A reader behind a timed wait: in `stratumFindWorkerName`, `serverSubscribeAndAuthorize`,
  the `...WithTimeout` helpers and `NewZookeeperManager`. -/
  | reader
  /-- `go signalUSR2Listener(...)` of `Upgradable`. -/
  | upgradeListener
  /-- `main`'s HTTP debug server. -/
  | httpDebug
  deriving DecidableEq, Repr

/-- The locked sections of the ZooKeeper manager. -/
inductive ZkSection where
  | getW
  | releaseW
  /-- The section of `NodeWatcher.Run` after the watch fired. -/
  | fire
  deriving DecidableEq, Repr

/-- One step of a goroutine's code. -/
inductive Op where
  | lock (l : LockName)
  | unlock (l : LockName)
  /-- The body of a locked section of the ZooKeeper manager. -/
  | zk (s : ZkSection)
  /-- A send on a buffered channel outside the ZooKeeper manager. -/
  | send
  /-- What touches no mutex: a read or write on a connection, a receive, a sleep, a select
  with a timer, a call to the coordinator. -/
  | io
  /-- `go f()` with `f` a function of the same session. -/
  | go (k : Kind)
  /-- The accept loop's `go manager.RunStratumSession(conn)`, for a new session. -/
  | accept
  /-- The main goroutine turns to the next session of the runtime data. -/
  | nextSession
  deriving DecidableEq, Repr

/-- A goroutine's lock skeleton. -/
inductive Prog where
  | skip
  | op (o : Op)
  | seq (p q : Prog)
  /-- A branch on data: the schedule picks the arm. -/
  | choice (p q : Prog)
  /-- A loop: the schedule picks how often the body runs. -/
  | loop (p : Prog)
  deriving DecidableEq, Repr

/-- The programs one after another. -/
def Prog.seqs : List Prog → Prog
  | [] => .skip
  | [p] => p
  | p :: ps => .seq p (Prog.seqs ps)

/-- `l.Lock()`, `p`, `l.Unlock()`; also `defer l.Unlock()` with `p` the rest of the function. -/
def Prog.locked (l : LockName) (p : Prog) : Prog := .seqs [.op (.lock l), p, .op (.unlock l)]

/-! ## §2. The skeletons of the switcher's functions. -/

/-- `SessionIDManager.AllocSessionID`, `ResumeSessionID` and `FreeSessionID`. -/
def sessionIDManagerSection : Prog := .locked .sessionIDs (.op .io)

/-- `ZookeeperManager.GetW`: the section, and for a new watcher `defer watcher.Run()`, which
runs before the deferred unlock. -/
def getW : Prog := .locked .zookeeper (.seq (.op (.zk .getW)) (.choice .skip (.op (.go .nodeWatcher))))

/-- `ZookeeperManager.ReleaseW`. -/
def releaseW : Prog := .locked .zookeeper (.op (.zk .releaseW))

/-- The goroutine of `NodeWatcher.Run`: it waits for the watch, then, under the lock, sends the
event to every channel, closes it, and removes the watcher. -/
def nodeWatcherRun : Prog := .seq (.op .io) (.locked .zookeeper (.op (.zk .fire)))

/-- `RegisterStratumSession`. -/
def registerStratumSession : Prog := .locked .manager (.op .io)

/-- `UnRegisterStratumSession`: the manager's map, then `ReleaseW` after the unlock. -/
def unRegisterStratumSession : Prog := .seq (.locked .manager (.op .io)) releaseW

/-- `ReleaseStratumSession`: the manager's map, `FreeSessionID`, `ReleaseW`, one after another. -/
def releaseStratumSession : Prog :=
  .seqs [.locked .manager (.op .io), sessionIDManagerSection, releaseW]

/-- `IsRunning`, `getStat`, `getReconnectCounter`: one read under the session's lock. -/
def sessionSection : Prog := .locked .session (.op .io)

/-- `Stop`: under the session's lock, return if stopped, else mark it stopped; then close the
connections and release the session. -/
def stop : Prog :=
  .seq (.op (.lock .session)) (.choice (.op (.unlock .session))
    (.seqs [.op (.unlock .session), .op .io, releaseStratumSession]))

/-- `tryStop`: under the session's lock, `go session.Stop()` unless it stopped or reconnected. -/
def tryStop : Prog := .locked .session (.choice .skip (.op (.go .stop)))

/-- A timed wait (`peekWithTimeout`, the selects of `stratumFindWorkerName` and
`serverSubscribeAndAuthorize`, ...): a reader goroutine, then a wait that ends on its send or on
the timer. -/
def withTimeout : Prog := .seq (.op (.go .reader)) (.op .io)

/-- A reader: it reads and handles what it read, then sends its one result on a channel made
with room for it. -/
def reader : Prog := .seq (.op .io) (.op .send)

/-- `serverSubscribeAndAuthorize`: the three requests, then the reader and the wait. -/
def serverSubscribeAndAuthorize : Prog := .seq (.op .io) (.choice .skip withTimeout)

/-- `connectStratumServer`: the dial, then the handshake with the server. -/
def connectStratumServer : Prog := .seq (.op .io) (.choice .skip serverSubscribeAndAuthorize)

/-- `reconnectStratumServer`, run under the session's lock: unregister, close the old
connection, connect until an attempt succeeds or all failed (each failure followed by a sleep),
then `go session.Stop()` or `go session.proxyStratum()`. -/
def reconnectStratumServer : Prog :=
  .seqs [unRegisterStratumSession, .op .io, .loop (.seq connectStratumServer (.op .io)),
    .choice .skip connectStratumServer, .choice (.op (.go .stop)) (.op (.go .proxyStratum))]

/-- `tryReconnect`: under the session's lock, reconnect unless it stopped or reconnected. -/
def tryReconnect : Prog := .locked .session (.choice .skip reconnectStratumServer)

/-- `switchCoinType`: set the coin, then as `tryReconnect`. -/
def switchCoinType : Prog := .seq (.op .io) tryReconnect

/-- `proxyStratum`: unless the session stopped, register it and start the two relays and the
coin watcher. -/
def proxyStratum : Prog :=
  .seq sessionSection (.choice .skip (.seqs [registerStratumSession, .op (.go .downStream),
    .op (.go .upStream), .op (.go .coinWatcher)]))

/-- The relay from the server: copy until a side closes, then reconnect after a failed read from
the server (not for a BTCAgent), or stop. -/
def downStream : Prog := .seqs [sessionSection, .op .io, .choice tryReconnect tryStop]

/-- The relay from the client: likewise after a failed write to the server, after which it
forwards what it holds if the session runs again. -/
def upStream : Prog :=
  .seqs [sessionSection, .op .io, .choice
    (.seq tryReconnect (.choice .skip (.seq sessionSection (.choice .skip (.op .io))))) tryStop]

/-- The coin watcher: after each watch event it checks the session under its lock and reads the
coin with `GetW`.  It goes round again after an error (and a sleep), an unchanged coin or a coin
without a server; it ends where the session stopped or reconnected, or after it stopped or
switched the session. -/
def coinWatcher : Prog :=
  .seqs [sessionSection, .loop (.seqs [.op .io, sessionSection, sessionSection, getW, .op .io]),
    .op .io, sessionSection, .choice .skip (.seq sessionSection (.choice .skip
      (.seqs [getW, .op .io, .choice tryStop switchCoinType])))]

/-- `tryAutoReg`: `GetW` of the registration path, on an error `Create` and `GetW` again, then
the wait for the registration and `findMiningCoin(false)`. -/
def tryAutoReg : Prog :=
  .seqs [getW, .choice .skip (.seq (.op .io) getW), .choice .skip (.seq (.op .io) getW)]

/-- `runProxyStratum`: the miner's handshake, the coin (registering the sub-account where that
is enabled), the server, then proxy mode; `Stop` on the first failure. -/
def runProxyStratum : Prog :=
  .seqs [withTimeout, .choice stop (.seqs [getW, .choice .skip tryAutoReg,
    .choice stop (.seq connectStratumServer (.choice stop proxyStratum))])]

/-- `Run`: under the session's lock, return unless stopped, else mark it running; then detect
the protocol with a timed peek, and stop or run the proxy. -/
def run : Prog :=
  .seq (.op (.lock .session)) (.choice (.op (.unlock .session))
    (.seqs [.op (.unlock .session), withTimeout, .choice stop runProxyStratum]))

/-- `RunStratumSession`: allocate the session ID, then run the session. -/
def runStratumSession : Prog := .seq sessionIDManagerSection (.choice .skip run)

/-- `Resume`: as `Run`, but replaying the saved requests, then reading the coin, and stopping or
going to proxy mode. -/
def resume : Prog :=
  .seq (.op (.lock .session)) (.choice (.op (.unlock .session))
    (.seqs [.op (.unlock .session), .op .io, .choice stop (.seq getW (.choice stop proxyStratum))]))

/-- `ResumeStratumSession`: rebuild the connections, resume the ID, resume the session. -/
def resumeStratumSession : Prog :=
  .seq (.op .io) (.choice .skip (.seq sessionIDManagerSection resume))

/-- `upgradeStratumSwitcher`: read every session under the manager's lock, then write the runtime
file, close the coordinator's connection and execute the new binary. -/
def upgradeStratumSwitcher : Prog := .seq (.locked .manager (.op .io)) (.op .io)

/-- The listener `Upgradable` starts (`signalUSR2Listener`, whose code is not in the
repository): it waits for the signal and upgrades, as often as signals come. -/
def upgradeListener : Prog := .loop (.seq (.op .io) upgradeStratumSwitcher)

/-- `main`: maybe the HTTP debug server, `NewZookeeperManager`'s timed wait for the coordinator,
the rest of `NewStratumSessionManager`, then `StratumSessionManager.Run`: resume the saved
sessions one after another, listen, make the switcher upgradable, and start a goroutine for each
accepted connection. -/
def main : Prog :=
  .seqs [.choice .skip (.op (.go .httpDebug)), withTimeout, .op .io,
    .loop (.seq (.op .nextSession) resumeStratumSession), .op .io, .op (.go .upgradeListener),
    .loop (.op .accept)]

/-- The code each `go` statement starts. -/
def Kind.code : Kind → Prog
  | .runStratumSession => LockOrder.runStratumSession
  | .stop => LockOrder.stop
  | .proxyStratum => LockOrder.proxyStratum
  | .downStream => LockOrder.downStream
  | .upStream => LockOrder.upStream
  | .coinWatcher => LockOrder.coinWatcher
  | .nodeWatcher => nodeWatcherRun
  | .reader => LockOrder.reader
  | .upgradeListener => LockOrder.upgradeListener
  | .httpDebug => .op .io

/-! ## §3. The check. -/

/-- The locks held after `o`, from `held`; `none` where `o` locks out of order or a lock it
holds, unlocks a lock it does not hold, runs a ZooKeeper section without the ZooKeeper lock, or
sends or changes session holding a lock. -/
def Op.check (held : List LockName) : Op → Option (List LockName)
  | .lock l => if held.all (·.Before l) then some (l :: held) else none
  | .unlock l => if l ∈ held then some (held.erase l) else none
  | .zk _ => if .zookeeper ∈ held then some held else none
  | .send | .nextSession => if held = [] then some held else none
  | .io | .go _ | .accept => some held

/-- The locks held after `p`, from `held`; `none` where some run of `p` breaks the discipline, or
two runs of it end holding different locks. -/
def Prog.check : Prog → List LockName → Option (List LockName)
  | .skip, held => some held
  | .op o, held => o.check held
  | .seq p q, held => (p.check held).bind q.check
  | .choice p q, held => if p.check held = q.check held then p.check held else none
  | .loop p, held => if p.check held = some held then some held else none

/-- The check of a goroutine's remaining code, a stack of programs. -/
def checkCont : List Prog → List LockName → Option (List LockName)
  | [], held => some held
  | p :: ps, held => (p.check held).bind (checkCont ps)

/-- **Every skeleton passes the check**, from no lock to no lock. -/
theorem code_check : ∀ k : Kind, k.code.check [] = some [] := by
  intro k; cases k <;> decide

theorem main_check : main.check [] = some [] := by decide

/-- The check refuses the other order: a manager section that took a session's lock. -/
example : (Prog.locked .manager (Prog.locked .session (.op .io))).check [] = none := by decide

/-! ## §4. Interleavings. -/

/-- A goroutine: the session it works for, its remaining code, and the locks it holds. -/
structure Goroutine where
  sid : ℕ
  cont : List Prog
  held : List LockName

/-- The running switcher: its goroutines, and the ZooKeeper manager's state. -/
structure World where
  goroutines : List Goroutine
  zk : ZookeeperManager

/-- What the schedule decides at a step: the arm of a branch, or whether a loop goes round; the
session of a new goroutine; the path of a ZooKeeper section and what the coordinator answers. -/
structure Input where
  branch : Bool
  sessionID : ℕ
  path : String
  zkGetW : Option String

/-- Whether some goroutine holds the mutex `L`. -/
def World.isHeld (w : World) (L : Lock) : Bool :=
  w.goroutines.any fun x => x.held.any fun l => l.resolve x.sid = L

/-- The manager's section a goroutine of session `sid` runs, with the schedule's data. -/
def ZkSection.event (sid : ℕ) (i : Input) : ZkSection → ZkEvent
  | .getW => .getW i.path sid i.zkGetW
  | .releaseW => .releaseW i.path sid
  | .fire => .fire i.path

/-- One step of goroutine `x`, whose code goes on with `p` and then `rest`: the goroutine after
it, the goroutines it starts, and the ZooKeeper manager.  A lock another goroutine, or `x`
itself, holds leaves `x` where it is. -/
def stepHead (w : World) (x : Goroutine) (p : Prog) (rest : List Prog) (i : Input) :
    Goroutine × List Goroutine × ZookeeperManager :=
  match p with
  | .skip => (⟨x.sid, rest, x.held⟩, [], w.zk)
  | .seq p q => (⟨x.sid, p :: q :: rest, x.held⟩, [], w.zk)
  | .choice p q => (⟨x.sid, (if i.branch then p else q) :: rest, x.held⟩, [], w.zk)
  | .loop p => (⟨x.sid, if i.branch then p :: .loop p :: rest else rest, x.held⟩, [], w.zk)
  | .op (.lock l) =>
    if w.isHeld (l.resolve x.sid) then (x, [], w.zk) else (⟨x.sid, rest, l :: x.held⟩, [], w.zk)
  | .op (.unlock l) => (⟨x.sid, rest, x.held.erase l⟩, [], w.zk)
  | .op (.zk s) => (⟨x.sid, rest, x.held⟩, [], w.zk.step (s.event x.sid i))
  | .op (.go k) => (⟨x.sid, rest, x.held⟩, [⟨x.sid, [k.code], []⟩], w.zk)
  | .op .accept =>
    (⟨x.sid, rest, x.held⟩, [⟨i.sessionID, [Kind.runStratumSession.code], []⟩], w.zk)
  | .op .nextSession => (⟨i.sessionID, rest, x.held⟩, [], w.zk)
  | .op .send | .op .io => (⟨x.sid, rest, x.held⟩, [], w.zk)

/-- One step of goroutine `g`; new goroutines go to the end. -/
def World.step (w : World) (g : ℕ) (i : Input) : World :=
  match w.goroutines[g]? with
  | some x =>
    match x.cont with
    | p :: rest =>
      let r := stepHead w x p rest i
      ⟨w.goroutines.set g r.1 ++ r.2.1, r.2.2⟩
    | [] => w
  | none => w

/-- A schedule: which goroutine steps, with what choices. -/
def World.run (w : World) : List (ℕ × Input) → World
  | [] => w
  | (g, i) :: sched => (w.step g i).run sched

/-- The process at start: the main goroutine, and an empty ZooKeeper manager. -/
def World.init : World := ⟨[⟨0, [main], []⟩], ZookeeperManager.empty⟩

/-! ## §5. The invariant. -/

/-- **The invariant**: every goroutine's remaining code passes the check from the locks it
holds, and the ZooKeeper manager keeps its own invariant. -/
structure World.Inv (w : World) : Prop where
  checked : ∀ x ∈ w.goroutines, (checkCont x.cont x.held).isSome
  zk : w.zk.Inv

/-- A step keeps the check of the goroutine that took it. -/
theorem stepHead_checked {w : World} {x : Goroutine} {p : Prog} {rest : List Prog} (i : Input)
    (hx : x.cont = p :: rest) (h : (checkCont x.cont x.held).isSome) :
    (checkCont (stepHead w x p rest i).1.cont (stepHead w x p rest i).1.held).isSome := by
  rw [hx] at h
  simp only [checkCont] at h
  cases p with
  | skip => simpa [stepHead, Prog.check] using h
  | seq p q => simpa [stepHead, Prog.check, checkCont, Option.bind_assoc] using h
  | choice p q =>
    simp only [Prog.check] at h
    split_ifs at h with hpq
    · cases hb : i.branch <;> simp_all [stepHead, checkCont]
    · simp at h
  | loop p =>
    simp only [Prog.check] at h
    split_ifs at h with hp
    · cases hb : i.branch <;> simp_all [stepHead, checkCont, Prog.check]
    · simp at h
  | op o =>
    cases o <;> simp only [stepHead, Prog.check, Op.check] at h ⊢ <;> (try split_ifs at h ⊢) <;>
      simp_all [checkCont, Prog.check, Op.check]

/-- The goroutines a step starts pass the check. -/
theorem stepHead_started {w : World} {x : Goroutine} {p : Prog} {rest : List Prog} (i : Input) :
    ∀ y ∈ (stepHead w x p rest i).2.1, (checkCont y.cont y.held).isSome := by
  cases p with
  | op o =>
    cases o <;> simp only [stepHead] <;> (try split_ifs) <;>
      simp [checkCont, code_check]
  | _ => simp [stepHead]

/-- A step keeps the ZooKeeper manager's invariant. -/
theorem stepHead_zk {w : World} {x : Goroutine} {p : Prog} {rest : List Prog} (i : Input)
    (h : w.zk.Inv) : (stepHead w x p rest i).2.2.Inv := by
  cases p with
  | op o => cases o <;> simp only [stepHead] <;> (try split_ifs) <;> first | exact h | exact h.step _
  | _ => exact h

theorem World.Inv.init : World.init.Inv :=
  ⟨by simp [World.init, checkCont, main_check], ZookeeperManager.Inv.empty⟩

/-- **The step lemma.** -/
theorem World.Inv.step {w : World} (hw : w.Inv) (g : ℕ) (i : Input) : (w.step g i).Inv := by
  unfold World.step
  split
  · rename_i x hx
    split
    · rename_i p rest hc
      refine ⟨fun y hy => ?_, stepHead_zk i hw.zk⟩
      rcases List.mem_append.1 hy with hy | hy
      · rcases List.mem_or_eq_of_mem_set hy with hy | rfl
        · exact hw.checked y hy
        · exact stepHead_checked i hc (hw.checked x (List.getElem?_mem hx))
      · exact stepHead_started i y hy
    · exact hw
  · exact hw

/-- **The run lemma**: every reachable state keeps the invariant. -/
theorem World.Inv.run {w : World} (hw : w.Inv) (sched : List (ℕ × Input)) : (w.run sched).Inv := by
  induction sched generalizing w with
  | nil => exact hw
  | cons gi sched ih => exact ih (hw.step gi.1 gi.2)

/-! ## §6. No deadlock. -/

/-- Goroutine `g` is blocked locking a mutex that goroutine `h` holds. -/
def World.WaitsFor (w : World) (g h : ℕ) : Prop :=
  ∃ x y l rest, w.goroutines[g]? = some x ∧ w.goroutines[h]? = some y ∧
    x.cont = .op (.lock l) :: rest ∧ ∃ l' ∈ y.held, l'.resolve y.sid = l.resolve x.sid

set_option maxRecDepth 4000 in
/-- Goroutines do wait: the main goroutine accepts two connections, the first takes the session
ID manager's lock, and the second is blocked on it. -/
example : (World.init.run (List.replicate 10 (0, ⟨true, 1, "", none⟩) ++
    (0, ⟨false, 1, "", none⟩) :: List.replicate 8 (0, ⟨true, 1, "", none⟩) ++
    List.replicate 3 (3, ⟨true, 1, "", none⟩) ++ List.replicate 3 (4, ⟨true, 1, "", none⟩))).WaitsFor 4 3 :=
  ⟨_, _, .sessionIDs, _, rfl, rfl, rfl, .sessionIDs, by decide, rfl⟩

/-- Goroutine `g` is at a channel send while it holds a mutex. -/
def World.SendsHolding (w : World) (g : ℕ) : Prop :=
  ∃ x rest, w.goroutines[g]? = some x ∧ x.cont = .op .send :: rest ∧ x.held ≠ []

/-- **A deadlock**: goroutines `c 0`, ..., `c (k - 1)` in a cycle, each blocked locking a mutex
the next one holds, or at a send while holding a mutex. -/
def World.Deadlock (w : World) : Prop :=
  ∃ k, 0 < k ∧ ∃ c : ℕ → ℕ, ∀ i < k,
    w.WaitsFor (c i) (c ((i + 1) % k)) ∨ w.SendsHolding (c i)

/-- Every goroutine about to lock `l` holds only locks that `l` may nest in. -/
def World.NestsInOrder (w : World) : Prop :=
  ∀ x ∈ w.goroutines, ∀ l rest, x.cont = .op (.lock l) :: rest →
    ∀ h ∈ x.held, h.Before l = true

/-- When `NodeWatcher.Run`'s locked section comes to a channel, after sending to and closing
those before it, the channel is untouched: the send finds its one-slot buffer empty. -/
def World.FireSendsFresh (w : World) : Prop :=
  ∀ p nw pre c post, w.zk.watcherMap.lookup p = some nw →
    nw.watcherChannels.entries.map (·.2) = pre ++ c :: post →
    (pre.foldl ZookeeperManager.sendAndClose w.zk.chans)[c]? = some Chan.fresh

/-- The rank of the lock goroutine `g` is about to take, `0` if none. -/
def World.waitRank (w : World) (g : ℕ) : ℕ :=
  match w.goroutines[g]? with
  | some x =>
    match x.cont with
    | .op (.lock l) :: _ => l.rank
    | _ => 0
  | none => 0

section Deadlock

variable {w : World}

theorem World.Inv.nestsInOrder (hw : w.Inv) : w.NestsInOrder := by
  intro x hx l rest hc h hh
  have hck := hw.checked x hx
  rw [hc] at hck
  simp only [checkCont, Prog.check, Op.check] at hck
  split_ifs at hck with hall
  · exact List.all_eq_true.1 hall h hh
  · simp at hck

theorem World.Inv.not_sendsHolding (hw : w.Inv) (g : ℕ) : ¬w.SendsHolding g := by
  rintro ⟨x, rest, hx, hc, hne⟩
  have hck := hw.checked x (List.getElem?_mem hx)
  rw [hc] at hck
  simp only [checkCont, Prog.check, Op.check] at hck
  split_ifs at hck with h
  · exact hne h
  · simp at hck

/-- Along two waits the ranks of the locks waited for go up: the middle goroutine holds the
first lock while it waits for the second. -/
theorem World.Inv.waitRank_lt (hw : w.Inv) {g h h' : ℕ} (h₁ : w.WaitsFor g h)
    (h₂ : w.WaitsFor h h') : w.waitRank g < w.waitRank h := by
  obtain ⟨x, y, l, rest, hx, hy, hxc, l', hl', hres⟩ := h₁
  obtain ⟨y', -, m, rest', hy', -, hyc, -⟩ := h₂
  obtain rfl : y' = y := Option.some.inj (hy'.symm.trans hy)
  obtain rfl : l' = l := LockName.eq_of_resolve_eq hres
  have hb := hw.nestsInOrder y' (List.getElem?_mem hy) m rest' hyc l' hl'
  simp only [World.waitRank, hx, hxc, hy, hyc]
  exact LockName.rank_lt_of_before hb

/-- Ranks cannot go up all the way round a cycle. -/
theorem no_rising_cycle (f : ℕ → ℕ) {k : ℕ} (hk : 0 < k) (c : ℕ → ℕ)
    (h : ∀ i < k, f (c i) < f (c ((i + 1) % k))) : False := by
  have hrise : ∀ j < k, f (c 0) + j ≤ f (c j) := by
    intro j
    induction j with
    | zero => intro; omega
    | succ j ih =>
      intro hj
      have hlt := h j (by omega)
      rw [Nat.mod_eq_of_lt hj] at hlt
      have := ih (by omega)
      omega
  have hlast := h (k - 1) (by omega)
  rw [Nat.sub_add_cancel hk, Nat.mod_self] at hlast
  have := hrise (k - 1) (by omega)
  omega

theorem World.Inv.not_deadlock (hw : w.Inv) : ¬w.Deadlock := by
  rintro ⟨k, hk, c, hc⟩
  have hwait : ∀ i < k, w.WaitsFor (c i) (c ((i + 1) % k)) := fun i hi =>
    (hc i hi).resolve_right (hw.not_sendsHolding _)
  exact no_rising_cycle w.waitRank hk c fun i hi =>
    hw.waitRank_lt (hwait i hi) (hwait _ (Nat.mod_lt _ hk))

theorem World.Inv.fireSendsFresh (hw : w.Inv) : w.FireSendsFresh :=
  fun _ _ _ _ _ hl hsplit => hw.zk.fire_sends_fresh hl hsplit

end Deadlock

/-- **No deadlock in the switcher.**  In every state a schedule reaches, no goroutines form a
cycle each blocked locking a mutex the next one holds, or at a send while holding a mutex; every
goroutine about to lock holds only locks before it in the order session, manager, ZooKeeper
manager; and every send of `NodeWatcher.Run` under the ZooKeeper lock finds an empty buffer. -/
theorem switcher_deadlock_free (sched : List (ℕ × Input)) :
    ¬(World.init.run sched).Deadlock ∧ (World.init.run sched).NestsInOrder ∧
      (World.init.run sched).FireSendsFresh :=
  have hw := World.Inv.init.run sched
  ⟨hw.not_deadlock, hw.nestsInOrder, hw.fireSendsFresh⟩

end BtcPoolModules.StratumSwitcher.LockOrder
