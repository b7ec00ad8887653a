/-
  BtcPoolModules.StratumSwitcher.AutoReg — `findMiningCoin` and `tryAutoReg`
  (`stratumSwitcher/StratumSession.go`): how a session learns its sub-account's coin, and how it
  asks the auto-registration service for a sub-account the switcher does not know.

  `findMiningCoin` reads the sub-account's node under `zookeeperSwitcherWatchDir` with the
  manager's `GetW`.  When there is none and auto-registration is on, `tryAutoReg` reads the
  sub-account's node under `zookeeperAutoRegWatchDir`.  A session that finds none there either
  asks for the registration: it checks the counter `autoRegAllowUsers` (`LoadInt64`), takes a
  slot (`AddInt64(-1)`, with `defer AddInt64(1)`), creates the node and reads it with `GetW`.
  Then it waits on its watch channel and reads the coin once more.  The check and the take are
  two atomic operations: "there is no lock, and the upper limit is allowed to be exceeded
  briefly".

  Sessions run at once.  A step of a session is one atomic operation, one ZooKeeper request or
  one locked section of the manager (`ZookeeperManager.getW`).  Beside them the
  auto-registration service sets and deletes nodes, and other goroutines take the manager's lock
  (`ZkEvent`); a watch that fires delivers its event on every channel of its path.
  `json.Marshal` of the request is a parameter.

  Main results:
    * `Session.step_balance` — a session's step moves the counter by what it takes or gives back.
    * `run_autoRegAllowUsers` — in every run the counter is `AutoRegMaxWaitUsers` minus the
      sessions holding a slot, so no path of `tryAutoReg` loses or keeps one, and a session's
      check refuses it exactly when `AutoRegMaxWaitUsers` sessions or more hold a slot
      (`run_autoRegAllowUsers_refused`).  With the check and the take apart, more than that may
      hold one (the example after it).
-/
import BtcPoolModules.StratumSwitcher.ZookeeperManager

namespace BtcPoolModules.StratumSwitcher.AutoReg

/-! ## §1. Sessions and what they share. -/

/-- What `findMiningCoin` returns. -/
inductive FindResult where
  /-- `nil`, with `session.miningCoin` set to the node's value. -/
  | coin (miningCoin : String)
  /-- `GetW`'s error, after the response `201 "Invalid Sub-account Name"` to the miner. -/
  | invalidSubAccount
  /-- `ErrTooMuchPendingAutoRegReq`. -/
  | tooMuchPendingAutoRegReq
  /-- The error of the `GetW` after the `Create`. -/
  | autoRegFailed
  deriving DecidableEq

/-- Where a session is in `findMiningCoin` and `tryAutoReg`.  `held` says whether `tryAutoReg`
took a slot, where it may run with or without one. -/
inductive RegPc where
  /-- `findMiningCoin(autoReg)`, called by `runProxyStratum` or `Resume`, before its `GetW`. -/
  | findMiningCoin (autoReg : Bool)
  /-- `return session.findMiningCoin(false)` at the end of `tryAutoReg`, before its `GetW`. -/
  | findMiningCoinAgain (held : Bool)
  /-- `tryAutoReg` before `GetW(autoRegWatchPath)`. -/
  | getAutoRegW
  /-- Before `atomic.LoadInt64(&autoRegAllowUsers)`. -/
  | load
  /-- Before `atomic.AddInt64(&autoRegAllowUsers, -1)`. -/
  | take
  /-- Before `Create(autoRegWatchPath, jsonBytes)`. -/
  | create
  /-- Before the `GetW(autoRegWatchPath)` after the `Create`. -/
  | getAutoRegWAgain
  /-- At `<-event`, on the manager's channel `c`. -/
  | wait (c : ℕ) (held : Bool)
  /-- `tryAutoReg` returning `result`, before its deferred `AddInt64(1)`. -/
  | giveBack (result : FindResult)
  /-- `findMiningCoin` returned `result`. -/
  | done (result : FindResult)
  deriving DecidableEq

/-- A session: its ID, sub-account and worker name, and where it is. -/
structure Session where
  sessionID : ℕ
  subaccountName : String
  fullWorkerName : String
  pc : RegPc
  deriving DecidableEq

/-- The fields of `StratumSessionManager` the two functions read, and `json.Marshal` of an
`autoRegInfo{SessionID, Worker}`. -/
structure AutoRegConfig where
  zookeeperSwitcherWatchDir : String
  zookeeperAutoRegWatchDir : String
  autoRegMaxWaitUsers : ℤ
  marshalAutoRegInfo : ℕ → String → String

/-- What the sessions share: the ZooKeeper manager, the coordinator's nodes, and
`autoRegAllowUsers`. -/
structure Shared where
  manager : ZookeeperManager
  zk : String → Option String
  autoRegAllowUsers : ℤ

/-- Where `tryAutoReg` returns `result`: through its deferred `AddInt64(1)` when it took a
slot. -/
def RegPc.ret (held : Bool) (result : FindResult) : RegPc :=
  if held then .giveBack result else .done result

/-- `<-event` goes on once channel `c` has its event or is closed. -/
def ready (m : ZookeeperManager) (c : ℕ) : Bool :=
  (m.chans[c]?.map fun ch => decide (0 < ch.sent ∨ 0 < ch.closes)).getD false

/-- `zookeeperConn.Create(path, data, ...)`: nothing where the node is there (`createErr` is
only logged). -/
def zkCreate (zk : String → Option String) (path data : String) : String → Option String :=
  if (zk path).isSome then zk else Function.update zk path (some data)

/-- One step of a session: the shared state after it and the session's next place, or `none`
where it waits or has returned. -/
def Session.step (cfg : AutoRegConfig) (s : Session) (sh : Shared) : Option (Shared × RegPc) :=
  let zkWatchPath := cfg.zookeeperSwitcherWatchDir ++ s.subaccountName
  let autoRegWatchPath := cfg.zookeeperAutoRegWatchDir ++ s.subaccountName
  match s.pc with
  | .findMiningCoin autoReg =>
    match sh.manager.getW zkWatchPath s.sessionID (sh.zk zkWatchPath) with
    | (some (value, _), m) => some ({ sh with manager := m }, .done (.coin value))
    | (none, m) =>
      some ({ sh with manager := m }, if autoReg then .getAutoRegW else .done .invalidSubAccount)
  | .findMiningCoinAgain held =>
    match sh.manager.getW zkWatchPath s.sessionID (sh.zk zkWatchPath) with
    | (some (value, _), m) => some ({ sh with manager := m }, RegPc.ret held (.coin value))
    | (none, m) => some ({ sh with manager := m }, RegPc.ret held .invalidSubAccount)
  | .getAutoRegW =>
    match sh.manager.getW autoRegWatchPath s.sessionID (sh.zk autoRegWatchPath) with
    | (some (_, c), m) => some ({ sh with manager := m }, .wait c false)
    | (none, m) => some ({ sh with manager := m }, .load)
  | .load =>
    some (sh, if sh.autoRegAllowUsers < 1 then .done .tooMuchPendingAutoRegReq else .take)
  | .take => some ({ sh with autoRegAllowUsers := sh.autoRegAllowUsers - 1 }, .create)
  | .create =>
    let jsonBytes := cfg.marshalAutoRegInfo s.sessionID s.fullWorkerName
    some ({ sh with zk := zkCreate sh.zk autoRegWatchPath jsonBytes }, .getAutoRegWAgain)
  | .getAutoRegWAgain =>
    match sh.manager.getW autoRegWatchPath s.sessionID (sh.zk autoRegWatchPath) with
    | (some (_, c), m) => some ({ sh with manager := m }, .wait c true)
    | (none, m) => some ({ sh with manager := m }, .giveBack .autoRegFailed)
  | .wait c held => if ready sh.manager c then some (sh, .findMiningCoinAgain held) else none
  | .giveBack result =>
    some ({ sh with autoRegAllowUsers := sh.autoRegAllowUsers + 1 }, .done result)
  | .done _ => none

/-! ## §2. Runs. -/

/-- The shared state and the sessions. -/
structure RegWorld where
  shared : Shared
  sessions : List Session

/-- What happens next. -/
inductive RegEvent where
  /-- A session calls `findMiningCoin(autoReg)`: `runProxyStratum` with `enableUserAutoReg`,
  `Resume` with `false`. -/
  | start (sessionID : ℕ) (subaccountName fullWorkerName : String) (autoReg : Bool)
  /-- Session `i` takes its next step. -/
  | session (i : ℕ)
  /-- Another goroutine's locked section of the manager, or a watch firing. -/
  | manager (e : ZkEvent)
  /-- Another client sets, creates or deletes the coordinator's node `path`. -/
  | zkSet (path : String) (value : Option String)

/-- One event; a session that cannot step leaves the world as it is. -/
def RegWorld.step (cfg : AutoRegConfig) (w : RegWorld) : RegEvent → RegWorld
  | .start sessionID subaccountName fullWorkerName autoReg =>
    { w with sessions :=
        w.sessions ++ [⟨sessionID, subaccountName, fullWorkerName, .findMiningCoin autoReg⟩] }
  | .session i =>
    match w.sessions[i]? with
    | none => w
    | some s =>
      match s.step cfg w.shared with
      | none => w
      | some (sh, pc) => ⟨sh, w.sessions.set i { s with pc }⟩
  | .manager e => { w with shared := { w.shared with manager := w.shared.manager.step e } }
  | .zkSet path value =>
    { w with shared := { w.shared with zk := Function.update w.shared.zk path value } }

/-- A run of events. -/
def RegWorld.run (cfg : AutoRegConfig) (w : RegWorld) (events : List RegEvent) : RegWorld :=
  events.foldl (RegWorld.step cfg) w

/-! ## §3. The counter. -/

/-- A session holds a slot between its `AddInt64(-1)` and its deferred `AddInt64(1)`. -/
def RegPc.holdsSlot : RegPc → Bool
  | .findMiningCoinAgain held | .wait _ held => held
  | .create | .getAutoRegWAgain | .giveBack _ => true
  | _ => false

/-- The sessions holding a slot. -/
def slotsHeld (sessions : List Session) : ℕ := sessions.countP (·.pc.holdsSlot)

/-- One slot as a number. -/
def RegPc.slot (pc : RegPc) : ℤ := if pc.holdsSlot then 1 else 0

theorem RegPc.slot_ret (held : Bool) (result : FindResult) :
    (RegPc.ret held result).slot = if held then 1 else 0 := by
  cases held <;> rfl


/-- **A session's step moves the counter by the slot it takes or gives back.** -/
theorem Session.step_balance {cfg : AutoRegConfig} {s : Session} {sh sh' : Shared} {pc : RegPc}
    (h : s.step cfg sh = some (sh', pc)) :
    sh'.autoRegAllowUsers + pc.slot = sh.autoRegAllowUsers + s.pc.slot := by
  unfold Session.step at h
  cases hpc : s.pc <;> simp only [hpc] at h <;> repeat' split at h
  all_goals first
    | simp only [reduceCtorEq] at h
    | (obtain ⟨rfl, rfl⟩ := Option.some.inj h
       try rw [RegPc.slot_ret]
       simp [RegPc.slot, RegPc.holdsSlot])

/-- `List.set` moves a count by the element it takes out and the one it puts in. -/
theorem countP_set_add {α : Type} (p : α → Bool) :
    ∀ (l : List α) (i : ℕ) (a b : α), l[i]? = some b →
      (l.set i a).countP p + (if p b then 1 else 0) = l.countP p + (if p a then 1 else 0)
  | [], _, _, _, h => by simp at h
  | x :: l, 0, a, b, h => by
    obtain rfl := Option.some.inj ((List.getElem?_cons_zero).symm.trans h)
    simp only [List.set_cons_zero, List.countP_cons]
    omega
  | x :: l, i + 1, a, b, h => by
    have := countP_set_add p l i a b ((List.getElem?_cons_succ).symm.trans h)
    simp only [List.set_cons_succ, List.countP_cons]
    omega

/-- Every event keeps the counter plus the slots held. -/
theorem RegWorld.step_balance (cfg : AutoRegConfig) (w : RegWorld) (e : RegEvent) :
    (w.step cfg e).shared.autoRegAllowUsers + slotsHeld (w.step cfg e).sessions =
      w.shared.autoRegAllowUsers + slotsHeld w.sessions := by
  cases e with
  | start => simp [RegWorld.step, slotsHeld, List.countP_append, RegPc.holdsSlot]
  | session i =>
    simp only [RegWorld.step]
    split
    · rfl
    · rename_i s hs
      split
      · rfl
      · rename_i sh pc hstep
        have hb := Session.step_balance hstep
        have hc := countP_set_add (fun s : Session => s.pc.holdsSlot) w.sessions i { s with pc } s hs
        simp only [RegPc.slot] at hb
        simp only [slotsHeld] at hc ⊢
        split_ifs at hb hc <;> omega
  | manager | zkSet => rfl

/-- Every run keeps the counter plus the slots held. -/
theorem RegWorld.run_balance (cfg : AutoRegConfig) :
    ∀ (events : List RegEvent) (w : RegWorld),
      (w.run cfg events).shared.autoRegAllowUsers + slotsHeld (w.run cfg events).sessions =
        w.shared.autoRegAllowUsers + slotsHeld w.sessions
  | [], _ => rfl
  | e :: es, w => (run_balance cfg es (w.step cfg e)).trans (w.step_balance cfg e)

/-- **The counter counts the slots.**  In every run from the start, with any manager and nodes,
`autoRegAllowUsers` is `AutoRegMaxWaitUsers` minus the sessions that hold a slot: no path of
`tryAutoReg`, error or not, loses or keeps one.  So a session at its check is refused with
`ErrTooMuchPendingAutoRegReq` exactly when `AutoRegMaxWaitUsers` sessions or more hold a slot. -/
theorem run_autoRegAllowUsers (cfg : AutoRegConfig) (manager : ZookeeperManager)
    (zk : String → Option String) (events : List RegEvent) :
    (RegWorld.run cfg ⟨⟨manager, zk, cfg.autoRegMaxWaitUsers⟩, []⟩ events).shared.autoRegAllowUsers =
        cfg.autoRegMaxWaitUsers - slotsHeld (RegWorld.run cfg ⟨⟨manager, zk, cfg.autoRegMaxWaitUsers⟩, []⟩ events).sessions ∧
    ∀ i s, (RegWorld.run cfg ⟨⟨manager, zk, cfg.autoRegMaxWaitUsers⟩, []⟩ events).sessions[i]? = some s →
      s.pc = .load →
      (((RegWorld.run cfg ⟨⟨manager, zk, cfg.autoRegMaxWaitUsers⟩, []⟩ events).step cfg
          (.session i)).sessions[i]? = some { s with pc := .done .tooMuchPendingAutoRegReq } ↔
        cfg.autoRegMaxWaitUsers ≤ slotsHeld (RegWorld.run cfg ⟨⟨manager, zk, cfg.autoRegMaxWaitUsers⟩, []⟩ events).sessions) := by
  have hcount := RegWorld.run_balance cfg events ⟨⟨manager, zk, cfg.autoRegMaxWaitUsers⟩, []⟩
  simp only [slotsHeld, List.countP_nil] at hcount
  refine ⟨by simp only [slotsHeld]; omega, fun i s hi hs => ?_⟩
  simp only [RegWorld.step, hi, Session.step, hs]
  split_ifs with h
  · simp only [List.getElem?_set_self (List.getElem?_eq_some_iff.1 hi).1, true_iff]
    simp only [slotsHeld]; omega
  · simp only [List.getElem?_set_self (List.getElem?_eq_some_iff.1 hi).1, Option.some.injEq,
      Session.mk.injEq, reduceCtorEq, and_false, false_iff, not_le]
    simp only [slotsHeld]; omega

/-- Directories `/switcher/` and `/autoreg/`, room for one pending registration. -/
def oneSlotConfig : AutoRegConfig := ⟨"/switcher/", "/autoreg/", 1, fun _ worker => worker⟩

/-- Session `0` takes the only slot; session `1` then comes to its check, which refuses it. -/
theorem run_autoRegAllowUsers_refused :
    (RegWorld.run oneSlotConfig ⟨⟨ZookeeperManager.empty, fun _ => none, 1⟩, []⟩
        [.start 1 "a" "a.1" true, .start 2 "b" "b.1" true, .session 0, .session 0, .session 0,
         .session 0, .session 1, .session 1]).sessions[1]? = some ⟨2, "b", "b.1", .load⟩ ∧
    ((RegWorld.run oneSlotConfig ⟨⟨ZookeeperManager.empty, fun _ => none, 1⟩, []⟩
        [.start 1 "a" "a.1" true, .start 2 "b" "b.1" true, .session 0, .session 0, .session 0,
         .session 0, .session 1, .session 1]).step oneSlotConfig (.session 1)).sessions[1]? =
        some ⟨2, "b", "b.1", .done .tooMuchPendingAutoRegReq⟩ :=
  have hload : (RegWorld.run oneSlotConfig ⟨⟨ZookeeperManager.empty, fun _ => none, 1⟩, []⟩
      [.start 1 "a" "a.1" true, .start 2 "b" "b.1" true, .session 0, .session 0, .session 0,
       .session 0, .session 1, .session 1]).sessions[1]? = some ⟨2, "b", "b.1", .load⟩ := by decide
  ⟨hload, ((run_autoRegAllowUsers oneSlotConfig _ _ _).2 1 _ hload rfl).2 (by decide)⟩

/-- Two unknown sub-accounts pass the check before either takes its slot: two slots are held
where the limit is one, and the counter is `-1`. -/
example : slotsHeld (RegWorld.run oneSlotConfig ⟨⟨ZookeeperManager.empty, fun _ => none, 1⟩, []⟩
      [.start 1 "a" "a.1" true, .start 2 "b" "b.1" true, .session 0, .session 0, .session 1,
       .session 1, .session 0, .session 1, .session 0, .session 1]).sessions = 2 := by
  decide

end BtcPoolModules.StratumSwitcher.AutoReg
