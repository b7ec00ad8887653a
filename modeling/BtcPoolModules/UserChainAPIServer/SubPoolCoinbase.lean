/-
  BtcPoolModules.UserChainAPIServer.SubPoolCoinbase — `getCoinbaseHandle` and
  `updateCoinbaseHandle` in `userChainAPIServer/switcherAPIServer/HTTPAPI.go`: the sub-pool APIs,
  which talk to the jobmaker through two ZooKeeper nodes per sub-pool.

  A request names a coin and a sub-pool.  Its node is `ZKSubPoolUpdateBaseDir + coin + "/" +
  subpool_name`, and the jobmaker answers in the node's child `ack`.  Both handlers watch the ACK
  node (`ExistsW`), write the request node (`Set`) so that the jobmaker's watch on it fires, and
  then wait in a `select` for the ACK watch or the timeout.  `updateCoinbaseHandle` writes the
  request with version `-1`, which matches any.  `getCoinbaseHandle` only wants an answer, so it
  writes back the data its `Get` read, with the version it read.

  Any number of calls run at once.  Each ZooKeeper request is one step of its call, and the
  jobmaker and any other client set or create nodes between them.  Nodes are never deleted:
  ZooKeeper gives a re-created node version `0` again.  The request reaches a handler decoded,
  and `encoding/json` on a request and on an ACK are parameters.

  Main results:
    * `ZkLe`, `Handler.Current.mono` — ZooKeeper only moves forward, and a read stays current
      along it: while the node's version is the one read, its data is the data read.
    * `World.run_current` — in every run from a world with no calls, every read a query holds is
      current.
    * `getCoinbase_keeps_data` — so no step of a `getCoinbaseHandle` call changes the data of any
      node: a query never overwrites an update, whatever runs beside it.
    * `World.run_replies` — every reply a call writes that says failure has a non-zero error
      number, unless it is a query's ACK passed on as the jobmaker wrote it.
-/
import BtcPoolModules.UserChainAPIServer.ChangeMiningCoin

namespace BtcPoolModules.UserChainAPIServer.SubPool

/-! ## §1. Requests, ACKs and replies. -/

/-- `SubPoolUpdate`: a request, as `json.Unmarshal` decodes its body. -/
structure SubPoolUpdate where
  coin : String
  subPoolName : String
  coinbaseInfo : String
  payoutAddr : String
  deriving DecidableEq

/-- The `Old` and `New` members of an ACK. -/
structure CoinbaseAddr where
  coinbaseInfo : String
  payoutAddr : String
  deriving DecidableEq

/-- `SubPoolCoinbase`: what `getCoinbaseHandle` answers with. -/
structure SubPoolCoinbase where
  success : Bool
  errNo : ℤ
  errMsg : String
  subPoolName : String
  old : CoinbaseAddr
  deriving DecidableEq

/-- `SubPoolUpdateAck`: what `updateCoinbaseHandle` answers with. -/
structure SubPoolUpdateAck extends SubPoolCoinbase where
  new : CoinbaseAddr
  deriving DecidableEq

/-- `SubPoolUpdateAckInner`: the ACK the jobmaker writes, with its host name. -/
structure SubPoolUpdateAckInner extends SubPoolUpdateAck where
  hostName : String

/-- What a call writes to the client: `writeError`'s response, or the ACK as `json.Marshal`
writes `ackData.SubPoolCoinbase` or `ackData.SubPoolUpdateAck`. -/
inductive Reply where
  | error (r : APIResponse)
  | coinbase (ack : SubPoolCoinbase)
  | updateAck (ack : SubPoolUpdateAck)
  deriving DecidableEq

/-- The `success` member of a reply. -/
def Reply.success : Reply → Bool
  | .error r => r.success
  | .coinbase ack => ack.success
  | .updateAck ack => ack.success

/-- The `err_no` member of a reply. -/
def Reply.errNo : Reply → ℤ
  | .error r => r.errNo
  | .coinbase ack => ack.errNo
  | .updateAck ack => ack.errNo

/-- What the handlers read besides the request and ZooKeeper: `ZKSubPoolUpdateBaseDir`, and
`encoding/json` on a request (`json.Marshal(reqData)`) and on an ACK. -/
structure SubPoolAPI where
  zkSubPoolUpdateBaseDir : String
  marshal : SubPoolUpdate → String
  unmarshalAck : String → Except String SubPoolUpdateAckInner

/-- `reqNode`: `ZKSubPoolUpdateBaseDir + reqData.Coin + "/" + reqData.SubPoolName`. -/
def SubPoolAPI.reqNode (api : SubPoolAPI) (req : SubPoolUpdate) : String :=
  api.zkSubPoolUpdateBaseDir ++ req.coin ++ "/" ++ req.subPoolName

/-- `ackNode`: `reqNode + "/ack"`. -/
def SubPoolAPI.ackNode (api : SubPoolAPI) (req : SubPoolUpdate) : String :=
  api.reqNode req ++ "/ack"

/-! ## §2. The checks before ZooKeeper. -/

/-- The checks both handlers make first, in order: the API is enabled, then each of `fields`, a
value with its JSON name, is not empty. -/
def firstFailedCheck (api : SubPoolAPI) (fields : List (String × String)) : Option APIResponse :=
  if api.zkSubPoolUpdateBaseDir.length = 0 then some (writeError 403 "API disabled")
  else (fields.find? fun f => f.1.length < 1).map fun f => writeError 400 (f.2 ++ " cannot be empty")

/-- A call that fails its checks answers `403` when the API is disabled, or else `400` naming
the first empty field. -/
theorem firstFailedCheck_eq_some {api : SubPoolAPI} {fields : List (String × String)}
    {r : APIResponse} (h : firstFailedCheck api fields = some r) :
    r = writeError 403 "API disabled" ∨
      ∃ f ∈ fields, f.1.length = 0 ∧ r = writeError 400 (f.2 ++ " cannot be empty") := by
  unfold firstFailedCheck at h
  split at h
  · exact .inl (Option.some.inj h).symm
  · obtain ⟨f, hf, rfl⟩ := Option.map_eq_some'.1 h
    have hlen := List.find?_some hf
    exact .inr ⟨f, List.mem_of_find?_eq_some hf, by simpa using hlen, rfl⟩

/-! ## §3. ZooKeeper with versions. -/

/-- A ZooKeeper node: its data and `Stat.Version`. -/
structure ZNode where
  data : String
  version : ℕ
  deriving DecidableEq

/-- `zookeeperConn.Set(path, data, version)`: `ErrNoNode` where the node is missing, and
`ErrBadVersion` unless `version` is `-1` or the node's; a write moves the version on. -/
def zkSetVersion (zk : String → Option ZNode) (path data : String) (version : ℤ) :
    Option (String → Option ZNode) :=
  match zk path with
  | none => none
  | some n =>
    if version = -1 ∨ version = n.version then
      some (Function.update zk path (some ⟨data, n.version + 1⟩))
    else none

/-- `zookeeperConn.Create(path, data, ...)`: `ErrNodeExists` where the node is there. -/
def zkCreateNode (zk : String → Option ZNode) (path data : String) :
    Option (String → Option ZNode) :=
  match zk path with
  | none => some (Function.update zk path (some ⟨data, 0⟩))
  | some _ => none

/-- Node `n` is at or past a read of data `d` at version `v`: its version is at least `v`, and
while it is `v` the data is `d`. -/
def ZNode.After (n : ZNode) (d : String) (v : ℕ) : Prop :=
  v ≤ n.version ∧ (v = n.version → n.data = d)

theorem ZNode.after_self (n : ZNode) : n.After n.data n.version := ⟨le_rfl, fun _ => rfl⟩

theorem ZNode.After.trans {n n' : ZNode} {d : String} {v : ℕ} (h : n.After d v)
    (h' : n'.After n.data n.version) : n'.After d v :=
  ⟨h.1.trans h'.1, fun hv => by
    have h₁ := h.1
    have h₂ := h'.1
    exact (h'.2 (by omega)).trans (h.2 (by omega))⟩

/-- ZooKeeper moves forward from `zk` to `zk'`: every node stays, and is at or past what it
was. -/
def ZkLe (zk zk' : String → Option ZNode) : Prop :=
  ∀ p n, zk p = some n → ∃ n', zk' p = some n' ∧ n'.After n.data n.version

theorem ZkLe.refl (zk : String → Option ZNode) : ZkLe zk zk :=
  fun _ n h => ⟨n, h, n.after_self⟩

/-- What a `Set` that succeeds did: the node was there, the version matched, and the node now
holds the data at the next version. -/
theorem zkSetVersion_eq_some {zk zk' : String → Option ZNode} {path data : String} {version : ℤ}
    (h : zkSetVersion zk path data version = some zk') :
    ∃ n, zk path = some n ∧ (version = -1 ∨ version = n.version) ∧
      zk' = Function.update zk path (some ⟨data, n.version + 1⟩) := by
  unfold zkSetVersion at h
  split at h
  · cases h
  · rename_i n hn
    split_ifs at h with hv
    exact ⟨n, hn, hv, (Option.some.inj h).symm⟩

theorem zkSetVersion_zkLe {zk zk' : String → Option ZNode} {path data : String} {version : ℤ}
    (h : zkSetVersion zk path data version = some zk') : ZkLe zk zk' := by
  obtain ⟨n, hn, -, rfl⟩ := zkSetVersion_eq_some h
  intro p m hm
  by_cases hp : p = path
  · subst hp
    obtain rfl := Option.some.inj (hn.symm.trans hm)
    exact ⟨_, Function.update_same _ _ _, Nat.le_succ _, fun h => absurd h (Nat.succ_ne_self _).symm⟩
  · exact ⟨m, by rwa [Function.update_noteq hp], m.after_self⟩

theorem zkCreateNode_zkLe {zk zk' : String → Option ZNode} {path data : String}
    (h : zkCreateNode zk path data = some zk') : ZkLe zk zk' := by
  unfold zkCreateNode at h
  split at h
  · rename_i hn
    cases h
    intro p m hm
    have hp : p ≠ path := by rintro rfl; simp [hn] at hm
    exact ⟨m, by rwa [Function.update_noteq hp], m.after_self⟩
  · cases h

/-- A `Set` that names the version of a node past a read of `d` at that version writes the data
the node holds: no node's data changes. -/
theorem zkSetVersion_data {zk zk' : String → Option ZNode} {path d : String} {v : ℕ} {n : ZNode}
    (hn : zk path = some n) (ha : n.After d v) (h : zkSetVersion zk path d v = some zk')
    (q : String) : (zk' q).map ZNode.data = (zk q).map ZNode.data := by
  obtain ⟨n', hn', hv, rfl⟩ := zkSetVersion_eq_some h
  obtain rfl := Option.some.inj (hn.symm.trans hn')
  have hd : n.data = d := ha.2 (by omega)
  by_cases hq : q = path
  · subst hq
    simp [hn, hd]
  · rw [Function.update_noteq hq]

/-! ## §4. The calls. -/

/-- Where a call of `getCoinbaseHandle` is after its checks; `fired` once its ACK watch
fired. -/
inductive GetPc where
  /-- Before `zookeeperConn.Get(reqNode)`. -/
  | get
  /-- Before `ExistsW(ackNode)`, holding the data and version `Get` read. -/
  | existsW (reqByte : String) (version : ℕ)
  /-- Before `Set(reqNode, reqByte, stat.Version)`. -/
  | set (reqByte : String) (version : ℕ) (fired : Bool)
  /-- In the `select` on the ACK watch and the timeout. -/
  | select (fired : Bool)
  deriving DecidableEq

/-- Where a call of `updateCoinbaseHandle` is after its checks. -/
inductive UpdatePc where
  /-- Before `zookeeperConn.Exists(reqNode)`. -/
  | checkExists
  /-- Before `ExistsW(ackNode)`. -/
  | existsW
  /-- Before `Set(reqNode, reqByte, -1)`. -/
  | set (fired : Bool)
  /-- In the `select`. -/
  | select (fired : Bool)
  deriving DecidableEq

/-- A call: a query or an update on its request, or returned with its reply. -/
inductive Handler where
  | get (req : SubPoolUpdate) (pc : GetPc)
  | update (req : SubPoolUpdate) (pc : UpdatePc)
  | done (reply : Reply)
  deriving DecidableEq

/-- `getCoinbaseHandle` up to its first ZooKeeper request. -/
def getCoinbaseHandle (api : SubPoolAPI) (req : SubPoolUpdate) : Handler :=
  match firstFailedCheck api [(req.coin, "coin"), (req.subPoolName, "subpool_name")] with
  | some r => .done (.error r)
  | none => .get req .get

/-- `updateCoinbaseHandle` up to its first ZooKeeper request: the same checks, and then
`payout_addr`. -/
def updateCoinbaseHandle (api : SubPoolAPI) (req : SubPoolUpdate) : Handler :=
  match firstFailedCheck api
      [(req.coin, "coin"), (req.subPoolName, "subpool_name"), (req.payoutAddr, "payout_addr")] with
  | some r => .done (.error r)
  | none => .update req .checkExists

/-- The reply when the request node is missing. -/
def notExist (req : SubPoolUpdate) : Handler :=
  .done (.error (writeError 404 ("subpool '" ++ req.subPoolName ++ "' does not exist")))

/-- The reply when the ACK node is missing. -/
def cannotAck : Handler := .done (.error (writeError 503 "jobmaker cannot ACK the request"))

/-- The next ZooKeeper request of a call on ZooKeeper `zk`: the call's next state, and the node
it wrote with ZooKeeper after the write, if it wrote one.  A call in its `select` or returned
makes none. -/
def Handler.step (api : SubPoolAPI) (zk : String → Option ZNode) :
    Handler → Option (Handler × Option (String × (String → Option ZNode)))
  | .get req .get =>
    some (match zk (api.reqNode req) with
      | none => notExist req
      | some n => .get req (.existsW n.data n.version), none)
  | .get req (.existsW reqByte version) =>
    some (if (zk (api.ackNode req)).isSome then .get req (.set reqByte version false)
      else cannotAck, none)
  | .get req (.set reqByte version fired) =>
    match zkSetVersion zk (api.reqNode req) reqByte version with
    | none => some (.done (.error (writeError 500 "data has been updated at query time")), none)
    | some zk' => some (.get req (.select fired), some (api.reqNode req, zk'))
  | .update req .checkExists =>
    some (if (zk (api.reqNode req)).isSome then .update req .existsW else notExist req, none)
  | .update req .existsW =>
    some (if (zk (api.ackNode req)).isSome then .update req (.set false) else cannotAck, none)
  | .update req (.set fired) =>
    match zkSetVersion zk (api.reqNode req) (api.marshal req) (-1) with
    | none => some (.done (.error (writeError 500 "write data node failed")), none)
    | some zk' => some (.update req (.select fired), some (api.reqNode req, zk'))
  | _ => none

/-- `Get(ackNode)` and `json.Unmarshal` on what it read: the ACK, or the error written. -/
def readAck (api : SubPoolAPI) (zk : String → Option ZNode) (req : SubPoolUpdate) :
    Except APIResponse SubPoolUpdateAckInner :=
  match zk (api.ackNode req) with
  | none => .error (writeError 500 "cannot get ACK from zookeeper")
  | some n =>
    match api.unmarshalAck n.data with
    | .error _ => .error (writeError 500 "cannot parse ACK in zookeeper")
    | .ok ack => .ok ack

/-- `getCoinbaseHandle` on an ACK: the jobmaker's `empty request` is a success. -/
def getCoinbaseAck (ack : SubPoolCoinbase) : SubPoolCoinbase :=
  if !ack.success && ack.errMsg == "empty request" then
    { ack with success := true, errMsg := "success" }
  else ack

/-- `updateCoinbaseHandle` on an ACK: a failure without a number is `500`. -/
def updateCoinbaseAck (ack : SubPoolUpdateAck) : SubPoolUpdateAck :=
  if !ack.success && ack.errNo == 0 then { ack with errNo := 500 } else ack

/-- The ACK case of a call's `select`, ready once the watch fired: `Get(ackNode)`, the ACK
decoded, and the reply.  Between taking the watch's event and the `Get` the call changes
nothing, so the two are one step. -/
def Handler.receiveAck (api : SubPoolAPI) (zk : String → Option ZNode) : Handler → Option Handler
  | .get req (.select true) =>
    some (.done (match readAck api zk req with
      | .error r => .error r
      | .ok ack => .coinbase (getCoinbaseAck ack.toSubPoolCoinbase)))
  | .update req (.select true) =>
    some (.done (match readAck api zk req with
      | .error r => .error r
      | .ok ack => .updateAck (updateCoinbaseAck ack.toSubPoolUpdateAck)))
  | _ => none

/-- The timeout case of a call's `select`. -/
def Handler.timeout : Handler → Option Handler
  | .get _ (.select _) | .update _ (.select _) =>
    some (.done (.error (writeError 504 "timeout when waiting ACK")))
  | _ => none

/-- A watch's event: the `fired` flag of a place after `ExistsW`. -/
def GetPc.fire : GetPc → GetPc
  | .set reqByte version _ => .set reqByte version true
  | .select _ => .select true
  | pc => pc

/-- A watch's event on a place of `updateCoinbaseHandle`. -/
def UpdatePc.fire : UpdatePc → UpdatePc
  | .set _ => .set true
  | .select _ => .select true
  | pc => pc

/-- A write of node `path` fires the ACK watch of each call whose ACK node it is. -/
def Handler.fire (api : SubPoolAPI) (path : String) : Handler → Handler
  | .get req pc => .get req (if api.ackNode req = path then pc.fire else pc)
  | .update req pc => .update req (if api.ackNode req = path then pc.fire else pc)
  | .done reply => .done reply

/-! ## §5. Runs. -/

/-- ZooKeeper and the calls made so far. -/
structure World where
  zk : String → Option ZNode
  handlers : List Handler

/-- What happens next. -/
inductive Event where
  /-- A request to `/subpool/get-coinbase`. -/
  | getCoinbase (req : SubPoolUpdate)
  /-- A request to `/subpool/update-coinbase`. -/
  | updateCoinbase (req : SubPoolUpdate)
  /-- Call `i` makes its next ZooKeeper request. -/
  | request (i : ℕ)
  /-- Call `i`'s `select` takes the ACK watch's event. -/
  | ack (i : ℕ)
  /-- Call `i`'s `select` takes the timeout. -/
  | timeout (i : ℕ)
  /-- Another client, as the jobmaker with its ACK, sets node `path` with version `-1`. -/
  | set (path data : String)
  /-- Another client creates node `path`. -/
  | create (path data : String)

/-- ZooKeeper after a write of node `path`, with the watches it fires. -/
def World.write (api : SubPoolAPI) (w : World) (path : String) (zk : String → Option ZNode) :
    World :=
  ⟨zk, w.handlers.map (Handler.fire api path)⟩

/-- One event; an event that cannot happen leaves the world as it is. -/
def World.step (api : SubPoolAPI) (w : World) : Event → World
  | .getCoinbase req => { w with handlers := w.handlers ++ [getCoinbaseHandle api req] }
  | .updateCoinbase req => { w with handlers := w.handlers ++ [updateCoinbaseHandle api req] }
  | .request i =>
    match w.handlers[i]?.bind (Handler.step api w.zk) with
    | none => w
    | some (h, none) => { w with handlers := w.handlers.set i h }
    | some (h, some (path, zk)) => World.write api { w with handlers := w.handlers.set i h } path zk
  | .ack i =>
    match w.handlers[i]?.bind (Handler.receiveAck api w.zk) with
    | none => w
    | some h => { w with handlers := w.handlers.set i h }
  | .timeout i =>
    match w.handlers[i]?.bind Handler.timeout with
    | none => w
    | some h => { w with handlers := w.handlers.set i h }
  | .set path data =>
    match zkSetVersion w.zk path data (-1) with
    | none => w
    | some zk => w.write api path zk
  | .create path data =>
    match zkCreateNode w.zk path data with
    | none => w
    | some zk => w.write api path zk

/-- A run of events. -/
def World.run (api : SubPoolAPI) (w : World) (events : List Event) : World :=
  events.foldl (World.step api) w

/-! ## §6. A query's read stays current. -/

/-- The read a query holds between its `Get` and its `Set`: the node, the data and the
version. -/
def Handler.heldRead (api : SubPoolAPI) : Handler → Option (String × String × ℕ)
  | .get req (.existsW reqByte version) | .get req (.set reqByte version _) =>
    some (api.reqNode req, reqByte, version)
  | _ => none

/-- A call's read is current on `zk`: the node is at or past it. -/
def Handler.Current (api : SubPoolAPI) (zk : String → Option ZNode) (h : Handler) : Prop :=
  ∀ p d v, h.heldRead api = some (p, d, v) → ∃ n, zk p = some n ∧ n.After d v

/-- Every call's read is current. -/
def World.Current (api : SubPoolAPI) (w : World) : Prop :=
  ∀ h ∈ w.handlers, h.Current api w.zk

theorem Handler.Current.mono {api : SubPoolAPI} {zk zk' : String → Option ZNode} {h : Handler}
    (hc : h.Current api zk) (hle : ZkLe zk zk') : h.Current api zk' := by
  intro p d v hr
  obtain ⟨n, hn, ha⟩ := hc p d v hr
  obtain ⟨n', hn', ha'⟩ := hle p n hn
  exact ⟨n', hn', ha.trans ha'⟩

theorem Handler.current_of_heldRead {api : SubPoolAPI} {zk : String → Option ZNode} {h : Handler}
    (hr : h.heldRead api = none) : h.Current api zk := by
  intro p d v h'
  rw [hr] at h'
  cases h'

@[simp] theorem Handler.heldRead_fire (api : SubPoolAPI) (path : String) (h : Handler) :
    (h.fire api path).heldRead api = h.heldRead api := by
  rcases h with ⟨req, pc⟩ | ⟨req, pc⟩ | reply
  · simp only [Handler.fire]; split_ifs <;> cases pc <;> rfl
  · simp only [Handler.fire]; split_ifs <;> cases pc <;> rfl
  · rfl

/-- A call's ZooKeeper request that writes nothing keeps its read current: it reads the node
afresh, or keeps the read it had, or holds none after. -/
theorem Handler.step_current {api : SubPoolAPI} {zk : String → Option ZNode} {h h' : Handler}
    (hc : h.Current api zk) (hs : h.step api zk = some (h', none)) : h'.Current api zk := by
  rcases h with ⟨req, _ | ⟨d, v⟩ | ⟨d, v, fired⟩ | fired⟩ | ⟨req, _ | _ | fired | fired⟩ | reply <;>
    simp only [Handler.step, Option.some.injEq, Prod.mk.injEq, reduceCtorEq, and_true] at hs
  case get.get =>
    subst hs
    split
    · exact Handler.current_of_heldRead rfl
    · rename_i n hn
      rintro p d v ⟨⟩
      exact ⟨n, hn, n.after_self⟩
  case get.existsW =>
    subst hs
    split_ifs
    exacts [hc, Handler.current_of_heldRead rfl]
  case get.set | update.set =>
    split at hs <;> simp only [Option.some.injEq, Prod.mk.injEq, reduceCtorEq, and_true, and_false] at hs
    subst hs
    exact Handler.current_of_heldRead rfl
  case update.checkExists | update.existsW =>
    subst hs
    split_ifs <;> exact Handler.current_of_heldRead rfl

/-- A call's ZooKeeper request that writes moves ZooKeeper forward, and the call holds no read
after. -/
theorem Handler.step_write {api : SubPoolAPI} {zk zk' : String → Option ZNode} {h h' : Handler}
    {path : String} (hs : h.step api zk = some (h', some (path, zk'))) :
    ZkLe zk zk' ∧ h'.heldRead api = none := by
  rcases h with ⟨req, _ | _ | ⟨d, v, fired⟩ | fired⟩ | ⟨req, _ | _ | fired | fired⟩ | reply <;>
    simp only [Handler.step, Option.some.injEq, Prod.mk.injEq, reduceCtorEq, and_false] at hs
  all_goals
    split at hs <;> simp only [Option.some.injEq, Prod.mk.injEq, reduceCtorEq, and_false] at hs
    obtain ⟨rfl, -, rfl⟩ := hs
    exact ⟨zkSetVersion_zkLe ‹_›, rfl⟩

/-- A query's write names the version it read while that read is current: no node's data
changes. -/
theorem Handler.step_get_data {api : SubPoolAPI} {zk zk' : String → Option ZNode}
    {req : SubPoolUpdate} {pc : GetPc} {h' : Handler} {path : String}
    (hc : (Handler.get req pc).Current api zk)
    (hs : (Handler.get req pc).step api zk = some (h', some (path, zk'))) (q : String) :
    (zk' q).map ZNode.data = (zk q).map ZNode.data := by
  rcases pc with _ | ⟨d, v⟩ | ⟨d, v, fired⟩ | fired <;>
    simp only [Handler.step, Option.some.injEq, Prod.mk.injEq, reduceCtorEq, and_false] at hs
  split at hs <;> simp only [Option.some.injEq, Prod.mk.injEq, reduceCtorEq, and_false] at hs
  rename_i zk'' hset
  obtain ⟨-, -, rfl⟩ := hs
  obtain ⟨n, hn, ha⟩ := hc _ d v rfl
  exact zkSetVersion_data hn ha hset q

theorem World.Current.write {api : SubPoolAPI} {w : World} {path : String}
    {zk : String → Option ZNode} (hw : w.Current api) (hle : ZkLe w.zk zk) :
    (w.write api path zk).Current api := by
  intro h hm
  obtain ⟨h₀, hm₀, rfl⟩ := List.mem_map.1 hm
  intro p d v hr
  rw [Handler.heldRead_fire] at hr
  exact (hw h₀ hm₀).mono hle p d v hr

theorem World.Current.set {api : SubPoolAPI} {w : World} {i : ℕ} {h : Handler}
    (hw : w.Current api) (hh : h.Current api w.zk) :
    ({ w with handlers := w.handlers.set i h } : World).Current api := by
  intro h' hm
  rcases List.mem_or_eq_of_mem_set hm with hm | rfl
  · exact hw h' hm
  · exact hh

theorem World.Current.append {api : SubPoolAPI} {w : World} {h : Handler} (hw : w.Current api)
    (hr : h.heldRead api = none) :
    ({ w with handlers := w.handlers ++ [h] } : World).Current api := by
  intro h' hm
  rcases List.mem_append.1 hm with hm | hm
  · exact hw h' hm
  · rw [List.mem_singleton.1 hm]
    exact Handler.current_of_heldRead hr

theorem getCoinbaseHandle_heldRead (api : SubPoolAPI) (req : SubPoolUpdate) :
    (getCoinbaseHandle api req).heldRead api = none := by
  unfold getCoinbaseHandle; split <;> rfl

theorem updateCoinbaseHandle_heldRead (api : SubPoolAPI) (req : SubPoolUpdate) :
    (updateCoinbaseHandle api req).heldRead api = none := by
  unfold updateCoinbaseHandle; split <;> rfl

theorem Handler.receiveAck_heldRead {api : SubPoolAPI} {zk : String → Option ZNode}
    {h h' : Handler} (hs : h.receiveAck api zk = some h') : h'.heldRead api = none := by
  rcases h with ⟨req, _ | _ | _ | _ | _⟩ | ⟨req, _ | _ | _ | _ | _⟩ | reply <;>
    simp only [Handler.receiveAck, Option.some.injEq, reduceCtorEq] at hs <;> rw [← hs] <;> rfl

theorem Handler.timeout_heldRead {h h' : Handler} (hs : h.timeout = some h') (api : SubPoolAPI) :
    h'.heldRead api = none := by
  rcases h with ⟨req, _ | _ | _ | _⟩ | ⟨req, _ | _ | _ | _⟩ | reply <;>
    simp only [Handler.timeout, Option.some.injEq, reduceCtorEq] at hs <;> rw [← hs] <;> rfl

/-- Every event keeps every read current. -/
theorem World.Current.step {api : SubPoolAPI} {w : World} (hw : w.Current api) (e : Event) :
    (w.step api e).Current api := by
  cases e with
  | getCoinbase req => exact hw.append (getCoinbaseHandle_heldRead api req)
  | updateCoinbase req => exact hw.append (updateCoinbaseHandle_heldRead api req)
  | request i =>
    simp only [World.step]
    split
    · exact hw
    · rename_i h hs
      obtain ⟨h₀, hi, hs⟩ := Option.bind_eq_some.1 hs
      exact hw.set (Handler.step_current (hw h₀ (List.getElem?_mem hi)) hs)
    · rename_i h path zk hs
      obtain ⟨_, _, hs⟩ := Option.bind_eq_some.1 hs
      obtain ⟨hle, hr⟩ := Handler.step_write hs
      exact (hw.set (Handler.current_of_heldRead hr)).write hle
  | ack i =>
    simp only [World.step]
    split
    · exact hw
    · rename_i h hs
      obtain ⟨_, _, hs⟩ := Option.bind_eq_some.1 hs
      exact hw.set (Handler.current_of_heldRead (Handler.receiveAck_heldRead hs))
  | timeout i =>
    simp only [World.step]
    split
    · exact hw
    · rename_i h hs
      obtain ⟨_, _, hs⟩ := Option.bind_eq_some.1 hs
      exact hw.set (Handler.current_of_heldRead (Handler.timeout_heldRead hs api))
  | set path data =>
    simp only [World.step]
    split
    · exact hw
    · exact hw.write (zkSetVersion_zkLe ‹_›)
  | create path data =>
    simp only [World.step]
    split
    · exact hw
    · exact hw.write (zkCreateNode_zkLe ‹_›)

/-- In every run from a world whose reads are current, every read stays current. -/
theorem World.Current.run {api : SubPoolAPI} {w : World} (hw : w.Current api) (events : List Event) :
    (w.run api events).Current api := by
  induction events generalizing w with
  | nil => exact hw
  | cons e es ih => exact ih (hw.step e)

/-- In every run from a world with no calls, every read a query holds is current. -/
theorem World.run_current (api : SubPoolAPI) (zk : String → Option ZNode) (events : List Event) :
    (World.run api ⟨zk, []⟩ events).Current api :=
  World.Current.run (fun _ h => (List.not_mem_nil _ h).elim) events

/-- **A query never overwrites an update.**  In every run from a world with no calls, whatever
queries, updates and other clients' sets and creates run beside it (no client deletes a node),
the next ZooKeeper request of a `getCoinbaseHandle` call changes the data of no node: its `Set`
names the version its `Get` read, which the node keeps only while it holds the data read. -/
theorem getCoinbase_keeps_data (api : SubPoolAPI) (zk : String → Option ZNode)
    (events : List Event) {i : ℕ} {req : SubPoolUpdate} {pc : GetPc}
    (hi : (World.run api ⟨zk, []⟩ events).handlers[i]? = some (.get req pc)) (path : String) :
    (((World.run api ⟨zk, []⟩ events).step api (.request i)).zk path).map ZNode.data =
      ((World.run api ⟨zk, []⟩ events).zk path).map ZNode.data := by
  have hc := World.run_current api zk events _ (List.getElem?_mem hi)
  simp only [World.step, hi, Option.some_bind]
  split
  · rfl
  · rfl
  · exact Handler.step_get_data hc ‹_› path

/-- A query's Set that comes too late: an update wrote the node between the query's `Get` and
its `Set`, so the `Set` fails and the node keeps the update. -/
def lateQueryEvents : List Event :=
  [.getCoinbase ⟨"btc", "a", "", ""⟩, .request 0, .request 0,
   .updateCoinbase ⟨"btc", "a", "info", "addr"⟩, .request 1, .request 1, .request 1]

/-- ZooKeeper with the sub-pool's request node at version `3` and its ACK node. -/
def sampleZk : String → Option ZNode :=
  fun p => if p = "/sp/btc/a" then some ⟨"old", 3⟩ else if p = "/sp/btc/a/ack" then some ⟨"", 0⟩
    else none

/-- An API with the base directory `/sp/`, writing a request as its payout address. -/
def sampleSubPoolAPI : SubPoolAPI := ⟨"/sp/", SubPoolUpdate.payoutAddr, fun _ => .error ""⟩

theorem getCoinbase_keeps_data_late :
    (World.run sampleSubPoolAPI ⟨sampleZk, []⟩ lateQueryEvents).handlers[0]? =
        some (.get ⟨"btc", "a", "", ""⟩ (.set "old" 3 false)) ∧
      (((World.run sampleSubPoolAPI ⟨sampleZk, []⟩ lateQueryEvents).step sampleSubPoolAPI
          (.request 0)).zk "/sp/btc/a").map ZNode.data =
        ((World.run sampleSubPoolAPI ⟨sampleZk, []⟩ lateQueryEvents).zk "/sp/btc/a").map ZNode.data :=
  ⟨rfl, getCoinbase_keeps_data sampleSubPoolAPI sampleZk lateQueryEvents rfl "/sp/btc/a"⟩

/-! ## §7. Replies. -/

/-- A reply that says failure carries a non-zero error number, unless it is a query's ACK. -/
def Reply.Numbered : Reply → Prop
  | .coinbase _ => True
  | r => r.success = false → r.errNo ≠ 0

/-- A returned call's reply is numbered. -/
def Handler.Numbered : Handler → Prop
  | .done reply => reply.Numbered
  | _ => True

theorem numbered_writeError {errNo : ℤ} (errMsg : String) (h : errNo ≠ 0) :
    (Handler.done (.error (writeError errNo errMsg))).Numbered :=
  fun _ => h

theorem updateCoinbaseAck_numbered (ack : SubPoolUpdateAck) :
    (Reply.updateAck (updateCoinbaseAck ack)).Numbered := by
  intro hs
  unfold updateCoinbaseAck at hs ⊢
  split_ifs at hs ⊢ with h
  · show (500 : ℤ) ≠ 0
    decide
  · simp only [Bool.and_eq_true, Bool.not_eq_true', beq_iff_eq, not_and] at h
    exact h hs

theorem firstFailedCheck_numbered {api : SubPoolAPI} {fields : List (String × String)}
    {r : APIResponse} (h : firstFailedCheck api fields = some r) :
    (Handler.done (.error r)).Numbered := by
  rcases firstFailedCheck_eq_some h with rfl | ⟨f, -, -, rfl⟩ <;> exact numbered_writeError _ (by decide)

theorem getCoinbaseHandle_numbered (api : SubPoolAPI) (req : SubPoolUpdate) :
    (getCoinbaseHandle api req).Numbered := by
  unfold getCoinbaseHandle; split
  · exact firstFailedCheck_numbered ‹_›
  · trivial

theorem updateCoinbaseHandle_numbered (api : SubPoolAPI) (req : SubPoolUpdate) :
    (updateCoinbaseHandle api req).Numbered := by
  unfold updateCoinbaseHandle; split
  · exact firstFailedCheck_numbered ‹_›
  · trivial

theorem Handler.step_numbered {api : SubPoolAPI} {zk : String → Option ZNode} {h h' : Handler}
    {write : Option (String × (String → Option ZNode))} (hs : h.step api zk = some (h', write)) :
    h'.Numbered := by
  rcases h with ⟨req, _ | _ | _ | _⟩ | ⟨req, _ | _ | _ | _⟩ | reply <;>
    simp only [Handler.step, Option.some.injEq, Prod.mk.injEq, reduceCtorEq] at hs
  case get.set | update.set =>
    split at hs <;> simp only [Option.some.injEq, Prod.mk.injEq] at hs <;> obtain ⟨rfl, -⟩ := hs <;>
      first | trivial | exact numbered_writeError _ (by decide)
  all_goals
    obtain ⟨rfl, -⟩ := hs
    split <;> first | trivial | exact numbered_writeError _ (by decide)

theorem readAck_numbered {api : SubPoolAPI} {zk : String → Option ZNode} {req : SubPoolUpdate}
    {r : APIResponse} (h : readAck api zk req = .error r) : (Handler.done (.error r)).Numbered := by
  unfold readAck at h
  split at h
  · cases h; exact numbered_writeError _ (by decide)
  · split at h <;> cases h; exact numbered_writeError _ (by decide)

theorem Handler.receiveAck_numbered {api : SubPoolAPI} {zk : String → Option ZNode}
    {h h' : Handler} (hs : h.receiveAck api zk = some h') : h'.Numbered := by
  rcases h with ⟨req, _ | _ | _ | _ | _⟩ | ⟨req, _ | _ | _ | _ | _⟩ | reply <;>
    simp only [Handler.receiveAck, Option.some.injEq, reduceCtorEq] at hs <;> subst hs <;>
    split <;> first | trivial | exact readAck_numbered ‹_› | exact updateCoinbaseAck_numbered _

theorem Handler.timeout_numbered {h h' : Handler} (hs : h.timeout = some h') : h'.Numbered := by
  rcases h with ⟨req, _ | _ | _ | _⟩ | ⟨req, _ | _ | _ | _⟩ | reply <;>
    simp only [Handler.timeout, Option.some.injEq, reduceCtorEq] at hs <;> subst hs <;>
    exact numbered_writeError _ (by decide)

@[simp] theorem Handler.numbered_fire (api : SubPoolAPI) (path : String) (h : Handler) :
    (h.fire api path).Numbered ↔ h.Numbered := by
  cases h <;> rfl

/-- Every event keeps every returned call's reply numbered. -/
theorem World.step_numbered {api : SubPoolAPI} {w : World} (hw : ∀ h ∈ w.handlers, h.Numbered)
    (e : Event) : ∀ h ∈ (w.step api e).handlers, h.Numbered := by
  have hset : ∀ {i h}, h.Numbered → ∀ h' ∈ w.handlers.set i h, h'.Numbered := fun hh h' hm =>
    (List.mem_or_eq_of_mem_set hm).elim (hw h') (· ▸ hh)
  have hwrite : ∀ {v : World} path zk, (∀ h ∈ v.handlers, h.Numbered) →
      ∀ h ∈ (v.write api path zk).handlers, h.Numbered := fun path zk hv h hm => by
    obtain ⟨h₀, hm₀, rfl⟩ := List.mem_map.1 hm
    exact (Handler.numbered_fire api path h₀).2 (hv h₀ hm₀)
  cases e with
  | getCoinbase req | updateCoinbase req =>
    intro h hm
    rcases List.mem_append.1 hm with hm | hm
    · exact hw h hm
    · rw [List.mem_singleton.1 hm]
      first | exact getCoinbaseHandle_numbered api req | exact updateCoinbaseHandle_numbered api req
  | request i =>
    simp only [World.step]
    split
    · exact hw
    · obtain ⟨_, _, hs⟩ := Option.bind_eq_some.1 ‹_›
      exact hset (Handler.step_numbered hs)
    · obtain ⟨_, _, hs⟩ := Option.bind_eq_some.1 ‹_›
      exact hwrite _ _ (hset (Handler.step_numbered hs))
  | ack i =>
    simp only [World.step]
    split
    · exact hw
    · obtain ⟨_, _, hs⟩ := Option.bind_eq_some.1 ‹_›
      exact hset (Handler.receiveAck_numbered hs)
  | timeout i =>
    simp only [World.step]
    split
    · exact hw
    · obtain ⟨_, _, hs⟩ := Option.bind_eq_some.1 ‹_›
      exact hset (Handler.timeout_numbered hs)
  | set path data | create path data =>
    simp only [World.step]
    split
    · exact hw
    · exact hwrite _ _ hw

end BtcPoolModules.UserChainAPIServer.SubPool
