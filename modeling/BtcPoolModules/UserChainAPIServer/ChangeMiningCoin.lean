/-
  BtcPoolModules.UserChainAPIServer.ChangeMiningCoin — `changeMiningCoin` in
  `userChainAPIServer/switcherAPIServer/HTTPAPI.go`, which tells the stratum switchers the coin
  of a sub-account by writing it into the ZooKeeper node `ZKSwitcherWatchDir + puname` they
  watch.  The single-switch API, the multi-user API and the cron job of `CronJob.go` call it.

  A sub-account that entered the user list less than the safety period ago (`GetSafetyPeriod`,
  `IntervalSeconds * 15 / 10` seconds) may not be in the sserver's cache yet, so its coin is
  written by a goroutine that first sleeps out the rest of the period.  The world holds the
  clock, the nodes and these sleeping writes.  A call is one step, at the time it reads; a
  sleeping write fires at any time from its due time on.  The time and the update time
  `GetUserUpdateTime` returns (a lookup in the C++ user list) are each call's inputs, and
  ZooKeeper answers every request.

  Main results:
    * `changeMiningCoin_of_passesChecks` / `changeMiningCoin_failed` — what a call writes,
      schedules and returns, for every input.
    * `callEach_run` — the multi-user API and the cron job act on the world as a run of calls.
    * `delayed_write_overrides_later_call` — the node ends with the coin of the last call when
      no delayed write of that sub-account is pending at that call; but the write delayed for a
      sub-account too new lands after a later call's immediate one, and the node ends with the
      earlier coin.
-/
import Mathlib.Logic.Function.Basic
import Mathlib.Data.List.Basic
import Mathlib.Data.String.Basic

namespace BtcPoolModules.UserChainAPIServer

/-! ## §1. Errors, configuration and nodes. -/

/-- `APIError`: the number and message an API response carries. -/
structure APIError where
  errNo : ℤ
  errMsg : String
  deriving DecidableEq, Repr

/-- `APIErrPunameIsEmpty`. -/
def apiErrPunameIsEmpty : APIError := ⟨101, "puname is empty"⟩
/-- `APIErrPunameInvalid`. -/
def apiErrPunameInvalid : APIError := ⟨102, "puname invalid"⟩
/-- `APIErrCoinIsEmpty`. -/
def apiErrCoinIsEmpty : APIError := ⟨103, "coin is empty"⟩
/-- `APIErrCoinIsInexistent`. -/
def apiErrCoinIsInexistent : APIError := ⟨104, "coin is inexistent"⟩
/-- `APIErrReadRecordFailed`. -/
def apiErrReadRecordFailed : APIError := ⟨105, "read record failed"⟩
/-- `APIErrWriteRecordFailed`. -/
def apiErrWriteRecordFailed : APIError := ⟨107, "write record failed"⟩
/-- `APIErrUserCoinsEmpty`. -/
def apiErrUserCoinsEmpty : APIError := ⟨109, "usercoins is empty"⟩

/-- The fields of `configData` the calls read (`IntervalSeconds` is the one of `initUserCoin`
that `GetSafetyPeriod` reads), and `strings.ToLower`. -/
structure ConfigData where
  availableCoins : List String
  zkSwitcherWatchDir : String
  stratumServerCaseInsensitive : Bool
  intervalSeconds : ℤ
  toLower : String → String

/-- `GetSafetyPeriod`: `IntervalSeconds * 15 / 10`, Go's division truncating. -/
def getSafetyPeriod (cfg : ConfigData) : ℤ := (cfg.intervalSeconds * 15).tdiv 10

/-- The node `changeMiningCoin` writes a sub-account's coin to: `ZKSwitcherWatchDir + puname`,
the name in lower case where the stratum server ignores case. -/
def zkPathOf (cfg : ConfigData) (puname : String) : String :=
  cfg.zkSwitcherWatchDir ++ if cfg.stratumServerCaseInsensitive then cfg.toLower puname else puname

/-- `zookeeperConn.Set(path, data, -1)`: the version `-1` matches any; `ErrNoNode` where the
node is missing. -/
def zkSet (zk : String → Option String) (path data : String) : Option (String → Option String) :=
  if (zk path).isSome then some (Function.update zk path (some data)) else none

/-- `zookeeperConn.Create(path, data, 0, acl)`: `ErrNodeExists` where the node is there. -/
def zkCreate (zk : String → Option String) (path data : String) : Option (String → Option String) :=
  if (zk path).isSome then none else some (Function.update zk path (some data))

theorem zkSet_getD_self {zk : String → Option String} {path : String} (h : (zk path).isSome)
    (data : String) : (zkSet zk path data).getD zk path = some data := by
  simp [zkSet, h]

theorem zkSet_getD_of_ne (zk : String → Option String) {path q : String} (h : q ≠ path)
    (data : String) : (zkSet zk path data).getD zk q = zk q := by
  unfold zkSet; split <;> simp [Function.update_noteq h]

theorem isSome_zkSet_getD {zk : String → Option String} {q : String} (h : (zk q).isSome)
    (path data : String) : ((zkSet zk path data).getD zk q).isSome := by
  by_cases hq : q = path
  · subst hq; simp [zkSet_getD_self h]
  · rwa [zkSet_getD_of_ne zk hq]

/-! ## §2. `changeMiningCoin`. -/

/-- The goroutine a call leaves for a sub-account too new: it sleeps `sleepTime` seconds, then
sets `zkPath` to `coin`. -/
structure DelayedSet where
  sleepTime : ℤ
  zkPath : String
  coin : String
  deriving DecidableEq, Repr

/-- What `changeMiningCoin` returns, the nodes after it, and the goroutine it started. -/
structure Changed where
  oldCoin : String
  apiErr : Option APIError
  zk : String → Option String
  delayed : Option DelayedSet

/-- `changeMiningCoin(puname, coin)` on the nodes `zk`, where `GetUserUpdateTime` returns
`userUpdateTime` and `time.Now().Unix()` is `nowTime`. -/
def changeMiningCoin (cfg : ConfigData) (zk : String → Option String) (puname coin : String)
    (userUpdateTime nowTime : ℤ) : Changed :=
  if puname = "" then ⟨"", some apiErrPunameIsEmpty, zk, none⟩
  else if puname.contains '/' then ⟨"", some apiErrPunameInvalid, zk, none⟩
  else if coin = "" then ⟨"", some apiErrCoinIsEmpty, zk, none⟩
  else if coin ∉ cfg.availableCoins then ⟨"", some apiErrCoinIsInexistent, zk, none⟩
  else
    let zkPath := zkPathOf cfg puname
    if (zk zkPath).isSome then
      match zk zkPath with
      | none => ⟨"", some apiErrReadRecordFailed, zk, none⟩
      | some oldCoin =>
        let safetyPeriod := getSafetyPeriod cfg
        if userUpdateTime ≠ 0 ∧ nowTime - userUpdateTime ≥ safetyPeriod then
          match zkSet zk zkPath coin with
          | none => ⟨oldCoin, some apiErrWriteRecordFailed, zk, none⟩
          | some zk' => ⟨oldCoin, none, zk', none⟩
        else
          let userUpdateTime := if userUpdateTime ≤ 0 then nowTime else userUpdateTime
          ⟨oldCoin, none, zk, some ⟨safetyPeriod - (nowTime - userUpdateTime), zkPath, coin⟩⟩
    else
      match zkCreate zk zkPath coin with
      | none => ⟨"", some apiErrWriteRecordFailed, zk, none⟩
      | some zk' => ⟨"", none, zk', none⟩

/-- The four checks `changeMiningCoin` makes before it reads ZooKeeper. -/
def passesChecks (cfg : ConfigData) (puname coin : String) : Prop :=
  puname ≠ "" ∧ puname.contains '/' = false ∧ coin ≠ "" ∧ coin ∈ cfg.availableCoins

instance (cfg : ConfigData) (puname coin : String) : Decidable (passesChecks cfg puname coin) :=
  inferInstanceAs (Decidable (_ ∧ _ ∧ _ ∧ _))

section Spec

variable (cfg : ConfigData) (zk : String → Option String) (puname coin : String)
  (userUpdateTime nowTime : ℤ)

/-- **What a call does once its checks pass**: it creates a missing node; it sets an existing
one where the sub-account's update time lies a safety period back; otherwise it leaves the node
and starts a goroutine that sets it after the rest of the period. -/
theorem changeMiningCoin_of_passesChecks (h : passesChecks cfg puname coin) :
    changeMiningCoin cfg zk puname coin userUpdateTime nowTime =
      match zk (zkPathOf cfg puname) with
      | none => ⟨"", none, Function.update zk (zkPathOf cfg puname) (some coin), none⟩
      | some oldCoin =>
        if userUpdateTime ≠ 0 ∧ nowTime - userUpdateTime ≥ getSafetyPeriod cfg then
          ⟨oldCoin, none, Function.update zk (zkPathOf cfg puname) (some coin), none⟩
        else
          ⟨oldCoin, none, zk, some ⟨getSafetyPeriod cfg -
            (nowTime - if userUpdateTime ≤ 0 then nowTime else userUpdateTime),
            zkPathOf cfg puname, coin⟩⟩ := by
  obtain ⟨h₁, h₂, h₃, h₄⟩ := h
  cases hz : zk (zkPathOf cfg puname) <;>
    simp [changeMiningCoin, zkSet, zkCreate, h₁, h₂, h₃, h₄, hz]

/-- A call whose checks fail returns the first failing check's error, and nothing else. -/
theorem changeMiningCoin_of_not_passesChecks (h : ¬passesChecks cfg puname coin) :
    ∃ err, changeMiningCoin cfg zk puname coin userUpdateTime nowTime = ⟨"", some err, zk, none⟩ := by
  unfold passesChecks at h
  by_cases h₁ : puname = ""
  · simp [changeMiningCoin, h₁]
  by_cases h₂ : puname.contains '/' = true
  · simp [changeMiningCoin, h₁, h₂]
  by_cases h₃ : coin = ""
  · simp [changeMiningCoin, h₁, h₂, h₃]
  have h₄ : coin ∉ cfg.availableCoins := fun h₄ => h ⟨h₁, by simpa using h₂, h₃, h₄⟩
  simp [changeMiningCoin, h₁, h₂, h₃, h₄]

/-- **A failed request changes nothing**: whatever the error, the nodes stay and no goroutine
is started. -/
theorem changeMiningCoin_failed
    (h : (changeMiningCoin cfg zk puname coin userUpdateTime nowTime).apiErr ≠ none) :
    (changeMiningCoin cfg zk puname coin userUpdateTime nowTime).zk = zk ∧
      (changeMiningCoin cfg zk puname coin userUpdateTime nowTime).delayed = none := by
  by_cases hc : passesChecks cfg puname coin
  · rw [changeMiningCoin_of_passesChecks _ _ _ _ _ _ hc] at h
    exfalso; apply h
    split
    · rfl
    · split_ifs <;> rfl
  · obtain ⟨err, he⟩ := changeMiningCoin_of_not_passesChecks cfg zk puname coin userUpdateTime nowTime hc
    simp [he]

end Spec

/-! ## §3. The world: calls and the writes they delay. -/

/-- A write a sleeping goroutine will make: from `due` on, it sets `zkPath` to `coin`. -/
structure PendingSet where
  due : ℤ
  zkPath : String
  coin : String
  deriving DecidableEq, Repr

/-- The API server's world: the clock, the ZooKeeper nodes and the goroutines still asleep. -/
structure World where
  clock : ℤ
  zk : String → Option String
  pending : List PendingSet

/-- A `changeMiningCoin(puname, coin)` call with what it reads: the time, and the update time
`GetUserUpdateTime` returns. -/
structure Call where
  nowTime : ℤ
  puname : String
  coin : String
  userUpdateTime : ℤ
  deriving DecidableEq, Repr

/-- What happens next: a call, or the `k`-th sleeping goroutine waking at `time` to set its
node. -/
inductive Event where
  | call (c : Call)
  | fire (k : ℕ) (time : ℤ)
  deriving DecidableEq, Repr

/-- A call, at a time no earlier than the clock: its result, and the world after it, where the
goroutine it started is due when its sleep ends. -/
def World.call (cfg : ConfigData) (w : World) (c : Call) : Option (Changed × World) :=
  if w.clock ≤ c.nowTime then
    let r := changeMiningCoin cfg w.zk c.puname c.coin c.userUpdateTime c.nowTime
    some (r, ⟨c.nowTime, r.zk, w.pending ++ (r.delayed.map fun d =>
      (⟨c.nowTime + d.sleepTime, d.zkPath, d.coin⟩ : PendingSet)).toList⟩)
  else none

/-- The goroutine `k` wakes, no earlier than its due time and the clock, and sets its node; a
failed `Set` is only logged. -/
def World.fire (w : World) (k : ℕ) (time : ℤ) : Option World :=
  match w.pending[k]? with
  | none => none
  | some p =>
    if w.clock ≤ time ∧ p.due ≤ time then
      some ⟨time, (zkSet w.zk p.zkPath p.coin).getD w.zk, w.pending.eraseIdx k⟩
    else none

/-- One event; `none` where it cannot happen. -/
def World.step (cfg : ConfigData) (w : World) : Event → Option World
  | .call c => (w.call cfg c).map Prod.snd
  | .fire k time => w.fire k time

/-- A run of events. -/
def World.run (cfg : ConfigData) : World → List Event → Option World
  | w, [] => some w
  | w, e :: es =>
    match w.step cfg e with
    | none => none
    | some w' => World.run cfg w' es

section World

variable {cfg : ConfigData} {w w' : World}

@[simp] theorem World.run_nil (w : World) : World.run cfg w [] = some w := rfl

theorem World.run_cons (w : World) (e : Event) (es : List Event) :
    World.run cfg w (e :: es) = (w.step cfg e).bind (World.run cfg · es) := by
  simp only [World.run]; cases w.step cfg e <;> rfl

theorem World.run_append (w : World) (xs ys : List Event) :
    World.run cfg w (xs ++ ys) = (World.run cfg w xs).bind (World.run cfg · ys) := by
  induction xs generalizing w with
  | nil => rfl
  | cons e es ih => cases h : w.step cfg e <;> simp [World.run_cons, h, ih]

/-- What a call can do to the world. -/
theorem World.call_cases {c : Call} {r : Changed} (h : w.call cfg c = some (r, w')) :
    r = changeMiningCoin cfg w.zk c.puname c.coin c.userUpdateTime c.nowTime ∧
      w'.zk = r.zk ∧ w'.pending = w.pending ++ (r.delayed.map fun d =>
        (⟨c.nowTime + d.sleepTime, d.zkPath, d.coin⟩ : PendingSet)).toList := by
  unfold World.call at h
  split_ifs at h
  cases h
  exact ⟨rfl, rfl, rfl⟩

/-- What a goroutine's wake-up can do to the world. -/
theorem World.fire_cases {k : ℕ} {time : ℤ} (h : w.fire k time = some w') :
    ∃ p, w.pending[k]? = some p ∧
      w'.zk = (zkSet w.zk p.zkPath p.coin).getD w.zk ∧ w'.pending = w.pending.eraseIdx k := by
  unfold World.fire at h
  split at h
  · cases h
  · split_ifs at h
    cases h
    exact ⟨_, ‹_›, rfl, rfl⟩

/-- **A passing call**: it touches only its sub-account's node, and either writes the coin at
once or leaves an existing node to one new sleeping write of the coin. -/
theorem World.call_of_passesChecks {c : Call} {r : Changed} (h : w.call cfg c = some (r, w'))
    (hc : passesChecks cfg c.puname c.coin) :
    (∀ q ≠ zkPathOf cfg c.puname, w'.zk q = w.zk q) ∧
      ((w'.zk (zkPathOf cfg c.puname) = some c.coin ∧ w'.pending = w.pending) ∨
        ((w.zk (zkPathOf cfg c.puname)).isSome ∧ w'.zk = w.zk ∧
          ∃ due, w'.pending = w.pending ++ [⟨due, zkPathOf cfg c.puname, c.coin⟩])) := by
  obtain ⟨rfl, hz, hp⟩ := World.call_cases h
  rw [changeMiningCoin_of_passesChecks _ _ _ _ _ _ hc] at hz hp
  cases ho : w.zk (zkPathOf cfg c.puname) with
  | none =>
    simp only [ho] at hz hp
    rw [hz]
    exact ⟨fun q hq => Function.update_noteq hq _ _, .inl ⟨by simp, by simpa using hp⟩⟩
  | some oldCoin =>
    simp only [ho] at hz hp
    by_cases hold : c.userUpdateTime ≠ 0 ∧ c.nowTime - c.userUpdateTime ≥ getSafetyPeriod cfg
    · simp only [if_pos hold] at hz hp
      rw [hz]
      exact ⟨fun q hq => Function.update_noteq hq _ _, .inl ⟨by simp, by simpa using hp⟩⟩
    · simp only [if_neg hold] at hz hp
      exact ⟨fun q _ => by rw [hz], .inr ⟨rfl, hz, _, hp.trans rfl⟩⟩

/-- A failed call leaves the nodes and the sleeping writes as they were. -/
theorem World.call_of_failed {c : Call} {r : Changed} (h : w.call cfg c = some (r, w'))
    (hf : r.apiErr ≠ none) : w'.zk = w.zk ∧ w'.pending = w.pending := by
  obtain ⟨rfl, hz, hp⟩ := World.call_cases h
  obtain ⟨hz', hd⟩ := changeMiningCoin_failed _ _ _ _ _ _ hf
  exact ⟨hz.trans hz', by simp [hp, hd]⟩

/-- **A call for another node**: where the call fails its checks or writes another node, the
node `path` stays, every sleeping write stays, and none of the new ones is for `path`. -/
theorem World.call_other {c : Call} {r : Changed} {path : String}
    (h : w.call cfg c = some (r, w'))
    (hpath : passesChecks cfg c.puname c.coin → zkPathOf cfg c.puname ≠ path) :
    w'.zk path = w.zk path ∧ (∀ p ∈ w.pending, p ∈ w'.pending) ∧
      ∀ p ∈ w'.pending, p ∈ w.pending ∨ p.zkPath ≠ path := by
  by_cases hc : passesChecks cfg c.puname c.coin
  · have hne := hpath hc
    obtain ⟨hframe, ⟨-, hp⟩ | ⟨-, -, due, hp⟩⟩ := World.call_of_passesChecks h hc <;>
      refine ⟨hframe path hne.symm, fun p hm => by simp [hp, hm], fun p hm => ?_⟩
    · exact .inl (hp ▸ hm)
    · rw [hp, List.mem_append, List.mem_singleton] at hm
      exact hm.imp_right fun (hq : p = _) => hq ▸ hne
  · obtain ⟨err, he⟩ := changeMiningCoin_of_not_passesChecks cfg w.zk _ _ c.userUpdateTime c.nowTime hc
    obtain ⟨hz, hp⟩ := World.call_of_failed h (by rw [(World.call_cases h).1, he]; simp)
    exact ⟨by rw [hz], fun p hm => hp ▸ hm, fun p hm => .inl (hp ▸ hm)⟩

end World

/-! ## §4. The APIs and the cron job. -/

/-- `APIResponse`. -/
structure APIResponse where
  errNo : ℤ
  errMsg : String
  success : Bool
  deriving DecidableEq, Repr

/-- `writeSuccess`. -/
def writeSuccess : APIResponse := ⟨0, "", true⟩

/-- `writeError`. -/
def writeError (errNo : ℤ) (errMsg : String) : APIResponse := ⟨errNo, errMsg, false⟩

/-- `switchHandle`: one call, with the form's `puname` and `coin`. -/
def switchHandle (cfg : ConfigData) (w : World) (c : Call) : Option (APIResponse × World) :=
  (w.call cfg c).map fun (r, w') =>
    (match r.apiErr with
     | some err => writeError err.errNo err.errMsg
     | none => writeSuccess, w')

/-- `changeMiningCoin` on each `(puname, coin)` in turn, the `i`-th call reading the time and
update time `reads i`: `switchMultiUserHandle` returns at the first error (`stopOnError`),
`RunCronJob` logs it and goes on.  The error it stopped at, and the world after. -/
def callEach (cfg : ConfigData) (reads : ℕ → ℤ × ℤ) (stopOnError : Bool) :
    ℕ → World → List (String × String) → Option (Option APIError × World)
  | _, w, [] => some (none, w)
  | i, w, (puname, coin) :: rest =>
    match w.call cfg ⟨(reads i).1, puname, coin, (reads i).2⟩ with
    | none => none
    | some (r, w') =>
      match r.apiErr with
      | some err =>
        if stopOnError then some (some err, w') else callEach cfg reads stopOnError (i + 1) w' rest
      | none => callEach cfg reads stopOnError (i + 1) w' rest

/-- `SwitchUserCoins`: a coin and the sub-accounts to switch to it. -/
structure SwitchUserCoins where
  coin : String
  puNames : List String

/-- `switchMultiUserHandle` on the decoded request. -/
def switchMultiUserHandle (cfg : ConfigData) (reads : ℕ → ℤ × ℤ) (w : World)
    (userCoins : List SwitchUserCoins) : Option (APIResponse × World) :=
  if userCoins.length = 0 then
    some (writeError apiErrUserCoinsEmpty.errNo apiErrUserCoinsEmpty.errMsg, w)
  else
    (callEach cfg reads true 0 w (userCoins.flatMap fun uc => uc.puNames.map (·, uc.coin))).map
      fun (e, w') =>
        (match e with
         | some err => writeError err.errNo err.errMsg
         | none => writeSuccess, w')

/-- One turn of `RunCronJob`'s loop, on the `user_coin` map it fetched, in the order Go's map
iteration gives. -/
def runCronJobTurn (cfg : ConfigData) (reads : ℕ → ℤ × ℤ) (w : World)
    (userCoin : List (String × String)) : Option World :=
  (callEach cfg reads false 0 w userCoin).map Prod.snd

/-- Two coins, and `IntervalSeconds = 10`: a safety period of `15` s. -/
def aliceConfig : ConfigData := ⟨["btc", "bcc"], "/stratumSwitcher/btcbcc/", false, 10, id⟩

/-- The API server's world at time `0`: the node of `alice` holds `btc`, and no write sleeps. -/
def aliceWorld : World :=
  ⟨0, fun q => if q = "/stratumSwitcher/btcbcc/alice" then some "btc" else none, []⟩

/-- What a sub-account's node and the writes still asleep say about the coin `coin`: the node
exists, every sleeping write to it is of `coin`, and the node holds `coin` or one of them is
still to come. -/
structure Settles (path coin : String) (w : World) : Prop where
  exists_node : (w.zk path).isSome
  pending_coin : ∀ p ∈ w.pending, p.zkPath = path → p.coin = coin
  holds_or_pending : w.zk path = some coin ∨ ∃ p ∈ w.pending, p.zkPath = path

section Settles

variable {cfg : ConfigData} {path coin : String} {w w' : World}

/-- A passing call for a sub-account with no write of it asleep settles its node on its coin. -/
theorem Settles.of_call {c : Call} {r : Changed} (h : w.call cfg c = some (r, w'))
    (hc : passesChecks cfg c.puname c.coin)
    (hp : ∀ p ∈ w.pending, p.zkPath ≠ zkPathOf cfg c.puname) :
    Settles (zkPathOf cfg c.puname) c.coin w' := by
  obtain ⟨-, ⟨hz, hpend⟩ | ⟨hex, hz, due, hpend⟩⟩ := World.call_of_passesChecks h hc
  · exact ⟨by simp [hz], fun p hm hpath => absurd hpath (hp p (hpend ▸ hm)), .inl hz⟩
  · refine ⟨hz ▸ hex, fun p hm hpath => ?_,
      .inr ⟨_, hpend ▸ List.mem_append_right _ (List.mem_singleton_self _), rfl⟩⟩
    rw [hpend, List.mem_append, List.mem_singleton] at hm
    rcases hm with hm | rfl
    · exact absurd hpath (hp p hm)
    · rfl

/-- Every event but a passing call for the node keeps it settled. -/
theorem Settles.step (hs : Settles path coin w) {e : Event} (h : w.step cfg e = some w')
    (he : ∀ c, e = .call c → passesChecks cfg c.puname c.coin → zkPathOf cfg c.puname ≠ path) :
    Settles path coin w' := by
  cases e with
  | call c =>
    obtain ⟨⟨r, v⟩, hv, rfl⟩ := Option.map_eq_some'.1 h
    obtain ⟨hz, hkeep, hnew⟩ := World.call_other hv (he c rfl)
    refine ⟨hz ▸ hs.exists_node, fun p hm hpath => ?_, hz ▸ ?_⟩
    · exact (hnew p hm).elim (hs.pending_coin p · hpath) (absurd hpath)
    · exact hs.holds_or_pending.imp_right fun ⟨p, hm, hpath⟩ => ⟨p, hkeep p hm, hpath⟩
  | fire k time =>
    obtain ⟨q, hq, hz, hpend⟩ := World.fire_cases h
    have hqm : q ∈ w.pending := List.getElem?_mem hq
    refine ⟨hz ▸ isSome_zkSet_getD hs.exists_node _ _,
      fun p hm hpath => hs.pending_coin p (List.mem_of_mem_eraseIdx (hpend ▸ hm)) hpath, ?_⟩
    by_cases hqp : q.zkPath = path
    · left
      rw [hz, ← hqp, zkSet_getD_self (hqp ▸ hs.exists_node), hs.pending_coin q hqm hqp]
    · rw [hz, zkSet_getD_of_ne _ (Ne.symm hqp)]
      refine hs.holds_or_pending.imp_right fun ⟨p, hm, hpath⟩ => ?_
      obtain ⟨j, hj⟩ := List.mem_iff_getElem?.1 hm
      have hjk : j ≠ k := fun hjk => hqp (by rw [hjk, hq] at hj; cases hj; exact hpath)
      exact ⟨p, hpend ▸ List.mem_eraseIdx_iff_getElem?.2 ⟨j, hjk, hj⟩, hpath⟩

/-- A run of such events keeps the node settled. -/
theorem Settles.run (hs : Settles path coin w) (es : List Event)
    (he : ∀ c, .call c ∈ es → passesChecks cfg c.puname c.coin → zkPathOf cfg c.puname ≠ path)
    (h : World.run cfg w es = some w') : Settles path coin w' := by
  induction es generalizing w with
  | nil => cases h; exact hs
  | cons e es ih =>
    rw [World.run_cons] at h
    obtain ⟨v, hv, hrun⟩ := Option.bind_eq_some.1 h
    exact ih (hs.step hv fun c hc => he c (hc ▸ List.mem_cons_self _ _))
      (fun c hc => he c (List.mem_cons_of_mem _ hc)) hrun

/-- A settled node with no write of it asleep holds the coin. -/
theorem Settles.holds (hs : Settles path coin w) (hp : ∀ p ∈ w.pending, p.zkPath ≠ path) :
    w.zk path = some coin :=
  hs.holds_or_pending.resolve_right fun ⟨p, hm, hpath⟩ => hp p hm hpath

end Settles

/-- **The last call's coin, unless a delayed write lands after it.**  Take a run in which a
passing call for a sub-account is the last passing one for its node, and no write of the node
is asleep when it is made: once every write of the node has fired, the node holds that call's
coin.  But a call for a sub-account too new delays its write to the end of the safety period,
and a later call for the same sub-account whose update time lies a safety period back writes at
once: the delayed write then fires after it, and the node ends with the earlier coin. -/
theorem delayed_write_overrides_later_call (cfg : ConfigData) :
    (∀ (w w' : World) (pre post : List Event) (c : Call),
      World.run cfg w (pre ++ .call c :: post) = some w' →
      passesChecks cfg c.puname c.coin →
      (∃ v, World.run cfg w pre = some v ∧ ∀ p ∈ v.pending, p.zkPath ≠ zkPathOf cfg c.puname) →
      (∀ c', .call c' ∈ post → passesChecks cfg c'.puname c'.coin →
        zkPathOf cfg c'.puname ≠ zkPathOf cfg c.puname) →
      (∀ p ∈ w'.pending, p.zkPath ≠ zkPathOf cfg c.puname) →
      w'.zk (zkPathOf cfg c.puname) = some c.coin) ∧
    (∀ (w : World) (puname coin₁ coin₂ : String) (now₁ u₁ now₂ u₂ time : ℤ),
      passesChecks cfg puname coin₁ → passesChecks cfg puname coin₂ →
      (w.zk (zkPathOf cfg puname)).isSome → w.pending = [] →
      w.clock ≤ now₁ → now₁ ≤ now₂ → now₂ ≤ time →
      ¬(u₁ ≠ 0 ∧ now₁ - u₁ ≥ getSafetyPeriod cfg) →
      (if u₁ ≤ 0 then now₁ else u₁) + getSafetyPeriod cfg ≤ time →
      u₂ ≠ 0 ∧ now₂ - u₂ ≥ getSafetyPeriod cfg →
      ∃ w', World.run cfg w [.call ⟨now₁, puname, coin₁, u₁⟩, .call ⟨now₂, puname, coin₂, u₂⟩,
          .fire 0 time] = some w' ∧
        w'.pending = [] ∧ w'.zk (zkPathOf cfg puname) = some coin₁) := by
  refine ⟨fun w w' pre post c h hc ⟨v, hv, hvp⟩ hpost hend => ?_,
    fun w puname coin₁ coin₂ now₁ u₁ now₂ u₂ time hc₁ hc₂ hex hnil h₁ h₁₂ h₂ hnew hdue hold => ?_⟩
  · rw [World.run_append, hv, Option.some_bind, World.run_cons] at h
    obtain ⟨v', hv', hrun⟩ := Option.bind_eq_some.1 h
    obtain ⟨⟨r, v''⟩, hcall, rfl⟩ := Option.map_eq_some'.1 hv'
    exact ((Settles.of_call hcall hc hvp).run post hpost hrun).holds hend
  · obtain ⟨old, hold₀⟩ := Option.isSome_iff_exists.1 hex
    have hsp₁ := changeMiningCoin_of_passesChecks cfg w.zk puname coin₁ u₁ now₁ hc₁
    have hsp₂ := changeMiningCoin_of_passesChecks cfg w.zk puname coin₂ u₂ now₂ hc₂
    simp only [hold₀, if_neg hnew] at hsp₁
    simp only [hold₀, if_pos hold] at hsp₂
    have hfire : now₁ + (getSafetyPeriod cfg - (now₁ - if u₁ ≤ 0 then now₁ else u₁)) ≤ time := by
      split_ifs at hdue ⊢ <;> omega
    refine ⟨⟨time, Function.update (Function.update w.zk (zkPathOf cfg puname) (some coin₂))
      (zkPathOf cfg puname) (some coin₁), []⟩, ?_, rfl, by simp⟩
    simp [World.run, World.step, World.call, World.fire, zkSet, hsp₁, hsp₂, hnil, h₁,
      h₁₂, h₂, hfire]

/-- A call to `bcc` whose update time lies a safety period back writes at once and settles the
node; but a call to `bcc` `5` s after the update delays its write to `1010`, a call to `btc` at
`1001` writes at once, and the delayed write then puts `bcc` back. -/
theorem delayed_write_overrides_later_call_alice :
    World.run aliceConfig aliceWorld [.call ⟨1001, "alice", "bcc", 500⟩] =
        some ⟨1001, Function.update aliceWorld.zk (zkPathOf aliceConfig "alice") (some "bcc"), []⟩ ∧
      Function.update aliceWorld.zk (zkPathOf aliceConfig "alice") (some "bcc")
        (zkPathOf aliceConfig "alice") = some "bcc" ∧
    ∃ w', World.run aliceConfig aliceWorld [.call ⟨1000, "alice", "bcc", 995⟩,
        .call ⟨1001, "alice", "btc", 500⟩, .fire 0 1010] = some w' ∧
      w'.pending = [] ∧ w'.zk (zkPathOf aliceConfig "alice") = some "bcc" := by
  have hcontains : "alice".contains '/' = false := by rw [String.contains, String.any_eq]; decide
  have hbcc : passesChecks aliceConfig "alice" "bcc" := ⟨by decide, hcontains, by decide, by decide⟩
  have hbtc : passesChecks aliceConfig "alice" "btc" := ⟨by decide, hcontains, by decide, by decide⟩
  have hnode : aliceWorld.zk (zkPathOf aliceConfig "alice") = some "btc" := by
    simp [aliceWorld, zkPathOf, aliceConfig]
  have hsp : getSafetyPeriod aliceConfig = 15 := by decide
  have hr : World.run aliceConfig aliceWorld [.call ⟨1001, "alice", "bcc", 500⟩] =
      some ⟨1001, Function.update aliceWorld.zk (zkPathOf aliceConfig "alice") (some "bcc"), []⟩ := by
    simp only [World.run, World.step, World.call, changeMiningCoin_of_passesChecks _ _ _ _ _ _ hbcc,
      hnode, hsp]
    simp [aliceWorld]
  exact ⟨hr, (delayed_write_overrides_later_call aliceConfig).1 aliceWorld _ [] [] _ hr hbcc
      ⟨aliceWorld, rfl, by simp [aliceWorld]⟩ (by simp) (by simp),
    (delayed_write_overrides_later_call aliceConfig).2 aliceWorld "alice" "bcc" "btc" 1000 995 1001
      500 1010 hbcc hbtc (by rw [hnode]; rfl) rfl (by decide) (by decide) (by decide)
      (by rw [hsp]; decide) (by rw [hsp]; decide) (by rw [hsp]; decide)⟩

end BtcPoolModules.UserChainAPIServer
