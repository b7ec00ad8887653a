/-
  BtcPoolModules.UserChainAPIServer.InitUserCoin — `InitUserCoin` and `setMiningCoin` in
  `userChainAPIServer/initUserCoin/InitUserCoin.go`, which give every sub-account of a coin's
  user list its ZooKeeper node `ZKSwitcherWatchDir + puname` the stratum switchers watch.

  `InitUserCoin` polls the user list API with `?last_id=lastPUID`.  One pass walks the users of
  the response, in the map's order: it strips the coin postfix from the name, calls
  `setMiningCoin`, skips the user on any error but "record exists", and otherwise raises
  `lastPUID` to the user's puid and passes the user to the C++ list.  The HTTP request and the
  JSON decoding are the response the pass is given.  ZooKeeper is the map of its nodes; each
  `setMiningCoin` call meets its own request failures, so every outcome of every call is one of
  the inputs.  The initusercoin package's `APIError` and its values `101`–`107` are those of
  `ChangeMiningCoin`; `108` is its own.

  Main results:
    * `setMiningCoin_of_passesChecks` — what a call whose four checks pass returns: `105` when
      `Exists` fails, `108` when the node is there, `107` when `Create` fails, else success.
    * `PassInv.visitUsers` — through a pass, `lastPUID` stays the largest of its start and the
      puids of the users kept so far, whatever the order of the map; so every round keeps it,
      and `lastPUID` never goes down from round to round (`le_initUserCoinRounds`).
    * `transient_failure_below_lastPUID` — after a pass, a user whose call failed with `105` or
      `107` lies above the new `lastPUID` exactly when it lies above the old one and above every
      kept user; a failed user `a` (puid `1`) before a kept user `b` (puid `2`) lies below it.
-/
import Mathlib.Data.String.Basic
import BtcPoolModules.UserChainAPIServer.ChangeMiningCoin

namespace BtcPoolModules.UserChainAPIServer.InitUserCoin

/-! ## §1. Configuration, ZooKeeper failures and `setMiningCoin`. -/

/-- `APIErrRecordExists`. -/
def apiErrRecordExists : APIError := ⟨108, "record exists, skip"⟩

/-- The fields of the initusercoin `configData` that `setMiningCoin` reads (the coins are the
keys of `UserListAPI`), and `strings.ToLower`. -/
structure ConfigData where
  userListAPI : List String
  zkSwitcherWatchDir : String
  stratumServerCaseInsensitive : Bool
  zkUserCaseInsensitiveIndex : String
  toLower : String → String

/-- Which ZooKeeper requests of one `setMiningCoin` call fail: those of the case-insensitive
index node, the `Exists` of the watched node, and its `Create`. -/
structure ZkFaults where
  indexFails : Bool
  existsFails : Bool
  createFails : Bool
  deriving DecidableEq, Repr

/-- A call whose requests all succeed. -/
def ZkFaults.none : ZkFaults := ⟨false, false, false⟩

/-- The case-insensitive index write: `Exists(index + lower(puname))`, then `Create` of it with
`puname` when missing.  Both errors are only logged. -/
def writeCaseInsensitiveIndex (cfg : ConfigData) (zk : String → Option String) (f : ZkFaults)
    (puname : String) : String → Option String :=
  let zkIndexPath := cfg.zkUserCaseInsensitiveIndex ++ cfg.toLower puname
  if f.indexFails || (zk zkIndexPath).isSome then zk
  else Function.update zk zkIndexPath (some puname)

/-- The name `setMiningCoin` writes the node of: lower case where the stratum server ignores
case. -/
def zkPuname (cfg : ConfigData) (puname : String) : String :=
  if cfg.stratumServerCaseInsensitive then cfg.toLower puname else puname

/-- The nodes after the index branch of `setMiningCoin`: written only where the stratum server
minds case and `ZKUserCaseInsensitiveIndex` is set. -/
def afterIndex (cfg : ConfigData) (zk : String → Option String) (f : ZkFaults) (puname : String) :
    String → Option String :=
  if !cfg.stratumServerCaseInsensitive && cfg.zkUserCaseInsensitiveIndex ≠ "" then
    writeCaseInsensitiveIndex cfg zk f puname
  else zk

/-- The four checks `setMiningCoin` makes before it reads ZooKeeper. -/
def passesChecks (cfg : ConfigData) (puname coin : String) : Prop :=
  puname ≠ "" ∧ puname.contains '/' = false ∧ coin ≠ "" ∧ coin ∈ cfg.userListAPI

instance (cfg : ConfigData) (puname coin : String) : Decidable (passesChecks cfg puname coin) :=
  inferInstanceAs (Decidable (_ ∧ _))

/-- `setMiningCoin(puname, coin)`: its error, and the nodes after it. -/
def setMiningCoin (cfg : ConfigData) (zk : String → Option String) (f : ZkFaults)
    (puname coin : String) : Option APIError × (String → Option String) :=
  if puname = "" then (some apiErrPunameIsEmpty, zk)
  else if puname.contains '/' then (some apiErrPunameInvalid, zk)
  else if coin = "" then (some apiErrCoinIsEmpty, zk)
  else if coin ∉ cfg.userListAPI then (some apiErrCoinIsInexistent, zk)
  else
    let zk := afterIndex cfg zk f puname
    let zkPath := cfg.zkSwitcherWatchDir ++ zkPuname cfg puname
    if f.existsFails then (some apiErrReadRecordFailed, zk)
    else if (zk zkPath).isSome then (some apiErrRecordExists, zk)
    else match (if f.createFails then none else zkCreate zk zkPath coin) with
      | none => (some apiErrWriteRecordFailed, zk)
      | some zk' => (none, zk')

/-- What a call whose checks pass returns: `105` when `Exists` fails, `108` when the node is
there, `107` when `Create` fails, and success otherwise. -/
theorem setMiningCoin_of_passesChecks (cfg : ConfigData) (zk : String → Option String)
    (f : ZkFaults) {puname coin : String} (h : passesChecks cfg puname coin) :
    (setMiningCoin cfg zk f puname coin).1 =
      if f.existsFails then some apiErrReadRecordFailed
      else if (afterIndex cfg zk f puname (cfg.zkSwitcherWatchDir ++ zkPuname cfg puname)).isSome
        then some apiErrRecordExists
      else if f.createFails then some apiErrWriteRecordFailed
      else none := by
  obtain ⟨h₁, h₂, h₃, h₄⟩ := h
  simp only [setMiningCoin, h₁, h₂, h₃, h₄, if_false, not_true_eq_false, Bool.false_eq_true]
  split_ifs <;> simp_all [zkCreate]

/-! ## §2. One pass of `InitUserCoin`'s loop. -/

/-- `puname[0:strings.LastIndex(puname, "_")]` when `puname` contains `_`: the coin postfix
removed. -/
def stripCoinPostfix (puname : String) : String :=
  if puname.contains '_' then String.mk ((puname.toList.reverse.dropWhile (· ≠ '_')).drop 1).reverse
  else puname

/-- Whether the loop goes on with a user after `setMiningCoin` returned `err`: on success, or
when the record exists; on any other error it `continue`s. -/
def keepsUser (err : Option APIError) : Bool :=
  decide (err = none) || decide (err = some apiErrRecordExists)

/-- The loop's state: `lastPUID`, the nodes, the users passed to `C.addUser` (puid and name),
and each user's puid with what its `setMiningCoin` returned, in order. -/
structure PassState where
  lastPUID : ℤ
  zk : String → Option String
  added : List (ℤ × String)
  outcomes : List (ℤ × Option APIError)

/-- One user `(puname, puid)` of the loop, whose `setMiningCoin` call meets the failures `f`. -/
def visitUser (cfg : ConfigData) (coin : String) (f : ZkFaults) (s : PassState)
    (user : String × ℤ) : PassState :=
  let puname := stripCoinPostfix user.1
  let r := setMiningCoin cfg s.zk f puname coin
  if keepsUser r.1 then
    ⟨if user.2 > s.lastPUID then user.2 else s.lastPUID, r.2, s.added ++ [(user.2, puname)],
      s.outcomes ++ [(user.2, r.1)]⟩
  else ⟨s.lastPUID, r.2, s.added, s.outcomes ++ [(user.2, r.1)]⟩

/-- The loop `for puname, puid := range userIDMapResponse.Data` over the users in the order the
map gives them; the `n`-th call meets the failures `faults n`. -/
def visitUsers (cfg : ConfigData) (coin : String) (faults : ℕ → ZkFaults) :
    ℕ → PassState → List (String × ℤ) → PassState
  | _, s, [] => s
  | n, s, user :: rest => visitUsers cfg coin faults (n + 1) (visitUser cfg coin (faults n) s user) rest

/-- One pass from `lastPUID` and the nodes `zk`. -/
def initUserCoinPass (cfg : ConfigData) (coin : String) (faults : ℕ → ZkFaults) (lastPUID : ℤ)
    (zk : String → Option String) (users : List (String × ℤ)) : PassState :=
  visitUsers cfg coin faults 0 ⟨lastPUID, zk, [], []⟩ users

/-- What the `HTTP GET` of the user list gives the loop. -/
inductive UserListResponse where
  /-- `http.Get` or `ioutil.ReadAll` failed. -/
  | requestFailed
  /-- The body parses as neither response. -/
  | parseFailed
  /-- `data` is an empty array: no new user. -/
  | noNewUser
  /-- `err_no` and the map `data`, in the order `range` visits it. -/
  | userIDMap (errNo : ℤ) (data : List (String × ℤ))

/-- The body of `InitUserCoin`'s loop: a pass over the users when the response carries them with
`err_no` `0`; otherwise it returns at once. -/
def initUserCoinRound (cfg : ConfigData) (coin : String) (faults : ℕ → ZkFaults) (lastPUID : ℤ)
    (zk : String → Option String) : UserListResponse → PassState
  | .userIDMap errNo data =>
    if errNo ≠ 0 then ⟨lastPUID, zk, [], []⟩ else initUserCoinPass cfg coin faults lastPUID zk data
  | _ => ⟨lastPUID, zk, [], []⟩

/-! ## §3. `lastPUID` through a pass. -/

/-- Every user's outcome is recorded, kept or not. -/
theorem visitUser_outcomes (cfg : ConfigData) (coin : String) (f : ZkFaults) (s : PassState)
    (user : String × ℤ) :
    (visitUser cfg coin f s user).outcomes =
      s.outcomes ++ [(user.2, (setMiningCoin cfg s.zk f (stripCoinPostfix user.1) coin).1)] := by
  by_cases hk : keepsUser (setMiningCoin cfg s.zk f (stripCoinPostfix user.1) coin).1 <;>
    simp only [visitUser, hk, if_true, if_false, Bool.false_eq_true]

/-- A kept user raises `lastPUID` to its puid; a skipped one leaves it. -/
theorem visitUser_lastPUID (cfg : ConfigData) (coin : String) (f : ZkFaults) (s : PassState)
    (user : String × ℤ) :
    (visitUser cfg coin f s user).lastPUID =
      if keepsUser (setMiningCoin cfg s.zk f (stripCoinPostfix user.1) coin).1 then
        (if user.2 > s.lastPUID then user.2 else s.lastPUID)
      else s.lastPUID := by
  by_cases hk : keepsUser (setMiningCoin cfg s.zk f (stripCoinPostfix user.1) coin).1 <;>
    simp only [visitUser, hk, if_true, if_false, Bool.false_eq_true]

/-- **The pass invariant** from `lastPUID₀`: `lastPUID` is the largest of `lastPUID₀` and the
puids of the users kept so far. -/
structure PassInv (lastPUID₀ : ℤ) (s : PassState) : Prop where
  start_le : lastPUID₀ ≤ s.lastPUID
  kept_le : ∀ o ∈ s.outcomes, keepsUser o.2 → o.1 ≤ s.lastPUID
  attained : s.lastPUID = lastPUID₀ ∨ ∃ o ∈ s.outcomes, keepsUser o.2 ∧ o.1 = s.lastPUID

theorem PassInv.start (lastPUID₀ : ℤ) (zk : String → Option String) :
    PassInv lastPUID₀ ⟨lastPUID₀, zk, [], []⟩ :=
  ⟨le_rfl, by simp, Or.inl rfl⟩

/-- One user keeps the invariant. -/
theorem PassInv.visitUser {lastPUID₀ : ℤ} {s : PassState} (hs : PassInv lastPUID₀ s)
    (cfg : ConfigData) (coin : String) (f : ZkFaults) (user : String × ℤ) :
    PassInv lastPUID₀ (visitUser cfg coin f s user) := by
  have ho := visitUser_outcomes cfg coin f s user
  have hl := visitUser_lastPUID cfg coin f s user
  generalize (setMiningCoin cfg s.zk f (stripCoinPostfix user.1) coin).1 = r at ho hl
  generalize InitUserCoin.visitUser cfg coin f s user = s' at ho hl ⊢
  have hle : s.lastPUID ≤ s'.lastPUID := by rw [hl]; split_ifs <;> omega
  refine ⟨hs.start_le.trans hle, fun o hmem hko => ?_, ?_⟩
  · rw [ho, List.mem_append, List.mem_singleton] at hmem
    rcases hmem with hmem | rfl
    · exact (hs.kept_le o hmem hko).trans hle
    · rw [hl, if_pos hko]; split_ifs <;> omega
  · rw [ho]
    by_cases hraise : keepsUser r ∧ user.2 > s.lastPUID
    · exact Or.inr ⟨_, List.mem_append_right _ (List.mem_singleton_self _), hraise.1,
        by rw [hl, if_pos hraise.1, if_pos hraise.2]⟩
    · have hsame : s'.lastPUID = s.lastPUID := by rw [hl]; split_ifs <;> tauto
      rcases hs.attained with h | ⟨o, hmem, hko, heq⟩
      · exact Or.inl (hsame.trans h)
      · exact Or.inr ⟨o, List.mem_append_left _ hmem, hko, heq.trans hsame.symm⟩

/-- **A whole pass keeps the invariant**, in every order of the map. -/
theorem PassInv.visitUsers {lastPUID₀ : ℤ} (cfg : ConfigData) (coin : String)
    (faults : ℕ → ZkFaults) :
    ∀ (n : ℕ) {s : PassState} (users : List (String × ℤ)), PassInv lastPUID₀ s →
      PassInv lastPUID₀ (visitUsers cfg coin faults n s users)
  | _, _, [], hs => hs
  | n, _, user :: rest, hs => PassInv.visitUsers cfg coin faults (n + 1) rest (hs.visitUser cfg coin _ user)

/-- Under the invariant, `lastPUID` lies below `x` exactly when its start and every kept puid
do. -/
theorem PassInv.lastPUID_lt_iff {lastPUID₀ : ℤ} {s : PassState} (hs : PassInv lastPUID₀ s)
    (x : ℤ) :
    s.lastPUID < x ↔ lastPUID₀ < x ∧ ∀ o ∈ s.outcomes, keepsUser o.2 → o.1 < x := by
  constructor
  · intro h
    exact ⟨lt_of_le_of_lt hs.start_le h, fun o ho hko => lt_of_le_of_lt (hs.kept_le o ho hko) h⟩
  · rintro ⟨h₀, hkept⟩
    rcases hs.attained with h | ⟨o, ho, hko, heq⟩
    · rwa [h]
    · rw [← heq]; exact hkept o ho hko

/-- Every round keeps the invariant, whatever the response: one that returns at once leaves
`lastPUID` as it was. -/
theorem PassInv.initUserCoinRound (cfg : ConfigData) (coin : String) (faults : ℕ → ZkFaults)
    (lastPUID : ℤ) (zk : String → Option String) (r : UserListResponse) :
    PassInv lastPUID (initUserCoinRound cfg coin faults lastPUID zk r) := by
  cases r with
  | userIDMap errNo data =>
    rw [InitUserCoin.initUserCoinRound]
    split_ifs
    · exact PassInv.start lastPUID zk
    · exact PassInv.visitUsers cfg coin faults 0 data (PassInv.start lastPUID zk)
  | _ => exact PassInv.start lastPUID zk

/-- The rounds of `InitUserCoin` on a sequence of responses, each round's calls meeting their
own failures: the `lastPUID` and the nodes the last round leaves. -/
def initUserCoinRounds (cfg : ConfigData) (coin : String) :
    ℤ → (String → Option String) → List (UserListResponse × (ℕ → ZkFaults)) →
      ℤ × (String → Option String)
  | lastPUID, zk, [] => (lastPUID, zk)
  | lastPUID, zk, (r, faults) :: rest =>
    initUserCoinRounds cfg coin (initUserCoinRound cfg coin faults lastPUID zk r).lastPUID
      (initUserCoinRound cfg coin faults lastPUID zk r).zk rest

/-- **`lastPUID` never goes down** over any sequence of rounds. -/
theorem le_initUserCoinRounds (cfg : ConfigData) (coin : String) :
    ∀ (lastPUID : ℤ) (zk : String → Option String) (rounds : List (UserListResponse × (ℕ → ZkFaults))),
      lastPUID ≤ (initUserCoinRounds cfg coin lastPUID zk rounds).1
  | _, _, [] => le_rfl
  | lastPUID, zk, (r, faults) :: rest =>
    ((PassInv.initUserCoinRound cfg coin faults lastPUID zk r).start_le).trans
      (le_initUserCoinRounds cfg coin _ _ rest)

/-! ## §4. A user that failed for a while is not asked for again. -/

theorem stripCoinPostfix_of_not_contains {puname : String} (h : puname.contains '_' = false) :
    stripCoinPostfix puname = puname := by
  rw [stripCoinPostfix, if_neg (by rw [h]; decide)]

/-- The failures of a pass whose first call's `Exists` fails and whose other requests succeed. -/
def existsFailsFirst (n : ℕ) : ZkFaults := if n = 0 then ⟨false, true, false⟩ else .none

/-- **`lastPUID` after a pass is the largest of its start and the kept users' puids**, in every
order of the map and with any request failures: a user whose `setMiningCoin` failed with `105`
or `107` lies above it exactly when it lies above the old `lastPUID` and above every kept user.
So a user `a` (puid `1`) whose `Exists` fails, before a user `b` (puid `2`) whose requests
succeed, lies below the new `lastPUID`, and the next request, `?last_id=lastPUID`, does not
return `a` again. -/
theorem transient_failure_below_lastPUID (cfg : ConfigData) (coin : String) (hcoin : coin ≠ "")
    (havail : coin ∈ cfg.userListAPI) (lastPUID : ℤ) (zk : String → Option String) :
    (∀ (faults : ℕ → ZkFaults) (users : List (String × ℤ)) (x : ℤ),
      (initUserCoinPass cfg coin faults lastPUID zk users).lastPUID < x ↔
        lastPUID < x ∧ ∀ o ∈ (initUserCoinPass cfg coin faults lastPUID zk users).outcomes,
          keepsUser o.2 → o.1 < x) ∧
    (1, some apiErrReadRecordFailed) ∈
      (initUserCoinPass cfg coin existsFailsFirst lastPUID zk [("a", 1), ("b", 2)]).outcomes ∧
    2 ≤ (initUserCoinPass cfg coin existsFailsFirst lastPUID zk [("a", 1), ("b", 2)]).lastPUID := by
  refine ⟨fun faults users x => (PassInv.visitUsers cfg coin faults 0 users
    (PassInv.start lastPUID zk)).lastPUID_lt_iff x, ?_⟩
  have hsa : stripCoinPostfix "a" = "a" :=
    stripCoinPostfix_of_not_contains (by rw [String.contains, String.any_eq]; decide)
  have hsb : stripCoinPostfix "b" = "b" :=
    stripCoinPostfix_of_not_contains (by rw [String.contains, String.any_eq]; decide)
  have hca : passesChecks cfg "a" coin :=
    ⟨by decide, by rw [String.contains, String.any_eq]; decide, hcoin, havail⟩
  have hcb : passesChecks cfg "b" coin :=
    ⟨by decide, by rw [String.contains, String.any_eq]; decide, hcoin, havail⟩
  have hra := setMiningCoin_of_passesChecks cfg zk ⟨false, true, false⟩ hca
  have hkb : ∀ zk', keepsUser (setMiningCoin cfg zk' .none "b" coin).1 = true := fun zk' => by
    rw [setMiningCoin_of_passesChecks _ _ _ hcb]
    simp only [ZkFaults.none, Bool.false_eq_true, if_false]
    split_ifs <;> rfl
  simp only [initUserCoinPass, visitUsers, visitUser_outcomes, visitUser_lastPUID, existsFailsFirst,
    hsa, hsb, hra, hkb, if_true, if_false, zero_add, one_ne_zero]
  refine ⟨by simp, ?_⟩
  split_ifs <;> omega

/-- The configuration of the source's example: the coins `btc` and `bcc`. -/
def exampleConfig : ConfigData := ⟨["btc", "bcc"], "/switcher/", false, "", id⟩

theorem transient_failure_below_lastPUID_btc :
    "btc" ≠ "" ∧ "btc" ∈ exampleConfig.userListAPI ∧
    (∀ (faults : ℕ → ZkFaults) (users : List (String × ℤ)) (x : ℤ),
      (initUserCoinPass exampleConfig "btc" faults 0 (fun _ => none) users).lastPUID < x ↔
        0 < x ∧ ∀ o ∈ (initUserCoinPass exampleConfig "btc" faults 0 (fun _ => none) users).outcomes,
          keepsUser o.2 → o.1 < x) ∧
    (1, some apiErrReadRecordFailed) ∈
      (initUserCoinPass exampleConfig "btc" existsFailsFirst 0 (fun _ => none) [("a", 1), ("b", 2)]).outcomes ∧
    2 ≤ (initUserCoinPass exampleConfig "btc" existsFailsFirst 0 (fun _ => none)
      [("a", 1), ("b", 2)]).lastPUID :=
  ⟨by decide, by decide,
    transient_failure_below_lastPUID exampleConfig "btc" (by decide) (by decide) 0 (fun _ => none)⟩

end BtcPoolModules.UserChainAPIServer.InitUserCoin
