/-
  BtcPoolModules.StratumSwitcher.RegularName — the case-insensitive sub-account index that two
  programs share.  Where the stratum server minds case and `ZKUserCaseInsensitiveIndex` is set,
  initusercoin's `setMiningCoin` (`userChainAPIServer/initUserCoin/InitUserCoin.go`) creates the
  node `index + strings.ToLower(puname)` holding `puname`, when it is missing; the switcher's
  `GetRegularSubaccountName` (`stratumSwitcher/StratumSessionManager.go`) reads that node to turn
  the sub-account name a miner typed into the registered one.

  ZooKeeper meanwhile takes initusercoin's calls, from the goroutines of all its coins in any
  order, and writes of the watched nodes `ZKSwitcherWatchDir + name` (the API server's
  `changeMiningCoin`).  Each call is one step, with its own request failures.

  Main results:
    * `IndexStep` — what a step can do to the index: leave a node, or create a missing one with
      a spelling of its key; `setMiningCoin_indexStep` and `runIndex_indexStep`.
    * `regularSubaccountName_run` — over every run from a sound index, the switcher's answer
      differs from the typed name in case only, and once the index has a node for a name the
      answer for it never changes.
-/
import BtcPoolModules.UserChainAPIServer.InitUserCoin

namespace BtcPoolModules.StratumSwitcher.RegularName

open BtcPoolModules.UserChainAPIServer

/-! ## §1. `GetRegularSubaccountName`. -/

/-- The fields of `StratumSessionManager` that `GetRegularSubaccountName` reads, and
`strings.ToLower`. -/
structure RegularNameConfig where
  stratumServerCaseInsensitive : Bool
  zkUserCaseInsensitiveIndex : String
  toLower : String → String

/-- `GetRegularSubaccountName(subAccountName)` on ZooKeeper's nodes `zk`: the lower-case name
where the server ignores case; the name itself where the index is off (`len <= 0`), or where the
`Get` of its node fails, because the node is missing or for `getFails`; else what the node
holds. -/
def getRegularSubaccountName (cfg : RegularNameConfig) (zk : String → Option String)
    (getFails : Bool) (subAccountName : String) : String :=
  if cfg.stratumServerCaseInsensitive then cfg.toLower subAccountName
  else if cfg.zkUserCaseInsensitiveIndex = "" then subAccountName
  else if getFails then subAccountName
  else (zk (cfg.zkUserCaseInsensitiveIndex ++ cfg.toLower subAccountName)).getD subAccountName

/-! ## §2. What a step does to the index. -/

section Index

variable (toLower : String → String) (index : String)

/-- Every node under the index holds a spelling of its key: `index + k` holds a name whose
lower case is `k`. -/
def IndexSound (zk : String → Option String) : Prop :=
  ∀ k v, zk (index ++ k) = some v → toLower v = k

/-- From `zk` to `zk'`, each node under the index is left as it was, or was missing and is
created with a spelling of its key. -/
def IndexStep (zk zk' : String → Option String) : Prop :=
  ∀ k, zk' (index ++ k) = zk (index ++ k) ∨
    (zk (index ++ k) = none ∧ ∃ v, zk' (index ++ k) = some v ∧ toLower v = k)

variable {toLower index}

theorem IndexStep.refl (zk : String → Option String) : IndexStep toLower index zk zk :=
  fun _ => .inl rfl

theorem IndexStep.trans {zk zk' zk'' : String → Option String}
    (h : IndexStep toLower index zk zk') (h' : IndexStep toLower index zk' zk'') :
    IndexStep toLower index zk zk'' := by
  intro k
  rcases h k with h₁ | ⟨hn, v, hv, hl⟩ <;> rcases h' k with h₂ | ⟨hn', v', hv', hl'⟩
  · exact .inl (h₂.trans h₁)
  · exact .inr ⟨h₁ ▸ hn', v', hv', hl'⟩
  · exact .inr ⟨hn, v, h₂.trans hv, hl⟩
  · exact absurd (hv.symm.trans hn') (by simp)

/-- A step keeps the index sound. -/
theorem IndexStep.sound {zk zk' : String → Option String} (h : IndexStep toLower index zk zk')
    (hs : IndexSound toLower index zk) : IndexSound toLower index zk' := by
  intro k v hv
  rcases h k with h₁ | ⟨-, w, hw, hl⟩
  · exact hs k v (h₁ ▸ hv)
  · exact (Option.some.inj (hv.symm.trans hw)) ▸ hl

/-- A step never changes a node of the index that is there. -/
theorem IndexStep.keeps {zk zk' : String → Option String} (h : IndexStep toLower index zk zk')
    {k v : String} (hv : zk (index ++ k) = some v) : zk' (index ++ k) = some v := by
  rcases h k with h₁ | ⟨hn, -⟩
  · exact h₁.trans hv
  · exact absurd (hv.symm.trans hn) (by simp)

/-- A write outside the index leaves it. -/
theorem indexStep_update_of_ne (zk : String → Option String) {path : String}
    (hpath : ∀ k, path ≠ index ++ k) (data : Option String) :
    IndexStep toLower index zk (Function.update zk path data) :=
  fun k => .inl (Function.update_noteq (hpath k).symm _ _)

/-- Creating the missing node `index + lower(name)` with `name`. -/
theorem indexStep_create (zk : String → Option String) (name : String)
    (hnone : zk (index ++ toLower name) = none) :
    IndexStep toLower index zk (Function.update zk (index ++ toLower name) (some name)) := by
  intro k
  by_cases hk : k = toLower name
  · subst hk
    exact .inr ⟨hnone, name, by simp, rfl⟩
  · refine .inl (Function.update_noteq (fun h => hk ?_) _ _)
    exact String.ext (List.append_cancel_left (congrArg String.data h))

end Index

/-! ## §3. initusercoin's calls and the watched nodes. -/

section Calls

variable {cfg : InitUserCoin.ConfigData}

/-- The index write of `setMiningCoin` is a step of the index it writes. -/
theorem afterIndex_indexStep (cfg : InitUserCoin.ConfigData) (zk : String → Option String)
    (f : InitUserCoin.ZkFaults) (puname : String) :
    IndexStep cfg.toLower cfg.zkUserCaseInsensitiveIndex zk (InitUserCoin.afterIndex cfg zk f puname) := by
  simp only [InitUserCoin.afterIndex, InitUserCoin.writeCaseInsensitiveIndex]
  split_ifs with _ h
  · exact IndexStep.refl zk
  · exact indexStep_create zk puname (Option.not_isSome_iff_eq_none.1 fun h' => h (by simp [h']))
  · exact IndexStep.refl zk

/-- A call whose checks fail leaves the nodes. -/
theorem setMiningCoin_of_not_passesChecks {zk : String → Option String} {f : InitUserCoin.ZkFaults}
    {puname coin : String} (hc : ¬InitUserCoin.passesChecks cfg puname coin) :
    (InitUserCoin.setMiningCoin cfg zk f puname coin).2 = zk := by
  unfold InitUserCoin.passesChecks at hc
  by_cases h₁ : puname = ""
  · simp [InitUserCoin.setMiningCoin, h₁]
  by_cases h₂ : puname.contains '/' = true
  · simp [InitUserCoin.setMiningCoin, h₁, h₂]
  by_cases h₃ : coin = ""
  · simp [InitUserCoin.setMiningCoin, h₁, h₂, h₃]
  have h₄ : coin ∉ cfg.userListAPI := fun h₄ => hc ⟨h₁, by simpa using h₂, h₃, h₄⟩
  simp [InitUserCoin.setMiningCoin, h₁, h₂, h₃, h₄]

/-- **A `setMiningCoin` call is a step of the index**, whatever its arguments and failures,
where the watched dir lies outside the index. -/
theorem setMiningCoin_indexStep
    (hdisj : ∀ n k, cfg.zkSwitcherWatchDir ++ n ≠ cfg.zkUserCaseInsensitiveIndex ++ k)
    (zk : String → Option String) (f : InitUserCoin.ZkFaults) (puname coin : String) :
    IndexStep cfg.toLower cfg.zkUserCaseInsensitiveIndex zk
      (InitUserCoin.setMiningCoin cfg zk f puname coin).2 := by
  have hidx := afterIndex_indexStep cfg zk f puname
  by_cases hc : InitUserCoin.passesChecks cfg puname coin
  · obtain ⟨h₁, h₂, h₃, h₄⟩ := hc
    simp only [InitUserCoin.setMiningCoin, h₁, h₂, h₃, h₄, if_false, not_true_eq_false,
      Bool.false_eq_true]
    split_ifs with _ hs
    · exact hidx
    · exact hidx
    · exact hidx
    · rw [zkCreate, if_neg hs]
      exact hidx.trans (indexStep_update_of_ne _ (hdisj _) _)
  · rw [setMiningCoin_of_not_passesChecks hc]
    exact IndexStep.refl zk

/-- What may happen to ZooKeeper while the switchers read the index: a `setMiningCoin` call of
one of initusercoin's goroutines, with the failures it meets, or a write of a watched node
`ZKSwitcherWatchDir + name` (`changeMiningCoin`'s `Create` and `Set`). -/
inductive IndexEvent where
  | setMiningCoin (puname coin : String) (f : InitUserCoin.ZkFaults)
  | watchWrite (name data : String)

/-- The nodes after one event. -/
def IndexEvent.apply (cfg : InitUserCoin.ConfigData) (zk : String → Option String) :
    IndexEvent → String → Option String
  | .setMiningCoin puname coin f => (InitUserCoin.setMiningCoin cfg zk f puname coin).2
  | .watchWrite name data => Function.update zk (cfg.zkSwitcherWatchDir ++ name) (some data)

/-- The nodes after a run of events. -/
def runIndex (cfg : InitUserCoin.ConfigData) (zk : String → Option String)
    (events : List IndexEvent) : String → Option String :=
  events.foldl (IndexEvent.apply cfg) zk

/-- **Every run is a step of the index**: the index is only ever added to, with spellings of
the keys. -/
theorem runIndex_indexStep
    (hdisj : ∀ n k, cfg.zkSwitcherWatchDir ++ n ≠ cfg.zkUserCaseInsensitiveIndex ++ k) :
    ∀ (events : List IndexEvent) (zk : String → Option String),
      IndexStep cfg.toLower cfg.zkUserCaseInsensitiveIndex zk (runIndex cfg zk events)
  | [], zk => IndexStep.refl zk
  | e :: es, zk => by
    have he : IndexStep cfg.toLower cfg.zkUserCaseInsensitiveIndex zk (e.apply cfg zk) := by
      cases e with
      | setMiningCoin puname coin f => exact setMiningCoin_indexStep hdisj zk f puname coin
      | watchWrite name data => exact indexStep_update_of_ne zk (hdisj name) _
    exact he.trans (runIndex_indexStep hdisj es _)

end Calls

/-! ## §4. What the switcher reads. -/

/-- **The switcher's regular name is the typed name up to case, and stable.**  With the switcher
and initusercoin on the same index and the same idempotent `strings.ToLower`, and the watched
dir outside the index: over every run of initusercoin's calls and watched-node writes from a
sound index, `GetRegularSubaccountName` returns a name whose lower case is that of the name it
was given; and once the index has a node for a name, the answer for the name is the same in
every later state. -/
theorem regularSubaccountName_run {initCfg : InitUserCoin.ConfigData} {cfg : RegularNameConfig}
    (hindex : cfg.zkUserCaseInsensitiveIndex = initCfg.zkUserCaseInsensitiveIndex)
    (hlower : cfg.toLower = initCfg.toLower)
    (hidem : ∀ s, cfg.toLower (cfg.toLower s) = cfg.toLower s)
    (hdisj : ∀ n k, initCfg.zkSwitcherWatchDir ++ n ≠ initCfg.zkUserCaseInsensitiveIndex ++ k)
    {zk : String → Option String} (hsound : IndexSound cfg.toLower cfg.zkUserCaseInsensitiveIndex zk)
    (events : List IndexEvent) (getFails : Bool) (s : String) :
    cfg.toLower (getRegularSubaccountName cfg (runIndex initCfg zk events) getFails s) =
        cfg.toLower s ∧
      ((zk (cfg.zkUserCaseInsensitiveIndex ++ cfg.toLower s)).isSome →
        getRegularSubaccountName cfg (runIndex initCfg zk events) getFails s =
          getRegularSubaccountName cfg zk getFails s) := by
  have hstep := runIndex_indexStep hdisj events zk
  rw [← hindex, ← hlower] at hstep
  have hsound' := hstep.sound hsound
  unfold getRegularSubaccountName
  split_ifs
  · exact ⟨hidem s, fun _ => rfl⟩
  · exact ⟨rfl, fun _ => rfl⟩
  · exact ⟨rfl, fun _ => rfl⟩
  · refine ⟨?_, fun h => ?_⟩
    · cases hv : runIndex initCfg zk events (cfg.zkUserCaseInsensitiveIndex ++ cfg.toLower s) with
      | none => rfl
      | some v => exact hsound' _ v hv
    · obtain ⟨v, hv⟩ := Option.isSome_iff_exists.1 h
      rw [hstep.keeps hv, hv]

/-- initusercoin and a case-minding switcher on the index `/index/`, with a `strings.ToLower`
that knows one upper-case name. -/
def exampleInitConfig : InitUserCoin.ConfigData :=
  ⟨["btc"], "/switcher/", false, "/index/", fun s => if s = "Alice" then "alice" else s⟩

/-- The switcher's side of `exampleInitConfig`. -/
def exampleSwitcherConfig : RegularNameConfig :=
  ⟨false, "/index/", exampleInitConfig.toLower⟩

theorem regularSubaccountName_run_alice :
    exampleSwitcherConfig.toLower
        (getRegularSubaccountName exampleSwitcherConfig
          (runIndex exampleInitConfig (fun _ => none)
            [.setMiningCoin "Alice" "btc" .none, .watchWrite "Alice" "bcc"]) false "alice") =
        exampleSwitcherConfig.toLower "alice" ∧
      (((fun _ => none : String → Option String)
          (exampleSwitcherConfig.zkUserCaseInsensitiveIndex ++
            exampleSwitcherConfig.toLower "alice")).isSome →
        getRegularSubaccountName exampleSwitcherConfig
            (runIndex exampleInitConfig (fun _ => none)
              [.setMiningCoin "Alice" "btc" .none, .watchWrite "Alice" "bcc"]) false "alice" =
          getRegularSubaccountName exampleSwitcherConfig (fun _ => none) false "alice") :=
  regularSubaccountName_run rfl rfl
    (fun s => by by_cases h : s = "Alice" <;> simp [exampleSwitcherConfig, exampleInitConfig, h])
    (fun _ _ h => by simpa [exampleInitConfig] using congrArg (fun s : String => s.data.take 2) h)
    (fun _ _ h => by cases h) _ false "alice"

end BtcPoolModules.StratumSwitcher.RegularName
