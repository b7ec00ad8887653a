/-
  BtcPoolModules.ChainSwitcher.UpdateCurrentChain — how `chainSwitcher` picks the chain it
  sends to the stratum servers (`updateCurrentChain` and `getHashrate`).

  The dispatch API lists, for each algorithm, the coins worth mining from the most profitable
  down.  The switcher goes through the list of its algorithm and takes the first coin it has a
  chain name for, unless that chain has a hashrate limit: then it asks the chain's MySQL table
  for the hashrate of the last five minutes, and takes the chain only if the hashrate is below
  the limit.  A coin whose chain is at its limit, or whose hashrate cannot be read, is passed
  over; when no coin is taken, the fail-safe chain is.

  Hashrates are `float64`: a type `F` with the operations the code uses.  What the MySQL calls
  of a hashrate query return is an input, one for each coin of the list.

  Main results:
    * `bestChainFrom_spec` — the chain picked is the one of the first coin that lets the
      switcher pick it, every coin before it being passed over; the fail-safe chain when every
      coin is passed over.
    * `bestChainFrom_named` — the chain picked is the fail-safe chain or a chain name of the
      configuration.
-/
import Mathlib.Data.List.Basic
import Mathlib.Algebra.Group.Int

namespace BtcPoolModules.ChainSwitcher

/-! ## §1. The configuration and the hashrate query. -/

/-- `ChainLimit`: the limit `main` parses from `MaxHashrate` and the hashrate coefficient of the
chain (`hashrate` and `hashrateBase`). -/
structure ChainLimit (F : Type) where
  hashrate : F
  hashrateBase : F

/-- `ChainSwitcherConfig`: the fields the switcher reads.  `ChainNameMap` and `ChainLimits` are
Go maps, read by key. -/
structure ChainSwitcherConfig (F : Type) where
  algorithm : String
  failSafeChain : String
  failSafeSeconds : ℤ
  chainNameMap : String → Option String
  chainLimits : String → Option (ChainLimit F)

/-- What the MySQL calls of one `getHashrate` return: `sql.Open` or `conn.Query` fails, the query
has no row, or a row whose two sums `Scan` converts (`none` for a `NULL`). -/
inductive QueryResult (F : Type) where
  | openFailed
  | queryFailed
  | noRow
  | row (accept5m : Option F) (userNum : Option ℤ)

section Select

variable {F : Type} [Zero F] [Mul F] [Div F] [OfNat F 300] [LT F] [∀ a b : F, Decidable (a < b)]

/-- `getHashrate(chainLimit)`: the hashrate of the last five minutes and the number of users;
`none` for an error.  With no row the named results stay `0`.  `Scan`'s error is ignored: a
column it cannot convert leaves its variable, and every later one, at `0`, and the hashrate is
then scaled by `hashrateBase / 300`. -/
def getHashrate (limit : ChainLimit F) : QueryResult F → Option (F × ℤ)
  | .openFailed => none
  | .queryFailed => none
  | .noRow => some (0, 0)
  | .row none _ => some (0 * (limit.hashrateBase / 300), 0)
  | .row (some accept5m) userNum => some (accept5m * (limit.hashrateBase / 300), userNum.getD 0)

/-! ## §2. The loop over the coins. -/

/-- The loop over `algorithms.Coins` from the coin at position `i`: `query i` is what the hashrate
query made at coin `i` returns.  `bestChain` starts as the fail-safe chain. -/
def bestChainFrom (cfg : ChainSwitcherConfig F) (query : ℕ → QueryResult F) :
    ℕ → List String → String
  | _, [] => cfg.failSafeChain
  | i, coin :: rest =>
    match cfg.chainNameMap coin with
    | none => bestChainFrom cfg query (i + 1) rest
    | some chainName =>
      match cfg.chainLimits chainName with
      | none => chainName
      | some limit =>
        match getHashrate limit (query i) with
        | some (hashrate, _) =>
          if hashrate < limit.hashrate then chainName else bestChainFrom cfg query (i + 1) rest
        | none => bestChainFrom cfg query (i + 1) rest

/-- The chain the coin at position `i` lets the switcher pick: the coin's chain name, when the
name has no limit, or when the hashrate measured for it is below its limit. -/
def pick (cfg : ChainSwitcherConfig F) (query : ℕ → QueryResult F) (i : ℕ) (coin : String) :
    Option String :=
  (cfg.chainNameMap coin).bind fun chainName =>
    match cfg.chainLimits chainName with
    | none => some chainName
    | some limit =>
      match getHashrate limit (query i) with
      | some (hashrate, _) => if hashrate < limit.hashrate then some chainName else none
      | none => none

/-- One turn of the loop: the coin's pick, or the loop goes on. -/
theorem bestChainFrom_cons (cfg : ChainSwitcherConfig F) (query : ℕ → QueryResult F) (i : ℕ)
    (coin : String) (rest : List String) :
    bestChainFrom cfg query i (coin :: rest) =
      (pick cfg query i coin).getD (bestChainFrom cfg query (i + 1) rest) := by
  rw [bestChainFrom, pick]
  rcases cfg.chainNameMap coin with _ | chainName
  · rfl
  · simp only [Option.some_bind]
    rcases cfg.chainLimits chainName with _ | limit
    · rfl
    · dsimp only
      rcases getHashrate limit (query i) with _ | ⟨hashrate, n⟩
      · rfl
      · dsimp only
        split_ifs <;> rfl

/-- **The chain picked is the first coin's that lets the switcher pick it.**  Either some coin
at position `j` picks it and every coin before `j` is passed over (no chain name, or a chain at
its limit or whose hashrate could not be read), or every coin is passed over and the fail-safe
chain is picked. -/
theorem bestChainFrom_spec (cfg : ChainSwitcherConfig F) (query : ℕ → QueryResult F) :
    ∀ (i : ℕ) (coins : List String),
      (∃ j coin, coins[j]? = some coin ∧ pick cfg query (i + j) coin =
          some (bestChainFrom cfg query i coins) ∧
        ∀ k < j, ∀ c, coins[k]? = some c → pick cfg query (i + k) c = none) ∨
      (bestChainFrom cfg query i coins = cfg.failSafeChain ∧
        ∀ k c, coins[k]? = some c → pick cfg query (i + k) c = none)
  | i, [] => .inr ⟨rfl, fun _ _ h => by simp at h⟩
  | i, coin :: rest => by
    rw [bestChainFrom_cons]
    cases hp : pick cfg query i coin with
    | some c =>
      exact .inl ⟨0, coin, List.getElem?_cons_zero, by rw [Nat.add_zero, hp]; rfl,
        fun k hk => absurd hk (Nat.not_lt_zero k)⟩
    | none =>
      rw [Option.getD_none]
      -- the coin is passed over, and the rest of the loop picks
      have hzero : ∀ c, (coin :: rest)[0]? = some c → pick cfg query (i + 0) c = none := by
        intro c hc
        obtain rfl : coin = c := by simpa using hc
        exact hp
      have hsucc : ∀ k, i + 1 + k = i + (k + 1) := fun k => by omega
      rcases bestChainFrom_spec cfg query (i + 1) rest with
        ⟨j, c, hj, hpick, hbefore⟩ | ⟨hfs, hall⟩
      · refine .inl ⟨j + 1, c, List.getElem?_cons_succ.trans hj, by rwa [← hsucc], ?_⟩
        rintro (_ | k) hk c' hc'
        · exact hzero c' hc'
        · rw [← hsucc]
          exact hbefore k (by omega) c' (List.getElem?_cons_succ.symm.trans hc')
      · refine .inr ⟨hfs, ?_⟩
        rintro (_ | k) c' hc'
        · exact hzero c' hc'
        · rw [← hsucc]
          exact hall k c' (List.getElem?_cons_succ.symm.trans hc')

/-- A chain name the configuration maps some coin to. -/
def ChainSwitcherConfig.IsChainName (cfg : ChainSwitcherConfig F) (chainName : String) : Prop :=
  ∃ coin, cfg.chainNameMap coin = some chainName

/-- A coin picks only its own chain name. -/
theorem pick_isChainName {cfg : ChainSwitcherConfig F} {query : ℕ → QueryResult F} {i : ℕ}
    {coin chainName : String} (h : pick cfg query i coin = some chainName) :
    cfg.IsChainName chainName := by
  obtain ⟨c, hc, h⟩ := Option.bind_eq_some.1 h
  refine ⟨coin, ?_⟩
  rw [hc]
  split at h
  · exact h
  · split at h
    · split_ifs at h
      exact h
    · cases h

/-- The chain picked is the fail-safe chain or a chain name of the configuration. -/
theorem bestChainFrom_named (cfg : ChainSwitcherConfig F) (query : ℕ → QueryResult F) (i : ℕ)
    (coins : List String) :
    bestChainFrom cfg query i coins = cfg.failSafeChain ∨
      cfg.IsChainName (bestChainFrom cfg query i coins) := by
  rcases bestChainFrom_spec cfg query i coins with ⟨_, _, -, hpick, -⟩ | ⟨hfs, -⟩
  · exact .inr (pick_isChainName hpick)
  · exact .inl hfs

end Select

end BtcPoolModules.ChainSwitcher
