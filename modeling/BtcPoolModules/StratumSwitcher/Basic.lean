/-
  BtcPoolModules.StratumSwitcher.Basic — the enumerations the stratum switcher's files share:
  the chain type of `ConfigData.go`, and the running, authorization and protocol states of
  `StratumSession.go`.

  Each is the Go `iota` enumeration with the same constructor order, so that a reader can check
  the constructor against the constant it stands for.
-/
import Mathlib.Algebra.Group.Int

namespace BtcPoolModules.StratumSwitcher

/-- `ChainType` (`ConfigData.go`): the blockchain family the switcher serves. -/
inductive ChainType where
  | bitcoin
  | decredNormal
  | decredGoMiner
  | ethereum
  deriving DecidableEq, Repr

/-- `RunningStat` (`StratumSession.go`): `StatRunning`, `StatStoped`, `StatReconnecting`. -/
inductive RunningStat where
  | running
  | stoped
  | reconnecting
  deriving DecidableEq, Repr

/-- `AuthorizeStat`: `StatConnected`, `StatSubScribed`, `StatAuthorized`. -/
inductive AuthorizeStat where
  | connected
  | subScribed
  | authorized
  deriving DecidableEq, Repr

/-- `ProtocolType`: the four Stratum variants and `ProtocolUnknown`. -/
inductive ProtocolType where
  | bitcoinStratum
  | ethereumStratum
  | ethereumStratumNiceHash
  | ethereumProxy
  | unknown
  deriving DecidableEq, Repr

/-- The `indexBits` that `NewStratumSessionManager` picks for a chain type. -/
def ChainType.indexBits : ChainType → UInt8
  | .ethereum => 16
  | _ => 24

end BtcPoolModules.StratumSwitcher
