import BtcPoolModules.GoLib.Encoding
import BtcPoolModules.ZooKeeper.CreatePath
import BtcPoolModules.ZooKeeper.WatchDir
import BtcPoolModules.MergedMiningProxy.AuxPowData
import BtcPoolModules.MergedMiningProxy.MerkleBranch
import BtcPoolModules.MergedMiningProxy.SubmitAuxBlock
import BtcPoolModules.StratumSwitcher.Basic
import BtcPoolModules.StratumSwitcher.SessionIDManager
import BtcPoolModules.StratumSwitcher.SessionIDHistory
import BtcPoolModules.StratumSwitcher.AssignServerID
import BtcPoolModules.StratumSwitcher.StratumSessionManager
import BtcPoolModules.StratumSwitcher.SessionLifecycle
import BtcPoolModules.StratumSwitcher.ZookeeperManager
import BtcPoolModules.StratumSwitcher.AutoReg
import BtcPoolModules.StratumSwitcher.Handshake
import BtcPoolModules.StratumSwitcher.JSONRPC
import BtcPoolModules.StratumSwitcher.ServerHandshake
import BtcPoolModules.StratumSwitcher.LockOrder
import BtcPoolModules.UserChainAPIServer.ChangeMiningCoin
import BtcPoolModules.UserChainAPIServer.InitUserCoin
import BtcPoolModules.UserChainAPIServer.SubPoolCoinbase
import BtcPoolModules.UserChainAPIServer.SwitcherMain
import BtcPoolModules.StratumSwitcher.RegularName
import BtcPoolModules.StratumSwitcher.ServerIDPool
import BtcPoolModules.ChainSwitcher.UpdateCurrentChain
import BtcPoolModules.ChainSwitcher.Goroutines
