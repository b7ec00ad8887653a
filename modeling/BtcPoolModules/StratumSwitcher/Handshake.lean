/-
  BtcPoolModules.StratumSwitcher.Handshake — the stratum handshake of a session
  (`stratumHandleRequest` and the parsers it calls, looped by `stratumFindWorkerName` until
  the miner is authorized), the rewrite `sendMiningSubscribeToServer` makes of the saved
  subscribe request on every connect to a server, and the replay of the two saved requests
  with which `Resume` rebuilds a session after an upgrade.

  A request is what `encoding/json` decodes into a `JSONRPCRequest`; of its `interface{}`
  parameters the handshake only asks whether one is a string or an object.  The upgrade
  writes the saved requests to the runtime file and the new process decodes them again, which
  keeps the method, the worker and every string, so the replay is handed the same values.
  The helpers the session calls whose code the repository does not hold (`Uint32ToHex`,
  `Uint32ToHexLE`, `IP2Long`, `FilterWorkerName`, `StripEthAddrFromFullName`), Go's Unicode
  `strings.ToLower`, and the manager's `GetRegularSubaccountName` (a ZooKeeper lookup) are
  fields of `Env`, the same in the live run and in the replay.

  Main results:
    * `Inv.findWorkerName` — every run of the handshake keeps `Inv`, which ties the
      session's protocol, client flags, JSON-RPC version and names to its saved requests.
    * `resume_rebuilds_subscribed` — for a miner that subscribed with `mining.subscribe`,
      `Resume` rebuilds exactly the session that was saved, after any number of connects.
    * `resume_reclassifies_ethProxy` — an EthProxy session is not rebuilt: its saved subscribe
      request is the synthesized `mining.subscribe`, which the replay parses as an Ethereum
      stratum subscription, and its JSON-RPC version falls back from 2 to 1.
    * `authorized_session_upstream_ready` — an authorized session, live or resumed, holds the
      subscribe request, an authorize request with a parameter, and a sub-account name, all
      of which the upstream handshake uses unchecked.
-/
import Mathlib.Data.List.Basic
import BtcPoolModules.StratumSwitcher.Basic

namespace BtcPoolModules.StratumSwitcher.Handshake

/-! ## §1. Requests, errors, and the string functions the handshake calls. -/

/-- A decoded JSON value, as `encoding/json` stores it in an `interface{}`.  The handshake never
reads a number's value, and an integer stands for it. -/
inductive JsonValue where
  | null
  | bool (b : Bool)
  | number (n : ℤ)
  | string (s : String)
  | array (elems : List JsonValue)
  | object (fields : List (String × JsonValue))

/-- `JSONRPCRequest`. -/
structure JSONRPCRequest where
  id : JsonValue
  method : String
  params : List JsonValue
  worker : String

/-- `request.Params[i].(string)` behind a length check: `none` where the parameter is missing
or not a string. -/
def stringParam (request : JSONRPCRequest) (i : ℕ) : Option String :=
  match request.params[i]? with
  | some (.string s) => some s
  | _ => none

/-- `StratumError`: the number and the message the miner is sent. -/
structure StratumError where
  errNo : ℕ
  errMsg : String
  deriving DecidableEq, Repr

def stratumErrNeedSubscribed : StratumError := ⟨101, "Need Subscribed"⟩
def stratumErrDuplicateSubscribed : StratumError := ⟨102, "Duplicate Subscribed"⟩
def stratumErrTooFewParams : StratumError := ⟨103, "Too Few Params"⟩
def stratumErrWorkerNameMustBeString : StratumError := ⟨104, "Worker Name Must be a String"⟩
def stratumErrWorkerNameStartWrong : StratumError := ⟨105, "Sub-account Name Cannot be Empty"⟩

/-- A handler's `result` and `err`, `none` for Go's `nil`. -/
abbrev Reply := Option JsonValue × Option StratumError

def btcAgentClientTypePrefix : String := "btccom-agent/"
def niceHashClientTypePrefix : String := "nicehash/"
def ethereumStratumNiceHashPrefix : String := "ethereumstratum/"
def ethereumStratumNiceHashVersion : String := "EthereumStratum/1.0.0"
def ethproxyVersion : String := "ETHProxy/1.0.0"

/-- `strings.HasPrefix`.  Go compares bytes; on valid UTF-8 that is comparing characters, as no
character's encoding is a prefix of another's. -/
def hasPrefix (s pre : String) : Bool := pre.toList.isPrefixOf s.toList

/-- `strings.Index(s, ".")` and the slices around it: the text before the first dot and the
rest from the dot on; `none` where `strings.Contains(s, ".")` is false.  A dot is one byte, so
the offset Go slices at is a character boundary. -/
def splitAtDot (s : String) : Option (String × String) :=
  if '.' ∈ s.toList then
    some (String.mk (s.toList.takeWhile (· != '.')), String.mk (s.toList.dropWhile (· != '.')))
  else none

/-- A digit's value in bases up to 36: `0-9`, then `a-z` or `A-Z`. -/
def digitVal (c : Char) : Option ℕ :=
  if '0' ≤ c ∧ c ≤ '9' then some (c.toNat - '0'.toNat)
  else if 'a' ≤ c ∧ c ≤ 'z' then some (c.toNat - 'a'.toNat + 10)
  else if 'A' ≤ c ∧ c ≤ 'Z' then some (c.toNat - 'A'.toNat + 10)
  else none

/-- `strconv.ParseUint(s, base, bitSize)` for a base from 2 to 36 (the prefixes and underscores
base 0 allows are left out): `none` for a syntax or a range error. -/
def parseUint (s : String) (base bitSize : ℕ) : Option ℕ := do
  if s.toList = [] then none
  let v ← s.toList.foldlM (fun acc c => do
    let d ← digitVal c
    if d < base then some (acc * base + d) else none) 0
  if v < 2 ^ bitSize then some v else none

/-! ## §2. The session. -/

/-- What one session's handshake reads besides its requests: the chain, the session's ID and
client address, and the functions it calls whose code is not in the repository. -/
structure Env where
  chainType : ChainType
  sessionID : UInt32
  /-- `IP2Long` of the host part of `clientIPPort`. -/
  clientIPLong : ℕ
  uint32ToHex : UInt32 → String
  uint32ToHexLE : UInt32 → String
  /-- Go's `strings.ToLower`, with its Unicode case tables. -/
  toLower : String → String
  filterWorkerName : String → String
  stripEthAddrFromFullName : String → String
  /-- `manager.GetRegularSubaccountName`. -/
  getRegularSubaccountName : String → String

/-- `session.sessionIDString` as `NewStratumSession` formats the ID for the chain.  For Ethereum
it is `Uint32ToHex(id)[2:8]`, whose bytes are hex digits, hence characters. -/
def Env.sessionIDString (env : Env) : String :=
  match env.chainType with
  | .bitcoin => env.uint32ToHex env.sessionID
  | .decredNormal => "0000000000000000" ++ env.uint32ToHexLE env.sessionID
  | .decredGoMiner => env.uint32ToHexLE env.sessionID
  | .ethereum => String.mk (((env.uint32ToHex env.sessionID).toList.drop 2).take 6)

/-- The fields of `StratumSession` the handshake reads and writes. -/
@[ext]
structure Session where
  protocolType : ProtocolType
  isBTCAgent : Bool
  isNiceHashClient : Bool
  jsonRPCVersion : ℕ
  versionMask : UInt32
  fullWorkerName : String
  subaccountName : String
  minerNameWithDot : String
  stratumSubscribeRequest : Option JSONRPCRequest
  stratumAuthorizeRequest : Option JSONRPCRequest

/-- Those fields as `NewStratumSession` leaves them: JSON-RPC 1.0, the rest Go's zero values
(`ProtocolBitcoinStratum` is the enumeration's zero). -/
def newStratumSession : Session where
  protocolType := .bitcoinStratum
  isBTCAgent := false
  isNiceHashClient := false
  jsonRPCVersion := 1
  versionMask := 0
  fullWorkerName := ""
  subaccountName := ""
  minerNameWithDot := ""
  stratumSubscribeRequest := none
  stratumAuthorizeRequest := none

/-- `getDefaultStratumProtocol`: Bitcoin's stratum for Bitcoin and Decred, EthProxy (the
protocol without a subscribe phase) for Ethereum. -/
def getDefaultStratumProtocol : ChainType → ProtocolType
  | .bitcoin | .decredNormal | .decredGoMiner => .bitcoinStratum
  | .ethereum => .ethereumProxy

/-- The session `Run` starts the handshake with, once `protocolDetect` has seen a JSON
object: a new session with the chain's default protocol. -/
def runSession (env : Env) : Session :=
  { newStratumSession with protocolType := getDefaultStratumProtocol env.chainType }

/-- What a subscription decides about the client: its protocol and the two client flags. -/
def Session.client (s : Session) : ProtocolType × Bool × Bool :=
  (s.protocolType, s.isBTCAgent, s.isNiceHashClient)

/-! ## §3. `stratumHandleRequest`. -/

/-- `parseSubscribeRequest`: saves the request, reads the client type off the user agent and,
on Ethereum, the protocol off the second parameter, and answers with the subscription. -/
def parseSubscribeRequest (env : Env) (s : Session) (request : JSONRPCRequest) : Reply × Session :=
  let s := { s with stratumSubscribeRequest := some request }
  match env.chainType with
  | .bitcoin | .decredNormal | .decredGoMiner =>
    let s := match stringParam request 0 with
      | some userAgent =>
        if hasPrefix (env.toLower userAgent) btcAgentClientTypePrefix then { s with isBTCAgent := true }
        else s
      | none => s
    let sid := JsonValue.string env.sessionIDString
    ((some (.array [.array [.array [.string "mining.set_difficulty", sid],
      .array [.string "mining.notify", sid]], sid, .number 8]), none), s)
  | .ethereum =>
    let s := { s with protocolType := .ethereumStratum }
    let s := match stringParam request 0 with
      | some userAgent =>
        let s := if hasPrefix (env.toLower userAgent) niceHashClientTypePrefix then
          { s with isNiceHashClient := true } else s
        if hasPrefix (env.toLower userAgent) btcAgentClientTypePrefix then
          { s with isBTCAgent := true, protocolType := .ethereumStratumNiceHash } else s
      | none => s
    let s := match stringParam request 1 with
      | some protocol =>
        if hasPrefix (env.toLower protocol) ethereumStratumNiceHashPrefix then
          { s with protocolType := .ethereumStratumNiceHash } else s
      | none => s
    let extraNonce :=
      if s.isNiceHashClient then String.mk (env.sessionIDString.toList.take 4) else env.sessionIDString
    let result := if s.protocolType = .ethereumStratumNiceHash then
        JsonValue.array [.array [.string "mining.notify", .string env.sessionIDString,
          .string ethereumStratumNiceHashVersion], .string extraNonce]
      else .bool true
    ((some result, none), s)

/-- `makeSubscribeMessageForEthProxy`: the subscribe request an EthProxy miner never sends,
made up to carry the session ID and the miner's address to the server. -/
def makeSubscribeMessageForEthProxy (s : Session) : Session :=
  let request : JSONRPCRequest :=
    { id := .null, method := "mining.subscribe",
      params := [.string "ETHProxy", .string ethproxyVersion], worker := "" }
  { s with stratumSubscribeRequest := some request }

/-- `parseAuthorizeRequest`: saves the request, and splits the filtered worker name at its
first dot into the regular sub-account name and the miner name. -/
def parseAuthorizeRequest (env : Env) (s : Session) (request : JSONRPCRequest) : Reply × Session :=
  let s := { s with stratumAuthorizeRequest := some request }
  match request.params with
  | [] => ((none, some stratumErrTooFewParams), s)
  | .string fullWorkerName :: _ =>
    let fullWorkerName := env.filterWorkerName fullWorkerName
    let fullWorkerName :=
      if s.protocolType ≠ .bitcoinStratum then
        env.stripEthAddrFromFullName (if request.worker ≠ "" then
          fullWorkerName ++ "." ++ env.filterWorkerName request.worker else fullWorkerName)
      else fullWorkerName
    let names := match splitAtDot fullWorkerName with
      | some (sub, minerNameWithDot) => (env.getRegularSubaccountName sub, minerNameWithDot)
      | none => (env.getRegularSubaccountName fullWorkerName, "")
    let s :=
      { s with fullWorkerName := names.1 ++ names.2, subaccountName := names.1,
               minerNameWithDot := names.2 }
    if names.1 = "" then ((none, some stratumErrWorkerNameStartWrong), s) else ((none, none), s)
  | _ :: _ => ((none, some stratumErrWorkerNameMustBeString), s)

/-- `fmt.Sprintf("%08x", v)`: lower-case hex digits, zero-padded to eight. -/
def formatHex08 (v : UInt32) : String :=
  let digits := Nat.toDigits 16 v.toNat
  String.mk (List.replicate (8 - digits.length) '0' ++ digits)

/-- `getVersionMaskStr`. -/
def getVersionMaskStr (s : Session) : String := formatHex08 s.versionMask

/-- `parseConfigureRequest`: takes the version-rolling mask from the options object, and
answers with it where the mask is not zero. -/
def parseConfigureRequest (s : Session) (request : JSONRPCRequest) : Reply × Session :=
  match request.params with
  | [] | [_] => ((none, some stratumErrTooFewParams), s)
  | _ :: options :: _ =>
    let s := match options with
      | .object fields =>
        match fields.lookup "version-rolling.mask" with
        | some (.string versionMaskStr) =>
          match parseUint versionMaskStr 16 32 with
          | some versionMask => { s with versionMask := UInt32.ofNat versionMask }
          | none => s
        | _ => s
      | _ => s
    if s.versionMask ≠ 0 then
      ((some (.object [("version-rolling", .bool true),
        ("version-rolling.mask", .string (getVersionMaskStr s))]), none), s)
    else ((none, none), s)

/-- The `"mining.authorize"` case of `stratumHandleRequest`, which `"eth_submitLogin"` falls
through to. -/
def authorizeCase (env : Env) (s : Session) (request : JSONRPCRequest) (stat : AuthorizeStat) :
    Reply × Session × AuthorizeStat :=
  if stat ≠ .subScribed then ((none, some stratumErrNeedSubscribed), s, stat)
  else
    let r := parseAuthorizeRequest env s request
    (r.1, r.2, if r.1.2.isNone then .authorized else stat)

/-- `stratumHandleRequest`: one request of the handshake, with the authorization state the Go
code passes by pointer. -/
def stratumHandleRequest (env : Env) (s : Session) (request : JSONRPCRequest)
    (stat : AuthorizeStat) : Reply × Session × AuthorizeStat :=
  match request.method with
  | "mining.subscribe" =>
    if stat ≠ .connected then ((none, some stratumErrDuplicateSubscribed), s, stat)
    else
      let r := parseSubscribeRequest env s request
      (r.1, r.2, if r.1.2.isNone then .subScribed else stat)
  | "eth_submitLogin" =>
    if s.protocolType = .ethereumProxy then
      authorizeCase env { makeSubscribeMessageForEthProxy s with jsonRPCVersion := 2 } request
        .subScribed
    else authorizeCase env s request stat
  | "mining.authorize" => authorizeCase env s request stat
  | "mining.configure" =>
    if s.protocolType = .bitcoinStratum then
      let r := parseConfigureRequest s request
      (r.1, r.2, stat)
    else ((none, none), s, stat)
  | _ => ((none, none), s, stat)

/-- The loop of `stratumFindWorkerName`: each decoded request goes to `stratumHandleRequest`
until the session is authorized; what follows is not read by the handshake. -/
def stratumFindWorkerName (env : Env) :
    Session → AuthorizeStat → List JSONRPCRequest → Session × AuthorizeStat
  | s, stat, [] => (s, stat)
  | s, stat, request :: rest =>
    if stat = .authorized then (s, stat)
    else
      let r := stratumHandleRequest env s request stat
      stratumFindWorkerName env r.2.1 r.2.2 rest

/-! ## §4. Forwarding the subscription, and `Resume`. -/

/-- `sendMiningSubscribeToServer`, up to the write: the saved subscribe request itself (Go
holds it by pointer) gets the ID `"subscribe"` and the parameters the server expects, and the
user agent and protocol are returned.  `none` where Go dereferences a nil request or exits on
an unknown protocol. -/
def sendMiningSubscribeToServer (env : Env) (s : Session) : Option ((String × String) × Session) :=
  match s.stratumSubscribeRequest with
  | none => none
  | some request =>
    let userAgent :=
      if 1 ≤ request.params.length then (stringParam request 0).getD "" else "stratumSwitcher"
    let rewrite (params : List JsonValue) : Session :=
      { s with stratumSubscribeRequest := some { request with id := .string "subscribe", params } }
    match s.protocolType with
    | .bitcoinStratum =>
      some ((userAgent, "Stratum"), rewrite [.string userAgent,
        .string (env.uint32ToHex env.sessionID), .number env.clientIPLong])
    | .ethereumStratum | .ethereumStratumNiceHash | .ethereumProxy =>
      let protocol :=
        if 2 ≤ request.params.length then (stringParam request 1).getD "" else "Stratum"
      some ((userAgent, protocol), rewrite [.string userAgent, .string protocol,
        .string env.sessionIDString, .number env.clientIPLong])
    | .unknown => none

/-- The session after `n` connects to a server, each forwarding the saved subscribe request
through `sendMiningSubscribeToServer`. -/
def afterConnects (env : Env) (s : Session) : ℕ → Option Session
  | 0 => some s
  | n + 1 => (sendMiningSubscribeToServer env s).bind fun r => afterConnects env r.2 n

/-- The handshake part of `StratumSessionData`, which `upgradeStratumSwitcher` fills from the
session. -/
structure StratumSessionData where
  stratumSubscribeRequest : Option JSONRPCRequest
  stratumAuthorizeRequest : Option JSONRPCRequest
  versionMask : UInt32

/-- What `upgradeStratumSwitcher` saves of a session's handshake. -/
def Session.sessionData (s : Session) : StratumSessionData :=
  ⟨s.stratumSubscribeRequest, s.stratumAuthorizeRequest, s.versionMask⟩

/-- One saved request replayed by `Resume`; `none` where its error makes `Resume` call `Stop`. -/
def resumeRequest (env : Env) (s : Session) (stat : AuthorizeStat) :
    Option JSONRPCRequest → Option (Session × AuthorizeStat)
  | none => some (s, stat)
  | some request =>
    let r := stratumHandleRequest env s request stat
    if r.1.2.isSome then none else some r.2

/-- The session `Resume` replays the saved requests on: a new session with the chain's default
protocol and the saved version mask. -/
def resumeSession (env : Env) (versionMask : UInt32) : Session :=
  { runSession env with versionMask }

/-- The handshake part of `Resume`: the saved subscribe and authorize requests replayed, and the
session kept only if that authorized it; `none` where `Resume` calls `Stop`. -/
def resume (env : Env) (sessionData : StratumSessionData) : Option Session := do
  let r ← resumeRequest env (resumeSession env sessionData.versionMask) .connected
    sessionData.stratumSubscribeRequest
  let r ← resumeRequest env r.1 r.2 sessionData.stratumAuthorizeRequest
  if r.2 = .authorized then some r.1 else none

/-! ## §5. What each handler writes. -/

/-- Whether the string parameter `i` of a request starts with `pre` once lower-cased: the test
`parseSubscribeRequest` makes of the user agent and of the protocol. -/
def Env.paramHasPrefix (env : Env) (request : JSONRPCRequest) (i : ℕ) (pre : String) : Bool :=
  (stringParam request i).any fun p => hasPrefix (env.toLower p) pre

section Handlers

variable (env : Env) (s : Session) (request : JSONRPCRequest)

theorem parseSubscribeRequest_err : (parseSubscribeRequest env s request).1.2 = none := by
  unfold parseSubscribeRequest
  cases env.chainType <;> rfl

/-- On Bitcoin and Decred a subscription saves the request and marks a BTCAgent. -/
theorem parseSubscribeRequest_bitcoin (h : env.chainType ≠ .ethereum) :
    (parseSubscribeRequest env s request).2 =
      { s with stratumSubscribeRequest := some request,
               isBTCAgent := s.isBTCAgent || env.paramHasPrefix request 0 btcAgentClientTypePrefix } := by
  unfold parseSubscribeRequest Env.paramHasPrefix
  cases hc : env.chainType <;> simp only [hc, ne_eq, not_true_eq_false] at h ⊢ <;>
    rcases stringParam request 0 with _ | ua <;> dsimp only [Option.any] <;>
    (try cases hasPrefix (env.toLower ua) btcAgentClientTypePrefix) <;>
    simp only [Bool.or_false, Bool.or_true, ↓reduceIte, Bool.false_eq_true]

/-- On Ethereum a subscription saves the request, marks a NiceHash client and a BTCAgent, and
picks the NiceHash protocol for a BTCAgent or an `EthereumStratum/` protocol. -/
theorem parseSubscribeRequest_ethereum (h : env.chainType = .ethereum) :
    (parseSubscribeRequest env s request).2 =
      { s with stratumSubscribeRequest := some request,
               protocolType :=
                 if env.paramHasPrefix request 0 btcAgentClientTypePrefix ||
                     env.paramHasPrefix request 1 ethereumStratumNiceHashPrefix
                 then .ethereumStratumNiceHash else .ethereumStratum,
               isBTCAgent := s.isBTCAgent || env.paramHasPrefix request 0 btcAgentClientTypePrefix,
               isNiceHashClient :=
                 s.isNiceHashClient || env.paramHasPrefix request 0 niceHashClientTypePrefix } := by
  unfold parseSubscribeRequest Env.paramHasPrefix
  simp only [h]
  rcases stringParam request 0 with _ | ua <;> rcases stringParam request 1 with _ | p <;>
    dsimp only [Option.any] <;>
    (try cases hasPrefix (env.toLower ua) btcAgentClientTypePrefix) <;>
    (try cases hasPrefix (env.toLower ua) niceHashClientTypePrefix) <;>
    (try cases hasPrefix (env.toLower p) ethereumStratumNiceHashPrefix) <;>
    simp only [Bool.or_false, Bool.or_true, Bool.false_or, Bool.true_or, ↓reduceIte,
      Bool.false_eq_true]

/-- `parseAuthorizeRequest` writes the saved authorize request and the three names only. -/
theorem parseAuthorizeRequest_frame : ∃ f a m, (parseAuthorizeRequest env s request).2 =
    { s with stratumAuthorizeRequest := some request, fullWorkerName := f, subaccountName := a,
             minerNameWithDot := m } := by
  unfold parseAuthorizeRequest
  rcases request.params with _ | ⟨_ | _ | _ | _ | _ | _, _⟩ <;>
    simp only [apply_ite Prod.snd, ite_self] <;> exact ⟨_, _, _, rfl⟩

/-- A successful authorization depends on the session through its protocol only: from any
session with the same protocol the same request succeeds and writes the same names. -/
theorem parseAuthorizeRequest_ok {s' t : Session}
    (h : parseAuthorizeRequest env s request = ((none, none), s'))
    (ht : t.protocolType = .bitcoinStratum ↔ s.protocolType = .bitcoinStratum) :
    parseAuthorizeRequest env t request = ((none, none),
      { t with stratumAuthorizeRequest := some request, fullWorkerName := s'.fullWorkerName,
               subaccountName := s'.subaccountName, minerNameWithDot := s'.minerNameWithDot }) := by
  unfold parseAuthorizeRequest at h ⊢
  generalize request.params = ps at h ⊢
  rcases ps with _ | ⟨_ | _ | _ | w | _ | _, _⟩ <;> try cases h
  simp only [ne_eq, ht] at h ⊢
  split_ifs at h <;> cases h <;> simp only [*, not_true_eq_false, not_false_eq_true, ↓reduceIte]

/-- `parseAuthorizeRequest` never answers with a result: the server's answer is forwarded later. -/
theorem parseAuthorizeRequest_result : (parseAuthorizeRequest env s request).1.1 = none := by
  unfold parseAuthorizeRequest
  rcases request.params with _ | ⟨_ | _ | _ | _ | _ | _, _⟩ <;> simp only [apply_ite Prod.fst, ite_self]

theorem parseConfigureRequest_frame :
    ∃ v, (parseConfigureRequest s request).2 = { s with versionMask := v } := by
  unfold parseConfigureRequest
  dsimp only
  split <;> (repeat' split) <;> exact ⟨_, rfl⟩

/-- `parseSubscribeRequest` writes the saved subscribe request and the client fields only. -/
theorem parseSubscribeRequest_frame : ∃ p a b, (parseSubscribeRequest env s request).2 =
    { s with stratumSubscribeRequest := some request, protocolType := p, isBTCAgent := a,
             isNiceHashClient := b } := by
  by_cases he : env.chainType = .ethereum
  · exact ⟨_, _, _, parseSubscribeRequest_ethereum env s request he⟩
  · exact ⟨_, _, _, parseSubscribeRequest_bitcoin env s request he⟩

/-- A subscription leaves Bitcoin's stratum exactly off Ethereum, and neither EthProxy nor an
unknown protocol. -/
theorem parseSubscribeRequest_protocolType
    (hs : s.protocolType = .bitcoinStratum ↔ env.chainType ≠ .ethereum) :
    ((parseSubscribeRequest env s request).2.protocolType = .bitcoinStratum ↔
      env.chainType ≠ .ethereum) ∧
    (parseSubscribeRequest env s request).2.protocolType ≠ .ethereumProxy ∧
    (parseSubscribeRequest env s request).2.protocolType ≠ .unknown := by
  by_cases he : env.chainType = .ethereum
  · rw [parseSubscribeRequest_ethereum env s request he]
    split_ifs <;> simp [he]
  · rw [parseSubscribeRequest_bitcoin env s request he]
    exact ⟨hs, by simp [hs.2 he], by simp [hs.2 he]⟩

/-- Two requests that pass the same client tests give sessions with the same client fields the
same client fields. -/
theorem parseSubscribeRequest_client {s t : Session} {a b : JSONRPCRequest}
    (hst : s.client = t.client)
    (h0 : ∀ pre ∈ [btcAgentClientTypePrefix, niceHashClientTypePrefix],
      env.paramHasPrefix a 0 pre = env.paramHasPrefix b 0 pre)
    (h1 : env.chainType = .ethereum →
      env.paramHasPrefix a 1 ethereumStratumNiceHashPrefix =
        env.paramHasPrefix b 1 ethereumStratumNiceHashPrefix) :
    (parseSubscribeRequest env s a).2.client = (parseSubscribeRequest env t b).2.client := by
  simp only [Session.client, Prod.mk.injEq] at hst
  obtain ⟨hp, ha, hn⟩ := hst
  have hb := h0 btcAgentClientTypePrefix (by simp)
  have hh := h0 niceHashClientTypePrefix (by simp)
  by_cases he : env.chainType = .ethereum
  · simp [parseSubscribeRequest_ethereum, he, Session.client, hp, ha, hn, hb, hh, h1 he]
  · simp [parseSubscribeRequest_bitcoin, he, Session.client, hp, ha, hn, hb]

end Handlers

/-! ## §6. The handshake invariant. -/

/-- The session's client fields are those a subscription with `sub` gives the session `Run`
starts with. -/
def SubscribedWith (env : Env) (s : Session) (sub : JSONRPCRequest) : Prop :=
  s.client = (parseSubscribeRequest env (runSession env) sub).2.client

/-- **The handshake invariant** of a session and its authorization state.  The protocol is
Bitcoin's stratum exactly off Ethereum; a connected session is as `Run` made it; a subscribed
one holds a saved `mining.subscribe` which either made its client fields, at JSON-RPC 1.0, or
was synthesized for EthProxy, at 2.0; an authorized one holds the saved request that
authorized it, and that request authorizes it again as it stands. -/
structure Inv (env : Env) (s : Session) (stat : AuthorizeStat) : Prop where
  chain : s.protocolType = .bitcoinStratum ↔ env.chainType ≠ .ethereum
  connected : stat = .connected → s.client = (runSession env).client ∧ s.jsonRPCVersion = 1
  subscribed : stat ≠ .connected → ∃ sub, s.stratumSubscribeRequest = some sub ∧
    sub.method = "mining.subscribe" ∧
    (s.protocolType ≠ .ethereumProxy ∧ s.jsonRPCVersion = 1 ∧ SubscribedWith env s sub ∨
      s.protocolType = .ethereumProxy ∧ s.jsonRPCVersion = 2)
  authorized : stat = .authorized → ∃ auth, s.stratumAuthorizeRequest = some auth ∧
    (auth.method = "mining.authorize" ∨ auth.method = "eth_submitLogin") ∧
    parseAuthorizeRequest env s auth = ((none, none), s)

section Invariant

variable {env : Env} {s : Session} {stat : AuthorizeStat} {request : JSONRPCRequest}

theorem runSession_chain (env : Env) :
    (runSession env).protocolType = .bitcoinStratum ↔ env.chainType ≠ .ethereum := by
  simp only [runSession]
  cases env.chainType <;> decide

theorem Inv.init (env : Env) : Inv env (runSession env) .connected :=
  ⟨runSession_chain env, fun _ => ⟨rfl, rfl⟩, fun h => absurd rfl h, nofun⟩

/-- A subscription from a connected session. -/
theorem Inv.subscribe (hi : Inv env s .connected) (hm : request.method = "mining.subscribe") :
    Inv env (parseSubscribeRequest env s request).2 .subScribed := by
  obtain ⟨hc, hj⟩ := hi.connected rfl
  have hchain : s.protocolType = .bitcoinStratum ↔ env.chainType ≠ .ethereum := hi.chain
  obtain ⟨hb, hp, -⟩ := parseSubscribeRequest_protocolType env s request hchain
  obtain ⟨f, a, m, hfr⟩ := parseSubscribeRequest_frame env s request
  refine ⟨hb, nofun, fun _ => ⟨request, by rw [hfr], hm, .inl ⟨hp, by rw [hfr]; exact hj, ?_⟩⟩, nofun⟩
  exact parseSubscribeRequest_client env hc (fun _ _ => rfl) (fun _ => rfl)

/-- EthProxy's login makes up the subscription and switches to JSON-RPC 2.0. -/
theorem Inv.ethProxy (hi : Inv env s stat) (hp : s.protocolType = .ethereumProxy) :
    Inv env { makeSubscribeMessageForEthProxy s with jsonRPCVersion := 2 } .subScribed :=
  ⟨hi.chain, nofun, fun _ => ⟨_, rfl, rfl, .inr ⟨hp, rfl⟩⟩, nofun⟩

/-- Under `Inv`, a session whose saved authorize request authorizes it keeps doing so through a
change of anything but its protocol, names and saved authorize request. -/
theorem authorized_of_eq {auth : JSONRPCRequest} {t : Session}
    (h : parseAuthorizeRequest env s auth = ((none, none), s))
    (hp : t.protocolType = s.protocolType) (ha : t.stratumAuthorizeRequest = some auth)
    (hf : t.fullWorkerName = s.fullWorkerName) (hs : t.subaccountName = s.subaccountName)
    (hm : t.minerNameWithDot = s.minerNameWithDot) :
    parseAuthorizeRequest env t auth = ((none, none), t) := by
  rw [parseAuthorizeRequest_ok env s auth h (by rw [hp]), ← ha, ← hf, ← hs, ← hm]

/-- The `"mining.authorize"` case, also reached from `"eth_submitLogin"`: it acts only on a
subscribed session. -/
theorem Inv.authorize (hi : Inv env s stat)
    (hm : request.method = "mining.authorize" ∨ request.method = "eth_submitLogin") :
    Inv env (authorizeCase env s request stat).2.1 (authorizeCase env s request stat).2.2 := by
  unfold Handshake.authorizeCase
  split_ifs with hs
  · exact hi
  push_neg at hs
  subst hs
  dsimp only
  obtain ⟨f, a, m, hfr⟩ := parseAuthorizeRequest_frame env s request
  obtain ⟨sub, hsub, hsm, hcase⟩ := hi.subscribed nofun
  refine ⟨?_, fun h => ?_, fun _ => ⟨sub, ?_, hsm, ?_⟩, fun h => ?_⟩
  · rw [hfr]; exact hi.chain
  · split_ifs at h
  · rw [hfr]; exact hsub
  · rw [hfr]; exact hcase
  · by_cases he : (parseAuthorizeRequest env s request).1.2.isNone
    · have hok : parseAuthorizeRequest env s request =
          ((none, none), (parseAuthorizeRequest env s request).2) := by
        rw [← parseAuthorizeRequest_result env s request, ← Option.isNone_iff_eq_none.1 he]
      refine ⟨request, by rw [hfr], hm, ?_⟩
      rw [parseAuthorizeRequest_ok env s request hok (by rw [hfr]), hfr]
    · rw [if_neg he] at h
      cases h

/-- **The step lemma**: every request keeps `Inv`, also after authorization. -/
theorem Inv.handle (hi : Inv env s stat) :
    Inv env (stratumHandleRequest env s request stat).2.1
      (stratumHandleRequest env s request stat).2.2 := by
  unfold stratumHandleRequest
  split
  · split_ifs with hc
    · exact hi
    · push_neg at hc
      subst hc
      simp only [parseSubscribeRequest_err, Option.isNone_none, if_true]
      exact hi.subscribe ‹_›
  · split_ifs with hp
    · exact (hi.ethProxy hp).authorize (.inr ‹_›)
    · exact hi.authorize (.inr ‹_›)
  · exact hi.authorize (.inl ‹_›)
  · split_ifs
    · obtain ⟨v, hv⟩ := parseConfigureRequest_frame s request
      dsimp only
      rw [hv]
      refine ⟨hi.chain, hi.connected, hi.subscribed, fun h => ?_⟩
      obtain ⟨auth, ha, hm, hok⟩ := hi.authorized h
      exact ⟨auth, ha, hm, authorized_of_eq hok rfl ha rfl rfl rfl⟩
    · exact hi
  · exact hi

/-- **The run lemma**: every run of `stratumFindWorkerName` keeps `Inv`. -/
theorem Inv.findWorkerName (hi : Inv env s stat) (requests : List JSONRPCRequest) :
    Inv env (stratumFindWorkerName env s stat requests).1
      (stratumFindWorkerName env s stat requests).2 := by
  induction requests generalizing s stat with
  | nil => exact hi
  | cons request rest ih =>
    unfold Handshake.stratumFindWorkerName
    split_ifs
    · exact hi
    · exact ih hi.handle

/-- A session `Inv` calls authorized has a known protocol. -/
theorem Inv.protocolType_ne_unknown (hi : Inv env s .authorized) : s.protocolType ≠ .unknown := by
  obtain ⟨sub, -, -, ⟨-, -, hw⟩ | ⟨hp, -⟩⟩ := hi.subscribed nofun
  · have hp : s.protocolType = _ := congrArg Prod.fst hw
    rw [hp]
    exact (parseSubscribeRequest_protocolType env _ sub (runSession_chain env)).2.2
  · rw [hp]; decide

end Invariant

/-! ## §7. The forwarded subscription, and the replay. -/

/-- Go's `strings.ToLower` keeps the defaults `sendMiningSubscribeToServer` writes for a missing
or non-string user agent or protocol clear of the client prefixes: it gives
`"stratumswitcher"`, `"stratum"` and `""`. -/
def Env.LowersDefaults (env : Env) : Prop :=
  ∀ t ∈ ["stratumSwitcher", "Stratum", ""],
    ∀ pre ∈ [btcAgentClientTypePrefix, niceHashClientTypePrefix, ethereumStratumNiceHashPrefix],
      hasPrefix (env.toLower t) pre = false

instance (env : Env) : Decidable env.LowersDefaults :=
  inferInstanceAs (Decidable (∀ t ∈ _, ∀ pre ∈ _, _))

section Replay

variable {env : Env} {s : Session}

theorem stringParam_of_length_le {request : JSONRPCRequest} {i : ℕ}
    (h : ¬i + 1 ≤ request.params.length) : stringParam request i = none := by
  simp [stringParam, List.getElem?_eq_none (by omega : request.params.length ≤ i)]

/-- The string `sendMiningSubscribeToServer` forwards as parameter `i` passes a client test
exactly when the miner's own parameter did. -/
theorem hasPrefix_forwarded (hl : env.LowersDefaults) {pre : String}
    (hp : pre ∈ [btcAgentClientTypePrefix, niceHashClientTypePrefix, ethereumStratumNiceHashPrefix])
    (request : JSONRPCRequest) (i : ℕ) {default : String}
    (hd : default ∈ ["stratumSwitcher", "Stratum", ""]) :
    hasPrefix (env.toLower (if i + 1 ≤ request.params.length then (stringParam request i).getD ""
      else default)) pre = env.paramHasPrefix request i pre := by
  unfold Env.paramHasPrefix
  split_ifs with h
  · cases stringParam request i
    · simpa using hl "" (by simp) pre hp
    · simp
  · simpa [stringParam_of_length_le h] using hl default hd pre hp

/-- **What a connect forwards.**  `sendMiningSubscribeToServer` rewrites only the saved subscribe
request, keeping its method; given `LowersDefaults`, the rewritten request passes the client
tests of the chain's subscription exactly as the original did. -/
theorem sendMiningSubscribeToServer_spec {sub : JSONRPCRequest}
    (hsub : s.stratumSubscribeRequest = some sub) (hp : s.protocolType ≠ .unknown) :
    ∃ r sub', sendMiningSubscribeToServer env s = some r ∧
      r.2 = { s with stratumSubscribeRequest := some sub' } ∧ sub'.method = sub.method ∧
      (env.LowersDefaults →
        (∀ pre ∈ [btcAgentClientTypePrefix, niceHashClientTypePrefix],
          env.paramHasPrefix sub' 0 pre = env.paramHasPrefix sub 0 pre) ∧
        (s.protocolType ≠ .bitcoinStratum →
          env.paramHasPrefix sub' 1 ethereumStratumNiceHashPrefix =
            env.paramHasPrefix sub 1 ethereumStratumNiceHashPrefix)) := by
  unfold sendMiningSubscribeToServer
  rw [hsub]
  dsimp only
  have h0 : env.LowersDefaults → ∀ pre ∈ [btcAgentClientTypePrefix, niceHashClientTypePrefix],
      hasPrefix (env.toLower (if 0 + 1 ≤ sub.params.length then (stringParam sub 0).getD ""
        else "stratumSwitcher")) pre = env.paramHasPrefix sub 0 pre := fun hl pre hpre =>
    hasPrefix_forwarded hl (by simp at hpre ⊢; tauto) sub 0 (by simp)
  have h1 : env.LowersDefaults → hasPrefix (env.toLower (if 1 + 1 ≤ sub.params.length then
      (stringParam sub 1).getD "" else "Stratum")) ethereumStratumNiceHashPrefix =
        env.paramHasPrefix sub 1 ethereumStratumNiceHashPrefix := fun hl =>
    hasPrefix_forwarded hl (by simp) sub 1 (by simp)
  cases hps : s.protocolType <;> simp only [hps] at hp ⊢
  · exact ⟨_, _, rfl, rfl, rfl, fun hl => ⟨fun pre hpre => h0 hl pre hpre, nofun⟩⟩
  all_goals first
    | exact absurd rfl hp
    | exact ⟨_, _, rfl, rfl, rfl, fun hl => ⟨fun pre hpre => h0 hl pre hpre, fun _ => h1 hl⟩⟩

/-- A connect keeps `Inv` of an authorized session, given `LowersDefaults` or EthProxy. -/
theorem Inv.forward (hi : Inv env s .authorized)
    (hl : env.LowersDefaults ∨ s.protocolType = .ethereumProxy) :
    ∃ r sub', sendMiningSubscribeToServer env s = some r ∧
      r.2 = { s with stratumSubscribeRequest := some sub' } ∧ Inv env r.2 .authorized := by
  obtain ⟨sub, hsub, hm, hcase⟩ := hi.subscribed nofun
  obtain ⟨r, sub', hr, hr2, hm', htests⟩ :=
    @sendMiningSubscribeToServer_spec env _ _ hsub hi.protocolType_ne_unknown
  obtain ⟨auth, hauth, ham, hfix⟩ := hi.authorized rfl
  refine ⟨r, sub', hr, hr2, ?_⟩
  rw [hr2]
  refine ⟨hi.chain, nofun, fun _ => ⟨sub', rfl, hm' ▸ hm, ?_⟩,
    fun _ => ⟨auth, hauth, ham, authorized_of_eq hfix rfl hauth rfl rfl rfl⟩⟩
  rcases hcase with ⟨hne, hj, hw⟩ | hproxy
  · obtain ⟨t0, t1⟩ := htests (hl.resolve_right hne)
    refine .inl ⟨hne, hj, hw.trans (parseSubscribeRequest_client env rfl
      (fun pre hpre => (t0 pre hpre).symm) fun he => (t1 ?_).symm)⟩
    exact fun hb => hi.chain.1 hb he
  · exact .inr hproxy

/-- Connects keep `Inv` of an authorized session, given `LowersDefaults` or EthProxy, and change
nothing but the saved subscribe request. -/
theorem Inv.afterConnects (hi : Inv env s .authorized)
    (hl : env.LowersDefaults ∨ s.protocolType = .ethereumProxy) (n : ℕ) :
    ∃ s', afterConnects env s n = some s' ∧
      s' = { s with stratumSubscribeRequest := s'.stratumSubscribeRequest } ∧
      Inv env s' .authorized := by
  induction n generalizing s with
  | zero => exact ⟨s, rfl, rfl, hi⟩
  | succ n ih =>
    obtain ⟨r, sub', hr, hr2, hi'⟩ := hi.forward hl
    obtain ⟨s', hs', hframe, hi''⟩ := ih hi' (by rw [hr2]; exact hl)
    refine ⟨s', by simp only [Handshake.afterConnects, hr, Option.some_bind, hs'], ?_, hi''⟩
    rw [hframe, hr2]

/-- A `mining.subscribe` from a connected session is parsed and subscribes it. -/
theorem stratumHandleRequest_subscribe {request : JSONRPCRequest}
    (hm : request.method = "mining.subscribe") :
    stratumHandleRequest env s request .connected =
      ((parseSubscribeRequest env s request).1, (parseSubscribeRequest env s request).2,
        .subScribed) := by
  unfold stratumHandleRequest
  split <;> simp_all [parseSubscribeRequest_err]

/-- Off EthProxy, `eth_submitLogin` is handled as `mining.authorize`. -/
theorem stratumHandleRequest_authorize {request : JSONRPCRequest} {stat : AuthorizeStat}
    (hm : request.method = "mining.authorize" ∨ request.method = "eth_submitLogin")
    (hp : s.protocolType ≠ .ethereumProxy) :
    stratumHandleRequest env s request stat = authorizeCase env s request stat := by
  unfold stratumHandleRequest
  split <;> simp_all

/-- **The replay.**  `Resume`, given what the upgrade saves of a session that `Inv` calls
authorized, authorizes it again and rebuilds it, but for the client fields, which are those a
subscription with the saved subscribe request gives, and the JSON-RPC version, which is 1.0. -/
theorem Inv.replay (hi : Inv env s .authorized) {sub : JSONRPCRequest}
    (hsub : s.stratumSubscribeRequest = some sub) :
    resume env s.sessionData = some
      { s with protocolType := (parseSubscribeRequest env (runSession env) sub).2.protocolType,
               isBTCAgent := (parseSubscribeRequest env (runSession env) sub).2.isBTCAgent,
               isNiceHashClient := (parseSubscribeRequest env (runSession env) sub).2.isNiceHashClient,
               jsonRPCVersion := 1 } := by
  obtain ⟨sub₀, hsub₀, hm₀, -⟩ := hi.subscribed nofun
  have hm : sub.method = "mining.subscribe" := Option.some.inj (hsub₀.symm.trans hsub) ▸ hm₀
  obtain ⟨auth, hauth, ham, hfix⟩ := hi.authorized rfl
  obtain ⟨hb, hp, -⟩ := parseSubscribeRequest_protocolType env (resumeSession env s.versionMask) sub
    (runSession_chain env)
  have hauth' := parseAuthorizeRequest_ok env s auth hfix
    (t := (parseSubscribeRequest env (resumeSession env s.versionMask) sub).2)
    (hb.trans hi.chain.symm)
  simp only [resume, Session.sessionData, hsub, hauth, resumeRequest,
    stratumHandleRequest_subscribe hm, parseSubscribeRequest_err, Option.isSome_none,
    Bool.false_eq_true, if_false, Option.bind_eq_bind, Option.some_bind, stratumHandleRequest_authorize ham hp,
    authorizeCase, ne_eq, not_true_eq_false, hauth', Option.isNone_none, if_true]
  obtain ⟨p, a, b, hr1⟩ := parseSubscribeRequest_frame env (resumeSession env s.versionMask) sub
  have hc : (parseSubscribeRequest env (resumeSession env s.versionMask) sub).2.client =
      (parseSubscribeRequest env (runSession env) sub).2.client :=
    parseSubscribeRequest_client env rfl (fun _ _ => rfl) (fun _ => rfl)
  rw [hr1] at hc ⊢
  simp only [Session.client, Prod.mk.injEq] at hc
  congr 1
  ext <;> simp [resumeSession, runSession, newStratumSession, hsub, hauth, hc]

end Replay

/-! ## §8. What `Resume` rebuilds. -/

/-- A switcher for `chainType` whose helpers leave worker names as they are, format IDs as
`%08x` and lower-case ASCII: the setting of the samples below. -/
def sampleEnv (chainType : ChainType) : Env where
  chainType := chainType
  sessionID := 0x0201003f
  clientIPLong := 0x7f000001
  uint32ToHex := formatHex08
  uint32ToHexLE := formatHex08
  toLower t := String.mk (t.toList.map Char.toLower)
  filterWorkerName := id
  stripEthAddrFromFullName := id
  getRegularSubaccountName := id

/-- **`Resume` rebuilds a subscribed session.**  For a session the handshake authorized after
the miner's own `mining.subscribe`, and any number of connects, the replay of what the upgrade
saves rebuilds the session exactly: its protocol, client flags, JSON-RPC version, names, version
mask and saved requests.  This needs `strings.ToLower` to keep the forwarding defaults clear of
the client prefixes, as Go's does. -/
theorem resume_rebuilds_subscribed (env : Env) (hl : env.LowersDefaults)
    (requests : List JSONRPCRequest) (n : ℕ) {live : Session}
    (hlive : stratumFindWorkerName env (runSession env) .connected requests = (live, .authorized))
    (hsub : live.protocolType ≠ .ethereumProxy) :
    ∃ s, afterConnects env live n = some s ∧
      s = { live with stratumSubscribeRequest := s.stratumSubscribeRequest } ∧
      resume env s.sessionData = some s := by
  have hi : Inv env live .authorized := by
    have h := (Inv.init env).findWorkerName requests
    rwa [hlive] at h
  obtain ⟨s, hs, hframe, his⟩ := hi.afterConnects (.inl hl) n
  refine ⟨s, hs, hframe, ?_⟩
  obtain ⟨sub, hsub', -, ⟨-, hj, hw⟩ | ⟨hp, -⟩⟩ := his.subscribed nofun
  · rw [his.replay hsub']
    simp only [SubscribedWith, Session.client, Prod.mk.injEq] at hw
    rw [← hw.1, ← hw.2.1, ← hw.2.2, ← hj]
  · rw [hframe] at hp
    exact absurd hp hsub

/-- A Bitcoin miner that subscribes as cgminer and authorizes `sub.worker` is rebuilt. -/
example : ∃ s, afterConnects (sampleEnv .bitcoin)
      (stratumFindWorkerName (sampleEnv .bitcoin) (runSession (sampleEnv .bitcoin)) .connected
        [⟨.number 1, "mining.subscribe", [.string "cgminer/4.10.0"], ""⟩,
         ⟨.number 2, "mining.authorize", [.string "sub.worker", .string "x"], ""⟩]).1 1 = some s ∧
      s = { (stratumFindWorkerName (sampleEnv .bitcoin) (runSession (sampleEnv .bitcoin))
        .connected [⟨.number 1, "mining.subscribe", [.string "cgminer/4.10.0"], ""⟩,
          ⟨.number 2, "mining.authorize", [.string "sub.worker", .string "x"], ""⟩]).1 with
          stratumSubscribeRequest := s.stratumSubscribeRequest } ∧
      resume (sampleEnv .bitcoin) s.sessionData = some s :=
  resume_rebuilds_subscribed (sampleEnv .bitcoin) (by decide) _ 1 (Prod.ext rfl (by decide))
    (by decide)

/-- **An EthProxy session is not rebuilt.**  For a session the handshake authorized through
EthProxy's `eth_submitLogin`, which left it at JSON-RPC 2.0, and any number of connects, the
replay of what the upgrade saves authorizes the same names but parses the synthesized
subscription as an Ethereum stratum one, and answers the miner in JSON-RPC 1.0. -/
theorem resume_reclassifies_ethProxy (env : Env) (requests : List JSONRPCRequest) (n : ℕ)
    {live : Session}
    (hlive : stratumFindWorkerName env (runSession env) .connected requests = (live, .authorized))
    (hproxy : live.protocolType = .ethereumProxy) :
    live.jsonRPCVersion = 2 ∧ ∃ s r, afterConnects env live n = some s ∧
      resume env s.sessionData = some r ∧ r.protocolType ≠ .ethereumProxy ∧
      r.jsonRPCVersion = 1 ∧ r.fullWorkerName = live.fullWorkerName ∧
      r.subaccountName = live.subaccountName ∧ r.minerNameWithDot = live.minerNameWithDot := by
  have hi : Inv env live .authorized := by
    have h := (Inv.init env).findWorkerName requests
    rwa [hlive] at h
  obtain ⟨-, -, -, ⟨hne, -⟩ | ⟨-, h2⟩⟩ := hi.subscribed nofun
  · exact absurd hproxy hne
  obtain ⟨s, hs, hframe, his⟩ := hi.afterConnects (.inr hproxy) n
  obtain ⟨sub, hsub, -⟩ := his.subscribed nofun
  exact ⟨h2, s, _, hs, his.replay hsub,
    (parseSubscribeRequest_protocolType env _ sub (runSession_chain env)).2.1, rfl,
    by rw [hframe], by rw [hframe], by rw [hframe]⟩

/-- An EthProxy miner's login, as ethminer sends it: `eth_submitLogin` for the worker
`sub.worker`. -/
def ethProxyLogin : JSONRPCRequest where
  id := .number 1
  method := "eth_submitLogin"
  params := [.string "sub.worker"]
  worker := ""

/-- The session that login leaves. -/
def ethProxyLive : Session :=
  (stratumFindWorkerName (sampleEnv .ethereum) (runSession (sampleEnv .ethereum)) .connected [ethProxyLogin]).1

theorem ethProxy_login_reclassified :
    stratumFindWorkerName (sampleEnv .ethereum) (runSession (sampleEnv .ethereum)) .connected [ethProxyLogin] =
      (ethProxyLive, .authorized) ∧ ethProxyLive.protocolType = .ethereumProxy ∧
    (ethProxyLive.jsonRPCVersion = 2 ∧ ∃ s r, afterConnects (sampleEnv .ethereum) ethProxyLive 1 = some s ∧
      resume (sampleEnv .ethereum) s.sessionData = some r ∧ r.protocolType ≠ .ethereumProxy ∧
      r.jsonRPCVersion = 1 ∧ r.fullWorkerName = ethProxyLive.fullWorkerName ∧
      r.subaccountName = ethProxyLive.subaccountName ∧
      r.minerNameWithDot = ethProxyLive.minerNameWithDot) :=
  have hlive : stratumFindWorkerName (sampleEnv .ethereum) (runSession (sampleEnv .ethereum)) .connected
      [ethProxyLogin] = (ethProxyLive, .authorized) := Prod.ext rfl (by decide)
  have hproxy : ethProxyLive.protocolType = .ethereumProxy := by decide
  ⟨hlive, hproxy, resume_reclassifies_ethProxy (sampleEnv .ethereum) [ethProxyLogin] 1 hlive hproxy⟩

/-! ## §9. What the upstream handshake reads of an authorized session. -/

/-- What `sendMiningSubscribeToServer` and `sendMiningAuthorizeToServer` use without a check:
the saved subscribe request, the saved authorize request with a first parameter to overwrite,
and the sub-account name the suffixed worker name starts with. -/
def Session.UpstreamReady (s : Session) : Prop :=
  s.stratumSubscribeRequest.isSome ∧
    (∃ auth, s.stratumAuthorizeRequest = some auth ∧ auth.params ≠ []) ∧ s.subaccountName ≠ ""

section Ready

variable {env : Env} {s : Session} {stat : AuthorizeStat}

/-- A successful `parseAuthorizeRequest` read a first parameter and wrote a sub-account name. -/
theorem parseAuthorizeRequest_ok_ready {request : JSONRPCRequest} {s' : Session}
    (h : parseAuthorizeRequest env s request = ((none, none), s')) :
    request.params ≠ [] ∧ s'.subaccountName ≠ "" := by
  unfold parseAuthorizeRequest at h
  generalize request.params = ps at h ⊢
  rcases ps with _ | ⟨_ | _ | _ | w | _ | _, _⟩ <;> try cases h
  refine ⟨List.cons_ne_nil _ _, ?_⟩
  dsimp only at h
  split_ifs at h <;> cases h <;> assumption

theorem Inv.upstreamReady (hi : Inv env s .authorized) : s.UpstreamReady := by
  obtain ⟨sub, hsub, -⟩ := hi.subscribed nofun
  obtain ⟨auth, ha, -, hok⟩ := hi.authorized rfl
  obtain ⟨hp, hn⟩ := parseAuthorizeRequest_ok_ready hok
  exact ⟨by rw [hsub]; rfl, ⟨auth, ha, hp⟩, hn⟩

/-- The session `Resume` replays on is as `Run` starts it, but for the version mask. -/
theorem Inv.resumeSession (env : Env) (versionMask : UInt32) :
    Inv env (resumeSession env versionMask) .connected :=
  ⟨runSession_chain env, fun _ => ⟨rfl, rfl⟩, fun h => absurd rfl h, nofun⟩

theorem Inv.resumeRequest (hi : Inv env s stat) {request : Option JSONRPCRequest}
    {r : Session × AuthorizeStat} (h : resumeRequest env s stat request = some r) :
    Inv env r.1 r.2 := by
  cases request with
  | none => cases h; exact hi
  | some request =>
    simp only [Handshake.resumeRequest] at h
    split_ifs at h
    cases h
    exact hi.handle

/-- A session `Resume` keeps is authorized under `Inv`. -/
theorem Inv.resume {data : StratumSessionData} (h : resume env data = some s) :
    Inv env s .authorized := by
  simp only [Handshake.resume, Option.bind_eq_bind, Option.bind_eq_some] at h
  obtain ⟨r₁, h₁, r₂, h₂, h₃⟩ := h
  split_ifs at h₃ with ha
  cases h₃
  have hi := ((Inv.resumeSession env _).resumeRequest h₁).resumeRequest h₂
  rwa [ha] at hi

end Ready

/-- **An authorized session is ready for the server.**  Whatever requests the miner sends,
once `stratumFindWorkerName` has authorized the session, and whatever saved requests `Resume`
replays, once it keeps the session: the saved subscribe request is there, the saved authorize
request has a first parameter, and the sub-account name is not empty. -/
theorem authorized_session_upstream_ready (env : Env) :
    (∀ requests s, stratumFindWorkerName env (runSession env) .connected requests =
      (s, .authorized) → s.UpstreamReady) ∧
    (∀ data s, resume env data = some s → s.UpstreamReady) := by
  refine ⟨fun requests s h => ?_, fun _ _ h => (Inv.resume h).upstreamReady⟩
  have hi := (Inv.init env).findWorkerName requests
  rw [h] at hi
  exact hi.upstreamReady

/-- A Bitcoin miner that subscribes and authorizes `sub.worker` is authorized, and its session
is ready for the server. -/
theorem authorized_session_upstream_ready_bitcoin :
    (stratumFindWorkerName (sampleEnv .bitcoin) (runSession (sampleEnv .bitcoin)) .connected
      [⟨.number 1, "mining.subscribe", [], ""⟩,
       ⟨.number 2, "mining.authorize", [.string "sub.worker"], ""⟩]).2 = .authorized ∧
    (stratumFindWorkerName (sampleEnv .bitcoin) (runSession (sampleEnv .bitcoin)) .connected
      [⟨.number 1, "mining.subscribe", [], ""⟩,
       ⟨.number 2, "mining.authorize", [.string "sub.worker"], ""⟩]).1.UpstreamReady :=
  have hauth : (stratumFindWorkerName (sampleEnv .bitcoin) (runSession (sampleEnv .bitcoin)) .connected
      [⟨.number 1, "mining.subscribe", [], ""⟩,
       ⟨.number 2, "mining.authorize", [.string "sub.worker"], ""⟩]).2 = .authorized := by decide
  ⟨hauth, (authorized_session_upstream_ready _).1 _ _ (Prod.ext rfl hauth)⟩

end BtcPoolModules.StratumSwitcher.Handshake
