/-
  BtcPoolModules.StratumSwitcher.ServerHandshake — the upstream half of the handshake,
  `serverSubscribeAndAuthorize` in `stratumSwitcher/StratumSession.go`: after the authorize
  request is sent, the goroutine that reads the server's lines until two authorize responses,
  or one successful one, have come back, the handlers it calls on each line, and what it writes
  to the miner when the loop ends.

  A line reaches the code through two decoders, `NewJSONRPCResponse` and, where that gives no
  response with an ID, `NewJSONRPCRequest`; a `ServerLine` is what the two make of it, so the
  results below hold whatever `encoding/json` does with the text.  `decodeLine` gives the
  decoders' result for a JSON object with distinct keys, for the lines the counterexamples
  send.  The line `null` decodes without error to a nil `*JSONRPCResponse`, whose `ID` the
  loop then reads.  Writes to both sockets are taken to succeed, and the end of the lines
  stands for the server going quiet (`read line failed` or `Authorize Timeout`).

  Main results:
    * `subscribe_response_index_panic` — the subscribe-response handler returns for the three
      other Stratum variants, but panics on a NiceHash result whose first element has fewer
      than two entries.
    * `authorized_without_subscribe_check` — the goroutine returns `nil` only after a
      successful authorize response, but one such response alone ends it, before the subscribe
      response whose session ID it is meant to check.
    * `suffixed_authorize_resent` — the response the miner gets is the first successful
      authorize response, else the last one; but after a failed one every response with an ID
      sends the suffixed authorize again.
-/
import BtcPoolModules.StratumSwitcher.JSONRPC

namespace BtcPoolModules.StratumSwitcher.ServerHandshake

open Handshake (JsonValue JSONRPCRequest Env Session stringParam parseUint formatHex08)

/-! ## §1. Lines, and how a call ends. -/

/-- A line from the server as the loop's two decoders see it: `NewJSONRPCResponse`'s result
(`none` where it fails, `some none` for the nil pointer of the line `null`), and
`NewJSONRPCRequest`'s (`none` where it fails). -/
structure ServerLine where
  response : Option (Option JSONRPCResponse)
  request : Option JSONRPCRequest

/-- The value of a member of a decoded object, the last of its key; `nil` where it is absent. -/
def memberValue (fields : List (String × JsonValue)) (key : String) : GoValue :=
  ((fields.reverse.lookup key).map ofJson).getD .nil

/-- A member a struct field of type `string` decodes: absent or `null` leaves `""`; another
type is an error. -/
def stringMember (fields : List (String × JsonValue)) (key : String) : Option String :=
  match fields.reverse.lookup key with
  | none | some .null => some ""
  | some (.string s) => some s
  | some _ => none

/-- The two decoders on the JSON value `j`, for an object with distinct keys: a response from an
object, the nil pointer from `null`, an error otherwise; a request from an object whose `method`
and `worker` are strings and whose `params` is an array, where present. -/
def decodeLine (j : JsonValue) : ServerLine where
  response := match j with
    | .null => some none
    | .object fields =>
      some (some ⟨memberValue fields "id", memberValue fields "result", memberValue fields "error"⟩)
    | _ => none
  request := match j with
    | .object fields => do
      let method ← stringMember fields "method"
      let params ← match fields.reverse.lookup "params" with
        | none | some .null => some []
        | some (.array params) => some params
        | some _ => none
      let worker ← stringMember fields "worker"
      some ⟨(fields.reverse.lookup "id").getD .null, method, params, worker⟩
    | _ => none

/-- How a call ends: returning the `nil` error or an error (its message); or crashing the
process, by a runtime panic (no goroutine of the switcher recovers one) or by `glog.Fatal`. -/
inductive Ending where
  | nil
  | error (msg : String)
  | panic
  | fatal
  deriving DecidableEq, Repr

/-- Whether the call returned, with `nil` or an error. -/
def Ending.returns : Ending → Bool
  | .nil | .error _ => true
  | .panic | .fatal => false

def errParseSubscribeResponseFailed : String := "Parse Subscribe Response Failed"
def errSessionIDInconformity : String := "Session ID Inconformity"

/-! ## §2. The handlers of the server's lines. -/

/-- The NiceHash branch from `sessionID, ok := notify[1].(string)` on: `notify[1]` panics on a
short `notify`, and so does `sessionExtraNonce[0:4]` for a NiceHash client on an ID string
shorter than four bytes (hex digits, one byte each). -/
def checkNiceHashSubscribe (env : Env) (s : Session) (notify : List GoValue) (result1 : GoValue) :
    Ending :=
  match notify[1]? with
  | none => .panic
  | some (GoValue.string sessionID) =>
    if s.isNiceHashClient ∧ env.sessionIDString.length < 4 then .panic
    else
      let sessionExtraNonce :=
        if s.isNiceHashClient then String.mk (env.sessionIDString.toList.take 4)
        else env.sessionIDString
      match result1 with
      | .string extraNonce =>
        if sessionID ≠ env.sessionIDString then .error errSessionIDInconformity
        else if extraNonce ≠ sessionExtraNonce then .error errSessionIDInconformity
        else .nil
      | _ => .error errParseSubscribeResponseFailed
  | some _ => .error errParseSubscribeResponseFailed

/-- `stratumHandleServerSubscribeResponse`: the upstream must echo the session's ID string
(and, for NiceHash, the extraNonce); the Ethereum protocols expect `true`. -/
def stratumHandleServerSubscribeResponse (env : Env) (s : Session) (response : JSONRPCResponse) :
    Ending :=
  match s.protocolType with
  | .bitcoinStratum =>
    match response.result with
    | .slice result =>
      if result.length < 2 then .error errParseSubscribeResponseFailed
      else match result[1]? with
        | some (GoValue.string sessionID) =>
          if sessionID ≠ env.sessionIDString then .error errSessionIDInconformity else .nil
        | _ => .error errParseSubscribeResponseFailed
    | _ => .error errParseSubscribeResponseFailed
  | .ethereumStratumNiceHash =>
    match response.result with
    | .slice (.slice notify :: result1 :: _) => checkNiceHashSubscribe env s notify result1
    | _ => .error errParseSubscribeResponseFailed
  | .ethereumStratum | .ethereumProxy =>
    match response.result with
    | .bool true => .nil
    | _ => .error errParseSubscribeResponseFailed
  | .unknown => .fatal

/-- `stratumHandleServerAuthorizeResponse`: the result is the boolean `true`. -/
def stratumHandleServerAuthorizeResponse (response : JSONRPCResponse) : Bool :=
  match response.result with
  | .bool b => b
  | _ => false

/-- The goroutine's variables across the read loop, and the authorize requests with the coin
suffix it has written to the server. -/
structure ReadState where
  authMsgCounter : ℕ
  authSuccess : Bool
  authResponse : JSONRPCResponse
  allowedVersionMask : UInt32
  sentWithSuffix : List JSONRPCRequest

/-- The variables as the goroutine declares them. -/
def ReadState.init : ReadState := ⟨0, false, ⟨.nil, .nil, .nil⟩, 0, []⟩

/-- The `"auth"` case: count the response, keep it unless one succeeded before, and stop
asking after a success. -/
def handleAuth (response : JSONRPCResponse) (st : ReadState) : ReadState :=
  let success := stratumHandleServerAuthorizeResponse response
  let st := { st with authMsgCounter := st.authMsgCounter + 1 }
  let st := if success || !st.authSuccess then { st with authResponse := response } else st
  if success then { st with authSuccess := true, authMsgCounter := 2 } else st

/-- `stratumHandleServerResponse`, by the response's ID: `"configure"` is ignored, `"subscribe"`
checked, `"auth"` counted; an ID that is not a string is logged and ignored. -/
def stratumHandleServerResponse (env : Env) (s : Session) (response : JSONRPCResponse)
    (st : ReadState) : ReadState × Ending :=
  match response.id with
  | .string "subscribe" => (st, stratumHandleServerSubscribeResponse env s response)
  | .string "auth" => (handleAuth response st, .nil)
  | _ => (st, .nil)

/-- `stratumHandleServerNotify`: a version mask from `mining.set_version_mask`, where it parses
as a hexadecimal `uint32`. -/
def stratumHandleServerNotify (notify : JSONRPCRequest) (st : ReadState) : ReadState :=
  if notify.method = "mining.set_version_mask" then
    match (stringParam notify 0).bind (parseUint · 16 32) with
    | some mask => { st with allowedVersionMask := mask.toUInt32 }
    | none => st
  else st

/-- `sendMiningAuthorizeToServer(withSuffix)`: the request it writes, the miner's authorize
request with the ID `"auth"` and the worker name as its first parameter; `none` where it
panics, on a missing request or an empty parameter list. -/
def sendMiningAuthorizeToServer (s : Session) (userSuffix : String) (withSuffix : Bool) :
    Option JSONRPCRequest :=
  match s.stratumAuthorizeRequest with
  | none => none
  | some auth =>
    let authWorkerName :=
      if withSuffix then s.subaccountName ++ "_" ++ userSuffix ++ s.minerNameWithDot
      else s.fullWorkerName
    match auth.params with
    | [] => none
    | _ :: rest => some ⟨.string "auth", auth.method, .string authWorkerName :: rest, ""⟩

/-! ## §3. The read loop and the goroutine. -/

section Loop

variable (env : Env) (s : Session) (userSuffix : String)

/-- A notification, or a line neither decoder takes. -/
def notifyLine (st : ReadState) : Option JSONRPCRequest → ReadState
  | some notify => stratumHandleServerNotify notify st
  | none => st

/-- After `stratumHandleServerResponse`: its error ends the goroutine; otherwise, while the first
authorization has failed, the suffixed authorize is sent. -/
def afterServerResponse : ReadState × Ending → ReadState × Ending
  | (st, .nil) =>
    if !st.authSuccess && st.authMsgCounter = 1 then
      match sendMiningAuthorizeToServer s userSuffix true with
      | some request => ({ st with sentWithSuffix := st.sentWithSuffix ++ [request] }, .nil)
      | none => (st, .panic)
    else (st, .nil)
  | r => r

/-- One line read: a response with an ID goes to `stratumHandleServerResponse`; anything else
is tried as a notification. -/
def readLine (st : ReadState) (line : ServerLine) : ReadState × Ending :=
  match line.response with
  | some none => (st, .panic)
  | some (some response) =>
    if response.id.isNil then (notifyLine st line.request, .nil)
    else afterServerResponse s userSuffix (stratumHandleServerResponse env s response st)
  | none => (notifyLine st line.request, .nil)

/-- `for authMsgCounter < 2`: the variables when the loop ends, and how; `nil` where the loop
condition ended it. -/
def readLoop (st : ReadState) : List ServerLine → ReadState × Ending
  | [] => (st, if 2 ≤ st.authMsgCounter then .nil else .error "read line failed: EOF")
  | line :: rest =>
    if 2 ≤ st.authMsgCounter then (st, .nil)
    else
      match readLine env s userSuffix st line with
      | (st, .nil) => readLoop st rest
      | r => r

/-- The notification `mining.set_version_mask` the miner gets after a successful authorize. -/
def setVersionMaskNotify (mask : UInt32) : JsonValue :=
  .object [("id", .null), ("method", .string "mining.set_version_mask"),
    ("params", .array [.string (formatHex08 mask)])]

/-- What the goroutine leaves: the suffixed authorize requests it wrote to the server, what it
wrote to the miner, and the value it sends on `e` (`nil` for success), or its crash. -/
structure Received where
  sentWithSuffix : List JSONRPCRequest
  toClient : List JsonValue
  ending : Ending

/-- After the loop: the chosen authorize response under the miner's request ID, and the version
mask where authorization succeeded and the session has one. -/
def finish (st : ReadState) : Received :=
  match s.stratumAuthorizeRequest with
  | none => ⟨st.sentWithSuffix, [], .panic⟩
  | some auth =>
    let authResponse := { st.authResponse with id := ofJson auth.id }
    ⟨st.sentWithSuffix,
      authResponse.toJSONBytes s.jsonRPCVersion ::
        (if st.authSuccess && s.versionMask ≠ 0 then
          [setVersionMaskNotify (st.allowedVersionMask &&& s.versionMask)] else []),
      if st.authSuccess then .nil else .error "Authorize Failed for Server"⟩

/-- `serverSubscribeAndAuthorize` from the authorize request on, over the lines the server
sends: the request without suffix, then the goroutine that reads the responses. -/
def serverSubscribeAndAuthorize (lines : List ServerLine) : Received :=
  match sendMiningAuthorizeToServer s userSuffix false with
  | none => ⟨[], [], .panic⟩
  | some _ =>
    match readLoop env s userSuffix .init lines with
    | (st, .nil) => finish s st
    | (st, e) => ⟨st.sentWithSuffix, [], e⟩

end Loop

/-! ## §4. The subscribe response. -/

theorem length_ofJsonList (l : List JsonValue) : (ofJsonList l).length = l.length := by
  induction l with
  | nil => rfl
  | cons v vs ih => simp [ofJsonList, ih]

/-- **The subscribe response may panic.**  For Bitcoin's stratum, Ethereum's and EthProxy the
handler returns, with `nil` or an error; for NiceHash it reads `result[0][1]` after checking
only `len(result)`, and a decoded result `[l, x, …]` with fewer than two entries in `l`
panics. -/
theorem subscribe_response_index_panic (env : Env) (s : Session) :
    (s.protocolType ≠ .ethereumStratumNiceHash → s.protocolType ≠ .unknown →
      ∀ response, (stratumHandleServerSubscribeResponse env s response).returns = true) ∧
    (s.protocolType = .ethereumStratumNiceHash → ∀ response (l : List JsonValue) x rest,
      response.result = ofJson (.array (.array l :: x :: rest)) → l.length < 2 →
      stratumHandleServerSubscribeResponse env s response = .panic) := by
  refine ⟨fun hn hu response => ?_, fun hp response l x rest hr hl => ?_⟩
  · cases hp : s.protocolType
    case ethereumStratumNiceHash => exact absurd hp hn
    case unknown => exact absurd hp hu
    all_goals simp only [stratumHandleServerSubscribeResponse, hp]
    case bitcoinStratum =>
      split
      · split_ifs
        · rfl
        · split
          · split_ifs <;> rfl
          · rfl
      · rfl
    all_goals split <;> rfl
  · have h1 : (ofJsonList l)[1]? = none := List.getElem?_eq_none (by rw [length_ofJsonList]; omega)
    simp [stratumHandleServerSubscribeResponse, hp, hr, ofJson, ofJsonList, checkNiceHashSubscribe, h1]

/-! ## §5. The authorize responses the loop reads. -/

/-- Whether an ID is the string `"auth"`. -/
def isAuthID : GoValue → Bool
  | .string "auth" => true
  | _ => false

/-- The response of a line with the ID `"auth"`. -/
def authResponseOf (line : ServerLine) : Option JSONRPCResponse :=
  match line.response with
  | some (some r) => if isAuthID r.id then some r else none
  | _ => none

/-- The authorize responses among the lines, in order. -/
def authResponses (lines : List ServerLine) : List JSONRPCResponse := lines.filterMap authResponseOf

/-- The authorize response the miner is meant to get: the first successful one, else the
last one. -/
def chosenAuthResponse (rs : List JSONRPCResponse) : Option JSONRPCResponse :=
  match rs.find? stratumHandleServerAuthorizeResponse with
  | some r => some r
  | none => rs.getLast?

/-- The variables the authorization reads. -/
def ReadState.auth (st : ReadState) : ℕ × Bool × JSONRPCResponse :=
  (st.authMsgCounter, st.authSuccess, st.authResponse)

theorem isAuthID_eq_true {id : GoValue} : isAuthID id = true ↔ id = .string "auth" := by
  unfold isAuthID
  split <;> simp_all

theorem stratumHandleServerResponse_fst (env : Env) (s : Session) (r : JSONRPCResponse)
    (st : ReadState) :
    (stratumHandleServerResponse env s r st).1 = if isAuthID r.id then handleAuth r st else st := by
  unfold stratumHandleServerResponse
  split
  · rename_i h; simp [h, isAuthID]
  · rename_i h; simp [h, isAuthID]
  · rename_i h; rw [if_neg (mt isAuthID_eq_true.1 h)]

theorem notifyLine_auth (st : ReadState) (request : Option JSONRPCRequest) :
    (notifyLine st request).auth = st.auth := by
  unfold notifyLine stratumHandleServerNotify
  split
  · split_ifs
    · split <;> rfl
    · rfl
  · rfl

theorem afterServerResponse_auth (s : Session) (userSuffix : String) (p : ReadState × Ending) :
    (afterServerResponse s userSuffix p).1.auth = p.1.auth := by
  rcases p with ⟨st, _ | _ | _ | _⟩ <;> simp only [afterServerResponse]
  split_ifs
  · split <;> rfl
  · rfl

/-- **One line on the authorization**: an authorize response is handled by `handleAuth`, and
every other line leaves the counter, the flag and the kept response alone. -/
theorem readLine_auth (env : Env) (s : Session) (userSuffix : String) (st : ReadState)
    (line : ServerLine) :
    (readLine env s userSuffix st line).1.auth =
      match authResponseOf line with
      | some r => (handleAuth r st).auth
      | none => st.auth := by
  rcases line with ⟨_ | _ | r, request⟩
  · exact notifyLine_auth _ _
  · rfl
  · simp only [readLine, authResponseOf]
    split_ifs with hn ha ha
    · cases h : r.id <;> simp_all [GoValue.isNil, isAuthID]
    · exact notifyLine_auth _ _
    · rw [afterServerResponse_auth, stratumHandleServerResponse_fst, if_pos ha]
    · rw [afterServerResponse_auth, stratumHandleServerResponse_fst, if_neg ha]

/-- How the loop's variables follow the authorize responses read so far. -/
structure Tracks (st : ReadState) (rs : List JSONRPCResponse) : Prop where
  response : rs ≠ [] → chosenAuthResponse rs = some st.authResponse
  success : st.authSuccess = rs.any stratumHandleServerAuthorizeResponse
  started : st.authMsgCounter ≠ 0 → rs ≠ []
  stops : st.authSuccess = true → 2 ≤ st.authMsgCounter

theorem Tracks.init : Tracks .init [] :=
  ⟨fun h => absurd rfl h, rfl, fun h => absurd rfl h, nofun⟩

theorem Tracks.of_auth_eq {st st' : ReadState} {rs : List JSONRPCResponse} (ht : Tracks st rs)
    (h : st'.auth = st.auth) : Tracks st' rs := by
  simp only [ReadState.auth, Prod.mk.injEq] at h
  obtain ⟨hc, hs, hr⟩ := h
  exact ⟨hr ▸ ht.response, hs ▸ ht.success, hc ▸ ht.started, hs ▸ hc ▸ ht.stops⟩

theorem authResponses_append_singleton (read : List ServerLine) (line : ServerLine) :
    authResponses (read ++ [line]) = authResponses read ++ (authResponseOf line).toList := by
  simp only [authResponses, List.filterMap_append, List.filterMap_cons, List.filterMap_nil]
  cases authResponseOf line <;> rfl

/-- An authorize response read while the loop still runs. -/
theorem Tracks.handleAuth {st : ReadState} {rs : List JSONRPCResponse} (ht : Tracks st rs)
    (hlt : st.authMsgCounter < 2) (r : JSONRPCResponse) : Tracks (handleAuth r st) (rs ++ [r]) := by
  have hs : st.authSuccess = false := by
    cases h : st.authSuccess
    · rfl
    · exact absurd (ht.stops h) (by omega)
  have hnone : rs.find? stratumHandleServerAuthorizeResponse = none := by
    have := ht.success
    rw [hs, eq_comm, List.any_eq_false] at this
    exact List.find?_eq_none.2 this
  cases hf : stratumHandleServerAuthorizeResponse r <;>
    refine ⟨fun _ => ?_, ?_, fun _ => List.append_ne_nil_of_right_ne_nil _ (List.cons_ne_nil _ _), ?_⟩ <;>
    simp [ServerHandshake.handleAuth, chosenAuthResponse, List.find?_append, hnone, hf, hs,
      ← ht.success]

theorem Tracks.readLine (env : Env) (s : Session) (userSuffix : String) {st : ReadState}
    {read : List ServerLine} (ht : Tracks st (authResponses read)) (hlt : st.authMsgCounter < 2)
    (line : ServerLine) :
    Tracks (readLine env s userSuffix st line).1 (authResponses (read ++ [line])) := by
  have h := readLine_auth env s userSuffix st line
  rw [authResponses_append_singleton]
  cases hr : authResponseOf line with
  | none => rw [hr] at h; simpa using ht.of_auth_eq h
  | some r => rw [hr] at h; exact (ht.handleAuth hlt r).of_auth_eq h

/-- **The loop follows the lines it reads**: it stops after a prefix of them, and its variables
then track the authorize responses of that prefix, however it ended. -/
theorem Tracks.readLoop (env : Env) (s : Session) (userSuffix : String) {st : ReadState}
    {read : List ServerLine} (ht : Tracks st (authResponses read)) (lines : List ServerLine) :
    ∃ pre rest, lines = pre ++ rest ∧
      Tracks (readLoop env s userSuffix st lines).1 (authResponses (read ++ pre)) := by
  induction lines generalizing st read with
  | nil => exact ⟨[], [], rfl, by simpa [ServerHandshake.readLoop] using ht⟩
  | cons line rest ih =>
    by_cases h2 : 2 ≤ st.authMsgCounter
    · exact ⟨[], line :: rest, rfl, by simpa [ServerHandshake.readLoop, h2] using ht⟩
    · have hl := ht.readLine env s userSuffix (by omega) line
      rcases hrl : ServerHandshake.readLine env s userSuffix st line with ⟨st', e⟩
      rw [hrl] at hl
      cases e with
      | nil =>
        obtain ⟨pre, rest', rfl, ht'⟩ := ih hl
        exact ⟨line :: pre, rest', rfl, by simpa [ServerHandshake.readLoop, h2, hrl] using ht'⟩
      | _ => exact ⟨[line], rest, rfl, by simpa [ServerHandshake.readLoop, h2, hrl] using hl⟩

/-- The loop ends with `nil` only on its condition. -/
theorem readLoop_nil (env : Env) (s : Session) (userSuffix : String) {st : ReadState}
    {lines : List ServerLine} (h : (readLoop env s userSuffix st lines).2 = .nil) :
    2 ≤ (readLoop env s userSuffix st lines).1.authMsgCounter := by
  induction lines generalizing st with
  | nil =>
    simp only [readLoop] at h ⊢
    split_ifs at h with h2
    exact h2
  | cons line rest ih =>
    by_cases h2 : 2 ≤ st.authMsgCounter
    · simp [readLoop, h2]
    · rcases hrl : readLine env s userSuffix st line with ⟨st', e⟩
      cases e with
      | nil => simp only [readLoop, h2, hrl, if_false] at h ⊢; exact ih h
      | _ => simp [readLoop, h2, hrl] at h

theorem readLoop_of_two_le (env : Env) (s : Session) (userSuffix : String) (st : ReadState)
    (h : 2 ≤ st.authMsgCounter) (lines : List ServerLine) :
    readLoop env s userSuffix st lines = (st, .nil) := by
  cases lines <;> simp [readLoop, h]

/-! ## §6. What the goroutine reports. -/

section Report

variable {env : Env} {s : Session} {userSuffix : String}

/-- Where the goroutine returns `nil` or writes to the miner, its loop ended on its condition
after a prefix of the lines, whose authorize responses the variables track. -/
theorem finish_of_reached {lines : List ServerLine}
    (h : (serverSubscribeAndAuthorize env s userSuffix lines).ending = .nil ∨
      (serverSubscribeAndAuthorize env s userSuffix lines).toClient ≠ []) :
    ∃ st pre rest auth, lines = pre ++ rest ∧ Tracks st (authResponses pre) ∧
      2 ≤ st.authMsgCounter ∧ s.stratumAuthorizeRequest = some auth ∧
      serverSubscribeAndAuthorize env s userSuffix lines = finish s st := by
  unfold serverSubscribeAndAuthorize at h ⊢
  cases hsend : sendMiningAuthorizeToServer s userSuffix false with
  | none => simp [hsend] at h
  | some _ =>
    obtain ⟨pre, rest, hl, ht⟩ := @Tracks.readLoop env s userSuffix _ [] Tracks.init lines
    have h2 : (readLoop env s userSuffix .init lines).2 = .nil →
        2 ≤ (readLoop env s userSuffix .init lines).1.authMsgCounter := readLoop_nil env s userSuffix
    rcases hr : readLoop env s userSuffix .init lines with ⟨st, e⟩
    rw [hr] at ht h2
    cases e
    case nil =>
      simp only [hsend, hr] at h ⊢
      cases ha : s.stratumAuthorizeRequest with
      | none => simp [finish, ha] at h
      | some auth => exact ⟨st, pre, rest, auth, hl, by simpa using ht, h2 rfl, rfl, rfl⟩
    all_goals simp [hsend, hr] at h

theorem authResponses_append (pre rest : List ServerLine) :
    authResponses (pre ++ rest) = authResponses pre ++ authResponses rest :=
  List.filterMap_append _ _ _

/-- A session ready for the upstream handshake has both authorize requests to send. -/
theorem sendMiningAuthorizeToServer_ready (userSuffix : String) (h : s.UpstreamReady)
    (withSuffix : Bool) :
    ∃ request, sendMiningAuthorizeToServer s userSuffix withSuffix = some request := by
  obtain ⟨-, ⟨auth, ha, hp⟩, -⟩ := h
  obtain ⟨p, ps, hps⟩ := List.exists_cons_of_ne_nil hp
  simp only [sendMiningAuthorizeToServer, ha, hps]
  exact ⟨_, rfl⟩

theorem readLoop_cons_nil {st st' : ReadState} {line : ServerLine} (rest : List ServerLine)
    (hlt : st.authMsgCounter < 2) (h : readLine env s userSuffix st line = (st', .nil)) :
    readLoop env s userSuffix st (line :: rest) = readLoop env s userSuffix st' rest := by
  rw [readLoop, if_neg (by omega), h]

/-- While the first authorization has failed, a handled response sends the suffixed authorize
again. -/
theorem afterServerResponse_resend (st : ReadState) {request : JSONRPCRequest}
    (hs : st.authSuccess = false) (hc : st.authMsgCounter = 1)
    (hr : sendMiningAuthorizeToServer s userSuffix true = some request) :
    afterServerResponse s userSuffix (st, .nil) =
      ({ st with sentWithSuffix := st.sentWithSuffix ++ [request] }, .nil) := by
  simp [afterServerResponse, hs, hc, hr]

/-- **No subscribe check before success.**  The goroutine returns `nil` only after an
authorize response with the result `true`; but such a response as the first line ends the
loop at once, whatever follows, the subscribe response with the session ID included. -/
theorem authorized_without_subscribe_check (env : Env) (s : Session) (userSuffix : String) :
    (∀ lines, (serverSubscribeAndAuthorize env s userSuffix lines).ending = .nil →
      ∃ r ∈ authResponses lines, stratumHandleServerAuthorizeResponse r = true) ∧
    (s.UpstreamReady → ∀ rest, (serverSubscribeAndAuthorize env s userSuffix
      (decodeLine (.object [("id", .string "auth"), ("result", .bool true), ("error", .null)]) ::
        rest)).ending = .nil) := by
  refine ⟨fun lines h => ?_, fun hready rest => ?_⟩
  · obtain ⟨st, pre, rest, auth, rfl, ht, -, ha, he⟩ := finish_of_reached (.inl h)
    have hs : st.authSuccess = true := by
      rw [he] at h
      simp only [finish, ha] at h
      split_ifs at h with hs
      · exact hs
    rw [ht.success, List.any_eq_true] at hs
    obtain ⟨r, hr, hok⟩ := hs
    exact ⟨r, by rw [authResponses_append]; exact List.mem_append_left _ hr, hok⟩
  · obtain ⟨request, hreq⟩ := sendMiningAuthorizeToServer_ready userSuffix hready false
    obtain ⟨-, ⟨auth, ha, -⟩, -⟩ := hready
    have hloop : readLoop env s userSuffix .init
        (decodeLine (.object [("id", .string "auth"), ("result", .bool true), ("error", .null)]) ::
          rest) = (⟨2, true, ⟨.string "auth", .bool true, .nil⟩, 0, []⟩, .nil) := by
      rw [readLoop, if_neg (by decide)]
      exact readLoop_of_two_le env s userSuffix _ (le_refl 2) rest
    simp [serverSubscribeAndAuthorize, hreq, hloop, finish, ha]

/-- **The suffixed authorize is sent again.**  Where the goroutine writes to the miner, it
writes first the authorize response the spec names, the first successful one of the lines it
read, else the last, under the miner's request ID.  But after a failed authorize response,
every response with an ID sends the suffixed authorize again: a configure response between a
failure and a success makes two. -/
theorem suffixed_authorize_resent (env : Env) (s : Session) (userSuffix : String) :
    (∀ lines, (serverSubscribeAndAuthorize env s userSuffix lines).toClient ≠ [] →
      ∃ pre rest r auth, lines = pre ++ rest ∧ chosenAuthResponse (authResponses pre) = some r ∧
        s.stratumAuthorizeRequest = some auth ∧
        (serverSubscribeAndAuthorize env s userSuffix lines).toClient.head? =
          some (({ r with id := ofJson auth.id } : JSONRPCResponse).toJSONBytes s.jsonRPCVersion)) ∧
    (s.UpstreamReady → ∀ rest, (serverSubscribeAndAuthorize env s userSuffix
      (decodeLine (.object [("id", .string "auth"), ("result", .bool false), ("error", .null)]) ::
        decodeLine (.object [("id", .string "configure"),
          ("result", .object [("version-rolling", .bool true)]), ("error", .null)]) ::
        decodeLine (.object [("id", .string "auth"), ("result", .bool true), ("error", .null)]) ::
        rest)).sentWithSuffix.length = 2) := by
  refine ⟨fun lines h => ?_, fun hready rest => ?_⟩
  · obtain ⟨st, pre, rest, auth, rfl, ht, h2, ha, he⟩ := finish_of_reached (.inr h)
    refine ⟨pre, rest, st.authResponse, auth, rfl, ht.response (ht.started (by omega)), ha, ?_⟩
    rw [he]
    simp [finish, ha]
  · obtain ⟨request₀, hreq₀⟩ := sendMiningAuthorizeToServer_ready userSuffix hready false
    obtain ⟨request, hreq⟩ := sendMiningAuthorizeToServer_ready userSuffix hready true
    obtain ⟨-, ⟨auth, ha, -⟩, -⟩ := hready
    have h₁ : readLine env s userSuffix .init
        (decodeLine (.object [("id", .string "auth"), ("result", .bool false), ("error", .null)])) =
        (⟨1, false, ⟨.string "auth", .bool false, .nil⟩, 0, [request]⟩, .nil) :=
      afterServerResponse_resend (⟨1, false, ⟨.string "auth", .bool false, .nil⟩, 0, []⟩)
        rfl rfl hreq
    have h₂ : readLine env s userSuffix ⟨1, false, ⟨.string "auth", .bool false, .nil⟩, 0, [request]⟩
        (decodeLine (.object [("id", .string "configure"),
          ("result", .object [("version-rolling", .bool true)]), ("error", .null)])) =
        (⟨1, false, ⟨.string "auth", .bool false, .nil⟩, 0, [request, request]⟩, .nil) :=
      afterServerResponse_resend (⟨1, false, ⟨.string "auth", .bool false, .nil⟩, 0, [request]⟩)
        rfl rfl hreq
    have h₃ : readLine env s userSuffix
        ⟨1, false, ⟨.string "auth", .bool false, .nil⟩, 0, [request, request]⟩
        (decodeLine (.object [("id", .string "auth"), ("result", .bool true), ("error", .null)])) =
        (⟨2, true, ⟨.string "auth", .bool true, .nil⟩, 0, [request, request]⟩, .nil) := rfl
    have hloop := (readLoop_cons_nil (_ :: _ :: rest) Nat.zero_lt_two h₁).trans
      ((readLoop_cons_nil (_ :: rest) Nat.one_lt_two h₂).trans
        ((readLoop_cons_nil rest Nat.one_lt_two h₃).trans
          (readLoop_of_two_le env s userSuffix (⟨2, true, ⟨.string "auth", .bool true, .nil⟩, 0,
            [request, request]⟩) (le_refl 2) rest)))
    simp [serverSubscribeAndAuthorize, hreq₀, hloop, finish, ha]

end Report

end BtcPoolModules.StratumSwitcher.ServerHandshake
