/-
  BtcPoolModules.StratumSwitcher.JSONRPC — the JSON-RPC values of `stratumSwitcher/JSONRPC.go`
  and `Errors.go`: what a response holds in its `interface{}` fields, how `ToJSONBytes` writes
  it in JSON-RPC 1.0 and 2.0, and the two ways its `Error` is built.

  An `interface{}` holds a value together with its dynamic type, and the code branches on that
  type: `NewJSONRPC2Error` converts only a `JSONRPCArray`, and takes its code only from an
  `int`.  The values the switcher builds have the types it wrote (`ToJSONRPCArray` gives a
  `JSONRPCArray` of an `int`, a `string` and the server ID, a `uint8`); the values
  `encoding/json` decodes are `float64`, `string`, `[]interface{}` and
  `map[string]interface{}`.  A nil `JSONRPCArray` stored in an `interface{}` is not `nil`.
  `json.Marshal`'s output is modelled as the JSON value it encodes.

  Main results:
    * `toJSONBytes_version_two_error` — in JSON-RPC 2.0 an error `ToJSONRPCArray` built is
      written with its code, message and data, and a `nil` error is left out; but the nil
      array `ToJSONRPCArray` returns for no error is written as `{"code": 0, "message": ""}`,
      and an error triple decoded from the upstream is dropped.
-/
import BtcPoolModules.StratumSwitcher.Handshake

namespace BtcPoolModules.StratumSwitcher

open Handshake (JsonValue StratumError)

/-! ## §1. Values in an `interface{}`. -/

/-- A value in an `interface{}`, with its dynamic type. -/
inductive GoValue where
  /-- The `nil` interface. -/
  | nil
  | bool (b : Bool)
  /-- An `int`, as `StratumError.ErrNo`. -/
  | int (n : ℤ)
  /-- A `uint8`, as the server ID. -/
  | uint8 (n : UInt8)
  /-- A `float64`, as `encoding/json` decodes every number. -/
  | float64 (x : ℤ)
  | string (s : String)
  /-- A `[]interface{}`, as `encoding/json` decodes an array. -/
  | slice (elems : List GoValue)
  /-- A `JSONRPCArray`; `none` is the nil one. -/
  | jsonrpcArray (elems : Option (List GoValue))
  /-- A `map[string]interface{}`, as `encoding/json` decodes an object. -/
  | map (fields : List (String × GoValue))

/-- `v == nil` for an `interface{}`: only the nil interface is; a nil `JSONRPCArray` is not. -/
def GoValue.isNil : GoValue → Bool
  | .nil => true
  | _ => false

mutual
/-- What `encoding/json` decodes a JSON value into, stored in an `interface{}`. -/
def ofJson : JsonValue → GoValue
  | .null => .nil
  | .bool b => .bool b
  | .number n => .float64 n
  | .string s => .string s
  | .array elems => .slice (ofJsonList elems)
  | .object fields => .map (ofJsonFields fields)

def ofJsonList : List JsonValue → List GoValue
  | [] => []
  | v :: vs => ofJson v :: ofJsonList vs

def ofJsonFields : List (String × JsonValue) → List (String × GoValue)
  | [] => []
  | (k, v) :: fields => (k, ofJson v) :: ofJsonFields fields
end

mutual
/-- `json.Marshal` of a value: the JSON value its output encodes.  Nil slices and maps are
written `null`. -/
def marshal : GoValue → JsonValue
  | .nil => .null
  | .bool b => .bool b
  | .int n => .number n
  | .uint8 n => .number n.toNat
  | .float64 x => .number x
  | .string s => .string s
  | .slice elems => .array (marshalList elems)
  | .jsonrpcArray none => .null
  | .jsonrpcArray (some elems) => .array (marshalList elems)
  | .map fields => .object (marshalFields fields)

def marshalList : List GoValue → List JsonValue
  | [] => []
  | v :: vs => marshal v :: marshalList vs

def marshalFields : List (String × GoValue) → List (String × JsonValue)
  | [] => []
  | (k, v) :: fields => (k, marshal v) :: marshalFields fields
end

/-! ## §2. Responses and their errors. -/

/-- `JSONRPCResponse`. -/
structure JSONRPCResponse where
  id : GoValue
  result : GoValue
  error : GoValue

/-- `JSONRPC2Error`. -/
structure JSONRPC2Error where
  code : ℤ
  message : String
  data : GoValue

/-- `NewJSONRPC2Error`: `nil` unless the error's dynamic type is `JSONRPCArray`; then the code
where the first element is an `int`, the message where the second is a `string`, and the third
element as data, each left at its zero value otherwise. -/
def newJSONRPC2Error : GoValue → Option JSONRPC2Error
  | .jsonrpcArray errArr =>
    let errArr : List GoValue := errArr.getD []
    some { code := match errArr[0]? with
                   | some (GoValue.int code) => code
                   | _ => 0
           message := match errArr[1]? with
                      | some (GoValue.string message) => message
                      | _ => ""
           data := errArr[2]?.getD .nil }
  | _ => none

/-- A struct field tagged `omitempty` in `json.Marshal`'s output: left out where the
`interface{}` is `nil`. -/
def omitEmpty (key : String) (v : GoValue) : List (String × JsonValue) :=
  if v.isNil then [] else [(key, marshal v)]

/-- `json.Marshal` of a `JSONRPC2Error`, whose `data` is `omitempty`. -/
def JSONRPC2Error.toJson (e : JSONRPC2Error) : JsonValue :=
  .object ([("code", .number e.code), ("message", .string e.message)] ++ omitEmpty "data" e.data)

/-- `ToJSONBytes(version)`: the response itself in version 1; otherwise a `JSONRPC2Response`,
whose `result` and `error` are `omitempty`, with the error `NewJSONRPC2Error` makes. -/
def JSONRPCResponse.toJSONBytes (r : JSONRPCResponse) (version : ℕ) : JsonValue :=
  if version = 1 then
    .object [("id", marshal r.id), ("result", marshal r.result), ("error", marshal r.error)]
  else
    .object ([("id", marshal r.id), ("jsonrpc", .string "2.0")] ++ omitEmpty "result" r.result ++
      match newJSONRPC2Error r.error with
      | some e => [("error", e.toJson)]
      | none => [])

/-- `StratumError.ToJSONRPCArray` on a `*StratumError` that may be `nil`: the nil
`JSONRPCArray` for `nil`. -/
def StratumError.toJSONRPCArray (err : Option StratumError) (extData : GoValue) : GoValue :=
  match err with
  | none => .jsonrpcArray none
  | some err => .jsonrpcArray (some [.int err.errNo, .string err.errMsg, extData])

/-! ## §3. Errors in JSON-RPC 2.0. -/

/-- The members a version-2 response always has, and its result where it is set. -/
def JSONRPCResponse.members2 (r : JSONRPCResponse) : List (String × JsonValue) :=
  [("id", marshal r.id), ("jsonrpc", .string "2.0")] ++ omitEmpty "result" r.result

theorem toJSONBytes_two (r : JSONRPCResponse) :
    r.toJSONBytes 2 = .object (r.members2 ++
      match newJSONRPC2Error r.error with
      | some e => [("error", e.toJson)]
      | none => []) := by
  simp [JSONRPCResponse.toJSONBytes, JSONRPCResponse.members2]

/-- **Errors in JSON-RPC 2.0.**  An error `ToJSONRPCArray` built keeps its code, message and
data, and a `nil` error is left out.  But the nil array `ToJSONRPCArray` returns for no error
is not `nil` in the `interface{}`, and is written as the error `{"code": 0, "message": ""}`;
and an error triple decoded from JSON is a `[]interface{}`, which `NewJSONRPC2Error` drops. -/
theorem toJSONBytes_version_two_error (r : JSONRPCResponse) :
    (∀ err data, r.error = StratumError.toJSONRPCArray (some err) data →
      r.toJSONBytes 2 = .object (r.members2 ++ [("error", .object
        ([("code", .number err.errNo), ("message", .string err.errMsg)] ++ omitEmpty "data" data))])) ∧
    (r.error = .nil → r.toJSONBytes 2 = .object r.members2) ∧
    (∀ data, r.error = StratumError.toJSONRPCArray none data →
      r.toJSONBytes 2 = .object (r.members2 ++
        [("error", .object [("code", .number 0), ("message", .string "")])])) ∧
    (∀ code message data, r.error = ofJson (.array [.number code, .string message, data]) →
      r.toJSONBytes 2 = .object r.members2) := by
  refine ⟨fun err data h => ?_, fun h => ?_, fun data h => ?_, fun code message data h => ?_⟩ <;>
    simp [toJSONBytes_two, h, StratumError.toJSONRPCArray, newJSONRPC2Error, JSONRPC2Error.toJson,
      ofJson, ofJsonList, omitEmpty, GoValue.isNil]

end BtcPoolModules.StratumSwitcher
