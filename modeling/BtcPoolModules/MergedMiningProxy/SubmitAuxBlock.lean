/-
  BtcPoolModules.MergedMiningProxy.SubmitAuxBlock — `ProxyRPCHandle.submitAuxBlock`
  (`mergedMiningProxy`'s RPC handler): a miner submits a solved block, and the proxy hands it
  on to every aux chain whose target it meets.

  The handler parses the miner's aux proof of work, looks up the job of the block hash it was
  given, and for each aux chain of the job whose target the parent block's hash reaches starts a
  goroutine.  The goroutine puts the chain's path in the proxy's merkle tree in front of the
  blockchain branch (`ExpandingBlockchainBranch`), writes the result in hex, and sends it with
  the chain's configured `submitauxblock` request, where the tags `{hash-hex}` and
  `{aux-pow-hex}` of the string parameters are replaced.  `AuxJobMaker`, `hash.MakeByte32FromHex`
  and `Byte32.HexReverse` are not in the source: they are fields of `ProxyRPCHandle`.

  Main results:
    * `AuxPowData.WellFormed.expandingBlockchainBranch` — expanding the branch of a well-formed
      aux proof of work whose block hash is big-endian keeps it well formed, while the branch
      still fits its size byte.
    * `submitAuxBlock_request` — every submission the handler starts for a chain with the tag
      parameters sends the aux block's hash and an aux proof of work that `ParseAuxPowData`
      reads back as the miner's, with that chain's path in front.
-/
import BtcPoolModules.MergedMiningProxy.MerkleBranch

namespace BtcPoolModules.MergedMiningProxy

open BtcPoolModules.GoLib

/-! ## §1. Expanding keeps the data well formed. -/

@[simp] theorem expandingBlockchainBranch_coinbaseTxn (a : AuxPowData) (p : List MerkleNode) :
    (a.expandingBlockchainBranch p).coinbaseTxn = a.coinbaseTxn := rfl

@[simp] theorem expandingBlockchainBranch_blockHash (a : AuxPowData) (p : List MerkleNode) :
    (a.expandingBlockchainBranch p).blockHash = a.blockHash := rfl

@[simp] theorem expandingBlockchainBranch_coinbaseBranch (a : AuxPowData) (p : List MerkleNode) :
    (a.expandingBlockchainBranch p).coinbaseBranch = a.coinbaseBranch := rfl

@[simp] theorem expandingBlockchainBranch_parentBlock (a : AuxPowData) (p : List MerkleNode) :
    (a.expandingBlockchainBranch p).parentBlock = a.parentBlock := rfl

/-- The bytes up to the end of the block hash are the same after the expansion. -/
theorem expandingBlockchainBranch_toBytes (a : AuxPowData) (p : List MerkleNode) :
    (a.expandingBlockchainBranch p).toBytes = (a.coinbaseTxn ++ a.blockHash.bytes) ++
      (a.coinbaseBranch.toBytes ++ (a.expandingBlockchainBranch p).blockchainBranch.toBytes ++
        a.parentBlock) := by
  simp [AuxPowData.toBytes]

/-- Where the big-endian block hash is the one the parser computes, a well-formed aux proof of
work holds it first where its coinbase transaction ends. -/
theorem AuxPowData.WellFormed.bytesIndex_blockHash {H : HashFunctions} {chainType : String}
    {a : AuxPowData} (ha : a.WellFormed H chainType)
    (hbig : blockHashOf H chainType a.parentBlock = .ok a.blockHash) :
    bytesIndex a.toBytes a.blockHash.bytes = some a.coinbaseTxn.length := by
  obtain ⟨h, hh, hfound⟩ := ha.found
  obtain rfl : h = a.blockHash := Except.ok.inj (hh.symm.trans hbig)
  rcases hfound with ⟨-, hi⟩ | ⟨hrev, hnone, hi⟩
  · exact hi
  · rw [← hrev] at hi
    exact absurd (hnone.symm.trans hi) (by simp)

/-- **Expanding keeps an aux proof of work well formed**: when its block hash is the big-endian
one the parser computes, and the expanded branch still fits its size byte.  The coinbase, the
block hash and the header are unchanged, and the search for the block hash stops before the
branch. -/
theorem AuxPowData.WellFormed.expandingBlockchainBranch {H : HashFunctions} {chainType : String}
    {a : AuxPowData} (ha : a.WellFormed H chainType)
    (hbig : blockHashOf H chainType a.parentBlock = .ok a.blockHash) {p : List MerkleNode}
    (hp : p.length + a.blockchainBranch.branchs.length < 256) :
    (a.expandingBlockchainBranch p).WellFormed H chainType := by
  have hi := ha.bytesIndex_blockHash hbig
  rw [show a.toBytes = (a.coinbaseTxn ++ a.blockHash.bytes) ++ (a.coinbaseBranch.toBytes ++
    a.blockchainBranch.toBytes ++ a.parentBlock) by simp [AuxPowData.toBytes]] at hi
  refine ⟨ha.parentBlock_length, ha.coinbaseBranch_lt, ?_, a.blockHash, hbig, .inl ⟨rfl, ?_⟩⟩
  · simpa [AuxPowData.expandingBlockchainBranch] using hp
  · rw [expandingBlockchainBranch_toBytes, expandingBlockchainBranch_coinbaseTxn]
    exact bytesIndex_append_of_le hi (by simp [a.blockHash.length_eq])

/-! ## §2. The handler. -/

/-- An element of a JSON-RPC `params` as `encoding/json` decodes it into an `interface{}`: a
`string`, its bytes, or any other JSON value, its text, which the proxy passes on as it is. -/
inductive Param where
  | string (s : List UInt8)
  | other (json : List UInt8)
  deriving DecidableEq

/-- `chain.SubmitAuxBlock.Params`: a JSON-RPC 1.0 array, a 2.0 object, or another JSON value. -/
inductive SubmitParams where
  | array (elems : List Param)
  | object (fields : List (String × Param))
  | other (json : List UInt8)
  deriving DecidableEq

/-- `RPCSubmitAuxBlockInfo`. -/
structure RPCSubmitAuxBlockInfo where
  method : String
  params : SubmitParams

/-- `ChainRPCInfo`: the field a submission reads. -/
structure ChainRPCInfo where
  submitAuxBlock : RPCSubmitAuxBlockInfo

/-- `AuxPowInfo`, an aux chain's entry of a job (the type is not in the source): the aux block's
hash, its target, and the chain's path in the proxy's merkle tree. -/
structure AuxPowInfo where
  hash : Byte32
  target : Byte32
  blockchainBranch : List MerkleNode

/-- `AuxJob` (not in the source): the entries of its aux chains, in the order of `chains`. -/
structure AuxJob where
  auxPows : List AuxPowInfo

/-- What `submitAuxBlock` reads of a `ProxyRPCHandle`, with the calls it makes outside the
source. -/
structure ProxyRPCHandle where
  /-- `hash.Hash`, `Byte32.Reverse`, `Byte32.Hex` and `Scrypt`. -/
  H : HashFunctions
  /-- `config.MainChain`. -/
  mainChain : String
  /-- `auxJobMaker.chains`. -/
  chains : List ChainRPCInfo
  /-- `hash.MakeByte32FromHex`, with its error's text. -/
  makeByte32FromHex : List UInt8 → Except String Byte32
  /-- `auxJobMaker.FindAuxJob`, with its error's text. -/
  findAuxJob : Byte32 → Except String AuxJob
  /-- `Byte32.HexReverse`. -/
  hexReverse : Byte32 → List UInt8
  /-- The texts of `hex.DecodeString`'s errors. -/
  hexErrorText : HexError → String

/-- The arguments of a goroutine `submitAuxBlock` starts: the chain's index, a copy of the
miner's aux proof of work, and the chain's entry of the job. -/
structure Submission where
  index : ℕ
  auxPowData : AuxPowData
  extAuxPow : AuxPowInfo

/-- What `submitAuxBlock` leaves in the response. -/
inductive SubmitOutcome where
  /-- `response.Error = RPCError{code, message}`. -/
  | error (code : ℤ) (message : String)
  /-- `response.Result = true`, after the goroutines it started. -/
  | submitted (subs : List Submission)
  /-- A runtime panic in `ParseAuxPowData`: the HTTP server recovers it and answers nothing. -/
  | panic

/-- Go's `<=` on strings: character by character, a prefix before a longer string.  The strings
compared are hex digits, whose characters are their bytes. -/
def goStringLE : List Char → List Char → Bool
  | [], _ => true
  | _ :: _, [] => false
  | a :: as, b :: bs => if a.toNat = b.toNat then goStringLE as bs else a.toNat < b.toNat

/-- The loop over `job.AuxPows` from `index`: a goroutine for each aux chain whose target the
block hash reaches, their `Hex()` strings compared as Go compares strings. -/
def launchSubmissions (H : HashFunctions) (auxPowData : AuxPowData) :
    ℕ → List AuxPowInfo → List Submission
  | _, [] => []
  | index, extAuxPow :: rest =>
    if goStringLE (H.hex auxPowData.blockHash).toList (H.hex extAuxPow.target).toList then
      ⟨index, auxPowData, extAuxPow⟩ :: launchSubmissions H auxPowData (index + 1) rest
    else launchSubmissions H auxPowData (index + 1) rest

/-- `ProxyRPCHandle.submitAuxBlock(params, response)`. -/
def ProxyRPCHandle.submitAuxBlock (handle : ProxyRPCHandle) (params : List Param) :
    SubmitOutcome :=
  match params with
  | .string hashHex :: .string auxPowHex :: _ =>
    match parseAuxPowData handle.H auxPowHex handle.mainChain with
    | .error .indexOutOfRange => .panic
    | .error (.hex e) => .error 400 (handle.hexErrorText e)
    | .error (.msg text) => .error 400 text
    | .ok auxPowData =>
      match handle.makeByte32FromHex hashHex with
      | .error text => .error 400 text
      | .ok hashtmp =>
        match handle.findAuxJob (handle.H.reverse hashtmp) with
        | .error text => .error 400 text
        | .ok job =>
          let subs := launchSubmissions handle.H auxPowData 0 job.auxPows
          if subs.length < 1 then .error 400 "high-hash" else .submitted subs
  | .string _ :: .other _ :: _ => .error 400 "The param 2 should be a string"
  | .other _ :: _ :: _ => .error 400 "The param 1 should be a string"
  | _ => .error 400 "The number of params should be 2"

/-- Every goroutine the loop starts carries the miner's aux proof of work, for a chain whose
target its block hash reaches. -/
theorem mem_launchSubmissions {H : HashFunctions} {d : AuxPowData} {s : Submission} :
    ∀ {index : ℕ} {auxPows : List AuxPowInfo}, s ∈ launchSubmissions H d index auxPows →
      s.auxPowData = d ∧ goStringLE (H.hex d.blockHash).toList (H.hex s.extAuxPow.target).toList
  | _, [], hs => absurd hs (List.not_mem_nil _)
  | index, extAuxPow :: rest, hs => by
    rw [launchSubmissions] at hs
    split_ifs at hs with ht
    · rcases List.mem_cons.1 hs with rfl | hs
      · exact ⟨rfl, ht⟩
      · exact mem_launchSubmissions hs
    · exact mem_launchSubmissions hs

/-- The handler answers `true` only when both params are strings, the aux proof of work parses,
the job of the hash is found, and the loop starts a goroutine. -/
theorem submitAuxBlock_eq_submitted {handle : ProxyRPCHandle} {params : List Param}
    {subs : List Submission} (h : handle.submitAuxBlock params = .submitted subs) :
    ∃ hashHex auxPowHex rest d hashtmp job,
      params = .string hashHex :: .string auxPowHex :: rest ∧
      parseAuxPowData handle.H auxPowHex handle.mainChain = .ok d ∧
      handle.makeByte32FromHex hashHex = .ok hashtmp ∧
      handle.findAuxJob (handle.H.reverse hashtmp) = .ok job ∧
      launchSubmissions handle.H d 0 job.auxPows = subs ∧ subs ≠ [] := by
  match params, h with
  | .string hashHex :: .string auxPowHex :: rest, h =>
    simp only [ProxyRPCHandle.submitAuxBlock] at h
    split at h <;> try cases h
    rename_i d hd
    split at h <;> try cases h
    rename_i hashtmp hhash
    split at h <;> try cases h
    rename_i job hjob
    split_ifs at h with hlen
    cases h
    exact ⟨hashHex, auxPowHex, rest, d, hashtmp, job, rfl, hd, hhash, hjob, rfl,
      fun hnil => hlen (by simp [hnil])⟩
  | [], h | [_], h | .string _ :: .other _ :: _, h | .other _ :: _ :: _, h =>
    simp [ProxyRPCHandle.submitAuxBlock] at h

/-! ## §3. What a goroutine sends. -/

/-- The bytes of a string literal of ASCII text. -/
def asciiBytes (s : String) : List UInt8 := s.toList.map fun c => UInt8.ofNat c.toNat

/-- The tag replaced by the aux block's hash. -/
def hashHexTag : List UInt8 := asciiBytes "{hash-hex}"

/-- The tag replaced by the aux proof of work. -/
def auxPowHexTag : List UInt8 := asciiBytes "{aux-pow-hex}"

/-- The two `strings.Replace` calls on a string parameter; other values are left as they are. -/
def fillParam (hashHex auxPowHex : List UInt8) : Param → Param
  | .string str => .string (replaceAll auxPowHexTag auxPowHex (replaceAll hashHexTag hashHex str))
  | .other json => .other json

/-- The loops over a JSON-RPC 1.0 array or a 2.0 object; another value is sent as it is. -/
def fillSubmitParams (hashHex auxPowHex : List UInt8) : SubmitParams → SubmitParams
  | .array elems => .array (elems.map (fillParam hashHex auxPowHex))
  | .object fields => .object (fields.map fun kv => (kv.1, fillParam hashHex auxPowHex kv.2))
  | .other json => .other json

/-- The request a goroutine sends: `chains[index]`'s method, and its params with the tags
replaced by the aux block's hash and the expanded aux proof of work; `none` where
`chains[index]` is out of range and the goroutine panics. -/
def ProxyRPCHandle.submitRequest (handle : ProxyRPCHandle) (s : Submission) :
    Option (String × SubmitParams) :=
  handle.chains[s.index]?.map fun chain =>
    (chain.submitAuxBlock.method,
      fillSubmitParams (handle.hexReverse s.extAuxPow.hash)
        (s.auxPowData.expandingBlockchainBranch s.extAuxPow.blockchainBranch).toHex
        chain.submitAuxBlock.params)

/-- The tag parameters `["{hash-hex}", "{aux-pow-hex}"]` become the two values, when the hash's
hex holds no `{`. -/
theorem fillSubmitParams_tags {hashHex : List UInt8} (auxPowHex : List UInt8)
    (hh : 123 ∉ hashHex) :
    fillSubmitParams hashHex auxPowHex (.array [.string hashHexTag, .string auxPowHexTag]) =
      .array [.string hashHex, .string auxPowHex] := by
  have htag : replaceAll hashHexTag hashHex auxPowHexTag = auxPowHexTag := by
    rw [show auxPowHexTag = 123 :: asciiBytes "aux-pow-hex\x7d" by decide, replaceAll,
      dif_neg (by decide), replaceAll_of_not_mem (c := 123) (by decide) (by decide)]
  simp only [fillSubmitParams, List.map, fillParam, htag,
    replaceAll_self _ (show hashHexTag ≠ [] by decide),
    replaceAll_self _ (show auxPowHexTag ≠ [] by decide),
    replaceAll_of_not_mem (show auxPowHexTag.head? = some 123 by decide) hh]

/-! ## §4. A submitted block reaches each chain as an aux proof of work it can parse. -/

/-- **A submitted block reaches each chain as an aux proof of work the chain can parse.**  If
`submitAuxBlock` answers `true`, the request held the block hash and an aux proof of work that
`ParseAuxPowData` accepted as `d`, and the handler started at least one goroutine, each for an
aux chain whose target `d`'s block hash reaches.  A chain configured with the parameters
`["{hash-hex}", "{aux-pow-hex}"]` is sent the aux block's hash and the hex of `d` with the
chain's path in front, and `ParseAuxPowData` reads that hex back as exactly this aux proof of
work, whenever `d`'s block hash is the big-endian one the parser computes, the expanded branch
fits its size byte, and the hex of the aux block's hash holds no `{`. -/
theorem submitAuxBlock_request {handle : ProxyRPCHandle} {params : List Param}
    {subs : List Submission} (h : handle.submitAuxBlock params = .submitted subs) :
    ∃ hashHex auxPowHex rest d, params = .string hashHex :: .string auxPowHex :: rest ∧
      parseAuxPowData handle.H auxPowHex handle.mainChain = .ok d ∧ subs ≠ [] ∧
      ∀ s ∈ subs, s.auxPowData = d ∧
        goStringLE (handle.H.hex d.blockHash).toList (handle.H.hex s.extAuxPow.target).toList ∧
        ∀ chain, handle.chains[s.index]? = some chain →
          chain.submitAuxBlock.params = .array [.string hashHexTag, .string auxPowHexTag] →
          blockHashOf handle.H handle.mainChain d.parentBlock = .ok d.blockHash →
          s.extAuxPow.blockchainBranch.length + d.blockchainBranch.branchs.length < 256 →
          123 ∉ handle.hexReverse s.extAuxPow.hash →
          handle.submitRequest s = some (chain.submitAuxBlock.method,
            .array [.string (handle.hexReverse s.extAuxPow.hash),
              .string (d.expandingBlockchainBranch s.extAuxPow.blockchainBranch).toHex]) ∧
          parseAuxPowData handle.H (d.expandingBlockchainBranch s.extAuxPow.blockchainBranch).toHex
            handle.mainChain = .ok (d.expandingBlockchainBranch s.extAuxPow.blockchainBranch) := by
  obtain ⟨hashHex, auxPowHex, rest, d, _, _, rfl, hd, -, -, rfl, hne⟩ :=
    submitAuxBlock_eq_submitted h
  have hwf := (wellFormed_of_parseAuxPowData hd).1
  refine ⟨hashHex, auxPowHex, rest, d, rfl, hd, hne, fun s hs => ?_⟩
  obtain ⟨rfl, ht⟩ := mem_launchSubmissions hs
  refine ⟨rfl, ht, fun chain hchain htags hbig hfit hhex => ⟨?_,
    parseAuxPowData_toHex (hwf.expandingBlockchainBranch hbig hfit)⟩⟩
  rw [ProxyRPCHandle.submitRequest, hchain, Option.map_some', htags, fillSubmitParams_tags _ hhex]

/-- A handler for examples: the hash package `headerPrefixHash`, one chain configured with the tag
parameters, and a job with one aux chain at the root of the proxy's tree. -/
def sampleHandle : ProxyRPCHandle where
  H := headerPrefixHash
  mainChain := "BTC"
  chains := [⟨⟨"submitauxblock", .array [.string hashHexTag, .string auxPowHexTag]⟩⟩]
  makeByte32FromHex _ := .ok (Byte32.copyFrom [])
  findAuxJob _ := .ok ⟨[⟨Byte32.copyFrom [], Byte32.copyFrom [], []⟩]⟩
  hexReverse _ := []
  hexErrorText _ := ""

set_option maxRecDepth 20000 in
theorem submitAuxBlock_request_sample : ∃ subs,
    sampleHandle.submitAuxBlock [.string [], .string (hexEncode auxPowSample)] = .submitted subs ∧
    ∃ hashHex auxPowHex rest d,
      [Param.string [], .string (hexEncode auxPowSample)] =
        .string hashHex :: .string auxPowHex :: rest ∧
      parseAuxPowData sampleHandle.H auxPowHex sampleHandle.mainChain = .ok d ∧ subs ≠ [] ∧
      ∀ s ∈ subs, s.auxPowData = d ∧
        goStringLE (sampleHandle.H.hex d.blockHash).toList
          (sampleHandle.H.hex s.extAuxPow.target).toList ∧
        ∀ chain, sampleHandle.chains[s.index]? = some chain →
          chain.submitAuxBlock.params = .array [.string hashHexTag, .string auxPowHexTag] →
          blockHashOf sampleHandle.H sampleHandle.mainChain d.parentBlock = .ok d.blockHash →
          s.extAuxPow.blockchainBranch.length + d.blockchainBranch.branchs.length < 256 →
          123 ∉ sampleHandle.hexReverse s.extAuxPow.hash →
          sampleHandle.submitRequest s = some (chain.submitAuxBlock.method,
            .array [.string (sampleHandle.hexReverse s.extAuxPow.hash),
              .string (d.expandingBlockchainBranch s.extAuxPow.blockchainBranch).toHex]) ∧
          parseAuxPowData sampleHandle.H
            (d.expandingBlockchainBranch s.extAuxPow.blockchainBranch).toHex
            sampleHandle.mainChain = .ok (d.expandingBlockchainBranch s.extAuxPow.blockchainBranch) :=
  have h : sampleHandle.submitAuxBlock [.string [], .string (hexEncode auxPowSample)] =
      .submitted _ := rfl
  ⟨_, h, submitAuxBlock_request h⟩

end BtcPoolModules.MergedMiningProxy
