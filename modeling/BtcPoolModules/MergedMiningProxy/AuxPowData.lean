/-
  BtcPoolModules.MergedMiningProxy.AuxPowData — the aux proof-of-work codec
  (`AuxPowData.go`): `ParseAuxPowData` reads a submitted aux proof of work from hex, `ToBytes`
  and `ToHex` write it back.

  `ParseAuxPowData` does not parse the parent coinbase transaction.  It hashes the last 80
  bytes (the parent block header), looks for that hash in the data, big-endian first and then
  reversed, and takes what precedes it as the transaction.  The hash functions (`hash.Hash`,
  `Scrypt`) and the `Byte32` methods it calls are not in the source: they are the fields of
  `HashFunctions`, so every result holds for any hash of the header.

  Main results:
    * `readMerkleBranch_spec` — a merkle branch read within the data is the bytes it was read
      from, as `ToBytes` writes them.
    * `toBytes_parseAuxPowData` — whatever `ParseAuxPowData(hex(b))` accepts, `ToBytes` gives
      `b` back and `ToHex` gives `hex(b)`.
    * `readMerkleBranch_eq_error_iff` — a merkle branch read fails only by a panic, exactly when
      its size byte lies past the end or claims more hashes than the data holds.
    * `parseAuxPowData_branch_count_overrun` — a block hash, a size byte `255` and the header
      make the parser slice past the end, for any hash functions and either chain type.
    * `wellFormed_of_parseAuxPowData`, `parseAuxPowData_toHex_iff` — what the parser accepts is
      well formed, and `ParseAuxPowData(ToHex(a))` gives `a` back exactly when `a` is well formed.
-/
import BtcPoolModules.GoLib.Encoding

namespace BtcPoolModules.MergedMiningProxy

open BtcPoolModules.GoLib

/-! ## §1. The data and what the parser calls. -/

/-- `hash.Byte32`: exactly 32 bytes. -/
structure Byte32 where
  bytes : List UInt8
  length_eq : bytes.length = 32
  deriving DecidableEq

/-- `copy(h[:], src)` into a zero `Byte32`. -/
def Byte32.copyFrom (src : List UInt8) : Byte32 := ⟨copyInto 32 src, copyInto_length 32 src⟩

/-- `AuxMerkleBranch`. -/
structure AuxMerkleBranch where
  branchs : List Byte32
  sideMask : UInt32
  deriving DecidableEq

/-- `AuxPowData`. -/
structure AuxPowData where
  coinbaseTxn : List UInt8
  blockHash : Byte32
  coinbaseBranch : AuxMerkleBranch
  blockchainBranch : AuxMerkleBranch
  parentBlock : List UInt8
  deriving DecidableEq

/-- What `ParseAuxPowData` calls outside the source: the `hash` package and `Scrypt`. -/
structure HashFunctions where
  /-- `hash.Hash`: the block hash of a header. -/
  hash : List UInt8 → Byte32
  /-- `Byte32.Reverse`. -/
  reverse : Byte32 → Byte32
  /-- `Byte32.Assign` on a zero hash. -/
  assign : List UInt8 → Byte32
  /-- `Byte32.Hex`. -/
  hex : Byte32 → String
  /-- `Scrypt`; `none` when it returns an error. -/
  scrypt : List UInt8 → Option (List UInt8)

/-- How `ParseAuxPowData` fails: the error it returns, or a runtime panic. -/
inductive ParseError where
  /-- The error of `hex.DecodeString`, returned as it is. -/
  | hex (e : HexError)
  /-- An `errors.New` of the parser. -/
  | msg (text : String)
  /-- An index or a slice past the end of the data: the Go runtime panics. -/
  | indexOutOfRange
  deriving DecidableEq

/-! ## §2. `ParseAuxPowData`. -/

/-- `data[index:]`. -/
def sliceAt (data : List UInt8) (index : ℕ) : Except ParseError (List UInt8) :=
  match sliceFrom data index with
  | some s => .ok s
  | none => .error .indexOutOfRange

/-- `data[index]`. -/
def byteAt (data : List UInt8) (index : ℕ) : Except ParseError UInt8 :=
  match data[index]? with
  | some b => .ok b
  | none => .error .indexOutOfRange

/-- The loop `for i := 0; i < n; i++ { copy(branchs[i][:], data[index:]); index += 32 }`. -/
def readBranchs (data : List UInt8) : ℕ → ℕ → Except ParseError (List Byte32 × ℕ)
  | 0, index => .ok ([], index)
  | n + 1, index => do
    let src ← sliceAt data index
    let r ← readBranchs data n (index + 32)
    pure (Byte32.copyFrom src :: r.1, r.2)

/-- One merkle branch from `index`: the size byte, the hashes, and the side mask copied into
four zero bytes.  The coinbase branch and the blockchain branch are read by the same code. -/
def readMerkleBranch (data : List UInt8) (index : ℕ) : Except ParseError (AuxMerkleBranch × ℕ) := do
  let size ← byteAt data index
  let r ← readBranchs data size.toNat (index + 1)
  let sideMask ← sliceAt data r.2
  pure (⟨r.1, leUint32 (copyInto 4 sideMask)⟩, r.2 + 4)

/-- The block hash of the parent header: `Scrypt` for `LTC`, else `hash.Hash` reversed to
big-endian. -/
def blockHashOf (H : HashFunctions) (chainType : String) (parentBlock : List UInt8) :
    Except ParseError Byte32 :=
  if chainType = "LTC" then
    match H.scrypt parentBlock with
    | some scryptKey => .ok (H.assign scryptKey)
    | none => .error (.msg "Scrypt parentBlock failed")
  else .ok (H.reverse (H.hash parentBlock))

/-- The bytes of a string of ASCII text, as Go prints it. -/
def asciiString (b : List UInt8) : String := String.mk (b.map fun x => Char.ofNat x.toNat)

/-- `bytes.Index` of the block hash, then of its reverse: the hash as found, and where. -/
def findBlockHash (H : HashFunctions) (data dataHex : List UInt8) (blockHash : Byte32) :
    Except ParseError (Byte32 × ℕ) :=
  match bytesIndex data blockHash.bytes with
  | some index => .ok (blockHash, index)
  | none =>
    match bytesIndex data (H.reverse blockHash).bytes with
    | some index => .ok (H.reverse blockHash, index)
    | none => .error (.msg ("cannot found blockHash " ++ H.hex (H.reverse blockHash) ++
        " from AuxPowData " ++ asciiString dataHex))

/-- `ParseAuxPowData(dataHex, chainType)`. -/
def parseAuxPowData (H : HashFunctions) (dataHex : List UInt8) (chainType : String) :
    Except ParseError AuxPowData := do
  let data ← (hexDecode dataHex).mapError .hex
  if data.length ≤ 80 then throw (.msg "AuxPowData should be more than 80 bytes") else
  let parentBlock := copyInto 80 (data.drop (data.length - 80))
  let blockHash ← blockHashOf H chainType parentBlock
  let found ← findBlockHash H data dataHex blockHash
  let coinbaseTxn := copyInto found.2 data
  let coinbase ← readMerkleBranch data (found.2 + 32)
  let blockchain ← readMerkleBranch data coinbase.2
  let extraDataLen : ℤ := data.length - blockchain.2 - 80
  if extraDataLen ≠ 0 then
    throw (.msg ("AuxPowData has unexpected data: " ++ toString extraDataLen ++
      " bytes between blockchainBranchSideMask and blockHeader"))
  else pure ⟨coinbaseTxn, found.1, coinbase.1, blockchain.1, parentBlock⟩

/-! ## §3. `ToBytes` and `ToHex`. -/

/-- A merkle branch as `ToBytes` writes it: `byte(len(branchs))`, the hashes, the side mask. -/
def AuxMerkleBranch.toBytes (b : AuxMerkleBranch) : List UInt8 :=
  UInt8.ofNat b.branchs.length :: (b.branchs.flatMap Byte32.bytes ++ lePutUint32 b.sideMask)

/-- `AuxPowData.ToBytes`. -/
def AuxPowData.toBytes (a : AuxPowData) : List UInt8 :=
  a.coinbaseTxn ++ a.blockHash.bytes ++ a.coinbaseBranch.toBytes ++ a.blockchainBranch.toBytes ++
    a.parentBlock

/-- `AuxPowData.ToHex`. -/
def AuxPowData.toHex (a : AuxPowData) : List UInt8 := hexEncode a.toBytes

/-! ## §4. What a successful parse read. -/

theorem bind_eq_ok {ε α β : Type} {x : Except ε α} {f : α → Except ε β} {b : β} :
    x >>= f = .ok b ↔ ∃ a, x = .ok a ∧ f a = .ok b := by
  cases x <;> simp [bind, Except.bind]

theorem sliceAt_ok {data s : List UInt8} {index : ℕ} (h : sliceAt data index = .ok s) :
    index ≤ data.length ∧ s = data.drop index := by
  unfold sliceAt sliceFrom at h
  split_ifs at h with hi
  cases h
  exact ⟨hi, rfl⟩

theorem byteAt_ok {data : List UInt8} {index : ℕ} {b : UInt8} (h : byteAt data index = .ok b) :
    data.drop index = b :: data.drop (index + 1) := by
  unfold byteAt at h
  split at h <;> cases h
  rename_i hb
  obtain ⟨hi, rfl⟩ := List.getElem?_eq_some_iff.1 hb
  exact List.drop_eq_getElem_cons hi

theorem readBranchs_spec {data : List UInt8} :
    ∀ {n index : ℕ} {bs : List Byte32} {index' : ℕ},
      readBranchs data n index = .ok (bs, index') →
      index' = index + 32 * n ∧ bs.length = n ∧
        (index' ≤ data.length → bs.flatMap Byte32.bytes ++ data.drop index' = data.drop index)
  | 0, index, bs, index', h => by
    cases h
    simp
  | n + 1, index, bs, index', h => by
    obtain ⟨src, hsrc, h⟩ := bind_eq_ok.1 h
    obtain ⟨⟨rest, j⟩, hrest, h⟩ := bind_eq_ok.1 h
    cases h
    obtain ⟨-, rfl⟩ := sliceAt_ok hsrc
    obtain ⟨rfl, hlen, hbytes⟩ := readBranchs_spec hrest
    refine ⟨by omega, by simp [hlen], fun hle => ?_⟩
    -- the hash just read is the next 32 bytes, all inside the data
    have hcopy : (Byte32.copyFrom (data.drop index)).bytes = (data.drop index).take 32 :=
      copyInto_of_le (by simp; omega)
    rw [List.flatMap_cons, hcopy, List.append_assoc, hbytes (by omega), ← List.drop_drop,
      List.take_append_drop]

theorem readMerkleBranch_spec {data : List UInt8} {index index' : ℕ} {br : AuxMerkleBranch}
    (h : readMerkleBranch data index = .ok (br, index')) :
    index + 5 ≤ index' ∧
      (index' ≤ data.length → br.toBytes ++ data.drop index' = data.drop index) := by
  obtain ⟨size, hsize, h⟩ := bind_eq_ok.1 h
  obtain ⟨⟨bs, m⟩, hbs, h⟩ := bind_eq_ok.1 h
  obtain ⟨s, hs, h⟩ := bind_eq_ok.1 h
  cases h
  obtain ⟨-, rfl⟩ := sliceAt_ok hs
  obtain ⟨hm, hlen, hbytes⟩ := readBranchs_spec hbs
  refine ⟨by dsimp only; omega, fun hle => ?_⟩
  dsimp only at hle ⊢
  -- the side mask is the next four bytes, all inside the data
  have hmask : lePutUint32 (leUint32 (copyInto 4 (data.drop m))) = (data.drop m).take 4 := by
    rw [copyInto_of_le (by simp; omega)]
    exact lePutUint32_leUint32 (by simp; omega)
  have hsize' : UInt8.ofNat bs.length = size :=
    UInt8.toNat.inj (by rw [hlen, toNat_uint8_ofNat, Nat.mod_eq_of_lt size.toNat_lt_size])
  rw [byteAt_ok hsize, ← hbytes (by omega), AuxMerkleBranch.toBytes, hsize', hmask,
    ← List.drop_drop 4 m data, List.cons_append, List.append_assoc, List.take_append_drop]

theorem findBlockHash_spec {H : HashFunctions} {data dataHex : List UInt8} {h₀ h : Byte32}
    {index : ℕ} (hf : findBlockHash H data dataHex h₀ = .ok (h, index)) :
    bytesIndex data h.bytes = some index := by
  unfold findBlockHash at hf
  split at hf
  · cases hf; assumption
  · split at hf <;> cases hf
    assumption

/-- **The codec gives back what it accepted.**  For any hash functions, any chain type and any
byte string `b`: if `ParseAuxPowData(hex(b))` returns an aux proof of work, `ToBytes` of it is
`b` and `ToHex` is `hex(b)`. -/
theorem toBytes_parseAuxPowData (H : HashFunctions) (chainType : String) (b : List UInt8)
    {a : AuxPowData} (h : parseAuxPowData H (hexEncode b) chainType = .ok a) :
    a.toBytes = b ∧ a.toHex = hexEncode b := by
  suffices hb : a.toBytes = b from ⟨hb, by rw [AuxPowData.toHex, hb]⟩
  obtain ⟨data, hdata, h⟩ := bind_eq_ok.1 h
  rw [hexDecode_hexEncode] at hdata
  cases hdata
  dsimp only at h
  split_ifs at h with hlong
  obtain ⟨h₀, -, h⟩ := bind_eq_ok.1 h
  obtain ⟨⟨bh, i⟩, hfound, h⟩ := bind_eq_ok.1 h
  obtain ⟨⟨cb, j⟩, hcb, h⟩ := bind_eq_ok.1 h
  obtain ⟨⟨bcb, k⟩, hbcb, h⟩ := bind_eq_ok.1 h
  dsimp only at h
  split_ifs at h with hextra
  cases h
  -- the layout: `b = coinbaseTxn ++ blockHash ++ coinbase branch ++ blockchain branch ++ header`
  dsimp only at hcb hbcb
  have hk : k + 80 = b.length := by push_neg at hextra; omega
  have hi := bytesIndex_drop (findBlockHash_spec hfound)
  rw [bh.length_eq] at hi
  have hi' : i + 32 ≤ b.length := by
    have := congrArg List.length hi
    simp only [List.length_drop, List.length_append, bh.length_eq] at this
    omega
  obtain ⟨hj, hcb⟩ := readMerkleBranch_spec hcb
  obtain ⟨hk', hbcb⟩ := readMerkleBranch_spec hbcb
  have hheader : copyInto 80 (b.drop (b.length - 80)) = b.drop k := by
    rw [copyInto_of_le (by simp; omega), ← hk, Nat.add_sub_cancel, List.take_of_length_le]
    simp only [List.length_drop]
    omega
  rw [AuxPowData.toBytes, copyInto_of_le (by omega), hheader, List.append_assoc, List.append_assoc,
    List.append_assoc, hbcb (by omega), hcb (by omega), ← hi, List.take_append_drop]

/-! ## §5. Where the parser panics. -/

theorem bind_eq_error {ε α β : Type} {x : Except ε α} {f : α → Except ε β} {e : ε} :
    x >>= f = .error e ↔ x = .error e ∨ ∃ a, x = .ok a ∧ f a = .error e := by
  cases x <;> simp [bind, Except.bind]

theorem sliceAt_eq_error {data : List UInt8} {index : ℕ} {e : ParseError} :
    sliceAt data index = .error e ↔ e = .indexOutOfRange ∧ data.length < index := by
  by_cases h : index ≤ data.length
  · simp [sliceAt, sliceFrom, h, eq_comm]
  · simp [sliceAt, sliceFrom, h, eq_comm]; omega

theorem byteAt_eq_error {data : List UInt8} {index : ℕ} {e : ParseError} :
    byteAt data index = .error e ↔ e = .indexOutOfRange ∧ data[index]? = none := by
  cases hb : data[index]? <;> simp [byteAt, hb, eq_comm]

/-- The hash loop fails only by a panic. -/
theorem readBranchs_error {data : List UInt8} :
    ∀ {n index : ℕ} {e : ParseError}, readBranchs data n index = .error e → e = .indexOutOfRange
  | 0, _, _, h => by cases h
  | n + 1, index, e, h => by
    rcases bind_eq_error.1 h with h | ⟨_, -, h⟩
    · exact (sliceAt_eq_error.1 h).1
    rcases bind_eq_error.1 h with h | ⟨_, -, h⟩
    · exact readBranchs_error h
    · cases h

/-- The hash loop reads all `n` hashes when each of its slices starts within the data. -/
theorem readBranchs_ok {data : List UInt8} :
    ∀ {n index : ℕ}, (∀ k < n, index + 32 * k ≤ data.length) →
      ∃ bs, readBranchs data n index = .ok (bs, index + 32 * n)
  | 0, index, _ => ⟨[], rfl⟩
  | n + 1, index, h => by
    obtain ⟨bs, hbs⟩ := @readBranchs_ok data n (index + 32) fun k hk => by
      have := h (k + 1) (by omega); omega
    refine ⟨Byte32.copyFrom (data.drop index) :: bs, ?_⟩
    simp only [readBranchs, sliceAt, sliceFrom, if_pos (show index ≤ data.length by simpa using h 0),
      hbs, bind, Except.bind, pure, Except.pure]
    rw [Nat.mul_succ, Nat.add_comm (32 * n), Nat.add_assoc]

/-- **A merkle branch read panics exactly when its size byte lies past the end, or claims more
hashes than the data holds** (the side mask's slice included); it fails in no other way. -/
theorem readMerkleBranch_eq_error_iff {data : List UInt8} {index : ℕ} {e : ParseError} :
    readMerkleBranch data index = .error e ↔ e = .indexOutOfRange ∧
      ∀ size, data[index]? = some size → data.length < index + 1 + 32 * size.toNat := by
  constructor
  · intro h
    refine ⟨?_, fun size hs => Nat.lt_of_not_le fun hle => ?_⟩
    · rcases bind_eq_error.1 h with h | ⟨_, -, h⟩
      · exact (byteAt_eq_error.1 h).1
      rcases bind_eq_error.1 h with h | ⟨_, -, h⟩
      · exact readBranchs_error h
      rcases bind_eq_error.1 h with h | ⟨_, -, h⟩
      · exact (sliceAt_eq_error.1 h).1
      · cases h
    · obtain ⟨bs, hbs⟩ := @readBranchs_ok data size.toNat (index + 1) fun k hk => by omega
      simp [readMerkleBranch, byteAt, hs, hbs, sliceAt, sliceFrom, hle, bind, Except.bind, pure,
        Except.pure] at h
  · rintro ⟨rfl, hlt⟩
    cases hb : data[index]? with
    | none => simp [readMerkleBranch, byteAt, hb, bind, Except.bind]
    | some size =>
      have hlt := hlt size hb
      cases hr : readBranchs data size.toNat (index + 1) with
      | error e => simp [readMerkleBranch, byteAt, hb, hr, readBranchs_error hr, bind, Except.bind]
      | ok r =>
        obtain ⟨hr2, -⟩ := readBranchs_spec hr
        have : ¬ r.2 ≤ data.length := by omega
        simp [readMerkleBranch, byteAt, hb, hr, sliceAt, sliceFrom, this, bind, Except.bind]

/-- **`ParseAuxPowData` slices past the end** when a branch's size byte claims more hashes than
follow it.  For any hash functions and either chain type, the block hash of an 80-byte header,
a coinbase-branch size of `255`, and the header, `113` bytes in all, pass the length check and
the search for the block hash; the loop over the `255` hashes then slices past the end, and the
Go runtime panics. -/
theorem parseAuxPowData_branch_count_overrun (H : HashFunctions) (chainType : String)
    {header : List UInt8} (hlen : header.length = 80) {blockHash : Byte32}
    (hb : blockHashOf H chainType header = .ok blockHash) :
    parseAuxPowData H (hexEncode (blockHash.bytes ++ 0xFF :: header)) chainType =
      .error .indexOutOfRange := by
  have hne : blockHash.bytes ≠ [] := List.ne_nil_of_length_pos (by rw [blockHash.length_eq]; omega)
  have hparent : copyInto 80 ((blockHash.bytes ++ 0xFF :: header).drop 33) = header := by
    rw [List.drop_append_eq_append_drop, List.drop_of_length_le (by rw [blockHash.length_eq]; omega),
      blockHash.length_eq, List.nil_append, show 33 - 32 = 1 from rfl, List.drop_one, List.tail_cons,
      copyInto_of_le hlen.ge, List.take_of_length_le hlen.le]
  have hsize : (blockHash.bytes ++ 0xFF :: header)[32]? = some 0xFF := by
    rw [List.getElem?_append_right (by rw [blockHash.length_eq]), blockHash.length_eq, Nat.sub_self,
      List.getElem?_cons_zero]
  have hbranch : readMerkleBranch (blockHash.bytes ++ 0xFF :: header) 32 = .error .indexOutOfRange :=
    readMerkleBranch_eq_error_iff.2 ⟨rfl, fun size hs => by
      obtain rfl := Option.some.inj (hs.symm.trans hsize)
      simp [blockHash.length_eq, hlen]⟩
  simp [parseAuxPowData, hexDecode_hexEncode, Except.mapError, bind, Except.bind, hparent, hb,
    findBlockHash, bytesIndex_append_self hne, hbranch, blockHash.length_eq, hlen]

/-! ## §6. Parsing what `ToBytes` writes. -/

theorem Byte32.copyFrom_append (b : Byte32) (rest : List UInt8) :
    Byte32.copyFrom (b.bytes ++ rest) = b := by
  obtain ⟨bytes, hb⟩ := b
  simp only [Byte32.copyFrom, Byte32.mk.injEq]
  rw [copyInto_of_le (by simp [hb]), List.take_left' hb]

@[simp] theorem flatMap_bytes_length (bs : List Byte32) :
    (bs.flatMap Byte32.bytes).length = 32 * bs.length := by
  induction bs with
  | nil => rfl
  | cons b bs ih =>
    rw [List.flatMap_cons, List.length_append, ih, b.length_eq, List.length_cons, Nat.mul_succ,
      Nat.add_comm]

@[simp] theorem AuxMerkleBranch.toBytes_length (br : AuxMerkleBranch) :
    br.toBytes.length = 32 * br.branchs.length + 5 := by
  simp only [AuxMerkleBranch.toBytes, List.length_cons, List.length_append, flatMap_bytes_length,
    lePutUint32, List.length_map]
  rfl

theorem readBranchs_flatMap (pre rest : List UInt8) (bs : List Byte32) :
    readBranchs (pre ++ (bs.flatMap Byte32.bytes ++ rest)) bs.length pre.length =
      .ok (bs, pre.length + 32 * bs.length) := by
  induction bs generalizing pre with
  | nil => rfl
  | cons b bs ih =>
    have h := ih (pre ++ b.bytes)
    rw [List.length_append, b.length_eq, List.append_assoc] at h
    have hs : sliceAt (pre ++ ((b :: bs).flatMap Byte32.bytes ++ rest)) pre.length =
        .ok (b.bytes ++ (bs.flatMap Byte32.bytes ++ rest)) := by
      rw [sliceAt, sliceFrom, if_pos (by simp), List.drop_left, List.flatMap_cons, List.append_assoc]
    rw [List.length_cons, readBranchs, hs, List.flatMap_cons, List.append_assoc]
    simp only [bind, Except.bind, h, pure, Except.pure, Byte32.copyFrom_append]
    rw [Nat.mul_succ, Nat.add_right_comm, Nat.add_assoc]

theorem readMerkleBranch_toBytes (pre rest : List UInt8) {br : AuxMerkleBranch}
    (h : br.branchs.length < 256) :
    readMerkleBranch (pre ++ (br.toBytes ++ rest)) pre.length =
      .ok (br, pre.length + br.toBytes.length) := by
  -- the size byte, the hashes, and the side mask with what follows it
  have hdata : pre ++ (br.toBytes ++ rest) = pre ++ (UInt8.ofNat br.branchs.length ::
      (br.branchs.flatMap Byte32.bytes ++ (lePutUint32 br.sideMask ++ rest))) := by
    simp [AuxMerkleBranch.toBytes]
  have hbs := readBranchs_flatMap (pre ++ [UInt8.ofNat br.branchs.length])
    (lePutUint32 br.sideMask ++ rest) br.branchs
  simp only [List.length_append, List.length_singleton, List.append_assoc,
    List.singleton_append] at hbs
  have hmask : sliceAt (pre ++ (UInt8.ofNat br.branchs.length ::
      (br.branchs.flatMap Byte32.bytes ++ (lePutUint32 br.sideMask ++ rest))))
      (pre.length + 1 + 32 * br.branchs.length) = .ok (lePutUint32 br.sideMask ++ rest) := by
    have hlen : (pre ++ UInt8.ofNat br.branchs.length :: br.branchs.flatMap Byte32.bytes).length =
        pre.length + 1 + 32 * br.branchs.length := by
      simp only [List.length_append, List.length_cons, flatMap_bytes_length]
      omega
    rw [show pre ++ (UInt8.ofNat br.branchs.length :: (br.branchs.flatMap Byte32.bytes ++
        (lePutUint32 br.sideMask ++ rest))) = (pre ++ UInt8.ofNat br.branchs.length ::
        br.branchs.flatMap Byte32.bytes) ++ (lePutUint32 br.sideMask ++ rest) by simp,
      sliceAt, sliceFrom, if_pos (by rw [List.length_append]; omega), List.drop_left' hlen]
  have hcopy : copyInto 4 (lePutUint32 br.sideMask ++ rest) = lePutUint32 br.sideMask := by
    rw [copyInto_of_le (by simp [lePutUint32]), List.take_left' (by simp [lePutUint32])]
  rw [hdata, readMerkleBranch, byteAt, List.getElem?_append_right (Nat.le_refl _), Nat.sub_self,
    List.getElem?_cons_zero]
  simp only [bind, Except.bind, toNat_uint8_ofNat, Nat.mod_eq_of_lt h, hbs, hmask, hcopy,
    leUint32_lePutUint32, pure, Except.pure, AuxMerkleBranch.toBytes_length]
  exact congrArg (fun i => Except.ok (br, i)) (by omega)

theorem findBlockHash_eq_ok {H : HashFunctions} {data dataHex : List UInt8} {h b : Byte32}
    {i : ℕ} : findBlockHash H data dataHex h = .ok (b, i) ↔
      (b = h ∧ bytesIndex data h.bytes = some i) ∨
      (b = H.reverse h ∧ bytesIndex data h.bytes = none ∧
        bytesIndex data (H.reverse h).bytes = some i) := by
  unfold findBlockHash
  cases h₁ : bytesIndex data h.bytes <;> cases h₂ : bytesIndex data (H.reverse h).bytes <;>
    simp [eq_comm]


theorem readMerkleBranch_length_lt {data : List UInt8} {index j : ℕ} {br : AuxMerkleBranch}
    (h : readMerkleBranch data index = .ok (br, j)) : br.branchs.length < 256 := by
  obtain ⟨size, -, h⟩ := bind_eq_ok.1 h
  obtain ⟨⟨bs, m⟩, hbs, h⟩ := bind_eq_ok.1 h
  obtain ⟨s, -, h⟩ := bind_eq_ok.1 h
  cases h
  rw [(readBranchs_spec hbs).2.1]
  exact size.toNat_lt_size

/-- An aux proof of work that `ParseAuxPowData` reads back from its own bytes: an 80-byte
header, branch counts that fit their size byte, and a block hash that the parser's search,
big-endian first and then reversed, first finds where the coinbase transaction ends. -/
structure AuxPowData.WellFormed (H : HashFunctions) (chainType : String) (a : AuxPowData) :
    Prop where
  parentBlock_length : a.parentBlock.length = 80
  coinbaseBranch_lt : a.coinbaseBranch.branchs.length < 256
  blockchainBranch_lt : a.blockchainBranch.branchs.length < 256
  found : ∃ h, blockHashOf H chainType a.parentBlock = .ok h ∧
    ((a.blockHash = h ∧ bytesIndex a.toBytes h.bytes = some a.coinbaseTxn.length) ∨
      (a.blockHash = H.reverse h ∧ bytesIndex a.toBytes h.bytes = none ∧
        bytesIndex a.toBytes (H.reverse h).bytes = some a.coinbaseTxn.length))

theorem parseAuxPowData_toHex {H : HashFunctions} {chainType : String} {a : AuxPowData}
    (ha : a.WellFormed H chainType) : parseAuxPowData H a.toHex chainType = .ok a := by
  obtain ⟨hp, hcb, hbb, h, hh, hfound⟩ := ha
  have hread₁ := readMerkleBranch_toBytes (a.coinbaseTxn ++ a.blockHash.bytes)
    (a.blockchainBranch.toBytes ++ a.parentBlock) hcb
  have hread₂ := readMerkleBranch_toBytes (a.coinbaseTxn ++ a.blockHash.bytes ++
    a.coinbaseBranch.toBytes) a.parentBlock hbb
  rw [show a.coinbaseTxn ++ a.blockHash.bytes ++ (a.coinbaseBranch.toBytes ++
      (a.blockchainBranch.toBytes ++ a.parentBlock)) = a.toBytes by simp [AuxPowData.toBytes],
    List.length_append, a.blockHash.length_eq] at hread₁
  rw [show a.coinbaseTxn ++ a.blockHash.bytes ++ a.coinbaseBranch.toBytes ++
      (a.blockchainBranch.toBytes ++ a.parentBlock) = a.toBytes by simp [AuxPowData.toBytes],
    List.length_append, List.length_append, a.blockHash.length_eq] at hread₂
  have hparent : copyInto 80 (a.toBytes.drop (a.toBytes.length - 80)) = a.parentBlock := by
    rw [AuxPowData.toBytes, List.length_append, hp, Nat.add_sub_cancel, List.drop_left,
      copyInto_of_le hp.ge, List.take_of_length_le hp.le]
  have hcoin : copyInto a.coinbaseTxn.length a.toBytes = a.coinbaseTxn := by
    rw [copyInto_of_le (by simp [AuxPowData.toBytes]), AuxPowData.toBytes]
    simp
  have hlen : a.toBytes.length = a.coinbaseTxn.length + 32 + a.coinbaseBranch.toBytes.length +
      a.blockchainBranch.toBytes.length + 80 := by
    simp only [AuxPowData.toBytes, List.length_append, a.blockHash.length_eq, hp]
  simp only [parseAuxPowData, AuxPowData.toHex, hexDecode_hexEncode, Except.mapError, bind,
    Except.bind, if_neg (show ¬ a.toBytes.length ≤ 80 by omega), hparent, hh,
    findBlockHash_eq_ok.2 hfound, hcoin, hread₁, hread₂, pure, Except.pure]
  rw [if_neg (by omega)]

/-- **What the parser accepts is well formed**, and `ToBytes` gives back the bytes it decoded. -/
theorem wellFormed_of_parseAuxPowData {H : HashFunctions} {chainType : String}
    {dataHex : List UInt8} {a : AuxPowData} (h : parseAuxPowData H dataHex chainType = .ok a) :
    a.WellFormed H chainType ∧ hexDecode dataHex = .ok a.toBytes := by
  obtain ⟨data, hdata, h⟩ := bind_eq_ok.1 h
  have hdec : hexDecode dataHex = .ok data := by
    cases hd : hexDecode dataHex <;> rw [hd] at hdata <;> cases hdata; rfl
  dsimp only at h
  split_ifs at h with hlong
  obtain ⟨h₀, hh₀, h⟩ := bind_eq_ok.1 h
  obtain ⟨⟨bh, i⟩, hfound, h⟩ := bind_eq_ok.1 h
  obtain ⟨⟨cb, j⟩, hcb, h⟩ := bind_eq_ok.1 h
  obtain ⟨⟨bcb, k⟩, hbcb, h⟩ := bind_eq_ok.1 h
  dsimp only at h
  split_ifs at h with hextra
  cases h
  dsimp only at hcb hbcb
  have hk : k + 80 = data.length := by push_neg at hextra; omega
  have hi := bytesIndex_drop (findBlockHash_spec hfound)
  rw [bh.length_eq] at hi
  have hi' : i + 32 ≤ data.length := by
    have := congrArg List.length hi
    simp only [List.length_drop, List.length_append, bh.length_eq] at this
    omega
  obtain ⟨hj, hcb'⟩ := readMerkleBranch_spec hcb
  obtain ⟨hk', hbcb'⟩ := readMerkleBranch_spec hbcb
  have hheader : copyInto 80 (data.drop (data.length - 80)) = data.drop k := by
    rw [copyInto_of_le (by simp; omega), ← hk, Nat.add_sub_cancel, List.take_of_length_le]
    simp only [List.length_drop]
    omega
  -- the bytes are `coinbaseTxn ++ blockHash ++ coinbase branch ++ blockchain branch ++ header`
  have hbytes : (AuxPowData.mk (copyInto i data) bh cb bcb
      (copyInto 80 (data.drop (data.length - 80)))).toBytes = data := by
    rw [AuxPowData.toBytes, copyInto_of_le (by omega), hheader, List.append_assoc,
      List.append_assoc, List.append_assoc, hbcb' (by omega), hcb' (by omega), ← hi,
      List.take_append_drop]
  refine ⟨⟨copyInto_length _ _, readMerkleBranch_length_lt hcb, readMerkleBranch_length_lt hbcb,
    h₀, hh₀, ?_⟩, by rw [hbytes]; exact hdec⟩
  rw [hbytes, copyInto_length]
  exact findBlockHash_eq_ok.1 hfound

/-- **`ToHex` and `ParseAuxPowData` are inverse on well-formed data.**  For any hash functions
and chain type, `ParseAuxPowData(ToHex(a))` returns `a` exactly when `a` is well formed: an
80-byte header, fewer than 256 hashes in each branch, and a block hash that the parser's search
first finds where the coinbase transaction ends.  And whatever input the parser accepts, the
aux proof of work it returns is well formed, and `ToBytes` gives back the bytes it decoded. -/
theorem parseAuxPowData_toHex_iff (H : HashFunctions) (chainType : String) :
    (∀ a : AuxPowData, parseAuxPowData H a.toHex chainType = .ok a ↔ a.WellFormed H chainType) ∧
    ∀ (dataHex : List UInt8) (a : AuxPowData), parseAuxPowData H dataHex chainType = .ok a →
      a.WellFormed H chainType ∧ hexDecode dataHex = .ok a.toBytes :=
  ⟨fun _ => ⟨fun h => (wellFormed_of_parseAuxPowData h).1, parseAuxPowData_toHex⟩,
    fun _ _ => wellFormed_of_parseAuxPowData⟩


/-- A hash package for examples: the block hash of a header is its first 32 bytes. -/
def headerPrefixHash : HashFunctions where
  hash header := Byte32.copyFrom header
  reverse h := ⟨h.bytes.reverse, by rw [List.length_reverse, h.length_eq]⟩
  assign key := Byte32.copyFrom key
  hex _ := ""
  scrypt _ := none

/-- An aux proof of work under `headerPrefixHash`: a 3-byte coinbase, the header's hash
big-endian, a coinbase branch of one hash with side mask 1, an empty blockchain branch, and
the header `0, 1, …, 79`. -/
def auxPowSample : List UInt8 :=
  [1, 2, 3] ++ ((List.range 32).reverse.map UInt8.ofNat) ++ [1] ++ List.replicate 32 7 ++
    [1, 0, 0, 0] ++ [0] ++ [0, 0, 0, 0] ++ (List.range 80).map UInt8.ofNat

set_option maxRecDepth 20000 in
theorem toBytes_parseAuxPowData_sample :
    ∃ a, parseAuxPowData headerPrefixHash (hexEncode auxPowSample) "BTC" = .ok a ∧
      a.toBytes = auxPowSample ∧ a.toHex = hexEncode auxPowSample :=
  ⟨_, rfl, toBytes_parseAuxPowData headerPrefixHash "BTC" auxPowSample rfl⟩

theorem parseAuxPowData_branch_count_overrun_zero_header :
    (List.replicate 80 (0 : UInt8)).length = 80 ∧
    blockHashOf headerPrefixHash "BTC" (List.replicate 80 0) =
      .ok (headerPrefixHash.reverse (headerPrefixHash.hash (List.replicate 80 0))) ∧
    parseAuxPowData headerPrefixHash
      (hexEncode ((headerPrefixHash.reverse (headerPrefixHash.hash (List.replicate 80 0))).bytes ++
        0xFF :: List.replicate 80 0)) "BTC" = .error .indexOutOfRange :=
  ⟨rfl, rfl, parseAuxPowData_branch_count_overrun headerPrefixHash "BTC" (by rfl) (by rfl)⟩

end BtcPoolModules.MergedMiningProxy
