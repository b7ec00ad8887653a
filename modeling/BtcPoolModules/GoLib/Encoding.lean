/-
  BtcPoolModules.GoLib.Encoding — the parts of Go's standard library the aux proof-of-work
  codec of `mergedMiningProxy` runs on: `encoding/hex`, `binary.LittleEndian`, `bytes.Index`,
  slicing, the built-in `copy` into a zeroed array, and `strings.Replace`.

  A byte string is a list of bytes, and a Go `string` is its bytes.  Where Go panics
  (a slice past the end) the model returns `none`.

  Main results:
    * `hexDecode_hexEncode` — `hex.DecodeString` undoes `hex.EncodeToString`.
    * `lePutUint32_leUint32` — `PutUint32` writes back the four bytes `Uint32` read.
    * `bytesIndex_drop` — where `bytes.Index` finds `sep`, the input goes on with `sep`.
    * `bytesIndex_append_of_le` — `bytes.Index` does not look past the first occurrence.
    * `replaceAll_self`, `replaceAll_of_not_mem` — `strings.Replace` on the placeholder itself,
      and on a string that cannot hold it.
-/
import Mathlib.Data.List.Basic
import Mathlib.Algebra.Group.Int

namespace BtcPoolModules.GoLib

/-! ## §1. `encoding/hex`. -/

/-- `hextable`: the ASCII codes of `0123456789abcdef`. -/
def hextable : List UInt8 := [48, 49, 50, 51, 52, 53, 54, 55, 56, 57, 97, 98, 99, 100, 101, 102]

/-- `hex.EncodeToString`: each byte as two lower-case digits, high nibble first. -/
def hexEncode (src : List UInt8) : List UInt8 :=
  src.flatMap fun v => [hextable.getD (v >>> 4).toNat 0, hextable.getD (v &&& 0x0f).toNat 0]

/-- `fromHexChar`: the value of one digit, `0-9`, `a-f` or `A-F`. -/
def fromHexChar (c : UInt8) : Option UInt8 :=
  if 48 ≤ c ∧ c ≤ 57 then some (c - 48)
  else if 97 ≤ c ∧ c ≤ 102 then some (c - 97 + 10)
  else if 65 ≤ c ∧ c ≤ 70 then some (c - 65 + 10)
  else none

/-- The errors of `hex.Decode`. -/
inductive HexError where
  /-- `InvalidByteError`: a byte that is not a digit. -/
  | invalidByte (b : UInt8)
  /-- `ErrLength`: an odd number of digits. -/
  | length
  deriving DecidableEq, Repr

/-- `hex.DecodeString`: the digit pairs in order; a bad digit is reported before an odd
length. -/
def hexDecode : List UInt8 → Except HexError (List UInt8)
  | [] => .ok []
  | [p] => if (fromHexChar p).isSome then .error .length else .error (.invalidByte p)
  | p :: q :: rest =>
    match fromHexChar p, fromHexChar q with
    | some a, some b => (hexDecode rest).map fun out => ((a <<< 4) ||| b) :: out
    | none, _ => .error (.invalidByte p)
    | some _, none => .error (.invalidByte q)

theorem fromHexChar_digit : ∀ i : Fin 16, fromHexChar (hextable.getD i 0) = some (UInt8.ofNat i) := by
  decide

set_option maxRecDepth 8000 in
/-- A byte splits into its two nibbles. -/
theorem nibbles_of_byte : ∀ n : Fin 256, (fun v : UInt8 => (v >>> 4).toNat < 16 ∧
    (v &&& 0x0f).toNat < 16 ∧ (v >>> 4) <<< 4 ||| (v &&& 0x0f) = v) (UInt8.ofNat n) := by
  decide

theorem uint8_ofNat_toNat (v : UInt8) : UInt8.ofNat v.toNat = v :=
  UInt8.toNat.inj (UInt8.toNat_ofNat_of_lt v.toNat_lt_size)

/-- A byte's two digits read back as its nibbles, and the nibbles make the byte again. -/
theorem fromHexChar_hextable (v : UInt8) :
    fromHexChar (hextable.getD (v >>> 4).toNat 0) = some (v >>> 4) ∧
    fromHexChar (hextable.getD (v &&& 0x0f).toNat 0) = some (v &&& 0x0f) ∧
    (v >>> 4) <<< 4 ||| (v &&& 0x0f) = v := by
  obtain ⟨hhi, hlo, hv⟩ := uint8_ofNat_toNat v ▸ nibbles_of_byte ⟨v.toNat, v.toNat_lt_size⟩
  have hhi' := fromHexChar_digit ⟨_, hhi⟩
  have hlo' := fromHexChar_digit ⟨_, hlo⟩
  rw [Fin.val_mk, uint8_ofNat_toNat] at hhi' hlo'
  exact ⟨hhi', hlo', hv⟩

theorem hexDecode_hexEncode (b : List UInt8) : hexDecode (hexEncode b) = .ok b := by
  induction b with
  | nil => rfl
  | cons v rest ih =>
    obtain ⟨hhi, hlo, hv⟩ := fromHexChar_hextable v
    simp only [hexEncode, List.flatMap_cons, List.cons_append, List.nil_append] at ih ⊢
    rw [hexDecode, hhi, hlo, ih]
    exact congrArg (fun x => Except.ok (x :: rest)) hv

/-! ## §2. `binary.LittleEndian` on four bytes. -/

/-- `binary.LittleEndian.Uint32`: the bytes as base-256 digits, least significant first. -/
def leUint32 (b : List UInt8) : UInt32 :=
  UInt32.ofNat (b.foldr (fun x acc => x.toNat + 256 * acc) 0)

/-- `binary.LittleEndian.PutUint32`: `byte(v)`, `byte(v >> 8)`, `byte(v >> 16)`,
`byte(v >> 24)`. -/
def lePutUint32 (v : UInt32) : List UInt8 :=
  [0, 8, 16, 24].map fun k => UInt8.ofNat (v.toNat >>> k)

theorem toNat_uint8_ofNat (n : ℕ) : (UInt8.ofNat n).toNat = n % 256 := rfl

theorem toNat_uint32_ofNat (n : ℕ) : (UInt32.ofNat n).toNat = n % 2 ^ 32 := rfl

theorem leUint32_lePutUint32 (v : UInt32) : leUint32 (lePutUint32 v) = v := by
  apply UInt32.toNat.inj
  have hv : v.toNat < 4294967296 := v.toNat_lt_size
  simp only [leUint32, lePutUint32, List.map, List.foldr, toNat_uint32_ofNat, toNat_uint8_ofNat,
    Nat.shiftRight_eq_div_pow, Nat.reducePow]
  omega

theorem lePutUint32_leUint32 {b : List UInt8} (h : b.length = 4) : lePutUint32 (leUint32 b) = b := by
  match b, h with
  | [b₀, b₁, b₂, b₃], _ =>
    have h₀ := b₀.toNat_lt_size
    have h₁ := b₁.toNat_lt_size
    have h₂ := b₂.toNat_lt_size
    have h₃ := b₃.toNat_lt_size
    simp only [UInt8.size] at h₀ h₁ h₂ h₃
    simp only [lePutUint32, leUint32, List.foldr, List.map, List.cons.injEq, and_true,
      toNat_uint32_ofNat, Nat.shiftRight_eq_div_pow]
    refine ⟨?_, ?_, ?_, ?_⟩ <;> apply UInt8.toNat.inj <;> simp only [toNat_uint8_ofNat] <;> omega

/-! ## §3. Slices, `copy`, `bytes.Index`. -/

/-- `s[i:]`; `none` where Go panics, past the end. -/
def sliceFrom (s : List UInt8) (i : ℕ) : Option (List UInt8) :=
  if i ≤ s.length then some (s.drop i) else none

/-- `copy(dst, src)` into a new zeroed `dst` of length `n`: the first bytes of `src`, then the
zeros `src` was too short to overwrite. -/
def copyInto (n : ℕ) (src : List UInt8) : List UInt8 :=
  src.take n ++ List.replicate (n - src.length) 0

@[simp] theorem copyInto_length (n : ℕ) (src : List UInt8) : (copyInto n src).length = n := by
  simp only [copyInto, List.length_append, List.length_take, List.length_replicate]
  omega

theorem copyInto_of_le {n : ℕ} {src : List UInt8} (h : n ≤ src.length) :
    copyInto n src = src.take n := by
  simp [copyInto, Nat.sub_eq_zero_of_le h]

/-- `bytes.Index(s, sep)`: the first position where `sep` occurs in `s`; `none` for `-1`. -/
def bytesIndex : List UInt8 → List UInt8 → Option ℕ
  | [], sep => if sep.isPrefixOf [] then some 0 else none
  | x :: rest, sep => if sep.isPrefixOf (x :: rest) then some 0 else (bytesIndex rest sep).map (· + 1)

/-- Where `bytes.Index` finds `sep`, the input goes on with `sep`. -/
theorem bytesIndex_drop {s sep : List UInt8} {i : ℕ} (h : bytesIndex s sep = some i) :
    s.drop i = sep ++ s.drop (i + sep.length) := by
  induction s generalizing i with
  | nil =>
    simp only [bytesIndex] at h
    split_ifs at h with hp
    cases h
    rw [List.isPrefixOf_iff_prefix, List.prefix_nil] at hp
    simp [hp]
  | cons x rest ih =>
    simp only [bytesIndex] at h
    split_ifs at h with hp
    · cases h
      obtain ⟨t, ht⟩ := List.isPrefixOf_iff_prefix.1 hp
      rw [← ht]
      simp
    · obtain ⟨j, hj, rfl⟩ := Option.map_eq_some'.1 h
      simpa [Nat.add_right_comm] using ih hj

/-- A separator the input starts with is found at `0`. -/
theorem bytesIndex_append_self {sep rest : List UInt8} (h : sep ≠ []) :
    bytesIndex (sep ++ rest) sep = some 0 := by
  obtain ⟨x, xs, rfl⟩ := List.exists_cons_of_ne_nil h
  simp [bytesIndex, List.isPrefixOf_iff_prefix]

theorem isPrefixOf_append_of_le {sep xs : List UInt8} (ys : List UInt8)
    (h : sep.length ≤ xs.length) : sep.isPrefixOf (xs ++ ys) = sep.isPrefixOf xs :=
  Bool.eq_iff_iff.2 <| by
    simp only [List.isPrefixOf_iff_prefix]
    exact ⟨fun hp => List.prefix_of_prefix_length_le hp (List.prefix_append xs ys) h,
      fun hp => hp.trans (List.prefix_append xs ys)⟩

/-- `bytes.Index` does not look past the first occurrence: where it finds `sep` within `xs`, it
finds it there whatever follows `xs`. -/
theorem bytesIndex_append_of_le {xs ys zs sep : List UInt8} {i : ℕ}
    (h : bytesIndex (xs ++ ys) sep = some i) (hi : i + sep.length ≤ xs.length) :
    bytesIndex (xs ++ zs) sep = some i := by
  induction xs generalizing i with
  | nil =>
    obtain ⟨rfl, hs⟩ : i = 0 ∧ sep.length = 0 := by simp only [List.length_nil] at hi; omega
    rw [List.length_eq_zero.1 hs]
    cases zs <;> rfl
  | cons x xs ih =>
    have hle : sep.length ≤ (x :: xs).length := by simp only [List.length_cons] at hi ⊢; omega
    have hy := isPrefixOf_append_of_le ys hle
    have hz := isPrefixOf_append_of_le zs hle
    simp only [List.cons_append] at h hy hz ⊢
    rw [bytesIndex, hy] at h
    rw [bytesIndex, hz]
    split_ifs at h ⊢
    · exact h
    · obtain ⟨j, hj, rfl⟩ := Option.map_eq_some'.1 h
      rw [ih hj (by simp only [List.length_cons] at hi; omega)]
      rfl

/-! ## §4. `strings.Replace`. -/

/-- `strings.Replace(s, old, new, -1)` for a non-empty `old`, the only kind the proxy passes:
each occurrence of `old`, from the left and not overlapping, replaced by `new`. -/
def replaceAll (old new : List UInt8) : List UInt8 → List UInt8
  | [] => []
  | b :: rest =>
    if _ : 0 < old.length ∧ old.isPrefixOf (b :: rest) then
      new ++ replaceAll old new ((b :: rest).drop old.length)
    else b :: replaceAll old new rest
termination_by s => s.length
decreasing_by all_goals (simp_wf; try omega)

/-- The placeholder itself is replaced whole. -/
theorem replaceAll_self {old : List UInt8} (new : List UInt8) (h : old ≠ []) :
    replaceAll old new old = new := by
  obtain ⟨c, cs, rfl⟩ := List.exists_cons_of_ne_nil h
  rw [replaceAll, dif_pos ⟨List.length_pos.2 h, List.isPrefixOf_iff_prefix.2 (List.prefix_refl _)⟩,
    List.drop_length]
  simp [replaceAll]

/-- A string without the placeholder's first byte is left as it is. -/
theorem replaceAll_of_not_mem {old new s : List UInt8} {c : UInt8} (hc : old.head? = some c)
    (hs : c ∉ s) : replaceAll old new s = s := by
  induction s with
  | nil => simp [replaceAll]
  | cons b rest ih =>
    obtain ⟨cs, rfl⟩ : ∃ cs, old = c :: cs := by
      cases old with
      | nil => cases hc
      | cons c' cs => exact ⟨cs, by simpa using hc⟩
    have hb : c ≠ b := fun hcb => hs (hcb ▸ List.mem_cons_self _ _)
    rw [replaceAll, dif_neg (by simp [List.isPrefixOf, hb]),
      ih (fun h => hs (List.mem_cons_of_mem _ h))]

example : replaceAll [1, 2] [9] [0, 1, 2, 1, 1, 2] = [0, 9, 1, 9] := by
  simp [replaceAll, List.isPrefixOf]

end BtcPoolModules.GoLib
