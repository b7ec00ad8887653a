/-
  BtcPoolModules.MergedMiningProxy.MerkleBranch — `AuxPowData.ExpandingBlockchainBranch`
  (`AuxPowData.go`), and what folding a hash along a merkle branch means.

  The proxy serves several aux chains from one merkle tree of their block hashes.  Before it
  submits a solved aux proof of work to one chain, it puts that chain's path in the proxy's tree
  (a `merkle.MerklePath`) in front of the blockchain branch: the path's hashes go first, the old
  side mask moves up by the path's length, and bit `i` is set for each path node that comes
  first in its concatenation.  The `merkle` package is not in the source; a node is its hash and
  that flag.  `uint32` shifts are Go's: the bits shifted past 32 are dropped, and a shift by 32
  or more gives `0`.

  A branch is folded from a leaf: step `i` hashes the `i`-th hash on the left when bit `i` of the
  side mask is set.  The hash of a pair is a parameter, so every result holds for any hash.

  Main results:
    * `foldBranch_append`, `foldBranch_congr` — folding along a concatenation, and along two
      masks that agree on the bits the branch reads.
    * `testBit_expandSideMask` — the bits of the expanded side mask.
    * `expandingBlockchainBranch_fold` — for any aux proof of work and any path with at most
      `32` hashes in all, folding a leaf along the expanded branch is folding it along the path
      and then along the original branch.
-/
import BtcPoolModules.MergedMiningProxy.AuxPowData

namespace BtcPoolModules.MergedMiningProxy

/-! ## §1. `ExpandingBlockchainBranch`. -/

/-- `merkle.MerkleNode`: a hash of a path, and whether it comes first in its concatenation. -/
structure MerkleNode where
  hash : Byte32
  useFirstInConcatenation : Bool
  deriving DecidableEq

/-- Go's `x << n` on a `uint32`. -/
def shiftLeft32 (x : UInt32) (n : ℕ) : UInt32 := UInt32.ofNat (x.toNat <<< n)

/-- The loop of `ExpandingBlockchainBranch` from node `i`: `sideMask | (uint32(1) << i)` for each
node that comes first. -/
def expandSideMask : List MerkleNode → ℕ → UInt32 → UInt32
  | [], _, sideMask => sideMask
  | node :: rest, i, sideMask =>
    expandSideMask rest (i + 1)
      (if node.useFirstInConcatenation then sideMask ||| shiftLeft32 1 i else sideMask)

/-- `ExpandingBlockchainBranch(extBranch)`: the path's hashes, then the branch's; the side mask
shifted by the path's length, with the path's bits below. -/
def AuxPowData.expandingBlockchainBranch (a : AuxPowData) (extBranch : List MerkleNode) :
    AuxPowData :=
  { a with
    blockchainBranch :=
      { branchs := extBranch.map MerkleNode.hash ++ a.blockchainBranch.branchs
        sideMask := expandSideMask extBranch 0
          (shiftLeft32 a.blockchainBranch.sideMask extBranch.length) } }

/-! ## §2. Folding along a branch and along a path. -/

/-- Folding `h` along a branch from position `i`: the hash at position `i` goes on the left when
bit `i` of the side mask is set, on the right otherwise.  `H` hashes a pair. -/
def foldBranch (H : Byte32 → Byte32 → Byte32) (sideMask : UInt32) :
    ℕ → Byte32 → List Byte32 → Byte32
  | _, h, [] => h
  | i, h, b :: bs =>
    foldBranch H sideMask (i + 1) (if sideMask.toNat.testBit i then H b h else H h b) bs

/-- Folding `h` along a merkle path: a node's hash goes first when the node says so. -/
def foldPath (H : Byte32 → Byte32 → Byte32) : Byte32 → List MerkleNode → Byte32
  | h, [] => h
  | h, node :: rest =>
    foldPath H (if node.useFirstInConcatenation then H node.hash h else H h node.hash) rest

section Fold

variable (H : Byte32 → Byte32 → Byte32)

@[simp] theorem foldBranch_nil (m : UInt32) (i : ℕ) (h : Byte32) : foldBranch H m i h [] = h := rfl

@[simp] theorem foldBranch_cons (m : UInt32) (i : ℕ) (h b : Byte32) (bs : List Byte32) :
    foldBranch H m i h (b :: bs) =
      foldBranch H m (i + 1) (if m.toNat.testBit i then H b h else H h b) bs := rfl

@[simp] theorem foldPath_nil (h : Byte32) : foldPath H h [] = h := rfl

@[simp] theorem foldPath_cons (h : Byte32) (node : MerkleNode) (rest : List MerkleNode) :
    foldPath H h (node :: rest) =
      foldPath H (if node.useFirstInConcatenation then H node.hash h else H h node.hash) rest :=
  rfl

/-- Folding along a concatenation: along the first part, then on from where it ends. -/
theorem foldBranch_append (m : UInt32) (i : ℕ) (h : Byte32) (xs ys : List Byte32) :
    foldBranch H m i h (xs ++ ys) = foldBranch H m (i + xs.length) (foldBranch H m i h xs) ys := by
  induction xs generalizing i h with
  | nil => rfl
  | cons b bs ih => simp only [List.cons_append, foldBranch_cons, ih, List.length_cons, Nat.add_assoc,
      Nat.add_comm 1]

/-- Two masks that agree on the bits a branch reads fold it alike. -/
theorem foldBranch_congr {m m' : UInt32} {i j : ℕ} {bs : List Byte32}
    (hm : ∀ k < bs.length, m.toNat.testBit (i + k) = m'.toNat.testBit (j + k)) (h : Byte32) :
    foldBranch H m i h bs = foldBranch H m' j h bs := by
  induction bs generalizing i j h with
  | nil => rfl
  | cons b bs ih =>
    have h₀ : m.toNat.testBit i = m'.toNat.testBit j := hm 0 (Nat.succ_pos _)
    rw [foldBranch_cons, foldBranch_cons, h₀]
    exact ih (fun k hk => by
      simpa only [Nat.add_assoc, Nat.add_comm 1] using hm (k + 1) (Nat.succ_lt_succ hk)) _

/-- Folding along a path's hashes, with the path's flags as the mask's bits, is folding along
the path. -/
theorem foldBranch_map_hash {m : UInt32} {i : ℕ} {p : List MerkleNode}
    (hm : ∀ k (hk : k < p.length), m.toNat.testBit (i + k) = p[k].useFirstInConcatenation)
    (h : Byte32) : foldBranch H m i h (p.map MerkleNode.hash) = foldPath H h p := by
  induction p generalizing i h with
  | nil => rfl
  | cons node rest ih =>
    have h₀ : m.toNat.testBit i = node.useFirstInConcatenation := hm 0 (Nat.succ_pos _)
    rw [List.map_cons, foldBranch_cons, foldPath_cons, h₀]
    exact ih (fun k hk => by
      simpa only [Nat.add_assoc, Nat.add_comm 1] using hm (k + 1) (Nat.succ_lt_succ hk)) _

end Fold

/-! ## §3. The bits of the expanded side mask. -/

theorem uint32_or_toNat (a b : UInt32) : (a ||| b).toNat = a.toNat ||| b.toNat :=
  BitVec.toNat_or ..

/-- Bit `k` of `x << n`: bit `k - n` of `x`, for `n ≤ k < 32`. -/
theorem testBit_shiftLeft32 (x : UInt32) (n k : ℕ) :
    (shiftLeft32 x n).toNat.testBit k = (decide (k < 32) && decide (n ≤ k) && x.toNat.testBit (k - n)) := by
  rw [shiftLeft32, GoLib.toNat_uint32_ofNat, Nat.testBit_mod_two_pow, Nat.testBit_shiftLeft,
    Bool.and_assoc]

/-- Bit `k` of the loop's mask: the bit it started with, or the flag of the node at `k`. -/
theorem testBit_expandSideMask (p : List MerkleNode) (i : ℕ) (m : UInt32) (k : ℕ) :
    (expandSideMask p i m).toNat.testBit k =
      (m.toNat.testBit k || (decide (i ≤ k ∧ k < 32) &&
        (p[k - i]?.map MerkleNode.useFirstInConcatenation).getD false)) := by
  induction p generalizing i m with
  | nil => simp [expandSideMask]
  | cons node rest ih =>
    have hstep : (if node.useFirstInConcatenation then m ||| shiftLeft32 1 i else m).toNat.testBit k =
        (m.toNat.testBit k || (decide (k = i ∧ k < 32) && node.useFirstInConcatenation)) := by
      cases node.useFirstInConcatenation
      · simp
      · rw [if_pos rfl, uint32_or_toNat, Nat.testBit_or, testBit_shiftLeft32,
          show (1 : UInt32).toNat = 2 ^ 0 from rfl, Nat.testBit_two_pow]
        congr 1
        rw [Bool.and_true, ← Bool.decide_and, ← Bool.decide_and]
        exact decide_eq_decide.2 (by omega)
    rw [expandSideMask, ih, hstep, Bool.or_assoc]
    congr 1
    rcases Nat.lt_trichotomy k i with hk | rfl | hk
    · simp [show ¬ i ≤ k by omega, show ¬ i + 1 ≤ k by omega, show k ≠ i by omega]
    · simp [Bool.and_comm]
    · obtain ⟨j, rfl⟩ : ∃ j, k = i + 1 + j := ⟨k - (i + 1), by omega⟩
      simp [show i + 1 + j - i = j + 1 by omega, show i + 1 + j ≠ i by omega,
        show i ≤ i + 1 + j by omega]

/-! ## §4. The expanded branch folds as the path and the branch. -/

/-- **Expanding the blockchain branch prepends the path.**  For any hash of a pair, any aux proof
of work and any path with at most `32` hashes in all, folding a leaf along the expanded branch
with the expanded side mask gives the root of folding it along the path, then along the original
branch with the original side mask. -/
theorem expandingBlockchainBranch_fold (H : Byte32 → Byte32 → Byte32) (d : AuxPowData)
    (p : List MerkleNode) (hlen : p.length + d.blockchainBranch.branchs.length ≤ 32)
    (leaf : Byte32) :
    foldBranch H (d.expandingBlockchainBranch p).blockchainBranch.sideMask 0 leaf
        (d.expandingBlockchainBranch p).blockchainBranch.branchs =
      foldBranch H d.blockchainBranch.sideMask 0 (foldPath H leaf p) d.blockchainBranch.branchs := by
  simp only [AuxPowData.expandingBlockchainBranch]
  rw [foldBranch_append, List.length_map, foldBranch_map_hash H ?path, Nat.zero_add]
  · refine foldBranch_congr H (fun k hk => ?_) _
    rw [testBit_expandSideMask, testBit_shiftLeft32]
    simp [show p.length + k < 32 by omega, List.getElem?_eq_none]
  case path =>
    intro k hk
    rw [testBit_expandSideMask, testBit_shiftLeft32]
    simp [hk, show k < 32 by omega, show ¬ p.length ≤ k by omega]

/-- An aux proof of work whose blockchain branch is one hash with side mask `1`. -/
def oneHashBranchSample : AuxPowData :=
  ⟨[], Byte32.copyFrom [], ⟨[], 0⟩, ⟨[Byte32.copyFrom [1]], 1⟩, []⟩

theorem expandingBlockchainBranch_fold_one_node :
    [(⟨Byte32.copyFrom [], true⟩ : MerkleNode)].length +
        oneHashBranchSample.blockchainBranch.branchs.length ≤ 32 ∧
    foldBranch (fun a _ => a)
        (oneHashBranchSample.expandingBlockchainBranch [⟨Byte32.copyFrom [], true⟩]).blockchainBranch.sideMask
        0 (Byte32.copyFrom [2])
        (oneHashBranchSample.expandingBlockchainBranch [⟨Byte32.copyFrom [], true⟩]).blockchainBranch.branchs =
      foldBranch (fun a _ => a) oneHashBranchSample.blockchainBranch.sideMask 0
        (foldPath (fun a _ => a) (Byte32.copyFrom [2]) [⟨Byte32.copyFrom [], true⟩])
        oneHashBranchSample.blockchainBranch.branchs :=
  ⟨by decide, expandingBlockchainBranch_fold _ _ _ (by decide) _⟩

end BtcPoolModules.MergedMiningProxy
