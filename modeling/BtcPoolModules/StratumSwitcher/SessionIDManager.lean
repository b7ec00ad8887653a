/-
  BtcPoolModules.StratumSwitcher.SessionIDManager — the session ID allocator of
  `stratumSwitcher/SessionIDManager.go`, and the layout `NewStratumSessionManager` gives it.

  A session ID is `serverID << indexBits | index`.  The allocator keeps a bitset of used
  indices, the number `count` of them, a scanning cursor `allocIDx` and a stride
  `allocInterval`.  The willf bitset grows on `Set` and answers `false` to `Test` past its
  length, so the finite set of its set positions is all it stores: here a `Finset ℕ`.

  `uint32` sums that can wrap are taken `% 2 ^ 32`, as the source computes them.  The loop of
  `AllocSessionID` tests at most `sessionIDMask + 2` positions: after its start and every
  position of `[0, sessionIDMask]` it can only cycle, so `none` is exactly the run on which the
  Go loop never stops.

  Main results:
    * `SessionIDManager.Inv` — the layout, `count` as the number of set bits, set bits and
      cursor within the mask; kept by `allocSessionID` and `freeSessionID` always, and by
      `resumeSessionID` when the resumed index leaves the cursor within the mask.
    * `allocSessionID_spec` — from an invariant state that is not full, allocation returns
      `serverID ||| i` for a clear index `i ≤ sessionIDMask`.
    * `allocSessionID_after_edge_resume` — an Ethereum resume of index `0xFFFF` pushes the
      cursor to `0x100FF`, and the next allocation returns an ID with high bits `3` for
      server `2`.
    * `CountInv.alloc` — the layout and `count` as the number of set bits alone, with the
      cursor and the set bits anywhere, are kept by all three calls, and allocation returns;
      `CountInv.scan_of_not_full` — then a scan that is not full stops within
      `2 ^ indexBits + 1` tests, at a clear bit.
-/
import Mathlib.Data.Finset.Card
import Mathlib.Data.Finset.Range
import BtcPoolModules.StratumSwitcher.Basic

namespace BtcPoolModules.StratumSwitcher

/-! ## §1. The allocator and its four operations. -/

/-- The allocator's two errors, `ErrSessionIDFull` and `ErrSessionIDOccupied`. -/
inductive SessionIDError where
  | full
  | occupied
  deriving DecidableEq, Repr

/-- `SessionIDManager`.  `serverID` is stored already shifted, `uint32(serverID) << indexBits`,
as the source stores it; `sessionIDs` is the set of set positions of the bitset. -/
structure SessionIDManager where
  serverID : ℕ
  sessionIDs : Finset ℕ
  count : ℕ
  allocIDx : ℕ
  allocInterval : ℕ
  indexBits : ℕ
  sessionIDMask : ℕ
  deriving DecidableEq

/-- `NewSessionIDManager`: the checks on `indexBits` and `serverID`, then the empty bitset with
the cursor seeded at `128`. -/
def newSessionIDManager (serverID indexBits : UInt8) : Except String SessionIDManager :=
  if indexBits.toNat > 24 then
    .error ("indexBits should not > 24, but it = " ++ toString indexBits.toNat)
  else if serverID = 0 then
    .error "serverID not set (serverID = 0)"
  else
    .ok { serverID := serverID.toNat <<< indexBits.toNat
          sessionIDs := ∅
          count := 0
          allocIDx := 128
          allocInterval := 0
          indexBits := indexBits.toNat
          sessionIDMask := (1 <<< indexBits.toNat) - 1 }

/-- `setAllocInterval`. -/
def SessionIDManager.setAllocInterval (m : SessionIDManager) (interval : ℕ) : SessionIDManager :=
  { m with allocInterval := interval }

/-- The allocator `NewStratumSessionManager` builds: `indexBits` from the chain type, and the
stride `256` on Ethereum. -/
def sessionIDManagerFor (chainType : ChainType) (serverID : UInt8) :
    Except String SessionIDManager :=
  (newSessionIDManager serverID chainType.indexBits).map fun m =>
    if chainType = .ethereum then m.setAllocInterval 256 else m

/-- `isFullWithoutLock`: `count > sessionIDMask`. -/
def SessionIDManager.isFullWithoutLock (m : SessionIDManager) : Bool :=
  decide (m.sessionIDMask < m.count)

/-- The loop `for sessionIDs.Test(allocIDx) { allocIDx = (allocIDx + 1) & sessionIDMask }`,
testing at most `fuel` positions: the first clear one, or `none`. -/
def scanAllocIDx (ids : Finset ℕ) (mask : ℕ) : ℕ → ℕ → Option ℕ
  | 0, _ => none
  | fuel + 1, i => if i ∈ ids then scanAllocIDx ids mask fuel ((i + 1) % 2 ^ 32 &&& mask) else some i

/-- `AllocSessionID`: the pair `(sessionID, err)` and the new state, or `none` when the scan
never stops and the call never returns. -/
def SessionIDManager.allocSessionID (m : SessionIDManager) :
    Option ((ℕ × Option SessionIDError) × SessionIDManager) :=
  if m.isFullWithoutLock then some ((m.sessionIDMask, some .full), m)
  else (scanAllocIDx m.sessionIDs m.sessionIDMask (m.sessionIDMask + 2) m.allocIDx).map fun i =>
    ((m.serverID ||| i, none),
      { m with
        sessionIDs := insert i m.sessionIDs
        count := m.count + 1
        allocIDx := (i + m.allocInterval) % 2 ^ 32 &&& m.sessionIDMask })

/-- `ResumeSessionID`: claim the index of a session ID carried over an upgrade.  The cursor
moves to `idx + allocInterval`, with no mask. -/
def SessionIDManager.resumeSessionID (m : SessionIDManager) (sessionID : ℕ) :
    Option SessionIDError × SessionIDManager :=
  let idx := sessionID &&& m.sessionIDMask
  if idx ∈ m.sessionIDs then (some .occupied, m)
  else (none,
    { m with
      sessionIDs := insert idx m.sessionIDs
      count := m.count + 1
      allocIDx := if m.allocIDx ≤ idx then (idx + m.allocInterval) % 2 ^ 32 else m.allocIDx })

/-- `FreeSessionID`: clear the index if it is set. -/
def SessionIDManager.freeSessionID (m : SessionIDManager) (sessionID : ℕ) : SessionIDManager :=
  let idx := sessionID &&& m.sessionIDMask
  if idx ∈ m.sessionIDs then
    { m with sessionIDs := m.sessionIDs.erase idx, count := m.count - 1 }
  else m

namespace SessionIDManager

/-! ## §2. What the operations leave alone. -/

/-- The fields only construction writes: the shifted server ID, the stride, the index width
and the mask. -/
def layout (m : SessionIDManager) : ℕ × ℕ × ℕ × ℕ :=
  (m.serverID, m.allocInterval, m.indexBits, m.sessionIDMask)

theorem layout_eq_iff {m : SessionIDManager} {serverID allocInterval indexBits sessionIDMask : ℕ} :
    m.layout = (serverID, allocInterval, indexBits, sessionIDMask) ↔ m.serverID = serverID ∧
      m.allocInterval = allocInterval ∧ m.indexBits = indexBits ∧ m.sessionIDMask = sessionIDMask := by
  simp only [layout, Prod.mk.injEq]

theorem layout_allocSessionID {m m' : SessionIDManager} {r : ℕ × Option SessionIDError}
    (h : m.allocSessionID = some (r, m')) : m'.layout = m.layout := by
  unfold allocSessionID at h
  split at h
  · cases h; rfl
  · obtain ⟨i, -, h⟩ := Option.map_eq_some'.1 h
    cases h; rfl

@[simp] theorem layout_resumeSessionID (m : SessionIDManager) (sessionID : ℕ) :
    (m.resumeSessionID sessionID).2.layout = m.layout := by
  unfold resumeSessionID; dsimp only; split <;> rfl

@[simp] theorem layout_freeSessionID (m : SessionIDManager) (sessionID : ℕ) :
    (m.freeSessionID sessionID).layout = m.layout := by
  unfold freeSessionID; dsimp only; split <;> rfl

/-! ## §3. Session ID arithmetic. -/

/-- The high bits of `s << k | i` are `s` when the index fits in `k` bits. -/
theorem prefix_or_shiftRight {s i k : ℕ} (hi : i < 2 ^ k) : (s <<< k ||| i) >>> k = s := by
  rw [Nat.shiftLeft_eq, Nat.mul_comm, ← Nat.mul_add_lt_is_or hi, Nat.shiftRight_eq_div_pow,
    Nat.mul_add_div (Nat.two_pow_pos k), Nat.div_eq_of_lt hi, Nat.add_zero]

/-- The index of `s << k | i` is `i` when it fits in `k` bits. -/
theorem prefix_or_and_mask {s i k : ℕ} (hi : i < 2 ^ k) : (s <<< k ||| i) &&& (2 ^ k - 1) = i := by
  rw [Nat.shiftLeft_eq, Nat.mul_comm, ← Nat.mul_add_lt_is_or hi, Nat.and_pow_two_sub_one_eq_mod,
    Nat.mul_add_mod, Nat.mod_eq_of_lt hi]

/-- The index of `s << k | x` is `x` modulo `2 ^ k`, whatever the width of `x`. -/
theorem or_shiftLeft_and_mask (s x k : ℕ) : (s <<< k ||| x) &&& (2 ^ k - 1) = x % 2 ^ k := by
  apply Nat.eq_of_testBit_eq
  intro i
  by_cases hi : i < k <;> simp [hi]

/-- A `uint32` sum masked to `k ≤ 32` bits is the sum modulo `2 ^ k`. -/
theorem wrap_and_mask {x k : ℕ} (hk : k ≤ 32) : x % 2 ^ 32 &&& (2 ^ k - 1) = x % 2 ^ k := by
  rw [Nat.and_pow_two_sub_one_eq_mod, Nat.mod_mod_of_dvd _ (Nat.pow_dvd_pow 2 hk)]

/-! ## §4. The scan of `AllocSessionID`. -/

/-- A set position: the scan tests the next one, masked. -/
theorem scanAllocIDx_of_mem {ids : Finset ℕ} {mask n i : ℕ} (h : i ∈ ids) :
    scanAllocIDx ids mask (n + 1) i = scanAllocIDx ids mask n ((i + 1) % 2 ^ 32 &&& mask) := by
  simp [scanAllocIDx, h]

/-- A clear position: the scan stops there. -/
theorem scanAllocIDx_of_not_mem {ids : Finset ℕ} {mask n i : ℕ} (h : i ∉ ids) :
    scanAllocIDx ids mask (n + 1) i = some i := by
  simp [scanAllocIDx, h]

theorem scanAllocIDx_not_mem {ids : Finset ℕ} {mask n i j : ℕ}
    (h : scanAllocIDx ids mask n i = some j) : j ∉ ids := by
  induction n generalizing i with
  | zero => cases h
  | succ n ih =>
    unfold scanAllocIDx at h
    split at h
    · exact ih h
    · cases h; assumption

theorem scanAllocIDx_le {ids : Finset ℕ} {mask n i j : ℕ} (hi : i ≤ mask)
    (h : scanAllocIDx ids mask n i = some j) : j ≤ mask := by
  induction n generalizing i with
  | zero => cases h
  | succ n ih =>
    unfold scanAllocIDx at h
    split at h
    · exact ih Nat.and_le_right h
    · cases h; exact hi

/-- A scan that runs out of tests has found every position it visited set: from `i`, the
positions `(i + t) % 2 ^ k`. -/
theorem scanAllocIDx_none {ids : Finset ℕ} {k n i : ℕ} (hk : k ≤ 32) (hi : i < 2 ^ k)
    (h : scanAllocIDx ids (2 ^ k - 1) n i = none) : ∀ t < n, (i + t) % 2 ^ k ∈ ids := by
  induction n generalizing i with
  | zero => intro t ht; omega
  | succ n ih =>
    unfold scanAllocIDx at h
    split at h
    · rename_i hmem
      rw [wrap_and_mask hk] at h
      have hnext := ih (Nat.mod_lt _ (Nat.two_pow_pos k)) h
      intro t ht
      cases t with
      | zero => rwa [Nat.add_zero, Nat.mod_eq_of_lt hi]
      | succ t =>
        have := hnext t (by omega)
        rwa [Nat.mod_add_mod, show i + 1 + t = i + (t + 1) by omega] at this
    · cases h

/-- Fewer than `2 ^ k` set bits leave a clear index below `2 ^ k`. -/
theorem exists_clear {ids : Finset ℕ} {k : ℕ} (hcard : ids.card < 2 ^ k) :
    ∃ j < 2 ^ k, j ∉ ids := by
  by_contra hall
  push_neg at hall
  have hsub : Finset.range (2 ^ k) ⊆ ids := fun j hj => hall j (Finset.mem_range.1 hj)
  have := Finset.card_le_card hsub
  rw [Finset.card_range] at this
  omega

/-- **The scan stops** within `2 ^ k` tests from a cursor within the mask, when fewer than
`2 ^ k` bits are set: those tests visit every index of the mask once. -/
theorem scanAllocIDx_isSome_of_lt {ids : Finset ℕ} {k i : ℕ} (hk : k ≤ 32) (hi : i < 2 ^ k)
    (hcard : ids.card < 2 ^ k) : (scanAllocIDx ids (2 ^ k - 1) (2 ^ k) i).isSome := by
  obtain ⟨j, hj, hjn⟩ := exists_clear hcard
  cases h : scanAllocIDx ids (2 ^ k - 1) (2 ^ k) i with
  | some _ => rfl
  | none =>
    exfalso
    apply hjn
    by_cases hji : i ≤ j
    · have := scanAllocIDx_none hk hi h (j - i) (by omega)
      rwa [Nat.add_sub_cancel' hji, Nat.mod_eq_of_lt hj] at this
    · have := scanAllocIDx_none hk hi h (2 ^ k - i + j) (by omega)
      rwa [show i + (2 ^ k - i + j) = 2 ^ k + j by omega, Nat.add_mod_left,
        Nat.mod_eq_of_lt hj] at this

/-- **The scan stops from any cursor**, within the mask or past it, within `2 ^ k + 1` tests
when fewer than `2 ^ k` bits are set: a clear cursor stops it at once, a set one sends it into
the mask. -/
theorem scanAllocIDx_isSome_of_card_lt {ids : Finset ℕ} {k : ℕ} (hk : k ≤ 32)
    (hcard : ids.card < 2 ^ k) (i : ℕ) : (scanAllocIDx ids (2 ^ k - 1) (2 ^ k + 1) i).isSome := by
  by_cases hi : i ∈ ids
  · rw [scanAllocIDx_of_mem hi]
    have hpos := Nat.two_pow_pos k
    exact scanAllocIDx_isSome_of_lt hk (lt_of_le_of_lt Nat.and_le_right (by omega)) hcard
  · rw [scanAllocIDx_of_not_mem hi]; rfl

/-! ## §5. The invariant and the operations' specifications. -/

/-- The allocator's invariant: the layout `NewSessionIDManager` builds, `count` as the number of
set bits, and set bits and cursor within the mask. -/
structure Inv (m : SessionIDManager) : Prop where
  bits_le : m.indexBits ≤ 24
  mask_eq : m.sessionIDMask = 2 ^ m.indexBits - 1
  count_eq : m.count = m.sessionIDs.card
  mem_le : ∀ i ∈ m.sessionIDs, i ≤ m.sessionIDMask
  allocIDx_le : m.allocIDx ≤ m.sessionIDMask

theorem Inv.lt_two_pow {m : SessionIDManager} (hm : m.Inv) {i : ℕ} (hi : i ≤ m.sessionIDMask) :
    i < 2 ^ m.indexBits := by
  have := hm.mask_eq; have := Nat.two_pow_pos m.indexBits; omega

/-- What a successful `NewSessionIDManager` builds. -/
theorem newSessionIDManager_ok {sid bits : UInt8} {m : SessionIDManager}
    (h : newSessionIDManager sid bits = .ok m) :
    bits.toNat ≤ 24 ∧ m = { serverID := sid.toNat <<< bits.toNat, sessionIDs := ∅, count := 0
                            allocIDx := 128, allocInterval := 0, indexBits := bits.toNat
                            sessionIDMask := 2 ^ bits.toNat - 1 } := by
  unfold newSessionIDManager at h
  split at h
  · cases h
  split at h
  · cases h
  cases h
  exact ⟨by omega, by rw [Nat.one_shiftLeft]⟩

/-- The allocators of the switcher's chain types: the server ID's prefix, and the invariant
(the seed `128` lies within both masks). -/
theorem sessionIDManagerFor_inv {c : ChainType} {sid : UInt8} {m : SessionIDManager}
    (h : sessionIDManagerFor c sid = .ok m) :
    m.serverID = sid.toNat <<< m.indexBits ∧ m.Inv := by
  unfold sessionIDManagerFor at h
  cases hn : newSessionIDManager sid c.indexBits with
  | error e => rw [hn] at h; cases h
  | ok m0 =>
    rw [hn] at h
    obtain ⟨hb, rfl⟩ := newSessionIDManager_ok hn
    cases h
    have h128 : 128 ≤ 2 ^ c.indexBits.toNat - 1 := by cases c <;> decide
    dsimp only
    split <;> exact ⟨rfl, ⟨hb, rfl, rfl, by simp [setAllocInterval], h128⟩⟩

/-- The index width of the allocator `NewStratumSessionManager` builds is the chain type's. -/
theorem sessionIDManagerFor_indexBits {c : ChainType} {sid : UInt8} {m : SessionIDManager}
    (h : sessionIDManagerFor c sid = .ok m) : m.indexBits = c.indexBits.toNat := by
  unfold sessionIDManagerFor at h
  cases hn : newSessionIDManager sid c.indexBits with
  | error e => rw [hn] at h; cases h
  | ok m0 =>
    rw [hn] at h
    obtain ⟨-, rfl⟩ := newSessionIDManager_ok hn
    cases h
    split <;> rfl

/-- The allocator `NewStratumSessionManager` builds for a server ID that is set. -/
theorem sessionIDManagerFor_eq (c : ChainType) {sid : UInt8} (hsid : sid ≠ 0) :
    sessionIDManagerFor c sid = .ok
      { serverID := sid.toNat <<< c.indexBits.toNat, sessionIDs := ∅, count := 0, allocIDx := 128
        allocInterval := if c = .ethereum then 256 else 0, indexBits := c.indexBits.toNat
        sessionIDMask := 2 ^ c.indexBits.toNat - 1 } := by
  have hb : ¬ c.indexBits.toNat > 24 := by cases c <;> decide
  simp only [sessionIDManagerFor, newSessionIDManager, hb, hsid, if_false, Nat.one_shiftLeft]
  cases c <;> rfl

/-- A successful `sessionIDManagerFor` had a server ID that is set, and built the allocator of
`sessionIDManagerFor_eq`. -/
theorem sessionIDManagerFor_ok {c : ChainType} {sid : UInt8} {m : SessionIDManager}
    (h : sessionIDManagerFor c sid = .ok m) :
    sid ≠ 0 ∧ m = { serverID := sid.toNat <<< c.indexBits.toNat, sessionIDs := ∅, count := 0
                    allocIDx := 128, allocInterval := if c = .ethereum then 256 else 0
                    indexBits := c.indexBits.toNat, sessionIDMask := 2 ^ c.indexBits.toNat - 1 } := by
  have hsid : sid ≠ 0 := by rintro rfl; cases c <;> cases h
  exact ⟨hsid, (Except.ok.inj ((sessionIDManagerFor_eq c hsid).symm.trans h)).symm⟩

/-- What the scan of `AllocSessionID` needs of a state: the layout, `count` as the number of set
bits, and the cursor within the mask.  Unlike `Inv`, set bits may lie past the mask. -/
structure ScanInv (m : SessionIDManager) : Prop where
  bits_le : m.indexBits ≤ 24
  mask_eq : m.sessionIDMask = 2 ^ m.indexBits - 1
  count_eq : m.count = m.sessionIDs.card
  allocIDx_le : m.allocIDx ≤ m.sessionIDMask

/-- What every state the operations reach keeps, whatever its cursor and its bits past the
mask: the layout, and `count` as the number of set bits. -/
structure CountInv (m : SessionIDManager) : Prop where
  bits_le : m.indexBits ≤ 24
  mask_eq : m.sessionIDMask = 2 ^ m.indexBits - 1
  count_eq : m.count = m.sessionIDs.card

theorem ScanInv.toCountInv {m : SessionIDManager} (hm : m.ScanInv) : m.CountInv :=
  ⟨hm.bits_le, hm.mask_eq, hm.count_eq⟩

/-- A state that is not full has a clear index within the mask, and `AllocSessionID`'s scan
stops within `2 ^ indexBits + 1` tests, at a clear index. -/
theorem CountInv.scan_of_not_full {m : SessionIDManager} (hm : m.CountInv)
    (hf : m.isFullWithoutLock = false) :
    ∃ i, scanAllocIDx m.sessionIDs m.sessionIDMask (2 ^ m.indexBits + 1) m.allocIDx = some i ∧
      i ∉ m.sessionIDs := by
  have hcount : m.count ≤ m.sessionIDMask := by simpa [isFullWithoutLock] using hf
  have hcard : m.sessionIDs.card < 2 ^ m.indexBits := by
    have := hm.mask_eq; have := Nat.two_pow_pos m.indexBits; rw [← hm.count_eq]; omega
  obtain ⟨i, hi⟩ := Option.isSome_iff_exists.1
    (scanAllocIDx_isSome_of_card_lt (by have := hm.bits_le; omega) hcard m.allocIDx)
  rw [← hm.mask_eq] at hi
  exact ⟨i, hi, scanAllocIDx_not_mem hi⟩

theorem Inv.toScanInv {m : SessionIDManager} (hm : m.Inv) : m.ScanInv :=
  ⟨hm.bits_le, hm.mask_eq, hm.count_eq, hm.allocIDx_le⟩

/-- **`AllocSessionID` from a state the scan can run in.**  Full: the error, state unchanged.
Otherwise the scan stops at a clear index `i ≤ sessionIDMask`, which is set, and the ID is
`serverID ||| i`. -/
theorem ScanInv.allocSessionID_spec {m : SessionIDManager} (hm : m.ScanInv) :
    (m.isFullWithoutLock = true ∧ m.allocSessionID = some ((m.sessionIDMask, some .full), m)) ∨
    (m.isFullWithoutLock = false ∧ ∃ i, i ∉ m.sessionIDs ∧ i ≤ m.sessionIDMask ∧
      m.allocSessionID = some ((m.serverID ||| i, none),
        { m with sessionIDs := insert i m.sessionIDs, count := m.count + 1
                 allocIDx := (i + m.allocInterval) % 2 ^ 32 &&& m.sessionIDMask })) := by
  cases hf : m.isFullWithoutLock
  · right
    obtain ⟨i, hs, hn⟩ := hm.toCountInv.scan_of_not_full hf
    rw [show 2 ^ m.indexBits + 1 = m.sessionIDMask + 2 by
      have := hm.mask_eq; have := Nat.two_pow_pos m.indexBits; omega] at hs
    refine ⟨rfl, i, hn, scanAllocIDx_le hm.allocIDx_le hs, ?_⟩
    simp [allocSessionID, hf, hs]
  · exact .inl ⟨rfl, by simp [allocSessionID, hf]⟩

/-- **`AllocSessionID` from an invariant state.**  Full: the error, state unchanged.
Otherwise the scan stops at a clear index `i ≤ sessionIDMask`, which is set, and the ID is
`serverID ||| i`. -/
theorem allocSessionID_spec {m : SessionIDManager} (hm : m.Inv) :
    (m.isFullWithoutLock = true ∧ m.allocSessionID = some ((m.sessionIDMask, some .full), m)) ∨
    (m.isFullWithoutLock = false ∧ ∃ i, i ∉ m.sessionIDs ∧ i ≤ m.sessionIDMask ∧
      m.allocSessionID = some ((m.serverID ||| i, none),
        { m with sessionIDs := insert i m.sessionIDs, count := m.count + 1
                 allocIDx := (i + m.allocInterval) % 2 ^ 32 &&& m.sessionIDMask })) :=
  hm.toScanInv.allocSessionID_spec

theorem Inv.alloc {m m' : SessionIDManager} {r : ℕ × Option SessionIDError} (hm : m.Inv)
    (h : m.allocSessionID = some (r, m')) : m'.Inv := by
  rcases allocSessionID_spec hm with ⟨-, hf⟩ | ⟨-, i, hn, hle, hs⟩
  · rw [hf] at h; cases h; exact hm
  · rw [hs] at h; cases h
    exact { hm with
      count_eq := by simp [Finset.card_insert_of_not_mem hn, hm.count_eq]
      mem_le := by simpa using ⟨hle, hm.mem_le⟩
      allocIDx_le := Nat.and_le_right }

theorem ScanInv.alloc {m m' : SessionIDManager} {r : ℕ × Option SessionIDError} (hm : m.ScanInv)
    (h : m.allocSessionID = some (r, m')) : m'.ScanInv := by
  rcases hm.allocSessionID_spec with ⟨-, hf⟩ | ⟨-, i, hn, -, hs⟩
  · rw [hf] at h; cases h; exact hm
  · rw [hs] at h; cases h
    exact { hm with
      count_eq := by simp [Finset.card_insert_of_not_mem hn, hm.count_eq]
      allocIDx_le := Nat.and_le_right }

theorem Inv.free {m : SessionIDManager} (hm : m.Inv) (sessionID : ℕ) :
    (m.freeSessionID sessionID).Inv := by
  unfold freeSessionID; dsimp only; split
  · rename_i hmem
    exact { hm with
      count_eq := by rw [Finset.card_erase_of_mem hmem, hm.count_eq]
      mem_le := fun i hi => hm.mem_le i (Finset.mem_of_mem_erase hi) }
  · exact hm

/-- The resumed index leaves the cursor within the mask: the condition under which
`ResumeSessionID` keeps the invariant. -/
def resumeKeepsCursor (m : SessionIDManager) (sessionID : ℕ) : Prop :=
  m.allocIDx ≤ sessionID &&& m.sessionIDMask →
    ((sessionID &&& m.sessionIDMask) + m.allocInterval) % 2 ^ 32 ≤ m.sessionIDMask

instance (m : SessionIDManager) (sessionID : ℕ) : Decidable (m.resumeKeepsCursor sessionID) :=
  inferInstanceAs (Decidable (_ → _))

theorem Inv.resume {m : SessionIDManager} (hm : m.Inv) {sessionID : ℕ}
    (hc : m.resumeKeepsCursor sessionID) : (m.resumeSessionID sessionID).2.Inv := by
  unfold resumeSessionID; dsimp only; split
  · exact hm
  · rename_i hn
    refine { hm with
      count_eq := by simp [Finset.card_insert_of_not_mem hn, hm.count_eq]
      mem_le := by simpa using ⟨Nat.and_le_right, hm.mem_le⟩
      allocIDx_le := ?_ }
    dsimp only; split
    · exact hc ‹_›
    · exact hm.allocIDx_le

/-! ### The count invariant, from any cursor. -/

/-- `AllocSessionID` returns from every state that keeps the count, and the state after it
keeps the count. -/
theorem CountInv.alloc {m : SessionIDManager} (hm : m.CountInv) :
    ∃ r m', m.allocSessionID = some (r, m') ∧ m'.CountInv := by
  cases hf : m.isFullWithoutLock
  · obtain ⟨i, hi, hn⟩ := hm.scan_of_not_full hf
    have hfuel : m.sessionIDMask + 2 = 2 ^ m.indexBits + 1 := by
      have := hm.mask_eq; have := Nat.two_pow_pos m.indexBits; omega
    simp only [allocSessionID, hf, hfuel, hi, Bool.false_eq_true, ite_false, Option.map_some']
    exact ⟨_, _, rfl,
      { hm with count_eq := by simp [Finset.card_insert_of_not_mem hn, hm.count_eq] }⟩
  · exact ⟨_, m, by rw [allocSessionID, if_pos hf], hm⟩

theorem CountInv.resume {m : SessionIDManager} (hm : m.CountInv) (sessionID : ℕ) :
    (m.resumeSessionID sessionID).2.CountInv := by
  unfold resumeSessionID; dsimp only; split
  · exact hm
  · exact { hm with count_eq := by simp [Finset.card_insert_of_not_mem ‹_›, hm.count_eq] }

theorem CountInv.free {m : SessionIDManager} (hm : m.CountInv) (sessionID : ℕ) :
    (m.freeSessionID sessionID).CountInv := by
  unfold freeSessionID; dsimp only; split
  · exact { hm with count_eq := by rw [Finset.card_erase_of_mem ‹_›, hm.count_eq] }
  · exact hm

/-- `ResumeSessionID` fails exactly on a set index, and otherwise sets it. -/
theorem resumeSessionID_spec (m : SessionIDManager) (sessionID : ℕ) :
    ((m.resumeSessionID sessionID).1 = none ↔ sessionID &&& m.sessionIDMask ∉ m.sessionIDs) ∧
    (m.resumeSessionID sessionID).2.sessionIDs = insert (sessionID &&& m.sessionIDMask) m.sessionIDs := by
  unfold resumeSessionID; dsimp only; split <;> simp_all

/-- `FreeSessionID` clears the index of its argument and nothing else. -/
@[simp] theorem freeSessionID_sessionIDs (m : SessionIDManager) (sessionID : ℕ) :
    (m.freeSessionID sessionID).sessionIDs = m.sessionIDs.erase (sessionID &&& m.sessionIDMask) := by
  unfold freeSessionID; dsimp only; split
  · rfl
  · rename_i hn; exact (Finset.erase_eq_of_not_mem hn).symm

/-- `FreeSessionID` of an ID whose index is clear changes nothing. -/
theorem freeSessionID_of_not_mem {m : SessionIDManager} {sessionID : ℕ}
    (h : sessionID &&& m.sessionIDMask ∉ m.sessionIDs) : m.freeSessionID sessionID = m := by
  simp [freeSessionID, h]

end SessionIDManager

/-! ## §6. The cursor escapes the mask. -/

/-- **An Ethereum resume near the top of the index range breaks allocation.**  On the Ethereum
allocator of server `2`, resuming index `0xFFFF` moves `allocIDx` to `0x100FF` unmasked; the
next `AllocSessionID` tests and sets that position outside the bitset and returns `0x300FF`,
whose high bits are `3`. -/
theorem allocSessionID_after_edge_resume :
    ∃ m, sessionIDManagerFor .ethereum 2 = .ok m ∧
      ((m.resumeSessionID 0xFFFF).2.allocSessionID).map (fun r => r.1) = some (0x300FF, none) ∧
      0x300FF >>> 16 = 3 :=
  ⟨_, rfl, by decide, by decide⟩

end BtcPoolModules.StratumSwitcher
