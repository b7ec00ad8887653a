/-
  BtcPoolModules.StratumSwitcher.SessionIDHistory — histories of calls on the session ID
  allocator of `SessionIDManager.go`, and the IDs its callers hold.

  A caller holds the ID `AllocSessionID` returned it, or the one a successful
  `ResumeSessionID` took, until it passes that ID to `FreeSessionID`.  While the bitset is
  made exactly of the indices of the held IDs, one each, the allocator reports full exactly
  when every index is held.  A Bitcoin allocator (stride `0`) keeps that through every
  history that frees only held IDs.  On the Ethereum allocator (stride `256`) a resume near
  the top of the range moves the cursor past the mask, and the allocation that follows sets a
  bit no `FreeSessionID` can clear: a slot is lost for good.  The stride itself returns to a
  `256`-block after `256` allocations, and the scan then steps by one inside the block.

  Main results:
    * `Holding.Inv.isFull_iff` — under the holding invariant, the allocator is full exactly
      when `2 ^ indexBits` IDs are held.
    * `sessionID_capacity` — on the Bitcoin allocator every history that frees only held IDs
      keeps that; on the Ethereum allocator one history reports full with `2 ^ 16 - 1` IDs
      held.
    * `free_undoes_alloc_resume` — `FreeSessionID` undoes a successful `ResumeSessionID` in
      every state, and an allocation in every state a Bitcoin allocator reaches, but not the
      allocation after an Ethereum resume of index `0xFFFF`.
    * `nicehash_first_lap_blocks_distinct` — within the cursor's first lap, every history of
      allocations and frees keeps the held IDs in distinct `256`-blocks of indices; after it,
      `nicehash_block_shared_beside_free_block`: an allocation joins a held block while another
      block is free.
    * `scan_stops_when_not_full` — every history from construction returns, with any width
      and stride, and in every state it reaches the scan of an allocator that is not full meets
      a clear bit within `2 ^ indexBits + 1` tests.
    * `count_invariant_range_escapes` — the count is the number of set bits in every state a
      history reaches, but the cursor and the set bits leave the mask: from the start below `8`
      index bits, after a resume of the top index from `8` bits up.
-/
import BtcPoolModules.StratumSwitcher.SessionIDManager

namespace BtcPoolModules.StratumSwitcher

/-! ## §1. Calls, and the IDs callers hold. -/

/-- A call on the allocator. -/
inductive AllocatorCall where
  | alloc
  | resume (sessionID : ℕ)
  | free (sessionID : ℕ)
  deriving DecidableEq, Repr

/-- The allocator, and the IDs its callers hold, in the order they got them. -/
structure Holding where
  manager : SessionIDManager
  held : List ℕ

namespace Holding

/-- One call: its error, and the allocator and held IDs after it; `none` where
`AllocSessionID` never returns. -/
def call (h : Holding) : AllocatorCall → Option (Option SessionIDError × Holding)
  | .alloc =>
    h.manager.allocSessionID.map fun r =>
      (r.1.2, ⟨r.2, if r.1.2 = none then h.held ++ [r.1.1] else h.held⟩)
  | .resume sessionID =>
    let r := h.manager.resumeSessionID sessionID
    some (r.1, ⟨r.2, if r.1 = none then h.held ++ [sessionID] else h.held⟩)
  | .free sessionID => some (none, ⟨h.manager.freeSessionID sessionID, h.held.erase sessionID⟩)

/-- A history: the errors of its calls, and the state after the last; `none` where a call
never returns. -/
def run (h : Holding) : List AllocatorCall → Option (List (Option SessionIDError) × Holding)
  | [] => some ([], h)
  | c :: cs => (h.call c).bind fun r => (r.2.run cs).map fun t => (r.1 :: t.1, t.2)

/-- Whether a call that frees passes an ID its caller holds. -/
def freeOk (h : Holding) : AllocatorCall → Bool
  | .free sessionID => decide (sessionID ∈ h.held)
  | _ => true

/-- Whether every `FreeSessionID` of the history passes an ID its caller holds. -/
def freesHeld (h : Holding) : List AllocatorCall → Bool
  | [] => true
  | c :: cs =>
    h.freeOk c &&
    match h.call c with
    | some r => r.2.freesHeld cs
    | none => true

@[simp] theorem run_nil (h : Holding) : h.run [] = some ([], h) := rfl

theorem run_cons_of_call {h h' : Holding} {c : AllocatorCall} {e : Option SessionIDError}
    (hc : h.call c = some (e, h')) (cs : List AllocatorCall) :
    h.run (c :: cs) = (h'.run cs).map fun t => (e :: t.1, t.2) := by
  simp only [run, hc, Option.some_bind]

@[simp] theorem call_free (h : Holding) (sessionID : ℕ) :
    h.call (.free sessionID) = some (none, ⟨h.manager.freeSessionID sessionID, h.held.erase sessionID⟩) :=
  rfl

theorem freesHeld_cons_of_call {h h' : Holding} {c : AllocatorCall} {e : Option SessionIDError}
    (hc : h.call c = some (e, h')) (cs : List AllocatorCall) :
    h.freesHeld (c :: cs) = (h.freeOk c && h'.freesHeld cs) := by
  simp only [freesHeld, hc]

/-! ## §2. The holding invariant. -/

/-- **The holding invariant**: the allocator's own, the server prefix it was built with, and a
bitset made exactly of the indices of the held IDs, each index held once. -/
structure Inv (h : Holding) : Prop where
  manager : h.manager.Inv
  server : ∃ s, h.manager.serverID = s <<< h.manager.indexBits
  nodup : (h.held.map (· &&& h.manager.sessionIDMask)).Nodup
  sessionIDs_eq : h.manager.sessionIDs = (h.held.map (· &&& h.manager.sessionIDMask)).toFinset

/-- **Full exactly when every index is held.** -/
theorem Inv.isFull_iff {h : Holding} (hh : h.Inv) :
    h.manager.isFullWithoutLock = true ↔ h.held.length = 2 ^ h.manager.indexBits := by
  have hcount : h.manager.count = h.held.length := by
    rw [hh.manager.count_eq, hh.sessionIDs_eq, List.toFinset_card_of_nodup hh.nodup,
      List.length_map]
  have hle : h.held.length ≤ 2 ^ h.manager.indexBits := by
    calc h.held.length = h.manager.sessionIDs.card := by rw [← hcount, hh.manager.count_eq]
      _ ≤ (Finset.range (2 ^ h.manager.indexBits)).card := Finset.card_le_card fun i hi =>
          Finset.mem_range.2 (hh.manager.lt_two_pow (hh.manager.mem_le i hi))
      _ = 2 ^ h.manager.indexBits := Finset.card_range _
  have hpos := Nat.two_pow_pos h.manager.indexBits
  simp only [SessionIDManager.isFullWithoutLock, decide_eq_true_eq, hh.manager.mask_eq, hcount]
  omega

/-- A held ID appended with an index that is clear keeps the indices distinct and the bitset
theirs. -/
theorem Inv.append {h : Holding} (hh : h.Inv) {m : SessionIDManager} {id : ℕ}
    (hm : m.Inv) (hl : m.layout = h.manager.layout)
    (hn : id &&& h.manager.sessionIDMask ∉ h.manager.sessionIDs)
    (hs : m.sessionIDs = insert (id &&& h.manager.sessionIDMask) h.manager.sessionIDs) :
    (⟨m, h.held ++ [id]⟩ : Holding).Inv := by
  simp only [SessionIDManager.layout, Prod.mk.injEq] at hl
  obtain ⟨hsv, -, hbits, hmask⟩ := hl
  have hn' : id &&& h.manager.sessionIDMask ∉ h.held.map (· &&& h.manager.sessionIDMask) := by
    rwa [hh.sessionIDs_eq, List.mem_toFinset] at hn
  refine ⟨hm, by rw [hsv, hbits]; exact hh.server, ?_, ?_⟩
  · rw [hmask, List.map_append, List.map_singleton]
    exact hh.nodup.append (List.nodup_singleton _) (List.disjoint_singleton.2 hn')
  · rw [hmask, hs, hh.sessionIDs_eq]
    ext x
    simp [or_comm]

theorem Inv.alloc {h h' : Holding} {e : Option SessionIDError} (hh : h.Inv)
    (hc : h.call .alloc = some (e, h')) : h'.Inv := by
  rcases SessionIDManager.allocSessionID_spec hh.manager with ⟨-, hf⟩ | ⟨-, i, hn, hle, hs⟩
  · simp only [call, hf, Option.map_some', Option.some.injEq, Prod.mk.injEq] at hc
    obtain ⟨rfl, rfl⟩ := hc
    exact hh
  · simp only [call, hs, Option.map_some', Option.some.injEq, Prod.mk.injEq, if_true] at hc
    obtain ⟨rfl, rfl⟩ := hc
    obtain ⟨s, hsv⟩ := hh.server
    have hidx : (h.manager.serverID ||| i) &&& h.manager.sessionIDMask = i := by
      rw [hsv, hh.manager.mask_eq]
      exact SessionIDManager.prefix_or_and_mask (hh.manager.lt_two_pow hle)
    exact hh.append (hh.manager.alloc hs) (SessionIDManager.layout_allocSessionID hs)
      (by rwa [hidx]) (by rw [hidx])

theorem Inv.resume {h h' : Holding} {e : Option SessionIDError} (hh : h.Inv) {sessionID : ℕ}
    (hk : h.manager.resumeKeepsCursor sessionID) (hc : h.call (.resume sessionID) = some (e, h')) :
    h'.Inv := by
  simp only [call, Option.some.injEq, Prod.mk.injEq] at hc
  obtain ⟨rfl, rfl⟩ := hc
  have hspec := h.manager.resumeSessionID_spec sessionID
  split_ifs with he
  · exact hh.append (hh.manager.resume hk) (SessionIDManager.layout_resumeSessionID _ _)
      (hspec.1.1 he) hspec.2
  · have hmem : sessionID &&& h.manager.sessionIDMask ∈ h.manager.sessionIDs :=
      not_not.1 fun hn => he (hspec.1.2 hn)
    simp only [SessionIDManager.resumeSessionID, hmem, if_true]
    exact hh

theorem Inv.free {h h' : Holding} {e : Option SessionIDError} (hh : h.Inv) {sessionID : ℕ}
    (hheld : sessionID ∈ h.held) (hc : h.call (.free sessionID) = some (e, h')) : h'.Inv := by
  simp only [call, Option.some.injEq, Prod.mk.injEq] at hc
  obtain ⟨rfl, rfl⟩ := hc
  have hl := h.manager.layout_freeSessionID sessionID
  simp only [SessionIDManager.layout, Prod.mk.injEq] at hl
  obtain ⟨hsv, -, hbits, hmask⟩ := hl
  have hperm := (List.perm_cons_erase hheld).map (· &&& h.manager.sessionIDMask)
  have hnd := hperm.nodup_iff.1 hh.nodup
  rw [List.map_cons, List.nodup_cons] at hnd
  refine ⟨hh.manager.free _, by rw [hsv, hbits]; exact hh.server, by rw [hmask]; exact hnd.2, ?_⟩
  rw [hmask, SessionIDManager.freeSessionID_sessionIDs, hh.sessionIDs_eq,
    List.toFinset_eq_of_perm _ _ hperm, List.map_cons, List.toFinset_cons,
    Finset.erase_insert (by rw [List.mem_toFinset]; exact hnd.1)]

/-- One call keeps the allocator's invariant and layout, where every resume leaves the cursor
within the mask; the held IDs play no part. -/
theorem call_manager {h h' : Holding} {c : AllocatorCall} {e : Option SessionIDError}
    (hm : h.manager.Inv) (hk : ∀ sessionID, h.manager.resumeKeepsCursor sessionID)
    (hc : h.call c = some (e, h')) : h'.manager.Inv ∧ h'.manager.layout = h.manager.layout := by
  cases c with
  | alloc =>
    simp only [call, Option.map_eq_some'] at hc
    obtain ⟨r, hr, ⟨⟩⟩ := hc
    exact ⟨hm.alloc hr, SessionIDManager.layout_allocSessionID hr⟩
  | resume sessionID =>
    cases hc
    exact ⟨hm.resume (hk sessionID), SessionIDManager.layout_resumeSessionID _ _⟩
  | free sessionID =>
    cases hc
    exact ⟨hm.free sessionID, SessionIDManager.layout_freeSessionID _ _⟩

/-- The calls of a history whose frees pass held IDs keep the invariant, where every resume
leaves the cursor within the mask; the histories always complete. -/
theorem Inv.run {h : Holding} (hh : h.Inv) (calls : List AllocatorCall)
    (hf : h.freesHeld calls = true)
    (hk : ∀ h' : Holding, h'.manager.Inv → h'.manager.layout = h.manager.layout →
      ∀ sessionID, h'.manager.resumeKeepsCursor sessionID) :
    ∃ es h', h.run calls = some (es, h') ∧ h'.Inv ∧ h'.manager.layout = h.manager.layout := by
  induction calls generalizing h with
  | nil => exact ⟨[], h, rfl, hh, rfl⟩
  | cons c cs ih =>
    have hcall : ∃ e h', h.call c = some (e, h') ∧ h'.Inv := by
      cases c with
      | alloc =>
        rcases SessionIDManager.allocSessionID_spec hh.manager with ⟨-, hs⟩ | ⟨-, i, -, -, hs⟩ <;>
        · obtain ⟨r, hr⟩ : ∃ r, h.call .alloc = some r := ⟨_, by simp only [call, hs]; rfl⟩
          exact ⟨r.1, r.2, hr, hh.alloc hr⟩
      | resume sessionID => exact ⟨_, _, rfl, hh.resume (hk h hh.manager rfl sessionID) rfl⟩
      | free sessionID =>
        simp only [freesHeld, freeOk, Bool.and_eq_true, decide_eq_true_eq] at hf
        exact ⟨_, _, rfl, hh.free hf.1 rfl⟩
    obtain ⟨e, h₁, hc, hh₁⟩ := hcall
    have hl₁ := (call_manager hh.manager (hk h hh.manager rfl) hc).2
    rw [freesHeld_cons_of_call hc, Bool.and_eq_true] at hf
    obtain ⟨es, h', hr, hh', hl'⟩ := ih hh₁ hf.2 (fun h'' hm hl => hk h'' hm (hl.trans hl₁))
    exact ⟨e :: es, h', by rw [run_cons_of_call hc, hr]; rfl, hh', hl'.trans hl₁⟩

/-! ## §3. Histories prefix by prefix. -/

theorem run_append_of_run {h h' : Holding} {xs : List AllocatorCall}
    {es : List (Option SessionIDError)} (hx : h.run xs = some (es, h')) (ys : List AllocatorCall) :
    h.run (xs ++ ys) = (h'.run ys).map fun t => (es ++ t.1, t.2) := by
  induction xs generalizing h es with
  | nil => cases hx; simp
  | cons c cs ih =>
    simp only [run, Option.bind_eq_some, Option.map_eq_some'] at hx
    obtain ⟨⟨e, h₁⟩, hc, ⟨es', h₂⟩, ht, ⟨⟩⟩ := hx
    rw [List.cons_append, run_cons_of_call hc, ih ht, Option.map_map]
    rfl

theorem freesHeld_append_of_run {h h' : Holding} {xs : List AllocatorCall}
    {es : List (Option SessionIDError)} (hx : h.run xs = some (es, h')) (ys : List AllocatorCall) :
    h.freesHeld (xs ++ ys) = (h.freesHeld xs && h'.freesHeld ys) := by
  induction xs generalizing h es with
  | nil => cases hx; simp [freesHeld]
  | cons c cs ih =>
    simp only [run, Option.bind_eq_some, Option.map_eq_some'] at hx
    obtain ⟨⟨e, h₁⟩, hc, ⟨es', h₂⟩, ht, ⟨⟩⟩ := hx
    rw [List.cons_append, freesHeld_cons_of_call hc, freesHeld_cons_of_call hc, ih ht,
      Bool.and_assoc]

/-- A successful `AllocSessionID` hands its ID to the caller. -/
theorem call_alloc_of_ok {h : Holding} {id : ℕ} {m : SessionIDManager}
    (hs : h.manager.allocSessionID = some ((id, none), m)) :
    h.call .alloc = some (none, ⟨m, h.held ++ [id]⟩) := by
  simp only [call, hs, Option.map_some', if_true]

/-- Allocations only: no free to check. -/
@[simp] theorem freesHeld_replicate_alloc (h : Holding) (n : ℕ) :
    h.freesHeld (List.replicate n .alloc) = true := by
  induction n generalizing h with
  | zero => rfl
  | succ n ih => simp only [List.replicate_succ, freesHeld, freeOk, Bool.true_and]; split <;> simp [ih]

/-- **`n` allocations in a row** from a state the scan can run in, with room for them: each
succeeds, and the count and the held IDs grow by `n`. -/
theorem run_allocs {h : Holding} (hm : h.manager.ScanInv) (n : ℕ)
    (hn : h.manager.count + n ≤ h.manager.sessionIDMask + 1) :
    ∃ h', h.run (List.replicate n .alloc) = some (List.replicate n none, h') ∧
      h'.manager.ScanInv ∧ h'.manager.count = h.manager.count + n ∧
      h'.held.length = h.held.length + n ∧ h'.manager.sessionIDMask = h.manager.sessionIDMask := by
  induction n generalizing h with
  | zero => exact ⟨h, rfl, hm, rfl, rfl, rfl⟩
  | succ n ih =>
    rcases hm.allocSessionID_spec with ⟨hf, -⟩ | ⟨-, i, -, -, hs⟩
    · simp only [SessionIDManager.isFullWithoutLock, decide_eq_true_eq] at hf
      omega
    · have hc := call_alloc_of_ok hs
      obtain ⟨h', hr, hm', hcount, hlen, hmask⟩ :=
        @ih ⟨_, h.held ++ [h.manager.serverID ||| i]⟩ (hm.alloc hs) (by dsimp only; omega)
      refine ⟨h', ?_, hm', by rw [hcount]; dsimp only; omega, by simp [hlen]; omega, hmask⟩
      rw [List.replicate_succ, run_cons_of_call hc, hr]
      rfl

/-- Every history keeps the allocator's invariant and layout, where every resume leaves the
cursor within the mask. -/
theorem run_manager {h h' : Holding} {calls : List AllocatorCall} {es : List (Option SessionIDError)}
    (hm : h.manager.Inv)
    (hk : ∀ m : SessionIDManager, m.Inv → m.layout = h.manager.layout →
      ∀ sessionID, m.resumeKeepsCursor sessionID)
    (hr : h.run calls = some (es, h')) : h'.manager.Inv ∧ h'.manager.layout = h.manager.layout := by
  induction calls generalizing h es with
  | nil => cases hr; exact ⟨hm, rfl⟩
  | cons c cs ih =>
    simp only [run, Option.bind_eq_some, Option.map_eq_some'] at hr
    obtain ⟨⟨e, h₁⟩, hc, ⟨es', h₂⟩, ht, ⟨⟩⟩ := hr
    obtain ⟨hm₁, hl₁⟩ := call_manager hm (hk _ hm rfl) hc
    obtain ⟨hm', hl'⟩ := ih hm₁ (fun m hm hl => hk m hm (hl.trans hl₁)) ht
    exact ⟨hm', hl'.trans hl₁⟩

end Holding

/-! ## §4. The Bitcoin allocator. -/

/-- A stride of `0` never moves the cursor past the mask. -/
theorem SessionIDManager.Inv.resumeKeepsCursor_of_stride_zero {m : SessionIDManager} (hm : m.Inv)
    (h0 : m.allocInterval = 0) (sessionID : ℕ) : m.resumeKeepsCursor sessionID := fun _ => by
  have hlt : sessionID &&& m.sessionIDMask < 2 ^ 32 :=
    (Nat.lt_of_le_of_lt Nat.and_le_right (hm.lt_two_pow le_rfl)).trans_le
      (Nat.pow_le_pow_right Nat.zero_lt_two (by have := hm.bits_le; omega))
  rw [h0, Nat.add_zero, Nat.mod_eq_of_lt hlt]
  exact Nat.and_le_right

/-- Allocation reports full exactly where the state is full. -/
theorem SessionIDManager.ScanInv.allocSessionID_full_iff {m : SessionIDManager} (hm : m.ScanInv) :
    m.allocSessionID.map (·.1.2) = some (some .full) ↔ m.isFullWithoutLock = true := by
  rcases hm.allocSessionID_spec with ⟨hf, hs⟩ | ⟨hf, i, -, -, hs⟩ <;> simp [hs, hf]

/-- The allocators `NewStratumSessionManager` builds, with nothing held. -/
theorem Holding.Inv.start {c : ChainType} {sid : UInt8} {m : SessionIDManager}
    (h : sessionIDManagerFor c sid = .ok m) : (⟨m, []⟩ : Holding).Inv := by
  obtain ⟨hsv, hm⟩ := SessionIDManager.sessionIDManagerFor_inv h
  obtain ⟨-, rfl⟩ := SessionIDManager.sessionIDManagerFor_ok h
  exact ⟨hm, ⟨_, hsv⟩, List.nodup_nil, rfl⟩

/-- The Bitcoin allocator moves every cursor by a stride of `0`. -/
theorem bitcoin_stride {sid : UInt8} {m : SessionIDManager}
    (h : sessionIDManagerFor .bitcoin sid = .ok m) : m.allocInterval = 0 ∧ m.indexBits = 24 := by
  obtain ⟨-, rfl⟩ := SessionIDManager.sessionIDManagerFor_ok h
  exact ⟨rfl, rfl⟩

/-- **No slot is ever lost on the Bitcoin allocator.**  Every history from it that frees only
held IDs completes, and allocation then reports full exactly when `2 ^ 24` IDs are held. -/
theorem bitcoin_full_iff_all_held {sid : UInt8} {m : SessionIDManager}
    (hb : sessionIDManagerFor .bitcoin sid = .ok m) (calls : List AllocatorCall)
    (hf : (⟨m, []⟩ : Holding).freesHeld calls = true) :
    ∃ es h, (⟨m, []⟩ : Holding).run calls = some (es, h) ∧
      (h.manager.allocSessionID.map (·.1.2) = some (some .full) ↔ h.held.length = 2 ^ 24) := by
  obtain ⟨h0, hbits⟩ := bitcoin_stride hb
  obtain ⟨es, h, hr, hh, hl⟩ := (Holding.Inv.start hb).run calls hf fun h' hm hl =>
    hm.resumeKeepsCursor_of_stride_zero ((congrArg (·.2.1) hl).trans h0)
  have hbits' : h.manager.indexBits = 24 := (congrArg (·.2.2.1) hl).trans hbits
  exact ⟨es, h, hr, by rw [hh.manager.toScanInv.allocSessionID_full_iff, hh.isFull_iff, hbits']⟩

/-! ## §5. The Ethereum allocator loses a slot. -/

/-- The Ethereum allocator `NewStratumSessionManager` builds for a server ID that is set. -/
theorem sessionIDManagerFor_ethereum {sid : UInt8} (hsid : sid ≠ 0) :
    sessionIDManagerFor .ethereum sid = .ok ⟨sid.toNat <<< 16, ∅, 0, 128, 256, 16, 65535⟩ :=
  SessionIDManager.sessionIDManagerFor_eq .ethereum hsid

namespace SessionIDManager

/-- The resume of index `0xFFFF` moves the cursor to `0x100FF`, unmasked. -/
theorem resumeSessionID_edge (s : ℕ) :
    (⟨s <<< 16, ∅, 0, 128, 256, 16, 65535⟩ : SessionIDManager).resumeSessionID 0xFFFF =
      (none, ⟨s <<< 16, {0xFFFF}, 1, 0x100FF, 256, 16, 65535⟩) := by
  simp [resumeSessionID]

/-- The allocation after it sets bit `0x100FF`, past the mask. -/
theorem allocSessionID_edge (s : ℕ) :
    (⟨s <<< 16, {0xFFFF}, 1, 0x100FF, 256, 16, 65535⟩ : SessionIDManager).allocSessionID =
      some ((s <<< 16 ||| 0x100FF, none), ⟨s <<< 16, {0x100FF, 0xFFFF}, 2, 0x1FF, 256, 16, 65535⟩) := by
  have hscan : scanAllocIDx {0xFFFF} 65535 (65535 + 2) 0x100FF = some 0x100FF := by decide
  simp [allocSessionID, isFullWithoutLock, hscan]
  decide

/-- The index of the ID it returned is `0xFF`. -/
theorem edge_and_mask (s : ℕ) : (s <<< 16 ||| 0x100FF) &&& 65535 = 0xFF := by
  simpa using or_shiftLeft_and_mask s 0x100FF 16

/-- Freeing that ID clears nothing. -/
theorem freeSessionID_edge (s : ℕ) :
    (⟨s <<< 16, {0x100FF, 0xFFFF}, 2, 0x1FF, 256, 16, 65535⟩ : SessionIDManager).freeSessionID
      (s <<< 16 ||| 0x100FF) = ⟨s <<< 16, {0x100FF, 0xFFFF}, 2, 0x1FF, 256, 16, 65535⟩ :=
  freeSessionID_of_not_mem (by dsimp only; rw [edge_and_mask]; decide)

end SessionIDManager

namespace Holding

/-- The edge history: it frees a held ID, and leaves the bit of that ID set. -/
theorem edge_prefix (s : ℕ) :
    (⟨⟨s <<< 16, ∅, 0, 128, 256, 16, 65535⟩, []⟩ : Holding).freesHeld
        [.resume 0xFFFF, .alloc, .free (s <<< 16 ||| 0x100FF)] = true ∧
    (⟨⟨s <<< 16, ∅, 0, 128, 256, 16, 65535⟩, []⟩ : Holding).run
        [.resume 0xFFFF, .alloc, .free (s <<< 16 ||| 0x100FF)] =
      some ([none, none, none], ⟨⟨s <<< 16, {0x100FF, 0xFFFF}, 2, 0x1FF, 256, 16, 65535⟩, [0xFFFF]⟩) := by
  have hne : (0xFFFF : ℕ) ≠ s <<< 16 ||| 0x100FF := fun h => by
    have := SessionIDManager.edge_and_mask s
    rw [← h] at this
    exact absurd this (by decide)
  have h₁ : (⟨⟨s <<< 16, ∅, 0, 128, 256, 16, 65535⟩, []⟩ : Holding).call (.resume 0xFFFF) =
      some (none, ⟨⟨s <<< 16, {0xFFFF}, 1, 0x100FF, 256, 16, 65535⟩, [0xFFFF]⟩) := by
    simp only [call, SessionIDManager.resumeSessionID_edge]; rfl
  have h₂ := call_alloc_of_ok (h := ⟨_, [0xFFFF]⟩) (SessionIDManager.allocSessionID_edge s)
  have h₃ : (⟨⟨s <<< 16, {0x100FF, 0xFFFF}, 2, 0x1FF, 256, 16, 65535⟩,
        [0xFFFF] ++ [s <<< 16 ||| 0x100FF]⟩ : Holding).call (.free (s <<< 16 ||| 0x100FF)) =
      some (none, ⟨⟨s <<< 16, {0x100FF, 0xFFFF}, 2, 0x1FF, 256, 16, 65535⟩, [0xFFFF]⟩) := by
    simp [call, SessionIDManager.freeSessionID_edge, List.erase_cons_tail, hne]
  constructor
  · rw [freesHeld_cons_of_call h₁, freesHeld_cons_of_call h₂, freesHeld_cons_of_call h₃]
    simp [freeOk, freesHeld]
  · rw [run_cons_of_call h₁, run_cons_of_call h₂, run_cons_of_call h₃]
    rfl

/-- After the edge history, `65534` allocations succeed and leave `2 ^ 16 - 1` IDs held, and
allocation then reports full. -/
theorem edge_fill (s : ℕ) :
    (⟨⟨s <<< 16, ∅, 0, 128, 256, 16, 65535⟩, []⟩ : Holding).freesHeld
        ([.resume 0xFFFF, .alloc, .free (s <<< 16 ||| 0x100FF)] ++ List.replicate 65534 .alloc) = true ∧
    ∃ es h, (⟨⟨s <<< 16, ∅, 0, 128, 256, 16, 65535⟩, []⟩ : Holding).run
        ([.resume 0xFFFF, .alloc, .free (s <<< 16 ||| 0x100FF)] ++ List.replicate 65534 .alloc) =
        some (es, h) ∧
      h.held.length = 2 ^ 16 - 1 ∧ h.manager.allocSessionID.map (·.1.2) = some (some .full) := by
  obtain ⟨hf, hr⟩ := edge_prefix s
  have hm : (⟨s <<< 16, {0x100FF, 0xFFFF}, 2, 0x1FF, 256, 16, 65535⟩ : SessionIDManager).ScanInv :=
    ⟨by dsimp only; omega, rfl, rfl, by dsimp only; omega⟩
  obtain ⟨h, hr', hm', hcount, hlen, hmask⟩ :=
    @run_allocs ⟨_, [0xFFFF]⟩ hm 65534 (by dsimp only; omega)
  refine ⟨by rw [freesHeld_append_of_run hr, hf, freesHeld_replicate_alloc]; rfl,
    [none, none, none] ++ List.replicate 65534 none, h,
    by rw [run_append_of_run hr, hr', Option.map_some'], by rw [hlen]; exact (rfl : 1 + 65534 = 2 ^ 16 - 1), ?_⟩
  rw [hm'.allocSessionID_full_iff]
  simp only [SessionIDManager.isFullWithoutLock, hcount, hmask, decide_eq_true_eq]
  decide

end Holding

/-- **Allocation reports full exactly when every index is held** on the Bitcoin allocator,
after every history that frees only held IDs; not on the Ethereum allocator, where the edge
history and `65534` allocations leave `2 ^ 16 - 1` IDs held and allocation full. -/
theorem sessionID_capacity (sid : UInt8) (hsid : sid ≠ 0) :
    (∀ m, sessionIDManagerFor .bitcoin sid = .ok m → ∀ calls,
      (⟨m, []⟩ : Holding).freesHeld calls = true →
      ∃ es h, (⟨m, []⟩ : Holding).run calls = some (es, h) ∧
        (h.manager.allocSessionID.map (·.1.2) = some (some .full) ↔ h.held.length = 2 ^ 24)) ∧
    ∃ m, sessionIDManagerFor .ethereum sid = .ok m ∧
      (⟨m, []⟩ : Holding).freesHeld ([.resume 0xFFFF, .alloc, .free (m.serverID ||| 0x100FF)] ++
        List.replicate 65534 .alloc) = true ∧
      ∃ es h, (⟨m, []⟩ : Holding).run ([.resume 0xFFFF, .alloc, .free (m.serverID ||| 0x100FF)] ++
          List.replicate 65534 .alloc) = some (es, h) ∧
        h.held.length = 2 ^ 16 - 1 ∧ h.manager.allocSessionID.map (·.1.2) = some (some .full) :=
  ⟨fun _ hb => bitcoin_full_iff_all_held hb, _, sessionIDManagerFor_ethereum hsid, Holding.edge_fill _⟩

theorem sessionID_capacity_server_one :
    (1 : UInt8) ≠ 0 ∧
    (∀ m, sessionIDManagerFor .bitcoin 1 = .ok m → ∀ calls,
      (⟨m, []⟩ : Holding).freesHeld calls = true →
      ∃ es h, (⟨m, []⟩ : Holding).run calls = some (es, h) ∧
        (h.manager.allocSessionID.map (·.1.2) = some (some .full) ↔ h.held.length = 2 ^ 24)) ∧
    ∃ m, sessionIDManagerFor .ethereum 1 = .ok m ∧
      (⟨m, []⟩ : Holding).freesHeld ([.resume 0xFFFF, .alloc, .free (m.serverID ||| 0x100FF)] ++
        List.replicate 65534 .alloc) = true ∧
      ∃ es h, (⟨m, []⟩ : Holding).run ([.resume 0xFFFF, .alloc, .free (m.serverID ||| 0x100FF)] ++
          List.replicate 65534 .alloc) = some (es, h) ∧
        h.held.length = 2 ^ 16 - 1 ∧ h.manager.allocSessionID.map (·.1.2) = some (some .full) :=
  ⟨by decide, sessionID_capacity 1 (by decide)⟩

/-! ## §6. What `FreeSessionID` undoes. -/

namespace SessionIDManager

/-- `FreeSessionID` of the ID just resumed restores the bitset and the count, in every state. -/
theorem freeSessionID_resumeSessionID {m : SessionIDManager} {sessionID : ℕ}
    (h : (m.resumeSessionID sessionID).1 = none) :
    ((m.resumeSessionID sessionID).2.freeSessionID sessionID).sessionIDs = m.sessionIDs ∧
    ((m.resumeSessionID sessionID).2.freeSessionID sessionID).count = m.count := by
  have hn := (m.resumeSessionID_spec sessionID).1.1 h
  simp [resumeSessionID, freeSessionID, hn, Finset.erase_insert hn]

/-- `FreeSessionID` of the ID just allocated restores the bitset and the count, from an
invariant state whose server ID is a prefix. -/
theorem freeSessionID_allocSessionID {m m' : SessionIDManager} {id : ℕ} (hm : m.Inv)
    (hs : ∃ s, m.serverID = s <<< m.indexBits) (h : m.allocSessionID = some ((id, none), m')) :
    (m'.freeSessionID id).sessionIDs = m.sessionIDs ∧ (m'.freeSessionID id).count = m.count := by
  rcases allocSessionID_spec hm with ⟨-, hf⟩ | ⟨-, i, hn, hle, ha⟩
  · rw [hf] at h; cases h
  · rw [ha] at h; cases h
    obtain ⟨s, hsv⟩ := hs
    have hidx : (m.serverID ||| i) &&& m.sessionIDMask = i := by
      rw [hsv, hm.mask_eq]; exact prefix_or_and_mask (hm.lt_two_pow hle)
    simp [freeSessionID, hidx, Finset.erase_insert hn]

end SessionIDManager

/-- On the Bitcoin allocator, every state any history reaches is invariant with the server
prefix, so `FreeSessionID` undoes the allocation that follows. -/
theorem bitcoin_free_undoes_alloc {sid : UInt8} {m₀ : SessionIDManager}
    (hb : sessionIDManagerFor .bitcoin sid = .ok m₀) {calls : List AllocatorCall}
    {es : List (Option SessionIDError)} {h : Holding} (hr : (⟨m₀, []⟩ : Holding).run calls = some (es, h))
    {id : ℕ} {m' : SessionIDManager} (ha : h.manager.allocSessionID = some ((id, none), m')) :
    (m'.freeSessionID id).sessionIDs = h.manager.sessionIDs ∧
    (m'.freeSessionID id).count = h.manager.count := by
  have hi := Holding.Inv.start hb
  obtain ⟨hm, hl⟩ := Holding.run_manager hi.manager (fun _ hm hl =>
    hm.resumeKeepsCursor_of_stride_zero ((congrArg (·.2.1) hl).trans (bitcoin_stride hb).1)) hr
  obtain ⟨s, hs⟩ := hi.server
  refine SessionIDManager.freeSessionID_allocSessionID hm ⟨s, ?_⟩ ha
  rw [show h.manager.serverID = m₀.serverID from congrArg (·.1) hl,
    show h.manager.indexBits = m₀.indexBits from congrArg (·.2.2.1) hl, hs]

/-- **`FreeSessionID` undoes what it frees** after a successful resume in every state, and after
an allocation in every state a history reaches on the Bitcoin allocator; but on the Ethereum
allocator, after the resume of index `0xFFFF`, the allocation sets a bit its free never clears. -/
theorem free_undoes_alloc_resume (sid : UInt8) (hsid : sid ≠ 0) :
    (∀ (m : SessionIDManager) sessionID, (m.resumeSessionID sessionID).1 = none →
      ((m.resumeSessionID sessionID).2.freeSessionID sessionID).sessionIDs = m.sessionIDs ∧
      ((m.resumeSessionID sessionID).2.freeSessionID sessionID).count = m.count) ∧
    (∀ m₀, sessionIDManagerFor .bitcoin sid = .ok m₀ → ∀ calls es (h : Holding),
      (⟨m₀, []⟩ : Holding).run calls = some (es, h) → ∀ id m',
      h.manager.allocSessionID = some ((id, none), m') →
      (m'.freeSessionID id).sessionIDs = h.manager.sessionIDs ∧
      (m'.freeSessionID id).count = h.manager.count) ∧
    ∃ m, sessionIDManagerFor .ethereum sid = .ok m ∧ (m.resumeSessionID 0xFFFF).1 = none ∧
      ∃ id m', (m.resumeSessionID 0xFFFF).2.allocSessionID = some ((id, none), m') ∧
        (m'.freeSessionID id).sessionIDs ≠ (m.resumeSessionID 0xFFFF).2.sessionIDs :=
  ⟨fun _ _ h => SessionIDManager.freeSessionID_resumeSessionID h,
   fun _ hb _ _ _ hr _ _ ha => bitcoin_free_undoes_alloc hb hr ha,
   _, sessionIDManagerFor_ethereum hsid, by rw [SessionIDManager.resumeSessionID_edge], _, _,
   by rw [SessionIDManager.resumeSessionID_edge]; exact SessionIDManager.allocSessionID_edge _,
   by rw [SessionIDManager.freeSessionID_edge, SessionIDManager.resumeSessionID_edge]
      dsimp only; decide⟩

theorem free_undoes_alloc_resume_server_one :
    (1 : UInt8) ≠ 0 ∧
    (∀ (m : SessionIDManager) sessionID, (m.resumeSessionID sessionID).1 = none →
      ((m.resumeSessionID sessionID).2.freeSessionID sessionID).sessionIDs = m.sessionIDs ∧
      ((m.resumeSessionID sessionID).2.freeSessionID sessionID).count = m.count) ∧
    (∀ m₀, sessionIDManagerFor .bitcoin 1 = .ok m₀ → ∀ calls es (h : Holding),
      (⟨m₀, []⟩ : Holding).run calls = some (es, h) → ∀ id m',
      h.manager.allocSessionID = some ((id, none), m') →
      (m'.freeSessionID id).sessionIDs = h.manager.sessionIDs ∧
      (m'.freeSessionID id).count = h.manager.count) ∧
    ∃ m, sessionIDManagerFor .ethereum 1 = .ok m ∧ (m.resumeSessionID 0xFFFF).1 = none ∧
      ∃ id m', (m.resumeSessionID 0xFFFF).2.allocSessionID = some ((id, none), m') ∧
        (m'.freeSessionID id).sessionIDs ≠ (m.resumeSessionID 0xFFFF).2.sessionIDs :=
  ⟨by decide, free_undoes_alloc_resume 1 (by decide)⟩

/-! ## §7. NiceHash nonce blocks. -/

namespace SessionIDManager

/-- The high index byte of `s << 16 | x`, the two-byte NiceHash extraNonce's first byte. -/
theorem high_byte (s x : ℕ) : ((s <<< 16 ||| x) &&& 0xFFFF) >>> 8 = x % 65536 / 256 := by
  rw [Nat.shiftRight_eq_div_pow]
  exact congrArg (· / 2 ^ 8) (or_shiftLeft_and_mask s x 16)

/-- Distinct indices give distinct IDs. -/
theorem prefix_or_ne {s x y : ℕ} (hx : x < 2 ^ 16) (hy : y < 2 ^ 16) (hxy : x ≠ y) :
    s <<< 16 ||| x ≠ s <<< 16 ||| y := fun h => by
  have := congrArg (· &&& (2 ^ 16 - 1)) h
  simp only [prefix_or_and_mask hx, prefix_or_and_mask hy] at this
  exact hxy this

end SessionIDManager

namespace Holding

/-- The Ethereum allocator of prefix `serverID` and its callers after `n ≤ 256` allocations from
fresh: the indices `128 + 256 j` for `j < n`, one per `256`-block, and the cursor a stride on. -/
def strided (serverID n : ℕ) : Holding :=
  ⟨⟨serverID, (Finset.range n).image (128 + 256 * ·), n, (128 + 256 * n) % 2 ^ 16, 256, 16, 65535⟩,
    (List.range n).map (serverID ||| 128 + 256 * ·)⟩

theorem strided_zero (serverID : ℕ) :
    strided serverID 0 = ⟨⟨serverID, ∅, 0, 128, 256, 16, 65535⟩, []⟩ := rfl

/-- Below `256` allocations the cursor finds its block clear. -/
theorem call_strided {serverID n : ℕ} (hn : n < 256) :
    (strided serverID n).call .alloc = some (none, strided serverID (n + 1)) := by
  have hc : (128 + 256 * n) % 65536 = 128 + 256 * n := Nat.mod_eq_of_lt (by omega)
  have hnot : 128 + 256 * n ∉ (Finset.range n).image (128 + 256 * ·) := by
    simp only [Finset.mem_image, Finset.mem_range, not_exists, not_and]
    intro j hj; omega
  have hscan : scanAllocIDx ((Finset.range n).image (128 + 256 * ·)) 65535 65537
      (128 + 256 * n) = some (128 + 256 * n) := SessionIDManager.scanAllocIDx_of_not_mem hnot
  have hcur : (128 + 256 * n + 256) % 4294967296 &&& 65535 = (128 + 256 * (n + 1)) % 65536 := by
    rw [show (4294967296 : ℕ) = 2 ^ 32 from rfl, show (65535 : ℕ) = 2 ^ 16 - 1 from rfl,
      show (65536 : ℕ) = 2 ^ 16 from rfl, show 128 + 256 * n + 256 = 128 + 256 * (n + 1) by omega]
    exact SessionIDManager.wrap_and_mask (by decide)
  have hs : (strided serverID n).manager.allocSessionID =
      some ((serverID ||| 128 + 256 * n, none), (strided serverID (n + 1)).manager) := by
    simp [strided, SessionIDManager.allocSessionID, SessionIDManager.isFullWithoutLock, hc, hscan,
      hcur, Finset.range_succ, show ¬ 65535 < n by omega]
  rw [call_alloc_of_ok hs]
  simp [strided, List.range_succ]

theorem run_strided (serverID : ℕ) {n k : ℕ} (h : n + k ≤ 256) :
    (strided serverID n).run (List.replicate k .alloc) =
      some (List.replicate k none, strided serverID (n + k)) := by
  induction k generalizing n with
  | zero => rfl
  | succ k ih =>
    rw [List.replicate_succ, run_cons_of_call (call_strided (by omega)), ih (by omega),
      Nat.add_right_comm]
    rfl

/-- The high index bytes of the IDs the first `256` allocations hand out are `0, 1, …`. -/
theorem strided_high_bytes (s : ℕ) {n : ℕ} (hn : n ≤ 256) :
    (strided (s <<< 16) n).held.map (fun id => (id &&& 0xFFFF) >>> 8) = List.range n := by
  simp only [strided, List.map_map]
  refine (List.map_congr_left fun j hj => ?_).trans (List.map_id _)
  have := List.mem_range.1 hj
  simp only [Function.comp, SessionIDManager.high_byte, id]
  omega

/-- **The first lap of the cursor.**  The Ethereum allocator of prefix `serverID` after
`n ≤ 256` allocations from fresh and any frees: its layout, the cursor at block `n`, every set
index one the lap handed out, at most `n` counted, and the held IDs among the `n` handed out. -/
structure FirstLap (serverID n : ℕ) (h : Holding) : Prop where
  lap : n ≤ 256
  layout : h.manager.layout = (serverID, 256, 16, 65535)
  allocIDx : h.manager.allocIDx = (128 + 256 * n) % 2 ^ 16
  sessionIDs : ∀ i ∈ h.manager.sessionIDs, ∃ j < n, i = 128 + 256 * j
  count : h.manager.count ≤ n
  held : h.held.Sublist (strided serverID n).held

theorem FirstLap.strided (serverID : ℕ) {n : ℕ} (hn : n ≤ 256) :
    FirstLap serverID n (strided serverID n) := by
  refine ⟨hn, rfl, rfl, fun i hi => ?_, le_rfl, List.Sublist.refl _⟩
  obtain ⟨j, hj, rfl⟩ := Finset.mem_image.1 hi
  exact ⟨j, Finset.mem_range.1 hj, rfl⟩

/-- An ID stays held across the free of the ID of another index under the same prefix. -/
theorem mem_erase_of_index_ne {s x y : ℕ} {l : List ℕ} (hx : x < 2 ^ 16) (hy : y < 2 ^ 16)
    (hxy : x ≠ y) : s <<< 16 ||| x ∈ l.erase (s <<< 16 ||| y) ↔ s <<< 16 ||| x ∈ l :=
  List.mem_erase_of_ne (SessionIDManager.prefix_or_ne hx hy hxy)

/-- An allocation of the first lap takes the cursor's index, clear since the lap has not been
there. -/
theorem FirstLap.alloc {serverID n : ℕ} {h : Holding} (hf : FirstLap serverID n h) (hn : n < 256) :
    ∃ h', h.call .alloc = some (none, h') ∧ FirstLap serverID (n + 1) h' := by
  obtain ⟨hsv, hint, -, hmask⟩ := SessionIDManager.layout_eq_iff.1 hf.layout
  have hnot : 128 + 256 * n ∉ h.manager.sessionIDs := fun hm => by
    obtain ⟨j, hj, he⟩ := hf.sessionIDs _ hm
    omega
  have hfull : ¬ h.manager.sessionIDMask < h.manager.count := by have := hf.count; omega
  have hscan : scanAllocIDx h.manager.sessionIDs h.manager.sessionIDMask
      (h.manager.sessionIDMask + 2) h.manager.allocIDx = some (128 + 256 * n) := by
    rw [hf.allocIDx, Nat.mod_eq_of_lt (by omega), hmask]
    exact SessionIDManager.scanAllocIDx_of_not_mem hnot
  have hcur : (128 + 256 * n + h.manager.allocInterval) % 2 ^ 32 &&& h.manager.sessionIDMask =
      (128 + 256 * (n + 1)) % 2 ^ 16 := by
    rw [hint, hmask, show 128 + 256 * n + 256 = 128 + 256 * (n + 1) by omega,
      show (65535 : ℕ) = 2 ^ 16 - 1 from rfl]
    exact SessionIDManager.wrap_and_mask (by decide)
  have hs := call_alloc_of_ok (h := h) (by
    rw [SessionIDManager.allocSessionID, SessionIDManager.isFullWithoutLock, decide_eq_false hfull,
      if_neg Bool.false_ne_true, hscan]
    rfl)
  refine ⟨_, hs, ⟨by omega, hf.layout, hcur, fun i hi => ?_, by have := hf.count; simp; omega, ?_⟩⟩
  · rcases Finset.mem_insert.1 hi with rfl | hi
    · exact ⟨n, by omega, rfl⟩
    · obtain ⟨j, hj, rfl⟩ := hf.sessionIDs i hi
      exact ⟨j, by omega, rfl⟩
  · rw [hsv, show (Holding.strided serverID (n + 1)).held =
      (Holding.strided serverID n).held ++ [serverID ||| 128 + 256 * n] by
        simp [Holding.strided, List.range_succ]]
    exact hf.held.append (List.Sublist.refl _)

/-- A free keeps the lap where it is. -/
theorem FirstLap.free {serverID n : ℕ} {h : Holding} (hf : FirstLap serverID n h) (sessionID : ℕ) :
    FirstLap serverID n ⟨h.manager.freeSessionID sessionID, h.held.erase sessionID⟩ := by
  have hcur : (h.manager.freeSessionID sessionID).allocIDx = h.manager.allocIDx := by
    unfold SessionIDManager.freeSessionID; dsimp only; split <;> rfl
  have hcount : (h.manager.freeSessionID sessionID).count ≤ h.manager.count := by
    unfold SessionIDManager.freeSessionID; dsimp only; split <;> simp
  refine ⟨hf.lap, by simpa using hf.layout, hcur.trans hf.allocIDx, fun i hi => ?_,
    hcount.trans hf.count, (List.erase_sublist _ _).trans hf.held⟩
  rw [SessionIDManager.freeSessionID_sessionIDs] at hi
  exact hf.sessionIDs i (Finset.mem_of_mem_erase hi)

/-- Every history of allocations and frees within the first lap returns, and ends in it. -/
theorem FirstLap.run {serverID : ℕ} (calls : List AllocatorCall) :
    ∀ {n : ℕ} {h : Holding}, FirstLap serverID n h →
      (∀ c ∈ calls, ∀ sessionID, c ≠ .resume sessionID) → n + calls.count .alloc ≤ 256 →
      ∃ es h', h.run calls = some (es, h') ∧ FirstLap serverID (n + calls.count .alloc) h' := by
  induction calls with
  | nil => exact fun hf _ _ => ⟨[], _, rfl, hf⟩
  | cons c cs ih =>
    intro n h hf hres hn
    have hres' : ∀ c ∈ cs, ∀ sessionID, c ≠ .resume sessionID :=
      fun c hc => hres c (List.mem_cons_of_mem _ hc)
    cases c with
    | alloc =>
      rw [List.count_cons_self] at hn ⊢
      obtain ⟨h', hc, hf'⟩ := hf.alloc (by omega)
      obtain ⟨es, h'', hr, hf''⟩ := ih hf' hres' (by omega)
      exact ⟨_, h'', by rw [run_cons_of_call hc, hr]; rfl, by rwa [← Nat.add_assoc, Nat.add_right_comm]⟩
    | resume sessionID => exact absurd rfl (hres _ (List.mem_cons_self _ _) sessionID)
    | free sessionID =>
      rw [List.count_cons_of_ne (by simp)] at hn ⊢
      obtain ⟨es, h'', hr, hf''⟩ := ih (hf.free sessionID) hres' hn
      exact ⟨_, h'', by rw [run_cons_of_call (call_free _ _), hr]; rfl, hf''⟩

/-- Within the first lap the held IDs of prefix `s << 16` lie in distinct `256`-blocks. -/
theorem FirstLap.high_bytes_nodup {s n : ℕ} {h : Holding} (hf : FirstLap (s <<< 16) n h) :
    (h.held.map fun id => (id &&& 0xFFFF) >>> 8).Nodup := by
  have hr := strided_high_bytes s hf.lap
  exact (hr ▸ List.nodup_range n).sublist (hf.held.map _)

/-- The allocation at the end of the lap: the cursor is back at index `128`; where `128` is
held and `129` is not, the scan steps by one to `129`, in the same block. -/
theorem alloc_at_lap_end {m : SessionIDManager} (hcur : m.allocIDx = 128)
    (hmask : m.sessionIDMask = 65535) (h128 : 128 ∈ m.sessionIDs) (h129 : 129 ∉ m.sessionIDs)
    (hcount : m.count ≤ 65535) : ∃ m', m.allocSessionID = some ((m.serverID ||| 129, none), m') := by
  have hscan : scanAllocIDx m.sessionIDs m.sessionIDMask (m.sessionIDMask + 2) m.allocIDx =
      some 129 := by
    rw [hcur, hmask, show 65535 + 2 = 65536 + 1 from rfl, SessionIDManager.scanAllocIDx_of_mem h128]
    exact SessionIDManager.scanAllocIDx_of_not_mem h129
  rw [SessionIDManager.allocSessionID, SessionIDManager.isFullWithoutLock,
    decide_eq_false (by omega), if_neg Bool.false_ne_true, hscan]
  exact ⟨_, rfl⟩

/-- `256` allocations, the free of block `5`'s ID, one more allocation and the free of block
`6`'s: `255` IDs are held, the ones of indices `0x80` and `0x81` both, and none in block `5`,
which was free when the last allocation stepped into block `0`. -/
theorem free_block_history (s : ℕ) :
    (⟨⟨s <<< 16, ∅, 0, 128, 256, 16, 65535⟩, []⟩ : Holding).freesHeld (List.replicate 256 .alloc ++
        [.free (s <<< 16 ||| 0x580), .alloc, .free (s <<< 16 ||| 0x680)]) = true ∧
    ∃ es h, (⟨⟨s <<< 16, ∅, 0, 128, 256, 16, 65535⟩, []⟩ : Holding).run (List.replicate 256 .alloc ++
        [.free (s <<< 16 ||| 0x580), .alloc, .free (s <<< 16 ||| 0x680)]) = some (es, h) ∧
      h.held.length < 256 ∧ s <<< 16 ||| 0x80 ∈ h.held ∧ s <<< 16 ||| 0x81 ∈ h.held ∧
      ∀ id ∈ h.held, (id &&& 0xFFFF) >>> 8 ≠ 5 := by
  have hr := run_strided (s <<< 16) (n := 0) (k := 256) (by decide)
  rw [Nat.zero_add, strided_zero] at hr
  have hmem : ∀ j < 256, s <<< 16 ||| (128 + 256 * j) ∈ (strided (s <<< 16) 256).held :=
    fun j hj => List.mem_map.2 ⟨j, List.mem_range.2 hj, rfl⟩
  have hheld : ∀ id ∈ (strided (s <<< 16) 256).held, ∃ j < 256, id = s <<< 16 ||| (128 + 256 * j) :=
    fun id hid => by obtain ⟨j, hj, rfl⟩ := List.mem_map.1 hid; exact ⟨j, List.mem_range.1 hj, rfl⟩
  have hnodup : (strided (s <<< 16) 256).held.Nodup :=
    List.Nodup.of_map _ ((strided_high_bytes s le_rfl).symm ▸ List.nodup_range 256)
  have hlen : (strided (s <<< 16) 256).held.length = 256 := by simp [strided]
  have h128 : 128 ∈ (strided (s <<< 16) 256).manager.sessionIDs := Finset.mem_image.2 ⟨0, by simp, rfl⟩
  have hlap := FirstLap.strided (s <<< 16) (le_refl 256)
  -- From here on the state after `256` allocations is only what these facts say of it.
  generalize strided (s <<< 16) 256 = H at hr hmem hheld hnodup hlen h128 hlap
  -- The free of block `5` keeps the lap; the allocation after it is the lap's end.
  have hf := hlap.free (s <<< 16 ||| 0x580)
  have hl := SessionIDManager.layout_eq_iff.1 hf.layout
  have hmask : H.manager.sessionIDMask = 2 ^ 16 - 1 :=
    (SessionIDManager.layout_eq_iff.1 hlap.layout).2.2.2
  have h128' : 128 ∈ (H.manager.freeSessionID (s <<< 16 ||| 0x580)).sessionIDs := by
    rw [SessionIDManager.freeSessionID_sessionIDs, Finset.mem_erase, hmask,
      SessionIDManager.prefix_or_and_mask (by decide)]
    exact ⟨by decide, h128⟩
  obtain ⟨M, hM⟩ := alloc_at_lap_end (hf.allocIDx.trans (by decide)) hl.2.2.2 h128'
    (fun h => by obtain ⟨j, -, hj⟩ := hf.sessionIDs 129 h; omega) (hf.count.trans (by decide))
  rw [hl.1] at hM
  have ha : s <<< 16 ||| 0x580 ∈ H.held := hmem 5 (by decide)
  have hb : s <<< 16 ||| 0x680 ∈ H.held.erase (s <<< 16 ||| 0x580) ++ [s <<< 16 ||| 129] :=
    List.mem_append_left _ ((mem_erase_of_index_ne (by decide) (by decide) (by decide)).2
      (hmem 6 (by decide)))
  have hrun := run_append_of_run hr [.free (s <<< 16 ||| 0x580), .alloc, .free (s <<< 16 ||| 0x680)]
  rw [run_cons_of_call (call_free _ _), run_cons_of_call (call_alloc_of_ok hM),
    run_cons_of_call (call_free _ _)] at hrun
  refine ⟨?_, _, _, hrun, ?_, ?_, ?_, fun id hid => ?_⟩
  · rw [freesHeld_append_of_run hr, freesHeld_replicate_alloc, freesHeld_cons_of_call (call_free _ _),
      freesHeld_cons_of_call (call_alloc_of_ok hM), freesHeld_cons_of_call (call_free _ _)]
    simp only [freeOk, freesHeld, decide_eq_true ha, decide_eq_true hb, Bool.and_self]
  · rw [List.length_erase_of_mem hb, List.length_append, List.length_erase_of_mem ha, hlen,
      List.length_singleton]
    decide
  · exact (mem_erase_of_index_ne (by decide) (by decide) (by decide)).2
      (List.mem_append_left _ ((mem_erase_of_index_ne (by decide) (by decide) (by decide)).2
        (hmem 0 (by decide))))
  · exact (mem_erase_of_index_ne (by decide) (by decide) (by decide)).2
      (List.mem_append_right _ (List.mem_singleton_self _))
  · rcases List.mem_append.1 (List.mem_of_mem_erase hid) with hid | hid
    · obtain ⟨hid5, hid⟩ := hnodup.mem_erase_iff.1 hid
      obtain ⟨j, hj, rfl⟩ := hheld _ hid
      rw [SessionIDManager.high_byte]
      exact fun h5 => hid5 (by rw [show j = 5 by omega])
    · rw [List.mem_singleton.1 hid, SessionIDManager.high_byte]
      decide

end Holding

/-- **Within its first lap the Ethereum allocator keeps NiceHash blocks apart.**  On the
allocator `NewStratumSessionManager` builds for the Ethereum chain, every history of
`AllocSessionID` and `FreeSessionID` calls from fresh with at most `256` allocations returns,
and its held IDs have distinct high index bytes `(id & 0xFFFF) >> 8`, the first byte of the
two-byte extraNonce a NiceHash client gets. -/
theorem nicehash_first_lap_blocks_distinct (sid : UInt8) (hsid : sid ≠ 0) :
    ∃ m, sessionIDManagerFor .ethereum sid = .ok m ∧
      ∀ calls : List AllocatorCall, (∀ c ∈ calls, ∀ sessionID, c ≠ .resume sessionID) →
        calls.count .alloc ≤ 256 →
        ∃ es h, (⟨m, []⟩ : Holding).run calls = some (es, h) ∧
          (h.held.map fun id => (id &&& 0xFFFF) >>> 8).Nodup := by
  refine ⟨_, sessionIDManagerFor_ethereum hsid, fun calls hres hn => ?_⟩
  have hf := Holding.FirstLap.strided (sid.toNat <<< 16) (Nat.zero_le 256)
  rw [Holding.strided_zero] at hf
  obtain ⟨es, h, hr, hf'⟩ := hf.run calls hres (by omega)
  exact ⟨es, h, hr, hf'.high_bytes_nodup⟩

theorem nicehash_first_lap_blocks_distinct_server_one :
    (1 : UInt8) ≠ 0 ∧
    ∃ m, sessionIDManagerFor .ethereum 1 = .ok m ∧
      ∀ calls : List AllocatorCall, (∀ c ∈ calls, ∀ sessionID, c ≠ .resume sessionID) →
        calls.count .alloc ≤ 256 →
        ∃ es h, (⟨m, []⟩ : Holding).run calls = some (es, h) ∧
          (h.held.map fun id => (id &&& 0xFFFF) >>> 8).Nodup :=
  ⟨by decide, nicehash_first_lap_blocks_distinct 1 (by decide)⟩

/-- **After the first lap, an allocation shares a block beside a free one.**  On the Ethereum
allocator of server `1`: `256` allocations, the free of block `5`'s ID, one allocation and the
free of block `6`'s ID leave `255` IDs held, two of them in block `0`, while block `5` holds
none. -/
theorem nicehash_block_shared_beside_free_block :
    ∃ m, sessionIDManagerFor .ethereum 1 = .ok m ∧
      (⟨m, []⟩ : Holding).freesHeld (List.replicate 256 .alloc ++
        [.free (m.serverID ||| 0x580), .alloc, .free (m.serverID ||| 0x680)]) = true ∧
      ∃ es h, (⟨m, []⟩ : Holding).run (List.replicate 256 .alloc ++
          [.free (m.serverID ||| 0x580), .alloc, .free (m.serverID ||| 0x680)]) = some (es, h) ∧
        h.held.length < 256 ∧ m.serverID ||| 0x80 ∈ h.held ∧ m.serverID ||| 0x81 ∈ h.held ∧
        m.serverID ||| 0x80 ≠ m.serverID ||| 0x81 ∧
        ((m.serverID ||| 0x80) &&& 0xFFFF) >>> 8 = ((m.serverID ||| 0x81) &&& 0xFFFF) >>> 8 ∧
        ∀ id ∈ h.held, (id &&& 0xFFFF) >>> 8 ≠ 5 := by
  refine ⟨_, sessionIDManagerFor_ethereum (by decide), (Holding.free_block_history _).1, ?_⟩
  obtain ⟨es, h, hr, hlen, h80, h81, h5⟩ := (Holding.free_block_history (1 : UInt8).toNat).2
  refine ⟨es, h, hr, hlen, h80, h81,
    SessionIDManager.prefix_or_ne (by decide) (by decide) (by decide), ?_, h5⟩
  rw [SessionIDManager.high_byte, SessionIDManager.high_byte]

/-! ## §8. The count over every history, and the range it does not keep. -/

namespace SessionIDManager

/-- Construction, with any stride set after it, gives a state that keeps the count. -/
theorem CountInv.start {sid bits : UInt8} {m₀ : SessionIDManager}
    (h₀ : newSessionIDManager sid bits = .ok m₀) (interval : ℕ) :
    (m₀.setAllocInterval interval).CountInv := by
  obtain ⟨hb, rfl⟩ := newSessionIDManager_ok h₀
  exact ⟨hb, rfl, rfl⟩

/-- An allocation whose cursor is clear takes the cursor, wherever it points. -/
theorem allocSessionID_of_clear {m : SessionIDManager} (hf : m.isFullWithoutLock = false)
    (hc : m.allocIDx ∉ m.sessionIDs) :
    m.allocSessionID = some ((m.serverID ||| m.allocIDx, none),
      { m with sessionIDs := insert m.allocIDx m.sessionIDs, count := m.count + 1
               allocIDx := (m.allocIDx + m.allocInterval) % 2 ^ 32 &&& m.sessionIDMask }) := by
  simp only [allocSessionID, hf, Bool.false_eq_true, ite_false, scanAllocIDx_of_not_mem hc,
    Option.map_some']

/-- A resume of a clear index at or past the cursor moves the cursor to `idx + allocInterval`,
with no mask. -/
theorem resumeSessionID_of_clear {m : SessionIDManager} {sessionID : ℕ}
    (hc : sessionID &&& m.sessionIDMask ∉ m.sessionIDs)
    (hle : m.allocIDx ≤ sessionID &&& m.sessionIDMask) :
    m.resumeSessionID sessionID =
      (none, { m with sessionIDs := insert (sessionID &&& m.sessionIDMask) m.sessionIDs
                      count := m.count + 1
                      allocIDx := ((sessionID &&& m.sessionIDMask) + m.allocInterval) % 2 ^ 32 }) := by
  simp only [resumeSessionID, hc, hle, if_true, if_false]

end SessionIDManager

namespace Holding

/-- A successful `ResumeSessionID` hands the resumed ID to the caller. -/
theorem call_resume_of_ok {h : Holding} {sessionID : ℕ} {m : SessionIDManager}
    (hs : h.manager.resumeSessionID sessionID = (none, m)) :
    h.call (.resume sessionID) = some (none, ⟨m, h.held ++ [sessionID]⟩) := by
  simp only [call, hs, if_true]

/-- From an empty allocator whose cursor lies past the mask, the first allocation sets the
cursor's bit. -/
theorem alloc_past_mask {m : SessionIDManager} (hids : m.sessionIDs = ∅) (hcount : m.count = 0)
    (hcur : m.sessionIDMask < m.allocIDx) :
    ∃ h₁ h₂, (⟨m, []⟩ : Holding).run [] = some ([], h₁) ∧
      h₁.manager.sessionIDMask < h₁.manager.allocIDx ∧
      (⟨m, []⟩ : Holding).run [.alloc] = some ([none], h₂) ∧
      ∃ i ∈ h₂.manager.sessionIDs, h₂.manager.sessionIDMask < i := by
  rw [run_cons_of_call (call_alloc_of_ok (SessionIDManager.allocSessionID_of_clear ?full ?clear))]
  · exact ⟨_, _, rfl, hcur, rfl, _, Finset.mem_insert_self _ _, hcur⟩
  case full => simp [SessionIDManager.isFullWithoutLock, hcount]
  case clear => simp [hids]

/-- From an empty allocator whose cursor lies within the mask, a resume of the top index moves
the cursor past the mask by the stride, and the allocation that follows sets that bit. -/
theorem resume_top_then_alloc {m : SessionIDManager} (hids : m.sessionIDs = ∅) (hcount : m.count = 0)
    (hcur : m.allocIDx ≤ m.sessionIDMask) (hmask : 0 < m.sessionIDMask)
    (hpos : 0 < m.allocInterval) (hwrap : m.sessionIDMask + m.allocInterval < 2 ^ 32) :
    ∃ h₁ h₂, (⟨m, []⟩ : Holding).run [.resume m.sessionIDMask] = some ([none], h₁) ∧
      h₁.manager.sessionIDMask < h₁.manager.allocIDx ∧
      (⟨m, []⟩ : Holding).run [.resume m.sessionIDMask, .alloc] = some ([none, none], h₂) ∧
      ∃ i ∈ h₂.manager.sessionIDs, h₂.manager.sessionIDMask < i := by
  have hres := @call_resume_of_ok ⟨m, []⟩ _ _ (SessionIDManager.resumeSessionID_of_clear
    (by rw [Nat.and_self, hids]; exact Finset.not_mem_empty _) (by rw [Nat.and_self]; exact hcur))
  have hesc : m.sessionIDMask < ((m.sessionIDMask &&& m.sessionIDMask) + m.allocInterval) % 2 ^ 32 := by
    rw [Nat.and_self, Nat.mod_eq_of_lt hwrap]; omega
  rw [run_cons_of_call hres, run_cons_of_call hres, run_cons_of_call (call_alloc_of_ok
    (SessionIDManager.allocSessionID_of_clear ?full ?clear))]
  · exact ⟨_, _, rfl, hesc, rfl, _, Finset.mem_insert_self _ _, hesc⟩
  case full => simp [SessionIDManager.isFullWithoutLock, hcount]; omega
  case clear => simp [hids, Nat.mod_eq_of_lt hwrap]; omega

/-- One call from a state that keeps the count returns, to a state that keeps it. -/
theorem call_countInv {h : Holding} (hm : h.manager.CountInv) (c : AllocatorCall) :
    ∃ e h', h.call c = some (e, h') ∧ h'.manager.CountInv := by
  cases c with
  | alloc =>
    obtain ⟨r, m', hs, hm'⟩ := hm.alloc
    exact ⟨_, ⟨m', _⟩, by simp only [call, hs, Option.map_some']; rfl, hm'⟩
  | resume sessionID => exact ⟨_, _, rfl, hm.resume sessionID⟩
  | free sessionID => exact ⟨_, _, rfl, hm.free sessionID⟩

/-- **Every history returns**, from a state that keeps the count, to a state that keeps it. -/
theorem run_countInv {h : Holding} (hm : h.manager.CountInv) (calls : List AllocatorCall) :
    ∃ es h', h.run calls = some (es, h') ∧ h'.manager.CountInv := by
  induction calls generalizing h with
  | nil => exact ⟨[], h, rfl, hm⟩
  | cons c cs ih =>
    obtain ⟨e, h₁, hc, hm₁⟩ := call_countInv hm c
    obtain ⟨es, h', hr, hm'⟩ := ih hm₁
    exact ⟨e :: es, h', by rw [run_cons_of_call hc, hr]; rfl, hm'⟩

end Holding

/-- **The scan stops** in every state a history reaches from construction, with any server ID,
width and stride: when the allocator is not full, the loop of `AllocSessionID` meets a clear bit
within `2 ^ indexBits + 1` tests. -/
theorem scan_stops_when_not_full (sid bits : UInt8) (interval : UInt32) {m₀ : SessionIDManager}
    (h₀ : newSessionIDManager sid bits = .ok m₀) (calls : List AllocatorCall) :
    ∃ es h, (⟨m₀.setAllocInterval interval.toNat, []⟩ : Holding).run calls = some (es, h) ∧
      (h.manager.isFullWithoutLock = false →
        ∃ i, scanAllocIDx h.manager.sessionIDs h.manager.sessionIDMask
          (2 ^ h.manager.indexBits + 1) h.manager.allocIDx = some i ∧ i ∉ h.manager.sessionIDs) := by
  obtain ⟨es, h, hr, hm⟩ :=
    @Holding.run_countInv ⟨_, []⟩ (SessionIDManager.CountInv.start h₀ interval.toNat) calls
  exact ⟨es, h, hr, hm.scan_of_not_full⟩

theorem scan_stops_when_not_full_ethereum :
    ∃ m₀, newSessionIDManager 1 16 = .ok m₀ ∧
    ∃ es h, (⟨m₀.setAllocInterval (256 : UInt32).toNat, []⟩ : Holding).run
        [.resume 0xFFFF, .alloc] = some (es, h) ∧
      (h.manager.isFullWithoutLock = false →
        ∃ i, scanAllocIDx h.manager.sessionIDs h.manager.sessionIDMask
          (2 ^ h.manager.indexBits + 1) h.manager.allocIDx = some i ∧ i ∉ h.manager.sessionIDs) :=
  ⟨_, rfl, scan_stops_when_not_full 1 16 256 rfl _⟩

/-- **The count is the number of set bits** in every state a history reaches from construction,
with any server ID, width and stride; **the range is not kept**.  Below `8` index bits the seed
cursor `128` lies past the mask from the start, and the first allocation sets bit `128`.  From
`8` bits up, with a stride that does not wrap, a resume of the top index moves the cursor to
`sessionIDMask + allocInterval` unmasked, and the allocation that follows sets that bit. -/
theorem count_invariant_range_escapes (sid bits : UInt8) (interval : UInt32)
    {m₀ : SessionIDManager} (h₀ : newSessionIDManager sid bits = .ok m₀) :
    (∀ calls, ∃ es h, (⟨m₀.setAllocInterval interval.toNat, []⟩ : Holding).run calls = some (es, h) ∧
      h.manager.count = h.manager.sessionIDs.card) ∧
    (bits.toNat < 8 → ∃ h₁ h₂,
      (⟨m₀.setAllocInterval interval.toNat, []⟩ : Holding).run [] = some ([], h₁) ∧
      h₁.manager.sessionIDMask < h₁.manager.allocIDx ∧
      (⟨m₀.setAllocInterval interval.toNat, []⟩ : Holding).run [.alloc] = some ([none], h₂) ∧
      ∃ i ∈ h₂.manager.sessionIDs, h₂.manager.sessionIDMask < i) ∧
    (8 ≤ bits.toNat → 0 < interval.toNat → m₀.sessionIDMask + interval.toNat < 2 ^ 32 → ∃ h₁ h₂,
      (⟨m₀.setAllocInterval interval.toNat, []⟩ : Holding).run
        [.resume m₀.sessionIDMask] = some ([none], h₁) ∧
      h₁.manager.sessionIDMask < h₁.manager.allocIDx ∧
      (⟨m₀.setAllocInterval interval.toNat, []⟩ : Holding).run
        [.resume m₀.sessionIDMask, .alloc] = some ([none, none], h₂) ∧
      ∃ i ∈ h₂.manager.sessionIDs, h₂.manager.sessionIDMask < i) := by
  refine ⟨fun calls => ?_, fun hb => ?_, fun hb hpos hwrap => ?_⟩
  · obtain ⟨es, h, hr, hm⟩ :=
      @Holding.run_countInv ⟨_, []⟩ (SessionIDManager.CountInv.start h₀ interval.toNat) calls
    exact ⟨es, h, hr, hm.count_eq⟩
  · obtain ⟨-, rfl⟩ := SessionIDManager.newSessionIDManager_ok h₀
    have h128 : 2 ^ bits.toNat ≤ 2 ^ 7 := Nat.pow_le_pow_right Nat.zero_lt_two (by omega)
    exact Holding.alloc_past_mask rfl rfl (show 2 ^ bits.toNat - 1 < 128 by omega)
  · obtain ⟨-, rfl⟩ := SessionIDManager.newSessionIDManager_ok h₀
    have h256 : 2 ^ 8 ≤ 2 ^ bits.toNat := Nat.pow_le_pow_right Nat.zero_lt_two hb
    exact Holding.resume_top_then_alloc rfl rfl (show 128 ≤ 2 ^ bits.toNat - 1 by omega)
      (show 0 < 2 ^ bits.toNat - 1 by omega) hpos hwrap

theorem count_invariant_range_escapes_ethereum :
    ∃ m₀, newSessionIDManager 1 16 = .ok m₀ ∧
    (∀ calls, ∃ es h, (⟨m₀.setAllocInterval (256 : UInt32).toNat, []⟩ : Holding).run calls =
      some (es, h) ∧ h.manager.count = h.manager.sessionIDs.card) ∧
    ((16 : UInt8).toNat < 8 → ∃ h₁ h₂,
      (⟨m₀.setAllocInterval (256 : UInt32).toNat, []⟩ : Holding).run [] = some ([], h₁) ∧
      h₁.manager.sessionIDMask < h₁.manager.allocIDx ∧
      (⟨m₀.setAllocInterval (256 : UInt32).toNat, []⟩ : Holding).run [.alloc] = some ([none], h₂) ∧
      ∃ i ∈ h₂.manager.sessionIDs, h₂.manager.sessionIDMask < i) ∧
    (8 ≤ (16 : UInt8).toNat → 0 < (256 : UInt32).toNat →
      m₀.sessionIDMask + (256 : UInt32).toNat < 2 ^ 32 → ∃ h₁ h₂,
      (⟨m₀.setAllocInterval (256 : UInt32).toNat, []⟩ : Holding).run
        [.resume m₀.sessionIDMask] = some ([none], h₁) ∧
      h₁.manager.sessionIDMask < h₁.manager.allocIDx ∧
      (⟨m₀.setAllocInterval (256 : UInt32).toNat, []⟩ : Holding).run
        [.resume m₀.sessionIDMask, .alloc] = some ([none, none], h₂) ∧
      ∃ i ∈ h₂.manager.sessionIDs, h₂.manager.sessionIDMask < i) :=
  ⟨_, rfl, count_invariant_range_escapes 1 16 256 rfl⟩

end BtcPoolModules.StratumSwitcher
