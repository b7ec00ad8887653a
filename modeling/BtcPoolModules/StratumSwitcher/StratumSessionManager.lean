/-
  BtcPoolModules.StratumSwitcher.StratumSessionManager — the session manager's side of session
  IDs: `RunStratumSession`, `ResumeStratumSession`, and `Stop → ReleaseStratumSession →
  FreeSessionID` (`StratumSessionManager.go`, `StratumSession.go`), run as any sequence of
  accepts, upgrade resumes and stops.

  The model keeps the sessions that are not Stopped.  `Run` and `Resume` set `StatRunning`
  before any I/O, and every later failure of either goes through `Stop`, which is a `stop`
  event here; reconnects do not touch session IDs.

  Two paths of the source let sessions share an ID or carry a foreign prefix:
  `ResumeStratumSession` logs `ErrSessionIDOccupied` and runs the session anyway, and it never
  compares the resumed ID's high bits with `serverID`.  The first is an early return the source
  misses; the second is the design, since a resumed session must keep the ID its upstream and
  its miner already use.

  Main results:
    * `run_resumed_foreign_prefix` — one resume gives a live session another server's prefix.
    * `run_session_ids_unique` — on every run whose resumes find their index free and leave the
      cursor within the mask: live sessions hold distinct IDs and distinct indices, each set in
      the bitset, and every accepted session carries the server's prefix.
-/
import Mathlib.Data.List.Nodup
import BtcPoolModules.StratumSwitcher.SessionIDManager

namespace BtcPoolModules.StratumSwitcher

/-! ## §1. Runs of accepts, resumes and stops. -/

/-- A session that is not Stopped: its ID, and whether an upgrade resumed it. -/
structure LiveSession where
  sessionID : ℕ
  resumed : Bool
  deriving DecidableEq, Repr

/-- One event of a run of the manager. -/
inductive ManagerEvent where
  /-- `RunStratumSession` on an accepted connection: `AllocSessionID`, then `Run`. -/
  | accept
  /-- `ResumeStratumSession` with one session's runtime data: its `SessionID`, and whether both
  inherited sockets came back with a remote address. -/
  | resume (sessionID : ℕ) (connsAlive : Bool)
  /-- `Stop` of the `k`-th live session, whose `ReleaseStratumSession` frees its ID. -/
  | stop (k : ℕ)
  deriving DecidableEq, Repr

/-- The allocator and the live sessions, oldest first. -/
structure ManagerState where
  sessionIDManager : SessionIDManager
  sessions : List LiveSession

namespace ManagerState

/-- One event.  An allocation whose scan never stops would hang the accepting goroutine; no
state of the invariant reaches it (`allocSessionID_spec`). -/
def step (s : ManagerState) : ManagerEvent → ManagerState
  | .accept =>
    match s.sessionIDManager.allocSessionID with
    | some ((sessionID, none), m) =>
      { sessionIDManager := m, sessions := s.sessions ++ [⟨sessionID, false⟩] }
    | some ((_, some _), m) => { s with sessionIDManager := m }
    | none => s
  | .resume sessionID connsAlive =>
    if connsAlive then
      { sessionIDManager := (s.sessionIDManager.resumeSessionID sessionID).2
        sessions := s.sessions ++ [⟨sessionID, true⟩] }
    else s
  | .stop k =>
    match s.sessions[k]? with
    | some x =>
      { sessionIDManager := s.sessionIDManager.freeSessionID x.sessionID
        sessions := s.sessions.erase x }
    | none => s

/-- A run: the events in order. -/
def run (s : ManagerState) (evs : List ManagerEvent) : ManagerState := evs.foldl step s

@[simp] theorem run_nil (s : ManagerState) : s.run [] = s := rfl

@[simp] theorem run_cons (s : ManagerState) (e : ManagerEvent) (es : List ManagerEvent) :
    s.run (e :: es) = (s.step e).run es := rfl

/-- The index a live session holds in the bitset. -/
def index (s : ManagerState) (x : LiveSession) : ℕ :=
  x.sessionID &&& s.sessionIDManager.sessionIDMask

/-! ## §2. A resumed session with another server's prefix. -/

/-- **A resume keeps a foreign prefix.**  On the Bitcoin allocator of server `1`, resuming
session ID `0x02000005` runs a session whose high bits are `2`. -/
theorem run_resumed_foreign_prefix :
    ∃ m, sessionIDManagerFor .bitcoin 1 = .ok m ∧
      ∃ x ∈ ((⟨m, []⟩ : ManagerState).run [.resume 0x02000005 true]).sessions,
        x.sessionID >>> m.indexBits ≠ 1 :=
  ⟨_, rfl, ⟨0x02000005, true⟩, by decide, by decide⟩

/-! ## §3. The invariant of runs whose resumes are clean. -/

/-- A resume the two slips leave out: its index is free, and it leaves the cursor within the
mask.  Every other event is clean. -/
def resumeClean (s : ManagerState) : ManagerEvent → Bool
  | .resume sessionID true =>
    decide (sessionID &&& s.sessionIDManager.sessionIDMask ∉ s.sessionIDManager.sessionIDs) &&
      decide (s.sessionIDManager.resumeKeepsCursor sessionID)
  | _ => true

/-- Every resume of the run is clean at the state it meets. -/
def cleanRun : ManagerState → List ManagerEvent → Bool
  | _, [] => true
  | s, e :: es => s.resumeClean e && cleanRun (s.step e) es

/-- The manager's invariant for server `sid`: the allocator's, the prefix it was built with,
distinct indices for the live sessions, each set in the bitset, and the server's prefix on
every accepted session. -/
structure Inv (sid : ℕ) (s : ManagerState) : Prop where
  ids : s.sessionIDManager.Inv
  server : s.sessionIDManager.serverID = sid <<< s.sessionIDManager.indexBits
  nodup : (s.sessions.map s.index).Nodup
  mem : ∀ x ∈ s.sessions, s.index x ∈ s.sessionIDManager.sessionIDs
  accepted : ∀ x ∈ s.sessions, x.resumed = false → x.sessionID >>> s.sessionIDManager.indexBits = sid

/-- Appending a session whose index is clear keeps distinct indices distinct. -/
theorem nodup_append_clear {l : List LiveSession} {f : LiveSession → ℕ} {ids : Finset ℕ}
    {x : LiveSession} (hn : (l.map f).Nodup) (hmem : ∀ y ∈ l, f y ∈ ids) (hx : f x ∉ ids) :
    ((l ++ [x]).map f).Nodup := by
  rw [List.map_append, List.nodup_append]
  refine ⟨hn, List.nodup_singleton _, fun a ha hb => ?_⟩
  obtain ⟨y, hy, rfl⟩ := List.mem_map.1 ha
  rw [List.map_singleton, List.mem_singleton] at hb
  exact hx (hb ▸ hmem y hy)

/-- A step that keeps the mask keeps every session's index. -/
theorem index_mk {m : SessionIDManager} {l : List LiveSession} {s : ManagerState}
    (h : m.sessionIDMask = s.sessionIDManager.sessionIDMask) : (mk m l).index = s.index := by
  funext x; simp only [index, h]

theorem Inv.accept {sid : ℕ} {s : ManagerState} (h : s.Inv sid) : (s.step .accept).Inv sid := by
  rcases SessionIDManager.allocSessionID_spec h.ids with ⟨-, hf⟩ | ⟨-, i, hn, hle, hs⟩
  · simpa [step, hf] using h
  · simp only [step, hs]
    have hi := h.ids.lt_two_pow hle
    have hidx : s.index ⟨s.sessionIDManager.serverID ||| i, false⟩ = i := by
      simp only [index]; rw [h.server, h.ids.mask_eq]; exact SessionIDManager.prefix_or_and_mask hi
    have hnew : s.index ⟨s.sessionIDManager.serverID ||| i, false⟩ ∉ s.sessionIDManager.sessionIDs :=
      by rw [hidx]; exact hn
    refine ⟨h.ids.alloc hs, h.server, nodup_append_clear h.nodup h.mem hnew, ?_, ?_⟩
    · simp only [List.mem_append, List.mem_singleton]
      rintro x (hx | rfl)
      · exact Finset.mem_insert_of_mem (h.mem x hx)
      · show s.index _ ∈ insert i _
        rw [hidx]; exact Finset.mem_insert_self _ _
    · simp only [List.mem_append, List.mem_singleton]
      rintro x (hx | rfl) hr
      · exact h.accepted x hx hr
      · show (s.sessionIDManager.serverID ||| i) >>> s.sessionIDManager.indexBits = sid
        rw [h.server]; exact SessionIDManager.prefix_or_shiftRight hi

theorem Inv.resume {sid : ℕ} {s : ManagerState} (h : s.Inv sid) {sessionID : ℕ} {alive : Bool}
    (hc : s.resumeClean (.resume sessionID alive) = true) :
    (s.step (.resume sessionID alive)).Inv sid := by
  cases alive
  · exact h
  simp only [resumeClean, Bool.and_eq_true, decide_eq_true_eq] at hc
  obtain ⟨hn, hcur⟩ := hc
  have hset := (s.sessionIDManager.resumeSessionID_spec sessionID).2
  have hl := s.sessionIDManager.layout_resumeSessionID sessionID
  simp only [SessionIDManager.layout, Prod.mk.injEq] at hl
  obtain ⟨hsv, -, hbits, hmask⟩ := hl
  simp only [step, if_true]
  refine ⟨h.ids.resume hcur, by rw [hsv, hbits]; exact h.server, ?_, ?_, ?_⟩
  · rw [index_mk hmask]; exact nodup_append_clear h.nodup h.mem hn
  · rw [index_mk hmask]; simp only [hset, List.mem_append, List.mem_singleton]
    rintro x (hx | rfl)
    · exact Finset.mem_insert_of_mem (h.mem x hx)
    · exact Finset.mem_insert_self _ _
  · simp only [hbits, List.mem_append, List.mem_singleton]
    rintro x (hx | rfl) hr
    · exact h.accepted x hx hr
    · cases hr

theorem Inv.stop {sid : ℕ} {s : ManagerState} (h : s.Inv sid) (k : ℕ) :
    (s.step (.stop k)).Inv sid := by
  simp only [step]
  split
  · rename_i x hx
    have hl := s.sessionIDManager.layout_freeSessionID x.sessionID
    simp only [SessionIDManager.layout, Prod.mk.injEq] at hl
    obtain ⟨hsv, -, hbits, hmask⟩ := hl
    have hperm := (List.perm_cons_erase (List.getElem?_mem hx)).map s.index
    have hnd := hperm.nodup_iff.1 h.nodup
    rw [List.map_cons, List.nodup_cons] at hnd
    refine ⟨h.ids.free _, by rw [hsv, hbits]; exact h.server, by rw [index_mk hmask]; exact hnd.2,
      ?_, ?_⟩
    · rw [index_mk hmask]
      intro y hy
      simp only [SessionIDManager.freeSessionID_sessionIDs, Finset.mem_erase]
      refine ⟨fun he => hnd.1 ?_, h.mem y (List.mem_of_mem_erase hy)⟩
      rw [show s.index x = s.index y from he.symm]
      exact List.mem_map_of_mem _ hy
    · rw [hbits]; exact fun y hy => h.accepted y (List.mem_of_mem_erase hy)
  · exact h

/-- **Run lemma.**  Every clean run keeps the invariant. -/
theorem Inv.run {sid : ℕ} {s : ManagerState} (h : s.Inv sid) (evs : List ManagerEvent)
    (hc : s.cleanRun evs = true) : (s.run evs).Inv sid := by
  induction evs generalizing s with
  | nil => exact h
  | cons e es ih =>
    simp only [cleanRun, Bool.and_eq_true] at hc
    rw [run_cons]
    refine ih ?_ hc.2
    cases e with
    | accept => exact h.accept
    | resume sessionID alive => exact h.resume hc.1
    | stop k => exact h.stop k

/-- Every event keeps the allocator's layout. -/
theorem step_layout (s : ManagerState) (e : ManagerEvent) :
    (s.step e).sessionIDManager.layout = s.sessionIDManager.layout := by
  cases e with
  | accept =>
    simp only [step]
    split
    · exact SessionIDManager.layout_allocSessionID ‹_›
    · exact SessionIDManager.layout_allocSessionID ‹_›
    · rfl
  | resume sessionID alive => cases alive <;> simp [step]
  | stop k => simp only [step]; split <;> simp

theorem run_layout (s : ManagerState) (evs : List ManagerEvent) :
    (s.run evs).sessionIDManager.layout = s.sessionIDManager.layout := by
  induction evs generalizing s with
  | nil => rfl
  | cons e es ih => rw [run_cons, ih, step_layout]

/-- On the allocator `NewStratumSessionManager` builds for server `sid`, every session a clean
run accepts carries `sid` above the chain type's index bits. -/
theorem run_accepted_prefix {c : ChainType} {sid : UInt8} {m : SessionIDManager}
    (hm : sessionIDManagerFor c sid = .ok m) {evs : List ManagerEvent}
    (hc : cleanRun ⟨m, []⟩ evs = true) :
    ∀ x ∈ (run ⟨m, []⟩ evs).sessions, x.resumed = false →
      x.sessionID >>> c.indexBits.toNat = sid.toNat := by
  obtain ⟨hserver, hinv⟩ := SessionIDManager.sessionIDManagerFor_inv hm
  have h0 : Inv sid.toNat ⟨m, []⟩ := ⟨hinv, hserver, List.nodup_nil, by simp, by simp⟩
  have hbits : (run ⟨m, []⟩ evs).sessionIDManager.indexBits = c.indexBits.toNat :=
    (congrArg (·.2.2.1) (run_layout ⟨m, []⟩ evs)).trans
      (SessionIDManager.sessionIDManagerFor_indexBits hm)
  rw [← hbits]
  exact (h0.run evs hc).accepted

end ManagerState

/-- **Live sessions hold distinct IDs.**  From the allocator the manager builds for any chain
type and server ID, on every run whose resumes find their index free and leave the cursor
within the mask: no two live sessions share a session ID, nor even an index, each live
session's index is set in the bitset, and every accepted session's high bits are the server
ID. -/
theorem run_session_ids_unique {c : ChainType} {sid : UInt8} {m : SessionIDManager}
    (hm : sessionIDManagerFor c sid = .ok m) (evs : List ManagerEvent)
    (hc : ManagerState.cleanRun ⟨m, []⟩ evs = true) :
    let s := ManagerState.run ⟨m, []⟩ evs
    (s.sessions.map (·.sessionID)).Nodup ∧
      (s.sessions.map (·.sessionID &&& s.sessionIDManager.sessionIDMask)).Nodup ∧
      (∀ x ∈ s.sessions, x.sessionID &&& s.sessionIDManager.sessionIDMask ∈
        s.sessionIDManager.sessionIDs) ∧
      (∀ x ∈ s.sessions, x.resumed = false →
        x.sessionID >>> s.sessionIDManager.indexBits = sid.toNat) := by
  obtain ⟨hserver, hinv⟩ := SessionIDManager.sessionIDManagerFor_inv hm
  have h0 : ManagerState.Inv sid.toNat ⟨m, []⟩ := ⟨hinv, hserver, List.nodup_nil, by simp, by simp⟩
  have h := h0.run evs hc
  exact ⟨.of_map (· &&& _) (by rw [List.map_map]; exact h.nodup), h.nodup, h.mem, h.accepted⟩

/-- A clean run of accepts, a resume and a stop on the Bitcoin allocator of server `1`. -/
theorem run_session_ids_unique_bitcoin :
    ∃ m, sessionIDManagerFor .bitcoin 1 = .ok m ∧
      ManagerState.cleanRun ⟨m, []⟩ [.accept, .resume 0x01000005 true, .accept, .stop 0] = true ∧
      let s := ManagerState.run ⟨m, []⟩ [.accept, .resume 0x01000005 true, .accept, .stop 0]
      (s.sessions.map (·.sessionID)).Nodup ∧
        (s.sessions.map (·.sessionID &&& s.sessionIDManager.sessionIDMask)).Nodup ∧
        (∀ x ∈ s.sessions, x.sessionID &&& s.sessionIDManager.sessionIDMask ∈
          s.sessionIDManager.sessionIDs) ∧
        (∀ x ∈ s.sessions, x.resumed = false →
          x.sessionID >>> s.sessionIDManager.indexBits = (1 : UInt8).toNat) :=
  ⟨_, rfl, by decide, @run_session_ids_unique .bitcoin 1 _ rfl _ (by decide)⟩

end BtcPoolModules.StratumSwitcher
