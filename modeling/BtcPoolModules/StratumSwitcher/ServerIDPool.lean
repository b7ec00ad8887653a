/-
  BtcPoolModules.StratumSwitcher.ServerIDPool — the switchers of one pool taking their server
  IDs from one ZooKeeper directory, in any interleaving.  `NewStratumSessionManager`
  (`stratumSwitcher/StratumSessionManager.go`) keeps a configured `ServerID`; otherwise
  `AssignServerIDFromZK` reads the directory with `Children`, and its loop takes `NextClear` of
  that snapshot and `Create`s the ephemeral node of the ID.  The switchers' calls interleave
  with each other's and with other clients' `Create`s; no client deletes a child, so a child
  leaves the directory only with the session that created it.

  ZooKeeper keeps one child of a name (`Dir` carries it), its `Create` fails where the name is
  taken, and an ephemeral node lives as long as the session that created it.  The switcher
  never watches its node: when its session expires the node goes and the switcher keeps the
  ID.  The runs of the main results keep every session.

  Main results:
    * `run_serverIDs_unique` — in every run, each switcher assigned from ZooKeeper holds an ID
      in `[1, 255]` whose ephemeral child it owns, and no two hold the same ID.
    * `run_lost_race_loops` — a switcher whose ID another client took after its `Children`
      loops for good: no later run gives it an ID, however many IDs are free.
    * `run_accepted_sessionIDs_distinct` — sessions two switchers of the pool accept never
      share a session ID.
-/
import BtcPoolModules.StratumSwitcher.AssignServerID
import BtcPoolModules.StratumSwitcher.StratumSessionManager

namespace BtcPoolModules.StratumSwitcher.ServerIDPool

open AssignServerID

/-! ## §1. The assignment directory. -/

/-- A child of the assignment directory: its name, and the switcher whose session created it
as an ephemeral node, `none` for a node of another client. -/
structure Child where
  name : String
  owner : Option ℕ
  deriving DecidableEq, Repr

/-- The assignment directory as ZooKeeper keeps it: its children, no two of one name. -/
structure Dir where
  children : List Child
  nodup : (children.map Child.name).Nodup

namespace Dir

/-- The names `Children` returns. -/
def names (d : Dir) : List String := d.children.map Child.name

/-- ZooKeeper's `Create` of a child: `none` for `ErrNodeExists`, where a child has the name. -/
def create (d : Dir) (c : Child) : Option Dir :=
  if h : c.name ∈ d.names then none
  else some ⟨d.children ++ [c], by
    rw [List.map_append, List.nodup_append]
    exact ⟨d.nodup, List.nodup_singleton _, List.disjoint_singleton.2 h⟩⟩

/-- The session of switcher `i` expires: ZooKeeper deletes the ephemeral nodes it created. -/
def expire (d : Dir) (i : ℕ) : Dir :=
  ⟨d.children.filter (·.owner != some i), d.nodup.sublist ((List.filter_sublist _).map _)⟩

theorem create_eq_some {d d' : Dir} {c : Child} (h : d.create c = some d') :
    d'.children = d.children ++ [c] := by
  unfold create at h
  split at h
  · cases h
  · cases h; rfl

theorem create_eq_none {d : Dir} {c : Child} (h : c.name ∈ d.names) : d.create c = none := by
  rw [create, dif_pos h]

/-- Two children of one name are one child. -/
theorem eq_of_name_eq {d : Dir} {c c' : Child} (hc : c ∈ d.children) (hc' : c' ∈ d.children)
    (h : c.name = c'.name) : c = c' :=
  List.inj_on_of_nodup_map d.nodup hc hc' h

end Dir

/-! ## §2. The switchers and their runs. -/

/-- A switcher's configuration: the `ServerID` of its config file, `0` when unset, and the
`ServerID` its runtime data carried over an upgrade. -/
structure SwitcherConf where
  serverID : UInt8
  oldServerID : UInt8

/-- Where a switcher is: before its server ID, in the loop of `AssignServerIDFromZK` with the
bitset its `Children` gave, or returned. -/
inductive Pc where
  | start
  | loop (set : Finset ℕ)
  | done (r : Assigned)
  deriving DecidableEq

/-- The directory, and where each switcher is. -/
structure Pool where
  dir : Dir
  pcs : ℕ → Pc

/-- The pool before any switcher has its server ID. -/
def Pool.start (d : Dir) : Pool := ⟨d, fun _ => .start⟩

/-- Switcher `i` moves to `pc`. -/
def Pool.setPc (p : Pool) (i : ℕ) (pc : Pc) : Pool := { p with pcs := Function.update p.pcs i pc }

@[simp] theorem Pool.setPc_dir (p : Pool) (i : ℕ) (pc : Pc) : (p.setPc i pc).dir = p.dir := rfl

@[simp] theorem Pool.setPc_pcs_self (p : Pool) (i : ℕ) (pc : Pc) : (p.setPc i pc).pcs i = pc :=
  Function.update_same _ _ _

@[simp] theorem Pool.setPc_pcs_ne (p : Pool) {i j : ℕ} (pc : Pc) (h : j ≠ i) :
    (p.setPc i pc).pcs j = p.pcs j :=
  Function.update_noteq h _ _

/-- One event of a run. -/
inductive PoolEvent where
  /-- Switcher `i` starts: the check of its configured `ServerID`, then `AssignServerIDFromZK`
  up to `Children`, which returns the directory's children or, `some e`, the error `e`. -/
  | start (i : ℕ) (err : Option String)
  /-- One turn of switcher `i`'s loop: `NextClear`, then the `Create` of that ID's ephemeral
  node; `ok = false` where the connection fails the request. -/
  | turn (i : ℕ) (ok : Bool)
  /-- Another client creates the child `name`. -/
  | other (name : String)
  /-- Switcher `i`'s session expires. -/
  | expire (i : ℕ)
  deriving DecidableEq, Repr

/-- The switcher an event moves. -/
def PoolEvent.switcher : PoolEvent → Option ℕ
  | .start i _ | .turn i _ => some i
  | _ => none

/-- The event keeps every session. -/
def PoolEvent.keepsSessions : PoolEvent → Bool
  | .expire _ => false
  | _ => true

/-- One event, for the configured `ZKServerIDAssignDir` and each switcher's configuration.  A
configured `ServerID` is kept; an empty directory panics at `assignDir[:len(assignDir)-1]`; a
turn whose `Create` fails leaves the loop where it was, for `NextClear` to find the same ID. -/
def step (assignDir : String) (conf : ℕ → SwitcherConf) (p : Pool) : PoolEvent → Pool
  | .start i err =>
    match p.pcs i with
    | .start =>
      if (conf i).serverID ≠ 0 then p.setPc i (.done (.serverID (conf i).serverID.toNat))
      else if assignDir = "" then p.setPc i (.done .panic)
      else
        match err with
        | some e => p.setPc i (.done (.error e))
        | none => p.setPc i (.loop (childrenSet p.dir.names))
    | _ => p
  | .turn i ok =>
    match p.pcs i with
    | .loop set =>
      match nextClear set (conf i).oldServerID.toNat with
      | none => p.setPc i (.done (.error "server id is full"))
      | some newID =>
        match ok, p.dir.create ⟨toString newID, some i⟩ with
        | true, some d => { dir := d, pcs := Function.update p.pcs i (.done (.serverID newID)) }
        | _, _ => p
    | _ => p
  | .other name =>
    match p.dir.create ⟨name, none⟩ with
    | some d => { p with dir := d }
    | none => p
  | .expire i => { p with dir := p.dir.expire i }

/-- A run: the events in order. -/
def run (assignDir : String) (conf : ℕ → SwitcherConf) (p : Pool) (events : List PoolEvent) :
    Pool :=
  events.foldl (step assignDir conf) p

/-! ## §3. What one step changes. -/

section Steps

variable {assignDir : String} {conf : ℕ → SwitcherConf}

@[simp] theorem run_nil (p : Pool) : run assignDir conf p [] = p := rfl

@[simp] theorem run_cons (p : Pool) (e : PoolEvent) (es : List PoolEvent) :
    run assignDir conf p (e :: es) = run assignDir conf (step assignDir conf p e) es := rfl

/-- A switcher no event moves stays where it is. -/
theorem step_pcs_of_ne (p : Pool) {e : PoolEvent} {i : ℕ} (h : e.switcher ≠ some i) :
    (step assignDir conf p e).pcs i = p.pcs i := by
  cases e with
  | start j err =>
    have hij : i ≠ j := fun hij => h (hij ▸ rfl)
    simp only [step]
    split
    · split_ifs <;> (try split) <;> exact Pool.setPc_pcs_ne _ _ hij
    · rfl
  | turn j ok =>
    have hij : i ≠ j := fun hij => h (hij ▸ rfl)
    simp only [step]
    split
    · split
      · exact Pool.setPc_pcs_ne _ _ hij
      · split
        · exact Function.update_noteq hij _ _
        · rfl
    · rfl
  | other name => simp only [step]; split <;> rfl
  | expire j => rfl

/-- Only an expiry removes a child. -/
theorem step_children_subset (p : Pool) {e : PoolEvent} (hk : e.keepsSessions = true) :
    p.dir.children ⊆ (step assignDir conf p e).dir.children := by
  have hcreate {d d' : Dir} {c : Child} (h : d.create c = some d') : d.children ⊆ d'.children :=
    by rw [Dir.create_eq_some h]; exact List.subset_append_left _ _
  cases e with
  | start j err =>
    simp only [step]
    split <;> (try split_ifs) <;> (try split) <;> exact List.Subset.refl _
  | turn j ok =>
    simp only [step]
    split
    · split
      · exact List.Subset.refl _
      · split
        · exact hcreate ‹_›
        · exact List.Subset.refl _
    · exact List.Subset.refl _
  | other name =>
    simp only [step]
    split
    · exact hcreate ‹_›
    · exact List.Subset.refl _
  | expire j => cases hk

end Steps

/-! ## §4. Every assigned switcher owns its ID. -/

section Owned

variable {assignDir : String} {conf : ℕ → SwitcherConf}

/-- What holds of switcher `i` assigned from ZooKeeper: the bitset of its loop has bit `0`, and
the ID it returned lies in `[1, 255]` and names the ephemeral child its session created. -/
structure Holds (p : Pool) (i : ℕ) : Prop where
  loop : ∀ set, p.pcs i = .loop set → 0 ∈ set
  done : ∀ a, p.pcs i = .done (.serverID a) → 1 ≤ a ∧ a ≤ 255 ∧ ⟨toString a, some i⟩ ∈ p.dir.children

/-- A switcher that stays where it is keeps what holds of it while children only come. -/
theorem Holds.frame {p p' : Pool} {i : ℕ} (h : Holds p i) (hpc : p'.pcs i = p.pcs i)
    (hsub : p.dir.children ⊆ p'.dir.children) : Holds p' i :=
  ⟨fun set hs => h.loop set (hpc ▸ hs), fun a ha =>
    let ⟨h1, h2, h3⟩ := h.done a (hpc ▸ ha)
    ⟨h1, h2, hsub h3⟩⟩

/-- Switcher `i`'s own step keeps what holds of it, when it has no configured `ServerID`. -/
theorem Holds.step_self {p : Pool} {i : ℕ} (h : Holds p i) (hconf : (conf i).serverID = 0)
    {e : PoolEvent} (he : e.switcher = some i) : Holds (step assignDir conf p e) i := by
  cases e with
  | start j err =>
    cases he
    simp only [step]
    split
    · simp only [hconf, ne_eq, not_true_eq_false, if_false]
      split_ifs
      · exact ⟨by simp, by simp⟩
      · split
        · exact ⟨by simp, by simp⟩
        · exact ⟨fun set hs => by cases (Pool.setPc_pcs_self .. ▸ hs); exact zero_mem_childrenSet _,
            by simp⟩
    · exact h
  | turn j ok =>
    cases he
    simp only [step]
    split
    · rename_i set hset
      split
      · exact ⟨by simp, by simp⟩
      · rename_i newID hnext
        split
        · rename_i d hd
          obtain ⟨-, hlt, hnot⟩ := nextClear_some hnext
          have h0 : newID ≠ 0 := fun h0 => hnot (h0 ▸ h.loop set hset)
          refine ⟨by simp, fun a ha => ?_⟩
          cases (Function.update_same _ _ _).symm.trans ha
          exact ⟨Nat.one_le_iff_ne_zero.2 h0, by omega,
            by rw [Dir.create_eq_some hd]; exact List.mem_append_right _ (List.mem_singleton_self _)⟩
        · exact h
    · exact h
  | other name => cases he
  | expire j => cases he

/-- Every switcher without a configured `ServerID` is as `Holds` says. -/
def Inv (conf : ℕ → SwitcherConf) (p : Pool) : Prop := ∀ i, (conf i).serverID = 0 → Holds p i

theorem Inv.start (d : Dir) : Inv conf (Pool.start d) :=
  fun _ _ => ⟨fun _ h => (nomatch h), fun _ h => nomatch h⟩

theorem Inv.step {p : Pool} (h : Inv conf p) {e : PoolEvent} (hk : e.keepsSessions = true) :
    Inv conf (step assignDir conf p e) := fun i hconf => by
  by_cases he : e.switcher = some i
  · exact (h i hconf).step_self hconf he
  · exact (h i hconf).frame (step_pcs_of_ne p he) (step_children_subset p hk)

theorem Inv.run {p : Pool} (h : Inv conf p) {events : List PoolEvent}
    (hk : ∀ e ∈ events, e.keepsSessions = true) : Inv conf (run assignDir conf p events) := by
  induction events generalizing p with
  | nil => exact h
  | cons e es ih =>
    exact ih (h.step (hk e (List.mem_cons_self _ _))) fun e' he' => hk e' (List.mem_cons_of_mem _ he')

/-- Under `Inv`, one switcher holds an ID: its ephemeral child is the only child of that name. -/
theorem Inv.eq_of_serverID {p : Pool} (h : Inv conf p) {i j a : ℕ} (hi : (conf i).serverID = 0)
    (hj : (conf j).serverID = 0) (ha : p.pcs i = .done (.serverID a))
    (hb : p.pcs j = .done (.serverID a)) : i = j := by
  have hc := Dir.eq_of_name_eq ((h i hi).done a ha).2.2 ((h j hj).done a hb).2.2 rfl
  simpa using hc

/-- **No two switchers of the pool share a server ID.**  In every run that keeps the sessions,
where other clients only create children, from any directory and every switcher before its
server ID: each switcher without a configured `ServerID` that returned an ID holds one in
`[1, 255]`, its session owns the ephemeral child of that name, and no other such switcher holds
the same ID. -/
theorem run_serverIDs_unique (d : Dir) {events : List PoolEvent}
    (hk : ∀ e ∈ events, e.keepsSessions = true) :
    let p := run assignDir conf (Pool.start d) events
    (∀ i a, (conf i).serverID = 0 → p.pcs i = .done (.serverID a) →
      1 ≤ a ∧ a ≤ 255 ∧ ⟨toString a, some i⟩ ∈ p.dir.children) ∧
    (∀ i j a, (conf i).serverID = 0 → (conf j).serverID = 0 →
      p.pcs i = .done (.serverID a) → p.pcs j = .done (.serverID a) → i = j) := by
  have h : Inv conf (run assignDir conf (Pool.start d) events) := (Inv.start d).run hk
  exact ⟨fun i a hi ha => (h i hi).done a ha, fun i j a hi hj ha hb => h.eq_of_serverID hi hj ha hb⟩

end Owned

/-- An empty assignment directory. -/
def emptyDir : Dir := ⟨[], List.nodup_nil⟩

/-- Switchers with no configured `ServerID` and none carried over. -/
def unsetConf : ℕ → SwitcherConf := fun _ => ⟨0, 0⟩

theorem run_serverIDs_unique_two :
    let p := run "/switcher/serverid/" unsetConf (Pool.start emptyDir)
      [.start 0 none, .turn 0 true, .start 1 none, .turn 1 false, .turn 1 true]
    (∀ i a, (unsetConf i).serverID = 0 → p.pcs i = .done (.serverID a) →
      1 ≤ a ∧ a ≤ 255 ∧ ⟨toString a, some i⟩ ∈ p.dir.children) ∧
    (∀ i j a, (unsetConf i).serverID = 0 → (unsetConf j).serverID = 0 →
      p.pcs i = .done (.serverID a) → p.pcs j = .done (.serverID a) → i = j) :=
  run_serverIDs_unique emptyDir (by decide)

/-! ## §5. A switcher that lost the race. -/

section Race

variable {assignDir : String} {conf : ℕ → SwitcherConf}

/-- A switcher looping on an ID whose child is there stays in its loop, and the child stays. -/
theorem step_lost_race {p : Pool} {i : ℕ} {set : Finset ℕ} {x : ℕ} (hpc : p.pcs i = .loop set)
    (hx : nextClear set (conf i).oldServerID.toNat = some x) (htaken : toString x ∈ p.dir.names)
    {e : PoolEvent} (hk : e.keepsSessions = true) :
    (step assignDir conf p e).pcs i = .loop set ∧
      toString x ∈ (step assignDir conf p e).dir.names := by
  refine ⟨?_, List.map_subset _ (step_children_subset p hk) htaken⟩
  by_cases he : e.switcher = some i
  · cases e with
    | start j err => cases he; simp only [step, hpc]
    | turn j ok =>
      cases he
      cases ok <;> simp only [step, hpc, hx, Dir.create_eq_none (c := ⟨toString x, some i⟩) htaken]
    | other name => cases he
    | expire j => cases he
  · exact (step_pcs_of_ne p he).trans hpc

/-- **A switcher that lost the race for its ID loops for good.**  Once the child of the ID that
`NextClear` finds in a switcher's snapshot is there, taken by another switcher or client after
the switcher's `Children`, every later `Create` of the loop fails with `ErrNodeExists` and
`NextClear` finds the same ID again: in every run that keeps the sessions, where no client
deletes a child, the switcher is still in its loop, whatever IDs are free. -/
theorem run_lost_race_loops {p : Pool} {i : ℕ} {set : Finset ℕ} {x : ℕ}
    (hpc : p.pcs i = .loop set) (hx : nextClear set (conf i).oldServerID.toNat = some x)
    (htaken : toString x ∈ p.dir.names) (events : List PoolEvent)
    (hk : ∀ e ∈ events, e.keepsSessions = true) :
    (run assignDir conf p events).pcs i = .loop set := by
  induction events generalizing p with
  | nil => exact hpc
  | cons e es ih =>
    have hs : (step assignDir conf p e).pcs i = .loop set ∧ _ :=
      step_lost_race hpc hx htaken (hk e (List.mem_cons_self _ _))
    exact ih hs.1 hs.2 fun e' he' => hk e' (List.mem_cons_of_mem _ he')

end Race

/-- Two switchers read the empty directory; then the first takes ID `1`. -/
def raced : Pool :=
  run "/switcher/serverid/" unsetConf (Pool.start emptyDir) [.start 0 none, .start 1 none, .turn 0 true]

theorem run_lost_race_loops_second :
    (run "/switcher/serverid/" unsetConf raced [.turn 1 true, .other "7", .turn 1 true]).pcs 1 =
      .loop (childrenSet []) :=
  run_lost_race_loops (x := 1) rfl (by decide) (by decide) _ (by decide)

/-! ## §6. The pool's session IDs. -/

theorem uint8_toNat_ofNat {a : ℕ} (h : a ≤ 255) : (UInt8.ofNat a).toNat = a := by
  simp [UInt8.toNat, UInt8.ofNat]; omega

section Sessions

variable {assignDir : String} {conf : ℕ → SwitcherConf}

/-- **Sessions two switchers of the pool accept never share a session ID.**  Two switchers
without a configured `ServerID` that returned IDs `a` and `b` in a run that keeps the sessions,
where other clients only create children, build their allocators with `NewSessionIDManager(uint8(newID), indexBits)` for one chain type;
on clean runs of each (`cleanRun`), no session the one accepts has the session ID, the
`Extranonce1` of its miner, of a session the other accepts. -/
theorem run_accepted_sessionIDs_distinct (d : Dir) {events : List PoolEvent}
    (hk : ∀ e ∈ events, e.keepsSessions = true) {i j a b : ℕ} (hij : i ≠ j)
    (hi : (conf i).serverID = 0) (hj : (conf j).serverID = 0)
    (ha : (run assignDir conf (Pool.start d) events).pcs i = .done (.serverID a))
    (hb : (run assignDir conf (Pool.start d) events).pcs j = .done (.serverID b))
    {c : ChainType} {mi mj : SessionIDManager}
    (hmi : sessionIDManagerFor c (UInt8.ofNat a) = .ok mi)
    (hmj : sessionIDManagerFor c (UInt8.ofNat b) = .ok mj)
    {evsi evsj : List ManagerEvent} (hci : ManagerState.cleanRun ⟨mi, []⟩ evsi = true)
    (hcj : ManagerState.cleanRun ⟨mj, []⟩ evsj = true) :
    ∀ x ∈ (ManagerState.run ⟨mi, []⟩ evsi).sessions, x.resumed = false →
      ∀ y ∈ (ManagerState.run ⟨mj, []⟩ evsj).sessions, y.resumed = false →
        x.sessionID ≠ y.sessionID := by
  have h : Inv conf (run assignDir conf (Pool.start d) events) := (Inv.start d).run hk
  have hab : a ≠ b := fun hab => hij (h.eq_of_serverID hi hj ha (hab ▸ hb))
  intro x hx hxr y hy hyr hxy
  have hpx := ManagerState.run_accepted_prefix hmi hci x hx hxr
  rw [hxy, ManagerState.run_accepted_prefix hmj hcj y hy hyr,
    uint8_toNat_ofNat ((h i hi).done a ha).2.1, uint8_toNat_ofNat ((h j hj).done b hb).2.1] at hpx
  exact hab hpx.symm

end Sessions

/-- Switcher `0` takes ID `1`; switcher `1`, started after, takes ID `2`. -/
def servedPool : Pool :=
  run "/switcher/serverid/" unsetConf (Pool.start emptyDir)
    [.start 0 none, .turn 0 true, .start 1 none, .turn 1 true]

theorem run_accepted_sessionIDs_distinct_pair :
    ∃ mi mj, sessionIDManagerFor .bitcoin (UInt8.ofNat 1) = .ok mi ∧
      sessionIDManagerFor .bitcoin (UInt8.ofNat 2) = .ok mj ∧
      ∀ x ∈ (ManagerState.run ⟨mi, []⟩ [.accept, .accept]).sessions, x.resumed = false →
        ∀ y ∈ (ManagerState.run ⟨mj, []⟩ [.accept]).sessions, y.resumed = false →
          x.sessionID ≠ y.sessionID :=
  ⟨_, _, rfl, rfl, @run_accepted_sessionIDs_distinct "/switcher/serverid/" unsetConf emptyDir
    [.start 0 none, .turn 0 true, .start 1 none, .turn 1 true] (by decide) 0 1 1 2 (by decide) rfl rfl
    (by decide) (by decide) .bitcoin _ _ rfl rfl _ _ (by decide) (by decide)⟩

end BtcPoolModules.StratumSwitcher.ServerIDPool
