/-
  BtcPoolModules.StratumSwitcher.AssignServerID — `AssignServerIDFromZK` in
  `stratumSwitcher/StratumSessionManager.go`: a switcher started without a server ID picks the
  least free one from its old ID on, free meaning no child of the assignment directory in
  ZooKeeper names it, and claims it by creating that child.

  The children `Atoi` reads as numbers in `[1, 255]` go into a bitset of length `256` whose bit
  `0` is set; `NextClear` finds the least clear bit from the old ID on.  A `Create` may fail:
  another switcher took the ID in between, or the connection dropped.  The outcomes of the
  `Create` calls are the model's input, one per call; where they run out while the loop still
  runs, the result says so.  The metadata written into the node does not take part.

  Main results:
    * `assignServerIDFromZK_contract` — an ID is returned only after its `Create` succeeded, it
      lies in `[1, 255]`, and no child is ever tried; but "server id is full" is reported as
      soon as every ID from the old one on is a child, lower IDs free or not, and after a
      failed `Create` the loop tries the same ID again, without end.
-/
import Mathlib.Data.Finset.Basic
import Mathlib.Algebra.Group.Int

namespace BtcPoolModules.StratumSwitcher.AssignServerID

/-! ## §1. The children and the bitset. -/

/-- `strconv.Atoi`: an optional sign, then one or more decimal digits, the value within `int`'s
64 bits. -/
def atoi (s : String) : Option ℤ :=
  let (neg, digits) := match s.toList with
    | '+' :: ds => (false, ds)
    | '-' :: ds => (true, ds)
    | ds => (false, ds)
  if digits ≠ [] ∧ digits.all Char.isDigit then
    let n : ℤ := digits.foldl (fun acc c => 10 * acc + (c.toNat - '0'.toNat : ℕ)) 0
    let v := if neg then -n else n
    if -2 ^ 63 ≤ v ∧ v < 2 ^ 63 then some v else none
  else none

/-- The bitset `childrenSet`: bit `0`, and every child `Atoi` reads as a number in `[1, 255]`;
the others are logged and skipped. -/
def childrenSet (children : List String) : Finset ℕ :=
  insert 0 (children.filterMap fun idStr =>
    match atoi idStr with
    | some idInt => if 1 ≤ idInt ∧ idInt ≤ 255 then some idInt.toNat else none
    | none => none).toFinset

/-- `NextClear(i)` on the bitset of length `256`: the least clear index from `i` on, if any. -/
def nextClear (set : Finset ℕ) (i : ℕ) : Option ℕ :=
  (List.range' i (256 - i)).find? (· ∉ set)

/-! ## §2. The assignment loop. -/

/-- How `AssignServerIDFromZK` ends: with a server ID, with an error, by a panic, or not yet,
where the `Create` outcomes ran out while the loop still runs. -/
inductive Assigned where
  | serverID (id : ℕ)
  | error (msg : String)
  | panic
  | looping
  deriving DecidableEq, Repr

/-- The loop `for { newID, success := childrenSet.NextClear(idIndex) … }` over the outcomes of its
`Create` calls (`true` for success): the IDs whose node it tried to create, in order, and how it
ended.  Neither `idIndex` nor the bitset changes from one turn to the next. -/
def assignLoop (set : Finset ℕ) (idIndex : ℕ) (creates : List Bool) : List ℕ × Assigned :=
  match nextClear set idIndex with
  | none => ([], .error "server id is full")
  | some newID =>
    match creates with
    | [] => ([], .looping)
    | created :: rest =>
      if created then ([newID], .serverID newID)
      else
        let r := assignLoop set idIndex rest
        (newID :: r.1, r.2)

/-- `AssignServerIDFromZK(assignDir, oldServerID)`, given what `Children` returned for the
directory: `assignDir[:len(assignDir)-1]` panics on an empty directory; a failed `Children`
returns its error; then the loop from the old ID. -/
def assignServerIDFromZK (assignDir : String) (oldServerID : UInt8)
    (children : Except String (List String)) (creates : List Bool) : List ℕ × Assigned :=
  if assignDir = "" then ([], .panic)
  else
    match children with
    | .error e => ([], .error e)
    | .ok children => assignLoop (childrenSet children) oldServerID.toNat creates

/-! ## §3. `NextClear`. -/

theorem zero_mem_childrenSet (children : List String) : 0 ∈ childrenSet children :=
  Finset.mem_insert_self _ _

theorem nextClear_some {set : Finset ℕ} {i id : ℕ} (h : nextClear set i = some id) :
    i ≤ id ∧ id < 256 ∧ id ∉ set := by
  rw [nextClear, List.find?_range'_eq_some] at h
  obtain ⟨hn, hm, -⟩ := h
  rw [List.mem_range'_1] at hm
  exact ⟨hm.1, by omega, by simpa using hn⟩

theorem nextClear_none {set : Finset ℕ} {i : ℕ} (h : nextClear set i = none) :
    ∀ j, i ≤ j → j < 256 → j ∈ set := by
  rw [nextClear, List.find?_range'_eq_none] at h
  intro j hij hj
  simpa using h j hij (by omega)

theorem nextClear_eq_none_iff {set : Finset ℕ} {i : ℕ} (hi : i ≤ 256) :
    nextClear set i = none ↔ ∀ j, i ≤ j → j < 256 → j ∈ set := by
  refine ⟨nextClear_none, fun h => ?_⟩
  rw [nextClear, List.find?_range'_eq_none]
  intro j hij hj
  simpa using h j hij (by omega)

/-! ## §4. The loop. -/

section Loop

variable {set : Finset ℕ} {idIndex : ℕ}

theorem assignLoop_full (h : nextClear set idIndex = none) (creates : List Bool) :
    assignLoop set idIndex creates = ([], .error "server id is full") := by
  rw [assignLoop, h]

section Turn

variable {newID : ℕ} (h : nextClear set idIndex = some newID)
include h

theorem assignLoop_nil : assignLoop set idIndex [] = ([], .looping) := by
  rw [assignLoop, h]

theorem assignLoop_created (rest : List Bool) :
    assignLoop set idIndex (true :: rest) = ([newID], .serverID newID) := by
  rw [assignLoop, h]; rfl

theorem assignLoop_failed (rest : List Bool) :
    assignLoop set idIndex (false :: rest) =
      (newID :: (assignLoop set idIndex rest).1, (assignLoop set idIndex rest).2) := by
  rw [assignLoop, h]; rfl

/-- Every `Create` is for the ID `NextClear` found first. -/
theorem assignLoop_attempts (creates : List Bool) :
    ∀ x ∈ (assignLoop set idIndex creates).1, x = newID := by
  induction creates with
  | nil => simp [assignLoop_nil h]
  | cons ok rest ih =>
    cases ok
    · simpa [assignLoop_failed h] using ih
    · simp [assignLoop_created h]

/-- **The same ID again**: after `n` failed `Create` calls the loop has tried the first clear ID
`n` times and still runs. -/
theorem assignLoop_failures (n : ℕ) :
    assignLoop set idIndex (List.replicate n false) = (List.replicate n newID, .looping) := by
  induction n with
  | zero => exact assignLoop_nil h
  | succ n ih => rw [List.replicate_succ, assignLoop_failed h, ih]; rfl

end Turn

/-- An ID is returned only after its `Create`, the last one, succeeded. -/
theorem assignLoop_serverID {id : ℕ} (creates : List Bool)
    (h : (assignLoop set idIndex creates).2 = .serverID id) :
    nextClear set idIndex = some id ∧ ∃ n, creates[n]? = some true ∧
      (assignLoop set idIndex creates).1 = List.replicate (n + 1) id := by
  cases hn : nextClear set idIndex with
  | none => simp [assignLoop_full hn] at h
  | some newID =>
    induction creates with
    | nil => simp [assignLoop_nil hn] at h
    | cons ok rest ih =>
      cases ok
      · rw [assignLoop_failed hn] at h ⊢
        obtain ⟨he, n, hc, hr⟩ := ih h
        exact ⟨he, n + 1, by simpa using hc, by rw [hr]; cases he; rfl⟩
      · rw [assignLoop_created hn] at h ⊢
        cases h
        exact ⟨rfl, 0, by simp, rfl⟩

theorem assignLoop_full_iff (creates : List Bool) :
    (assignLoop set idIndex creates).2 = .error "server id is full" ↔ nextClear set idIndex = none := by
  refine ⟨fun hf => ?_, fun h => by rw [assignLoop_full h]⟩
  cases hn : nextClear set idIndex with
  | none => rfl
  | some id =>
    induction creates with
    | nil => simp [assignLoop_nil hn] at hf
    | cons ok rest ih =>
      cases ok
      · exact ih (by rwa [assignLoop_failed hn] at hf)
      · simp [assignLoop_created hn] at hf

end Loop

/-- **What `AssignServerIDFromZK` keeps and breaks**, on a directory that is set, as the
configuration loader makes sure.  It returns an ID only after that ID's `Create` succeeded, the
last one it made, and the ID lies in `[1, 255]`; it never tries a child.  But it reports
"server id is full" exactly when every ID from the old one on is a child, whatever the IDs
below; and after `n` failed `Create` calls it has tried one ID `n` times and still runs. -/
theorem assignServerIDFromZK_contract (assignDir : String) (oldServerID : UInt8)
    (children : List String) (hdir : assignDir ≠ "") :
    (∀ creates id, (assignServerIDFromZK assignDir oldServerID (.ok children) creates).2 = .serverID id →
      1 ≤ id ∧ id ≤ 255 ∧ ∃ n, creates[n]? = some true ∧
        (assignServerIDFromZK assignDir oldServerID (.ok children) creates).1 = List.replicate (n + 1) id) ∧
    (∀ creates, ∀ x ∈ (assignServerIDFromZK assignDir oldServerID (.ok children) creates).1,
      x ∉ childrenSet children) ∧
    (∀ creates, (assignServerIDFromZK assignDir oldServerID (.ok children) creates).2 =
        .error "server id is full" ↔
      ∀ j, oldServerID.toNat ≤ j → j < 256 → j ∈ childrenSet children) ∧
    (∀ id, nextClear (childrenSet children) oldServerID.toNat = some id → ∀ n,
      assignServerIDFromZK assignDir oldServerID (.ok children) (List.replicate n false) =
        (List.replicate n id, .looping)) := by
  simp only [assignServerIDFromZK, hdir, if_false]
  refine ⟨fun creates id h => ?_, fun creates x hx => ?_, fun creates => ?_,
    fun id h n => assignLoop_failures h n⟩
  · obtain ⟨hc, hn⟩ := assignLoop_serverID creates h
    obtain ⟨-, hlt, hnot⟩ := nextClear_some hc
    have h0 : id ≠ 0 := fun h0 => hnot (h0 ▸ zero_mem_childrenSet children)
    exact ⟨Nat.one_le_iff_ne_zero.2 h0, by omega, hn⟩
  · cases hc : nextClear (childrenSet children) oldServerID.toNat with
    | none => simp [assignLoop_full hc] at hx
    | some id => exact assignLoop_attempts hc creates x hx ▸ (nextClear_some hc).2.2
  · rw [assignLoop_full_iff, nextClear_eq_none_iff (oldServerID.toNat_lt_size).le]

theorem assignServerIDFromZK_contract_from_255 :
    "/switcher/serverid/" ≠ "" ∧
    (∀ creates id, (assignServerIDFromZK "/switcher/serverid/" 255 (.ok ["255"]) creates).2 =
        .serverID id →
      1 ≤ id ∧ id ≤ 255 ∧ ∃ n, creates[n]? = some true ∧
        (assignServerIDFromZK "/switcher/serverid/" 255 (.ok ["255"]) creates).1 =
          List.replicate (n + 1) id) ∧
    (∀ creates, ∀ x ∈ (assignServerIDFromZK "/switcher/serverid/" 255 (.ok ["255"]) creates).1,
      x ∉ childrenSet ["255"]) ∧
    (∀ creates, (assignServerIDFromZK "/switcher/serverid/" 255 (.ok ["255"]) creates).2 =
        .error "server id is full" ↔
      ∀ j, (255 : UInt8).toNat ≤ j → j < 256 → j ∈ childrenSet ["255"]) ∧
    (∀ id, nextClear (childrenSet ["255"]) (255 : UInt8).toNat = some id → ∀ n,
      assignServerIDFromZK "/switcher/serverid/" 255 (.ok ["255"]) (List.replicate n false) =
        (List.replicate n id, .looping)) :=
  ⟨by decide, assignServerIDFromZK_contract "/switcher/serverid/" 255 ["255"] (by decide)⟩

end BtcPoolModules.StratumSwitcher.AssignServerID
