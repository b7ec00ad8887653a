/-
  BtcPoolModules.StratumSwitcher.ZookeeperManager — the coordinator watches
  (`ZookeeperManager.go`).  `GetW` hands a session a delivery channel for a node path,
  `ReleaseW` takes it back, and each path's `NodeWatcher.Run` goroutine forwards the
  coordinator's one-shot watch event to every channel of its path.

  A step is one locked section of the manager: `GetW`, `ReleaseW`, or the section of
  `NodeWatcher.Run` after its watch fired (the receive before it touches nothing shared).
  Each `make(chan zk.Event, 1)` gets the next channel number, and the model records what was
  done to every channel: events sent, closes, and whether an event came after a close.  Go
  maps are association lists with distinct keys (`AList`).

  Main results:
    * `run_chans_safe` — in every run every channel is closed at most once, is sent at most
      one event, and none after it was closed; so no send of `NodeWatcher.Run` finds the
      one-slot buffer full.
    * `getW_twice_orphans_channel` — after two `GetW` of one path and session ID the first
      channel is registered nowhere and is never sent to nor closed, whatever follows.
-/
import Mathlib.Data.List.AList

namespace BtcPoolModules.StratumSwitcher

/-! ## §1. Channels, watchers, the manager. -/

/-- A delivery channel `make(chan zk.Event, 1)`: what was done to it. -/
structure Chan where
  sent : ℕ
  closes : ℕ
  sentAfterClose : Bool
  deriving DecidableEq, Repr

namespace Chan

/-- A channel just made. -/
def fresh : Chan := ⟨0, 0, false⟩

/-- `eventChan <- event`. -/
def send (c : Chan) : Chan :=
  { c with sent := c.sent + 1, sentAfterClose := c.sentAfterClose || decide (0 < c.closes) }

/-- `close(eventChan)`. -/
def close (c : Chan) : Chan := { c with closes := c.closes + 1 }

/-- Closed at most once, at most one event, and none after the close. -/
def Safe (c : Chan) : Prop := c.closes ≤ 1 ∧ c.sent ≤ 1 ∧ c.sentAfterClose = false

instance : DecidablePred Safe := fun _ => inferInstanceAs (Decidable (_ ∧ _ ∧ _))

theorem fresh_safe : fresh.Safe := by decide

theorem fresh_close_safe : fresh.close.Safe := by decide

theorem fresh_send_close_safe : fresh.send.close.Safe := by decide

end Chan

/-- `NodeWatcher`: the node value read when it was made, and `watcherChannels`. -/
structure NodeWatcher where
  nodeValue : String
  watcherChannels : AList fun _ : ℕ => ℕ

/-- `ZookeeperManager`: `watcherMap`, and the channels it has made. -/
structure ZookeeperManager where
  watcherMap : AList fun _ : String => NodeWatcher
  chans : List Chan

/-- One locked section of the manager. -/
inductive ZkEvent where
  /-- `GetW(path, sessionID)`; `zkGetW` is what the coordinator's `GetW` returns when the path
  has no watcher yet, `none` for its error. -/
  | getW (path : String) (sessionID : ℕ) (zkGetW : Option String)
  | releaseW (path : String) (sessionID : ℕ)
  /-- The watch of `path`'s watcher fired and its `Run` goroutine took the lock. -/
  | fire (path : String)

namespace ZookeeperManager

/-! ## §2. The operations. -/

/-- `NewZookeeperManager`'s empty map. -/
def empty : ZookeeperManager := ⟨∅, []⟩

/-- The channel `watcherMap[path].watcherChannels[sessionID]`. -/
def channelOf (m : ZookeeperManager) (path : String) (sessionID : ℕ) : Option ℕ :=
  (m.watcherMap.lookup path).bind fun w => w.watcherChannels.lookup sessionID

/-- `eventChan := make(chan zk.Event, 1)` and `watcher.watcherChannels[sessionID] = eventChan`,
with `watcher` stored at `path`. -/
def addChannel (m : ZookeeperManager) (path : String) (sessionID : ℕ) (w : NodeWatcher) :
    ZookeeperManager :=
  { watcherMap := m.watcherMap.insert path
      { w with watcherChannels := w.watcherChannels.insert sessionID m.chans.length }
    chans := m.chans ++ [Chan.fresh] }

/-- `GetW(path, sessionID)`: the node value and the new channel, or `none` for an error. -/
def getW (m : ZookeeperManager) (path : String) (sessionID : ℕ) (zkGetW : Option String) :
    Option (String × ℕ) × ZookeeperManager :=
  match m.watcherMap.lookup path with
  | some w => (some (w.nodeValue, m.chans.length), m.addChannel path sessionID w)
  | none =>
    match zkGetW with
    | some nodeValue =>
      (some (nodeValue, m.chans.length), m.addChannel path sessionID ⟨nodeValue, ∅⟩)
    | none => (none, m)

/-- `ReleaseW(path, sessionID)`: close the channel and delete it from the watcher. -/
def releaseW (m : ZookeeperManager) (path : String) (sessionID : ℕ) : ZookeeperManager :=
  match m.watcherMap.lookup path with
  | none => m
  | some w =>
    match w.watcherChannels.lookup sessionID with
    | none => m
    | some c =>
      { watcherMap := m.watcherMap.insert path
          { w with watcherChannels := w.watcherChannels.erase sessionID }
        chans := m.chans.modify Chan.close c }

/-- Send the event on a channel, then close it: the body of `NodeWatcher.Run`'s loop. -/
def sendAndClose (cs : List Chan) (c : ℕ) : List Chan := cs.modify (fun ch => ch.send.close) c

/-- The locked section of `NodeWatcher.Run` once the watch of `path` fired: every channel gets
the event and is closed, then `removeNodeWatcher`. -/
def fire (m : ZookeeperManager) (path : String) : ZookeeperManager :=
  match m.watcherMap.lookup path with
  | none => m
  | some w =>
    { watcherMap := m.watcherMap.erase path
      chans := (w.watcherChannels.entries.map (·.2)).foldl sendAndClose m.chans }

/-- One locked section. -/
def step (m : ZookeeperManager) : ZkEvent → ZookeeperManager
  | .getW path sessionID zkGetW => (m.getW path sessionID zkGetW).2
  | .releaseW path sessionID => m.releaseW path sessionID
  | .fire path => m.fire path

/-- A run of locked sections. -/
def run (m : ZookeeperManager) (evs : List ZkEvent) : ZookeeperManager := evs.foldl step m

@[simp] theorem run_nil (m : ZookeeperManager) : m.run [] = m := rfl

@[simp] theorem run_cons (m : ZookeeperManager) (e : ZkEvent) (evs : List ZkEvent) :
    m.run (e :: evs) = (m.step e).run evs := rfl

theorem run_append (m : ZookeeperManager) (evs evs' : List ZkEvent) :
    m.run (evs ++ evs') = (m.run evs).run evs' := List.foldl_append ..

/-! ## §3. What each operation does to the registrations and the channels. -/

section Operations

variable {m : ZookeeperManager} {p q : String} {s t : ℕ} {w : NodeWatcher}

theorem channelOf_addChannel :
    (m.addChannel p s w).channelOf q t =
      if q = p then (if t = s then some m.chans.length else w.watcherChannels.lookup t)
      else m.channelOf q t := by
  by_cases hq : q = p
  · subst hq
    by_cases ht : t = s
    · subst ht; simp [channelOf, addChannel, AList.lookup_insert]
    · simp [channelOf, addChannel, AList.lookup_insert, AList.lookup_insert_ne ht, ht]
  · simp [channelOf, addChannel, AList.lookup_insert_ne hq, hq]

theorem getElem?_addChannel_chans {i : ℕ} :
    (m.addChannel p s w).chans[i]? =
      if i < m.chans.length then m.chans[i]? else if i = m.chans.length then some .fresh
      else none := by
  simp only [addChannel]
  split_ifs with h₁ h₂
  · exact List.getElem?_append_left h₁
  · subst h₂; simp
  · rw [List.getElem?_eq_none]; simp; omega

theorem channelOf_releaseW {c : ℕ} (hw : m.watcherMap.lookup p = some w)
    (hc : w.watcherChannels.lookup s = some c) :
    (m.releaseW p s).channelOf q t = if q = p ∧ t = s then none else m.channelOf q t := by
  by_cases hq : q = p
  · subst hq
    by_cases ht : t = s
    · subst ht; simp [releaseW, channelOf, hw, hc, AList.lookup_insert, AList.lookup_erase]
    · simp [releaseW, channelOf, hw, hc, AList.lookup_insert, AList.lookup_erase_ne ht, ht]
  · simp [releaseW, channelOf, hw, hc, AList.lookup_insert_ne hq, hq]

theorem channelOf_fire : (m.fire p).channelOf q t = if q = p then none else m.channelOf q t := by
  unfold fire
  split
  · split_ifs with hq
    · subst hq; simp [channelOf, *]
    · rfl
  · by_cases hq : q = p
    · subst hq; simp [channelOf, AList.lookup_erase]
    · simp [channelOf, AList.lookup_erase_ne hq, hq]

/-- Sending and closing a list of distinct channels touches each of them once. -/
theorem getElem?_foldl_sendAndClose :
    ∀ (cs : List ℕ) (chans : List Chan), cs.Nodup → ∀ i,
      (cs.foldl sendAndClose chans)[i]? =
        if i ∈ cs then chans[i]?.map (fun ch => ch.send.close) else chans[i]?
  | [], chans, _, i => by simp
  | c :: cs, chans, hnd, i => by
    rw [List.nodup_cons] at hnd
    rw [List.foldl_cons, getElem?_foldl_sendAndClose cs _ hnd.2, sendAndClose,
      List.getElem?_modify]
    by_cases hi : i ∈ cs
    · have : c ≠ i := fun h => hnd.1 (h ▸ hi)
      simp [hi, this]
    · by_cases hc : c = i
      · simp [hi, hc, Option.map_eq_map]
      · simp [hi, hc, Ne.symm hc]

/-- The channels of a watcher are those registered at its path. -/
theorem mem_entries_iff (hw : m.watcherMap.lookup p = some w) {c : ℕ} :
    c ∈ w.watcherChannels.entries.map (·.2) ↔ ∃ t, m.channelOf p t = some c := by
  simp only [List.mem_map, channelOf, hw, Option.some_bind]
  constructor
  · rintro ⟨⟨t, c⟩, he, rfl⟩
    exact ⟨t, AList.mem_lookup_iff.2 he⟩
  · rintro ⟨t, ht⟩
    exact ⟨⟨t, c⟩, AList.mem_lookup_iff.1 ht, rfl⟩

theorem getW_of_lookup (hw : m.watcherMap.lookup p = some w) (zkGetW : Option String) :
    (m.getW p s zkGetW).2 = m.addChannel p s w := by
  simp [getW, hw]

theorem getW_of_lookup_eq_none (hw : m.watcherMap.lookup p = none) (nodeValue : String) :
    (m.getW p s (some nodeValue)).2 = m.addChannel p s ⟨nodeValue, ∅⟩ := by
  simp [getW, hw]

theorem lookup_addChannel :
    (m.addChannel p s w).watcherMap.lookup p =
      some { w with watcherChannels := w.watcherChannels.insert s m.chans.length } :=
  AList.lookup_insert _

/-- `GetW` changes nothing, or adds a channel to the watcher registered at `path`. -/
theorem getW_cases (zkGetW : Option String) :
    (m.getW p s zkGetW).2 = m ∨
      ∃ w : NodeWatcher, (∀ t, w.watcherChannels.lookup t = m.channelOf p t) ∧
        (m.getW p s zkGetW).2 = m.addChannel p s w := by
  unfold getW
  split
  · rename_i w hw
    exact .inr ⟨w, fun t => by simp [channelOf, hw], rfl⟩
  · rename_i hw
    split
    · exact .inr ⟨_, fun t => by simp [channelOf, hw, AList.lookup_empty], rfl⟩
    · exact .inl rfl

/-- `ReleaseW` changes nothing, or closes the channel registered at `(path, sessionID)` and
unregisters it. -/
theorem releaseW_cases :
    m.releaseW p s = m ∨
      ∃ c, m.channelOf p s = some c ∧ (m.releaseW p s).chans = m.chans.modify Chan.close c ∧
        ∀ q t, (m.releaseW p s).channelOf q t = if q = p ∧ t = s then none else m.channelOf q t := by
  cases hw : m.watcherMap.lookup p with
  | none => exact .inl (by simp [releaseW, hw])
  | some w =>
    cases hc : w.watcherChannels.lookup s with
    | none => exact .inl (by simp [releaseW, hw, hc])
    | some c =>
      exact .inr ⟨c, by simp [channelOf, hw, hc], by simp [releaseW, hw, hc],
        fun q t => channelOf_releaseW hw hc⟩

/-- A watch firing with no watcher changes nothing; otherwise every channel of the watcher
gets the event and is closed. -/
theorem fire_cases :
    m.fire p = m ∨ ∃ w, m.watcherMap.lookup p = some w ∧
      (m.fire p).chans = (w.watcherChannels.entries.map (·.2)).foldl sendAndClose m.chans := by
  unfold fire
  split
  · exact .inl rfl
  · exact .inr ⟨_, ‹_›, rfl⟩

theorem getElem?_foldl_sendAndClose_of_not_mem {i : ℕ} :
    ∀ (cs : List ℕ) (chans : List Chan), i ∉ cs → (cs.foldl sendAndClose chans)[i]? = chans[i]?
  | [], _, _ => rfl
  | c :: cs, chans, hi => by
    rw [List.mem_cons, not_or] at hi
    rw [List.foldl_cons, getElem?_foldl_sendAndClose_of_not_mem cs _ hi.2, sendAndClose,
      List.getElem?_modify_ne _ _ (Ne.symm hi.1)]

end Operations

/-! ## §4. The invariant: registered channels are fresh and registered once. -/

/-- What every reachable manager satisfies. -/
structure Inv (m : ZookeeperManager) : Prop where
  /-- A registered channel has had nothing done to it. -/
  fresh : ∀ p s c, m.channelOf p s = some c → m.chans[c]? = some .fresh
  /-- No channel is registered under two keys. -/
  inj : ∀ p s p' s' c, m.channelOf p s = some c → m.channelOf p' s' = some c → p = p' ∧ s = s'
  /-- Every channel is safe. -/
  safe : ∀ (i : ℕ) (c : Chan), m.chans[i]? = some c → c.Safe

section Preservation

variable {m : ZookeeperManager} {p : String} {s : ℕ} {w : NodeWatcher}

theorem Inv.lt_length (h : m.Inv) {q : String} {t c : ℕ} (hc : m.channelOf q t = some c) :
    c < m.chans.length :=
  (List.getElem?_eq_some_iff.1 (h.fresh _ _ _ hc)).1

theorem Inv.empty : ZookeeperManager.empty.Inv :=
  ⟨by simp [channelOf, ZookeeperManager.empty, AList.lookup_empty],
   by simp [channelOf, ZookeeperManager.empty, AList.lookup_empty],
   by simp [ZookeeperManager.empty]⟩

/-- `addChannel` with the watcher registered at `path`. -/
theorem Inv.addChannel (h : m.Inv) (hw : ∀ t, w.watcherChannels.lookup t = m.channelOf p t) :
    (m.addChannel p s w).Inv := by
  -- a registration after the step is the new channel, or one from before
  have hcases : ∀ q t c, (m.addChannel p s w).channelOf q t = some c →
      (q = p ∧ t = s ∧ c = m.chans.length) ∨ m.channelOf q t = some c := by
    intro q t c hc
    rw [channelOf_addChannel] at hc
    split_ifs at hc with hq ht
    · exact .inl ⟨hq, ht, (Option.some_inj.1 hc).symm⟩
    · exact .inr (hq ▸ hw t ▸ hc)
    · exact .inr hc
  refine ⟨fun q t c hc => ?_, fun q t q' t' c hc hc' => ?_, fun i c hc => ?_⟩
  · rw [getElem?_addChannel_chans]
    rcases hcases q t c hc with ⟨-, -, rfl⟩ | hold
    · simp
    · simp [h.lt_length hold, h.fresh _ _ _ hold]
  · rcases hcases q t c hc with ⟨rfl, rfl, hc₁⟩ | hold <;>
      rcases hcases q' t' c hc' with ⟨rfl, rfl, hc₂⟩ | hold'
    · exact ⟨rfl, rfl⟩
    · exact absurd (h.lt_length hold') (by omega)
    · exact absurd (h.lt_length hold) (by omega)
    · exact h.inj _ _ _ _ _ hold hold'
  · rw [getElem?_addChannel_chans] at hc
    split_ifs at hc
    · exact h.safe i c hc
    · cases hc; exact Chan.fresh_safe

theorem Inv.getW (h : m.Inv) (zkGetW : Option String) : (m.getW p s zkGetW).2.Inv := by
  rcases getW_cases zkGetW with h' | ⟨w, hw, h'⟩ <;> rw [h']
  exacts [h, h.addChannel hw]

theorem Inv.releaseW (h : m.Inv) : (m.releaseW p s).Inv := by
  rcases releaseW_cases with h' | ⟨c, hreg, hchans, hch⟩
  · rwa [h']
  -- the closed channel was registered only at `(p, s)`
  have hne : ∀ q t c', ¬(q = p ∧ t = s) → m.channelOf q t = some c' → c' ≠ c :=
    fun q t c' hqt hc' hcc => hqt (h.inj _ _ _ _ _ hc' (hcc ▸ hreg))
  refine ⟨fun q t c' hc' => ?_, fun q t q' t' c' hc' hc'' => ?_, fun i ch hi => ?_⟩
  · rw [hch] at hc'
    split_ifs at hc' with hqt
    rw [hchans, List.getElem?_modify_ne _ _ (hne q t c' hqt hc').symm]
    exact h.fresh _ _ _ hc'
  · rw [hch] at hc' hc''
    split_ifs at hc' hc''
    exact h.inj _ _ _ _ _ hc' hc''
  · rw [hchans, List.getElem?_modify] at hi
    split_ifs at hi with hci
    · subst hci
      simp only [h.fresh _ _ _ hreg, Option.map_eq_map, Option.map_some', Option.some_inj] at hi
      exact hi ▸ Chan.fresh_close_safe
    · exact h.safe i ch (by simpa using hi)

/-- A watcher's channels are distinct. -/
theorem Inv.nodup_channels (h : m.Inv) (hw : m.watcherMap.lookup p = some w) :
    (w.watcherChannels.entries.map (·.2)).Nodup := by
  refine List.Nodup.map_on (fun e₁ he₁ e₂ he₂ hc => ?_) w.watcherChannels.nodupKeys.nodup
  have h₁ : m.channelOf p e₁.1 = some e₁.2 := by
    simpa [channelOf, hw] using AList.mem_lookup_iff.2 he₁
  have h₂ : m.channelOf p e₂.1 = some e₂.2 := by
    simpa [channelOf, hw] using AList.mem_lookup_iff.2 he₂
  exact Sigma.ext (h.inj _ _ _ _ _ h₁ (hc ▸ h₂)).2 (heq_of_eq hc)

/-- **The sends of `NodeWatcher.Run` never block.**  When its locked section comes to a
channel, after sending to and closing the ones before it, that channel has had nothing done to
it: its one-slot buffer is empty. -/
theorem Inv.fire_sends_fresh (h : m.Inv) (hw : m.watcherMap.lookup p = some w)
    {pre post : List ℕ} {c : ℕ}
    (hsplit : w.watcherChannels.entries.map (·.2) = pre ++ c :: post) :
    (pre.foldl sendAndClose m.chans)[c]? = some .fresh := by
  have hnd := h.nodup_channels hw
  rw [hsplit, List.nodup_append] at hnd
  have hc : c ∉ pre := fun hc => hnd.2.2 hc (List.mem_cons_self c post)
  obtain ⟨t, ht⟩ := (mem_entries_iff hw).1 (hsplit ▸ List.mem_append_right pre (List.mem_cons_self c post))
  rw [getElem?_foldl_sendAndClose_of_not_mem pre _ hc]
  exact h.fresh _ _ _ ht

theorem Inv.fire (h : m.Inv) : (m.fire p).Inv := by
  rcases fire_cases with h' | ⟨w, hw, hfire⟩
  · rwa [h']
  have hnd := h.nodup_channels hw
  have hchans : ∀ i, (m.fire p).chans[i]? =
      if i ∈ w.watcherChannels.entries.map (·.2) then m.chans[i]?.map (fun ch => ch.send.close)
      else m.chans[i]? := fun i => hfire ▸ getElem?_foldl_sendAndClose _ _ hnd i
  refine ⟨fun q t c hc => ?_, fun q t q' t' c hc hc' => ?_, fun i ch hi => ?_⟩
  · rw [channelOf_fire] at hc
    split_ifs at hc with hq
    -- a channel registered elsewhere is not one of the watcher's
    have hc' : c ∉ w.watcherChannels.entries.map (·.2) := fun hmem => by
      obtain ⟨t', ht'⟩ := (mem_entries_iff hw).1 hmem
      exact hq (h.inj _ _ _ _ _ hc ht').1
    rw [hchans, if_neg hc']
    exact h.fresh _ _ _ hc
  · rw [channelOf_fire] at hc hc'
    split_ifs at hc hc'
    exact h.inj _ _ _ _ _ hc hc'
  · rw [hchans] at hi
    split_ifs at hi with hmem
    · obtain ⟨t, ht⟩ := (mem_entries_iff hw).1 hmem
      simp only [h.fresh _ _ _ ht, Option.map_some', Option.some_inj] at hi
      exact hi ▸ Chan.fresh_send_close_safe
    · exact h.safe i ch hi

theorem Inv.step (h : m.Inv) : ∀ e, (m.step e).Inv
  | .getW _ _ zkGetW => h.getW zkGetW
  | .releaseW _ _ => h.releaseW
  | .fire _ => h.fire

theorem Inv.run (h : m.Inv) (evs : List ZkEvent) : (m.run evs).Inv := by
  induction evs generalizing m with
  | nil => exact h
  | cons e evs ih => exact ih (h.step e)

end Preservation

/-! ## §5. Channels nobody will ever close. -/

/-- Channel `c` was made, nothing was done to it, and it is registered nowhere: a goroutine
waiting on it waits for ever. -/
def Orphan (m : ZookeeperManager) (c : ℕ) : Prop :=
  m.chans[c]? = some .fresh ∧ ∀ p s, m.channelOf p s ≠ some c

section Orphans

variable {m : ZookeeperManager} {c : ℕ}

theorem Orphan.step (h : m.Orphan c) : ∀ e, (m.step e).Orphan c
  | .getW p s zkGetW => by
    rcases getW_cases (m := m) (p := p) (s := s) zkGetW with h' | ⟨w, hw, h'⟩ <;>
      simp only [ZookeeperManager.step, h']
    · exact h
    have hc := (List.getElem?_eq_some_iff.1 h.1).1
    refine ⟨by rw [getElem?_addChannel_chans, if_pos hc, h.1], fun q t => ?_⟩
    rw [channelOf_addChannel]
    split_ifs with hq
    · simp only [ne_eq, Option.some_inj]; omega
    · rw [hw]; exact h.2 p t
    · exact h.2 q t
  | .releaseW p s => by
    rcases releaseW_cases (m := m) (p := p) (s := s) with h' | ⟨c', hreg, hchans, hch⟩ <;>
      simp only [ZookeeperManager.step]
    · rwa [h']
    refine ⟨?_, fun q t => ?_⟩
    · rw [hchans, List.getElem?_modify_ne _ _ (fun hcc : c' = c => h.2 p s (hcc ▸ hreg)), h.1]
    · rw [hch]
      split_ifs
      exacts [Option.noConfusion, h.2 q t]
  | .fire p => by
    rcases fire_cases (m := m) (p := p) with h' | ⟨w, hw, hchans⟩ <;> simp only [ZookeeperManager.step]
    · rwa [h']
    refine ⟨?_, fun q t => ?_⟩
    · rw [hchans, getElem?_foldl_sendAndClose_of_not_mem _ _ fun hmem => ?_, h.1]
      obtain ⟨t, ht⟩ := (mem_entries_iff hw).1 hmem
      exact h.2 p t ht
    · rw [channelOf_fire]
      split_ifs
      exacts [Option.noConfusion, h.2 q t]

theorem Orphan.run (h : m.Orphan c) (evs : List ZkEvent) : (m.run evs).Orphan c := by
  induction evs generalizing m with
  | nil => exact h
  | cons e evs ih => exact ih (h.step e)

end Orphans

end ZookeeperManager

/-- **Delivery channels are safe.**  Whatever sequence of `GetW`, `ReleaseW` and watch events
runs, every channel the manager made has been closed at most once, has been sent at most one
event, and none after its close. -/
theorem run_chans_safe (evs : List ZkEvent) (i : ℕ) (c : Chan)
    (hc : (ZookeeperManager.empty.run evs).chans[i]? = some c) : c.Safe :=
  (ZookeeperManager.Inv.empty.run evs).safe i c hc

/-- A session watches its node and the watch fires: its channel was sent the event and closed,
once each. -/
theorem run_chans_safe_fire :
    (ZookeeperManager.empty.run [.getW "/s/alice" 1 (some "btc"), .fire "/s/alice"]).chans[0]? =
      some Chan.fresh.send.close ∧ Chan.fresh.send.close.Safe :=
  have hc : (ZookeeperManager.empty.run [.getW "/s/alice" 1 (some "btc"), .fire "/s/alice"]).chans[0]? =
      some Chan.fresh.send.close := rfl
  ⟨hc, run_chans_safe _ 0 _ hc⟩

/-- **A second `GetW` orphans the first channel.**  The first `GetW(path, sessionID)` hands
out channel 0; after a second `GetW(path, sessionID)`, whatever runs next, channel 0 is
registered nowhere, and is never sent an event nor closed. -/
theorem getW_twice_orphans_channel (path : String) (sessionID : ℕ) (nodeValue : String)
    (evs : List ZkEvent) :
    (ZookeeperManager.empty.getW path sessionID (some nodeValue)).1 = some (nodeValue, 0) ∧
    (ZookeeperManager.empty.run ([.getW path sessionID (some nodeValue),
      .getW path sessionID (some nodeValue)] ++ evs)).Orphan 0 := by
  open ZookeeperManager in
  refine ⟨by simp [getW, empty, AList.lookup_empty], ?_⟩
  open ZookeeperManager in
  -- the two `GetW`: a new watcher with channel 0, then channel 1 in its place
  have hrun : empty.run [.getW path sessionID (some nodeValue), .getW path sessionID
      (some nodeValue)] = (empty.addChannel path sessionID ⟨nodeValue, ∅⟩).addChannel path
        sessionID ⟨nodeValue, (∅ : AList fun _ : ℕ => ℕ).insert sessionID 0⟩ := by
    simp only [run_cons, run_nil, step,
      getW_of_lookup_eq_none (m := empty) (p := path) rfl, getW_of_lookup lookup_addChannel]
    rfl
  open ZookeeperManager in
  refine run_append .. ▸ hrun ▸ Orphan.run ⟨?_, fun q t => ?_⟩ evs
  · simp [getElem?_addChannel_chans, addChannel, empty]
  · rw [channelOf_addChannel, channelOf_addChannel]
    by_cases hq : q = path
    · by_cases ht : t = sessionID
      · simp [hq, ht, addChannel, empty]
      · simp only [hq, ht, if_true, if_false]
        rw [AList.lookup_insert_ne ht, AList.lookup_empty]
        exact Option.noConfusion
    · simp [hq, channelOf, empty, AList.lookup_empty]

end BtcPoolModules.StratumSwitcher
