/-
  BtcPoolModules.ZooKeeper.WatchDir — the ZooKeeper dirs the servers write under.  `Main` of
  the API server (`userChainAPIServer/switcherAPIServer/Main.go`) and `ConfigData.LoadFromFile`
  of the switcher (`stratumSwitcher/ConfigData.go`) make each configured dir end with a slash,
  and the servers then write the nodes `dir + name`; the API server first makes the dir with
  `createZookeeperPath`.

  A dir is written by its components, `/c₁/…/cₙ`, with or without the final slash.  Once the
  slash is added, `createZookeeperPath` walks exactly these components, and the parent ZooKeeper
  checks on `Create(dir + name)` is the last path the loop makes.

  Main results:
    * `zookeeperDirs_joinPath` — `strings.Split` of the trimmed dir gives back its components.
    * `parentPath_mem_zookeeperPaths` — the parent of `dir + name`, for a name with no `/`, is
      one of the paths `createZookeeperPath(dir)` makes.
    * `run_returned_none_parent` — once the loop has returned `nil`, whatever other clients did
      meanwhile, a `Create` of `dir + name` fails only on a node that is there.
-/
import BtcPoolModules.ZooKeeper.CreatePath

namespace BtcPoolModules.ZooKeeper

/-! ## §1. A dir and its final slash. -/

/-- `if dir[len(dir)-1] != '/' { dir += "/" }`, as `Main` and `LoadFromFile` make a ZooKeeper dir
end with a slash; `none` where `dir` is empty and the index panics. -/
def withTrailingSlash (dir : String) : Option String :=
  match dir.data.getLast? with
  | none => none
  | some c => some (if c ≠ '/' then dir ++ "/" else dir)

/-- The ZooKeeper path `/c₁/…/cₙ` of its components; the empty string for none. -/
def joinPath : List String → String
  | [] => ""
  | c :: cs => "/" ++ c ++ joinPath cs

/-- The components of a dir: one at least, none empty, none with a `/`. -/
def Components (comps : List String) : Prop :=
  comps ≠ [] ∧ ∀ c ∈ comps, c ≠ "" ∧ '/' ∉ c.data

instance (comps : List String) : Decidable (Components comps) :=
  inferInstanceAs (Decidable (_ ∧ _))

/-- A configured dir: the path of its components, with or without the final slash. -/
def IsZkDir (dir : String) (comps : List String) : Prop :=
  Components comps ∧ (dir = joinPath comps ∨ dir = joinPath comps ++ "/")

@[simp] theorem joinPath_cons_data (c : String) (cs : List String) :
    (joinPath (c :: cs)).data = '/' :: (c.data ++ (joinPath cs).data) := rfl

/-- After its first slash, a path of non-empty components with no `/` ends with the last
character of its last component, which is no `/`. -/
theorem getLast?_components : ∀ (c : String) (cs : List String),
    (∀ d ∈ c :: cs, d ≠ "" ∧ '/' ∉ d.data) →
      ∃ x, (c.data ++ (joinPath cs).data).getLast? = some x ∧ x ≠ '/'
  | c, [], h => by
    have hne : c.data ≠ [] := fun h' => (h c (List.mem_singleton_self c)).1 (String.ext h')
    refine ⟨c.data.getLast hne, ?_, fun h' => (h c (List.mem_singleton_self c)).2 (h' ▸ List.getLast_mem hne)⟩
    rw [show (joinPath []).data = [] from rfl, List.append_nil, List.getLast?_eq_getLast _ hne]
  | c, d :: ds, h => by
    obtain ⟨x, hx, hx'⟩ := getLast?_components d ds fun e he => h e (List.mem_cons_of_mem _ he)
    refine ⟨x, ?_, hx'⟩
    rw [joinPath_cons_data, List.getLast?_append_of_ne_nil _ (List.cons_ne_nil _ _), List.getLast?_cons, hx]
    rfl

/-- `Main` and `LoadFromFile` give a configured dir its final slash, once. -/
theorem withTrailingSlash_of_isZkDir {dir : String} {comps : List String} (h : IsZkDir dir comps) :
    withTrailingSlash dir = some (joinPath comps ++ "/") := by
  obtain ⟨⟨hne, hcomps⟩, rfl | rfl⟩ := h
  · obtain ⟨c, cs, rfl⟩ := List.exists_cons_of_ne_nil hne
    obtain ⟨x, hx, hx'⟩ := getLast?_components c cs hcomps
    simp [withTrailingSlash, List.getLast?_cons, hx, hx']
  · simp [withTrailingSlash, List.getLast?_concat]

/-! ## §2. The paths `createZookeeperPath` walks. -/

/-- `strings.Split(s, "/")` is Mathlib's `List.splitOnP` at `/`. -/
theorem splitSlash_eq_splitOnP (cs : List Char) :
    splitSlash cs = (cs.splitOnP (· == '/')).map String.mk := by
  induction cs with
  | nil => rfl
  | cons c cs ih =>
    obtain ⟨h, t, ht⟩ := List.exists_cons_of_ne_nil (List.splitOnP_ne_nil (· == '/') cs)
    rw [ht, List.map_cons] at ih
    rw [List.splitOnP_cons, ht]
    simp only [splitSlash, ih, beq_iff_eq]
    split_ifs <;> rfl

/-- The loop splits `c₁/…/cₙ` back into `c₁, …, cₙ`. -/
theorem splitSlash_joinPath : ∀ (c : String) (cs : List String),
    (∀ d ∈ c :: cs, '/' ∉ d.data) → splitSlash (c.data ++ (joinPath cs).data) = c :: cs
  | c, [], h => by
    have hc : ∀ x ∈ c.data, ¬(x == '/') = true :=
      fun x hx hx' => h c (List.mem_singleton_self c) (beq_iff_eq.1 hx' ▸ hx)
    show splitSlash (c.data ++ []) = [c]
    rw [List.append_nil, splitSlash_eq_splitOnP, List.splitOnP_eq_single _ _ hc]
    rfl
  | c, d :: ds, h => by
    have hc : ∀ x ∈ c.data, ¬(x == '/') = true :=
      fun x hx hx' => h c (List.mem_cons_self _ _) (beq_iff_eq.1 hx' ▸ hx)
    have ih := splitSlash_joinPath d ds fun e he => h e (List.mem_cons_of_mem _ he)
    rw [splitSlash_eq_splitOnP] at ih ⊢
    rw [joinPath_cons_data, List.splitOnP_first _ _ hc '/' (by simp), List.map_cons, ih]

/-- `strings.Trim(s, "/")` of `/inner/`, for an `inner` that neither starts nor ends with `/`. -/
theorem trimSlash_wrap {inner : List Char} {a y : Char} {as ys : List Char}
    (hh : inner = a :: as) (ht : inner = ys ++ [y]) (ha : a ≠ '/') (hy : y ≠ '/') :
    trimSlash ⟨'/' :: (inner ++ ['/'])⟩ = ⟨inner⟩ := by
  have hfront : (inner ++ ['/']).dropWhile (· = '/') = inner ++ ['/'] := by rw [hh]; simp [ha]
  have hback : inner.reverse.dropWhile (· = '/') = inner.reverse := by rw [ht]; simp [hy]
  show String.mk (((('/' :: (inner ++ ['/'])).dropWhile (· = '/')).reverse.dropWhile
    (· = '/')).reverse) = _
  rw [List.dropWhile_cons_of_pos (by simp), hfront, List.reverse_append, List.reverse_singleton,
    List.singleton_append, List.dropWhile_cons_of_pos (by simp), hback, List.reverse_reverse]

/-- **The dirs the loop walks are the components.**  Trimming the slashes off `/c₁/…/cₙ/` and
splitting at `/` gives back `c₁, …, cₙ`. -/
theorem zookeeperDirs_joinPath {comps : List String} (h : Components comps) :
    zookeeperDirs (joinPath comps ++ "/") = comps := by
  obtain ⟨hne, hcomps⟩ := h
  obtain ⟨c, cs, rfl⟩ := List.exists_cons_of_ne_nil hne
  have hc := hcomps c (List.mem_cons_self _ _)
  obtain ⟨a, as, ha⟩ := List.exists_cons_of_ne_nil fun h => hc.1 (String.ext h)
  obtain ⟨x, hx, hx'⟩ := getLast?_components c cs hcomps
  obtain ⟨ys, hys⟩ := List.getLast?_eq_some_iff.1 hx
  have htrim := trimSlash_wrap (by rw [ha, List.cons_append]) hys
    (fun h' => hc.2 (h' ▸ ha ▸ List.mem_cons_self _ _)) hx'
  rw [zookeeperDirs, show joinPath (c :: cs) ++ "/" = ⟨'/' :: (c.data ++ (joinPath cs).data ++ ['/'])⟩
    from String.ext (by simp), htrim]
  exact splitSlash_joinPath c cs fun d hd => (hcomps d hd).2

/-- The path of the components is the last one the loop walks from `currPath`. -/
theorem append_joinPath_mem_pathsFrom :
    ∀ (currPath : String) (comps : List String), comps ≠ [] →
      currPath ++ joinPath comps ∈ pathsFrom currPath comps
  | _, [], h => absurd rfl h
  | currPath, [c], _ => by simp [joinPath, pathsFrom, String.append_assoc]
  | currPath, c :: d :: ds, _ => by
    have ih := append_joinPath_mem_pathsFrom (currPath ++ "/" ++ c) (d :: ds) (List.cons_ne_nil _ _)
    show currPath ++ ("/" ++ c ++ joinPath (d :: ds)) ∈ _
    rw [← String.append_assoc, ← String.append_assoc]
    exact List.mem_cons_of_mem _ ih

/-- **The parent of a node under the dir is a path the loop makes.**  For a name with no `/`, the
parent ZooKeeper checks on `Create(dir + name)` is `/c₁/…/cₙ`, the last path of
`createZookeeperPath(dir)`. -/
theorem parentPath_mem_zookeeperPaths {comps : List String} (h : Components comps) {name : String}
    (hname : '/' ∉ name.data) :
    parentPath (joinPath comps ++ "/" ++ name) ∈ zookeeperPaths (joinPath comps ++ "/") := by
  have hne : joinPath comps ≠ "" := by
    obtain ⟨c, cs, rfl⟩ := List.exists_cons_of_ne_nil h.1
    exact fun h' => List.cons_ne_nil _ _ (congrArg String.data h')
  rw [parentPath_append hname, if_neg hne, zookeeperPaths, zookeeperDirs_joinPath h]
  simpa using append_joinPath_mem_pathsFrom "" comps h.1

/-! ## §3. After the loop. -/

/-- Where the loop of either copy returns `nil` from its start, every prefix of the path is
there. -/
theorem run_returned_none_nodes (errs : Option ZkError → Prop) {valid : String → Bool}
    {afterCreateError : String → List String → ZkError → PathPc}
    (herr : errs none) (hafter : AfterCreateOk errs valid afterCreateError)
    (nodes : String → Bool) (path : String) (hroot : nodes "/" = true)
    (hvalid : ∀ q ∈ zookeeperPaths path, valid q = true) (events : List PathEvent)
    (hr : (PathWorld.run (pathStep afterCreateError) valid ⟨nodes, createZookeeperPathStart path⟩
      events).pc = .returned none) :
    ∀ q ∈ zookeeperPaths path,
      (PathWorld.run (pathStep afterCreateError) valid ⟨nodes, createZookeeperPathStart path⟩
        events).nodes q = true := by
  obtain ⟨hp, -⟩ := PathWorld.run_progress errs herr hafter events _
    (progress_start errs nodes path hroot hvalid).1
  exact fun q hq => hp.passed (by simp [hr]) q hq (by simp [hr, PathPc.todo])

/-- **After the loop, a node under the dir can be created or is there.**  Once the API server's
`createZookeeperPath` of a configured dir has returned `nil`, on ZooKeeper's nodes then or any
time later, a `Create` of `dir + name`, for a valid path with a name with no `/`, fails only with
`ErrNodeExists` on a node that is there. -/
theorem run_returned_none_parent {valid nodes : String → Bool} {comps : List String}
    (h : Components comps) (hroot : nodes "/" = true)
    (hvalid : ∀ q ∈ zookeeperPaths (joinPath comps ++ "/"), valid q = true) {events : List PathEvent}
    (hr : (PathWorld.run createZookeeperPathStep valid
      ⟨nodes, createZookeeperPathStart (joinPath comps ++ "/")⟩ events).pc = .returned none)
    {nodes' : String → Bool}
    (hle : NodesLe (PathWorld.run createZookeeperPathStep valid
      ⟨nodes, createZookeeperPathStart (joinPath comps ++ "/")⟩ events).nodes nodes')
    {name : String} (hname : '/' ∉ name.data) :
    nodes' (parentPath (joinPath comps ++ "/" ++ name)) = true :=
  hle _ (run_returned_none_nodes (· = none) rfl (recheck_afterCreateOk valid) nodes _ hroot hvalid events hr _
    (parentPath_mem_zookeeperPaths h hname))

end BtcPoolModules.ZooKeeper
