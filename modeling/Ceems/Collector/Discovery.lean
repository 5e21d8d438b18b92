import Ceems.Collector.Manager

/-!
# What discovery finds

`discover` is characterised over every directory tree below the mount point
and every `idRegex`, `isChild` and `unescapeString`:

* `discover_eq_discoverSpec` — on a tree whose directories can all be listed,
  `discover` returns `discoverSpec` of the directories in walk order: one
  cgroup per directory that `filepath.Rel` places relative to the root, whose
  path carries an id and which is no child, in walk order, with `id = uuid`
  that id and `path` the directory's decoded and relative paths; its children
  are the paths of every such directory carrying the same id, roots and
  children alike and wherever they lie in the walk, and its processes those
  listed in their `cgroup.procs` files that `procfs` resolves, both in walk
  order;
* `discover_ok_iff` — `discover` returns cgroups exactly when every directory
  of the tree can be listed, and otherwise the error of the first directory,
  in walk order, whose listing fails: a directory that vanishes after its
  parent was listed fails the whole pass;
* `discover_ids` — the ids `discover` returns are those of the directories
  whose path is placed relative to the root and carries an id and which are no
  children, one per directory, so they are pairwise distinct exactly when
  those directories' ids are;
* `readProcs_procsText` — on the `cgroup.procs` file the kernel writes for a
  list of PIDs, the processes recorded for a unit are the live ones among
  those PIDs, in the file's order.

The proof runs the walk as a fold (`walkDir_eq_foldlM`) and tracks the three
parts of the callback's state through it (`foldl_visit_cgroups`,
`foldl_visit_procs`, `foldl_visit_children`), each from the effect of one
`visit` on it.
-/

namespace Ceems
namespace Collector

section Discovery

variable (unescapeString : String → Option String) (c : CgroupManager) (host : Host)

/-- The directories the walk from `root` reaches, in walk order. -/
def walkedDirs (root : String) (e : Entry) : List String :=
  (visits root e).filterMap fun pe => if pe.2.toDirEntry.isDir then some pe.1 else none

/-- The processes listed in `p/cgroup.procs` that `procfs` resolves, in file
order. -/
def procsIn (p : String) : List Proc :=
  match host.readFile (Filepath.join [p, "cgroup.procs"]) with
  | none => []
  | some data => (scanLines data).filterMap (lineProc host)

/-- The decoded and relative paths and the id of the directory `p`, when
`filepath.Rel` places it relative to the root and its decoded path carries an
id. -/
def pathID (p : String) : Option (CgroupPath × String) :=
  match Filepath.rel c.root p with
  | .error _ => none
  | .ok rel => (cgroupID unescapeString c p).map fun r => (⟨r.1, rel⟩, r.2)

/-- The processes the directory `p` contributes to the unit `id`. -/
def procsOf (id p : String) : List Proc :=
  match pathID unescapeString c p with
  | some (_, id') => if id = id' then procsIn host p else []
  | none => []

/-- The child path the directory `p` contributes to the unit `id`. -/
def childOf (id p : String) : List CgroupPath :=
  match pathID unescapeString c p with
  | some (path, id') => if id = id' then [path] else []
  | none => []

/-- The root cgroup the directory `p` records during the walk. -/
def rootOf (p : String) : Option Cgroup :=
  match pathID unescapeString c p with
  | some (path, id) => if c.isChild p then none else some ⟨id, id, [], path, []⟩
  | none => none

/-- **What discovery should find** in the directories `ps`, listed in walk
order. -/
def discoverSpec (ps : List String) : List Cgroup :=
  ps.filterMap fun p =>
    match pathID unescapeString c p with
    | some (path, id) =>
      if c.isChild p then none
      else some { id, uuid := id, path,
                  procs := ps.flatMap (procsOf unescapeString c host id),
                  children := ps.flatMap (childOf unescapeString c id) }
    | none => none

/-- A Slurm job whose cgroup vanishes after `slurmstepd.scope` was listed:
`discover` fails with the listing's error. -/
theorem discover_error_of_vanished_job :
    discover Collector.unescapeString (slurmCgroupManager .unified "/sys/fs/cgroup" "")
        ⟨fun _ => none, fun _ => none, 64, .inr rfl⟩
        (.ok (.dir "slurmstepd.scope" (.ok [.dir "job_42" (.error .notExist)]))) =
      .error .notExist := rfl

/-- The ids of the cgroups the directories `ps` yield: one per directory whose
path carries an id and which is no child, in walk order. -/
def rootIDs (ps : List String) : List String :=
  ps.filterMap fun p =>
    match pathID unescapeString c p with
    | some (_, id) => if c.isChild p then none else some id
    | none => none

/-! ### One step of the walk -/

theorem getD_readProcs (id p k : String) (m : GoMap (List Proc)) :
    (readProcs host id p m).getD k [] = m.getD k [] ++ if k = id then procsIn host p else [] := by
  unfold readProcs procsIn
  cases host.readFile (Filepath.join [p, "cgroup.procs"]) with
  | none => simp
  | some data =>
    simp only
    induction scanLines data generalizing m with
    | nil => simp
    | cons line lines ih =>
      rw [List.foldl_cons, ih, List.filterMap_cons]
      cases lineProc host line <;> by_cases hk : k = id <;> simp [GoMap.getD_append, hk]

/-- The text of a `cgroup.procs` file listing `pids`: one PID per line, each
line ended by a newline. -/
def procsText (pids : List Nat) : String :=
  String.join ((pids.map Nat.repr).map (· ++ "\n"))

theorem procsIn_procsText {p : String} {pids : List Nat}
    (hfile : host.readFile (Filepath.join [p, "cgroup.procs"]) = some (procsText pids))
    (hpids : ∀ pid ∈ pids, pid < 2 ^ (host.intSize - 1)) :
    procsIn host p = pids.filterMap fun pid : Nat => host.proc pid := by
  have hdigit : ∀ pid, ∀ c ∈ (Nat.repr pid).toList, c ≠ '\n' ∧ c ≠ '\r' := fun pid c hc => by
    have := (toDigits_spec pid).2.1 c hc
    exact ⟨by rintro rfl; revert this; decide, by rintro rfl; revert this; decide⟩
  have hlines : scanLines (procsText pids) = pids.map Nat.repr := by
    refine scanLines_join _ fun l hl => ?_
    obtain ⟨pid, -, rfl⟩ := List.mem_map.mp hl
    exact ⟨fun h => (hdigit pid _ h).1 rfl,
      fun h => (hdigit pid _ (List.mem_of_getLast?_eq_some h)).2 rfl⟩
  simp only [procsIn, hfile, hlines, List.filterMap_map]
  refine List.filterMap_congr fun pid hpid => ?_
  simp [lineProc, parseInt_repr (hpids pid hpid)]

/-- **The processes of a cgroup.** On the `cgroup.procs` file the kernel
writes for a list of PIDs, `readProcs` appends to the unit's entry exactly the
processes `procfs` resolves among those PIDs, in the file's order, and leaves
every other unit's entry as it was. -/
theorem readProcs_procsText {id p : String} {pids : List Nat}
    (hfile : host.readFile (Filepath.join [p, "cgroup.procs"]) = some (procsText pids))
    (hpids : ∀ pid ∈ pids, pid < 2 ^ (host.intSize - 1)) (m : GoMap (List Proc)) (k : String) :
    (readProcs host id p m).getD k [] =
      m.getD k [] ++ if k = id then pids.filterMap (fun pid : Nat => host.proc pid) else [] := by
  rw [getD_readProcs, procsIn_procsText host hfile hpids]

/-- A job whose `cgroup.procs` lists two PIDs, the second of which has exited:
only the first is recorded. -/
theorem readProcs_procsText_exited :
    let host : Host := ⟨fun f => if f = "/sys/fs/cgroup/job_1/cgroup.procs" then
      some (procsText [12, 34]) else none, fun pid => if pid = 12 then some ⟨12⟩ else none, 64,
      .inr rfl⟩
    host.readFile (Filepath.join ["/sys/fs/cgroup/job_1", "cgroup.procs"]) = some (procsText [12, 34]) ∧
    (∀ pid ∈ [12, 34], pid < 2 ^ (host.intSize - 1)) ∧
    (readProcs host "1" "/sys/fs/cgroup/job_1" ∅).getD "1" [] =
      GoMap.getD ∅ "1" [] ++ if "1" = "1" then [12, 34].filterMap (fun pid : Nat => host.proc pid)
        else [] :=
  ⟨by decide, by decide, readProcs_procsText _ (by decide) (by decide) ∅ "1"⟩

theorem visit_cgroups (st : DiscoverState) (p : String) (d : DirEntry) :
    (visit unescapeString c host st p d).cgroups =
      st.cgroups ++ if d.isDir then (rootOf unescapeString c p).toList else [] := by
  unfold visit rootOf pathID
  cases d.isDir
  · simp
  · cases Filepath.rel c.root p with
    | error => simp
    | ok rel =>
      cases h : cgroupID unescapeString c p with
      | none => simp [h]
      | some r => by_cases hc : c.isChild p <;> simp [h, hc]

theorem visit_procs (st : DiscoverState) (p : String) (d : DirEntry) (k : String) :
    (visit unescapeString c host st p d).cgroupProcs.getD k [] =
      st.cgroupProcs.getD k [] ++ if d.isDir then procsOf unescapeString c host k p else [] := by
  unfold visit procsOf pathID
  cases d.isDir
  · simp
  · cases Filepath.rel c.root p with
    | error => simp
    | ok rel =>
      cases h : cgroupID unescapeString c p with
      | none => simp [h]
      | some r => by_cases hc : c.isChild p <;> simp [h, hc, getD_readProcs]

theorem visit_children (st : DiscoverState) (p : String) (d : DirEntry) (k : String) :
    (visit unescapeString c host st p d).cgroupChildren.getD k [] =
      st.cgroupChildren.getD k [] ++ if d.isDir then childOf unescapeString c k p else [] := by
  unfold visit childOf pathID
  cases d.isDir
  · simp
  · cases Filepath.rel c.root p with
    | error => simp
    | ok rel =>
      cases h : cgroupID unescapeString c p with
      | none => simp [h]
      | some r => by_cases hc : c.isChild p <;> simp [h, hc, GoMap.getD_append]

/-! ### The whole walk -/

/-- The directories among the entries `L`, in order. -/
def dirsOf (L : List (String × Entry)) : List String :=
  L.filterMap fun pe => if pe.2.toDirEntry.isDir then some pe.1 else none

theorem dirsOf_cons (pe : String × Entry) (L : List (String × Entry)) :
    dirsOf (pe :: L) = (if pe.2.toDirEntry.isDir then [pe.1] else []) ++ dirsOf L := by
  by_cases h : pe.2.toDirEntry.isDir <;> simp [dirsOf, List.filterMap_cons, h]

theorem foldl_visit_cgroups (L : List (String × Entry)) (st : DiscoverState) :
    (L.foldl (fun st pe => visit unescapeString c host st pe.1 pe.2.toDirEntry) st).cgroups =
      st.cgroups ++ (dirsOf L).filterMap (rootOf unescapeString c) := by
  induction L generalizing st with
  | nil => simp [dirsOf]
  | cons pe L ih =>
    rw [List.foldl_cons, ih, visit_cgroups, dirsOf_cons]
    split <;> cases h : rootOf unescapeString c pe.1 <;> simp [h, List.filterMap_cons]

theorem foldl_visit_procs (L : List (String × Entry)) (st : DiscoverState) (k : String) :
    (L.foldl (fun st pe => visit unescapeString c host st pe.1 pe.2.toDirEntry)
        st).cgroupProcs.getD k [] =
      st.cgroupProcs.getD k [] ++ (dirsOf L).flatMap (procsOf unescapeString c host k) := by
  induction L generalizing st with
  | nil => simp [dirsOf]
  | cons pe L ih =>
    rw [List.foldl_cons, ih, visit_procs, dirsOf_cons]
    split <;> simp

theorem foldl_visit_children (L : List (String × Entry)) (st : DiscoverState) (k : String) :
    (L.foldl (fun st pe => visit unescapeString c host st pe.1 pe.2.toDirEntry)
        st).cgroupChildren.getD k [] =
      st.cgroupChildren.getD k [] ++ (dirsOf L).flatMap (childOf unescapeString c k) := by
  induction L generalizing st with
  | nil => simp [dirsOf]
  | cons pe L ih =>
    rw [List.foldl_cons, ih, visit_children, dirsOf_cons]
    split <;> simp

theorem foldlM_ok {α β ε : Type} (f : β → α → Except ε β) (g : β → α → β)
    (hf : ∀ b a, f b a = .ok (g b a)) (l : List α) (b : β) :
    l.foldlM f b = .ok (l.foldl g b) := by
  induction l generalizing b with
  | nil => rfl
  | cons a l ih => simp [List.foldlM_cons, hf, ih, bind, Except.bind]

/-- The walk callback only propagates errors. -/
theorem walkCallback_propagates : Propagates (walkCallback unescapeString c host) :=
  ⟨fun _ _ _ => ⟨_, rfl⟩, fun _ _ _ _ => rfl⟩

/-- The walk over a tree whose directories can all be listed, run as a fold
and read off through the three parts of the callback's state. -/
theorem discover_of_listable (e : Entry) (h : listable e = true) :
    discover unescapeString c host (.ok e) =
      .ok (discoverSpec unescapeString c host (walkedDirs c.mountPoint e)) := by
  simp only [discover, WalkDir, walkDir_eq_foldlM _ _ _ _ h]
  rw [foldlM_ok (fun (st : DiscoverState) (pe : String × Entry) =>
      walkCallback unescapeString c host st pe.1 (some pe.2.toDirEntry) none)
    (fun st pe => visit unescapeString c host st pe.1 pe.2.toDirEntry) (fun _ _ => rfl)]
  simp only [bind, Except.bind, pure, Except.pure, Except.ok.injEq]
  have hc := foldl_visit_cgroups unescapeString c host (visits c.mountPoint e) ⟨[], ∅, ∅⟩
  have hp := foldl_visit_procs unescapeString c host (visits c.mountPoint e) ⟨[], ∅, ∅⟩
  have hch := foldl_visit_children unescapeString c host (visits c.mountPoint e) ⟨[], ∅, ∅⟩
  simp only [GoMap.getD_empty, List.nil_append] at hc hp hch
  rw [mergeCgroups, hc, List.map_filterMap, discoverSpec, walkedDirs, ← dirsOf]
  congr 1; funext p
  unfold rootOf
  split
  · split <;> simp [GoMap.lookup_getD, hp, hch]
  · rfl

/-- A tree with a directory that cannot be listed fails the walk. -/
theorem discover_error_of_not_listable (e : Entry) (h : listable e = false) :
    ∃ err, discover unescapeString c host (.ok e) = .error err := by
  simp only [discover, WalkDir, bind, Except.bind]
  cases hw : walkDir (walkCallback unescapeString c host) ⟨[], ∅, ∅⟩ c.mountPoint e with
  | error err => exact ⟨err, rfl⟩
  | ok st =>
    have := (walkDir_ok_iff (walkCallback_propagates unescapeString c host) _ _ e).mp ⟨st, hw⟩
    simp [h] at this

/-- **Discovery fails exactly on an unlistable directory**, and with the error
of the first directory, in walk order, whose listing fails. -/
theorem discover_ok_iff (e : Entry) :
    ((∃ cgs, discover unescapeString c host (.ok e) = .ok cgs) ↔ listable e = true) ∧
    ∀ err, discover unescapeString c host (.ok e) = .error err ↔ firstListingError e = some err := by
  have hfn := walkCallback_propagates unescapeString c host
  refine ⟨?_, fun err => ?_⟩
  · rw [← walkDir_ok_iff hfn ⟨[], ∅, ∅⟩ c.mountPoint e]
    simp only [discover, WalkDir, bind, Except.bind]
    cases walkDir (walkCallback unescapeString c host) ⟨[], ∅, ∅⟩ c.mountPoint e <;>
      simp [pure, Except.pure]
  · rw [← walkDir_eq_error hfn ⟨[], ∅, ∅⟩ c.mountPoint e err]
    simp only [discover, WalkDir, bind, Except.bind]
    cases walkDir (walkCallback unescapeString c host) ⟨[], ∅, ∅⟩ c.mountPoint e <;>
      simp [pure, Except.pure]

/-- **The ids discovery returns.** When `discover` returns cgroups, their ids
are those of the root directories, one per directory, in walk order; so they
are pairwise distinct exactly when those directories' ids are. -/
theorem discover_ids (e : Entry) :
    (discover unescapeString c host (.ok e)).toOption.map (·.map Cgroup.id) =
      if listable e then some (rootIDs unescapeString c (walkedDirs c.mountPoint e)) else none := by
  cases hl : listable e
  · obtain ⟨err, herr⟩ := discover_error_of_not_listable unescapeString c host e hl
    simp [herr, Except.toOption]
  · rw [discover_of_listable unescapeString c host e hl, rootIDs, discoverSpec]
    simp only [Except.toOption, Option.map_some', List.map_filterMap, if_true]
    congr 1; congr 1; funext p
    split <;> [split; skip] <;> simp_all

/-- A Slurm job directory holding a directory `user` that is no `step_*`: both
are roots of unit `1`. -/
theorem discover_duplicate_ids :
    (discover Collector.unescapeString (slurmCgroupManager .unified "/sys/fs/cgroup" "")
        ⟨fun _ => none, fun _ => none, 64, .inr rfl⟩
        (.ok (.dir "slurmstepd.scope" (.ok [.dir "job_1" (.ok [.dir "user" (.ok [])])])))).toOption.map
      (·.map Cgroup.id) = some ["1", "1"] := by
  decide

end Discovery

end Collector
end Ceems
