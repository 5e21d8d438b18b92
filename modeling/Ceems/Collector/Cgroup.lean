import Ceems.Go.Map
import Ceems.Go.Strings
import Ceems.Go.Strconv
import Ceems.Go.Filepath

/-!
# Cgroup discovery

The cgroup collector's `cgroupManager.discover`: walk the cgroup hierarchy
below the resource manager's mount point, extract a compute unit's id from
every directory path with the manager's `idRegex`, gather the processes of
every matching directory and the paths of its child cgroups, and join them
after the walk into one `Cgroup` per root directory.

The walk callback keeps three pieces of state, which `DiscoverState`
collects: the root cgroups found so far (`cgroups`), and two Go maps from an
id to the processes (`cgroupProcs`) and to the paths (`cgroupChildren`) of
all directories carrying that id, roots and children alike. For a directory
`p` the callback

* unescapes `p` and matches the result against `idRegex`, keeping the
  trimmed, non-empty capture group 1 as the id (`cgroupID`);
* appends the live processes listed in `p/cgroup.procs` to `cgroupProcs[id]`
  (`readProcs`);
* appends `p` to `cgroupChildren[id]`, and, unless `isChild p`, also records
  `p` as a new root cgroup.

After the walk `mergeCgroups` copies `cgroupProcs[id]` and
`cgroupChildren[id]` into each root cgroup.

What the callback reads besides the walk is the `Host`: file contents
(`os.ReadFile`), the processes `procfs` resolves, and the platform's `int`
width used by `strconv.ParseInt`. `unescapeString` is defined outside these
sources and is a parameter here; `Ceems.Collector.Manager` supplies the one
the spec describes.
-/

namespace Ceems
namespace Collector

/-- `cgroups.CGMode`. -/
inductive CGMode where
  | unavailable
  | legacy
  | hybrid
  | unified
  deriving DecidableEq, Repr

/-- `cgroupPath`: a cgroup's path with escapes decoded, and its path relative
to the cgroup root. -/
structure CgroupPath where
  abs : String
  rel : String
  deriving DecidableEq, Repr

/-- A process resolved by `procfs`. -/
structure Proc where
  pid : Int
  deriving DecidableEq, Repr

/-- `cgroup`: one compute unit. -/
structure Cgroup where
  id : String
  uuid : String
  procs : List Proc
  path : CgroupPath
  children : List CgroupPath
  deriving DecidableEq, Repr

/-- The configuration of `cgroupManager` that discovery and the collector
read. -/
structure CgroupManager where
  mode : CGMode
  root : String
  slice : String
  scope : String
  activeController : String
  mountPoint : String
  manager : String
  /-- `idRegex.FindStringSubmatch`: the whole match and the capture groups,
  or the empty list when the path does not match. -/
  idRegex : String → List String
  isChild : String → Bool

/-- What discovery reads of the host besides the directory tree. -/
structure Host where
  /-- `os.ReadFile`, failing with `none`. -/
  readFile : String → Option String
  /-- `procfs.FS.Proc`: the process of a PID, if it is alive. -/
  proc : Int → Option Proc
  /-- `strconv.IntSize`. -/
  intSize : Nat
  intSize_eq : intSize = 32 ∨ intSize = 64

/-- The state the walk callback captures. -/
structure DiscoverState where
  cgroups : List Cgroup
  cgroupProcs : GoMap (List Proc)
  cgroupChildren : GoMap (List CgroupPath)

section Discover

variable (unescapeString : String → Option String)

/-- The path with escapes decoded and the id of the directory `p`, when its
decoded path matches `idRegex` with a capture group 1 that is not blank. -/
def cgroupID (c : CgroupManager) (p : String) : Option (String × String) := do
  let sanitizedPath ← unescapeString p
  let cgroupIDMatches := c.idRegex sanitizedPath
  if cgroupIDMatches.length ≤ 1 then none
  else
    let id := trimSpace (cgroupIDMatches.getD 1 "")
    if id = "" then none else some (sanitizedPath, id)

/-- The process a line of `cgroup.procs` names: the line parses as a PID and
`procfs` resolves it. -/
def lineProc (host : Host) (line : String) : Option Proc :=
  match parseInt host.intSize line with
  | .ok pid => host.proc pid
  | .error _ => none

/-- The loop over the lines of `p/cgroup.procs`: every line naming a live
process appends that process to `cgroupProcs[id]`. -/
def readProcs (host : Host) (id p : String) (cgroupProcs : GoMap (List Proc)) :
    GoMap (List Proc) :=
  match host.readFile (Filepath.join [p, "cgroup.procs"]) with
  | none => cgroupProcs
  | some data =>
    (scanLines data).foldl (fun m line =>
      match lineProc host line with
      | some proc => m.append id [proc]
      | none => m) cgroupProcs

/-- What the walk callback does to its state on the path `p` with entry
`info`, when it is handed no error: every such path of the callback returns
`nil`, a directory that `filepath.Rel` cannot place relative to the root
included. -/
def visit (c : CgroupManager) (host : Host) (st : DiscoverState) (p : String)
    (info : DirEntry) : DiscoverState :=
  if !info.isDir then st
  else
    match Filepath.rel c.root p with
    | .error _ => st
    | .ok rel =>
      match cgroupID unescapeString c p with
      | none => st
      | some (sanitizedPath, id) =>
        let cgroupProcs := readProcs host id p st.cgroupProcs
        let path : CgroupPath := ⟨sanitizedPath, rel⟩
        if c.isChild p then
          { st with cgroupProcs, cgroupChildren := st.cgroupChildren.append id [path] }
        else
          { cgroups := st.cgroups ++ [⟨id, id, [], path, []⟩], cgroupProcs,
            cgroupChildren := st.cgroupChildren.append id [path] }

/-- The walk callback of `discover`: an error it is handed is returned, which
stops the walk. -/
def walkCallback (c : CgroupManager) (host : Host) (st : DiscoverState) (p : String)
    (info : Option DirEntry) (err : Option FsError) : Except FsError DiscoverState :=
  match err, info with
  | some err, _ => .error err
  -- the walk hands the callback no entry only together with an error
  | none, none => .ok st
  | none, some info => .ok (visit unescapeString c host st p info)

/-- The join after the walk: each root cgroup takes the processes and the
children recorded under its id. -/
def mergeCgroups (st : DiscoverState) : List Cgroup :=
  st.cgroups.map fun cg =>
    { cg with
      procs := (st.cgroupProcs.lookup cg.id).getD cg.procs
      children := (st.cgroupChildren.lookup cg.id).getD cg.children }

/-- `cgroupManager.discover`, given the outcome of `os.Lstat` on the mount
point and the tree below it. -/
def discover (c : CgroupManager) (host : Host) (mount : Except FsError Entry) :
    Except FsError (List Cgroup) := do
  let st ← WalkDir (walkCallback unescapeString c host) ⟨[], ∅, ∅⟩ c.mountPoint mount
  pure (mergeCgroups st)

end Discover

end Collector
end Ceems
