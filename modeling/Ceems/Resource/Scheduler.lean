import Ceems.Go.Filepath
import Ceems.Resource.Slurm

/-!
# The SLURM fetcher: setting up and fetching

`NewSlurmScheduler` runs `preflightsSacct`, which decides once how the fetcher
runs `sacct`. It first finds the SLURM binaries: a configured `CLI.Path` must
exist, and without one the directory of `sacct` on `PATH` becomes it. Then it
tries, in order: to run as the current user, when that is `slurm` or root
(`native`); to run `sacct --help` as the `slurm` user through Linux
capabilities (`cap`); and to run it through `sudo` (`sudo`). When nothing
works it stays `native`: only the search for the binaries fails the setup.
`Fetch` later runs `sacct` the chosen way (`runSacctCmd`) and parses what it
prints (`parseSacctCmdOutput`).

The host is a record of what each call answers (`SacctHost`); the commands of
`internal/osexec` are data (`Command`) that the host runs. The ids of the
`slurm` user are package variables (`PackageVars`), which every setup may
write and every fetch reads.

* `fetch_sacctOutput` — a scheduler that was set up fetches with `sacct`, and
  on what `sacct` prints its `ClusterUnits` holds a unit per line: the units
  of the jobs that ran, and a zero unit, with an empty UUID, for every line the
  parser skips and for the trailing newline;
* `sacctPath_lookPath` — without a configured directory, the `sacct` that runs
  is the one found on `PATH`, as `filepath.Dir` and `filepath.Join` undo each
  other;
* `newSlurmSchedulers_cap` — over any sequence of setups, one per cluster,
  that see one user database, every scheduler in `cap` mode ran its probe on
  its own host and runs `sacct` with the ids of the `slurm` user, though every
  setup rewrites the package variables.

Logging is not modelled, and neither is the time format of `Time.Format`
(a parameter, like `UnixMilli`).
-/

namespace Ceems
namespace Resource

/-! ### The scheduler, the host and the commands -/

/-- `models.Cluster`, with the fields the fetcher reads: its id, and the
directory (`CLI.Path`) and environment (`CLI.EnvVars`) of its commands. The
environment is a Go map; the list is one order of ranging over it. -/
structure Cluster where
  id : String
  cliPath : String
  envVars : List (String × String)
  deriving DecidableEq, Repr

/-- `slurmScheduler`, without its logger. -/
structure SlurmScheduler where
  cluster : Cluster
  fetchMode : String := ""
  cmdExecMode : String := ""
  deriving DecidableEq, Repr

/-- The package variables `slurmUserUID` and `slurmUserGID`. -/
structure PackageVars where
  slurmUserUID : Int := 0
  slurmUserGID : Int := 0
  deriving DecidableEq, Repr

/-- `user.User`, with the fields the checks read. -/
structure User where
  username : String
  uid : String
  gid : String
  deriving DecidableEq, Repr

/-- A command of `internal/osexec` (`Execute`, `ExecuteAs`,
`ExecuteWithTimeout`): the program, its arguments, the user and group it runs
as or its timeout in seconds, and its environment. -/
inductive Command where
  | execute (cmd : String) (args env : List String)
  | executeAs (cmd : String) (args : List String) (uid gid : Int) (env : List String)
  | executeWithTimeout (cmd : String) (args : List String) (timeout : Nat) (env : List String)
  deriving DecidableEq, Repr

/-- What the host answers to `exec.LookPath`, `os.Stat` (its error, if any),
`user.Current` and `user.Lookup`, and what a command prints or fails with. -/
structure SacctHost where
  lookPath : String → Except String String
  stat : String → Option String
  currentUser : Except String User
  lookup : String → Except String User
  run : Command → Except String String

/-- `filepath.Join(CLI.Path, "sacct")`: the `sacct` the scheduler runs. -/
def sacctPath (s : SlurmScheduler) : String := Filepath.join [s.cluster.cliPath, "sacct"]

/-! ### `preflightsSacct` -/

section Setup

variable (intSize : Nat) (host : SacctHost)

/-- The search for the SLURM binaries in `preflightsSacct`: without a
`CLI.Path`, the directory of `sacct` on `PATH` becomes it; a configured one
must exist. -/
def findSacctDir (slurm : SlurmScheduler) : Except String SlurmScheduler :=
  if slurm.cluster.cliPath = "" then
    match host.lookPath "sacct" with
    | .error err => .error err
    | .ok path => .ok { slurm with cluster := { slurm.cluster with cliPath := Filepath.dir path } }
  else
    match host.stat slurm.cluster.cliPath with
    | some err => .error err
    | none => .ok slurm

/-- The current user is `slurm` or root. -/
def privileged : Except String User → Bool
  | .ok u => u.username == "slurm" || u.uid == "0"
  | .error _ => false

/-- The attempt to run `sacct` as the `slurm` user: the package variables it
leaves, and whether `sacct --help` ran as that user. `slurmUserUID` and
`slurmUserGID` take what `Atoi` returns, also when it fails. -/
def tryCap (vars : PackageVars) (sacctPath : String) : PackageVars × Bool :=
  match host.lookup "slurm" with
  | .error _ => (vars, false)
  | .ok slurmUser =>
    let vars := { vars with slurmUserUID := parseIntValue intSize slurmUser.uid }
    match atoi intSize slurmUser.uid with
    | .error _ => (vars, false)
    | .ok _ =>
      let vars := { vars with slurmUserGID := parseIntValue intSize slurmUser.gid }
      match atoi intSize slurmUser.gid with
      | .error _ => (vars, false)
      | .ok _ =>
        (vars, (host.run (.executeAs sacctPath ["--help"] vars.slurmUserUID vars.slurmUserGID [])).isOk)

/-- The last attempt of `preflightsSacct`: `sudo sacct --help` with a timeout
of five seconds. -/
def sudoProbe (sacctPath : String) : Command := .executeWithTimeout "sudo" [sacctPath, "--help"] 5 []

/-- The second half of `preflightsSacct`, once the binaries are found: the
execution mode it settles on, and the package variables it leaves. -/
def probeExecMode (vars : PackageVars) (slurm : SlurmScheduler) : SlurmScheduler × PackageVars :=
  if privileged host.currentUser then (slurm, vars)
  else
    let (vars, cap) := tryCap intSize host vars (sacctPath slurm)
    if cap then ({ slurm with cmdExecMode := "cap" }, vars)
    else if (host.run (sudoProbe (sacctPath slurm))).isOk then ({ slurm with cmdExecMode := "sudo" }, vars)
    else (slurm, vars)

/-- `preflightsSacct`: the scheduler set up to fetch with `sacct` and the
package variables after the checks. -/
def preflightsSacct (vars : PackageVars) (slurm : SlurmScheduler) :
    Except String (SlurmScheduler × PackageVars) :=
  (findSacctDir host { slurm with fetchMode := "sacct", cmdExecMode := "native" }).map
    (probeExecMode intSize host vars)

/-- `preflightChecks`: the REST API check is commented out, which leaves the
`sacct` checks. -/
def preflightChecks (vars : PackageVars) (s : SlurmScheduler) :
    Except String (SlurmScheduler × PackageVars) :=
  preflightsSacct intSize host vars s

/-- `NewSlurmScheduler`. -/
def newSlurmScheduler (vars : PackageVars) (cluster : Cluster) :
    Except String (SlurmScheduler × PackageVars) :=
  preflightChecks intSize host vars { cluster }

/-- Setting up one scheduler per cluster, one after another, each against the
host as it is at that time; the package variables carry over. -/
def newSlurmSchedulers (vars : PackageVars) :
    List (SacctHost × Cluster) → List (Except String SlurmScheduler) × PackageVars
  | [] => ([], vars)
  | (host, cluster) :: rest =>
    match newSlurmScheduler intSize host vars cluster with
    | .error err => ((newSlurmSchedulers vars rest).1.cons (.error err), (newSlurmSchedulers vars rest).2)
    | .ok (s, vars') => ((newSlurmSchedulers vars' rest).1.cons (.ok s), (newSlurmSchedulers vars' rest).2)

end Setup

/-! ### `runSacctCmd`, `fetchFromSacct` and `Fetch` -/

/-- The arguments `runSacctCmd` gives `sacct`. -/
def sacctArgs (startTime endTime : String) : List String :=
  ["-D", "-X", "--allusers", "--parsable2", "--format", ",".intercalate sacctFields,
   "--state", "RUNNING,CANCELLED,COMPLETED,FAILED,NODE_FAIL,PREEMPTED,TIMEOUT",
   "--starttime", startTime, "--endtime", endTime]

/-- The environment `runSacctCmd` gives `sacct`. -/
def sacctEnv (envVars : List (String × String)) : List String :=
  "SLURM_TIME_FORMAT=%Y-%m-%dT%H:%M:%S%z" :: envVars.map fun p => p.1 ++ "=" ++ p.2

/-- The command `runSacctCmd` runs, by the execution mode. -/
def sacctCommand (vars : PackageVars) (s : SlurmScheduler) (startTime endTime : String) : Command :=
  let args := sacctArgs startTime endTime
  let env := sacctEnv s.cluster.envVars
  if s.cmdExecMode = "cap" then .executeAs (sacctPath s) args vars.slurmUserUID vars.slurmUserGID env
  else if s.cmdExecMode = "sudo" then .execute "sudo" (["-E", sacctPath s] ++ args) env
  else .execute (sacctPath s) args env

/-- `models.ClusterUnits`. -/
structure ClusterUnits where
  cluster : Cluster
  units : List Unit

section Fetch

variable (host : SacctHost) {Time : Type} (format : Time → String) (unixMilli : Time → Int)
  (timeToTimestamp : String → Int) (nodelistParser : String → List String)

/-- `runSacctCmd`: what `sacct` prints, or its error. -/
def runSacctCmd (vars : PackageVars) (s : SlurmScheduler) (startTime endTime : String) :
    Except String String :=
  host.run (sacctCommand vars s startTime endTime)

/-- `fetchFromSacct`: the units of `sacct`'s output between `start` and `end`,
or the command's error; `none` when a goroutine of the parser panics. -/
def fetchFromSacct (vars : PackageVars) (s : SlurmScheduler) (start end_ : Time) :
    Option (Except String (List Unit)) :=
  match runSacctCmd host vars s (format start) (format end_) with
  | .error err => some (.error err)
  | .ok sacctOutput =>
    (parseSacctCmdOutput timeToTimestamp nodelistParser sacctOutput (unixMilli start)
      (unixMilli end_)).map fun r => .ok r.1

/-- `Fetch`. -/
def fetch (vars : PackageVars) (s : SlurmScheduler) (start end_ : Time) :
    Option (Except String (List ClusterUnits)) :=
  if s.fetchMode = "sacct" then
    (fetchFromSacct host format unixMilli timeToTimestamp nodelistParser vars s start end_).map
      fun r => r.map fun jobs => [⟨s.cluster, jobs⟩]
  else some (.error ("unknown fetch mode for SLURM cluster " ++ s.cluster.id))

end Fetch

/-! ### What a setup leaves -/

section SetupFacts
variable {intSize : Nat} {host : SacctHost}

theorem findSacctDir_ok {slurm slurm' : SlurmScheduler} (h : findSacctDir host slurm = .ok slurm') :
    ∃ p, slurm' = { slurm with cluster := { slurm.cluster with cliPath := p } } ∧
      (slurm.cluster.cliPath = "" → ∃ path, host.lookPath "sacct" = .ok path ∧ p = Filepath.dir path) := by
  unfold findSacctDir at h
  split at h <;> rename_i hcli
  · cases hl : host.lookPath "sacct" with
    | error e => rw [hl] at h; cases h
    | ok path => rw [hl] at h; cases h; exact ⟨_, rfl, fun _ => ⟨path, rfl, rfl⟩⟩
  · cases hs : host.stat slurm.cluster.cliPath with
    | some e => rw [hs] at h; cases h
    | none => rw [hs] at h; cases h; exact ⟨slurm.cluster.cliPath, rfl, fun h => absurd h hcli⟩

/-- **What the probes can settle on.** -/
theorem probeExecMode_cases {vars vars' : PackageVars} {slurm s : SlurmScheduler}
    (h : probeExecMode intSize host vars slurm = (s, vars')) :
    (privileged host.currentUser = true ∧ s = slurm ∧ vars' = vars) ∨
    (privileged host.currentUser = false ∧ vars' = (tryCap intSize host vars (sacctPath slurm)).1 ∧
      (((tryCap intSize host vars (sacctPath slurm)).2 = true ∧ s = { slurm with cmdExecMode := "cap" }) ∨
       ((tryCap intSize host vars (sacctPath slurm)).2 = false ∧
         (host.run (sudoProbe (sacctPath slurm))).isOk = true ∧ s = { slurm with cmdExecMode := "sudo" }) ∨
       ((tryCap intSize host vars (sacctPath slurm)).2 = false ∧
         (host.run (sudoProbe (sacctPath slurm))).isOk = false ∧ s = slurm))) := by
  unfold probeExecMode at h
  cases hp : privileged host.currentUser
  · rcases hc : tryCap intSize host vars (sacctPath slurm) with ⟨v, c⟩
    simp only [hp, hc, Bool.false_eq_true, if_false] at h
    cases c <;> cases hs : (host.run (sudoProbe (sacctPath slurm))).isOk <;>
      simp only [hs, if_true, if_false, Bool.false_eq_true, Prod.mk.injEq] at h <;>
      obtain ⟨rfl, rfl⟩ := h <;> simp
  · simp only [hp, if_true, Prod.mk.injEq] at h
    exact .inl ⟨rfl, h.1.symm, h.2.symm⟩

theorem preflightsSacct_ok {vars vars' : PackageVars} {slurm s : SlurmScheduler}
    (h : preflightsSacct intSize host vars slurm = .ok (s, vars')) :
    ∃ slurm', findSacctDir host { slurm with fetchMode := "sacct", cmdExecMode := "native" } = .ok slurm' ∧
      probeExecMode intSize host vars slurm' = (s, vars') := by
  unfold preflightsSacct at h
  cases hf : findSacctDir host { slurm with fetchMode := "sacct", cmdExecMode := "native" } with
  | error e => rw [hf] at h; cases h
  | ok slurm' => rw [hf] at h; exact ⟨slurm', rfl, Except.ok.inj h⟩

theorem parseIntValue_of_atoi {s : String} {n : Int} (h : atoi intSize s = .ok n) :
    parseIntValue intSize s = n := by
  unfold atoi at h
  unfold parseIntValue
  split at h
  · cases h
  · rename_i m hm
    cases h
    rw [hm]

/-- **A capability probe that passed** ran with the ids `Atoi` read off the
`slurm` user, which it leaves in the package variables. -/
theorem tryCap_cap {vars : PackageVars} {path : String} (h : (tryCap intSize host vars path).2 = true) :
    ∃ u, host.lookup "slurm" = .ok u ∧
      atoi intSize u.uid = .ok (tryCap intSize host vars path).1.slurmUserUID ∧
      atoi intSize u.gid = .ok (tryCap intSize host vars path).1.slurmUserGID ∧
      (host.run (.executeAs path ["--help"] (tryCap intSize host vars path).1.slurmUserUID
        (tryCap intSize host vars path).1.slurmUserGID [])).isOk = true := by
  unfold tryCap at h ⊢
  split at h
  · cases h
  · rename_i u hu
    split at h
    · cases h
    · rename_i n hn
      split at h
      · cases h
      · rename_i m hm
        simp only [hu, hn, hm, parseIntValue_of_atoi hn, parseIntValue_of_atoi hm] at h ⊢
        exact ⟨u, rfl, hn, hm, h⟩

/-- **A setup that finds the `slurm` user's ids in place leaves them.** -/
theorem tryCap_fst {vars : PackageVars} {u : User} (hu : host.lookup "slurm" = .ok u)
    (huid : atoi intSize u.uid = .ok vars.slurmUserUID)
    (hgid : atoi intSize u.gid = .ok vars.slurmUserGID) (path : String) :
    (tryCap intSize host vars path).1 = vars := by
  simp only [tryCap, hu, huid, hgid, parseIntValue_of_atoi huid, parseIntValue_of_atoi hgid]

/-- **What a setup sets.** The scheduler fetches with `sacct`, from the
directory the search found, in some execution mode. -/
theorem preflightsSacct_shape {vars vars' : PackageVars} {slurm s : SlurmScheduler}
    (h : preflightsSacct intSize host vars slurm = .ok (s, vars')) :
    ∃ p mode, s = { slurm with
        cluster := { slurm.cluster with cliPath := p }, fetchMode := "sacct", cmdExecMode := mode } ∧
      (slurm.cluster.cliPath = "" → ∃ path, host.lookPath "sacct" = .ok path ∧ p = Filepath.dir path) := by
  obtain ⟨slurm', hfind, hprobe⟩ := preflightsSacct_ok h
  obtain ⟨p, rfl, hp⟩ := findSacctDir_ok hfind
  rcases probeExecMode_cases hprobe with ⟨-, rfl, -⟩ | ⟨-, -, ⟨-, rfl⟩ | ⟨-, -, rfl⟩ | ⟨-, -, rfl⟩⟩ <;>
    exact ⟨p, _, rfl, hp⟩

theorem preflightsSacct_vars {vars vars' : PackageVars} {slurm s : SlurmScheduler}
    (h : preflightsSacct intSize host vars slurm = .ok (s, vars')) :
    vars' = vars ∨ ∃ path, vars' = (tryCap intSize host vars path).1 := by
  obtain ⟨slurm', -, hprobe⟩ := preflightsSacct_ok h
  obtain ⟨-, -, rfl⟩ | ⟨-, rfl, -⟩ := probeExecMode_cases hprobe
  exacts [.inl rfl, .inr ⟨_, rfl⟩]

/-- A setup that settled on `cap` ran `sacct --help` with the ids `Atoi` read
off the `slurm` user, and left those ids in the package variables. -/
theorem newSlurmScheduler_cap_probed {vars vars' : PackageVars} {cluster : Cluster}
    {s : SlurmScheduler} (h : newSlurmScheduler intSize host vars cluster = .ok (s, vars'))
    (hcap : s.cmdExecMode = "cap") :
    (∃ u, host.lookup "slurm" = .ok u ∧ atoi intSize u.uid = .ok vars'.slurmUserUID ∧
        atoi intSize u.gid = .ok vars'.slurmUserGID) ∧
      (host.run (.executeAs (sacctPath s) ["--help"] vars'.slurmUserUID vars'.slurmUserGID [])).isOk := by
  obtain ⟨slurm', hfind, hprobe⟩ := preflightsSacct_ok h
  obtain ⟨p, rfl, -⟩ := findSacctDir_ok hfind
  rcases probeExecMode_cases hprobe with ⟨-, rfl, -⟩ | ⟨-, rfl, ⟨hc, rfl⟩ | ⟨-, -, rfl⟩ | ⟨-, -, rfl⟩⟩
  · simp at hcap
  · obtain ⟨u, hu, huid, hgid, hrun⟩ := tryCap_cap hc
    exact ⟨⟨u, hu, huid, hgid⟩, hrun⟩
  all_goals simp at hcap

/-- A host where `sacct` is `/usr/bin/sacct` on `PATH`, the exporter runs as
`ceems`, and every command runs, also as the `slurm` user (ids `64030`). -/
def capHost : SacctHost where
  lookPath _ := .ok "/usr/bin/sacct"
  stat _ := none
  currentUser := .ok ⟨"ceems", "1000", "1000"⟩
  lookup _ := .ok ⟨"slurm", "64030", "64030"⟩
  run _ := .ok ""

/-- **The `sacct` found on `PATH` is the one that runs.** Without a
configured directory, the setup keeps the directory of the `sacct` that
`exec.LookPath` found, `filepath.Join(dir, "sacct")`, and the scheduler runs
that same path. -/
theorem sacctPath_lookPath {vars vars' : PackageVars} {cluster : Cluster} {s : SlurmScheduler}
    (h : newSlurmScheduler intSize host vars cluster = .ok (s, vars')) (hcli : cluster.cliPath = "")
    {dir : String} (hfound : host.lookPath "sacct" = .ok (Filepath.join [dir, "sacct"])) :
    sacctPath s = Filepath.join [dir, "sacct"] := by
  obtain ⟨p, mode, rfl, hp⟩ := preflightsSacct_shape h
  obtain ⟨path, hpath, rfl⟩ := hp hcli
  rw [hfound] at hpath
  cases hpath
  unfold sacctPath
  dsimp only
  exact Filepath.join_dir_join dir (by decide)

/-- On `capHost`, `LookPath` finds `/usr/bin/sacct`, which is what runs. -/
theorem sacctPath_lookPath_usrBin :
    newSlurmScheduler 64 capHost {} ⟨"c1", "", []⟩ =
        .ok (⟨⟨"c1", "/usr/bin", []⟩, "sacct", "cap"⟩, ⟨64030, 64030⟩) ∧
    (⟨"c1", "", []⟩ : Cluster).cliPath = "" ∧ capHost.lookPath "sacct" = .ok (Filepath.join ["/usr/bin", "sacct"]) ∧
    sacctPath ⟨⟨"c1", "/usr/bin", []⟩, "sacct", "cap"⟩ = Filepath.join ["/usr/bin", "sacct"] :=
  have h : newSlurmScheduler 64 capHost {} ⟨"c1", "", []⟩ =
      .ok (⟨⟨"c1", "/usr/bin", []⟩, "sacct", "cap"⟩, ⟨64030, 64030⟩) := rfl
  have hfound : capHost.lookPath "sacct" = .ok (Filepath.join ["/usr/bin", "sacct"]) := rfl
  ⟨h, rfl, hfound, sacctPath_lookPath h rfl hfound⟩

end SetupFacts

theorem sacctCommand_cap (vars : PackageVars) {s : SlurmScheduler} (h : s.cmdExecMode = "cap")
    (startTime endTime : String) :
    sacctCommand vars s startTime endTime = .executeAs (sacctPath s) (sacctArgs startTime endTime)
      vars.slurmUserUID vars.slurmUserGID (sacctEnv s.cluster.envVars) := by
  simp [sacctCommand, h]

/-! ### Setting up several clusters -/

section Runs

variable {intSize : Nat}

/-- A setup that finds the `slurm` user's ids in the package variables
leaves them. -/
theorem newSlurmScheduler_keeps_ids {host : SacctHost} {vars vars' : PackageVars}
    {cluster : Cluster} {s : SlurmScheduler} {u : User}
    (h : newSlurmScheduler intSize host vars cluster = .ok (s, vars'))
    (hu : host.lookup "slurm" = .ok u) (huid : atoi intSize u.uid = .ok vars.slurmUserUID)
    (hgid : atoi intSize u.gid = .ok vars.slurmUserGID) : vars' = vars := by
  rcases preflightsSacct_vars h with rfl | ⟨path, rfl⟩
  exacts [rfl, tryCap_fst hu huid hgid path]

/-- A run of setups from package variables that hold the `slurm` user's ids
leaves them. -/
theorem newSlurmSchedulers_keeps_ids {u : User} :
    ∀ (runs : List (SacctHost × Cluster)) (vars : PackageVars),
      (∀ r ∈ runs, r.1.lookup "slurm" = .ok u) → atoi intSize u.uid = .ok vars.slurmUserUID →
      atoi intSize u.gid = .ok vars.slurmUserGID → (newSlurmSchedulers intSize vars runs).2 = vars
  | [], _, _, _, _ => rfl
  | (host, cluster) :: rest, vars, hdb, huid, hgid => by
    have hrest := fun r hr => hdb r (List.mem_cons_of_mem _ hr)
    rw [newSlurmSchedulers]
    split
    · exact newSlurmSchedulers_keeps_ids rest vars hrest huid hgid
    · rename_i s vars' h
      rw [newSlurmScheduler_keeps_ids h (hdb _ (List.mem_cons_self _ _)) huid hgid]
      exact newSlurmSchedulers_keeps_ids rest vars hrest huid hgid

/-- What a scheduler `s` in `cap` mode, set up on `host`, needs of the package
variables `v` it fetches with: they hold the ids `Atoi` reads off the `slurm`
user, `sacct --help` ran as them on `host`, and the fetch runs `sacct` as
them. -/
def RunsAsSlurm (intSize : Nat) (slurmUser : Except String User) (v : PackageVars) (host : SacctHost)
    (s : SlurmScheduler) : Prop :=
  (∃ u, slurmUser = .ok u ∧ atoi intSize u.uid = .ok v.slurmUserUID ∧
      atoi intSize u.gid = .ok v.slurmUserGID) ∧
    (host.run (.executeAs (sacctPath s) ["--help"] v.slurmUserUID v.slurmUserGID [])).isOk ∧
    ∀ startTime endTime, sacctCommand v s startTime endTime =
      .executeAs (sacctPath s) (sacctArgs startTime endTime) v.slurmUserUID v.slurmUserGID
        (sacctEnv s.cluster.envVars)

/-- **Every scheduler in `cap` mode runs `sacct` as the `slurm` user.** Over
any sequence of setups, one per host and cluster, that see one user database,
each setup may rewrite the package variables. Yet for every setup whose
scheduler settled on `cap`, that scheduler is its cluster's, the package
variables the whole sequence leaves (and so every later fetch reads) hold the
ids `Atoi` reads off the `slurm` user, `sacct --help` ran as them on the host
that scheduler was set up on, and its fetch runs `sacct` as them. -/
theorem newSlurmSchedulers_cap {slurmUser : Except String User} :
    ∀ (runs : List (SacctHost × Cluster)) (vars : PackageVars),
      (∀ r ∈ runs, r.1.lookup "slurm" = slurmUser) →
      List.Forall₂ (fun r res => ∀ s, res = .ok s → s.cmdExecMode = "cap" →
          s.cluster.id = r.2.id ∧ RunsAsSlurm intSize slurmUser (newSlurmSchedulers intSize vars runs).2 r.1 s)
        runs (newSlurmSchedulers intSize vars runs).1
  | [], _, _ => .nil
  | (host, cluster) :: rest, vars, hdb => by
    have hrest : ∀ r ∈ rest, r.1.lookup "slurm" = slurmUser := fun r hr => hdb r (List.mem_cons_of_mem _ hr)
    have hhost : host.lookup "slurm" = slurmUser := hdb _ (List.mem_cons_self _ _)
    rcases hnew : newSlurmScheduler intSize host vars cluster with err | ⟨s₀, vars₀⟩
    · simp only [newSlurmSchedulers, hnew]
      exact .cons (fun s hs => absurd hs (by simp)) (newSlurmSchedulers_cap rest vars hrest)
    · simp only [newSlurmSchedulers, hnew]
      refine .cons (fun s hs hcap => ?_) (newSlurmSchedulers_cap rest vars₀ hrest)
      obtain rfl := Except.ok.inj hs
      -- the setup that settled on `cap` read the ids, and every later one keeps them
      obtain ⟨⟨u, hu, huid, hgid⟩, hrun⟩ := newSlurmScheduler_cap_probed hnew hcap
      have hdb' : ∀ r ∈ rest, r.1.lookup "slurm" = .ok u := fun r hr => (hrest r hr).trans (hhost.symm.trans hu)
      rw [newSlurmSchedulers_keeps_ids rest vars₀ hdb' huid hgid]
      obtain ⟨p, mode, rfl, -⟩ := preflightsSacct_shape hnew
      exact ⟨rfl, ⟨u, hhost.symm.trans hu, huid, hgid⟩, hrun, sacctCommand_cap _ hcap⟩

/-- A host like `capHost` where running as another user is not permitted,
and `sudo` works. -/
def sudoHost : SacctHost :=
  { capHost with
    run := fun c => match c with
      | .executeAs .. => .error "operation not permitted"
      | _ => .ok "" }

/-- Two clusters, the second set up where only `sudo` works: the first
scheduler, which settled on `cap`, still runs `sacct` as `slurm`. -/
theorem newSlurmSchedulers_cap_twoClusters :
    (∀ r ∈ ([(capHost, ⟨"c1", "", []⟩), (sudoHost, ⟨"c2", "", []⟩)] : List (SacctHost × Cluster)),
      r.1.lookup "slurm" = .ok ⟨"slurm", "64030", "64030"⟩) ∧
    List.Forall₂ (fun (r : SacctHost × Cluster) (res : Except String SlurmScheduler) =>
        ∀ s, res = .ok s → s.cmdExecMode = "cap" →
        s.cluster.id = r.2.id ∧ RunsAsSlurm 64 (.ok ⟨"slurm", "64030", "64030"⟩)
          (newSlurmSchedulers 64 {} [(capHost, ⟨"c1", "", []⟩), (sudoHost, ⟨"c2", "", []⟩)]).2 r.1 s)
      [(capHost, ⟨"c1", "", []⟩), (sudoHost, ⟨"c2", "", []⟩)]
      (newSlurmSchedulers 64 {} [(capHost, ⟨"c1", "", []⟩), (sudoHost, ⟨"c2", "", []⟩)]).1 :=
  have hdb : ∀ r ∈ ([(capHost, ⟨"c1", "", []⟩), (sudoHost, ⟨"c2", "", []⟩)] : List (SacctHost × Cluster)),
      r.1.lookup "slurm" = .ok ⟨"slurm", "64030", "64030"⟩ := by
    simp only [List.mem_cons, List.mem_singleton, forall_eq_or_imp, forall_eq, List.not_mem_nil]
    exact ⟨rfl, rfl, fun _ h => h.elim⟩
  ⟨hdb, newSlurmSchedulers_cap _ {} hdb⟩

end Runs

section FetchFacts

variable {intSize : Nat} {host : SacctHost} {Time : Type} (format : Time → String)
  (unixMilli : Time → Int) (timeToTimestamp : String → Int) (nodelistParser : String → List String)

/-- `Fetch` in the `sacct` fetch mode. -/
theorem fetch_of_sacct {s : SlurmScheduler} (hmode : s.fetchMode = "sacct") (v : PackageVars)
    (start end_ : Time) :
    fetch host format unixMilli timeToTimestamp nodelistParser v s start end_ =
      match host.run (sacctCommand v s (format start) (format end_)) with
      | .error err => some (.error err)
      | .ok out =>
        (parseSacctCmdOutput timeToTimestamp nodelistParser out (unixMilli start)
          (unixMilli end_)).map fun r => .ok [⟨s.cluster, r.1⟩] := by
  rw [fetch, if_pos hmode, fetchFromSacct, runSacctCmd]
  cases host.run (sacctCommand v s (format start) (format end_)) <;> simp [Except.map, Option.map_map]
  rfl

/-- **A fetch passes on a zero unit for every line it skips.** When `sacct`
prints well-formed records, the fetch of a scheduler that was set up answers
one unit per line after the header, in the cluster's `ClusterUnits`: the
record's own unit for a job that ran, and the zero `Unit`, whose UUID is
empty, for every job step, every job that never ran, and the empty line after
the last newline. -/
theorem fetch_sacctOutput {vars vars' : PackageVars} {cluster : Cluster} {s : SlurmScheduler}
    (h : newSlurmScheduler intSize host vars cluster = .ok (s, vars')) (v : PackageVars)
    (start end_ : Time) {header : String} {records : List SacctRecord} (hh : '\n' ∉ header.toList)
    (hr : ∀ r ∈ records, r.WellFormed)
    (hout : host.run (sacctCommand v s (format start) (format end_)) = .ok (sacctOutput header records)) :
    fetch host format unixMilli timeToTimestamp nodelistParser v s start end_ =
      some (.ok [⟨s.cluster, (records.map fun r => if r.isJob then
        recordUnit timeToTimestamp nodelistParser (unixMilli start) (unixMilli end_) r else {}) ++
          [({} : Unit)]⟩]) := by
  obtain ⟨p, mode, rfl, -⟩ := preflightsSacct_shape h
  rw [fetch_of_sacct format unixMilli timeToTimestamp nodelistParser rfl v start end_, hout]
  dsimp only
  rw [parseSacctCmdOutput_slots _ _ _ _ header records hh hr]
  rfl

/-- A host like `capHost` whose `sacct` prints a job of `alice` and a step
of it. -/
def sacctHost : SacctHost :=
  { capHost with
    run := fun _ => .ok (sacctOutput ("|".intercalate sacctFields)
      [aliceJob, { aliceJob with jobidraw := "1.batch" }]) }

/-- On `sacctHost` the fetch answers `alice`'s unit, then a zero unit for the
step and one for the trailing newline. -/
theorem fetch_sacctOutput_jobAndStep :
    fetch sacctHost id (fun _ => 0) (fun _ => 0) (fun s => [s]) ⟨64030, 64030⟩
        ⟨⟨"c1", "/usr/bin", []⟩, "sacct", "cap"⟩ "t0" "t1" =
      some (.ok [⟨⟨"c1", "/usr/bin", []⟩,
        ([aliceJob, { aliceJob with jobidraw := "1.batch" }].map fun r =>
          if r.isJob then recordUnit (fun _ => 0) (fun s => [s]) 0 0 r else {}) ++ [({} : Unit)]⟩]) :=
  have h : newSlurmScheduler 64 sacctHost {} ⟨"c1", "", []⟩ =
      .ok (⟨⟨"c1", "/usr/bin", []⟩, "sacct", "cap"⟩, ⟨64030, 64030⟩) := rfl
  fetch_sacctOutput id (fun _ => 0) (fun _ => 0) (fun s => [s]) h _ "t0" "t1" (by decide) (by decide) rfl

end FetchFacts

end Resource
end Ceems
