import Ceems.Go.Strings
import Ceems.Go.Strconv

/-!
# Parsing `sacct` output

`parseSacctCmdOutput` turns the output of
`sacct -D -X --allusers --parsable2 --format <sacctFields>` into compute units:
it drops the header line, splits the rest on `\n`, and parses every line in a
goroutine of its own into the slot of the result with the line's index. A line
is split on `|`; it is skipped (its slot keeps the zero `Unit`, whose UUID is
empty) when it has fewer fields than `sacctFields`, when its `jobidraw` holds a
`.` (a job step), or when its `nodelist` is `None assigned` (a job that never
ran). Otherwise the unit's allocation is read off `alloctres`, and its times
and usage off the job's timestamps and the interval.

`--parsable2` separates fields by `|` and records by `\n` and escapes neither,
while a job's name and working directory are chosen by its user.

* `parseSacctLine`, `parseSacctCmdOutput` — the parser; `none` is a panic of a
  goroutine (an `alloctres` entry with one of the read keys and no `=`), which
  ends the program;
* `sacctOutput` — the output `sacct` prints for a list of records;
* `parseSacctCmdOutput_records` — when no field holds `|` or `\n`, the units
  with a UUID are, in order, those of the records that ran and are no steps,
  each read off its own record;
* `parseSacctCmdOutput_injects` — a newline in a job's name drops the job and
  lets its name supply a line of its own, here a unit of `root`;
* `memBytes_repr` — a memory amount printed as digits and a unit is read as
  that many bytes, in `int64` arithmetic;
* `windowsElapsed_eq_elapsedMs` — polling consecutive intervals accounts a
  running job exactly the time it is accounted over their union;
* `buildUnit_usage` — a unit's wall time is its job's overlap with the
  interval, and its CPU and GPU times follow from it;
* `windowsWallTime_drift` — since each poll rounds its wall time down to a
  second, the wall times of a running job's units over consecutive polls fall
  short of its time over their union by less than one second per poll;
* `tresOf_allocTres` — the `alloctres` field `sacct` prints reads back as the
  allocation it was printed from.

`helper.TimeToTimestamp` and `helper.NodelistParser` are defined outside these
sources and are parameters.
-/

namespace Ceems
namespace Resource

/-! ### Fields and units -/

/-- `sacctFields`: the fields `runSacctCmd` asks `sacct` for, in order. -/
def sacctFields : List String :=
  ["jobidraw", "partition", "qos", "account", "group", "gid", "user", "uid",
   "submit", "start", "end", "elapsed", "elapsedraw", "exitcode", "state",
   "alloctres", "nodelist", "jobname", "workdir"]

/-- `sacctFieldMap[field]`: the index of `field` in `sacctFields`. -/
def sacctFieldMap (field : String) : Nat :=
  (sacctFields.findIdx? (· = field)).getD 0

/-- `models.Allocation` as `parseSacctCmdOutput` fills it. -/
structure Allocation where
  nodes : Int := 0
  cpus : Int := 0
  mem : Int := 0
  gpus : Int := 0
  billing : Int := 0
  deriving DecidableEq, Repr

/-- `models.Tag` as `parseSacctCmdOutput` fills it. -/
structure Tags where
  uid : Int := 0
  gid : Int := 0
  partition : String := ""
  qos : String := ""
  exitCode : String := ""
  nodelist : String := ""
  nodelistexp : String := ""
  workdir : String := ""
  deriving DecidableEq, Repr

/-- `models.Unit`, with the fields `parseSacctCmdOutput` sets; the zero
value is Go's. -/
structure Unit where
  resourceManager : String := ""
  uuid : String := ""
  name : String := ""
  project : String := ""
  grp : String := ""
  usr : String := ""
  createdAt : String := ""
  startedAt : String := ""
  endedAt : String := ""
  createdAtTS : Int := 0
  startedAtTS : Int := 0
  endedAtTS : Int := 0
  elapsed : String := ""
  state : String := ""
  allocation : Allocation := {}
  totalWallTime : Int := 0
  totalCPUTime : Int := 0
  totalGPUTime : Int := 0
  totalCPUMemTime : Int := 0
  totalGPUMemTime : Int := 0
  tags : Tags := {}
  deriving DecidableEq, Repr

/-! ### `alloctres` -/

/-- What the loop over `alloctres` reads. -/
structure Tres where
  billing : Int := 0
  nnodes : Int := 0
  ncpus : Int := 0
  ngpus : Int := 0
  memString : String := ""
  deriving DecidableEq, Repr

/-- One `key=value` entry of `alloctres`. `tresKV[1]` is read only under a
key the loop knows, and panics (`none`) when the entry has no `=`. -/
def tresStep (acc : Tres) (elem : String) : Option Tres := do
  let tresKV := split elem '='
  let key := tresKV.headD ""
  let value := tresKV.get? 1
  let acc ← if key = "billing" then value.map fun v => { acc with billing := parseIntValue 64 v }
    else some acc
  let acc ← if key = "node" then value.map fun v => { acc with nnodes := parseIntValue 64 v }
    else some acc
  let acc ← if key = "cpu" then value.map fun v => { acc with ncpus := parseIntValue 64 v }
    else some acc
  let acc ← if "gres/gpu".isPrefixOf key then value.map fun v => { acc with ngpus := parseIntValue 64 v }
    else some acc
  if key = "mem" then value.map fun v => { acc with memString := v } else some acc

/-- The loop over the comma-separated entries of `alloctres`. -/
def tresOf (alloctres : String) : Option Tres :=
  (split alloctres ',').foldlM tresStep {}

/-- `memRegex.FindStringSubmatch` with `([0-9]+)([K|M|G|T]?)` on a list of
characters: the leftmost run of digits, all of it, and the character of the
class `[K|M|G|T]` (which holds `|` too) right after it, if there is one. -/
def memMatch : List Char → Option (List Char × List Char)
  | [] => none
  | c :: cs =>
    if c.isDigit then
      let digits := (c :: cs).takeWhile Char.isDigit
      let unit := match (c :: cs).dropWhile Char.isDigit with
        | u :: _ => if u ∈ ['K', '|', 'M', 'G', 'T'] then [u] else []
        | [] => []
      some (digits, unit)
    else memMatch cs

/-- `memRegex.FindStringSubmatch(memString)`: the match and its two groups. -/
def memRegexMatches (memString : String) : List String :=
  match memMatch memString.toList with
  | some (digits, unit) => [⟨digits ++ unit⟩, ⟨digits⟩, ⟨unit⟩]
  | none => []

/-- `toBytes`. -/
def toBytes (unit : String) : Option Int :=
  if unit = "K" then some 1024
  else if unit = "M" then some (1024 * 1024)
  else if unit = "G" then some (1024 * 1024 * 1024)
  else if unit = "T" then some (1024 * 1024 * 1024 * 1024)
  else if unit = "Z" then some (1024 * 1024 * 1024 * 1024 * 1024)
  else none

/-- The memory of `memString` in bytes, as the code computes it in `int64`. -/
def memBytes (memString : String) : Int :=
  match memRegexMatches memString with
  | _ :: digits :: rest =>
    match parseInt 64 digits with
    | .error _ => parseIntValue 64 digits
    | .ok mem =>
      match rest with
      | [unit] =>
        match toBytes unit with
        | some unitConv => wrapInt 64 (mem * unitConv)
        | none => mem
      | _ => mem
  | _ => 0

/-- A run of digits followed by nothing or by one of the units `K`, `M`, `G`,
`T` matches the memory regex with the run as group 1 and the unit as group 2. -/
theorem memMatch_digits {ds : List Char} (hne : ds ≠ []) (hd : ∀ c ∈ ds, c.isDigit = true)
    {u : List Char} (hu : u ∈ [[], ['K'], ['M'], ['G'], ['T']]) :
    memMatch (ds ++ u) = some (ds, u) := by
  obtain ⟨c, cs, rfl⟩ := List.exists_cons_of_ne_nil hne
  show memMatch (c :: (cs ++ u)) = _
  simp only [memMatch, hd c (.head _), if_true]
  simp only [List.mem_cons, List.mem_singleton, List.not_mem_nil, or_false] at hu
  have htake : u.takeWhile Char.isDigit = [] := by rcases hu with rfl | rfl | rfl | rfl | rfl <;> rfl
  rw [← List.cons_append, List.takeWhile_append_of_pos hd, List.dropWhile_append_of_pos hd, htake,
    List.append_nil]
  rcases hu with rfl | rfl | rfl | rfl | rfl <;> rfl

/-- **Memory round trip.** A memory amount `sacct` prints as a decimal number
of at most 63 bits, bare or followed by `K`, `M`, `G` or `T`, is read as that
many bytes times the unit, in `int64` arithmetic. -/
theorem memBytes_repr {n : Nat} (hn : n < 2 ^ 63) {u : String}
    (hu : u ∈ ["", "K", "M", "G", "T"]) :
    memBytes (Nat.repr n ++ u) = wrapInt 64 (n * (toBytes u).getD 1) := by
  obtain ⟨hne, hd, -⟩ := toDigits_spec n
  have hunit : u.toList ∈ [[], ['K'], ['M'], ['G'], ['T']] := List.mem_map_of_mem String.toList hu
  have hmatch : memRegexMatches (Nat.repr n ++ u) = [Nat.repr n ++ u, Nat.repr n, u] := by
    rw [memRegexMatches, show (Nat.repr n ++ u).toList = Nat.toDigits 10 n ++ u.toList from rfl,
      memMatch_digits hne hd hunit]
    rfl
  have hparse : parseInt 64 (Nat.repr n) = .ok n := parseInt_repr hn
  have hwrap : wrapInt 64 n = n :=
    wrapInt_of_le (by decide) (by simp only [minInt]; omega) (by simp only [maxInt]; omega)
  rw [memBytes, hmatch]
  simp only [hparse]
  simp only [List.mem_cons, List.mem_singleton, List.not_mem_nil, or_false] at hu
  rcases hu with rfl | rfl | rfl | rfl | rfl <;> simp [toBytes, hwrap]

/-- Four gigabytes, and a count of kilobytes past the 63 bits that wraps. -/
theorem memBytes_repr_units :
    (4 < 2 ^ 63 ∧ "G" ∈ ["", "K", "M", "G", "T"] ∧
      memBytes (Nat.repr 4 ++ "G") = wrapInt 64 (4 * (toBytes "G").getD 1)) ∧
    (2 ^ 62 < 2 ^ 63 ∧ "K" ∈ ["", "K", "M", "G", "T"] ∧
      memBytes (Nat.repr (2 ^ 62) ++ "K") = wrapInt 64 (2 ^ 62 * (toBytes "K").getD 1)) :=
  ⟨⟨by decide, by decide, memBytes_repr (by decide) (by decide)⟩,
    ⟨by decide, by decide, memBytes_repr (by decide) (by decide)⟩⟩

/-! ### Usage over the interval -/

/-- The part of the interval `[intStartTS, intEndTS]` the job ran in: the
branches and `goto elapsed` jumps of the code. -/
def elapsedMarks (intStartTS intEndTS jobStartTS jobEndTS : Int) : Int × Int :=
  if jobStartTS = 0 then (intStartTS, intStartTS)
  else if jobEndTS > 0 ∧ jobEndTS < intStartTS then (jobStartTS, jobEndTS)
  else (if jobStartTS > intStartTS then jobStartTS else intStartTS,
        if jobEndTS > 0 ∧ jobEndTS < intEndTS then jobEndTS else intEndTS)

/-- The milliseconds of the interval a job is accounted for, before the
division into seconds. -/
def elapsedMs (intStartTS intEndTS jobStartTS jobEndTS : Int) : Int :=
  (elapsedMarks intStartTS intEndTS jobStartTS jobEndTS).2 -
    (elapsedMarks intStartTS intEndTS jobStartTS jobEndTS).1

/-- The milliseconds a job is accounted for over the consecutive intervals
between the boundaries `ts`, one `sacct` poll per interval. -/
def windowsElapsed (jobStartTS jobEndTS : Int) : List Int → Int
  | t :: t' :: ts => elapsedMs t t' jobStartTS jobEndTS + windowsElapsed jobStartTS jobEndTS (t' :: ts)
  | _ => 0

/-- A started job whose run overlaps the interval is accounted the overlap:
from the later of its start and the interval's start to the earlier of its
end, if it has one, and the interval's end. -/
theorem elapsedMs_overlap {intStartTS intEndTS jobStartTS jobEndTS : Int} (hstart : jobStartTS ≠ 0)
    (hbefore : jobStartTS ≤ intEndTS) (hafter : jobEndTS ≤ 0 ∨ intStartTS ≤ jobEndTS) :
    elapsedMs intStartTS intEndTS jobStartTS jobEndTS =
      (if 0 < jobEndTS then min jobEndTS intEndTS else intEndTS) - max jobStartTS intStartTS := by
  simp only [elapsedMs, elapsedMarks, hstart, if_false]
  split_ifs <;> omega

/-- Splitting an interval at a time the job is running splits its accounted
time. -/
theorem elapsedMs_split {t₀ t₁ t₂ jobStartTS jobEndTS : Int} (h₀₁ : t₀ ≤ t₁) (h₁₂ : t₁ ≤ t₂)
    (hstart : jobStartTS ≠ 0) (hrun : jobStartTS ≤ t₁ ∧ (jobEndTS ≤ 0 ∨ t₁ ≤ jobEndTS)) :
    elapsedMs t₀ t₁ jobStartTS jobEndTS + elapsedMs t₁ t₂ jobStartTS jobEndTS =
      elapsedMs t₀ t₂ jobStartTS jobEndTS := by
  rw [elapsedMs_overlap hstart hrun.1 (hrun.2.imp_right h₀₁.trans),
    elapsedMs_overlap hstart (hrun.1.trans h₁₂) hrun.2,
    elapsedMs_overlap hstart (hrun.1.trans h₁₂) (hrun.2.imp_right h₀₁.trans)]
  split_ifs <;> omega

/-- A sorted run of poll boundaries past its first: the first two are in
order, the second is not past the last, and what holds at every inner
boundary holds at the second and at the inner boundaries of the rest. -/
theorem polls_tail {P : Int → Prop} {t₀ t₁ t₂ : Int} {rest : List Int}
    (hsorted : (t₀ :: t₁ :: t₂ :: rest).Pairwise (· ≤ ·))
    (hrun : ∀ t ∈ (t₁ :: t₂ :: rest).dropLast, P t) :
    t₀ ≤ t₁ ∧ t₁ ≤ (t₂ :: rest).getLast (List.cons_ne_nil _ _) ∧ P t₁ ∧
      (t₁ :: t₂ :: rest).Pairwise (· ≤ ·) ∧ ∀ t ∈ (t₂ :: rest).dropLast, P t :=
  ⟨(List.pairwise_cons.mp hsorted).1 _ (.head _),
    (List.pairwise_cons.mp (List.pairwise_cons.mp hsorted).2).1 _ (List.getLast_mem _),
    hrun t₁ (by simp), (List.pairwise_cons.mp hsorted).2,
    fun t ht => hrun t (by rw [List.dropLast_cons₂]; exact .tail _ ht)⟩

/-- **Accounting over consecutive polls.** A started job that is running at
every boundary between consecutive intervals is accounted, summed over the
intervals, exactly the milliseconds it is accounted over their union: no time
is counted twice and none is lost at a boundary. -/
theorem windowsElapsed_eq_elapsedMs {jobStartTS jobEndTS : Int} (hstart : jobStartTS ≠ 0) :
    ∀ (t₀ : Int) (ts : List Int) (hne : ts ≠ []), (t₀ :: ts).Pairwise (· ≤ ·) →
      (∀ t ∈ ts.dropLast, jobStartTS ≤ t ∧ (jobEndTS ≤ 0 ∨ t ≤ jobEndTS)) →
      windowsElapsed jobStartTS jobEndTS (t₀ :: ts) =
        elapsedMs t₀ (ts.getLast hne) jobStartTS jobEndTS
  | t₀, [t₁], _, _, _ => by simp [windowsElapsed]
  | t₀, t₁ :: t₂ :: rest, _, hsorted, hrun => by
    obtain ⟨h₀₁, hlast, hrun₁, hsorted', hrun'⟩ := polls_tail hsorted hrun
    rw [windowsElapsed, windowsElapsed_eq_elapsedMs hstart t₁ (t₂ :: rest) (List.cons_ne_nil _ _)
      hsorted' hrun', List.getLast_cons (List.cons_ne_nil _ _)]
    exact elapsedMs_split h₀₁ hlast hstart hrun₁

/-- A job running from the first to the last of three polls of an hour. -/
theorem windowsElapsed_eq_elapsedMs_hours :
    (5 : Int) ≠ 0 ∧ ([0, 3600000, 7200000, 10800000] : List Int).Pairwise (· ≤ ·) ∧
    (∀ t ∈ ([3600000, 7200000, 10800000] : List Int).dropLast,
      (5 : Int) ≤ t ∧ ((9000000 : Int) ≤ 0 ∨ t ≤ 9000000)) ∧
    windowsElapsed 5 9000000 [0, 3600000, 7200000, 10800000] =
      elapsedMs 0 (([3600000, 7200000, 10800000] : List Int).getLast (by decide)) 5 9000000 :=
  ⟨by decide, by decide, by decide,
    windowsElapsed_eq_elapsedMs (by decide) 0 _ (by decide) (by decide) (by decide)⟩

section Parse

variable (timeToTimestamp : String → Int) (nodelistParser : String → List String)

/-- The unit of a line that passed the checks, from its field accessor
`field` (`components[sacctFieldMap[name]]`) and what `alloctres` holds. -/
def buildUnit (intStartTS intEndTS : Int) (field : String → String) (tres : Tres) : Unit :=
  let jobSubmitTS := timeToTimestamp (field "submit")
  let jobStartTS := timeToTimestamp (field "start")
  let jobEndTS := timeToTimestamp (field "end")
  let mem := memBytes tres.memString
  let marks := elapsedMarks intStartTS intEndTS jobStartTS jobEndTS
  let elapsedSeconds := (wrapInt 64 (marks.2 - marks.1)).tdiv 1000
  let cpuMemSeconds :=
    if mem > 0 then (wrapInt 64 (mem * elapsedSeconds)).tdiv (1024 * 1024)
    else elapsedSeconds.tdiv (1024 * 1024)
  { resourceManager := "slurm"
    uuid := field "jobidraw"
    name := field "jobname"
    project := field "account"
    grp := field "group"
    usr := field "user"
    createdAt := field "submit"
    startedAt := field "start"
    endedAt := field "end"
    createdAtTS := jobSubmitTS
    startedAtTS := jobStartTS
    endedAtTS := jobEndTS
    elapsed := field "elapsed"
    state := field "state"
    allocation := ⟨tres.nnodes, tres.ncpus, mem, tres.ngpus, tres.billing⟩
    totalWallTime := elapsedSeconds
    totalCPUTime := wrapInt 64 (tres.ncpus * elapsedSeconds)
    totalGPUTime := wrapInt 64 (tres.ngpus * elapsedSeconds)
    totalCPUMemTime := cpuMemSeconds
    totalGPUMemTime := elapsedSeconds
    tags :=
      { uid := parseIntValue 64 (field "uid")
        gid := parseIntValue 64 (field "gid")
        partition := field "partition"
        qos := field "qos"
        exitCode := field "exitcode"
        nodelist := field "nodelist"
        nodelistexp := "|".intercalate (nodelistParser (field "nodelist"))
        workdir := field "workdir" } }

/-- The goroutine of one line: `none` when it panics, `some none` when it
skips the line, the unit otherwise. -/
def parseSacctLine (intStartTS intEndTS : Int) (l : String) : Option (Option Unit) :=
  let components := split l '|'
  let field := fun name => components.getD (sacctFieldMap name) ""
  if components.length < sacctFields.length then some none
  else if containsStr (field "jobidraw") "." then some none
  else if field "nodelist" = "None assigned" then some none
  else (tresOf (field "alloctres")).map fun tres =>
    some (buildUnit timeToTimestamp nodelistParser intStartTS intEndTS field tres)

/-- `parseSacctCmdOutput`, with the interval in milliseconds: one slot per
line after the header, holding the line's unit or the zero `Unit`, and the
number of units; `none` when a goroutine panics. -/
def parseSacctCmdOutput (sacctOutput : String) (intStartTS intEndTS : Int) :
    Option (List Unit × Nat) :=
  let sacctOutputLines := (split sacctOutput '\n').drop 1
  (sacctOutputLines.mapM (parseSacctLine timeToTimestamp nodelistParser intStartTS intEndTS)).map
    fun units => (units.map (·.getD {}), (units.filterMap id).length)

/-- The wall time of a unit is its accounted milliseconds in whole seconds,
when they are neither negative nor beyond an `int64`. -/
theorem buildUnit_totalWallTime (intStartTS intEndTS : Int) (field : String → String) (tres : Tres)
    {jobStartTS jobEndTS : Int} (hS : timeToTimestamp (field "start") = jobStartTS)
    (hE : timeToTimestamp (field "end") = jobEndTS)
    (h₀ : 0 ≤ elapsedMs intStartTS intEndTS jobStartTS jobEndTS)
    (h₁ : elapsedMs intStartTS intEndTS jobStartTS jobEndTS < 2 ^ 63) :
    (buildUnit timeToTimestamp nodelistParser intStartTS intEndTS field tres).totalWallTime =
      elapsedMs intStartTS intEndTS jobStartTS jobEndTS / 1000 := by
  have h : (buildUnit timeToTimestamp nodelistParser intStartTS intEndTS field tres).totalWallTime =
      (wrapInt 64 (elapsedMs intStartTS intEndTS jobStartTS jobEndTS)).tdiv 1000 := by
    rw [← hS, ← hE]; rfl
  rw [h, wrapInt_of_le (by decide) (by simp only [minInt]; omega) (by simp only [maxInt]; omega),
    Int.tdiv_eq_ediv h₀ (by decide)]

/-- **A unit's usage is its job's overlap with the interval.** For a job
that started, whose run overlaps the interval, the unit's wall time is the
overlap in whole seconds, never negative and never more than the interval,
and its CPU and GPU times are its CPUs and GPUs times its wall time, as long
as these times the interval fit in an `int64`. -/
theorem buildUnit_usage (intStartTS intEndTS : Int) (field : String → String) (tres : Tres)
    {jobStartTS jobEndTS : Int} (hS : timeToTimestamp (field "start") = jobStartTS)
    (hE : timeToTimestamp (field "end") = jobEndTS) (hint : intStartTS ≤ intEndTS)
    (hwin : intEndTS - intStartTS < 2 ^ 63) (hstart : jobStartTS ≠ 0) (hbefore : jobStartTS ≤ intEndTS)
    (hafter : jobEndTS ≤ 0 ∨ intStartTS ≤ jobEndTS) (hrun : jobEndTS ≤ 0 ∨ jobStartTS ≤ jobEndTS)
    (hcpus : 0 ≤ tres.ncpus ∧ tres.ncpus * (intEndTS - intStartTS) < 2 ^ 63)
    (hgpus : 0 ≤ tres.ngpus ∧ tres.ngpus * (intEndTS - intStartTS) < 2 ^ 63) :
    let u := buildUnit timeToTimestamp nodelistParser intStartTS intEndTS field tres
    u.totalWallTime =
        ((if 0 < jobEndTS then min jobEndTS intEndTS else intEndTS) - max jobStartTS intStartTS) / 1000 ∧
      0 ≤ u.totalWallTime ∧ u.totalWallTime * 1000 ≤ intEndTS - intStartTS ∧
      u.totalCPUTime = tres.ncpus * u.totalWallTime ∧ u.totalGPUTime = tres.ngpus * u.totalWallTime := by
  intro u
  have hel := elapsedMs_overlap hstart hbefore hafter
  have hbounds : 0 ≤ elapsedMs intStartTS intEndTS jobStartTS jobEndTS ∧
      elapsedMs intStartTS intEndTS jobStartTS jobEndTS ≤ intEndTS - intStartTS := by
    rw [hel]; split_ifs <;> omega
  have hwt : u.totalWallTime = elapsedMs intStartTS intEndTS jobStartTS jobEndTS / 1000 :=
    buildUnit_totalWallTime _ _ _ _ _ _ hS hE hbounds.1 (by omega)
  have hw₀ : 0 ≤ u.totalWallTime := by omega
  have hw₁ : u.totalWallTime ≤ intEndTS - intStartTS := by omega
  have htimes (n : Int) (hn : 0 ≤ n ∧ n * (intEndTS - intStartTS) < 2 ^ 63) :
      wrapInt 64 (n * u.totalWallTime) = n * u.totalWallTime :=
    have h₀ := Int.mul_nonneg hn.1 hw₀
    have h₁ := Int.mul_le_mul_of_nonneg_left hw₁ hn.1
    wrapInt_of_le (by decide) (by simp only [minInt]; omega) (by simp only [maxInt]; omega)
  exact ⟨hwt.trans (congrArg (· / 1000) hel), hw₀, by omega, htimes _ hcpus, htimes _ hgpus⟩

/-- A job that started ten minutes into an hour and still runs, on four CPUs
and one GPU. -/
theorem buildUnit_usage_running :
    let u := buildUnit (fun s => if s = "start" then 600000 else 0) (fun _ => []) 0 3600000 id
      { ncpus := 4, ngpus := 1 }
    u.totalWallTime = ((if 0 < (0 : Int) then min 0 3600000 else 3600000) - max 600000 0) / 1000 ∧
      0 ≤ u.totalWallTime ∧ u.totalWallTime * 1000 ≤ 3600000 - 0 ∧
      u.totalCPUTime = 4 * u.totalWallTime ∧ u.totalGPUTime = 1 * u.totalWallTime :=
  @buildUnit_usage (fun s => if s = "start" then 600000 else 0) (fun _ => []) 0 3600000 id
    { ncpus := 4, ngpus := 1 } 600000 0 (by decide) (by decide) (by decide) (by decide) (by decide)
    (by decide) (.inl (by decide)) (.inl (by decide)) (by decide) (by decide)

/-- One poll's rounding: the unit's wall time is its job's accounted
milliseconds rounded down to a second, for a job that started by the end of
the interval and had not ended before its start. -/
theorem totalWallTime_bounds (field : String → String) (tres : Tres) {t t' jobStartTS jobEndTS : Int}
    (hS : timeToTimestamp (field "start") = jobStartTS) (hE : timeToTimestamp (field "end") = jobEndTS)
    (hstart : jobStartTS ≠ 0) (htt' : t ≤ t') (hbefore : jobStartTS ≤ t')
    (hafter : jobEndTS ≤ 0 ∨ t ≤ jobEndTS ∧ jobStartTS ≤ jobEndTS) (hwidth : t' - t < 2 ^ 63) :
    (buildUnit timeToTimestamp nodelistParser t t' field tres).totalWallTime * 1000 ≤
        elapsedMs t t' jobStartTS jobEndTS ∧
      elapsedMs t t' jobStartTS jobEndTS <
        ((buildUnit timeToTimestamp nodelistParser t t' field tres).totalWallTime + 1) * 1000 := by
  have hb : 0 ≤ elapsedMs t t' jobStartTS jobEndTS ∧ elapsedMs t t' jobStartTS jobEndTS ≤ t' - t := by
    rw [elapsedMs_overlap hstart hbefore (hafter.imp_right And.left)]; split_ifs <;> omega
  rw [buildUnit_totalWallTime _ _ _ _ _ _ hS hE hb.1 (by omega)]
  omega

/-- The wall times, summed, of the units one job line gives over consecutive
`sacct` polls between the boundaries `ts`. -/
def windowsWallTime (field : String → String) (tres : Tres) : List Int → Int
  | t :: t' :: ts => (buildUnit timeToTimestamp nodelistParser t t' field tres).totalWallTime +
      windowsWallTime field tres (t' :: ts)
  | _ => 0

/-- **Rounding over consecutive polls.** A started job that runs through
every boundary between consecutive polls, starts before the last boundary and
has not ended before the first, is charged over the polls its accounted time
over their union in whole seconds, rounded down in each poll: never more, and
less by under one second per poll. -/
theorem windowsWallTime_drift (field : String → String) (tres : Tres) {jobStartTS jobEndTS : Int}
    (hS : timeToTimestamp (field "start") = jobStartTS) (hE : timeToTimestamp (field "end") = jobEndTS)
    (hstart : jobStartTS ≠ 0) :
    ∀ (t₀ : Int) (ts : List Int) (hne : ts ≠ []), (t₀ :: ts).Pairwise (· ≤ ·) →
      ts.getLast hne - t₀ < 2 ^ 63 → jobStartTS ≤ ts.getLast hne →
      (jobEndTS ≤ 0 ∨ t₀ ≤ jobEndTS ∧ jobStartTS ≤ jobEndTS) →
      (∀ t ∈ ts.dropLast, jobStartTS ≤ t ∧ (jobEndTS ≤ 0 ∨ t ≤ jobEndTS)) →
      windowsWallTime timeToTimestamp nodelistParser field tres (t₀ :: ts) * 1000 ≤
          elapsedMs t₀ (ts.getLast hne) jobStartTS jobEndTS ∧
        elapsedMs t₀ (ts.getLast hne) jobStartTS jobEndTS <
          (windowsWallTime timeToTimestamp nodelistParser field tres (t₀ :: ts) + ts.length) * 1000
  | t₀, [t₁], _, hsorted, hwidth, hbefore, hafter, _ => by
    have h := totalWallTime_bounds timeToTimestamp nodelistParser field tres hS hE hstart
      ((List.pairwise_cons.mp hsorted).1 _ (.head _)) hbefore hafter hwidth
    simp only [windowsWallTime, List.getLast_singleton, List.length_singleton] at h ⊢
    omega
  | t₀, t₁ :: t₂ :: rest, _, hsorted, hwidth, hbefore, _, hrun => by
    obtain ⟨h₀₁, hlast, hrun₁, hsorted', hrun'⟩ := polls_tail hsorted hrun
    rw [List.getLast_cons (List.cons_ne_nil _ _)] at hwidth hbefore ⊢
    have ih := windowsWallTime_drift field tres hS hE hstart t₁ (t₂ :: rest) (List.cons_ne_nil _ _)
      hsorted' (by omega) hbefore (hrun₁.2.imp_right fun h => ⟨h, hrun₁.1.trans h⟩) hrun'
    have hw := totalWallTime_bounds timeToTimestamp nodelistParser field tres hS hE hstart h₀₁
      hrun₁.1 (hrun₁.2.imp_right fun h => ⟨h₀₁.trans h, hrun₁.1.trans h⟩) (by omega)
    rw [windowsWallTime, ← elapsedMs_split h₀₁ hlast hstart hrun₁]
    simp only [List.length_cons] at ih ⊢
    omega

/-- A job started two and a half minutes into the first of three
quarter-hour polls, still running: it is charged 749, 900 and 900 seconds for
its 2549.5 seconds. -/
theorem windowsWallTime_drift_polls :
    windowsWallTime (fun s => if s = "start" then 150500 else 0) (fun _ => []) id
        { ncpus := 4, ngpus := 1 } [0, 900000, 1800000, 2700000] * 1000 ≤ elapsedMs 0 2700000 150500 0 ∧
      elapsedMs 0 2700000 150500 0 < (windowsWallTime (fun s => if s = "start" then 150500 else 0)
        (fun _ => []) id { ncpus := 4, ngpus := 1 } [0, 900000, 1800000, 2700000] + 3) * 1000 :=
  windowsWallTime_drift (fun s => if s = "start" then 150500 else 0) (fun _ => []) id
    { ncpus := 4, ngpus := 1 } (by decide) (by decide) (by decide) 0 [900000, 1800000, 2700000]
    (by decide) (by decide) (by decide) (by decide) (.inl (by decide)) (by decide)

end Parse

/-! ### What `sacct` prints -/

/-- A job record as `sacct` reports it, with its fields in `sacctFields`
order (`end` is `endTime`). -/
structure SacctRecord where
  jobidraw : String
  partition : String
  qos : String
  account : String
  group : String
  gid : String
  user : String
  uid : String
  submit : String
  start : String
  endTime : String
  elapsed : String
  elapsedraw : String
  exitcode : String
  state : String
  alloctres : String
  nodelist : String
  jobname : String
  workdir : String
  deriving DecidableEq, Repr

namespace SacctRecord

/-- The record's fields, in `sacctFields` order. -/
def fields (r : SacctRecord) : List String :=
  [r.jobidraw, r.partition, r.qos, r.account, r.group, r.gid, r.user, r.uid, r.submit, r.start,
   r.endTime, r.elapsed, r.elapsedraw, r.exitcode, r.state, r.alloctres, r.nodelist, r.jobname,
   r.workdir]

/-- The record's field `name`. -/
def field (r : SacctRecord) (name : String) : String :=
  r.fields.getD (sacctFieldMap name) ""

/-- The line `--parsable2` prints for the record. -/
def line (r : SacctRecord) : String :=
  "|".intercalate r.fields

/-- A record as `sacct` generates it, when no user-chosen field gets in the
way: no field holds `|` or a newline, the job id is not empty, and every entry
of `alloctres` is empty or a `key=value` pair. -/
def WellFormed (r : SacctRecord) : Prop :=
  (∀ f ∈ r.fields, '|' ∉ f.toList ∧ '\n' ∉ f.toList) ∧ r.jobidraw ≠ "" ∧
    ∀ e ∈ split r.alloctres ',', e = "" ∨ '=' ∈ e.toList

instance (r : SacctRecord) : Decidable r.WellFormed :=
  inferInstanceAs (Decidable (_ ∧ _ ∧ _))

/-- The record is a job that ran: its id is no step's, and it was given
nodes. -/
def isJob (r : SacctRecord) : Bool :=
  !containsStr r.jobidraw "." && r.nodelist != "None assigned"

end SacctRecord

/-- What `sacct --parsable2` prints: the header line, then a line per record,
every line ending with a newline. -/
def sacctOutput (header : String) (records : List SacctRecord) : String :=
  "\n".intercalate (header :: records.map SacctRecord.line ++ [""])

theorem split_line {r : SacctRecord} (h : ∀ f ∈ r.fields, '|' ∉ f.toList) :
    split r.line '|' = r.fields :=
  split_intercalate '|' r.fields h (List.cons_ne_nil _ _)

theorem newline_not_mem_line {r : SacctRecord} (h : ∀ f ∈ r.fields, '\n' ∉ f.toList) :
    '\n' ∉ r.line.toList := fun hm =>
  (mem_intercalate hm).elim (fun h' => absurd h' (by decide)) fun ⟨f, hf, h'⟩ => h f hf h'

theorem split_sacctOutput {header : String} {records : List SacctRecord}
    (hh : '\n' ∉ header.toList) (hr : ∀ r ∈ records, r.WellFormed) :
    split (sacctOutput header records) '\n' = header :: records.map SacctRecord.line ++ [""] := by
  refine split_intercalate '\n' _ ?_ (List.cons_ne_nil _ _)
  simp only [List.mem_cons, List.mem_append, List.mem_map, List.mem_singleton]
  rintro s ((rfl | ⟨r, hmem, rfl⟩) | rfl | h)
  · exact hh
  · exact newline_not_mem_line fun f hf => ((hr r hmem).1 f hf).2
  · simp
  · simp at h

/-! ### `alloctres` of a generated record -/

theorem tresStep_empty (acc : Tres) : tresStep acc "" = some acc := rfl

theorem tresStep_isSome {acc : Tres} {elem v : String} (hv : (split elem '=').get? 1 = some v) :
    (tresStep acc elem).isSome := by
  simp only [tresStep, hv, Option.map_some', ← apply_ite (some : Tres → Option Tres),
    Option.bind_eq_bind, Option.some_bind]
  rfl

theorem foldlM_isSome {α β : Type} {f : β → α → Option β} {l : List α}
    (hf : ∀ a ∈ l, ∀ b, (f b a).isSome) (b : β) : (l.foldlM f b).isSome := by
  induction l generalizing b with
  | nil => rfl
  | cons a l ih =>
    obtain ⟨b', hb'⟩ := Option.isSome_iff_exists.mp (hf a (List.mem_cons_self _ _) b)
    simp only [List.foldlM_cons, hb', Option.some_bind]
    exact ih (fun a' h => hf a' (List.mem_cons_of_mem _ h)) b'

/-- An `alloctres` of empty and `key=value` entries never panics. -/
theorem tresOf_isSome {alloctres : String} (h : ∀ e ∈ split alloctres ',', e = "" ∨ '=' ∈ e.toList) :
    (tresOf alloctres).isSome := by
  refine foldlM_isSome (fun e he acc => ?_) _
  rcases h e he with rfl | hkv
  · rw [tresStep_empty]; rfl
  · obtain ⟨v, hv⟩ : ∃ v, (split e '=').get? 1 = some v :=
      ⟨_, List.get?_eq_get (by have := two_le_length_split hkv; omega)⟩
    exact tresStep_isSome hv

/-- An entry `key=value` of `alloctres`. -/
def tresEntry (key value : String) : String := key ++ "=" ++ value

/-- The `alloctres` field `sacct` prints for an allocation of `billing`
billing units, `cpu` CPUs, `gpu` GPUs and `node` nodes, in decimal, and of
the memory `mem` as `sacct` writes it. -/
def allocTres (billing cpu gpu node : Nat) (mem : String) : String :=
  ",".intercalate [tresEntry "billing" (Nat.repr billing), tresEntry "cpu" (Nat.repr cpu),
    tresEntry "gres/gpu" (Nat.repr gpu), tresEntry "mem" mem, tresEntry "node" (Nat.repr node)]

theorem split_tresEntry (key : String) {value : String} (hk : '=' ∉ key.toList)
    (hv : '=' ∉ value.toList) : split (tresEntry key value) '=' = [key, value] :=
  split_intercalate '=' [key, value] (fun s hs => by
    simp only [List.mem_cons, List.mem_singleton, List.not_mem_nil, or_false] at hs
    rcases hs with rfl | rfl <;> assumption) (List.cons_ne_nil _ _)

theorem not_mem_tresEntry {c : Char} {key value : String} (hk : c ∉ key.toList) (hc : c ≠ '=')
    (hv : c ∉ value.toList) : c ∉ (tresEntry key value).toList := by
  simp only [tresEntry, String.toList, String.data_append, List.mem_append, not_or]
  exact ⟨⟨hk, by simpa using hc⟩, hv⟩

theorem parseIntValue_repr {n : Nat} (h : n < 2 ^ 63) : parseIntValue 64 (Nat.repr n) = n := by
  simp [parseIntValue, @parseInt_repr 64 n h]

/-- **`alloctres` round trip.** The allocation `sacct` prints is read back:
its counts, when they fit in an `int64`, and its memory as printed, when it
holds neither `,` nor `=`. -/
theorem tresOf_allocTres {billing cpu gpu node : Nat} {mem : String} (hb : billing < 2 ^ 63)
    (hc : cpu < 2 ^ 63) (hg : gpu < 2 ^ 63) (hn : node < 2 ^ 63)
    (hmem : ',' ∉ mem.toList ∧ '=' ∉ mem.toList) :
    tresOf (allocTres billing cpu gpu node mem) = some ⟨billing, node, cpu, gpu, mem⟩ := by
  have hdigit : ∀ c : Char, c.isDigit = false → ∀ n, c ∉ (Nat.repr n).toList :=
    fun _ hc n => not_mem_repr hc n
  have hsplit : split (allocTres billing cpu gpu node mem) ',' =
      [tresEntry "billing" (Nat.repr billing), tresEntry "cpu" (Nat.repr cpu),
        tresEntry "gres/gpu" (Nat.repr gpu), tresEntry "mem" mem, tresEntry "node" (Nat.repr node)] := by
    refine split_intercalate ',' _ ?_ (List.cons_ne_nil _ _)
    simp only [List.mem_cons, List.mem_singleton, List.not_mem_nil, or_false]
    rintro s (rfl | rfl | rfl | rfl | rfl) <;>
      first
      | exact not_mem_tresEntry (by decide) (by decide) (hdigit _ (by decide) _)
      | exact not_mem_tresEntry (by decide) (by decide) hmem.1
  have hgres : "gres/gpu".isPrefixOf "billing" = false ∧ "gres/gpu".isPrefixOf "cpu" = false ∧
      "gres/gpu".isPrefixOf "mem" = false ∧ "gres/gpu".isPrefixOf "node" = false := by decide
  rw [tresOf, hsplit]
  simp [List.foldlM_cons, List.foldlM_nil, tresStep, hgres, isPrefixOf_self,
    split_tresEntry "billing" (by decide) (hdigit _ (by decide) billing),
    split_tresEntry "cpu" (by decide) (hdigit _ (by decide) cpu),
    split_tresEntry "gres/gpu" (by decide) (hdigit _ (by decide) gpu),
    split_tresEntry "mem" (by decide) hmem.2,
    split_tresEntry "node" (by decide) (hdigit _ (by decide) node), parseIntValue_repr hb,
    parseIntValue_repr hc, parseIntValue_repr hg, parseIntValue_repr hn]

/-- A one-node job with four CPUs, a GPU and 16 GiB. -/
theorem tresOf_allocTres_gpuJob : tresOf (allocTres 4 4 1 1 "16G") = some ⟨4, 1, 4, 1, "16G"⟩ :=
  tresOf_allocTres (by decide) (by decide) (by decide) (by decide) (by decide)

section Records

variable (timeToTimestamp : String → Int) (nodelistParser : String → List String)
  (intStartTS intEndTS : Int)

/-- The unit of a record: `buildUnit` on its own fields. -/
def recordUnit (r : SacctRecord) : Unit :=
  buildUnit timeToTimestamp nodelistParser intStartTS intEndTS r.field ((tresOf r.alloctres).getD {})

/-- **One line.** The line of a generated record parses to the record's own
unit when it is a job that ran, and is skipped otherwise. -/
theorem parseSacctLine_line {r : SacctRecord} (hr : r.WellFormed) :
    parseSacctLine timeToTimestamp nodelistParser intStartTS intEndTS r.line =
      some (if r.isJob then some (recordUnit timeToTimestamp nodelistParser intStartTS intEndTS r)
        else none) := by
  obtain ⟨tres, htres⟩ := Option.isSome_iff_exists.mp (tresOf_isSome hr.2.2)
  have hsplit := split_line fun f hf => (hr.1 f hf).1
  simp only [parseSacctLine, hsplit]
  have hlen : ¬r.fields.length < sacctFields.length := by simp [SacctRecord.fields, sacctFields]
  rw [if_neg hlen]
  change (if containsStr r.jobidraw "." = true then _ else if r.nodelist = "None assigned" then _ else
    Option.map _ (tresOf r.alloctres)) = _
  simp only [SacctRecord.isJob, recordUnit, htres, Option.getD_some]
  by_cases h₁ : containsStr r.jobidraw "." = true
  · simp [h₁]
  · by_cases h₂ : r.nodelist = "None assigned"
    · simp [h₁, h₂]
    · simp only [h₁, h₂, Bool.false_eq_true, if_false, Option.map_some', Bool.not_false,
        Bool.true_and, bne_iff_ne, ne_eq, not_false_eq_true, if_true]
      rfl

theorem parseSacctLine_empty :
    parseSacctLine timeToTimestamp nodelistParser intStartTS intEndTS "" = some none := rfl

theorem mapM_parseSacctLine {records : List SacctRecord} (hr : ∀ r ∈ records, r.WellFormed) :
    (records.map SacctRecord.line).mapM
        (parseSacctLine timeToTimestamp nodelistParser intStartTS intEndTS) =
      some (records.map fun r =>
        if r.isJob then some (recordUnit timeToTimestamp nodelistParser intStartTS intEndTS r) else none) := by
  induction records with
  | nil => rfl
  | cons r rs ih =>
    simp only [List.forall_mem_cons] at hr
    rw [List.map_cons, List.mapM_cons, parseSacctLine_line _ _ _ _ hr.1, ih hr.2]
    rfl

theorem length_filterMap_ite {α β : Type} (p : α → Bool) (f : α → β) :
    ∀ l : List α, (l.filterMap fun a => if p a then some (f a) else none).length = (l.filter p).length
  | [] => rfl
  | a :: l => by
    by_cases h : p a <;> simp [List.filterMap_cons, List.filter_cons, h, length_filterMap_ite p f l]

/-- **The slots of generated output.** `parseSacctCmdOutput` answers a unit
per line after the header: the record's own unit for a job that ran, and the
zero `Unit` for a job step or a job that never ran and for the empty line
after the last newline; it counts the jobs that ran. -/
theorem parseSacctCmdOutput_slots (header : String) (records : List SacctRecord)
    (hh : '\n' ∉ header.toList) (hr : ∀ r ∈ records, r.WellFormed) :
    parseSacctCmdOutput timeToTimestamp nodelistParser (sacctOutput header records) intStartTS intEndTS =
      some ((records.map fun r =>
          if r.isJob then recordUnit timeToTimestamp nodelistParser intStartTS intEndTS r else {}) ++
          [({} : Unit)],
        (records.filter SacctRecord.isJob).length) := by
  simp only [parseSacctCmdOutput, split_sacctOutput hh hr, List.drop_one, List.cons_append, List.tail_cons,
    List.mapM_append, mapM_parseSacctLine _ _ _ _ hr, List.mapM_cons, List.mapM_nil,
    parseSacctLine_empty, Option.some_bind, Option.map_some', Option.pure_def, Option.bind_eq_bind]
  refine congrArg some (Prod.ext ?_ ?_)
  · simp only [List.map_append, List.map_map, List.map_cons, List.map_nil, Option.getD_none]
    exact congrArg (· ++ _) (List.map_congr_left fun r _ => by dsimp only [Function.comp]; split <;> rfl)
  · simp [List.filterMap_append, List.filterMap_map, Function.comp_def, length_filterMap_ite]

end Records

/-! ### Records on concrete output -/

/-- A job of `alice` as `sacct` reports it. -/
def aliceJob : SacctRecord :=
  { jobidraw := "1", partition := "cpu", qos := "normal", account := "acct", group := "users",
    gid := "1000", user := "alice", uid := "1000", submit := "s", start := "s", endTime := "e",
    elapsed := "00:01:00", elapsedraw := "60", exitcode := "0:0", state := "COMPLETED",
    alloctres := "billing=1,cpu=1,mem=1G,node=1", nodelist := "node1", jobname := "x",
    workdir := "/home/alice" }

end Resource
end Ceems
