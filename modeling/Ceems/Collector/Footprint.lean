import Ceems.Collector.Update

/-!
# What a statistics pass writes

`statsV1` and `statsV2` fill a `cgMetric` from the sources of one cgroup: the
statistics the cgroups library loads, section by section (CPU, memory, memory
events, block IO, RDMA, each of which may be `nil`), and the CPUs `getCPUs`
reads from the cpuset file. Each step of a pass reads one source and writes
the fields filled from it, and only when the source is there; the error flag
is written only when loading the statistics fails.

`MetricField` names the fields a pass may write, the error flag among them,
and `MetricField.get` reads one. The tables `readV1` and `readV2` say for
each field whether the source it is filled from was read: under cgroups v1
the pressures have no source, under v2 the swap fail count has none, and the
error flag has none in either.

* `get_cpuStatsV1`, …, `get_rdmaStats` — one frame lemma per step: a field
  whose source the step did not read keeps its value;
* `statsV1_frame`, `statsV2_frame` — the same for a whole pass once the
  statistics load;
* `stats_partial_sources` — from a fresh `cgMetric`, both passes set the
  error flag exactly when loading the statistics fails, and then write
  nothing else; once the statistics load the flag stays `false`, whatever
  sections are missing and whatever `getCPUs` answers, and every field whose
  source was missing or unreadable keeps Go's zero value;
* `stats_err_without_sources` — statistics without a single section, on a
  node without a cpuset file, leave the error flag `false`;
* `Update_collectError` — so a scrape of fresh records sends `collect_error`
  for exactly the units whose statistics did not load;
* `Update_unitCPUs` — and when the statistics load and the cpuset files are
  in the kernel's list format, the scrape completes and its `unit_cpus`
  samples are the sizes of the units' CPU sets, from the file to the sample.
-/

namespace Ceems
namespace Collector

/-! ### Fields and their sources -/

/-- The fields of `cgMetric` a statistics pass may write: the statistics and
the error flag. The path and the uuid are the cgroup's and no pass writes
them. -/
inductive MetricField where
  | cpuUser | cpuSystem | cpuTotal | cpus | cpuPressure
  | memoryRSS | memoryCache | memoryUsed | memoryTotal | memoryFailCount
  | memswUsed | memswTotal | memswFailCount | memoryPressure
  | blkioReadBytes | blkioWriteBytes | blkioReadReqs | blkioWriteReqs | blkioPressure
  | rdmaHCAHandles | rdmaHCAObjects
  | err
  deriving DecidableEq, Repr

/-- The value of a field: a `float64`, the CPU count, a per-device map, or the
flag. -/
inductive FieldValue where
  | num (q : ℚ)
  | count (n : Int)
  | map (m : GoMap ℚ)
  | flag (b : Bool)

namespace MetricField

/-- The value of the field in `m`. -/
def get (m : CgMetric) : MetricField → FieldValue
  | cpuUser => .num m.cpuUser
  | cpuSystem => .num m.cpuSystem
  | cpuTotal => .num m.cpuTotal
  | cpus => .count m.cpus
  | cpuPressure => .num m.cpuPressure
  | memoryRSS => .num m.memoryRSS
  | memoryCache => .num m.memoryCache
  | memoryUsed => .num m.memoryUsed
  | memoryTotal => .num m.memoryTotal
  | memoryFailCount => .num m.memoryFailCount
  | memswUsed => .num m.memswUsed
  | memswTotal => .num m.memswTotal
  | memswFailCount => .num m.memswFailCount
  | memoryPressure => .num m.memoryPressure
  | blkioReadBytes => .map m.blkioReadBytes
  | blkioWriteBytes => .map m.blkioWriteBytes
  | blkioReadReqs => .map m.blkioReadReqs
  | blkioWriteReqs => .map m.blkioWriteReqs
  | blkioPressure => .num m.blkioPressure
  | rdmaHCAHandles => .map m.rdmaHCAHandles
  | rdmaHCAObjects => .map m.rdmaHCAObjects
  | err => .flag m.err

/-- Go's zero value of the field: its value in the zero `cgMetric`. -/
def zero (f : MetricField) : FieldValue := f.get {}

/-- A fresh `cgMetric` holds the zero value in every field a pass writes. -/
theorem get_fresh (path uuid : String) (f : MetricField) : f.get { path, uuid } = f.zero := by
  cases f <;> rfl

/-- The CPU count is filled from what `getCPUs` answers, when it is a list. -/
def readCPUs (cpus : Except GoError (List String)) : MetricField → Bool
  | MetricField.cpus => cpus.toBool
  | _ => false

/-- The RDMA maps are filled from the `Rdma` section, under both versions. -/
def readRdma (rdma : Option RdmaStat) : MetricField → Bool
  | rdmaHCAHandles | rdmaHCAObjects => rdma.isSome
  | _ => false

/-- v1: the CPU times are filled from `CPU.Usage`. -/
def readCPUV1 (cpu : Option V1CPUStat) : MetricField → Bool
  | cpuUser | cpuSystem | cpuTotal => (cpu.bind V1CPUStat.usage).isSome
  | _ => false

/-- v1: the memory fields are filled from `Memory`, its `Usage` and its `Swap`. -/
def readMemoryV1 (memory : Option V1MemoryStat) : MetricField → Bool
  | memoryRSS | memoryCache => memory.isSome
  | memoryUsed | memoryTotal | memoryFailCount => (memory.bind V1MemoryStat.usage).isSome
  | memswUsed | memswTotal | memswFailCount => (memory.bind V1MemoryStat.swap).isSome
  | _ => false

/-- v1: the block-IO maps are filled from `Blkio`. -/
def readBlkioV1 (blkio : Option BlkIOStat) : MetricField → Bool
  | blkioReadBytes | blkioWriteBytes | blkioReadReqs | blkioWriteReqs => blkio.isSome
  | _ => false

/-- v2: the CPU times are filled from `CPU`, the pressure from its `PSI`. -/
def readCPUV2 (cpu : Option V2CPUStat) : MetricField → Bool
  | cpuUser | cpuSystem | cpuTotal => cpu.isSome
  | cpuPressure => (cpu.bind V2CPUStat.psi).isSome
  | _ => false

/-- v2: the memory fields are filled from `Memory`, the pressure from its `PSI`. -/
def readMemoryV2 (memory : Option V2MemoryStat) : MetricField → Bool
  | memoryUsed | memoryTotal | memoryCache | memoryRSS | memswUsed | memswTotal => memory.isSome
  | memoryPressure => (memory.bind V2MemoryStat.psi).isSome
  | _ => false

/-- v2: the memory fail count is filled from `MemoryEvents`. -/
def readMemoryEvents (events : Option MemoryEvents) : MetricField → Bool
  | memoryFailCount => events.isSome
  | _ => false

/-- v2: the block-IO maps are filled from `Io`, the pressure from its `PSI`. -/
def readIOV2 (io : Option IOStat) : MetricField → Bool
  | blkioReadBytes | blkioWriteBytes | blkioReadReqs | blkioWriteReqs => io.isSome
  | blkioPressure => (io.bind IOStat.psi).isSome
  | _ => false

/-- Under cgroups v1, whether the source the field is filled from was read. -/
def readV1 (stats : V1Metrics) (cpus : Except GoError (List String)) (f : MetricField) : Bool :=
  f.readCPUV1 stats.cpu || f.readCPUs cpus || f.readMemoryV1 stats.memory ||
    f.readBlkioV1 stats.blkio || f.readRdma stats.rdma

/-- Under cgroups v2, whether the source the field is filled from was read. -/
def readV2 (stats : V2Metrics) (cpus : Except GoError (List String)) (f : MetricField) : Bool :=
  f.readCPUV2 stats.cpu || f.readCPUs cpus || f.readMemoryV2 stats.memory ||
    f.readMemoryEvents stats.memoryEvents || f.readIOV2 stats.io || f.readRdma stats.rdma

end MetricField

open MetricField

/-! ### Each step writes the fields of its own source -/

section Steps

variable {f : MetricField} (m : CgMetric)

theorem get_setCPUs {cpus : Except GoError (List String)} (hf : f.readCPUs cpus = false) :
    f.get (setCPUs cpus m) = f.get m := by
  cases cpus <;> cases f <;> first | rfl | simp [readCPUs, Except.toBool] at hf

theorem get_rdmaStats {rdma : Option RdmaStat} (hf : f.readRdma rdma = false) :
    f.get (rdmaStats rdma m) = f.get m := by
  cases rdma <;> cases f <;> first | rfl | simp [readRdma] at hf

theorem get_cpuStatsV1 {cpu : Option V1CPUStat} (hf : f.readCPUV1 cpu = false) :
    f.get (cpuStatsV1 cpu m) = f.get m := by
  unfold cpuStatsV1
  split
  · rfl
  · rename_i h
    cases f <;> first | rfl | simp [readCPUV1, h] at hf

theorem get_memoryStatsV1 {h : GoMap ℚ} {memory : Option V1MemoryStat}
    (hf : f.readMemoryV1 memory = false) : f.get (memoryStatsV1 h memory m) = f.get m := by
  unfold memoryStatsV1
  split
  · rfl
  · split <;> split <;> cases f <;> first | rfl | simp_all [readMemoryV1]

theorem get_blkioStatsV1 {bd : GoMap String} {blkio : Option BlkIOStat}
    (hf : f.readBlkioV1 blkio = false) : f.get (blkioStatsV1 bd blkio m) = f.get m := by
  cases blkio <;> cases f <;> first | rfl | simp [readBlkioV1] at hf

theorem get_cpuStatsV2 {cpu : Option V2CPUStat} (hf : f.readCPUV2 cpu = false) :
    f.get (cpuStatsV2 cpu m) = f.get m := by
  unfold cpuStatsV2
  split
  · rfl
  · split <;> cases f <;> first | rfl | simp_all [readCPUV2]

theorem get_memoryStatsV2 {h : GoMap ℚ} {memory : Option V2MemoryStat}
    (hf : f.readMemoryV2 memory = false) : f.get (memoryStatsV2 h memory m) = f.get m := by
  unfold memoryStatsV2
  split
  · rfl
  · split <;> cases f <;> first | rfl | simp_all [readMemoryV2]

theorem get_memoryEventsV2 {events : Option MemoryEvents} (hf : f.readMemoryEvents events = false) :
    f.get (memoryEventsV2 events m) = f.get m := by
  cases events <;> cases f <;> first | rfl | simp [readMemoryEvents] at hf

theorem get_ioStatsV2 {bd : GoMap String} {io : Option IOStat} (hf : f.readIOV2 io = false) :
    f.get (ioStatsV2 bd io m) = f.get m := by
  unfold ioStatsV2
  split
  · rfl
  · split <;> cases f <;> first | rfl | simp_all [readIOV2]

end Steps

/-! ### Whole passes -/

section Passes

variable {c : CgroupCollector} {host : StatsHost} {fuel : Nat} (m : CgMetric)
  {cpus : Except GoError (List String)}

/-- **The frame of a v1 pass.** Once the statistics load and `getCPUs`
answers, every field whose source was not read keeps its value. -/
theorem statsV1_frame {stats : V1Metrics} (hstat : host.statV1 m.path = .ok (some stats))
    (hcpus : getCPUs c host fuel m.path = some cpus) :
    ∃ m', statsV1 c host fuel m = some m' ∧
      ∀ f : MetricField, f.readV1 stats cpus = false → f.get m' = f.get m := by
  refine ⟨_, by simp only [statsV1, hstat, hcpus, Option.map_some']; rfl, fun f hf => ?_⟩
  simp only [readV1, Bool.or_eq_false_iff] at hf
  rw [get_rdmaStats _ hf.2, get_blkioStatsV1 _ hf.1.2, get_memoryStatsV1 _ hf.1.1.2,
    get_setCPUs _ hf.1.1.1.2, get_cpuStatsV1 _ hf.1.1.1.1]

/-- **The frame of a v2 pass.** -/
theorem statsV2_frame {stats : V2Metrics} (hstat : host.statV2 m.path = .ok (some stats))
    (hcpus : getCPUs c host fuel m.path = some cpus) :
    ∃ m', statsV2 c host fuel m = some m' ∧
      ∀ f : MetricField, f.readV2 stats cpus = false → f.get m' = f.get m := by
  refine ⟨_, by simp only [statsV2, hstat, hcpus, Option.map_some']; rfl, fun f hf => ?_⟩
  simp only [readV2, Bool.or_eq_false_iff] at hf
  rw [get_rdmaStats _ hf.2, get_ioStatsV2 _ hf.1.2, get_memoryEventsV2 _ hf.1.1.2,
    get_memoryStatsV2 _ hf.1.1.1.2, get_setCPUs _ hf.1.1.1.1.2, get_cpuStatsV2 _ hf.1.1.1.1.1]

end Passes

/-! ### A fresh record -/

/-- **What a pass leaves in a fresh record.** Under both versions, from a
fresh `cgMetric` of the cgroup at `path`: when loading the statistics fails or
gives none, the pass answers the record with only the error flag set; once
they load and `getCPUs` answers, whatever sections are missing and whatever
`getCPUs` answered, the flag stays `false` and every field whose source was
missing or unreadable keeps its zero value. -/
theorem stats_partial_sources (c : CgroupCollector) (host : StatsHost) (fuel : Nat)
    (path uuid : String) :
    ((host.statV1 path = .ok none ∨ ∃ e, host.statV1 path = .error e) →
      statsV1 c host fuel { path, uuid } = some { path, uuid, err := true }) ∧
    (∀ stats cpus, host.statV1 path = .ok (some stats) → getCPUs c host fuel path = some cpus →
      ∃ m', statsV1 c host fuel { path, uuid } = some m' ∧ m'.err = false ∧
        ∀ f : MetricField, f.readV1 stats cpus = false → f.get m' = f.zero) ∧
    ((host.statV2 path = .ok none ∨ ∃ e, host.statV2 path = .error e) →
      statsV2 c host fuel { path, uuid } = some { path, uuid, err := true }) ∧
    ∀ stats cpus, host.statV2 path = .ok (some stats) → getCPUs c host fuel path = some cpus →
      ∃ m', statsV2 c host fuel { path, uuid } = some m' ∧ m'.err = false ∧
        ∀ f : MetricField, f.readV2 stats cpus = false → f.get m' = f.zero := by
  refine ⟨?_, fun stats cpus hstat hcpus => ?_, ?_, fun stats cpus hstat hcpus => ?_⟩
  · rintro (h | ⟨e, h⟩) <;> simp [statsV1, h]
  · -- the error flag has no source, so it keeps its `false`
    obtain ⟨m', hm', hframe⟩ := statsV1_frame { path, uuid } hstat hcpus
    exact ⟨m', hm', FieldValue.flag.inj (hframe .err rfl),
      fun f hf => (hframe f hf).trans (get_fresh path uuid f)⟩
  · rintro (h | ⟨e, h⟩) <;> simp [statsV2, h]
  · obtain ⟨m', hm', hframe⟩ := statsV2_frame { path, uuid } hstat hcpus
    exact ⟨m', hm', FieldValue.flag.inj (hframe .err rfl),
      fun f hf => (hframe f hf).trans (get_fresh path uuid f)⟩

/-- A node whose statistics load without a single section, and which has no
cpuset file. -/
def bareHost : StatsHost where
  readFile _ := none
  proc _ := none
  intSize := 64
  intSize_eq := .inr rfl
  statV1 _ := .ok (some {})
  statV2 _ := .ok (some {})
  fileExists _ := false

/-- On `bareHost` no section loads and there is no cpuset file; on `diskHost`
the block-IO and RDMA sections load and the cpuset file parses, while the CPU,
memory and memory-events sections are missing. -/
theorem stats_partial_sources_bare_and_disks :
    (∃ m', statsV2 twoDiskNode bareHost 1 { path := "/job_1", uuid := "1" } = some m' ∧
      m'.err = false ∧
      ∀ f : MetricField, f.readV2 {}
          (.error (.errorString ("cpuset file " ++ cpusPath twoDiskNode "/job_1" ++ " not found"))) =
            false → f.get m' = f.zero) ∧
    (∃ m', statsV2 twoDiskNode diskHost 10 { path := "/job_1", uuid := "1" } = some m' ∧
      m'.err = false ∧
      ∀ f : MetricField,
        f.readV2 diskStatsV2 (.ok ((({0, 1, 2, 3, 8} : Finset Nat).sort (· ≤ ·)).map Nat.repr)) = false →
          f.get m' = f.zero) :=
  ⟨(stats_partial_sources twoDiskNode bareHost 1 "/job_1" "1").2.2.2 {} _ rfl rfl,
    (stats_partial_sources twoDiskNode diskHost 10 "/job_1" "1").2.2.2 _ _ rfl
      (getCPUs_listFormat twoDiskNode diskHost 10 "/job_1" {0, 1, 2, 3, 8} ⟨0, by decide⟩
        (by decide) (by decide) rfl (by simp [diskHost]))⟩

/-- No source is read, yet both passes leave the error flag `false`. -/
theorem stats_err_without_sources :
    (statsV1 twoDiskNode bareHost 1 { path := "/job_1" }).map CgMetric.err = some false ∧
    (statsV2 twoDiskNode bareHost 1 { path := "/job_1" }).map CgMetric.err = some false := by
  decide

/-! ### The error samples of a scrape -/

/-- Whether the statistics of the cgroup at `path` load: `Load` and `Stat`
succeed and give statistics, under the cgroups version of the manager. -/
def statsLoad (c : CgroupCollector) (host : StatsHost) (path : String) : Bool :=
  if c.cgroupManager.mode = .unified then
    match host.statV2 path with
    | .ok (some _) => true
    | _ => false
  else
    match host.statV1 path with
    | .ok (some _) => true
    | _ => false

section Scrape

variable (Namespace : String) {c : CgroupCollector} {host : StatsHost} {fuel : Nat}

/-- A pass sets the error flag exactly when the statistics do not load, and
otherwise leaves it. -/
theorem update_err {m m' : CgMetric} (h : update c host fuel m = some m') :
    m'.err = (m.err || !statsLoad c host m.path) := by
  unfold update at h
  unfold statsLoad
  split at h <;> rename_i hmode <;> simp only [hmode, if_true, if_false]
  · unfold statsV2 at h
    split at h
    · rename_i hstat; cases h; simp [hstat]
    · rename_i hstat; cases h; simp [hstat]
    · rename_i stats hstat
      obtain ⟨cpus, hcpus, -⟩ := Option.map_eq_some'.mp h
      obtain ⟨m'', hm'', hframe⟩ := statsV2_frame m hstat hcpus
      simp only [statsV2, hstat] at hm''
      obtain rfl := Option.some.inj (h.symm.trans hm'')
      simpa [hstat] using FieldValue.flag.inj (hframe .err rfl)
  · unfold statsV1 at h
    split at h
    · rename_i hstat; cases h; simp [hstat]
    · rename_i hstat; cases h; simp [hstat]
    · rename_i stats hstat
      obtain ⟨cpus, hcpus, -⟩ := Option.map_eq_some'.mp h
      obtain ⟨m'', hm'', hframe⟩ := statsV1_frame m hstat hcpus
      simp only [statsV1, hstat] at hm''
      obtain rfl := Option.some.inj (h.symm.trans hm'')
      simpa [hstat] using FieldValue.flag.inj (hframe .err rfl)

/-- Once the statistics load, a pass stores the number of CPUs `getCPUs`
returns. -/
theorem update_cpus {m : CgMetric} {cpus : List String} (hload : statsLoad c host m.path = true)
    (hget : getCPUs c host fuel m.path = some (.ok cpus)) :
    ∃ m', update c host fuel m = some m' ∧ m'.cpus = cpus.length ∧ m'.uuid = m.uuid := by
  have h : (update c host fuel m).map CgMetric.cpus = some cpus.length := by
    unfold statsLoad at hload
    unfold update
    split at hload <;> rename_i hmode <;> simp only [hmode, if_true, if_false]
    · split at hload
      · exact statsV2_cpus ‹_› hget
      · cases hload
    · split at hload
      · exact statsV1_cpus ‹_› hget
      · cases hload
  obtain ⟨m', hm', hc⟩ := Option.map_eq_some'.mp h
  exact ⟨m', hm', hc, update_uuid hm'⟩

/-- `doUpdate` keeps the uuids and sets the error flags of the records whose
statistics do not load. -/
theorem doUpdate_err_uuid {metrics ms : List CgMetric} (h : doUpdate c host fuel metrics = some ms) :
    ms.map (fun m => (m.err, m.uuid)) =
      metrics.map fun m => (m.err || !statsLoad c host m.path, m.uuid) :=
  map_of_mapM_eq_some (fun _ _ hm => by rw [update_err hm, update_uuid hm]) h

variable (c)

/-- The `collect_error` sample of a unit. -/
theorem filter_unitMetrics_collectError (m : CgMetric) :
    (unitMetrics Namespace c m).filter (·.desc = collectError Namespace) =
      if m.err then [(⟨collectError Namespace, .gaugeValue, 1, unitLabels c m⟩ : Metric)] else [] := by
  simp only [unitMetrics, List.filter_append, filter_ite_nil, filter_positiveMetrics, filter_blkioMetrics]
  simp [cgBlkioReadBytes, cgBlkioWriteBytes, cgBlkioReadReqs, cgBlkioWriteReqs, cgRDMAHCAObjects,
    cgRDMAHCAHandles, cgCPUUser, cgCPUSystem, cgCPUs, cgMemoryRSS, cgMemoryCache, cgMemoryUsed,
    cgMemoryTotal, cgMemoryFailCount, cgMemswUsed, cgMemswTotal, cgMemswFailCount, cgCPUPressure,
    cgMemoryPressure, collectError, computeDesc]

/-- The `unit_cpus` sample of a unit. -/
theorem filter_unitMetrics_cpus (m : CgMetric) :
    (unitMetrics Namespace c m).filter (·.desc = cgCPUs Namespace) =
      [(⟨cgCPUs Namespace, .gaugeValue, m.cpus, unitLabels c m⟩ : Metric)] := by
  simp only [unitMetrics, List.filter_append, filter_ite_nil, filter_positiveMetrics, filter_blkioMetrics]
  simp [cgBlkioReadBytes, cgBlkioWriteBytes, cgBlkioReadReqs, cgBlkioWriteReqs, cgRDMAHCAObjects,
    cgRDMAHCAHandles, cgCPUUser, cgCPUSystem, cgCPUs, cgMemoryRSS, cgMemoryCache, cgMemoryUsed,
    cgMemoryTotal, cgMemoryFailCount, cgMemswUsed, cgMemswTotal, cgMemswFailCount, cgCPUPressure,
    cgMemoryPressure, collectError, computeDesc]

/-- Records with the same flags and uuids, in order, give the same error
samples. -/
theorem flatMap_errSamples {g : CgMetric → Bool} :
    ∀ {metrics ms : List CgMetric}, ms.map (fun m => (m.err, m.uuid)) = metrics.map (fun m => (g m, m.uuid)) →
      ms.flatMap (fun m =>
          if m.err then [(⟨collectError Namespace, .gaugeValue, 1, unitLabels c m⟩ : Metric)] else []) =
        (metrics.filter g).map fun m => ⟨collectError Namespace, .gaugeValue, 1, unitLabels c m⟩
  | [], [], _ => rfl
  | [], _ :: _, h => by simp at h
  | _ :: _, [], h => by simp at h
  | m :: metrics, m' :: ms, h => by
    simp only [List.map_cons, List.cons.injEq, Prod.mk.injEq] at h
    obtain ⟨⟨herr, huuid⟩, hrest⟩ := h
    rw [List.flatMap_cons, List.filter_cons, flatMap_errSamples hrest, herr]
    cases g m <;> simp [unitLabels, huuid]

variable (host fuel) (metrics : List CgMetric)

/-- **The error samples of a scrape.** From records with the error flag
clear, as the collector builds them, a scrape that completes sends
`collect_error` for exactly the units whose statistics did not load, one
sample each, with the value `1`; a missing section of the statistics or a
missing cpuset file raises none. -/
theorem Update_collectError (hfresh : ∀ m ∈ metrics, m.err = false) :
    (Update Namespace c host fuel metrics).map (·.filter (·.desc = collectError Namespace)) =
      (doUpdate c host fuel metrics).map fun _ =>
        (metrics.filter fun m => !statsLoad c host m.path).map fun m =>
          ⟨collectError Namespace, .gaugeValue, 1, unitLabels c m⟩ := by
  refine (sendsPerUnit_of Namespace c host fuel metrics (numCgs_ne _ _ _ _ (by decide))
    (filter_unitMetrics_collectError Namespace c)).trans ?_
  cases hd : doUpdate c host fuel metrics with
  | none => rfl
  | some ms =>
    refine congrArg some (flatMap_errSamples Namespace c ((doUpdate_err_uuid hd).trans ?_))
    exact List.map_congr_left fun m hm => by rw [hfresh m hm, Bool.false_or]

/-- **The CPUs of a scrape.** When every unit's statistics load and its
cpuset file holds the kernel's list format of a non-empty set of CPUs below
`math.MaxInt`, the scrape completes, given fuel beyond the CPUs, and sends for
each unit, in order, one `unit_cpus` sample: the number of CPUs in its set. -/
theorem Update_unitCPUs (S : CgMetric → Finset Nat)
    (hload : ∀ m ∈ metrics, statsLoad c host m.path = true)
    (hcpuset : ∀ m ∈ metrics, host.fileExists (cpusPath c m.path) = true ∧
      host.readFile (cpusPath c m.path) = some (listFormat (S m)) ∧ (S m).Nonempty ∧
      ∀ n ∈ S m, (n : Int) < maxInt host.intSize ∧ n + 2 ≤ fuel) :
    (Update Namespace c host fuel metrics).map (·.filter (·.desc = cgCPUs Namespace)) =
      some (metrics.map fun m => ⟨cgCPUs Namespace, .gaugeValue, (S m).card, unitLabels c m⟩) := by
  refine (sendsPerUnit_of Namespace c host fuel metrics (numCgs_ne _ _ _ _ (by decide))
    (filter_unitMetrics_cpus Namespace c)).trans ?_
  obtain ⟨ms, hms, hmap⟩ := @mapM_eq_some_of_forall _ _ _ (update c host fuel)
    (fun m => (m.cpus, m.uuid)) (fun m => (((S m).card : Int), m.uuid)) metrics fun m hm => by
      obtain ⟨hex, hread, hne, hbound⟩ := hcpuset m hm
      obtain ⟨m', hu, hc, hid⟩ := update_cpus (hload m hm) (getCPUs_listFormat c host fuel m.path
        (S m) hne (fun n hn => (hbound n hn).1) (fun n hn => (hbound n hn).2) hex hread)
      exact ⟨m', hu, by simp only [hc, hid, List.length_map, Finset.length_sort]⟩
  -- a sample depends on its record through the CPUs and the uuid alone
  have hsample (l : List CgMetric) :
      l.flatMap (fun m => [(⟨cgCPUs Namespace, .gaugeValue, m.cpus, unitLabels c m⟩ : Metric)]) =
        (l.map fun m => (m.cpus, m.uuid)).map fun p =>
          ⟨cgCPUs Namespace, .gaugeValue, p.1, [c.cgroupManager.manager, c.hostname, p.2]⟩ := by
    rw [List.map_map, List.map_eq_flatMap]; rfl
  rw [show doUpdate c host fuel metrics = some ms from hms, Option.map_some', hsample, hmap]
  simp [unitLabels]

end Scrape

/-- Job 1 on `twoDiskNode`, whose cpuset is `0-3,8`: the scrape sends
`unit_cpus` with the five CPUs. -/
theorem Update_unitCPUs_job :
    (Update "ceems" twoDiskNode diskHost 10 [{ path := "/job_1", uuid := "1" }]).map
        (·.filter (·.desc = cgCPUs "ceems")) =
      some (([{ path := "/job_1", uuid := "1" }] : List CgMetric).map fun m =>
        ⟨cgCPUs "ceems", .gaugeValue, (({0, 1, 2, 3, 8} : Finset Nat).card : ℚ),
          unitLabels twoDiskNode m⟩) :=
  Update_unitCPUs "ceems" twoDiskNode diskHost 10 _ (fun _ => {0, 1, 2, 3, 8}) (by decide)
    (by simp [diskHost]; decide)

/-- `bareHost` where the cgroup of job 1 is gone. -/
def goneJobHost : StatsHost :=
  { bareHost with
    statV2 := fun p => if p = "/job_1" then .error (.pathError "open" "/job_1") else .ok (some {}) }

/-- Of two jobs on `twoDiskNode`, only job 1, whose cgroup is gone, raises
`collect_error`. -/
theorem Update_collectError_goneJob :
    (Update "ceems" twoDiskNode goneJobHost 1
        [{ path := "/job_1", uuid := "1" }, { path := "/job_2", uuid := "2" }]).map
        (·.filter (·.desc = collectError "ceems")) =
      (doUpdate twoDiskNode goneJobHost 1
          [{ path := "/job_1", uuid := "1" }, { path := "/job_2", uuid := "2" }]).map fun _ =>
        (([{ path := "/job_1", uuid := "1" }, { path := "/job_2", uuid := "2" }] : List CgMetric).filter
          fun m => !statsLoad twoDiskNode goneJobHost m.path).map fun m =>
            ⟨collectError "ceems", .gaugeValue, 1, unitLabels twoDiskNode m⟩ :=
  Update_collectError "ceems" twoDiskNode goneJobHost 1 _ (by decide)

end Collector
end Ceems
