import Mathlib.Data.Rat.Defs
import Mathlib.Data.List.Perm.Basic
import Ceems.Collector.CPUSet
import Ceems.Collector.Manager

/-!
# The statistics of one cgroup

`cgroupCollector.update` fills the `cgMetric` record of one cgroup: by
`statsV2` under cgroups v2 and by `statsV1` otherwise. Both read the
statistics the `containerd/cgroups` library loads for the cgroup's path
(`V1Metrics`, `V2Metrics`), count the CPUs `getCPUs` finds, replace a memory
limit of `math.MaxUint64` ("max") by the host's memory, and store the block-IO
counters per device name, the name being what `blockDevices` (built from
`/proc/diskstats` at start-up) gives the device's `major:minor`.

Go's `float64` values are modelled by exact rationals: the conversions of the
library's `uint64` counters and the divisions into seconds are taken without
rounding. A `nil` map of the record reads like an empty one, and is modelled
as one.

* `getCPUs` — the cgroup's cpuset file, parsed by `parseCPUSet`;
* `statsV1`, `statsV2`, `update`, `doUpdate` — the collector's pass over the
  records; `update` answers `none` only when the expansion loop of
  `parseCPUSet` runs out of fuel;
* `cpus_listFormat` — with the cpuset file in the kernel's list format of a
  set `S`, `getCPUs` returns `S` in ascending order and both `statsV1` and
  `statsV2` store `cpus = |S|`;
* `storeAll_lossless` — a loop storing entries under pairwise distinct keys
  loses nothing; `blkio_lossless` applies it to the four block-IO maps of
  `statsV1` and `statsV2`, whose keys are distinct when `blockDevices` names
  the input's devices distinctly;
* `devName_nodup_of_diskstats` — the table `NewCgroupCollector` builds from
  `/proc/diskstats` (`newBlockDevices`) names distinct devices listed there
  distinctly, since `"%d:%d"` tells device numbers apart.
-/

namespace Ceems
namespace Collector

/-! ### What the cgroups library reads -/

/-- `v1.CPUUsage`, in nanoseconds. -/
structure CPUUsage where
  total : Nat := 0
  kernel : Nat := 0
  user : Nat := 0
  deriving DecidableEq, Repr

/-- `v1.CPUStat`. -/
structure V1CPUStat where
  usage : Option CPUUsage := none
  deriving DecidableEq, Repr

/-- `v1.MemoryEntry`. -/
structure MemoryEntry where
  limit : Nat := 0
  usage : Nat := 0
  failcnt : Nat := 0
  deriving DecidableEq, Repr

/-- `v1.MemoryStat`. -/
structure V1MemoryStat where
  totalRSS : Nat := 0
  totalCache : Nat := 0
  usage : Option MemoryEntry := none
  swap : Option MemoryEntry := none
  deriving DecidableEq, Repr

/-- `v1.BlkIOEntry`: one counter of one operation on one device. -/
structure BlkIOEntry where
  op : String
  major : Nat
  minor : Nat
  value : Nat
  deriving DecidableEq, Repr

/-- `v1.BlkIOStat`. -/
structure BlkIOStat where
  ioServiceBytesRecursive : List BlkIOEntry := []
  ioServicedRecursive : List BlkIOEntry := []
  deriving DecidableEq, Repr

/-- `RdmaEntry`: the RDMA resources in use on one HCA device. -/
structure RdmaEntry where
  device : String
  hcaHandles : Nat
  hcaObjects : Nat
  deriving DecidableEq, Repr

/-- `RdmaStat`. -/
structure RdmaStat where
  current : List RdmaEntry := []
  deriving DecidableEq, Repr

/-- `v1.Metrics`. -/
structure V1Metrics where
  cpu : Option V1CPUStat := none
  memory : Option V1MemoryStat := none
  blkio : Option BlkIOStat := none
  rdma : Option RdmaStat := none
  deriving DecidableEq, Repr

/-- `v2.PSIData`, in microseconds. -/
structure PSIData where
  total : Nat := 0
  deriving DecidableEq, Repr

/-- `v2.PSIStats`. -/
structure PSIStats where
  full : Option PSIData := none
  deriving DecidableEq, Repr

/-- `GetFull().GetTotal()`, which reads a missing `Full` as zero. -/
def PSIStats.fullTotal (p : PSIStats) : Nat :=
  (p.full.map PSIData.total).getD 0

/-- `v2.CPUStat`, in microseconds. -/
structure V2CPUStat where
  usageUsec : Nat := 0
  userUsec : Nat := 0
  systemUsec : Nat := 0
  psi : Option PSIStats := none
  deriving DecidableEq, Repr

/-- `v2.MemoryStat`. -/
structure V2MemoryStat where
  anon : Nat := 0
  file : Nat := 0
  usage : Nat := 0
  usageLimit : Nat := 0
  swapUsage : Nat := 0
  swapLimit : Nat := 0
  psi : Option PSIStats := none
  deriving DecidableEq, Repr

/-- `v2.MemoryEvents`. -/
structure MemoryEvents where
  oom : Nat := 0
  deriving DecidableEq, Repr

/-- `v2.IOEntry`: the counters of one device. -/
structure IOEntry where
  major : Nat
  minor : Nat
  rbytes : Nat
  wbytes : Nat
  rios : Nat
  wios : Nat
  deriving DecidableEq, Repr

/-- `v2.IOStat`. -/
structure IOStat where
  usage : List IOEntry := []
  psi : Option PSIStats := none
  deriving DecidableEq, Repr

/-- `v2.Metrics`. -/
structure V2Metrics where
  cpu : Option V2CPUStat := none
  memory : Option V2MemoryStat := none
  memoryEvents : Option MemoryEvents := none
  io : Option IOStat := none
  rdma : Option RdmaStat := none
  deriving DecidableEq, Repr

/-! ### The collector -/

/-- `cgMetric`: the statistics of one cgroup; a field the collector has not
set holds Go's zero value. -/
structure CgMetric where
  path : String := ""
  cpuUser : ℚ := 0
  cpuSystem : ℚ := 0
  cpuTotal : ℚ := 0
  cpus : Int := 0
  cpuPressure : ℚ := 0
  memoryRSS : ℚ := 0
  memoryCache : ℚ := 0
  memoryUsed : ℚ := 0
  memoryTotal : ℚ := 0
  memoryFailCount : ℚ := 0
  memswUsed : ℚ := 0
  memswTotal : ℚ := 0
  memswFailCount : ℚ := 0
  memoryPressure : ℚ := 0
  blkioReadBytes : GoMap ℚ := ∅
  blkioWriteBytes : GoMap ℚ := ∅
  blkioReadReqs : GoMap ℚ := ∅
  blkioWriteReqs : GoMap ℚ := ∅
  blkioPressure : ℚ := 0
  rdmaHCAHandles : GoMap ℚ := ∅
  rdmaHCAObjects : GoMap ℚ := ∅
  uuid : String := ""
  err : Bool := false

/-- `cgroupOpts`. -/
structure CgroupOpts where
  collectSwapMemStats : Bool
  collectBlockIOStats : Bool
  collectPSIStats : Bool
  deriving DecidableEq, Repr

/-- The parts of `cgroupCollector` its statistics and its `Update` read. -/
structure CgroupCollector where
  cgroupManager : CgroupManager
  opts : CgroupOpts
  hostname : String
  /-- `/proc/meminfo` in bytes, read at start-up. -/
  hostMemInfo : GoMap ℚ
  /-- From `major:minor` to the device's name, read at start-up. -/
  blockDevices : GoMap String
  /-- The flag `--path.cgroupfs`. -/
  cgroupfsPath : String

/-- What the collector reads of the host besides discovery's `Host`. -/
structure StatsHost extends Host where
  /-- `cgroup1.Load(cgroup1.StaticPath(path), …)` then
  `Stat(cgroup1.IgnoreNotExist)`: a failure of either, or the statistics,
  which may be `nil`. -/
  statV1 : String → Except GoError (Option V1Metrics)
  /-- `cgroup2.Load(path, …)` then `Stat()`. -/
  statV2 : String → Except GoError (Option V2Metrics)
  /-- `fileExists`. -/
  fileExists : String → Bool

/-- `math.MaxUint64`, the limit the library reports for "max". -/
def maxUint64 : Nat := 2 ^ 64 - 1

/-- `readOp`. -/
def readOp : String := "Read"

/-- `writeOp`. -/
def writeOp : String := "Write"

/-! ### CPUs -/

/-- The cpuset file of the cgroup at `path`: `cpuset.cpus.effective` under
cgroups v2, the `cpuset` hierarchy's `cpuset.cpus` otherwise. -/
def cpusPath (c : CgroupCollector) (path : String) : String :=
  if c.cgroupManager.mode = .unified then c.cgroupfsPath ++ path ++ "/cpuset.cpus.effective"
  else c.cgroupfsPath ++ "/cpuset" ++ path ++ "/cpuset.cpus"

/-- `cgroupCollector.getCPUs`. -/
def getCPUs (c : CgroupCollector) (host : StatsHost) (fuel : Nat) (path : String) :
    Option (Except GoError (List String)) :=
  let cpusPath := cpusPath c path
  if !host.fileExists cpusPath then
    some (.error (.errorString ("cpuset file " ++ cpusPath ++ " not found")))
  else
    match host.readFile cpusPath with
    | none => some (.error (.pathError "open" cpusPath))
    | some cpusData => parseCPUSet host.intSize fuel (trimSuffix cpusData "\n")

/-- `if cpus, err := c.getCPUs(path); err == nil { metric.cpus = len(cpus) }`. -/
def setCPUs (cpus : Except GoError (List String)) (metric : CgMetric) : CgMetric :=
  match cpus with
  | .ok cpus => { metric with cpus := cpus.length }
  | .error _ => metric

/-! ### Memory -/

/-- The memory limit stored: the host's memory for a limit of "max", when
`/proc/meminfo` gave it. -/
def memoryTotalOf (hostMemInfo : GoMap ℚ) (limit : Nat) : ℚ :=
  if limit = maxUint64 ∧ 0 < hostMemInfo.getD "MemTotal_bytes" 0 then
    hostMemInfo.getD "MemTotal_bytes" 0
  else limit

/-- The swap limit stored: for "max", the host's swap, or else its memory,
when `/proc/meminfo` gave them. -/
def memswTotalOf (hostMemInfo : GoMap ℚ) (limit : Nat) : ℚ :=
  if limit = maxUint64 then
    if 0 < hostMemInfo.getD "SwapTotal_bytes" 0 then hostMemInfo.getD "SwapTotal_bytes" 0
    else if 0 < hostMemInfo.getD "MemTotal_bytes" 0 then hostMemInfo.getD "MemTotal_bytes" 0
    else limit
  else limit

/-! ### Per-device maps -/

/-- `c.blockDevices[fmt.Sprintf("%d:%d", major, minor)]`: the device's name,
or `""` for a device absent from the map. -/
def devName (blockDevices : GoMap String) (major minor : Nat) : String :=
  blockDevices.getD (toString major ++ ":" ++ toString minor) ""

/-- `m[key(e)] = val(e)` for the entries `es`, in order. -/
def storeAll {α : Type} (key : α → String) (val : α → ℚ) (m : GoMap ℚ) (es : List α) :
    GoMap ℚ :=
  es.foldl (fun m e => m.insert (key e) (val e)) m

/-- One entry of `io_service_bytes_recursive` or `io_serviced_recursive`:
stored in the read map or the write map by its operation, dropped for every
other operation. -/
def opStep (blockDevices : GoMap String) (maps : GoMap ℚ × GoMap ℚ) (stat : BlkIOEntry) :
    GoMap ℚ × GoMap ℚ :=
  let devName := devName blockDevices stat.major stat.minor
  if stat.op = readOp then (maps.1.insert devName stat.value, maps.2)
  else if stat.op = writeOp then (maps.1, maps.2.insert devName stat.value)
  else maps

/-- The four block-IO maps. -/
structure BlkioMaps where
  readBytes : GoMap ℚ
  writeBytes : GoMap ℚ
  readReqs : GoMap ℚ
  writeReqs : GoMap ℚ

/-- One entry of v2's `io.stat`: its four counters stored under its device's
name. -/
def ioStep (blockDevices : GoMap String) (maps : BlkioMaps) (stat : IOEntry) : BlkioMaps :=
  let devName := devName blockDevices stat.major stat.minor
  { readBytes := maps.readBytes.insert devName stat.rbytes
    readReqs := maps.readReqs.insert devName stat.rios
    writeBytes := maps.writeBytes.insert devName stat.wbytes
    writeReqs := maps.writeReqs.insert devName stat.wios }

/-- The RDMA maps, filled from `Rdma.Current` under both versions. -/
def rdmaStats (rdma : Option RdmaStat) (metric : CgMetric) : CgMetric :=
  match rdma with
  | none => metric
  | some rdma =>
    let maps := rdma.current.foldl (fun (maps : GoMap ℚ × GoMap ℚ) device =>
      (maps.1.insert device.device device.hcaHandles,
       maps.2.insert device.device device.hcaObjects)) (∅, ∅)
    { metric with rdmaHCAHandles := maps.1, rdmaHCAObjects := maps.2 }

/-! ### `statsV1` -/

/-- The CPU times of v1, in seconds. -/
def cpuStatsV1 (cpu : Option V1CPUStat) (metric : CgMetric) : CgMetric :=
  match cpu.bind V1CPUStat.usage with
  | none => metric
  | some usage =>
    { metric with cpuUser := (usage.user : ℚ) / 1000000000
                  cpuSystem := (usage.kernel : ℚ) / 1000000000
                  cpuTotal := (usage.total : ℚ) / 1000000000 }

/-- The memory and swap statistics of v1. -/
def memoryStatsV1 (hostMemInfo : GoMap ℚ) (memory : Option V1MemoryStat) (metric : CgMetric) :
    CgMetric :=
  match memory with
  | none => metric
  | some memory =>
    let metric := { metric with memoryRSS := memory.totalRSS, memoryCache := memory.totalCache }
    let metric := match memory.usage with
      | none => metric
      | some usage =>
        { metric with memoryUsed := usage.usage
                      memoryTotal := memoryTotalOf hostMemInfo usage.limit
                      memoryFailCount := usage.failcnt }
    match memory.swap with
    | none => metric
    | some swap =>
      { metric with memswUsed := swap.usage
                    memswTotal := memswTotalOf hostMemInfo swap.limit
                    memswFailCount := swap.failcnt }

/-- The block-IO maps of v1. -/
def blkioStatsV1 (blockDevices : GoMap String) (blkio : Option BlkIOStat) (metric : CgMetric) :
    CgMetric :=
  match blkio with
  | none => metric
  | some blkio =>
    let bytes := blkio.ioServiceBytesRecursive.foldl (opStep blockDevices) (∅, ∅)
    let reqs := blkio.ioServicedRecursive.foldl (opStep blockDevices) (∅, ∅)
    { metric with blkioReadBytes := bytes.1, blkioWriteBytes := bytes.2
                  blkioReadReqs := reqs.1, blkioWriteReqs := reqs.2 }

/-- `cgroupCollector.statsV1`, with `fuel` for `getCPUs`. -/
def statsV1 (c : CgroupCollector) (host : StatsHost) (fuel : Nat) (metric : CgMetric) :
    Option CgMetric :=
  match host.statV1 metric.path with
  | .error _ => some { metric with err := true }
  | .ok none => some { metric with err := true }
  | .ok (some stats) =>
    (getCPUs c host fuel metric.path).map fun cpus =>
      rdmaStats stats.rdma <| blkioStatsV1 c.blockDevices stats.blkio <|
        memoryStatsV1 c.hostMemInfo stats.memory <| setCPUs cpus <| cpuStatsV1 stats.cpu metric

/-! ### `statsV2` -/

/-- The CPU times and pressure of v2, in seconds. -/
def cpuStatsV2 (cpu : Option V2CPUStat) (metric : CgMetric) : CgMetric :=
  match cpu with
  | none => metric
  | some cpu =>
    let metric := { metric with cpuUser := (cpu.userUsec : ℚ) / 1000000
                                cpuSystem := (cpu.systemUsec : ℚ) / 1000000
                                cpuTotal := (cpu.usageUsec : ℚ) / 1000000 }
    match cpu.psi with
    | none => metric
    | some psi => { metric with cpuPressure := (psi.fullTotal : ℚ) / 1000000 }

/-- The memory statistics of v2, which exposes no swap fail count. -/
def memoryStatsV2 (hostMemInfo : GoMap ℚ) (memory : Option V2MemoryStat) (metric : CgMetric) :
    CgMetric :=
  match memory with
  | none => metric
  | some memory =>
    let metric := { metric with memoryUsed := memory.usage
                                memoryTotal := memoryTotalOf hostMemInfo memory.usageLimit
                                memoryCache := memory.file
                                memoryRSS := memory.anon
                                memswUsed := memory.swapUsage
                                memswTotal := memswTotalOf hostMemInfo memory.swapLimit }
    match memory.psi with
    | none => metric
    | some psi => { metric with memoryPressure := (psi.fullTotal : ℚ) / 1000000 }

/-- The OOM events of v2, as the memory fail count. -/
def memoryEventsV2 (events : Option MemoryEvents) (metric : CgMetric) : CgMetric :=
  match events with
  | none => metric
  | some events => { metric with memoryFailCount := events.oom }

/-- The block-IO maps and pressure of v2. -/
def ioStatsV2 (blockDevices : GoMap String) (io : Option IOStat) (metric : CgMetric) : CgMetric :=
  match io with
  | none => metric
  | some io =>
    let maps := io.usage.foldl (ioStep blockDevices) ⟨∅, ∅, ∅, ∅⟩
    let metric := { metric with blkioReadBytes := maps.readBytes, blkioReadReqs := maps.readReqs
                                blkioWriteBytes := maps.writeBytes, blkioWriteReqs := maps.writeReqs }
    match io.psi with
    | none => metric
    | some psi => { metric with blkioPressure := (psi.fullTotal : ℚ) / 1000000 }

/-- `cgroupCollector.statsV2`, with `fuel` for `getCPUs`. -/
def statsV2 (c : CgroupCollector) (host : StatsHost) (fuel : Nat) (metric : CgMetric) :
    Option CgMetric :=
  match host.statV2 metric.path with
  | .error _ => some { metric with err := true }
  | .ok none => some { metric with err := true }
  | .ok (some stats) =>
    (getCPUs c host fuel metric.path).map fun cpus =>
      rdmaStats stats.rdma <| ioStatsV2 c.blockDevices stats.io <|
        memoryEventsV2 stats.memoryEvents <| memoryStatsV2 c.hostMemInfo stats.memory <|
          setCPUs cpus <| cpuStatsV2 stats.cpu metric

/-- `cgroupCollector.update`. -/
def update (c : CgroupCollector) (host : StatsHost) (fuel : Nat) (m : CgMetric) :
    Option CgMetric :=
  if c.cgroupManager.mode = .unified then statsV2 c host fuel m else statsV1 c host fuel m

/-- `cgroupCollector.doUpdate`: `update` on every record. The Go code runs the
updates concurrently, each on its own element of the slice. -/
def doUpdate (c : CgroupCollector) (host : StatsHost) (fuel : Nat) (metrics : List CgMetric) :
    Option (List CgMetric) :=
  metrics.mapM (update c host fuel)

/-! ### What each step leaves alone -/

section Frame

variable (metric : CgMetric)

@[simp] theorem cpuStatsV1_cpus (cpu : Option V1CPUStat) :
    (cpuStatsV1 cpu metric).cpus = metric.cpus := by
  unfold cpuStatsV1; split <;> rfl

@[simp] theorem memoryStatsV1_cpus (h : GoMap ℚ) (memory : Option V1MemoryStat) :
    (memoryStatsV1 h memory metric).cpus = metric.cpus := by
  unfold memoryStatsV1; split
  · rfl
  · split <;> split <;> rfl

@[simp] theorem blkioStatsV1_cpus (bd : GoMap String) (blkio : Option BlkIOStat) :
    (blkioStatsV1 bd blkio metric).cpus = metric.cpus := by
  cases blkio <;> rfl

@[simp] theorem cpuStatsV2_cpus (cpu : Option V2CPUStat) :
    (cpuStatsV2 cpu metric).cpus = metric.cpus := by
  unfold cpuStatsV2; split
  · rfl
  · split <;> rfl

@[simp] theorem memoryStatsV2_cpus (h : GoMap ℚ) (memory : Option V2MemoryStat) :
    (memoryStatsV2 h memory metric).cpus = metric.cpus := by
  unfold memoryStatsV2; split
  · rfl
  · split <;> rfl

@[simp] theorem memoryEventsV2_cpus (events : Option MemoryEvents) :
    (memoryEventsV2 events metric).cpus = metric.cpus := by
  cases events <;> rfl

@[simp] theorem ioStatsV2_cpus (bd : GoMap String) (io : Option IOStat) :
    (ioStatsV2 bd io metric).cpus = metric.cpus := by
  unfold ioStatsV2; split
  · rfl
  · split <;> rfl

@[simp] theorem rdmaStats_cpus (rdma : Option RdmaStat) :
    (rdmaStats rdma metric).cpus = metric.cpus := by
  cases rdma <;> rfl

@[simp] theorem setCPUs_ok (cpus : List String) :
    (setCPUs (.ok cpus) metric).cpus = cpus.length := rfl

/-- The RDMA step, the last of both versions, keeps the block-IO maps. -/
theorem rdmaStats_blkio (rdma : Option RdmaStat) :
    (rdmaStats rdma metric).blkioReadBytes = metric.blkioReadBytes ∧
    (rdmaStats rdma metric).blkioWriteBytes = metric.blkioWriteBytes ∧
    (rdmaStats rdma metric).blkioReadReqs = metric.blkioReadReqs ∧
    (rdmaStats rdma metric).blkioWriteReqs = metric.blkioWriteReqs := by
  cases rdma <;> exact ⟨rfl, rfl, rfl, rfl⟩

/-! No step writes the uuid. -/

@[simp] theorem cpuStatsV1_uuid (cpu : Option V1CPUStat) :
    (cpuStatsV1 cpu metric).uuid = metric.uuid := by
  unfold cpuStatsV1; split <;> rfl

@[simp] theorem setCPUs_uuid (cpus : Except GoError (List String)) :
    (setCPUs cpus metric).uuid = metric.uuid := by
  cases cpus <;> rfl

@[simp] theorem memoryStatsV1_uuid (h : GoMap ℚ) (memory : Option V1MemoryStat) :
    (memoryStatsV1 h memory metric).uuid = metric.uuid := by
  unfold memoryStatsV1; split
  · rfl
  · split <;> split <;> rfl

@[simp] theorem blkioStatsV1_uuid (bd : GoMap String) (blkio : Option BlkIOStat) :
    (blkioStatsV1 bd blkio metric).uuid = metric.uuid := by
  cases blkio <;> rfl

@[simp] theorem cpuStatsV2_uuid (cpu : Option V2CPUStat) :
    (cpuStatsV2 cpu metric).uuid = metric.uuid := by
  unfold cpuStatsV2; split
  · rfl
  · split <;> rfl

@[simp] theorem memoryStatsV2_uuid (h : GoMap ℚ) (memory : Option V2MemoryStat) :
    (memoryStatsV2 h memory metric).uuid = metric.uuid := by
  unfold memoryStatsV2; split
  · rfl
  · split <;> rfl

@[simp] theorem memoryEventsV2_uuid (events : Option MemoryEvents) :
    (memoryEventsV2 events metric).uuid = metric.uuid := by
  cases events <;> rfl

@[simp] theorem ioStatsV2_uuid (bd : GoMap String) (io : Option IOStat) :
    (ioStatsV2 bd io metric).uuid = metric.uuid := by
  unfold ioStatsV2; split
  · rfl
  · split <;> rfl

@[simp] theorem rdmaStats_uuid (rdma : Option RdmaStat) :
    (rdmaStats rdma metric).uuid = metric.uuid := by
  cases rdma <;> rfl

end Frame

/-- **A statistics pass keeps the uuid** of the record it refreshes. -/
theorem update_uuid {c : CgroupCollector} {host : StatsHost} {fuel : Nat} {m m' : CgMetric}
    (h : update c host fuel m = some m') : m'.uuid = m.uuid := by
  unfold update statsV1 statsV2 at h
  split at h <;> split at h <;>
    first
    | (cases h; rfl)
    | (obtain ⟨cpus, -, rfl⟩ := Option.map_eq_some'.mp h; simp)

/-- What each step of an `Option`-valued `mapM` keeps, the whole run keeps,
element by element. -/
theorem map_of_mapM_eq_some {α β γ : Type} {f : α → Option β} {g : α → γ} {k : β → γ}
    (hf : ∀ a b, f a = some b → k b = g a) :
    ∀ {l : List α} {l' : List β}, l.mapM f = some l' → l'.map k = l.map g
  | [], _, h => by cases h; rfl
  | a :: l, _, h => by
    simp only [List.mapM_cons, Option.bind_eq_bind, Option.bind_eq_some, Option.pure_def,
      Option.some.injEq] at h
    obtain ⟨b, hb, l', hl', rfl⟩ := h
    rw [List.map_cons, List.map_cons, hf a b hb, map_of_mapM_eq_some hf hl']

/-- An `Option`-valued `mapM` whose every step succeeds, with `k` of its
result `g` of its argument, succeeds with `k` of its results `g` of the list. -/
theorem mapM_eq_some_of_forall {α β γ : Type} {f : α → Option β} {k : β → γ} {g : α → γ} :
    ∀ {l : List α}, (∀ a ∈ l, ∃ b, f a = some b ∧ k b = g a) →
      ∃ l', l.mapM f = some l' ∧ l'.map k = l.map g
  | [], _ => ⟨[], rfl, rfl⟩
  | a :: l, h => by
    obtain ⟨b, hb, hk⟩ := h a (List.mem_cons_self _ _)
    obtain ⟨l', hl', hmap⟩ := mapM_eq_some_of_forall fun a ha => h a (List.mem_cons_of_mem _ ha)
    exact ⟨b :: l', by rw [List.mapM_cons, hb, hl']; rfl, by simp [hk, hmap]⟩

/-- `doUpdate` keeps the uuids, record by record. -/
theorem doUpdate_uuid {c : CgroupCollector} {host : StatsHost} {fuel : Nat} {metrics ms : List CgMetric}
    (h : doUpdate c host fuel metrics = some ms) : ms.map CgMetric.uuid = metrics.map CgMetric.uuid :=
  map_of_mapM_eq_some (fun _ _ => update_uuid) h

/-! ### CPUs of a cpuset in the kernel's list format -/

/-- `getCPUs` on a cpuset file in the kernel's list format of `S`. -/
theorem getCPUs_listFormat (c : CgroupCollector) (host : StatsHost) (fuel : Nat) (path : String)
    (S : Finset Nat) (hS : S.Nonempty) (hmax : ∀ n ∈ S, (n : Int) < maxInt host.intSize)
    (hfuel : ∀ n ∈ S, n + 2 ≤ fuel) (hex : host.fileExists (cpusPath c path) = true)
    (hread : host.readFile (cpusPath c path) = some (listFormat S)) :
    getCPUs c host fuel path = some (.ok ((S.sort (· ≤ ·)).map Nat.repr)) := by
  obtain ⟨hcat, htok⟩ := listFormat_tokens S
  have hs : 0 < host.intSize := by rcases host.intSize_eq with h | h <;> omega
  simp only [getCPUs, hex, hread, Bool.not_true, listFormat, trimSuffix_append]
  rw [parseCPUSet_tokens hs _ (listTokens_ne_nil hS) (fun t ht => (htok t ht).1)
    (fun t ht => hmax _ (htok t ht).2.2) (fun t ht => by have := hfuel _ (htok t ht).2.2; omega),
    hcat]
  rfl

/-- Once the statistics load, `statsV1` stores the number of CPUs `getCPUs`
returns. -/
theorem statsV1_cpus {c : CgroupCollector} {host : StatsHost} {fuel : Nat} {m : CgMetric}
    {stats : V1Metrics} {cpus : List String} (hstat : host.statV1 m.path = .ok (some stats))
    (hcpus : getCPUs c host fuel m.path = some (.ok cpus)) :
    (statsV1 c host fuel m).map CgMetric.cpus = some cpus.length := by
  simp [statsV1, hstat, hcpus]

/-- Once the statistics load, `statsV2` stores the number of CPUs `getCPUs`
returns. -/
theorem statsV2_cpus {c : CgroupCollector} {host : StatsHost} {fuel : Nat} {m : CgMetric}
    {stats : V2Metrics} {cpus : List String} (hstat : host.statV2 m.path = .ok (some stats))
    (hcpus : getCPUs c host fuel m.path = some (.ok cpus)) :
    (statsV2 c host fuel m).map CgMetric.cpus = some cpus.length := by
  simp [statsV2, hstat, hcpus]

/-- **Counting CPUs.** On every non-empty comma-separated list of CPUs and
ranges `a-b` with `a ≤ b`, all below `math.MaxInt`, `parseCPUSet` returns the
CPUs of each token in order. So on a cpuset file holding the kernel's list
format of a non-empty set `S` of CPUs, `getCPUs` returns `S` in ascending
order, and `statsV1` and `statsV2` store `cpus = |S|` once the cgroup's
statistics load. The expansion loops run on fuel: enough of it is a bound on
the CPUs plus two. -/
theorem cpus_listFormat :
    (∀ (intSize fuel : Nat) (toks : List CPUToken), 0 < intSize → toks ≠ [] →
      (∀ t ∈ toks, t.lo ≤ t.hi) → (∀ t ∈ toks, (t.hi : Int) < maxInt intSize) →
      (∀ t ∈ toks, t.hi - t.lo + 2 ≤ fuel) →
      parseCPUSet intSize fuel (cpusetOf toks) = some (.ok (toks.flatMap CPUToken.cpus))) ∧
    ∀ (c : CgroupCollector) (host : StatsHost) (fuel : Nat) (m : CgMetric) (S : Finset Nat),
      S.Nonempty → (∀ n ∈ S, (n : Int) < maxInt host.intSize) → (∀ n ∈ S, n + 2 ≤ fuel) →
      host.fileExists (cpusPath c m.path) = true →
      host.readFile (cpusPath c m.path) = some (listFormat S) →
      getCPUs c host fuel m.path = some (.ok ((S.sort (· ≤ ·)).map Nat.repr)) ∧
      (∀ stats, host.statV1 m.path = .ok (some stats) →
        (statsV1 c host fuel m).map CgMetric.cpus = some S.card) ∧
      (∀ stats, host.statV2 m.path = .ok (some stats) →
        (statsV2 c host fuel m).map CgMetric.cpus = some S.card) := by
  refine ⟨fun _ _ toks hs hne hle hmax hfuel => parseCPUSet_tokens hs toks hne hle hmax hfuel,
    fun c host fuel m S hS hmax hfuel hex hread => ?_⟩
  have hget := getCPUs_listFormat c host fuel m.path S hS hmax hfuel hex hread
  have hcard : ((S.sort (· ≤ ·)).map Nat.repr).length = S.card := by
    rw [List.length_map, Finset.length_sort]
  exact ⟨hget, fun _ h => hcard ▸ statsV1_cpus h hget, fun _ h => hcard ▸ statsV2_cpus h hget⟩

/-- A Slurm node under cgroups v2 whose two disks, `sda` (`8:0`) and `sdb`
(`8:16`), were named at start-up. -/
def twoDiskNode : CgroupCollector where
  cgroupManager := slurmCgroupManager .unified "/sys/fs/cgroup" ""
  opts := ⟨true, true, true⟩
  hostname := "node1"
  hostMemInfo := ∅
  blockDevices := ((∅ : GoMap String).insert "8:0" "sda").insert "8:16" "sdb"
  cgroupfsPath := "/sys/fs/cgroup"

/-- The v2 statistics of job 1 on `twoDiskNode`: reads and writes on both
disks, and one RDMA device holding one HCA handle and two HCA objects. -/
def diskStatsV2 : V2Metrics where
  io := some { usage := [⟨8, 0, 4096, 8192, 1, 2⟩, ⟨8, 16, 512, 0, 1, 0⟩] }
  rdma := some { current := [⟨"mlx5_0", 1, 2⟩] }

/-- The v1 statistics of a job on `twoDiskNode`: reads and writes on `sda`,
only writes on `sdb`, a `Total` entry the collector drops, and the RDMA device
of `diskStatsV2`. -/
def diskStatsV1 : V1Metrics where
  blkio := some
    { ioServiceBytesRecursive :=
        [⟨"Read", 8, 0, 4096⟩, ⟨"Write", 8, 0, 8192⟩, ⟨"Total", 8, 0, 12288⟩, ⟨"Write", 8, 16, 1024⟩]
      ioServicedRecursive := [⟨"Read", 8, 0, 1⟩, ⟨"Write", 8, 0, 2⟩, ⟨"Write", 8, 16, 1⟩] }
  rdma := some { current := [⟨"mlx5_0", 1, 2⟩] }

/-- The host of `twoDiskNode`: job 1 runs on CPUs `0-3,8`. -/
def diskHost : StatsHost where
  readFile p := if p = cpusPath twoDiskNode "/job_1" then some (listFormat {0, 1, 2, 3, 8}) else none
  proc _ := none
  intSize := 64
  intSize_eq := .inr rfl
  statV1 _ := .ok (some diskStatsV1)
  statV2 _ := .ok (some diskStatsV2)
  fileExists _ := true

theorem cpus_listFormat_job :
    parseCPUSet 64 5 (cpusetOf [.range 0 3, .single 8]) =
      some (.ok ([.range 0 3, .single 8].flatMap CPUToken.cpus)) ∧
    getCPUs twoDiskNode diskHost 10 "/job_1" =
      some (.ok ((({0, 1, 2, 3, 8} : Finset Nat).sort (· ≤ ·)).map Nat.repr)) ∧
    (∀ stats, diskHost.statV1 "/job_1" = .ok (some stats) →
      (statsV1 twoDiskNode diskHost 10 { path := "/job_1" }).map CgMetric.cpus = some 5) ∧
    (∀ stats, diskHost.statV2 "/job_1" = .ok (some stats) →
      (statsV2 twoDiskNode diskHost 10 { path := "/job_1" }).map CgMetric.cpus = some 5) :=
  ⟨cpus_listFormat.1 64 5 _ (by decide) (by decide) (by decide) (by decide) (by decide),
    cpus_listFormat.2 twoDiskNode diskHost 10 { path := "/job_1" } {0, 1, 2, 3, 8} ⟨0, by decide⟩
      (by decide) (by decide) rfl (by simp [diskHost])⟩

/-! ### Block-IO maps -/

section Store

variable {α : Type} (key : α → String) (val : α → ℚ)

theorem lookup_storeAll_of_not_mem {k : String} (m : GoMap ℚ) (es : List α)
    (hk : k ∉ es.map key) : (storeAll key val m es).lookup k = m.lookup k := by
  induction es generalizing m with
  | nil => rfl
  | cons e es ih =>
    simp only [List.map_cons, List.mem_cons, not_or] at hk
    rw [storeAll, List.foldl_cons, ← storeAll, ih _ hk.2, AList.lookup_insert_ne hk.1]

/-- Storing entries under pairwise distinct keys new to the map adds every
entry: the keys are the entries' keys and the old ones, each entry's key holds
its value, and the sum grows by the sum of the values. -/
theorem storeAll_spec (m : GoMap ℚ) (es : List α) (hnd : (es.map key).Nodup)
    (hnew : ∀ e ∈ es, key e ∉ m) :
    (storeAll key val m es).keys.Perm (es.map key ++ m.keys) ∧
    (∀ e ∈ es, (storeAll key val m es).lookup (key e) = some (val e)) ∧
    GoMap.sum (storeAll key val m es) = (es.map val).sum + GoMap.sum m := by
  induction es generalizing m with
  | nil => simp [storeAll]
  | cons e es ih =>
    simp only [List.map_cons, List.nodup_cons] at hnd
    simp only [List.forall_mem_cons] at hnew
    have hnew' : ∀ e' ∈ es, key e' ∉ m.insert (key e) (val e) := fun e' he' h =>
      ((AList.mem_insert _).mp h).elim (fun h => hnd.1 (h ▸ List.mem_map_of_mem key he'))
        (hnew.2 e' he')
    obtain ⟨hkeys, hlook, hsum⟩ := ih (m.insert (key e) (val e)) hnd.2 hnew'
    have hstep : storeAll key val m (e :: es) = storeAll key val (m.insert (key e) (val e)) es := rfl
    rw [hstep]
    refine ⟨?_, ?_, ?_⟩
    · rw [AList.keys_insert, List.erase_of_not_mem (fun h => hnew.1 (AList.mem_keys.mpr h))] at hkeys
      exact hkeys.trans List.perm_middle
    · simp only [List.forall_mem_cons]
      exact ⟨by rw [lookup_storeAll_of_not_mem key val _ _ hnd.1, AList.lookup_insert], hlook⟩
    · rw [hsum, GoMap.sum_insert_of_not_mem hnew.1, List.map_cons, List.sum_cons]
      ring

/-- A map that lost nothing of the entries `es`: its keys are the entries'
keys, each holding its entry's value, and its values sum to the entries'. -/
def Lossless (m : GoMap ℚ) (es : List α) : Prop :=
  m.keys.Perm (es.map key) ∧ (∀ e ∈ es, m.lookup (key e) = some (val e)) ∧
    GoMap.sum m = (es.map val).sum

/-- **Storing under distinct keys loses nothing.** -/
theorem storeAll_lossless (es : List α) (hnd : (es.map key).Nodup) :
    Lossless key val (storeAll key val ∅ es) es := by
  obtain ⟨hkeys, hlook, hsum⟩ := storeAll_spec key val ∅ es hnd (fun _ _ h => by simp at h)
  exact ⟨by simpa using hkeys, hlook, by simpa [GoMap.sum, GoMap.values] using hsum⟩

end Store

theorem foldl_opStep (bd : GoMap String) (es : List BlkIOEntry) (a b : GoMap ℚ) :
    es.foldl (opStep bd) (a, b) =
      (storeAll (fun e => devName bd e.major e.minor) (fun e => e.value) a
          (es.filter (·.op = readOp)),
        storeAll (fun e => devName bd e.major e.minor) (fun e => e.value) b
          (es.filter (·.op = writeOp))) := by
  have hrw : readOp ≠ writeOp := by decide
  induction es generalizing a b with
  | nil => rfl
  | cons e es ih =>
    rw [List.foldl_cons, opStep]
    by_cases hr : e.op = readOp
    · simp [hr, hrw, ih, List.filter_cons, storeAll]
    · by_cases hw : e.op = writeOp
      · simp [hr, hw, hrw.symm, ih, List.filter_cons, storeAll]
      · simp [hr, hw, ih, List.filter_cons]

theorem foldl_ioStep (bd : GoMap String) (es : List IOEntry) (maps : BlkioMaps) :
    es.foldl (ioStep bd) maps =
      let key := fun e : IOEntry => devName bd e.major e.minor
      { readBytes := storeAll key (fun e => e.rbytes) maps.readBytes es
        writeBytes := storeAll key (fun e => e.wbytes) maps.writeBytes es
        readReqs := storeAll key (fun e => e.rios) maps.readReqs es
        writeReqs := storeAll key (fun e => e.wios) maps.writeReqs es } := by
  induction es generalizing maps with
  | nil => rfl
  | cons e es ih => rw [List.foldl_cons, ih]; rfl

theorem ioStatsV2_blkio (bd : GoMap String) (io : IOStat) (metric : CgMetric) :
    let key := fun e : IOEntry => devName bd e.major e.minor
    (ioStatsV2 bd (some io) metric).blkioReadBytes = storeAll key (·.rbytes) ∅ io.usage ∧
    (ioStatsV2 bd (some io) metric).blkioWriteBytes = storeAll key (·.wbytes) ∅ io.usage ∧
    (ioStatsV2 bd (some io) metric).blkioReadReqs = storeAll key (·.rios) ∅ io.usage ∧
    (ioStatsV2 bd (some io) metric).blkioWriteReqs = storeAll key (·.wios) ∅ io.usage := by
  simp only [ioStatsV2, foldl_ioStep]
  split <;> exact ⟨rfl, rfl, rfl, rfl⟩

/-- The four block-IO maps of `m` lose nothing of v2's `io.stat` entries. -/
def IOLossless (bd : GoMap String) (usage : List IOEntry) (m : CgMetric) : Prop :=
  let key := fun e : IOEntry => devName bd e.major e.minor
  Lossless key (·.rbytes) m.blkioReadBytes usage ∧ Lossless key (·.wbytes) m.blkioWriteBytes usage ∧
    Lossless key (·.rios) m.blkioReadReqs usage ∧ Lossless key (·.wios) m.blkioWriteReqs usage

/-- The four block-IO maps of `m` lose nothing of v1's `Read` and `Write`
entries. -/
def BlkioLossless (bd : GoMap String) (blkio : BlkIOStat) (m : CgMetric) : Prop :=
  let key := fun e : BlkIOEntry => devName bd e.major e.minor
  Lossless key (·.value) m.blkioReadBytes (blkio.ioServiceBytesRecursive.filter (·.op = readOp)) ∧
  Lossless key (·.value) m.blkioWriteBytes (blkio.ioServiceBytesRecursive.filter (·.op = writeOp)) ∧
  Lossless key (·.value) m.blkioReadReqs (blkio.ioServicedRecursive.filter (·.op = readOp)) ∧
  Lossless key (·.value) m.blkioWriteReqs (blkio.ioServicedRecursive.filter (·.op = writeOp))

/-- `blockDevices` names the devices of each of v1's four lists of entries
pairwise distinctly. -/
def BlkioNamesDistinct (bd : GoMap String) (blkio : BlkIOStat) : Prop :=
  ∀ l ∈ [blkio.ioServiceBytesRecursive, blkio.ioServicedRecursive], ∀ op ∈ [readOp, writeOp],
    ((l.filter (·.op = op)).map fun e => devName bd e.major e.minor).Nodup

instance (bd : GoMap String) (blkio : BlkIOStat) : Decidable (BlkioNamesDistinct bd blkio) :=
  inferInstanceAs (Decidable (∀ l ∈ _, ∀ op ∈ _, _))

/-- **The block-IO maps lose nothing** when `blockDevices` names the input's
devices pairwise distinctly. Once the statistics load with a block-IO section
and `getCPUs` answers, `statsV2` answers a record whose four maps, built from
`io.stat`, hold every entry under its own key, each map's values summing to its
counter's total; and likewise `statsV1` for the `Read` and `Write` entries. -/
theorem blkio_lossless (c : CgroupCollector) (host : StatsHost) (fuel : Nat) (m : CgMetric)
    {cpus : Except GoError (List String)} (hcpus : getCPUs c host fuel m.path = some cpus) :
    (∀ stats io, host.statV2 m.path = .ok (some stats) → stats.io = some io →
      (io.usage.map fun e => devName c.blockDevices e.major e.minor).Nodup →
      ∃ m', statsV2 c host fuel m = some m' ∧ IOLossless c.blockDevices io.usage m') ∧
    (∀ stats blkio, host.statV1 m.path = .ok (some stats) → stats.blkio = some blkio →
      BlkioNamesDistinct c.blockDevices blkio →
      ∃ m', statsV1 c host fuel m = some m' ∧ BlkioLossless c.blockDevices blkio m') := by
  constructor
  · intro stats io hstat hio hnd
    refine ⟨_, by simp only [statsV2, hstat, hcpus, Option.map_some']; rfl, ?_⟩
    obtain ⟨h₁, h₂, h₃, h₄⟩ := rdmaStats_blkio (ioStatsV2 c.blockDevices stats.io _) stats.rdma
    obtain ⟨e₁, e₂, e₃, e₄⟩ := ioStatsV2_blkio c.blockDevices io _
    rw [IOLossless, h₁, h₂, h₃, h₄, hio, e₁, e₂, e₃, e₄]
    exact ⟨storeAll_lossless _ _ _ hnd, storeAll_lossless _ _ _ hnd,
      storeAll_lossless _ _ _ hnd, storeAll_lossless _ _ _ hnd⟩
  · intro stats blkio hstat hblkio hnd
    refine ⟨_, by simp only [statsV1, hstat, hcpus, Option.map_some']; rfl, ?_⟩
    obtain ⟨h₁, h₂, h₃, h₄⟩ := rdmaStats_blkio (blkioStatsV1 c.blockDevices stats.blkio _) stats.rdma
    simp only [BlkioNamesDistinct, List.mem_cons, List.mem_singleton, List.not_mem_nil, or_false,
      forall_eq_or_imp, forall_eq] at hnd
    rw [BlkioLossless, h₁, h₂, h₃, h₄, hblkio]
    simp only [blkioStatsV1, foldl_opStep]
    exact ⟨storeAll_lossless _ _ _ hnd.1.1, storeAll_lossless _ _ _ hnd.1.2,
      storeAll_lossless _ _ _ hnd.2.1, storeAll_lossless _ _ _ hnd.2.2⟩

theorem blkio_lossless_two_disks :
    (∃ m', statsV2 twoDiskNode diskHost 10 { path := "/job_1" } = some m' ∧
      IOLossless twoDiskNode.blockDevices [⟨8, 0, 4096, 8192, 1, 2⟩, ⟨8, 16, 512, 0, 1, 0⟩] m') ∧
    (∃ m', statsV1 twoDiskNode diskHost 10 { path := "/job_1" } = some m' ∧
      BlkioLossless twoDiskNode.blockDevices
        { ioServiceBytesRecursive :=
            [⟨"Read", 8, 0, 4096⟩, ⟨"Write", 8, 0, 8192⟩, ⟨"Total", 8, 0, 12288⟩, ⟨"Write", 8, 16, 1024⟩]
          ioServicedRecursive := [⟨"Read", 8, 0, 1⟩, ⟨"Write", 8, 0, 2⟩, ⟨"Write", 8, 16, 1⟩] } m') :=
  have hcpus := getCPUs_listFormat twoDiskNode diskHost 10 "/job_1" {0, 1, 2, 3, 8} ⟨0, by decide⟩
    (by decide) (by decide) rfl (by simp [diskHost])
  ⟨(blkio_lossless twoDiskNode diskHost 10 { path := "/job_1" } hcpus).1 _ _ rfl rfl (by decide),
    (blkio_lossless twoDiskNode diskHost 10 { path := "/job_1" } hcpus).2 _ _ rfl rfl (by decide)⟩

/-! ### The device table of `NewCgroupCollector` -/

/-- A line of `/proc/diskstats` as `blockdevice.ProcDiskstats` reads it: the
device's numbers and its name. -/
structure DiskStat where
  major : Nat
  minor : Nat
  deviceName : String
  deriving DecidableEq, Repr

/-- The `blockDevices` table `NewCgroupCollector` builds: each line of
`/proc/diskstats` maps `fmt.Sprintf("%d:%d", major, minor)` to the device's
name; the table stays empty when the block-device statistics cannot be read. -/
def newBlockDevices (diskstats : Option (List DiskStat)) : GoMap String :=
  match diskstats with
  | none => ∅
  | some stats =>
    stats.foldl (fun m s => m.insert (toString s.major ++ ":" ++ toString s.minor) s.deviceName) ∅

theorem repr_injective {a b : Nat} (h : Nat.repr a = Nat.repr b) : a = b := by
  have ha := (toDigits_spec a).2.2
  have hb := (toDigits_spec b).2.2
  have : Nat.toDigits 10 a = Nat.toDigits 10 b := congrArg String.toList h
  rw [← ha, ← hb, this]

/-- `"%d:%d"` tells device numbers apart. -/
theorem deviceKey_injective {a b c d : Nat}
    (h : toString a ++ ":" ++ toString b = toString c ++ ":" ++ toString d) : a = c ∧ b = d := by
  have hcolon : ∀ n, ∀ s ∈ [Nat.repr n], ':' ∉ s.toList := fun n s hs hc => by
    rw [List.mem_singleton.mp hs] at hc
    have := (toDigits_spec n).2.1 _ hc
    revert this; decide
  have hsplit : ∀ x y : Nat, split (toString x ++ ":" ++ toString y) ':' = [Nat.repr x, Nat.repr y] :=
    fun x y => split_intercalate ':' [Nat.repr x, Nat.repr y]
      (by simpa using ⟨hcolon x _ (.head _), hcolon y _ (.head _)⟩) (by simp)
  have := hsplit a b
  rw [h, hsplit c d] at this
  simp only [List.cons.injEq, and_true] at this
  exact ⟨repr_injective this.1.symm, repr_injective this.2.symm⟩

/-- On a `/proc/diskstats` whose devices have distinct numbers, the collector
names each listed device by its name there. -/
theorem devName_newBlockDevices {stats : List DiskStat}
    (hnum : (stats.map fun s => (s.major, s.minor)).Nodup) :
    ∀ s ∈ stats, devName (newBlockDevices (some stats)) s.major s.minor = s.deviceName := by
  have hkeys : (stats.map fun s => toString s.major ++ ":" ++ toString s.minor).Nodup := by
    rw [show (stats.map fun s => toString s.major ++ ":" ++ toString s.minor) =
      (stats.map fun s => (s.major, s.minor)).map fun d => toString d.1 ++ ":" ++ toString d.2 by
        rw [List.map_map]; rfl]
    exact hnum.map_on fun x _ y _ h => Prod.ext (deviceKey_injective h).1 (deviceKey_injective h).2
  intro s hs
  simp only [devName, GoMap.getD, newBlockDevices,
    GoMap.lookup_foldl_insert (fun s : DiskStat => toString s.major ++ ":" ++ toString s.minor)
      DiskStat.deviceName stats ∅ hkeys s hs, Option.getD_some]

/-- **Device names at start-up.** When `blockDevices` is the table
`NewCgroupCollector` builds from a `/proc/diskstats` with distinct device
numbers and distinct names, the entries of a cgroup's `io.stat` for distinct
devices that were listed at start-up get pairwise distinct names: the premise
under which the block-IO maps lose nothing. -/
theorem devName_nodup_of_diskstats {stats : List DiskStat}
    (hnum : (stats.map fun s => (s.major, s.minor)).Nodup)
    (hname : (stats.map DiskStat.deviceName).Nodup) {usage : List IOEntry}
    (hdevs : (usage.map fun e => (e.major, e.minor)).Nodup)
    (hknown : ∀ e ∈ usage, ∃ s ∈ stats, s.major = e.major ∧ s.minor = e.minor) :
    (usage.map fun e => devName (newBlockDevices (some stats)) e.major e.minor).Nodup := by
  have hfun : ∀ e ∈ usage, ∃ s ∈ stats, s.major = e.major ∧ s.minor = e.minor ∧
      devName (newBlockDevices (some stats)) e.major e.minor = s.deviceName := fun e he => by
    obtain ⟨s, hs, h₁, h₂⟩ := hknown e he
    exact ⟨s, hs, h₁, h₂, h₁ ▸ h₂ ▸ devName_newBlockDevices hnum s hs⟩
  refine (List.Nodup.of_map _ hdevs).map_on fun e he e' he' h =>
    List.inj_on_of_nodup_map hdevs he he' ?_
  obtain ⟨s, hs, h₁, h₂, hn⟩ := hfun e he
  obtain ⟨s', hs', h₁', h₂', hn'⟩ := hfun e' he'
  obtain rfl : s = s' := List.inj_on_of_nodup_map hname hs hs' (hn.symm.trans (h.trans hn'))
  show (e.major, e.minor) = (e'.major, e'.minor)
  rw [← h₁, ← h₂, ← h₁', ← h₂']

/-- Two disks of `/proc/diskstats`, and a cgroup that read from both. -/
theorem devName_nodup_of_diskstats_two_disks :
    ([(⟨8, 0, "sda"⟩ : DiskStat), ⟨8, 16, "sdb"⟩].map fun s => (s.major, s.minor)).Nodup ∧
    ([(⟨8, 0, "sda"⟩ : DiskStat), ⟨8, 16, "sdb"⟩].map DiskStat.deviceName).Nodup ∧
    ([(⟨8, 0, 4096, 8192, 1, 2⟩ : IOEntry), ⟨8, 16, 512, 0, 1, 0⟩].map
      fun e => (e.major, e.minor)).Nodup ∧
    (∀ e ∈ [(⟨8, 0, 4096, 8192, 1, 2⟩ : IOEntry), ⟨8, 16, 512, 0, 1, 0⟩],
      ∃ s ∈ [(⟨8, 0, "sda"⟩ : DiskStat), ⟨8, 16, "sdb"⟩], s.major = e.major ∧ s.minor = e.minor) ∧
    ([(⟨8, 0, 4096, 8192, 1, 2⟩ : IOEntry), ⟨8, 16, 512, 0, 1, 0⟩].map fun e =>
      devName (newBlockDevices (some [⟨8, 0, "sda"⟩, ⟨8, 16, "sdb"⟩])) e.major e.minor).Nodup :=
  ⟨by decide, by decide, by decide, by decide,
    devName_nodup_of_diskstats (by decide) (by decide) (by decide) (by decide)⟩

/-- Two loop devices created after start-up, `7:0` and `7:1`, are absent from
`blockDevices`: both are stored under the one name `""`, where the second
overwrites the first, so the map holds 2 of the 3 bytes read. -/
theorem blkio_devices_collide :
    (statsV2 twoDiskNode
        { readFile := fun _ => none, proc := fun _ => none, intSize := 64, intSize_eq := .inr rfl,
          statV1 := fun _ => .ok none,
          statV2 := fun _ => .ok (some { io := some { usage :=
            [⟨7, 0, 1, 0, 0, 0⟩, ⟨7, 1, 2, 0, 0, 0⟩] } }),
          fileExists := fun _ => false }
        1 { path := "/job_1" }).map
      (fun m => (m.blkioReadBytes.keys, m.blkioReadBytes.lookup "")) = some ([""], some 2) := by
  decide

end Collector
end Ceems
