import Ceems.Collector.Update

/-!
# The series of a scrape

Prometheus's client library files each sample a collector sends under a
series: the metric's fully qualified name and the sample's label values.
`prometheus.MustNewConstMetric` panics when a sample has not as many label
values as its descriptor has variable labels, and the registry fails the
whole scrape when two of its samples fall in one series.
`Update_series_nodup` says that `cgroupCollector.Update` never makes the
registry fail a scrape so: when the records handed to `Update` have pairwise
distinct uuids, no two samples of the scrape share a series, whatever the
statistics hold.

Within a unit, samples are told apart by their metric names and, for the
per-device statistics, by the device, which a Go map holds once; the samples
of two units are told apart by the uuid, which `doUpdate` keeps
(`doUpdate_uuid`). `UnitSamples` collects what is known of a list of samples
of one unit, and `unitMetrics_samples` establishes it for all the samples of a
unit, part by part, in the order `Update` sends them.
-/

namespace Ceems
namespace Collector

/-- The series of a sample: its metric's name and its label values. -/
def Metric.series (x : Metric) : String × List String := (x.desc.fqName, x.labelValues)

/-- A non-empty metric name is recovered from its fully qualified name. -/
theorem buildFQName_inj {ns subsystem n n' : String} (hn : n ≠ "")
    (h : buildFQName ns subsystem n = buildFQName ns subsystem n') : n = n' := by
  unfold buildFQName at h
  rw [if_neg hn] at h
  by_cases hn' : n' = ""
  · rw [if_pos hn'] at h
    have h' := congrArg String.data h
    rw [String.data_append] at h'
    exact absurd (String.ext (List.append_eq_nil.mp h').2) hn
  · rw [if_neg hn'] at h
    have h' := congrArg String.data h
    rw [String.data_append, String.data_append] at h'
    exact String.ext (List.append_cancel_left h')

/-! ### The samples of one unit -/

/-- What is known of a list of samples of the unit `m`: each is named by one
of the non-empty metric names `N`, its label values are the unit's followed
by those of its statistic (the device), and no two of them share a series. -/
structure UnitSamples (Namespace : String) (c : CgroupCollector) (m : CgMetric) (N : List String)
    (l : List Metric) : Prop where
  named : ∀ x ∈ l, ∃ n ∈ N, n ≠ "" ∧ x.desc.fqName = buildFQName Namespace genericSubsystem n
  labels : ∀ x ∈ l, ∃ rest, x.labelValues = unitLabels c m ++ rest
  nodup : (l.map Metric.series).Nodup

namespace UnitSamples

variable {Namespace : String} {c : CgroupCollector} {m : CgMetric}

theorem nil (N : List String) : UnitSamples Namespace c m N [] :=
  ⟨fun _ h => absurd h (List.not_mem_nil _), fun _ h => absurd h (List.not_mem_nil _),
    List.nodup_nil⟩

/-- One sample of the metric named `n`. -/
theorem single (n : String) {x : Metric} {rest : List String}
    (hx : x.desc.fqName = buildFQName Namespace genericSubsystem n) (hn : n ≠ "")
    (hl : x.labelValues = unitLabels c m ++ rest) :
    UnitSamples Namespace c m [n] [x] where
  named _ h := List.mem_singleton.mp h ▸ ⟨n, List.mem_singleton_self n, hn, hx⟩
  labels _ h := List.mem_singleton.mp h ▸ ⟨rest, hl⟩
  nodup := List.nodup_singleton _

/-- Samples of metrics with disjoint names share no series. -/
theorem append {N₁ N₂ : List String} {l₁ l₂ : List Metric} (h₁ : UnitSamples Namespace c m N₁ l₁)
    (h₂ : UnitSamples Namespace c m N₂ l₂) (hN : ∀ n ∈ N₁, n ∉ N₂) :
    UnitSamples Namespace c m (N₁ ++ N₂) (l₁ ++ l₂) where
  named x hx := by
    rcases List.mem_append.mp hx with hx | hx
    · obtain ⟨n, hn, h⟩ := h₁.named x hx
      exact ⟨n, List.mem_append_left _ hn, h⟩
    · obtain ⟨n, hn, h⟩ := h₂.named x hx
      exact ⟨n, List.mem_append_right _ hn, h⟩
  labels x hx := (List.mem_append.mp hx).elim (h₁.labels x) (h₂.labels x)
  nodup := by
    rw [List.map_append, List.nodup_append]
    refine ⟨h₁.nodup, h₂.nodup, fun s hs₁ hs₂ => ?_⟩
    obtain ⟨x, hx, rfl⟩ := List.mem_map.mp hs₁
    obtain ⟨y, hy, hyx⟩ := List.mem_map.mp hs₂
    obtain ⟨n, hn, hne, hxn⟩ := h₁.named x hx
    obtain ⟨n', hn', -, hyn⟩ := h₂.named y hy
    have hfq : buildFQName Namespace genericSubsystem n = buildFQName Namespace genericSubsystem n' :=
      hxn.symm.trans ((congrArg Prod.fst hyx).symm.trans hyn)
    exact hN n hn (buildFQName_inj hne hfq ▸ hn')

theorem cons (n : String) {x : Metric} {N : List String} {l : List Metric}
    (hx : x.desc.fqName = buildFQName Namespace genericSubsystem n) (hn : n ≠ "")
    (hl : x.labelValues = unitLabels c m) (h : UnitSamples Namespace c m N l) (hN : n ∉ N) :
    UnitSamples Namespace c m (n :: N) (x :: l) :=
  (single n hx hn (hl.trans (List.append_nil _).symm)).append h
    fun _ h' => List.mem_singleton.mp h' ▸ hN

theorem ite {N : List String} {l : List Metric} (h : UnitSamples Namespace c m N l) (p : Prop)
    [Decidable p] : UnitSamples Namespace c m N (if p then l else []) := by
  split
  exacts [h, nil N]

/-- The per-device samples of the devices `ks` of a Go map, labelled with
their device. -/
theorem flatMap {N ks : List String} {f : String → List Metric} (hks : ks.Nodup)
    (hf : ∀ k ∈ ks, UnitSamples Namespace c m N (f k))
    (hk : ∀ k ∈ ks, ∀ x ∈ f k, x.labelValues = unitLabels c m ++ [k]) :
    UnitSamples Namespace c m N (ks.flatMap f) where
  named x hx := let ⟨k, hk, hx⟩ := List.mem_flatMap.mp hx; (hf k hk).named x hx
  labels x hx := let ⟨k, hk, hx⟩ := List.mem_flatMap.mp hx; (hf k hk).labels x hx
  nodup := by
    rw [List.map_flatMap, List.nodup_flatMap]
    refine ⟨fun k hkm => (hf k hkm).nodup,
      hks.pairwise_of_forall_ne fun k hkm k' hkm' hne s hs hs' => hne ?_⟩
    obtain ⟨x, hx, rfl⟩ := List.mem_map.mp hs
    obtain ⟨y, hy, hyx⟩ := List.mem_map.mp hs'
    have hlabels : unitLabels c m ++ [k'] = unitLabels c m ++ [k] :=
      (hk k' hkm' y hy).symm.trans ((congrArg Prod.snd hyx).trans (hk k hkm x hx))
    simpa using (List.append_cancel_left hlabels).symm

end UnitSamples

section Parts

variable {Namespace : String} {c : CgroupCollector} {m : CgMetric}

theorem labels_of_mem_deviceMetric {D : Desc} {mp : GoMap ℚ} {d : String} {x : Metric}
    (hx : x ∈ (deviceMetric c D mp m d).toList) : x.labelValues = unitLabels c m ++ [d] := by
  unfold deviceMetric at hx
  split at hx
  · split at hx <;> simp_all
  · simp at hx

/-- The sample of one device. -/
theorem deviceMetric_samples (n : String) {D : Desc}
    (hD : D.fqName = buildFQName Namespace genericSubsystem n) (hn : n ≠ "") (mp : GoMap ℚ)
    (d : String) : UnitSamples Namespace c m [n] (deviceMetric c D mp m d).toList := by
  unfold deviceMetric
  split
  · split
    · exact .single n hD hn rfl
    · exact .nil _
  · exact .nil _

/-- The block-IO samples of a unit. -/
theorem blkioMetrics_samples :
    UnitSamples Namespace c m ["unit_blkio_read_total_bytes", "unit_blkio_write_total_bytes",
      "unit_blkio_read_total_requests", "unit_blkio_write_total_requests"]
      (blkioMetrics Namespace c m) := by
  refine .flatMap m.blkioReadBytes.keys_nodup (fun d _ => ?_) fun d _ x hx => ?_
  · rw [filterMap_id_four]
    exact (((deviceMetric_samples "unit_blkio_read_total_bytes" rfl (by decide) _ d).append
      (deviceMetric_samples "unit_blkio_write_total_bytes" rfl (by decide) _ d) (by decide)).append
      (deviceMetric_samples "unit_blkio_read_total_requests" rfl (by decide) _ d) (by decide)).append
      (deviceMetric_samples "unit_blkio_write_total_requests" rfl (by decide) _ d) (by decide)
  · rw [filterMap_id_four] at hx
    simp only [List.mem_append] at hx
    rcases hx with ((hx | hx) | hx) | hx <;> exact labels_of_mem_deviceMetric hx

/-- The samples of the positive entries of a per-device map. -/
theorem positiveMetrics_samples (n : String) {D : Desc}
    (hD : D.fqName = buildFQName Namespace genericSubsystem n) (hn : n ≠ "") (mp : GoMap ℚ) :
    UnitSamples Namespace c m [n] (positiveMetrics c D mp m) := by
  have hmem : ∀ x ∈ positiveMetrics c D mp m, ∃ d, x.desc = D ∧ x.labelValues = unitLabels c m ++ [d] := by
    intro x hx
    obtain ⟨e, -, he⟩ := List.mem_filterMap.mp hx
    split at he <;> cases he
    exact ⟨e.1, rfl, rfl⟩
  refine ⟨fun x hx => ?_, fun x hx => ?_, ?_⟩
  · obtain ⟨d, hd, -⟩ := hmem x hx
    exact ⟨n, List.mem_singleton_self n, hn, hd ▸ hD⟩
  · obtain ⟨d, -, hl⟩ := hmem x hx
    exact ⟨[d], hl⟩
  · rw [positiveMetrics, List.map_filterMap, List.Nodup, List.pairwise_filterMap]
    refine (List.nodupKeys_iff_pairwise.mp mp.nodupKeys).imp fun {e e'} hne s hs s' hs' hss' => hne ?_
    split at hs <;> split at hs' <;>
      simp only [Option.map_some', Option.map_none', Option.mem_def, Option.some.injEq, reduceCtorEq,
        Metric.series] at hs hs'
    subst hs hs'
    simpa using hss'

/-- **The samples of a unit.** Every sample `Update` sends for a unit is
labelled with the unit's labels, followed by the device for a per-device
statistic, and no two share a series. -/
theorem unitMetrics_samples (Namespace : String) (c : CgroupCollector) (m : CgMetric) :
    ∃ N, UnitSamples Namespace c m N (unitMetrics Namespace c m) :=
  ⟨_, ((((((UnitSamples.ite (.cons "collect_error" rfl (by decide) rfl (.nil []) (by decide)) _).append
    (.cons "unit_cpu_user_seconds_total" rfl (by decide) rfl
      (.cons "unit_cpu_system_seconds_total" rfl (by decide) rfl
      (.cons "unit_cpus" rfl (by decide) rfl
      (.cons "unit_memory_rss_bytes" rfl (by decide) rfl
      (.cons "unit_memory_cache_bytes" rfl (by decide) rfl
      (.cons "unit_memory_used_bytes" rfl (by decide) rfl
      (.cons "unit_memory_total_bytes" rfl (by decide) rfl
      (.cons "unit_memory_fail_count" rfl (by decide) rfl (.nil [])
        (by decide)) (by decide)) (by decide)) (by decide)) (by decide)) (by decide)) (by decide))
        (by decide)) (by decide)).append
    (UnitSamples.ite (.cons "unit_memsw_used_bytes" rfl (by decide) rfl
      (.cons "unit_memsw_total_bytes" rfl (by decide) rfl
      (.cons "unit_memsw_fail_count" rfl (by decide) rfl (.nil []) (by decide)) (by decide))
        (by decide)) _) (by decide)).append
    (UnitSamples.ite blkioMetrics_samples _) (by decide)).append
    (UnitSamples.ite (.cons "unit_cpu_psi_seconds" rfl (by decide) rfl
      (.cons "unit_memory_psi_seconds" rfl (by decide) rfl (.nil []) (by decide)) (by decide)) _)
      (by decide)).append
    (positiveMetrics_samples "unit_rdma_hca_handles" rfl (by decide) _) (by decide)).append
    (positiveMetrics_samples "unit_rdma_hca_objects" rfl (by decide) _) (by decide)⟩

end Parts

/-! ### A whole scrape -/

section Scrape

variable (Namespace : String) (c : CgroupCollector) (host : StatsHost) (fuel : Nat)
  (metrics : List CgMetric)

/-- **No two samples of a scrape share a series**, when the records handed to
`Update` have pairwise distinct uuids. -/
theorem Update_series_nodup (hid : (metrics.map CgMetric.uuid).Nodup) :
    (((Update Namespace c host fuel metrics).getD []).map Metric.series).Nodup := by
  unfold Update
  cases hd : doUpdate c host fuel metrics with
  | none => exact List.nodup_nil
  | some ms =>
    have hms : (ms.map CgMetric.uuid).Nodup := doUpdate_uuid hd ▸ hid
    rw [Option.map_some', Option.getD_some, List.map_cons, List.nodup_cons, List.map_flatMap,
      List.nodup_flatMap]
    refine ⟨fun hmem => ?_, fun m _ => (unitMetrics_samples Namespace c m).choose_spec.nodup,
      (List.pairwise_map.mp hms).imp fun {a b} hab s hs hs' => hab ?_⟩
    · obtain ⟨m, -, hs⟩ := List.mem_flatMap.mp hmem
      obtain ⟨x, hx, hxs⟩ := List.mem_map.mp hs
      obtain ⟨rest, hl⟩ := (unitMetrics_samples Namespace c m).choose_spec.labels x hx
      have hlen := congrArg (fun s => s.2.length) hxs
      simp [Metric.series, hl, unitLabels] at hlen
    · obtain ⟨x, hx, rfl⟩ := List.mem_map.mp hs
      obtain ⟨y, hy, hyx⟩ := List.mem_map.mp hs'
      obtain ⟨r, hr⟩ := (unitMetrics_samples Namespace c a).choose_spec.labels x hx
      obtain ⟨r', hr'⟩ := (unitMetrics_samples Namespace c b).choose_spec.labels y hy
      have hlabels := congrArg Prod.snd hyx
      simp only [Metric.series, hr, hr', unitLabels, List.cons_append, List.cons.injEq] at hlabels
      exact hlabels.2.2.1.symm

/-- Two jobs on `twoDiskNodeV1`. -/
theorem Update_series_nodup_twoJobs :
    (([{ path := "/job_1", uuid := "1" }, { path := "/job_2", uuid := "2" }] : List CgMetric).map
      CgMetric.uuid).Nodup ∧
    (((Update "ceems" twoDiskNodeV1 diskHost 10
      [{ path := "/job_1", uuid := "1" }, { path := "/job_2", uuid := "2" }]).getD []).map
        Metric.series).Nodup :=
  ⟨by decide, Update_series_nodup "ceems" twoDiskNodeV1 diskHost 10 _ (by decide)⟩

end Scrape

end Collector
end Ceems
