import Mathlib.Data.Rat.Defs
import Mathlib.Data.List.Chain
import Ceems.Go.Map

/-!
# The emissions collector and its RTE cache

The emissions collector exports one gauge, the grid's emission factor in
gCO₂/kWh. Outside France it reads the factor from the OWID energy-mix table
fetched once at start-up (`energyData`), falling back to the global average.
For France it asks RTE's eCO2mix service, and because RTE publishes hourly,
`getCachedEmissionFactorFrance` caches the answer: "We make requests to RTE
only once every 30 min and cache data for rest of the scrapes". The cache is
the collector's two fields `prevReadTime` and `prevEmissionFactor`, with `-1`
in the latter meaning "nothing cached yet".

A scrape is modelled with what it reads from the world: the two clock reads
of `getCachedEmissionFactorFrance` (before and after the request) and RTE's
answer (`none` when `getRteEnergyMixData` fails). A call answers a `Call`: the
factor, whether an HTTP request went to RTE, and the collector afterwards.
Everything below runs off one inversion lemma, `getCurrentEmissionFactor_cases`:
a scrape either leaves the collector as it was (outside France, or a cache
hit) or requests RTE and overwrites both cache fields.

* `requestTimes_spaced` — **rate limit.** Over every run whose clock never
  goes back, two consecutive RTE requests are more than 1800 s apart, from any
  starting state, provided no answer (after the fallback) is the sentinel `-1`;
* `requestTimes_length_le` — so a run whose scrapes fall within `T` seconds
  asks RTE at most `T / 1801 + 1` times;
* `requestTimes_of_sentinel` — that proviso is needed: when every answer is
  `-1` the cache never holds and every scrape requests RTE;
* `served_fresh` — **freshness.** From a freshly built France collector, the
  factor served at any scrape was computed from RTE's answer at a scrape of
  the same run whose read time is at most 1800 s before the scrape; in
  particular the sentinel of the constructor is never served.
-/

namespace Ceems

/-- What one scrape of the collector reads from the world: `time.Now()` at
the staleness check, `time.Now()` once RTE has answered, and RTE's answer
(`none` when `getRteEnergyMixData` returns an error). -/
structure Scrape where
  now : Int
  readTime : Int
  rte : Option ℚ
  deriving DecidableEq, Repr

/-- The fields of `emissionsCollector` that the factor computation reads or
writes. -/
structure EmissionsCollector where
  countryCode : String
  energyData : GoMap ℚ
  prevReadTime : Int
  prevEmissionFactor : ℚ

/-- `NewEmissionsCollector`, given the energy-mix table it fetched (empty when
the fetch failed, which is only logged) and the clock at start-up. -/
def newEmissionsCollector (countryCode : String) (energyData : GoMap ℚ) (now : Int) :
    EmissionsCollector :=
  { countryCode, energyData, prevReadTime := now, prevEmissionFactor := -1 }

/-- The result of a factor lookup: the factor, whether an HTTP request went to
RTE on the way, and the collector after the call. -/
structure Call where
  factor : ℚ
  requested : Bool
  next : EmissionsCollector

/-! ### The factor lookups -/

section Lookups

variable (globalEmissionFactor : ℚ)

/-- `getCurrentEmissionFactorFrance`: RTE's factor, or on an RTE error the
table's factor for `"FRA"`, or the global average. -/
def getCurrentEmissionFactorFrance (c : EmissionsCollector) (rte : Option ℚ) : ℚ :=
  match rte with
  | some emissionFactor => emissionFactor
  | none => c.energyData.getD "FRA" globalEmissionFactor

/-- `getCachedEmissionFactorFrance`: request RTE when the cached value is
older than 1800 s or there is none, and remember the answer with the time. -/
def getCachedEmissionFactorFrance (c : EmissionsCollector) (s : Scrape) : Call :=
  if s.now - c.prevReadTime > 1800 ∨ c.prevEmissionFactor = -1 then
    let currentEmissionFactor := getCurrentEmissionFactorFrance globalEmissionFactor c s.rte
    ⟨currentEmissionFactor, true,
      { c with prevReadTime := s.readTime, prevEmissionFactor := currentEmissionFactor }⟩
  else ⟨c.prevEmissionFactor, false, c⟩

/-- `getCurrentEmissionFactor`: outside France the table's factor for the
country, or the global average; in France the cached RTE factor. -/
def getCurrentEmissionFactor (c : EmissionsCollector) (s : Scrape) : Call :=
  if c.countryCode ≠ "FRA" then
    ⟨c.energyData.getD c.countryCode globalEmissionFactor, false, c⟩
  else getCachedEmissionFactorFrance globalEmissionFactor c s

/-- `Update`: the gauge values sent on the channel (the factor, unless it is
not above `-1`) and the collector afterwards. -/
def update (c : EmissionsCollector) (s : Scrape) : List ℚ × EmissionsCollector :=
  let k := getCurrentEmissionFactor globalEmissionFactor c s
  (if k.factor > -1 then [k.factor] else [], k.next)

/-- The collector after a run of scrapes. -/
def after (c : EmissionsCollector) (ss : List Scrape) : EmissionsCollector :=
  ss.foldl (fun c s => (getCurrentEmissionFactor globalEmissionFactor c s).next) c

/-- The check times of the scrapes of a run that sent a request to RTE. -/
def requestTimes : EmissionsCollector → List Scrape → List Int
  | _, [] => []
  | c, s :: ss =>
    let k := getCurrentEmissionFactor globalEmissionFactor c s
    (if k.requested then [s.now] else []) ++ requestTimes k.next ss

/-- The clock reads of a run in the order they are made. -/
def Scrape.clockReads (ss : List Scrape) : List Int :=
  ss.flatMap fun s => [s.now, s.readTime]

@[simp] theorem after_nil (c : EmissionsCollector) : after globalEmissionFactor c [] = c := rfl

@[simp] theorem after_cons (c : EmissionsCollector) (s : Scrape) (ss : List Scrape) :
    after globalEmissionFactor c (s :: ss) =
      after globalEmissionFactor (getCurrentEmissionFactor globalEmissionFactor c s).next ss :=
  rfl

/-! ### What one scrape can do -/

/-- **One scrape.** Outside France and on a cache hit the collector is left as
it was; otherwise RTE is requested and both cache fields are overwritten, with
the read time and the factor the request produced. -/
theorem getCurrentEmissionFactor_cases (c : EmissionsCollector) (s : Scrape) :
    let k := getCurrentEmissionFactor globalEmissionFactor c s
    let f := getCurrentEmissionFactorFrance globalEmissionFactor c s.rte
    (c.countryCode ≠ "FRA" ∧
      k = ⟨c.energyData.getD c.countryCode globalEmissionFactor, false, c⟩) ∨
    (c.countryCode = "FRA" ∧ s.now - c.prevReadTime ≤ 1800 ∧ c.prevEmissionFactor ≠ -1 ∧
      k = ⟨c.prevEmissionFactor, false, c⟩) ∨
    (c.countryCode = "FRA" ∧ (s.now - c.prevReadTime > 1800 ∨ c.prevEmissionFactor = -1) ∧
      k = ⟨f, true, { c with prevReadTime := s.readTime, prevEmissionFactor := f }⟩) := by
  by_cases hc : c.countryCode = "FRA"
  · by_cases hg : s.now - c.prevReadTime > 1800 ∨ c.prevEmissionFactor = -1
    · exact .inr (.inr ⟨hc, hg, by
        simp [getCurrentEmissionFactor, getCachedEmissionFactorFrance, hc, hg]⟩)
    · push_neg at hg
      exact .inr (.inl ⟨hc, hg.1, hg.2, by
        simp [getCurrentEmissionFactor, getCachedEmissionFactorFrance, hc, hg.2, not_lt.mpr hg.1]⟩)
  · exact .inl ⟨hc, by simp [getCurrentEmissionFactor, hc]⟩

/-- No scrape changes the country or the energy-mix table. -/
theorem next_config (c : EmissionsCollector) (s : Scrape) :
    (getCurrentEmissionFactor globalEmissionFactor c s).next.countryCode = c.countryCode ∧
    (getCurrentEmissionFactor globalEmissionFactor c s).next.energyData = c.energyData := by
  rcases getCurrentEmissionFactor_cases globalEmissionFactor c s with
    ⟨-, hk⟩ | ⟨-, -, -, hk⟩ | ⟨-, -, hk⟩ <;> rw [hk] <;> exact ⟨rfl, rfl⟩

/-! ### Rate limit -/

/-- A collector holding a cached factor does not request RTE again before
1800 s have passed since the cached read. -/
theorem requestTimes_head_gt {c : EmissionsCollector} (hc : c.prevEmissionFactor ≠ -1)
    (ss : List Scrape) : ∀ t ∈ (requestTimes globalEmissionFactor c ss).head?,
      c.prevReadTime + 1800 < t := by
  induction ss with
  | nil => simp [requestTimes]
  | cons s ss ih =>
    rcases getCurrentEmissionFactor_cases globalEmissionFactor c s with
      ⟨-, hk⟩ | ⟨-, -, -, hk⟩ | ⟨-, hg, hk⟩ <;> simp only [requestTimes, hk] at ih ⊢
    · simpa using ih
    · simpa using ih
    · have : s.now - c.prevReadTime > 1800 := hg.resolve_right hc
      simp only [if_true, List.singleton_append, List.head?_cons, Option.mem_def,
        Option.some.injEq, forall_eq']
      omega

/-- Consecutive requests of a run are more than 1800 s apart. -/
theorem requestTimes_chain (c : EmissionsCollector) (ss : List Scrape)
    (hclock : (Scrape.clockReads ss).Chain' (· ≤ ·))
    (hfactor : ∀ s ∈ ss, getCurrentEmissionFactorFrance globalEmissionFactor c s.rte ≠ -1) :
    (requestTimes globalEmissionFactor c ss).Chain' (fun a b => a + 1800 < b) := by
  induction ss generalizing c with
  | nil => exact List.chain'_nil
  | cons s ss ih =>
    have hclock₀ : ([s.now, s.readTime] ++ Scrape.clockReads ss).Chain' (· ≤ ·) := hclock
    have hclock' := hclock₀.right_of_append
    have hread : s.now ≤ s.readTime := (List.chain'_cons.mp hclock₀).1
    rcases getCurrentEmissionFactor_cases globalEmissionFactor c s with
      ⟨-, hk⟩ | ⟨-, -, -, hk⟩ | ⟨-, -, hk⟩ <;>
      simp only [requestTimes, hk, if_true, if_false, List.singleton_append, List.nil_append]
    · exact ih c hclock' fun s' hs' => hfactor s' (.tail _ hs')
    · exact ih c hclock' fun s' hs' => hfactor s' (.tail _ hs')
    · refine .cons' (ih _ hclock' fun s' hs' => ?_) fun t ht => ?_
      · exact hfactor s' (.tail _ hs')
      have := requestTimes_head_gt globalEmissionFactor (hfactor s (.head _)) ss t ht
      simp only at this
      omega

/-- **Rate limit.** Along a run whose clock never goes back, consecutive
requests to RTE are more than 1800 s apart, as long as no factor the collector
computes from an answer is the sentinel `-1`. -/
theorem requestTimes_spaced (c : EmissionsCollector) (ss : List Scrape)
    (hclock : (Scrape.clockReads ss).Chain' (· ≤ ·))
    (hfactor : ∀ s ∈ ss, getCurrentEmissionFactorFrance globalEmissionFactor c s.rte ≠ -1) :
    (requestTimes globalEmissionFactor c ss).Chain' (fun a b => a + 1800 < b) :=
  requestTimes_chain globalEmissionFactor c ss hclock hfactor

/-- A request, a cache hit 900 s later, and a second request once 1800 s have
passed. -/
theorem requestTimes_spaced_halfHourly :
    (Scrape.clockReads [⟨0, 1, some 50⟩, ⟨900, 900, some 60⟩, ⟨1900, 1902, none⟩]).Chain' (· ≤ ·) ∧
    (∀ s ∈ [(⟨0, 1, some 50⟩ : Scrape), ⟨900, 900, some 60⟩, ⟨1900, 1902, none⟩],
      getCurrentEmissionFactorFrance 475 (newEmissionsCollector "FRA" ∅ 0) s.rte ≠ -1) ∧
    (requestTimes 475 (newEmissionsCollector "FRA" ∅ 0)
      [⟨0, 1, some 50⟩, ⟨900, 900, some 60⟩, ⟨1900, 1902, none⟩]).Chain' (fun a b => a + 1800 < b) :=
  have hclock : (Scrape.clockReads
      [⟨0, 1, some 50⟩, ⟨900, 900, some 60⟩, ⟨1900, 1902, none⟩]).Chain' (· ≤ ·) := by
    simp [Scrape.clockReads]
  ⟨hclock, by decide, requestTimes_spaced 475 _ _ hclock (by decide)⟩

theorem mem_requestTimes {c : EmissionsCollector} {ss : List Scrape} {t : Int}
    (h : t ∈ requestTimes globalEmissionFactor c ss) : ∃ s ∈ ss, t = s.now := by
  induction ss generalizing c with
  | nil => cases h
  | cons s ss ih =>
    rw [requestTimes, List.mem_append] at h
    rcases h with h | h
    · split at h
      · exact ⟨s, .head _, List.mem_singleton.mp h⟩
      · cases h
    · obtain ⟨s', hs', rfl⟩ := ih h
      exact ⟨s', .tail _ hs', rfl⟩

/-- Times more than 1800 s apart below a bound climb 1801 s each. -/
theorem chain_spaced_le : ∀ {a : Int} {l : List Int}, l.Chain (fun a b => a + 1800 < b) a →
    ∀ hi, (∀ x ∈ a :: l, x ≤ hi) → a + 1801 * l.length ≤ hi
  | a, [], _, hi, h => by simpa using h a (.head _)
  | a, b :: l, hc, hi, h => by
    obtain ⟨hab, hc⟩ := List.chain_cons.mp hc
    have := chain_spaced_le hc hi fun x hx => h x (.tail _ hx)
    rw [List.length_cons]
    omega

/-- **At most one request per half hour.** Along a run whose clock never goes
back and whose scrapes all check within a window of `T` seconds, RTE is asked
at most `T / 1801 + 1` times, as long as no factor computed from an answer is
the sentinel `-1`. -/
theorem requestTimes_length_le (c : EmissionsCollector) (ss : List Scrape)
    (hclock : (Scrape.clockReads ss).Chain' (· ≤ ·))
    (hfactor : ∀ s ∈ ss, getCurrentEmissionFactorFrance globalEmissionFactor c s.rte ≠ -1)
    {t₀ : Int} {T : Nat} (hwin : ∀ s ∈ ss, t₀ ≤ s.now ∧ s.now ≤ t₀ + T) :
    (requestTimes globalEmissionFactor c ss).length ≤ T / 1801 + 1 := by
  have hchain := requestTimes_chain globalEmissionFactor c ss hclock hfactor
  have hin : ∀ t ∈ requestTimes globalEmissionFactor c ss, t₀ ≤ t ∧ t ≤ t₀ + T := fun t ht => by
    obtain ⟨s, hs, rfl⟩ := mem_requestTimes globalEmissionFactor ht
    exact hwin s hs
  rcases hr : requestTimes globalEmissionFactor c ss with _ | ⟨a, l⟩
  · simp
  · rw [hr] at hchain hin
    have hlast := chain_spaced_le hchain (t₀ + T) fun x hx => (hin x hx).2
    have ha := (hin a (.head _)).1
    simp only [List.length_cons]
    omega

/-- Four scrapes in an hour, each asking RTE when its cache has aged: two
requests, within the bound of three. -/
theorem requestTimes_length_le_hour :
    (Scrape.clockReads [⟨0, 1, some 50⟩, ⟨900, 900, some 60⟩, ⟨1900, 1902, none⟩,
      ⟨3600, 3600, some 40⟩]).Chain' (· ≤ ·) ∧
    (∀ s ∈ [(⟨0, 1, some 50⟩ : Scrape), ⟨900, 900, some 60⟩, ⟨1900, 1902, none⟩, ⟨3600, 3600, some 40⟩],
      getCurrentEmissionFactorFrance 475 (newEmissionsCollector "FRA" ∅ 0) s.rte ≠ -1) ∧
    (∀ s ∈ [(⟨0, 1, some 50⟩ : Scrape), ⟨900, 900, some 60⟩, ⟨1900, 1902, none⟩, ⟨3600, 3600, some 40⟩],
      (0 : Int) ≤ s.now ∧ s.now ≤ 0 + (3600 : Nat)) ∧
    (requestTimes 475 (newEmissionsCollector "FRA" ∅ 0)
      [⟨0, 1, some 50⟩, ⟨900, 900, some 60⟩, ⟨1900, 1902, none⟩, ⟨3600, 3600, some 40⟩]).length ≤
      3600 / 1801 + 1 :=
  have hclock : (Scrape.clockReads [⟨0, 1, some 50⟩, ⟨900, 900, some 60⟩, ⟨1900, 1902, none⟩,
      ⟨3600, 3600, some 40⟩]).Chain' (· ≤ ·) := by
    simp [Scrape.clockReads]
  have hwin : ∀ s ∈ [(⟨0, 1, some 50⟩ : Scrape), ⟨900, 900, some 60⟩, ⟨1900, 1902, none⟩,
      ⟨3600, 3600, some 40⟩], (0 : Int) ≤ s.now ∧ s.now ≤ 0 + (3600 : Nat) := by decide
  ⟨hclock, by decide, hwin, requestTimes_length_le 475 _ _ hclock (by decide) hwin⟩

/-- With the sentinel as every answer, the cache never holds: a France
collector with nothing cached requests RTE at every scrape. -/
theorem requestTimes_of_sentinel {c : EmissionsCollector} (hfra : c.countryCode = "FRA")
    (hempty : c.prevEmissionFactor = -1) (ss : List Scrape)
    (hfactor : ∀ s ∈ ss, getCurrentEmissionFactorFrance globalEmissionFactor c s.rte = -1) :
    requestTimes globalEmissionFactor c ss = ss.map Scrape.now := by
  induction ss generalizing c with
  | nil => rfl
  | cons s ss ih =>
    rcases getCurrentEmissionFactor_cases globalEmissionFactor c s with
      ⟨hc, -⟩ | ⟨-, -, hc, -⟩ | ⟨-, -, hk⟩
    · exact absurd hfra hc
    · exact absurd hempty hc
    · simp only [requestTimes, hk, if_true, List.singleton_append, List.map_cons]
      exact congrArg _ (ih hfra (hfactor s (.head _)) fun s' hs' => hfactor s' (.tail _ hs'))

/-- RTE answering `-1` twice within a minute is asked twice. -/
theorem requestTimes_of_sentinel_twice :
    (newEmissionsCollector "FRA" ∅ 0).countryCode = "FRA" ∧
    (newEmissionsCollector "FRA" ∅ 0).prevEmissionFactor = -1 ∧
    (∀ s ∈ [(⟨0, 1, some (-1)⟩ : Scrape), ⟨60, 61, some (-1)⟩],
      getCurrentEmissionFactorFrance 475 (newEmissionsCollector "FRA" ∅ 0) s.rte = -1) ∧
    requestTimes 475 (newEmissionsCollector "FRA" ∅ 0) [⟨0, 1, some (-1)⟩, ⟨60, 61, some (-1)⟩] =
      [0, 60] :=
  ⟨rfl, rfl, by decide, requestTimes_of_sentinel 475 rfl rfl _ (by decide)⟩

/-! ### Freshness -/

theorem getCurrentEmissionFactorFrance_congr {c c' : EmissionsCollector}
    (h : c'.energyData = c.energyData) (rte : Option ℚ) :
    getCurrentEmissionFactorFrance globalEmissionFactor c' rte =
      getCurrentEmissionFactorFrance globalEmissionFactor c rte := by
  simp only [getCurrentEmissionFactorFrance, h]

/-- **The cache after a run.** A run keeps the country and the table, and its
cache either is the one it started from or holds the read time and the factor
of a request made at one of its scrapes. -/
theorem after_cache (c : EmissionsCollector) (pre : List Scrape) :
    (after globalEmissionFactor c pre).countryCode = c.countryCode ∧
    (after globalEmissionFactor c pre).energyData = c.energyData ∧
    ((after globalEmissionFactor c pre).prevReadTime = c.prevReadTime ∧
        (after globalEmissionFactor c pre).prevEmissionFactor = c.prevEmissionFactor ∨
      ∃ s ∈ pre, (after globalEmissionFactor c pre).prevReadTime = s.readTime ∧
        (after globalEmissionFactor c pre).prevEmissionFactor =
          getCurrentEmissionFactorFrance globalEmissionFactor c s.rte) := by
  induction pre generalizing c with
  | nil => exact ⟨rfl, rfl, .inl ⟨rfl, rfl⟩⟩
  | cons s pre ih =>
    obtain ⟨hcountry, hdata, hcache⟩ := ih (getCurrentEmissionFactor globalEmissionFactor c s).next
    obtain ⟨hcountry₁, hdata₁⟩ := next_config globalEmissionFactor c s
    simp only [after_cons]
    refine ⟨hcountry.trans hcountry₁, hdata.trans hdata₁, ?_⟩
    rcases hcache with ⟨htime, hfactor⟩ | ⟨s', hs', htime, hfactor⟩
    · rcases getCurrentEmissionFactor_cases globalEmissionFactor c s with
        ⟨-, hk⟩ | ⟨-, -, -, hk⟩ | ⟨-, -, hk⟩ <;> rw [hk] at htime hfactor ⊢
      · exact .inl ⟨htime, hfactor⟩
      · exact .inl ⟨htime, hfactor⟩
      · exact .inr ⟨s, .head _, htime, hfactor⟩
    · exact .inr ⟨s', .tail _ hs', htime,
        hfactor.trans (getCurrentEmissionFactorFrance_congr globalEmissionFactor hdata₁ _)⟩

/-- **Freshness.** After any run of a freshly built France collector, the
factor a scrape is served was computed from RTE's answer (or the fallback) at a
scrape of the run, this one or an earlier one, read at most 1800 s before the
scrape's check: the constructor's sentinel is never served, and neither is a
factor older than 30 minutes by the collector's clock. -/
theorem served_fresh (energyData : GoMap ℚ) (t₀ : Int) (pre : List Scrape) (s : Scrape)
    (hs : s.now ≤ s.readTime) :
    ∃ s' ∈ pre ++ [s],
      (getCurrentEmissionFactor globalEmissionFactor
          (after globalEmissionFactor (newEmissionsCollector "FRA" energyData t₀) pre) s).factor =
        getCurrentEmissionFactorFrance globalEmissionFactor
          (newEmissionsCollector "FRA" energyData t₀) s'.rte ∧
      s.now - s'.readTime ≤ 1800 := by
  obtain ⟨hcountry, hdata, hcache⟩ :=
    after_cache globalEmissionFactor (newEmissionsCollector "FRA" energyData t₀) pre
  rcases getCurrentEmissionFactor_cases globalEmissionFactor
      (after globalEmissionFactor (newEmissionsCollector "FRA" energyData t₀) pre) s with
    ⟨hc, -⟩ | ⟨-, hage, hheld, hk⟩ | ⟨-, -, hk⟩
  · exact absurd hcountry hc
  · rw [hk]
    rcases hcache with ⟨-, hempty⟩ | ⟨s', hs', htime, hfactor⟩
    · exact absurd hempty hheld
    · exact ⟨s', List.mem_append_left _ hs', hfactor, htime ▸ hage⟩
  · rw [hk]
    exact ⟨s, List.mem_append_right _ (.head _),
      getCurrentEmissionFactorFrance_congr globalEmissionFactor hdata _, by omega⟩

/-- A scrape 900 s after the first is served the first scrape's factor. -/
theorem served_fresh_hit :
    (900 : Int) ≤ 900 ∧
    ∃ s' ∈ [(⟨0, 1, some 50⟩ : Scrape)] ++ [⟨900, 900, some 60⟩],
      (getCurrentEmissionFactor 475
          (after 475 (newEmissionsCollector "FRA" ∅ 0) [⟨0, 1, some 50⟩]) ⟨900, 900, some 60⟩).factor =
        getCurrentEmissionFactorFrance 475 (newEmissionsCollector "FRA" ∅ 0) s'.rte ∧
      900 - s'.readTime ≤ 1800 :=
  ⟨le_rfl, served_fresh 475 ∅ 0 [⟨0, 1, some 50⟩] ⟨900, 900, some 60⟩ le_rfl⟩

end Lookups

end Ceems
