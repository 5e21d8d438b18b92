import Ceems.Serverpool.ResourceBased

/-!
# What the retention router chooses

The contract of `ResourceBased.target`, stated over a pool built by any
sequence of `add` calls (`build`), whose backends for a cluster are the ones
registered for it in registration order (`registered`, `lookup_build`).

A backend is *eligible* for a query reaching `d` into the past when it is
alive and its retention period is strictly longer than `d`. `TargetSpec`
says what a chosen backend must be: registered and eligible, of the least
retention among the eligible backends, of the least connection count among
the eligible backends of that retention, and the earliest registered among
those of that retention and count. `target_spec` proves that every answer of
`target` meets it, and that `target` answers `none` when no backend of the
cluster is eligible.

The proof follows the two loops of `target`:

* `foldl_eligibleStep` — the eligibility loop computes the filter of the
  registered backends by eligibility, and the slice of their retentions;
* `foldl_leastConnStep` — the invariant of the least-connections loop: either
  it has kept its initial state, with every candidate at or above the
  sentinel, or it holds the first candidate of least connection count, which
  is strictly below the sentinel;
* `TargetSpec.of_filter_eq` — a backend at a position of the eligible slice
  that beats every earlier candidate meets the contract.

The sentinel is what `target_none_of_maxInt32_connections` is about: with two
eligible backends that both report `math.MaxInt32` connections, the
least-connections loop keeps neither, and `target` answers `none` although a
backend is eligible. `target_eq_none_iff` says that this is the only way a
query some backend could serve is refused.

`target_add_ineligible` is the frame property of registration: from any pool,
adding a backend that is down or whose retention is too short for `d` changes
no answer of `target` for `d`. `target_perm` says that the order of the `add`
calls only breaks ties: pools filled with the same backends in any two orders
route alike unless two eligible backends tie in retention and connections.
-/

namespace Ceems
namespace Serverpool

open ResourceBased

/-- A backend can answer a query reaching `d` into the past: it is alive and
its retention period is strictly longer than `d`. -/
def eligible (d : Int) (b : Backend) : Bool :=
  b.isAlive && decide (d < b.retentionPeriod)

/-- The pool after the `add` calls `ops`, each a cluster id and a backend, made
in order on the empty pool. -/
def build (ops : List (String × Backend)) : ResourceBased :=
  ops.foldl (fun s op => s.add op.1 op.2) empty

/-- The backends registered for cluster `id` by the calls `ops`, in
registration order. -/
def registered (ops : List (String × Backend)) (id : String) : List Backend :=
  (ops.filter (·.1 = id)).map (·.2)

/-- **The retention router's contract** for a backend `b` chosen among the
backends `bs` of a cluster, listed in registration order. -/
structure TargetSpec (bs : List Backend) (d : Int) (b : Backend) : Prop where
  mem : b ∈ bs
  isEligible : eligible d b = true
  retention_min : ∀ c ∈ bs, eligible d c = true → b.retentionPeriod ≤ c.retentionPeriod
  connections_min : ∀ c ∈ bs, eligible d c = true →
    c.retentionPeriod = b.retentionPeriod → b.activeConnections ≤ c.activeConnections
  earliest : ∃ pre post, bs = pre ++ b :: post ∧ ∀ c ∈ pre,
    eligible d c = true → c.retentionPeriod = b.retentionPeriod →
      c.activeConnections ≠ b.activeConnections

/-! ### The pool built by `add` -/

theorem registered_append_singleton (ops : List (String × Backend)) (op : String × Backend)
    (id : String) :
    registered (ops ++ [op]) id = registered ops id ++ if op.1 = id then [op.2] else [] := by
  by_cases h : op.1 = id <;> simp [registered, h]

theorem lookup_build (ops : List (String × Backend)) (id : String) :
    (build ops).backends.lookup id =
      if registered ops id = [] then none else some (registered ops id) := by
  induction ops using List.reverseRecOn with
  | nil => rfl
  | append_singleton ops op ih =>
    rw [build, List.foldl_append, ← build, registered_append_singleton]
    simp only [List.foldl_cons, List.foldl_nil, add, GoMap.append]
    by_cases h : op.1 = id
    · subst h
      have hget : (build ops).backends.getD op.1 [] = registered ops op.1 := by
        rw [GoMap.getD, ih]; split <;> simp_all
      simp [AList.lookup_insert, hget]
    · simp [AList.lookup_insert_ne (Ne.symm h), ih, h]

/-! ### The eligibility loop -/

theorem foldl_eligibleStep (d : Int) (bs : List Backend) (acc : List Backend × List Int) :
    bs.foldl (eligibleStep d) acc =
      (acc.1 ++ bs.filter (eligible d),
        acc.2 ++ (bs.filter (eligible d)).map Backend.retentionPeriod) := by
  induction bs generalizing acc with
  | nil => simp
  | cons b bs ih =>
    rw [List.foldl_cons, ih]
    by_cases ha : b.isAlive <;> by_cases hd : d < b.retentionPeriod <;>
      simp [eligibleStep, eligible, List.filter_cons, ha, hd]

theorem eligibleStep_of_ineligible {d : Int} {b : Backend} (hb : eligible d b = false)
    (acc : List Backend × List Int) : eligibleStep d acc b = acc := by
  by_cases ha : b.isAlive <;> simp_all [eligibleStep, eligible]

theorem foldl_min_le {a r : Int} {rs : List Int} (h : r ∈ a :: rs) : rs.foldl min a ≤ r := by
  induction rs generalizing a r with
  | nil => simp_all
  | cons x xs ih =>
    rw [List.foldl_cons]
    rcases List.mem_cons.mp h with rfl | h
    · exact (ih (List.mem_cons_self _ _)).trans (min_le_left _ _)
    · rcases List.mem_cons.mp h with rfl | h
      · exact (ih (List.mem_cons_self _ _)).trans (min_le_right _ _)
      · exact ih (List.mem_cons_of_mem _ h)

theorem slicesMin_le {r : Int} {rs : List Int} (h : r ∈ rs) : slicesMin rs ≤ r := by
  cases rs with
  | nil => simp at h
  | cons a rs => exact foldl_min_le h

theorem foldl_min_mem (a : Int) (rs : List Int) : rs.foldl min a ∈ a :: rs := by
  induction rs generalizing a with
  | nil => exact List.mem_singleton_self a
  | cons x xs ih =>
    rw [List.foldl_cons]
    rcases List.mem_cons.mp (ih (min a x)) with h | h
    · rw [h, Int.min_def]
      split <;> simp
    · exact .tail _ (.tail _ h)

theorem slicesMin_mem {rs : List Int} (h : rs ≠ []) : slicesMin rs ∈ rs := by
  cases rs with
  | nil => exact absurd rfl h
  | cons a rs => exact foldl_min_mem a rs

/-! ### The least-connections loop -/

/-- A candidate of the least-connections loop: alive, of retention `m`. -/
def Candidate (m : Int) (b : Backend) : Prop :=
  b.isAlive = true ∧ b.retentionPeriod = m

instance (m : Int) (b : Backend) : Decidable (Candidate m b) :=
  inferInstanceAs (Decidable (_ ∧ _))

theorem leastConnStep_self (m : Int) (t : Option Backend) (a : Int) (b : Backend) :
    leastConnStep m (t, a) (b, b.retentionPeriod) =
      if Candidate m b ∧ b.activeConnections < a then (some b, b.activeConnections)
      else (t, a) := by
  by_cases ha : b.isAlive <;> by_cases hr : b.retentionPeriod = m <;>
    by_cases hc : b.activeConnections < a <;>
    simp [leastConnStep, Candidate, ha, hr, hc]

/-- **The least-connections invariant.** Started from `(t, a)`, the loop either
keeps its state, every candidate being at or above `a`, or ends holding the
first candidate `c` of least connection count, which is strictly below `a`. -/
theorem foldl_leastConnStep (m : Int) (cs : List Backend) (t : Option Backend) (a : Int) :
    (cs.foldl (fun acc b => leastConnStep m acc (b, b.retentionPeriod)) (t, a) = (t, a) ∧
      ∀ c ∈ cs, Candidate m c → a ≤ c.activeConnections) ∨
    ∃ pre c post, cs = pre ++ c :: post ∧ Candidate m c ∧ c.activeConnections < a ∧
      cs.foldl (fun acc b => leastConnStep m acc (b, b.retentionPeriod)) (t, a) =
        (some c, c.activeConnections) ∧
      (∀ c' ∈ cs, Candidate m c' → c.activeConnections ≤ c'.activeConnections) ∧
      ∀ c' ∈ pre, Candidate m c' → c.activeConnections < c'.activeConnections := by
  induction cs generalizing t a with
  | nil => exact .inl ⟨rfl, by simp⟩
  | cons x xs ih =>
    simp only [List.foldl_cons, leastConnStep_self, List.forall_mem_cons]
    split_ifs with hx
    · -- `x` is kept, and stays unless a later candidate beats it
      rcases ih (some x) x.activeConnections with ⟨hr, hall⟩ |
        ⟨pre, c, post, rfl, hc, hlt, hr, hmin, hpre⟩
      · exact .inr ⟨[], x, xs, rfl, hx.1, hx.2, hr, ⟨fun _ => le_rfl, hall⟩, by simp⟩
      · refine .inr ⟨x :: pre, c, post, rfl, hc, hlt.trans hx.2, hr,
          ⟨fun _ => hlt.le, hmin⟩, ?_⟩
        simpa [List.forall_mem_cons] using ⟨fun _ => hlt, hpre⟩
    · -- `x` is skipped: it is no candidate, or no better than the state
      have hxa : Candidate m x → a ≤ x.activeConnections := fun h => not_lt.mp (hx ⟨h, ·⟩)
      rcases ih t a with ⟨hr, hall⟩ | ⟨pre, c, post, rfl, hc, hlt, hr, hmin, hpre⟩
      · exact .inl ⟨hr, hxa, hall⟩
      · refine .inr ⟨x :: pre, c, post, rfl, hc, hlt, hr,
          ⟨fun h => (hlt.trans_le (hxa h)).le, hmin⟩, ?_⟩
        simpa [List.forall_mem_cons] using ⟨fun h => hlt.trans_le (hxa h), hpre⟩

/-! ### The contract -/

/-- A backend of the eligible slice `pre ++ b :: post` that is of least
retention, of least connections in its retention, and beats every earlier
backend of its retention, meets the contract. -/
theorem TargetSpec.of_filter_eq {bs pre post : List Backend} {d : Int} {b : Backend}
    (h : bs.filter (eligible d) = pre ++ b :: post)
    (hret : ∀ c ∈ bs, eligible d c = true → b.retentionPeriod ≤ c.retentionPeriod)
    (hconn : ∀ c ∈ bs, eligible d c = true → c.retentionPeriod = b.retentionPeriod →
      b.activeConnections ≤ c.activeConnections)
    (hpre : ∀ c ∈ pre, c.retentionPeriod = b.retentionPeriod →
      c.activeConnections ≠ b.activeConnections) :
    TargetSpec bs d b := by
  have hb : b ∈ bs.filter (eligible d) := h ▸ List.mem_append_right _ (List.mem_cons_self _ _)
  obtain ⟨l₁, l₂, rfl, hl₁, hl₂⟩ := List.filter_eq_append_iff.mp h
  obtain ⟨l₃, l₄, rfl, hl₃, -, -⟩ := List.filter_eq_cons_iff.mp hl₂
  refine ⟨(List.mem_filter.mp hb).1, (List.mem_filter.mp hb).2, hret, hconn,
    l₁ ++ l₃, l₄, by simp, fun c hc hec => ?_⟩
  rcases List.mem_append.mp hc with hc | hc
  · exact hpre c (hl₁ ▸ List.mem_filter.mpr ⟨hc, hec⟩)
  · exact absurd hec (hl₃ c hc)

theorem zip_map_self {α β : Type} (f : α → β) (l : List α) :
    l.zip (l.map f) = l.map fun a => (a, f a) := by
  simpa using List.zip_map' id f l

theorem target_spec_of_lookup {s : ResourceBased} {id : String} {bs : List Backend}
    (h : s.backends.lookup id = some bs) (d : Int) {b : Backend}
    (hb : s.target id d = some b) : TargetSpec bs d b := by
  simp only [target, h, foldl_eligibleStep, List.nil_append] at hb
  split at hb
  · cases hb
  · -- the one eligible backend
    rename_i h₁
    cases hb
    have hone : ∀ c ∈ bs, eligible d c = true → c = b := fun c hc hec => by
      simpa [h₁] using List.mem_filter.mpr ⟨hc, hec⟩
    exact TargetSpec.of_filter_eq (show bs.filter (eligible d) = [] ++ b :: [] from h₁)
      (fun c hc hec => (hone c hc hec) ▸ le_rfl)
      (fun c hc hec _ => (hone c hc hec) ▸ le_rfl) (by simp)
  · -- the least-connections loop over at least two eligible backends
    rw [zip_map_self, List.foldl_map] at hb
    set tb := bs.filter (eligible d)
    set m := slicesMin (tb.map Backend.retentionPeriod)
    rcases foldl_leastConnStep m tb none maxInt32 with ⟨hr, -⟩ |
      ⟨pre, c, post, hsplit, ⟨-, hcm⟩, -, hr, hmin, hpre⟩
    · simp [hr] at hb
    · rw [hr] at hb
      cases hb
      have hmem : ∀ c' ∈ bs, eligible d c' = true → c' ∈ tb := fun c' hc' hec =>
        List.mem_filter.mpr ⟨hc', hec⟩
      have halive : ∀ c', eligible d c' = true → c'.isAlive = true := fun c' hec => by
        simp only [eligible, Bool.and_eq_true] at hec; exact hec.1
      refine TargetSpec.of_filter_eq hsplit
        (fun c' hc' hec => hcm ▸ slicesMin_le (List.mem_map_of_mem _ (hmem c' hc' hec)))
        (fun c' hc' hec hr' => hmin c' (hmem c' hc' hec) ⟨halive c' hec, hr'.trans hcm⟩)
        (fun c' hc' hr' => ?_)
      have hec : eligible d c' = true :=
        (List.mem_filter.mp (hsplit ▸ List.mem_append_left _ hc' : c' ∈ tb)).2
      exact (hpre c' hc' ⟨halive c' hec, hr'.trans hcm⟩).ne'

/-- **Retention routing.** Over every pool built by `add` calls, for every
cluster id and every query reach `d`: `target` finds nothing when the cluster
was never registered or none of its backends is eligible, and every backend it
answers meets `TargetSpec`. -/
theorem target_spec (ops : List (String × Backend)) (id : String) (d : Int) :
    ((registered ops id = [] ∨ ∀ b ∈ registered ops id, eligible d b = false) →
      (build ops).target id d = none) ∧
    ∀ b, (build ops).target id d = some b → TargetSpec (registered ops id) d b := by
  by_cases hreg : registered ops id = []
  · have h : (build ops).backends.lookup id = none := by simp [lookup_build, hreg]
    exact ⟨fun _ => by simp [target, h], fun b hb => by simp [target, h] at hb⟩
  · have h : (build ops).backends.lookup id = some (registered ops id) := by
      simp [lookup_build, hreg]
    refine ⟨fun hno => ?_, fun b hb => target_spec_of_lookup h d hb⟩
    have hnil : (registered ops id).filter (eligible d) = [] :=
      List.filter_eq_nil_iff.mpr fun b hb => by simp [hno.resolve_left hreg b hb]
    simp only [target, h, foldl_eligibleStep, List.nil_append, hnil]

/-- The cold-tier fallback: of an alive backend of a six-hour retention and
an alive one of thirty days, a query reaching twelve hours back goes to the
thirty-day one, which meets the contract; once that backend is down, no
backend is eligible and the query finds none. -/
theorem target_spec_cold_tier :
    (build [("c", ⟨"http://tsdb-hot", true, 21600000000000, 0⟩),
        ("c", ⟨"http://tsdb-cold", true, 2592000000000000, 0⟩)]).target "c" 43200000000000 =
      some ⟨"http://tsdb-cold", true, 2592000000000000, 0⟩ ∧
    TargetSpec (registered [("c", ⟨"http://tsdb-hot", true, 21600000000000, 0⟩),
        ("c", ⟨"http://tsdb-cold", true, 2592000000000000, 0⟩)] "c") 43200000000000
      ⟨"http://tsdb-cold", true, 2592000000000000, 0⟩ ∧
    (build [("c", ⟨"http://tsdb-hot", true, 21600000000000, 0⟩),
        ("c", ⟨"http://tsdb-cold", false, 2592000000000000, 0⟩)]).target "c" 43200000000000 = none :=
  have hcold : (build [("c", ⟨"http://tsdb-hot", true, 21600000000000, 0⟩),
      ("c", ⟨"http://tsdb-cold", true, 2592000000000000, 0⟩)]).target "c" 43200000000000 =
        some ⟨"http://tsdb-cold", true, 2592000000000000, 0⟩ := by decide
  ⟨hcold, (target_spec _ "c" _).2 _ hcold, (target_spec _ "c" _).1 (.inr (by decide))⟩

/-- An eligible backend is a candidate of the least-connections loop exactly
when no eligible backend has a shorter retention. -/
theorem candidate_iff_least {bs : List Backend} {d : Int} {c : Backend} (hc : c ∈ bs)
    (hec : eligible d c = true) :
    Candidate (slicesMin ((bs.filter (eligible d)).map Backend.retentionPeriod)) c ↔
      ∀ c' ∈ bs, eligible d c' = true → c.retentionPeriod ≤ c'.retentionPeriod := by
  have hmem : ∀ c', c' ∈ bs.filter (eligible d) ↔ c' ∈ bs ∧ eligible d c' = true :=
    fun _ => List.mem_filter
  have halive : c.isAlive = true := by simp only [eligible, Bool.and_eq_true] at hec; exact hec.1
  have hcf := (hmem c).mpr ⟨hc, hec⟩
  obtain ⟨c₀, hc₀, hm⟩ := List.mem_map.mp (slicesMin_mem (List.ne_nil_of_mem
    (List.mem_map_of_mem Backend.retentionPeriod hcf)))
  refine ⟨fun ⟨_, hr⟩ c' hc' hec' => hr ▸ slicesMin_le
    (List.mem_map_of_mem _ ((hmem c').mpr ⟨hc', hec'⟩)), fun hle => ⟨halive, ?_⟩⟩
  have h₁ := hle c₀ ((hmem c₀).mp hc₀).1 ((hmem c₀).mp hc₀).2
  have h₂ := slicesMin_le (List.mem_map_of_mem Backend.retentionPeriod hcf)
  omega

/-- `target` answers `none` on a cluster with backends `bs` exactly when none
of them is eligible, or when at least two are and every eligible one of least
retention reports at least `math.MaxInt32` connections. -/
theorem target_eq_none_iff_of_lookup {s : ResourceBased} {id : String} {bs : List Backend}
    (h : s.backends.lookup id = some bs) (d : Int) :
    s.target id d = none ↔
      (∀ b ∈ bs, eligible d b = false) ∨
      (1 < (bs.filter (eligible d)).length ∧
        ∀ b ∈ bs, eligible d b = true →
          (∀ c ∈ bs, eligible d c = true → b.retentionPeriod ≤ c.retentionPeriod) →
          maxInt32 ≤ b.activeConnections) := by
  have hnone : (∀ b ∈ bs, eligible d b = false) ↔ bs.filter (eligible d) = [] := by
    simp [List.filter_eq_nil_iff]
  simp only [target, h, foldl_eligibleStep, List.nil_append, hnone]
  match htb : bs.filter (eligible d) with
  | [] => simp
  | [b] => simp
  | b₁ :: b₂ :: rest =>
    rw [zip_map_self, List.foldl_map]
    have hmem : ∀ c, c ∈ b₁ :: b₂ :: rest ↔ c ∈ bs ∧ eligible d c = true := fun c => by
      rw [← htb, List.mem_filter]
    have hcand := fun c (hc : c ∈ bs) hec => htb ▸ candidate_iff_least hc hec
    simp only [List.cons_ne_nil, false_or, List.length_cons, Nat.one_lt_succ_succ, true_and]
    rcases foldl_leastConnStep _ _ none maxInt32 with ⟨hr, hall⟩ |
      ⟨pre, c, post, hsplit, hc, hlt, hr, -, -⟩
    · rw [hr]
      exact iff_of_true rfl fun b hb heb hleast =>
        hall b ((hmem b).mpr ⟨hb, heb⟩) ((hcand b hb heb).mpr hleast)
    · rw [hr]
      have hct : c ∈ b₁ :: b₂ :: rest := hsplit ▸ List.mem_append_right _ (List.mem_cons_self _ _)
      refine iff_of_false (by simp) fun hall => ?_
      obtain ⟨hcb, hec⟩ := (hmem c).mp hct
      exact absurd (hall c hcb hec ((hcand c hcb hec).mp hc)) (not_le.mpr hlt)

/-- **When the router refuses.** Over every pool built by `add` calls,
`target` answers `none` exactly when no registered backend is eligible, or when
at least two are and every eligible backend of least retention reports at least
`math.MaxInt32` active connections. -/
theorem target_eq_none_iff (ops : List (String × Backend)) (id : String) (d : Int) :
    (build ops).target id d = none ↔
      (∀ b ∈ registered ops id, eligible d b = false) ∨
      (1 < ((registered ops id).filter (eligible d)).length ∧
        ∀ b ∈ registered ops id, eligible d b = true →
          (∀ c ∈ registered ops id, eligible d c = true → b.retentionPeriod ≤ c.retentionPeriod) →
          maxInt32 ≤ b.activeConnections) := by
  by_cases hreg : registered ops id = []
  · have h : (build ops).backends.lookup id = none := by simp [lookup_build, hreg]
    simp [target, h, hreg]
  · exact target_eq_none_iff_of_lookup (by simp [lookup_build, hreg]) d

/-! ### Registration order -/

/-- **Registration order only breaks ties.** Two pools built from the same
`add` calls made in two orders route every query alike, unless two different
eligible backends of the cluster tie in both retention and connection count.
The order a pool is filled in, such as a Go map's iteration order, does not
otherwise matter. -/
theorem target_perm {ops ops' : List (String × Backend)} (hp : ops.Perm ops') (id : String) (d : Int)
    (hties : ∀ b ∈ registered ops id, ∀ c ∈ registered ops id, eligible d b = true →
      eligible d c = true → b.retentionPeriod = c.retentionPeriod →
      b.activeConnections = c.activeConnections → b = c) :
    (build ops).target id d = (build ops').target id d := by
  have hreg : (registered ops id).Perm (registered ops' id) := (hp.filter _).map _
  by_cases hnil : registered ops id = []
  · have hnil' : registered ops' id = [] := (hnil ▸ hreg).symm.eq_nil
    simp [target, lookup_build, hnil, hnil']
  have hl : (build ops).backends.lookup id = some (registered ops id) := by simp [lookup_build, hnil]
  have hnil' : registered ops' id ≠ [] := fun h => hnil (by rw [h] at hreg; exact hreg.eq_nil)
  have hl' : (build ops').backends.lookup id = some (registered ops' id) := by
    simp [lookup_build, hnil']
  have hnone : (build ops).target id d = none ↔ (build ops').target id d = none := by
    rw [target_eq_none_iff_of_lookup hl, target_eq_none_iff_of_lookup hl',
      (hreg.filter (eligible d)).length_eq]
    simp only [hreg.mem_iff]
  rcases h₁ : (build ops).target id d with _ | b
  · exact (hnone.mp h₁).symm
  rcases h₂ : (build ops').target id d with _ | b'
  · exact absurd (h₁.symm.trans (hnone.mpr h₂)) (Option.some_ne_none b)
  -- both answers meet the contract over the same backends, so they tie
  have hs := target_spec_of_lookup hl d h₁
  have hs' := target_spec_of_lookup hl' d h₂
  have hb := hreg.mem_iff.mp hs.mem
  have hb' := hreg.mem_iff.mpr hs'.mem
  have hr : b.retentionPeriod = b'.retentionPeriod :=
    le_antisymm (hs.retention_min b' hb' hs'.isEligible) (hs'.retention_min b hb hs.isEligible)
  have hc : b.activeConnections = b'.activeConnections :=
    le_antisymm (hs.connections_min b' hb' hs'.isEligible hr.symm)
      (hs'.connections_min b hb hs.isEligible hr)
  exact congrArg some (hties b hs.mem b' hb' hs.isEligible hs'.isEligible hr hc)

/-- Two backends of distinct retentions, registered in either order: the
query reaching one day back goes to the same one. -/
theorem target_perm_swap :
    ([("c", ⟨"http://tsdb-1", true, 2592000000000000, 7⟩),
        ("c", ⟨"http://tsdb-2", true, 604800000000000, 2⟩)] : List (String × Backend)).Perm
      [("c", ⟨"http://tsdb-2", true, 604800000000000, 2⟩),
        ("c", ⟨"http://tsdb-1", true, 2592000000000000, 7⟩)] ∧
    (build [("c", ⟨"http://tsdb-1", true, 2592000000000000, 7⟩),
        ("c", ⟨"http://tsdb-2", true, 604800000000000, 2⟩)]).target "c" 86400000000000 =
      (build [("c", ⟨"http://tsdb-2", true, 604800000000000, 2⟩),
        ("c", ⟨"http://tsdb-1", true, 2592000000000000, 7⟩)]).target "c" 86400000000000 :=
  ⟨by decide, target_perm (by decide) "c" 86400000000000 (by decide)⟩

/-! ### Registering a backend that cannot serve -/

/-- **Registering a backend that cannot serve a query leaves its routing
unchanged.** From any pool, an `add` of a backend that is down, or whose
retention does not reach `d` into the past, to any cluster changes no answer
of `target` for that `d`: the eligibility loop skips the new backend, so both
loops see the same slices. -/
theorem target_add_ineligible (s : ResourceBased) (id id' : String) {d : Int} {b : Backend}
    (hb : eligible d b = false) : (s.add id' b).target id d = s.target id d := by
  by_cases h : id = id'
  · subst h
    cases hl : s.backends.lookup id <;>
      simp [target, add, GoMap.append, GoMap.getD, hl, eligibleStep_of_ineligible hb]
  · simp only [target, add, GoMap.append, AList.lookup_insert_ne h]

/-- A backend that is down, registered after a live one of a 30-day
retention: the query reaching one day back is still routed to the live one. -/
theorem target_add_ineligible_down :
    eligible 86400000000000 ⟨"http://tsdb-2", false, 2592000000000000, 0⟩ = false ∧
    ((build [("c", ⟨"http://tsdb-1", true, 2592000000000000, 3⟩)]).add "c"
        ⟨"http://tsdb-2", false, 2592000000000000, 0⟩).target "c" 86400000000000 =
      (build [("c", ⟨"http://tsdb-1", true, 2592000000000000, 3⟩)]).target "c" 86400000000000 :=
  ⟨by decide, target_add_ineligible _ _ _ (by decide)⟩

/-! ### The `math.MaxInt32` sentinel -/

/-- Two alive backends of a 30-day retention, both reporting `math.MaxInt32`
active connections: both are eligible for a query reaching one day back, and
`target` answers `none`. -/
theorem target_none_of_maxInt32_connections :
    eligible 86400000000000 ⟨"http://tsdb-1", true, 2592000000000000, 2147483647⟩ = true ∧
    eligible 86400000000000 ⟨"http://tsdb-2", true, 2592000000000000, 2147483647⟩ = true ∧
    (build [("c", ⟨"http://tsdb-1", true, 2592000000000000, 2147483647⟩),
        ("c", ⟨"http://tsdb-2", true, 2592000000000000, 2147483647⟩)]).target
      "c" 86400000000000 = none := by
  decide

end Serverpool
end Ceems
