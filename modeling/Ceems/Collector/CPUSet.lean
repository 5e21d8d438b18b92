import Mathlib.Data.Finset.Sort
import Ceems.Collector.Cgroup

/-!
# Parsing a cpuset list

`cgroupCollector.parseCPUSet` expands the list a cgroup's `cpuset.cpus` (v1)
or `cpuset.cpus.effective` (v2) file holds, such as `0-3,7,9-11`, into the
decimal strings of its CPUs; the collector stores how many there are.

* `cpuLoop` — the expansion loop `for e := start; e <= end; e++`. With
  `end = math.MaxInt` it never ends, since `e++` wraps round to
  `math.MinInt`, so it runs on fuel and answers `none` when the fuel runs out;
* `parseRange` — one comma-separated range: one or two `-`-separated bounds
  read by `strconv.Atoi`. `start` and `end` are declared before the loop, so
  on three or more bounds the previous range is expanded again;
* `parseCPUSet` — the whole list, failing on the empty string;
* `parseCPUSet_tokens` — on a comma-separated list of CPUs `a` and ranges
  `a-b` with `a ≤ b`, all below `math.MaxInt`, enough fuel gives the CPUs of
  every token in order;
* `parseCPUSet_maxInt` — a list that reaches a token ending at `math.MaxInt`
  runs out of every fuel: that token's loop never ends;
* `parseCPUSet_accepts_malformed` — a comma-free list of three or more
  `-`-separated parts yields CPU `0` from the stale bounds, and a range `a-b`
  with `a > b` yields nothing, neither with an error;
* `parseCPUSet_isSome` — with `2 ^ intSize` fuel the parser answers on every
  file none of whose bounds is `math.MaxInt`;
* `listFormat` — the kernel's list format of a set of CPUs; its tokens expand
  back to the set in ascending order (`listFormat_tokens`).
-/

namespace Ceems
namespace Collector

/-- A Go `error` value, by the dynamic types the collector's calls return. -/
inductive GoError where
  /-- `errors.New(s)`, or `fmt.Errorf` with the message `s`. -/
  | errorString (s : String)
  /-- A `*strconv.NumError`. -/
  | numError (e : NumError)
  /-- The `*fs.PathError` of the file system operation `op` on `path`. -/
  | pathError (op path : String)
  deriving DecidableEq, Repr

/-! ### The expansion loop -/

/-- The loop `for e := start; e <= end; e++ { cpus = append(cpus, strconv.Itoa(e)) }`
from `e` on, for at most `fuel` more tests of its condition; `none` when the
fuel runs out. -/
def cpuLoop (intSize : Nat) : Nat → Int → Int → List String → Option (List String)
  | 0, _, _, _ => none
  | fuel + 1, e, last, cpus =>
    if e ≤ last then cpuLoop intSize fuel (wrapInt intSize (e + 1)) last (cpus ++ [itoa e])
    else some cpus

/-- **The loop expands a range.** Below `math.MaxInt`, enough fuel runs the
loop from `a` to `b`, appending the decimal strings of `a, a + 1, …, b`. -/
theorem cpuLoop_range {intSize : Nat} (hs : 0 < intSize) (a b : Nat)
    (hb : (b : Int) < maxInt intSize) (hab : a ≤ b + 1) :
    ∀ fuel (cpus : List String), b + 2 ≤ fuel + a →
      cpuLoop intSize fuel a b cpus =
        some (cpus ++ (List.range' a (b + 1 - a)).map Nat.repr) := by
  obtain ⟨k, h⟩ : ∃ k, b + 1 - a = k := ⟨_, rfl⟩
  induction k generalizing a with
  | zero =>
    intro fuel cpus hf
    obtain ⟨fuel, rfl⟩ : ∃ k, fuel = k + 1 := ⟨fuel - 1, by omega⟩
    simp [cpuLoop, h, show ¬(a : Int) ≤ b by omega]
  | succ k ih =>
    intro fuel cpus hf
    obtain ⟨fuel, rfl⟩ : ∃ k, fuel = k + 1 := ⟨fuel - 1, by omega⟩
    have hmin : minInt intSize ≤ 0 := by
      have : (0 : Int) < 2 ^ (intSize - 1) := by exact_mod_cast Nat.two_pow_pos (intSize - 1)
      simp only [minInt]; omega
    have hwrap : wrapInt intSize ((a : Int) + 1) = ((a + 1 : Nat) : Int) := by
      rw [wrapInt_of_le hs (by omega) (by omega)]; push_cast; rfl
    simp only [cpuLoop, show (a : Int) ≤ b by omega, if_true, hwrap]
    rw [ih (a + 1) (by omega) (by omega) fuel _ (by omega), h, List.range'_succ]
    simp [show b - a = k by omega]

/-! ### Ranges and the list -/

/-- What the loop over the comma-separated ranges carries from one range to
the next: `start` and `end`, declared before the loop, and the CPUs so far. -/
structure RangeState where
  start : Int
  last : Int
  cpus : List String

/-- One range `r` of the list: its bounds, then the expansion loop. -/
def parseRange (intSize fuel : Nat) (st : RangeState) (r : String) :
    Option (Except GoError RangeState) :=
  let expand (start last : Int) : Option (Except GoError RangeState) :=
    (cpuLoop intSize fuel start last st.cpus).map fun cpus => .ok ⟨start, last, cpus⟩
  match split r '-' with
  | [b] =>
    match atoi intSize b with
    | .error e => some (.error (.numError e))
    | .ok start => expand start start
  | [b₀, b₁] =>
    match atoi intSize b₀ with
    | .error e => some (.error (.numError e))
    | .ok start =>
      match atoi intSize b₁ with
      | .error e => some (.error (.numError e))
      | .ok last => expand start last
  | _ => expand st.start st.last

/-- The loop over the comma-separated ranges; the first error returns. -/
def parseRanges (intSize fuel : Nat) : RangeState → List String → Option (Except GoError (List String))
  | st, [] => some (.ok st.cpus)
  | st, r :: rs =>
    match parseRange intSize fuel st r with
    | none => none
    | some (.error e) => some (.error e)
    | some (.ok st) => parseRanges intSize fuel st rs

/-- `cgroupCollector.parseCPUSet` with `intSize`-bit ints and `fuel` for each
expansion loop; `none` when a loop outruns its fuel. -/
def parseCPUSet (intSize fuel : Nat) (cpuset : String) : Option (Except GoError (List String)) :=
  if cpuset = "" then some (.error (.errorString "empty cpuset file"))
  else parseRanges intSize fuel ⟨0, 0, []⟩ (split cpuset ',')

/-! ### Lists of CPUs and ranges -/

/-- A token of a cpuset list: the CPU `a`, or the CPUs `a` to `b`. -/
inductive CPUToken where
  | single (a : Nat)
  | range (a b : Nat)
  deriving DecidableEq, Repr

namespace CPUToken

/-- The token's first CPU. -/
def lo : CPUToken → Nat
  | single a => a
  | range a _ => a

/-- The token's last CPU. -/
def hi : CPUToken → Nat
  | single a => a
  | range _ b => b

/-- How the token is written: `a`, or `a-b`. -/
def render : CPUToken → String
  | single a => Nat.repr a
  | range a b => Nat.repr a ++ "-" ++ Nat.repr b

/-- The decimal strings of the token's CPUs, in ascending order. -/
def cpus (t : CPUToken) : List String :=
  (List.range' t.lo (t.hi + 1 - t.lo)).map Nat.repr

end CPUToken

/-- The tokens written as a comma-separated list. -/
def cpusetOf (toks : List CPUToken) : String :=
  ",".intercalate (toks.map CPUToken.render)

theorem split_repr (n : Nat) : split (Nat.repr n) '-' = [Nat.repr n] :=
  split_intercalate '-' [Nat.repr n] (by simpa using not_mem_repr (by decide : '-'.isDigit = false) n) (List.cons_ne_nil _ _)

theorem split_repr_range (a b : Nat) :
    split (Nat.repr a ++ "-" ++ Nat.repr b) '-' = [Nat.repr a, Nat.repr b] :=
  split_intercalate '-' [Nat.repr a, Nat.repr b]
    (by have hd := not_mem_repr (by decide : '-'.isDigit = false); simpa using ⟨hd a, hd b⟩) (List.cons_ne_nil _ _)

theorem render_ne_empty (t : CPUToken) : t.render ≠ "" := by
  cases t with
  | single a => exact repr_ne_empty a
  | range a b =>
    intro h
    have := congrArg String.length h
    simp [CPUToken.render] at this
    exact absurd this.1.2 (by decide)

theorem comma_not_mem_render (t : CPUToken) : ',' ∉ t.render.toList := by
  have hc := not_mem_repr (by decide : ','.isDigit = false)
  cases t with
  | single a => exact hc a
  | range a b => simpa [CPUToken.render] using ⟨hc a, hc b⟩

/-- A non-empty list of tokens splits back into its tokens at the commas. -/
theorem split_cpusetOf {toks : List CPUToken} (hne : toks ≠ []) :
    split (cpusetOf toks) ',' = toks.map CPUToken.render :=
  split_intercalate ',' _ (by simpa using fun t _ => comma_not_mem_render t) (by simpa using hne)

theorem cpusetOf_ne_empty {toks : List CPUToken} (hne : toks ≠ []) : cpusetOf toks ≠ "" := by
  intro h
  have hsplit := split_cpusetOf hne
  rw [h] at hsplit
  obtain ⟨t, rfl⟩ : ∃ t, toks = [t] := by
    rcases toks with _ | ⟨t, _ | ⟨t', ts⟩⟩ <;> simp_all [split]
  exact render_ne_empty t (by simpa [split] using hsplit.symm)

section Tokens

variable {intSize fuel : Nat}

/-- One token, with its bounds in range and enough fuel, appends its CPUs. -/
theorem parseRange_render (hs : 0 < intSize) (st : RangeState) (t : CPUToken) (hle : t.lo ≤ t.hi)
    (hmax : (t.hi : Int) < maxInt intSize) (hfuel : t.hi - t.lo + 2 ≤ fuel) :
    parseRange intSize fuel st t.render = some (.ok ⟨t.lo, t.hi, st.cpus ++ t.cpus⟩) := by
  have hcast : ((2 ^ (intSize - 1) : Nat) : Int) = 2 ^ (intSize - 1) := by norm_num
  have hlo : t.lo < 2 ^ (intSize - 1) := by simp only [maxInt] at hmax; omega
  have hhi : t.hi < 2 ^ (intSize - 1) := by simp only [maxInt] at hmax; omega
  have hloop := cpuLoop_range hs t.lo t.hi hmax (by omega) fuel st.cpus (by omega)
  cases t with
  | single a =>
    simp only [CPUToken.lo, CPUToken.hi] at hlo hloop
    simp [parseRange, CPUToken.render, split_repr, atoi_repr hlo, hloop, CPUToken.cpus,
      CPUToken.lo, CPUToken.hi]
  | range a b =>
    simp only [CPUToken.lo, CPUToken.hi] at hlo hhi hloop
    simp [parseRange, CPUToken.render, split_repr_range, atoi_repr hlo, atoi_repr hhi, hloop,
      CPUToken.cpus, CPUToken.lo, CPUToken.hi]

theorem parseRanges_render (hs : 0 < intSize) (toks : List CPUToken)
    (hle : ∀ t ∈ toks, t.lo ≤ t.hi) (hmax : ∀ t ∈ toks, (t.hi : Int) < maxInt intSize)
    (hfuel : ∀ t ∈ toks, t.hi - t.lo + 2 ≤ fuel) (st : RangeState) :
    parseRanges intSize fuel st (toks.map CPUToken.render) =
      some (.ok (st.cpus ++ toks.flatMap CPUToken.cpus)) := by
  induction toks generalizing st with
  | nil => simp [parseRanges]
  | cons t toks ih =>
    simp only [List.forall_mem_cons] at hle hmax hfuel
    simp only [List.map_cons, parseRanges, parseRange_render hs st t hle.1 hmax.1 hfuel.1,
      ih hle.2 hmax.2 hfuel.2, List.flatMap_cons, List.append_assoc]

/-- **Parsing a cpuset list.** On a non-empty comma-separated list of CPUs `a`
and ranges `a-b` with `a ≤ b`, all below `math.MaxInt`, `parseCPUSet` given
enough fuel for each range returns no error and the decimal strings of the
tokens' CPUs, token by token. -/
theorem parseCPUSet_tokens (hs : 0 < intSize) (toks : List CPUToken) (hne : toks ≠ [])
    (hle : ∀ t ∈ toks, t.lo ≤ t.hi) (hmax : ∀ t ∈ toks, (t.hi : Int) < maxInt intSize)
    (hfuel : ∀ t ∈ toks, t.hi - t.lo + 2 ≤ fuel) :
    parseCPUSet intSize fuel (cpusetOf toks) = some (.ok (toks.flatMap CPUToken.cpus)) := by
  rw [parseCPUSet, if_neg (cpusetOf_ne_empty hne), split_cpusetOf hne,
    parseRanges_render hs toks hle hmax hfuel]
  rfl

end Tokens

/-! ### Malformed lists and `math.MaxInt` -/

section Malformed

variable {intSize fuel : Nat}

/-- **The loop up to `math.MaxInt` never ends.** From any `int`, it runs out
of every fuel: `e++` wraps `math.MaxInt` round to `math.MinInt`, which is
again `≤ math.MaxInt`. -/
theorem cpuLoop_maxInt (hs : 0 < intSize) :
    ∀ fuel (e : Int) (cpus : List String), e ≤ maxInt intSize →
      cpuLoop intSize fuel e (maxInt intSize) cpus = none
  | 0, _, _, _ => rfl
  | fuel + 1, e, cpus, he => by
    rw [cpuLoop, if_pos he]
    exact cpuLoop_maxInt hs fuel _ _ (wrapInt_mem hs _).2

/-- A token whose bounds are `int`s is read without error: what it adds is
what its loop adds. -/
theorem parseRange_render_loop (st : RangeState) (t : CPUToken)
    (hlo : (t.lo : Int) ≤ maxInt intSize) (hhi : (t.hi : Int) ≤ maxInt intSize) :
    parseRange intSize fuel st t.render =
      (cpuLoop intSize fuel t.lo t.hi st.cpus).map fun cpus => .ok ⟨t.lo, t.hi, cpus⟩ := by
  have hcast : ((2 ^ (intSize - 1) : Nat) : Int) = 2 ^ (intSize - 1) := by norm_num
  have hlo' : t.lo < 2 ^ (intSize - 1) := by simp only [maxInt] at hlo; omega
  have hhi' : t.hi < 2 ^ (intSize - 1) := by simp only [maxInt] at hhi; omega
  cases t with
  | single a =>
    simp only [CPUToken.lo] at hlo'
    simp [parseRange, CPUToken.render, split_repr, atoi_repr hlo', CPUToken.lo, CPUToken.hi]
  | range a b =>
    simp only [CPUToken.lo, CPUToken.hi] at hlo' hhi'
    simp [parseRange, CPUToken.render, split_repr_range, atoi_repr hlo', atoi_repr hhi', CPUToken.lo,
      CPUToken.hi]

theorem parseRanges_maxInt (hs : 0 < intSize) (rest : List CPUToken) (t : CPUToken)
    (hlo : t.lo ≤ t.hi) (hhi : (t.hi : Int) = maxInt intSize) :
    ∀ (toks : List CPUToken) (st : RangeState),
      (∀ u ∈ toks, (u.lo : Int) ≤ maxInt intSize ∧ (u.hi : Int) ≤ maxInt intSize) →
      parseRanges intSize fuel st ((toks ++ t :: rest).map CPUToken.render) = none
  | [], st, _ => by
    rw [List.nil_append, List.map_cons, parseRanges,
      parseRange_render_loop st t (by omega) hhi.le, hhi, cpuLoop_maxInt hs _ _ _ (by omega)]
    rfl
  | u :: toks, st, hu => by
    rw [List.cons_append, List.map_cons, parseRanges,
      parseRange_render_loop st u (hu u (List.mem_cons_self _ _)).1 (hu u (List.mem_cons_self _ _)).2]
    cases cpuLoop intSize fuel u.lo u.hi st.cpus with
    | none => rfl
    | some cpus =>
      exact parseRanges_maxInt hs rest t hlo hhi toks _ fun u' h => hu u' (List.mem_cons_of_mem _ h)

/-- **A token ending at `math.MaxInt` hangs the parser.** On every list that
reaches a token `a` or `a-b` whose upper bound is `math.MaxInt`, the tokens
before it being `int`s, `parseCPUSet` runs out of every fuel: the expansion
loop of that token never ends, and the tokens before it cannot end the parse
with an error first. -/
theorem parseCPUSet_maxInt (hs : 0 < intSize) (toks rest : List CPUToken) (t : CPUToken)
    (htoks : ∀ u ∈ toks, (u.lo : Int) ≤ maxInt intSize ∧ (u.hi : Int) ≤ maxInt intSize)
    (hlo : t.lo ≤ t.hi) (hhi : (t.hi : Int) = maxInt intSize) (fuel : Nat) :
    parseCPUSet intSize fuel (cpusetOf (toks ++ t :: rest)) = none := by
  have hne : toks ++ t :: rest ≠ [] := by simp
  rw [parseCPUSet, if_neg (cpusetOf_ne_empty hne), split_cpusetOf hne]
  exact parseRanges_maxInt hs rest t hlo hhi toks _ htoks

/-- `math.MaxInt` as the whole cpuset file, on the 64-bit targets and on the
32-bit ones. -/
theorem parseCPUSet_maxInt_platforms :
    (∀ fuel, parseCPUSet 64 fuel "9223372036854775807" = none) ∧
    ∀ fuel, parseCPUSet 32 fuel "2147483647" = none :=
  ⟨parseCPUSet_maxInt (by decide) [] [] (.single 9223372036854775807) (by simp) le_rfl (by decide),
    parseCPUSet_maxInt (by decide) [] [] (.single 2147483647) (by simp) le_rfl (by decide)⟩

/-- A piece without commas is a list of one range. -/
theorem split_of_not_mem {r : String} (hr : ',' ∉ r.toList) : split r ',' = [r] :=
  split_intercalate ',' [r] (by simpa using hr) (List.cons_ne_nil _ _)

/-- **Malformed lists the parser accepts.** With Go's `int` of two bits or
more: a comma-free list of three or more `-`-separated parts matches neither
branch of the loop body, so `start` and `end` keep their initial `0` and the
list yields CPU `0`; and a range `a-b` with `a > b` yields no CPU and no
error. -/
theorem parseCPUSet_accepts_malformed (hs : 1 < intSize) :
    (∀ fuel (r : String), 2 ≤ fuel → ',' ∉ r.toList → 3 ≤ (split r '-').length →
      parseCPUSet intSize fuel r = some (.ok ["0"])) ∧
    ∀ fuel a b, 1 ≤ fuel → b < a → a < 2 ^ (intSize - 1) →
      parseCPUSet intSize fuel (Nat.repr a ++ "-" ++ Nat.repr b) = some (.ok []) := by
  refine ⟨fun fuel r hf hr h3 => ?_, fun fuel a b hf hba ha => ?_⟩
  · -- the stale bounds `0` and `0`
    have hne : r ≠ "" := by rintro rfl; exact absurd h3 (by decide)
    have hmax : ((0 : Nat) : Int) < maxInt intSize := by
      have : (1 : Int) < 2 ^ (intSize - 1) := by exact_mod_cast Nat.one_lt_two_pow (by omega)
      simp only [maxInt]; omega
    have hloop : cpuLoop intSize fuel 0 0 [] = some ["0"] :=
      (cpuLoop_range (by omega) 0 0 hmax (by omega) fuel [] (by omega)).trans rfl
    rcases hl : split r '-' with _ | ⟨b₀, _ | ⟨b₁, _ | ⟨b₂, bs⟩⟩⟩ <;>
      simp [parseCPUSet, hne, split_of_not_mem hr, parseRanges, parseRange, hl, hloop] at h3 ⊢
  · -- a loop whose condition fails at once
    obtain ⟨fuel, rfl⟩ : ∃ k, fuel = k + 1 := ⟨fuel - 1, by omega⟩
    have hr : ',' ∉ (Nat.repr a ++ "-" ++ Nat.repr b).toList := comma_not_mem_render (.range a b)
    have hne : Nat.repr a ++ "-" ++ Nat.repr b ≠ "" := render_ne_empty (.range a b)
    simp [parseCPUSet, hne, split_of_not_mem hr, parseRanges, parseRange, split_repr_range,
      atoi_repr ha, atoi_repr (show b < 2 ^ (intSize - 1) by omega), cpuLoop,
      show ¬(a : Int) ≤ b by omega]

/-- `1-2-3` and `3-1` on a 64-bit target. -/
theorem parseCPUSet_accepts_malformed_64 :
    1 < 64 ∧ parseCPUSet 64 2 "1-2-3" = some (.ok ["0"]) ∧ parseCPUSet 64 1 "3-1" = some (.ok []) :=
  ⟨by decide, (parseCPUSet_accepts_malformed (by decide)).1 2 "1-2-3" le_rfl (by decide) (by decide),
    (parseCPUSet_accepts_malformed (by decide)).2 1 3 1 le_rfl (by decide) (by decide)⟩

end Malformed

/-! ### Termination -/

section Termination

variable {intSize fuel : Nat}

/-- The bounds the loop over the ranges carries are `int`s below
`math.MaxInt`. -/
def RangeState.BelowMax (intSize : Nat) (st : RangeState) : Prop :=
  minInt intSize ≤ st.start ∧ st.start < maxInt intSize ∧
    minInt intSize ≤ st.last ∧ st.last < maxInt intSize

/-- Below `math.MaxInt`, the loop ends once it has fuel for one test more than
the range has CPUs. -/
theorem cpuLoop_isSome (hs : 0 < intSize) {last : Int} (hlast : last < maxInt intSize) :
    ∀ (fuel : Nat) (e : Int) (cpus : List String), minInt intSize ≤ e → 0 < fuel →
      last + 2 ≤ fuel + e → (cpuLoop intSize fuel e last cpus).isSome
  | 0, _, _, _, h, _ => absurd h (Nat.lt_irrefl 0)
  | fuel + 1, e, cpus, he, _, hf => by
    rw [cpuLoop]
    split_ifs with hle
    · rw [wrapInt_of_le hs (by omega) (by omega)]
      exact cpuLoop_isSome hs hlast fuel _ _ (by omega) (by omega) (by omega)
    · rfl

/-- With `2 ^ intSize` fuel, a range whose bounds are `int`s other than
`math.MaxInt` is read, and the bounds it leaves are again below
`math.MaxInt`. -/
theorem parseRange_isSome (hs : 0 < intSize) (hfuel : 2 ^ intSize ≤ fuel) {st : RangeState}
    (hst : st.BelowMax intSize) {r : String}
    (hr : ∀ b ∈ split r '-', (atoi intSize b).toOption ≠ some (maxInt intSize)) :
    ∃ res, parseRange intSize fuel st r = some res ∧ ∀ st', res = .ok st' → st'.BelowMax intSize := by
  have hexpand : ∀ start last, minInt intSize ≤ start → start < maxInt intSize →
      minInt intSize ≤ last → last < maxInt intSize →
      ∃ cpus, cpuLoop intSize fuel start last st.cpus = some cpus := fun start last h₁ h₂ h₃ h₄ => by
    have hpow : (2 : Int) ^ intSize = 2 * 2 ^ (intSize - 1) := by
      rw [← pow_succ', Nat.sub_add_cancel hs]
    have hfuel' : (2 : Int) ^ intSize ≤ fuel := by exact_mod_cast hfuel
    have hpos : (0 : Int) < 2 ^ (intSize - 1) := by exact_mod_cast Nat.two_pow_pos _
    refine Option.isSome_iff_exists.mp (cpuLoop_isSome hs h₄ fuel start st.cpus h₁ ?_ ?_)
    · have : (0 : Int) < fuel := by omega
      exact_mod_cast this
    · simp only [minInt, maxInt] at h₁ h₂ h₃ h₄
      omega
  have hatoi : ∀ b ∈ split r '-', ∀ n, atoi intSize b = .ok n →
      minInt intSize ≤ n ∧ n < maxInt intSize := fun b hb n h =>
    ⟨(atoi_mem h).1, lt_of_le_of_ne (atoi_mem h).2 fun he => hr b hb (by rw [h, he]; rfl)⟩
  simp only [parseRange]
  split
  · rename_i b hsplit
    split
    · exact ⟨_, rfl, fun _ h => by cases h⟩
    · rename_i start hstart
      obtain ⟨h₁, h₂⟩ := hatoi b (by simp [hsplit]) start hstart
      obtain ⟨cpus, hc⟩ := hexpand start start h₁ h₂ h₁ h₂
      exact ⟨_, by rw [hc]; rfl, fun _ h => by cases h; exact ⟨h₁, h₂, h₁, h₂⟩⟩
  · rename_i b₀ b₁ hsplit
    split
    · exact ⟨_, rfl, fun _ h => by cases h⟩
    · rename_i start hstart
      split
      · exact ⟨_, rfl, fun _ h => by cases h⟩
      · rename_i last hlast
        obtain ⟨h₁, h₂⟩ := hatoi b₀ (by simp [hsplit]) start hstart
        obtain ⟨h₃, h₄⟩ := hatoi b₁ (by simp [hsplit]) last hlast
        obtain ⟨cpus, hc⟩ := hexpand start last h₁ h₂ h₃ h₄
        exact ⟨_, by rw [hc]; rfl, fun _ h => by cases h; exact ⟨h₁, h₂, h₃, h₄⟩⟩
  · obtain ⟨cpus, hc⟩ := hexpand _ _ hst.1 hst.2.1 hst.2.2.1 hst.2.2.2
    exact ⟨_, by rw [hc]; rfl, fun _ h => by cases h; exact hst⟩

theorem parseRanges_isSome (hs : 0 < intSize) (hfuel : 2 ^ intSize ≤ fuel) :
    ∀ (rs : List String) (st : RangeState), st.BelowMax intSize →
      (∀ r ∈ rs, ∀ b ∈ split r '-', (atoi intSize b).toOption ≠ some (maxInt intSize)) →
      (parseRanges intSize fuel st rs).isSome
  | [], _, _, _ => rfl
  | r :: rs, st, hst, hr => by
    obtain ⟨res, hres, hinv⟩ := parseRange_isSome hs hfuel hst (hr r (.head _))
    rw [parseRanges, hres]
    cases res with
    | error e => rfl
    | ok st' => exact parseRanges_isSome hs hfuel rs st' (hinv st' rfl) fun r' h => hr r' (.tail _ h)

/-- **The parser ends unless a bound is `math.MaxInt`.** With Go's `int` of
two bits or more and `2 ^ intSize` fuel for each expansion loop,
`parseCPUSet` answers, with CPUs or an error, on every cpuset file none of
whose `-`-separated bounds `Atoi` reads as `math.MaxInt`: the hang of a
token ending at `math.MaxInt` is the only one. -/
theorem parseCPUSet_isSome (hs : 1 < intSize) {cpuset : String}
    (hmax : ∀ r ∈ split cpuset ',', ∀ b ∈ split r '-', (atoi intSize b).toOption ≠ some (maxInt intSize))
    (hfuel : 2 ^ intSize ≤ fuel) : (parseCPUSet intSize fuel cpuset).isSome := by
  unfold parseCPUSet
  split_ifs
  · rfl
  · have hmax₀ : (0 : Int) < maxInt intSize := by
      have : (1 : Int) < 2 ^ (intSize - 1) := by exact_mod_cast Nat.one_lt_two_pow (by omega)
      simp only [maxInt]; omega
    have hmin₀ : minInt intSize ≤ 0 := by
      have : (0 : Int) < 2 ^ (intSize - 1) := by exact_mod_cast Nat.two_pow_pos _
      simp only [minInt]; omega
    exact parseRanges_isSome (by omega) hfuel _ _ ⟨hmin₀, hmax₀, hmin₀, hmax₀⟩ hmax

/-- `0-3,7` on a 64-bit target. -/
theorem parseCPUSet_isSome_64 :
    1 < 64 ∧ (∀ r ∈ split "0-3,7" ',', ∀ b ∈ split r '-', (atoi 64 b).toOption ≠ some (maxInt 64)) ∧
    2 ^ 64 ≤ 2 ^ 64 ∧ (parseCPUSet 64 (2 ^ 64) "0-3,7").isSome :=
  ⟨by decide, by decide, le_rfl, parseCPUSet_isSome (by decide) (by decide) le_rfl⟩

end Termination

/-! ### The kernel's list format -/

/-- The maximal runs of consecutive numbers of `l`, in order, as first and
last element. -/
def runs : List Nat → List (Nat × Nat)
  | [] => []
  | a :: l =>
    match runs l with
    | (b, c) :: rs => if a + 1 = b then (a, c) :: rs else (a, a) :: (b, c) :: rs
    | [] => [(a, a)]

/-- The numbers of a run. -/
def runCPUs (r : Nat × Nat) : List Nat := List.range' r.1 (r.2 + 1 - r.1)

/-- Every list is the concatenation of its runs, each of which is non-empty. -/
theorem runs_spec (l : List Nat) : (runs l).flatMap runCPUs = l ∧ ∀ r ∈ runs l, r.1 ≤ r.2 := by
  induction l with
  | nil => simp [runs]
  | cons a l ih =>
    obtain ⟨hcat, hle⟩ := ih
    unfold runs
    split
    · rename_i b c rs hr
      rw [hr] at hcat hle
      have hbc := hle (b, c) (List.mem_cons_self _ _)
      split
      · refine ⟨?_, ?_⟩
        · rename_i hab
          subst hab
          rw [← hcat]
          simp only [List.flatMap_cons, runCPUs] at hbc ⊢
          rw [show c + 1 - a = (c + 1 - (a + 1)) + 1 by omega, List.range'_succ]
          rfl
        · simp only [List.mem_cons, forall_eq_or_imp]
          exact ⟨by simp only at hbc ⊢; omega, fun r hr => hle r (List.mem_cons_of_mem _ hr)⟩
      · refine ⟨by simp [← hcat, runCPUs], ?_⟩
        simpa using hle
    · rename_i hr
      rw [hr] at hcat
      simp [← hcat, runCPUs]

theorem mem_of_mem_runs {l : List Nat} {r : Nat × Nat} (hr : r ∈ runs l) : r.1 ∈ l ∧ r.2 ∈ l := by
  obtain ⟨hcat, hle⟩ := runs_spec l
  have hmem : ∀ n, r.1 ≤ n → n ≤ r.2 → n ∈ l := fun n h₁ h₂ => by
    rw [← hcat]
    exact List.mem_flatMap.mpr ⟨r, hr, List.mem_range'_1.mpr ⟨h₁, by omega⟩⟩
  exact ⟨hmem _ le_rfl (hle r hr), hmem _ (hle r hr) le_rfl⟩

/-- The token a run is written as. -/
def runToken (r : Nat × Nat) : CPUToken :=
  if r.1 = r.2 then .single r.1 else .range r.1 r.2

theorem runToken_lo (r : Nat × Nat) : (runToken r).lo = r.1 := by
  unfold runToken; split <;> rfl

theorem runToken_hi (r : Nat × Nat) : (runToken r).hi = r.2 := by
  unfold runToken; split <;> simp_all [CPUToken.hi]

/-- The tokens of the kernel's list format of `S`: its maximal runs, in
ascending order. -/
def listTokens (S : Finset Nat) : List CPUToken :=
  (runs (S.sort (· ≤ ·))).map runToken

/-- The kernel's list format of a set of CPUs (`bitmap_list_string`, in which
`cpuset.cpus` files are written), with the file's final newline: the maximal
runs in ascending order, a run of one CPU written `a` and a longer one `a-b`,
separated by commas. -/
def listFormat (S : Finset Nat) : String :=
  cpusetOf (listTokens S) ++ "\n"

/-- The tokens of the list format expand back to the set in ascending order;
each is a range `a ≤ b` of elements of the set. -/
theorem listFormat_tokens (S : Finset Nat) :
    (listTokens S).flatMap CPUToken.cpus = (S.sort (· ≤ ·)).map Nat.repr ∧
    ∀ t ∈ listTokens S, t.lo ≤ t.hi ∧ t.lo ∈ S ∧ t.hi ∈ S := by
  obtain ⟨hcat, hle⟩ := runs_spec (S.sort (· ≤ ·))
  refine ⟨?_, ?_⟩
  · rw [← hcat, List.map_flatMap, listTokens, List.flatMap_map]
    congr 1; funext r
    rw [CPUToken.cpus, runToken_lo, runToken_hi, runCPUs]
  · simp only [listTokens, List.mem_map]
    rintro _ ⟨r, hr, rfl⟩
    rw [runToken_lo, runToken_hi]
    have := mem_of_mem_runs hr
    exact ⟨hle r hr, (Finset.mem_sort _).mp this.1, (Finset.mem_sort _).mp this.2⟩

theorem listTokens_ne_nil {S : Finset Nat} (hS : S.Nonempty) : listTokens S ≠ [] := by
  intro h
  have hcat := (runs_spec (S.sort (· ≤ ·))).1
  rw [List.map_eq_nil_iff.mp h, List.flatMap_nil] at hcat
  have hlen : (S.sort (· ≤ ·)).length = S.card := Finset.length_sort _
  rw [← hcat, List.length_nil] at hlen
  exact (Finset.card_pos.mpr hS).ne hlen

end Collector
end Ceems
