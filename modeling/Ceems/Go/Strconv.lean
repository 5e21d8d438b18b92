import Mathlib.Data.Nat.Digits

/-!
# Decimal conversions of Go's `strconv`

The collector parses PIDs with `strconv.ParseInt(s, 10, 0)` and CPU numbers
with `strconv.Atoi`, and prints CPU numbers back with `strconv.Itoa`. Go's
`int` is as wide as the platform's word (`strconv.IntSize`), so both parsers
depend on `intSize`: a value outside `[-2 ^ (intSize - 1), 2 ^ (intSize - 1))`
is a range error.

* `parseUintLoop` — the digit loop of `ParseUint`, whose first offending
  character or first overflowing prefix decides between a syntax and a range
  error;
* `parseUint` — `ParseUint(s, 10, bitSize)`: the digit loop alone, on a
  non-empty string;
* `parseInt` — `ParseInt(s, 10, 0)`: an optional sign, the digit loop, the
  range of `int`;
* `atoi` — `Atoi`, which answers what `ParseInt(s, 10, 0)` answers (its fast
  path for short inputs agrees with it on every input), under its own name;
* `parseIntValue` — the value `ParseInt` returns beside its error, which
  callers that ignore the error go on with;
* `itoa` — `Itoa`, which is Lean's decimal rendering of an integer;
* `wrapInt` — Go's wrap-around of integer arithmetic.

The one fact the rest of the development needs is the round trip
`parseInt_repr`: the decimal rendering of a natural number within range
parses back to it.
-/

namespace Ceems

/-- The two ways `strconv`'s number parsing fails. -/
inductive NumErr where
  | errSyntax
  | errRange
  deriving DecidableEq, Repr

/-- `strconv.NumError`: the failing function, its input and the failure. -/
structure NumError where
  func : String
  num : String
  err : NumErr
  deriving DecidableEq, Repr

/-- The largest value of Go's `int` with `intSize`-bit ints (`math.MaxInt`). -/
def maxInt (intSize : Nat) : Int := 2 ^ (intSize - 1) - 1

/-- The least value of Go's `int` with `intSize`-bit ints (`math.MinInt`). -/
def minInt (intSize : Nat) : Int := -2 ^ (intSize - 1)

/-- Go's `int` arithmetic with `intSize`-bit ints: two's complement
wrap-around into `[math.MinInt, math.MaxInt]`. -/
def wrapInt (intSize : Nat) (x : Int) : Int :=
  (x - minInt intSize) % 2 ^ intSize + minInt intSize

theorem wrapInt_of_le {intSize : Nat} {x : Int} (hs : 0 < intSize) (h₁ : minInt intSize ≤ x)
    (h₂ : x ≤ maxInt intSize) : wrapInt intSize x = x := by
  have hpow : (2 : Int) ^ intSize = 2 * 2 ^ (intSize - 1) := by
    rw [← pow_succ', Nat.sub_add_cancel hs]
  simp only [wrapInt, minInt, maxInt] at *
  rw [Int.emod_eq_of_lt (by omega) (by omega)]
  omega

/-- Go's `int` arithmetic never leaves `[math.MinInt, math.MaxInt]`. -/
theorem wrapInt_mem {intSize : Nat} (hs : 0 < intSize) (x : Int) :
    minInt intSize ≤ wrapInt intSize x ∧ wrapInt intSize x ≤ maxInt intSize := by
  have hpow : (2 : Int) ^ intSize = 2 * 2 ^ (intSize - 1) := by
    rw [← pow_succ', Nat.sub_add_cancel hs]
  have hpos : (0 : Int) < 2 ^ intSize := by exact_mod_cast Nat.two_pow_pos intSize
  have h₁ := Int.emod_nonneg (x - minInt intSize) hpos.ne'
  have h₂ := Int.emod_lt_of_pos (x - minInt intSize) hpos
  simp only [wrapInt, minInt, maxInt] at *
  omega

/-- The value of a decimal digit character. -/
def digitVal (c : Char) : Nat := c.toNat - '0'.toNat

/-- The digit loop of `strconv.ParseUint(s, 10, bitSize)` from the value `n`
read so far: every character must be a decimal digit, and every prefix must
stay at most `2 ^ bitSize - 1`. -/
def parseUintLoop (bitSize : Nat) : Nat → List Char → Except NumErr Nat
  | n, [] => .ok n
  | n, c :: cs =>
    if c.isDigit then
      if 2 ^ bitSize - 1 < n * 10 + digitVal c then .error .errRange
      else parseUintLoop bitSize (n * 10 + digitVal c) cs
    else .error .errSyntax

/-- `strconv.ParseUint(s, 10, bitSize)`. -/
def parseUint (bitSize : Nat) (s : String) : Except NumError Nat :=
  if s.toList = [] then .error ⟨"ParseUint", s, .errSyntax⟩
  else
    match parseUintLoop bitSize 0 s.toList with
    | .ok n => .ok n
    | .error e => .error ⟨"ParseUint", s, e⟩

/-- `strconv.ParseInt(s, 10, 0)` with `intSize`-bit ints. -/
def parseInt (intSize : Nat) (s : String) : Except NumError Int :=
  let fail := fun e => Except.error (NumError.mk "ParseInt" s e)
  match s.toList with
  | [] => fail .errSyntax
  | c :: cs =>
    let neg := c = '-'
    let ds := if c = '+' ∨ c = '-' then cs else c :: cs
    if ds = [] then fail .errSyntax
    else
      match parseUintLoop intSize 0 ds with
      | .error e => fail e
      | .ok un =>
        if !neg ∧ 2 ^ (intSize - 1) ≤ un then fail .errRange
        else if neg ∧ 2 ^ (intSize - 1) < un then fail .errRange
        else .ok (if neg then -(un : Int) else un)

/-- `strconv.Atoi` with `intSize`-bit ints. -/
def atoi (intSize : Nat) (s : String) : Except NumError Int :=
  match parseInt intSize s with
  | .error e => .error { e with func := "Atoi" }
  | .ok n => .ok n

/-- The value `strconv.ParseInt(s, 10, bitSize)` returns beside its error: `0`
on a syntax error, and on a range error the bound of the value's sign. -/
def parseIntValue (bitSize : Nat) (s : String) : Int :=
  match parseInt bitSize s with
  | .ok n => n
  | .error e =>
    if e.err = .errRange then (if s.toList.head? = some '-' then minInt bitSize else maxInt bitSize)
    else 0

/-- `strconv.Itoa`. -/
def itoa (i : Int) : String := toString i

/-- On a natural number `Itoa` writes its decimal digits. -/
@[simp]
theorem itoa_natCast (n : Nat) : itoa n = Nat.repr n := rfl

/-! ### Decimal renderings parse back -/

/-- The value of a digit string read left to right. -/
def digitsValue (acc : Nat) (ds : List Char) : Nat :=
  ds.foldl (fun a c => a * 10 + digitVal c) acc

theorem le_digitsValue (acc : Nat) (ds : List Char) : acc ≤ digitsValue acc ds := by
  induction ds generalizing acc with
  | nil => exact le_rfl
  | cons c cs ih =>
    show acc ≤ digitsValue (acc * 10 + digitVal c) cs
    exact (by omega : acc ≤ acc * 10 + digitVal c).trans (ih _)

/-- The digit loop accepts a digit string whose value stays in range. -/
theorem parseUintLoop_of_digits {bitSize : Nat} {acc : Nat} {ds : List Char}
    (hd : ∀ c ∈ ds, c.isDigit = true) (hv : digitsValue acc ds ≤ 2 ^ bitSize - 1) :
    parseUintLoop bitSize acc ds = .ok (digitsValue acc ds) := by
  induction ds generalizing acc with
  | nil => rfl
  | cons c cs ih =>
    have hle : acc * 10 + digitVal c ≤ 2 ^ bitSize - 1 := (le_digitsValue _ cs).trans hv
    simp only [parseUintLoop, hd c (List.mem_cons_self _ _), if_true, not_lt.mpr hle, if_false]
    exact ih (fun c' h => hd c' (List.mem_cons_of_mem _ h)) hv

theorem digitChar_isDigit : ∀ d < 10, (Nat.digitChar d).isDigit = true := by decide

theorem digitVal_digitChar : ∀ d < 10, digitVal (Nat.digitChar d) = d := by decide

theorem toDigitsCore_spec (fuel n : Nat) (ds : List Char) (acc : Nat) (h : n < fuel) :
    Nat.toDigitsCore 10 fuel n ds ≠ [] ∧
    (∀ c ∈ Nat.toDigitsCore 10 fuel n ds, c.isDigit = true ∨ c ∈ ds) ∧
    ∃ k, digitsValue acc (Nat.toDigitsCore 10 fuel n ds) = digitsValue (acc * 10 ^ k + n) ds := by
  induction fuel generalizing n ds acc with
  | zero => omega
  | succ fuel ih =>
    have hd := digitChar_isDigit (n % 10) (Nat.mod_lt _ (by omega))
    have hv := digitVal_digitChar (n % 10) (Nat.mod_lt _ (by omega))
    have hcons : ∀ c ∈ Nat.digitChar (n % 10) :: ds, c.isDigit = true ∨ c ∈ ds :=
      fun c hc => (List.mem_cons.mp hc).imp (fun h : c = _ => h ▸ hd) id
    simp only [Nat.toDigitsCore]
    split_ifs with h0
    · refine ⟨List.cons_ne_nil _ _, hcons, 1, ?_⟩
      simp only [digitsValue, List.foldl_cons, hv, pow_one]
      congr 1; omega
    · obtain ⟨hne, hmem, k, hk⟩ := ih (n / 10) (Nat.digitChar (n % 10) :: ds) acc (by omega)
      refine ⟨hne, fun c hc => (hmem c hc).elim .inl (hcons c), k + 1, ?_⟩
      rw [hk]
      simp only [digitsValue, List.foldl_cons, hv]
      have := Nat.div_add_mod n 10
      rw [pow_succ, Nat.add_mul, Nat.mul_assoc]
      congr 1; omega

/-- The decimal rendering of `n` is a non-empty string of digits of value `n`. -/
theorem toDigits_spec (n : Nat) :
    Nat.toDigits 10 n ≠ [] ∧ (∀ c ∈ Nat.toDigits 10 n, c.isDigit = true) ∧
      digitsValue 0 (Nat.toDigits 10 n) = n := by
  obtain ⟨hne, hmem, k, hk⟩ := toDigitsCore_spec (n + 1) n [] 0 (by omega)
  exact ⟨hne, fun c hc => (hmem c hc).resolve_right (List.not_mem_nil c), by simpa using hk⟩

theorem repr_isDigit (n : Nat) : ∀ c ∈ (Nat.repr n).toList, c.isDigit = true :=
  (toDigits_spec n).2.1

theorem repr_ne_empty (n : Nat) : Nat.repr n ≠ "" := fun h =>
  (toDigits_spec n).1 (congrArg String.toList h)

theorem not_mem_repr {c : Char} (hc : c.isDigit = false) (n : Nat) : c ∉ (Nat.repr n).toList :=
  fun h => by simp [repr_isDigit n c h] at hc

/-- **Decimal round trip.** `ParseInt(s, 10, 0)` reads back the decimal
rendering of every natural number below `2 ^ (intSize - 1)`. -/
theorem parseInt_repr {intSize n : Nat} (h : n < 2 ^ (intSize - 1)) :
    parseInt intSize (Nat.repr n) = .ok n := by
  obtain ⟨hne, hd, hv⟩ := toDigits_spec n
  have hpow : 2 ^ (intSize - 1) ≤ 2 ^ intSize := Nat.pow_le_pow_right (by omega) (by omega)
  obtain ⟨c, cs, hcs⟩ := List.exists_cons_of_ne_nil hne
  have hc : c.isDigit = true := hd c (hcs ▸ List.mem_cons_self _ _)
  have hsign : ¬(c = '+' ∨ c = '-') := by rintro (rfl | rfl) <;> simp at hc
  have hloop : parseUintLoop intSize 0 (Nat.toDigits 10 n) = .ok n := by
    rw [parseUintLoop_of_digits hd (by rw [hv]; omega), hv]
  simp only [parseInt, Nat.repr, List.asString, String.toList, hcs, hsign, if_false] at hloop ⊢
  simp [hloop, hv, h, show c ≠ '-' from fun h' => hsign (.inr h')]

/-- `ParseInt` answers a value of Go's `int`. -/
theorem parseInt_mem {intSize : Nat} {s : String} {n : Int} (h : parseInt intSize s = .ok n) :
    minInt intSize ≤ n ∧ n ≤ maxInt intSize := by
  simp only [parseInt] at h
  split at h
  · cases h
  rename_i c cs _
  generalize (if c = '+' ∨ c = '-' then cs else c :: cs) = ds at h
  split at h
  · cases h
  split at h
  · cases h
  rename_i un _
  split at h
  · cases h
  rename_i h₁
  split at h
  · cases h
  rename_i h₂
  cases h
  have hpow : ((2 ^ (intSize - 1) : Nat) : Int) = 2 ^ (intSize - 1) := by push_cast; rfl
  have hpos : (0 : Int) < 2 ^ (intSize - 1) := by exact_mod_cast Nat.two_pow_pos _
  simp only [minInt, maxInt]
  by_cases hneg : c = '-'
  · simp only [hneg, if_true, true_and, not_lt] at h₂ ⊢
    omega
  · simp only [hneg, decide_False, Bool.not_false, true_and, not_le, if_false] at h₁ ⊢
    omega

theorem atoi_mem {intSize : Nat} {s : String} {n : Int} (h : atoi intSize s = .ok n) :
    minInt intSize ≤ n ∧ n ≤ maxInt intSize := by
  unfold atoi at h
  split at h
  · cases h
  · cases h
    exact parseInt_mem ‹_›

/-- The digit loop never answers more than `2 ^ bitSize - 1`. -/
theorem parseUintLoop_le {bitSize : Nat} :
    ∀ {n m : Nat} {cs : List Char}, n ≤ 2 ^ bitSize - 1 →
      parseUintLoop bitSize n cs = .ok m → m ≤ 2 ^ bitSize - 1
  | _, _, [], hn, h => by cases h; exact hn
  | n, m, c :: cs, _, h => by
    simp only [parseUintLoop] at h
    split_ifs at h with hd hr
    exact parseUintLoop_le (not_lt.mp hr) h

/-- `ParseUint` answers a value of `bitSize` bits. -/
theorem parseUint_lt {bitSize n : Nat} {s : String} (h : parseUint bitSize s = .ok n) :
    n < 2 ^ bitSize := by
  have hpos := Nat.two_pow_pos bitSize
  simp only [parseUint] at h
  split_ifs at h
  split at h
  · cases h
    have := parseUintLoop_le (Nat.zero_le _) ‹_›
    omega
  · cases h

/-- **Decimal round trip, unsigned.** `ParseUint(s, 10, bitSize)` reads back
the decimal rendering of every natural number below `2 ^ bitSize`. -/
theorem parseUint_repr {bitSize n : Nat} (h : n < 2 ^ bitSize) :
    parseUint bitSize (Nat.repr n) = .ok n := by
  obtain ⟨hne, hd, hv⟩ := toDigits_spec n
  have hloop : parseUintLoop bitSize 0 (Nat.toDigits 10 n) = .ok n := by
    rw [parseUintLoop_of_digits hd (by omega), hv]
  simp only [parseUint, Nat.repr, List.asString, String.toList, hne, if_false, hloop]

theorem atoi_repr {intSize n : Nat} (h : n < 2 ^ (intSize - 1)) :
    atoi intSize (Nat.repr n) = .ok n := by
  simp [atoi, parseInt_repr h]

end Ceems
