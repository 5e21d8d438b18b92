import Ceems.Go.Strings
import Ceems.Go.Strconv
import Ceems.Go.Filepath

/-!
# The cgroup v1 controllers of `/proc/cgroups`

`parseCgroupSubSysIds` reads the kernel's table of cgroup v1 controllers,
`/proc/cgroups`, one line per controller after a header:

    #subsys_name	hierarchy	num_cgroups	enabled
    cpuset	2	1	1

It numbers the lines after the header from `0` (`idx`, the index the BPF side
uses for the controller) and keeps, for each line whose second field parses
as a 32-bit unsigned integer, a `cgroupController` with that hierarchy id, the
index and the name. The BPF side has room for `cgroupSubSysCount = 15`
controllers: on a sixteenth line the function stops and returns the
controllers so far with an error naming that line's controller. A line with
fewer than two fields makes Go index out of range, which we model as `none`.

* `parseCgroupSubSysIds_procCgroups` — **round trip.** On the table the kernel
  prints for any list of controllers, the function returns one active
  controller per line, in order, indexed by position, for the first fifteen,
  and the error naming the sixteenth when there is one;
* `parseCgroupSubSysIds_sound` — on every file it does not panic on, the
  controllers it returns have strictly increasing indices below fifteen, and
  each is read off the data line its index names;
* `parseCgroupSubSysIds_eq_none_iff` — it panics exactly when one of the first
  sixteen data lines has too few fields for the branch it reaches and all the
  lines before it have two.
-/

namespace Ceems
namespace Collector

/-- `cgroupController`. -/
structure CgroupController where
  /-- The hierarchy's id. -/
  id : Nat
  /-- The controller's index. -/
  idx : Nat
  name : String
  active : Bool
  deriving DecidableEq, Repr

/-- The room the BPF side has for controllers (`CGROUP_SUBSYS_COUNT`). -/
def cgroupSubSysCount : Nat := 15

/-- The two errors `parseCgroupSubSysIds` returns. -/
inductive SubSysError where
  /-- `os.Open` failed. -/
  | openFailed (err : FsError)
  /-- A controller at an index the BPF side has no room for. -/
  | subSysCount (msg : String)
  deriving DecidableEq, Repr

/-- The text of the error on a controller at index `idx`. -/
def subSysCountMessage (name : String) (idx : Nat) : String :=
  "cgroup default subsystem '" ++ name ++ "' is indexed at idx=" ++ toString idx ++
    " higher than CGROUP_SUBSYS_COUNT=" ++ toString cgroupSubSysCount

/-- The loop of `parseCgroupSubSysIds` over the lines after the header, at
index `idx` with the controllers read so far; `none` where Go indexes `fields`
out of range. -/
def parseSubSysLines : Nat → List String → List CgroupController →
    Option (List CgroupController × Option String)
  | _, [], cgroupControllers => some (cgroupControllers, none)
  | idx, line :: lines, cgroupControllers =>
    let fields := Ceems.fields line
    if idx ≥ cgroupSubSysCount then
      fields.head?.map fun name => (cgroupControllers, some (subSysCountMessage name idx))
    else
      match fields with
      | name :: field1 :: _ =>
        match parseUint 32 field1 with
        | .ok id => parseSubSysLines (idx + 1) lines (cgroupControllers ++ [⟨id, idx, name, true⟩])
        | .error _ => parseSubSysLines (idx + 1) lines cgroupControllers
      | _ => none

/-- `parseCgroupSubSysIds`, given the outcome of opening `/proc/cgroups`: the
first line the scanner yields is skipped. -/
def parseCgroupSubSysIds (file : Except FsError String) :
    Option (List CgroupController × Option SubSysError) :=
  match file with
  | .error err => some ([], some (.openFailed err))
  | .ok data =>
    (parseSubSysLines 0 (scanLines data).tail []).map fun (cs, err) => (cs, err.map .subSysCount)

/-! ### The kernel's table -/

/-- A line of `/proc/cgroups` as the kernel's `proc_cgroupstats_show` prints
it. -/
structure SubsysStat where
  name : String
  hierarchy : Nat
  numCgroups : Nat
  enabled : Nat
  deriving DecidableEq, Repr

/-- The line's text, its four fields separated by tabs. -/
def SubsysStat.line (e : SubsysStat) : String :=
  String.intercalate "\t" [e.name, Nat.repr e.hierarchy, Nat.repr e.numCgroups, Nat.repr e.enabled]

/-- The whole table: the header, then one line per controller, each line
ended by a newline. -/
def procCgroups (es : List SubsysStat) : String :=
  String.join (("#subsys_name\thierarchy\tnum_cgroups\tenabled" :: es.map SubsysStat.line).map
    (· ++ "\n"))

/-- The controller the function makes of the kernel's line at index `idx`. -/
def SubsysStat.controller (idx : Nat) (e : SubsysStat) : CgroupController :=
  ⟨e.hierarchy, idx, e.name, true⟩

/-- A controller name the kernel prints: not empty, and no white space. -/
def SubsysStat.NameOk (e : SubsysStat) : Prop :=
  e.name ≠ "" ∧ ∀ c ∈ e.name.toList, isSpace c = false

theorem fields_line {e : SubsysStat} (he : e.NameOk) :
    fields e.line = [e.name, Nat.repr e.hierarchy, Nat.repr e.numCgroups, Nat.repr e.enabled] := by
  have hrepr : ∀ n, Nat.repr n ≠ "" ∧ ∀ c ∈ (Nat.repr n).toList, isSpace c = false := fun n => by
    obtain ⟨hne, hd, -⟩ := toDigits_spec n
    exact ⟨fun h => hne (congrArg String.toList h), fun c hc => isSpace_of_isDigit (hd c hc)⟩
  refine fields_intercalate (by decide) _ ?_
  simp only [List.mem_cons, List.mem_singleton, List.not_mem_nil, or_false]
  rintro w (rfl | rfl | rfl | rfl)
  exacts [he, hrepr _, hrepr _, hrepr _]

theorem line_chars {e : SubsysStat} (he : e.NameOk) :
    ∀ c ∈ e.line.toList, c = '\t' ∨ isSpace c = false := by
  intro c hc
  rcases mem_intercalate hc with h | ⟨w, hw, h⟩
  · exact .inl (List.mem_singleton.mp h)
  · simp only [List.mem_cons, List.mem_singleton, List.not_mem_nil, or_false] at hw
    rcases hw with rfl | rfl | rfl | rfl
    · exact .inr (he.2 c h)
    all_goals exact .inr (isSpace_of_isDigit ((toDigits_spec _).2.1 c h))

/-- The scanner reads the kernel's table back line by line. -/
theorem scanLines_procCgroups {es : List SubsysStat} (hname : ∀ e ∈ es, e.NameOk) :
    scanLines (procCgroups es) = "#subsys_name\thierarchy\tnum_cgroups\tenabled" :: es.map SubsysStat.line := by
  refine scanLines_join _ ?_
  have hline : ∀ l ∈ "#subsys_name\thierarchy\tnum_cgroups\tenabled" :: es.map SubsysStat.line,
      '\n' ∉ l.toList ∧ '\r' ∉ l.toList := by
    simp only [List.mem_cons, List.mem_map]
    rintro l (rfl | ⟨e, he, rfl⟩)
    · decide
    · exact ⟨fun h => by have := line_chars (hname e he) _ h; revert this; decide,
        fun h => by have := line_chars (hname e he) _ h; revert this; decide⟩
  exact fun l hl => ⟨(hline l hl).1, fun h => (hline l hl).2 (List.mem_of_getLast?_eq_some h)⟩

/-! ### Round trip -/

theorem parseSubSysLines_lines {es : List SubsysStat} (hname : ∀ e ∈ es, e.NameOk)
    (hhier : ∀ e ∈ es, e.hierarchy < 2 ^ 32) (idx : Nat) (acc : List CgroupController)
    (hidx : idx ≤ cgroupSubSysCount) :
    parseSubSysLines idx (es.map SubsysStat.line) acc =
      some (acc ++ ((es.take (cgroupSubSysCount - idx)).enumFrom idx).map
          (fun p => p.2.controller p.1),
        es[cgroupSubSysCount - idx]?.map fun e => subSysCountMessage e.name cgroupSubSysCount) := by
  induction es generalizing idx acc with
  | nil => simp [parseSubSysLines]
  | cons e es ih =>
    have hfields := fields_line (hname e (.head _))
    by_cases hk : idx = cgroupSubSysCount
    · subst hk
      simp [parseSubSysLines, hfields]
    · obtain ⟨k, hk'⟩ : ∃ k, cgroupSubSysCount - idx = k + 1 := ⟨cgroupSubSysCount - idx - 1, by omega⟩
      have hrest := ih (fun e he => hname e (.tail _ he)) (fun e he => hhier e (.tail _ he))
        (idx + 1) (acc ++ [⟨e.hierarchy, idx, e.name, true⟩]) (by omega)
      rw [show cgroupSubSysCount - (idx + 1) = k by omega] at hrest
      simp only [parseSubSysLines, List.map_cons, hfields, hk', List.take_succ_cons,
        List.enumFrom_cons, List.getElem?_cons_succ, show ¬idx ≥ cgroupSubSysCount by omega,
        if_false, parseUint_repr (hhier e (.head _))]
      rw [hrest]
      simp [SubsysStat.controller]

/-- **Round trip.** On the table the kernel prints, `parseCgroupSubSysIds`
returns an active controller for each of the first fifteen lines, in order
and indexed by position, and, when there is a sixteenth, the error that names
it. -/
theorem parseCgroupSubSysIds_procCgroups (es : List SubsysStat) (hname : ∀ e ∈ es, e.NameOk)
    (hhier : ∀ e ∈ es, e.hierarchy < 2 ^ 32) :
    parseCgroupSubSysIds (.ok (procCgroups es)) =
      some ((es.take cgroupSubSysCount).enum.map (fun p => p.2.controller p.1),
        es[cgroupSubSysCount]?.map fun e =>
          .subSysCount (subSysCountMessage e.name cgroupSubSysCount)) := by
  simp only [parseCgroupSubSysIds, scanLines_procCgroups hname, List.tail_cons,
    parseSubSysLines_lines hname hhier 0 [] (Nat.zero_le _), Nat.sub_zero, List.nil_append,
    Option.map_some', Option.map_map]
  rfl

/-- Three controllers in the kernel's format. -/
theorem parseCgroupSubSysIds_procCgroups_three :
    (∀ e ∈ [(⟨"cpuset", 2, 1, 1⟩ : SubsysStat), ⟨"cpu", 3, 64, 1⟩, ⟨"memory", 5, 70, 1⟩],
      e.NameOk) ∧
    (∀ e ∈ [(⟨"cpuset", 2, 1, 1⟩ : SubsysStat), ⟨"cpu", 3, 64, 1⟩, ⟨"memory", 5, 70, 1⟩],
      e.hierarchy < 2 ^ 32) ∧
    parseCgroupSubSysIds (.ok (procCgroups [⟨"cpuset", 2, 1, 1⟩, ⟨"cpu", 3, 64, 1⟩,
        ⟨"memory", 5, 70, 1⟩])) =
      some (([(⟨"cpuset", 2, 1, 1⟩ : SubsysStat), ⟨"cpu", 3, 64, 1⟩, ⟨"memory", 5, 70, 1⟩].take
          cgroupSubSysCount).enum.map (fun p => p.2.controller p.1),
        [(⟨"cpuset", 2, 1, 1⟩ : SubsysStat), ⟨"cpu", 3, 64, 1⟩,
          ⟨"memory", 5, 70, 1⟩][cgroupSubSysCount]?.map fun e =>
            .subSysCount (subSysCountMessage e.name cgroupSubSysCount)) := by
  have hname : ∀ e ∈ [(⟨"cpuset", 2, 1, 1⟩ : SubsysStat), ⟨"cpu", 3, 64, 1⟩,
      ⟨"memory", 5, 70, 1⟩], e.NameOk := by
    simp only [List.mem_cons, List.mem_singleton, List.not_mem_nil, or_false]
    rintro e (rfl | rfl | rfl) <;> exact ⟨by decide, by decide⟩
  have hhier : ∀ e ∈ [(⟨"cpuset", 2, 1, 1⟩ : SubsysStat), ⟨"cpu", 3, 64, 1⟩,
      ⟨"memory", 5, 70, 1⟩], e.hierarchy < 2 ^ 32 := by decide
  exact ⟨hname, hhier, parseCgroupSubSysIds_procCgroups _ hname hhier⟩

/-! ### What is accepted -/

theorem parseSubSysLines_sound : ∀ (lines : List String) (idx : Nat)
    (acc cs : List CgroupController) (err : Option String),
    parseSubSysLines idx lines acc = some (cs, err) →
    ∃ new, cs = acc ++ new ∧ (new.map CgroupController.idx).Pairwise (· < ·) ∧
      ∀ c ∈ new, idx ≤ c.idx ∧ c.idx < cgroupSubSysCount ∧ c.active = true ∧
        ∃ line field1 rest, lines[c.idx - idx]? = some line ∧
          fields line = c.name :: field1 :: rest ∧ parseUint 32 field1 = .ok c.id
  | [], _, acc, cs, err, h => by
    simp only [parseSubSysLines, Option.some.injEq, Prod.mk.injEq] at h
    exact ⟨[], by simp [h.1], by simp, by simp⟩
  | line :: lines, idx, acc, cs, err, h => by
    have hshift (c : CgroupController) (hc : idx + 1 ≤ c.idx) :
        lines[c.idx - (idx + 1)]? = (line :: lines)[c.idx - idx]? := by
      rw [show c.idx - idx = c.idx - (idx + 1) + 1 by omega, List.getElem?_cons_succ]
    simp only [parseSubSysLines] at h
    split_ifs at h with hidx
    · obtain ⟨name, -, hcs⟩ := Option.map_eq_some'.mp h
      exact ⟨[], by simp [(Prod.mk.inj hcs).1.symm], by simp, by simp⟩
    · split at h
      next name field1 rest hfields =>
        split at h
        next id hid =>
          obtain ⟨new, rfl, hsorted, hnew⟩ := parseSubSysLines_sound lines _ _ cs err h
          refine ⟨⟨id, idx, name, true⟩ :: new, by simp, ?_, ?_⟩
          · refine List.pairwise_cons.mpr ⟨fun i hi => ?_, hsorted⟩
            obtain ⟨c, hc, rfl⟩ := List.mem_map.mp hi
            exact Nat.lt_of_succ_le (hnew c hc).1
          · refine List.forall_mem_cons.mpr
              ⟨⟨le_rfl, Nat.lt_of_not_le hidx, rfl, line, field1, rest, by simp, hfields, hid⟩,
                fun c hc => ?_⟩
            obtain ⟨hle, hlt, hact, l, f, r, hl, hf, hp⟩ := hnew c hc
            exact ⟨by omega, hlt, hact, l, f, r, (hshift c hle).symm.trans hl, hf, hp⟩
        next =>
          obtain ⟨new, rfl, hsorted, hnew⟩ := parseSubSysLines_sound lines _ _ cs err h
          refine ⟨new, rfl, hsorted, fun c hc => ?_⟩
          obtain ⟨hle, hlt, hact, l, f, r, hl, hf, hp⟩ := hnew c hc
          exact ⟨by omega, hlt, hact, l, f, r, (hshift c hle).symm.trans hl, hf, hp⟩
      next => cases h

/-- **What is accepted.** On every `/proc/cgroups` it does not panic on, the
controllers `parseCgroupSubSysIds` returns have strictly increasing indices
below fifteen, are active, and are each read off the line after the header
that their index names: its first field is the name, and its second field
parses as a 32-bit hierarchy id. -/
theorem parseCgroupSubSysIds_sound {data : String} {cs : List CgroupController}
    {err : Option SubSysError} (h : parseCgroupSubSysIds (.ok data) = some (cs, err)) :
    (cs.map CgroupController.idx).Pairwise (· < ·) ∧
    ∀ c ∈ cs, c.idx < cgroupSubSysCount ∧ c.active = true ∧ c.id < 2 ^ 32 ∧
      ∃ line field1 rest, (scanLines data)[c.idx + 1]? = some line ∧
        fields line = c.name :: field1 :: rest ∧ parseUint 32 field1 = .ok c.id := by
  simp only [parseCgroupSubSysIds, Option.map_eq_some', Prod.exists] at h
  obtain ⟨cs', err', hloop, hcs⟩ := h
  obtain ⟨new, hnew, hsorted, hall⟩ := parseSubSysLines_sound _ 0 [] cs' err' hloop
  obtain ⟨rfl, -⟩ := Prod.mk.inj hcs
  subst hnew
  refine ⟨hsorted, fun c hc => ?_⟩
  obtain ⟨-, hlt, hact, line, field1, rest, hline, hf, hp⟩ := hall c hc
  refine ⟨hlt, hact, parseUint_lt hp, line, field1, rest, ?_, hf, hp⟩
  cases hsl : scanLines data with
  | nil => simp [hsl] at hline
  | cons l ls => simpa [hsl] using hline

/-- A one-controller table is read as that controller. -/
theorem parseCgroupSubSysIds_sound_cpuset :
    parseCgroupSubSysIds (.ok "#subsys_name\thierarchy\tnum_cgroups\tenabled\ncpuset\t2\t1\t1\n") =
      some ([⟨2, 0, "cpuset", true⟩], none) ∧
    ([(⟨2, 0, "cpuset", true⟩ : CgroupController)].map CgroupController.idx).Pairwise (· < ·) ∧
    ∀ c ∈ [(⟨2, 0, "cpuset", true⟩ : CgroupController)],
      c.idx < cgroupSubSysCount ∧ c.active = true ∧ c.id < 2 ^ 32 ∧
      ∃ line field1 rest,
        (scanLines "#subsys_name\thierarchy\tnum_cgroups\tenabled\ncpuset\t2\t1\t1\n")[c.idx + 1]? =
          some line ∧ fields line = c.name :: field1 :: rest ∧ parseUint 32 field1 = .ok c.id := by
  have h : parseCgroupSubSysIds
      (.ok "#subsys_name\thierarchy\tnum_cgroups\tenabled\ncpuset\t2\t1\t1\n") =
        some ([⟨2, 0, "cpuset", true⟩], none) := by decide
  exact ⟨h, parseCgroupSubSysIds_sound h⟩

/-! ### When it panics -/

/-- The data line at index `idx + i` is the first the loop panics on: it has
fewer fields than its branch indexes (two below fifteen, one at fifteen), and
every line before it has two. -/
def FirstShortLine (lines : List String) (idx i : Nat) : Prop :=
  ∃ line, lines[i]? = some line ∧ idx + i ≤ cgroupSubSysCount ∧
    (fields line).length < (if idx + i < cgroupSubSysCount then 2 else 1) ∧
    ∀ j < i, ∀ l, lines[j]? = some l → 2 ≤ (fields l).length

/-- Past a line with two fields below index fifteen, the first short line is
one line further on. -/
theorem firstShortLine_cons {line : String} {lines : List String} {idx : Nat}
    (hidx : idx < cgroupSubSysCount) (hline : 2 ≤ (fields line).length) :
    (∃ i, FirstShortLine (line :: lines) idx i) ↔ ∃ i, FirstShortLine lines (idx + 1) i := by
  constructor
  · rintro ⟨_ | i, l, hl, hle, hlen, hbefore⟩
    · simp only [List.getElem?_cons_zero, Option.some.injEq] at hl
      subst hl
      simp only [Nat.add_zero, hidx, if_true] at hlen
      omega
    · exact ⟨i, l, by rwa [List.getElem?_cons_succ] at hl, by omega,
        by rwa [show idx + 1 + i = idx + (i + 1) by omega],
        fun j hj l' hl' => hbefore (j + 1) (by omega) l' (by rwa [List.getElem?_cons_succ])⟩
  · rintro ⟨i, l, hl, hle, hlen, hbefore⟩
    refine ⟨i + 1, l, by rwa [List.getElem?_cons_succ], by omega,
      by rwa [show idx + (i + 1) = idx + 1 + i by omega], ?_⟩
    rintro (_ | j) hj l' hl'
    · simp only [List.getElem?_cons_zero, Option.some.injEq] at hl'
      exact hl' ▸ hline
    · exact hbefore j (by omega) l' (by rwa [List.getElem?_cons_succ] at hl')

theorem parseSubSysLines_eq_none_iff : ∀ (lines : List String) (idx : Nat)
    (acc : List CgroupController), idx ≤ cgroupSubSysCount →
    (parseSubSysLines idx lines acc = none ↔ ∃ i, FirstShortLine lines idx i)
  | [], _, _, _ => by simp [parseSubSysLines, FirstShortLine]
  | line :: lines, idx, acc, hidx => by
    simp only [parseSubSysLines]
    split_ifs with h15
    · have h : idx = cgroupSubSysCount := le_antisymm hidx h15
      subst h
      simp only [Option.map_eq_none', List.head?_eq_none_iff]
      constructor
      · intro hnil
        exact ⟨0, line, by simp, le_rfl, by simp [hnil], by simp⟩
      · rintro ⟨_ | i, l, hl, hle, hlen, -⟩
        · simp only [List.getElem?_cons_zero, Option.some.injEq] at hl
          subst hl
          simpa using hlen
        · omega
    · split
      next name field1 rest hfields =>
        rw [firstShortLine_cons (Nat.lt_of_not_le h15) (by simp [hfields])]
        split <;> exact parseSubSysLines_eq_none_iff lines (idx + 1) _ (by omega)
      next hfields =>
        refine iff_of_true rfl ⟨0, line, by simp, by omega, ?_, by simp⟩
        simp only [Nat.add_zero, Nat.lt_of_not_le h15, if_true]
        match h : fields line, hfields with
        | [], _ => simp
        | [_], _ => simp
        | _ :: _ :: _, hne => exact absurd rfl (hne _ _ _)

/-- **When it panics.** `parseCgroupSubSysIds` indexes `fields` out of range
exactly when some data line among the first sixteen has fewer fields than its
branch reads (two among the first fifteen, one for the sixteenth) and every
data line before it has at least two. -/
theorem parseCgroupSubSysIds_eq_none_iff (data : String) :
    parseCgroupSubSysIds (.ok data) = none ↔ ∃ i, FirstShortLine (scanLines data).tail 0 i := by
  simp only [parseCgroupSubSysIds, Option.map_eq_none']
  exact parseSubSysLines_eq_none_iff _ 0 [] (Nat.zero_le _)

end Collector
end Ceems
