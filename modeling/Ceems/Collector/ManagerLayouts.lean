import Ceems.Collector.Layout

/-!
# The layouts of Slurm and libvirt

The layouts the spec's path patterns describe, as `UnitLayout`s, and the proof
that the managers `NewCgroupManager` builds find their units in them.

* Slurm (`slurmLayout`): a job's root is `job_<N>`, `N` a run of digits, in a
  directory whose decoded path holds `/slurm` (as `slurmstepd.scope` in v2 and
  `slurm/uid_<U>` in v1 do) and does not match; its child cgroups lie under
  `step_*`, and the decoded part of their paths below the root holds no
  `/slurm` followed later by `/job_<digit>`.
* libvirt (`libvirtLayout`): a VM's root is
  `machine-qemu\x2d<K>\x2dinstance-<H>.scope`, `K` a run of digits and `H` of
  lower-case hex digits; its child cgroups lie under `libvirt*`, `emulator*`
  and `vcpu*`, and the decoded part of their paths below the root holds no `/`
  followed, a character or more later, by `-qemu-<digits>-instance-<hex>`.

Main results:

* `slurmLayout_sound`, `libvirtLayout_sound` — the two managers' regexes and
  child tests do what the layouts ask;
* `newCgroupManager_mountBelowRoot` — whatever the cgroup file system's path
  and the active controller, `setMountPoint` joins a clean mount point below
  the root, so `filepath.Rel` places every directory below it;
* `newCgroupManager_discover` — on every listable tree with plain names laid
  out for the manager `NewCgroupManager` builds, with pairwise distinct unit
  ids, `discover` returns one cgroup per unit root, in walk order, with id and
  uuid the job's `N` (the VM's `instance-H`), whose children are every
  directory at or below the root;
* `discover_nested_job` — without the condition on the names below a step, a
  directory `step_0/slurm/job_2` of job `1` goes to job `2`.
-/

namespace Ceems
namespace Collector

open Filepath

/-! ### Paths as character lists -/

theorem toList_append (a b : String) : (a ++ b).toList = a.toList ++ b.toList :=
  String.data_append a b

theorem toList_slash (p n : String) : (slash p n).toList = p.toList ++ '/' :: n.toList := by
  simp only [slash, toList_append, List.append_assoc]
  rfl

theorem unescapeChars_slash (l : List Char) :
    unescapeChars ('/' :: l) = (unescapeChars l).map ('/' :: ·) :=
  unescapeChars_cons_of_ne l (by decide)

/-- Decoding a path decodes its parent's path and its name. -/
theorem unescapeChars_append_sep {p : String} {a : List Char} (hp : unescapeChars p.toList = some a)
    (rest : List Char) :
    unescapeChars (p.toList ++ '/' :: rest) = (unescapeChars rest).map (a ++ '/' :: ·) := by
  rw [unescapeChars_append _ hp, unescapeChars_slash, Option.map_map]
  rfl

theorem unescapeString_eq_some {p s : String} (h : unescapeString p = some s) :
    unescapeChars p.toList = some s.toList := by
  simp only [unescapeString, Option.map_eq_some'] at h
  obtain ⟨a, ha, rfl⟩ := h
  exact ha

/-- A path at or below a unit's root decodes as its parent's path, `/`, the
unit's name and the rest, each decoded alone. -/
theorem unescapeString_slash_append {p n r : String} {a N t : List Char}
    (hp : unescapeChars p.toList = some a) (hn : unescapeChars n.toList = some N)
    (hr : unescapeChars r.toList = some t) :
    unescapeString (slash p n ++ r) = some ⟨a ++ '/' :: (N ++ t)⟩ := by
  show (unescapeChars (slash p n ++ r).toList).map String.mk = _
  rw [toList_append, toList_slash, List.append_assoc, List.cons_append, unescapeChars_append_sep hp,
    unescapeChars_append _ hn, hr]
  rfl

/-- The id `discover` reads off a path whose decoding matches with a group
that is its own `trimSpace` and is not empty. -/
theorem cgroupID_of_regex {c : CgroupManager} {q s id : String} (hd : unescapeString q = some s)
    (hr : c.idRegex s = [s, id]) (hid : ∀ ch ∈ id.toList, isSpace ch = false) (hne : id ≠ "") :
    cgroupID unescapeString c q = some (s, id) := by
  simp [cgroupID, hd, hr, trimSpace_of_forall hid, hne]

/-- A path whose characters are `pre`, `pat` and `post` contains `pat`. -/
theorem containsStr_of_eq {p : String} (pre pat post : List Char) (h : p.toList = pre ++ pat ++ post) :
    containsStr p ⟨pat⟩ = true := by
  rw [containsStr, isInfixOf_iff, h]
  exact List.infix_append _ _ _

/-- The path of a directory below a child-holding directory `m` of a unit
contains `/` followed by any prefix `w` of `m`. -/
theorem containsStr_child (p n m x : String) {w r : List Char} (hr : w ++ r = m.toList) :
    containsStr (slash p n ++ (slash "" m ++ x)) ⟨'/' :: w⟩ = true := by
  refine containsStr_of_eq (slash p n).toList ('/' :: w) (r ++ x.toList) ?_
  rw [toList_append, toList_append, toList_slash "" m, ← hr,
    show ("" : String).toList = [] from rfl, List.nil_append, List.cons_append, List.append_assoc w r,
    List.append_assoc _ ('/' :: w), List.cons_append]

/-- A pattern starting with `/` and holding no other `/` occurs in the path of
a directory named `n` without `/` when it occurs in the parent's path or at the
directory's own start. -/
theorem containsStr_slash (pat : String) (hpat : pat.toList.head? = some '/')
    (hpat' : '/' ∉ pat.toList.tail) (p : String) {n : String} (hn : '/' ∉ n.toList) :
    containsStr (slash p n) pat = (containsStr p pat || pat.toList.isPrefixOf ('/' :: n.toList)) := by
  rw [containsStr, containsStr, toList_slash, isInfixOf_append hpat' slashFirst_cons, isInfixOf,
    isInfixOf_of_not_mem hpat hn, Bool.or_false]

/-! ### Slurm -/

/-- The id of a job cgroup `job_<N>`: `N`, a run of digits. -/
def slurmJobID (n : String) : Option String :=
  match n.toList with
  | 'j' :: 'o' :: 'b' :: '_' :: ds => if !ds.isEmpty && ds.all Char.isDigit then some ⟨ds⟩ else none
  | _ => none

theorem slurmJobID_eq_some {n id : String} (h : slurmJobID n = some id) :
    ∃ ds, n.toList = "job_".toList ++ ds ∧ ds ≠ [] ∧ (∀ c ∈ ds, c.isDigit = true) ∧ id = ⟨ds⟩ := by
  unfold slurmJobID at h
  split at h
  · rename_i ds hn
    split_ifs at h with hc
    cases h
    simp only [Bool.and_eq_true, Bool.not_eq_true', List.isEmpty_eq_false, List.all_eq_true] at hc
    exact ⟨ds, hn, hc.1, hc.2, rfl⟩
  · cases h

/-- A character that is no digit and not in `job_` is not in a job's name. -/
theorem not_mem_jobName {ds : List Char} (hd : ∀ c ∈ ds, c.isDigit = true) {ch : Char}
    (hj : ch ∉ "job_".toList) (hdig : ch.isDigit = false) : ch ∉ "job_".toList ++ ds :=
  fun h => (List.mem_append.mp h).elim hj fun h => absurd (hd _ h) (by rw [hdig]; decide)

/-- Slurm's layout. -/
def slurmLayout : UnitLayout where
  unitID := slurmJobID
  isChildDir m := "step_".toList.isPrefixOf m.toList
  parentOK p :=
    match unescapeString p with
    | some s => decide ('\n' ∉ s.toList) && isInfixOf "/slurm".toList s.toList &&
        (slurmMatch s.toList).isNone && !containsStr p "/step_"
    | none => false
  tailOK t := decide ('\n' ∉ t.toList) && (slurmMatch t.toList).isNone

/-- What the parent of a job cgroup satisfies. -/
theorem slurmLayout_parentOK {p : String} (h : slurmLayout.parentOK p = true) :
    ∃ a, unescapeChars p.toList = some a ∧ '\n' ∉ a ∧ isInfixOf "/slurm".toList a = true ∧
      slurmMatch a = none ∧ containsStr p "/step_" = false := by
  simp only [slurmLayout] at h
  split at h
  · rename_i s hs
    simp only [Bool.and_eq_true, decide_eq_true_eq, Option.isNone_iff_eq_none, Bool.not_eq_true'] at h
    exact ⟨s.toList, unescapeString_eq_some hs, h.1.1.1, h.1.1.2, h.1.2, h.2⟩
  · cases h

/-- `slurmCgroupPathRegex` on a path without newline that `slurmMatch`
matches. -/
theorem slurmCgroupPathRegex_eq {s : String} {id : List Char} (hn : '\n' ∉ s.toList)
    (hm : slurmMatch s.toList = some id) : slurmCgroupPathRegex s = [s, ⟨id⟩] := by
  simp only [slurmCgroupPathRegex, if_neg hn, hm]

/-- The Slurm regex on a job's path and the paths below it: the decoded path
`a`, `/job_N`, then a part that does not match on its own. -/
theorem slurmCgroupPathRegex_job {a ds t : List Char} (hds : ds ≠ []) (hd : ∀ c ∈ ds, c.isDigit = true)
    (ha : slurmMatch a = none) (hsl : isInfixOf "/slurm".toList a = true) (hn : '\n' ∉ a)
    (ht : SlashFirst t) (ht' : slurmMatch t = none) (htn : '\n' ∉ t) :
    slurmCgroupPathRegex ⟨a ++ '/' :: ("job_".toList ++ ds ++ t)⟩ =
      [⟨a ++ '/' :: ("job_".toList ++ ds ++ t)⟩, ⟨ds⟩] := by
  refine slurmCgroupPathRegex_eq ?_ (slurmMatch_job hds hd ht ht' a ha hsl)
  show '\n' ∉ a ++ '/' :: ("job_".toList ++ ds ++ t)
  simp only [List.mem_append, List.mem_cons, not_or]
  exact ⟨hn, by decide, ⟨by decide, fun h => absurd (hd _ h) (by decide)⟩, htn⟩

theorem isSpace_of_digits {ds : List Char} (hd : ∀ c ∈ ds, c.isDigit = true) :
    ∀ ch ∈ (⟨ds⟩ : String).toList, isSpace ch = false :=
  fun ch h => isSpace_of_isDigit (hd ch h)

/-- **Slurm's regex and child test do what its layout asks.** -/
theorem slurmLayout_sound {c : CgroupManager} (hre : c.idRegex = slurmCgroupPathRegex)
    (hch : ∀ p, c.isChild p = containsStr p "/step_") :
    slurmLayout.Sound unescapeString c where
  root {p n id} hp hu := by
    obtain ⟨a, ha, han, hsl, hsm, hstep⟩ := slurmLayout_parentOK hp
    obtain ⟨ds, hn, hds, hd, rfl⟩ := slurmJobID_eq_some hu
    have hbs : '\\' ∉ n.toList := hn ▸ not_mem_jobName hd (by decide) (by decide)
    have hdec := unescapeString_slash_append ha (unescapeChars_of_not_mem hbs)
      (show unescapeChars ("" : String).toList = some [] from rfl)
    rw [String.append_empty, hn] at hdec
    refine ⟨⟨_, cgroupID_of_regex hdec ?_ (isSpace_of_digits hd) ?_⟩, ?_⟩
    · rw [hre, slurmCgroupPathRegex_job hds hd hsm hsl han slashFirst_nil rfl (List.not_mem_nil _)]
    · intro h; exact hds (congrArg String.toList h)
    · rw [hch, containsStr_slash "/step_" rfl (by decide) p
        (hn ▸ not_mem_jobName hd (by decide) (by decide)), hstep, hn]
      rfl
  child {p n id m x dt} hp hu hm hdt ht := by
    obtain ⟨a, ha, han, hsl, hsm, -⟩ := slurmLayout_parentOK hp
    obtain ⟨ds, hn, hds, hd, rfl⟩ := slurmJobID_eq_some hu
    simp only [slurmLayout, Bool.and_eq_true, decide_eq_true_eq, Option.isNone_iff_eq_none] at ht hm
    have hbs : '\\' ∉ n.toList := hn ▸ not_mem_jobName hd (by decide) (by decide)
    have hdt' := unescapeString_eq_some hdt
    have hslash : SlashFirst dt.toList := by
      have htl : (slash "" m ++ x).toList = '/' :: (m.toList ++ x.toList) := by
        rw [toList_append, toList_slash]; rfl
      rw [htl, unescapeChars_slash, Option.map_eq_some'] at hdt'
      obtain ⟨b, -, hb⟩ := hdt'
      rw [← hb]; exact slashFirst_cons
    have hdec := unescapeString_slash_append ha (unescapeChars_of_not_mem hbs) hdt'
    rw [hn] at hdec
    refine ⟨⟨_, cgroupID_of_regex hdec ?_ (isSpace_of_digits hd) ?_⟩, ?_⟩
    · rw [hre, slurmCgroupPathRegex_job hds hd hsm hsl han hslash ht.2 ht.1]
    · intro h; exact hds (congrArg String.toList h)
    · obtain ⟨r, hr⟩ := List.isPrefixOf_iff_prefix.mp hm
      rw [hch]
      exact containsStr_child p n m x hr

/-! ### libvirt -/

/-- The id of a VM scope `machine-qemu\x2d<K>\x2dinstance-<H>.scope`, `K` a run
of digits and `H` of lower-case hex digits: `instance-H`. -/
def libvirtVMID (n : String) : Option String :=
  (n.toList.dropPrefix? "machine-qemu\\x2d".toList).bind fun rest =>
    ((rest.dropWhile Char.isDigit).dropPrefix? "\\x2dinstance-".toList).bind fun hex =>
      if !(rest.takeWhile Char.isDigit).isEmpty && !(hex.takeWhile isHexDigit).isEmpty &&
          hex.dropWhile isHexDigit = ".scope".toList then
        some ⟨"instance-".toList ++ hex.takeWhile isHexDigit⟩
      else none

/-- The name libvirt gives a VM's scope. -/
def vmScopeRawName (K H : List Char) : List Char :=
  "machine-qemu\\x2d".toList ++ K ++ "\\x2dinstance-".toList ++ H ++ ".scope".toList

theorem libvirtVMID_eq_some {n id : String} (h : libvirtVMID n = some id) :
    ∃ K H, n.toList = vmScopeRawName K H ∧ K ≠ [] ∧ (∀ c ∈ K, c.isDigit = true) ∧ H ≠ [] ∧
      (∀ c ∈ H, isHexDigit c = true) ∧ id = ⟨"instance-".toList ++ H⟩ := by
  simp only [libvirtVMID, Option.bind_eq_some] at h
  obtain ⟨rest, hrest, hex, hhex, h⟩ := h
  split_ifs at h with hc
  cases h
  simp only [Bool.and_eq_true, Bool.not_eq_true', List.isEmpty_eq_false, decide_eq_true_eq] at hc
  refine ⟨rest.takeWhile Char.isDigit, hex.takeWhile isHexDigit, ?_, hc.1.1,
    fun _ => List.mem_takeWhile_imp, hc.1.2, fun _ => List.mem_takeWhile_imp, rfl⟩
  obtain ⟨p₁, hn, hp₁⟩ := List.dropPrefix?_eq_some_iff.mp hrest
  obtain ⟨p₂, hd, hp₂⟩ := List.dropPrefix?_eq_some_iff.mp hhex
  rw [beq_iff_eq] at hp₁ hp₂
  have hrest' := List.takeWhile_append_dropWhile Char.isDigit rest
  have hhex' := List.takeWhile_append_dropWhile isHexDigit hex
  rw [hd, hp₂] at hrest'
  rw [hc.2] at hhex'
  rw [hn, hp₁, vmScopeRawName]
  conv_lhs => rw [← hrest', ← hhex']
  simp only [List.append_assoc]

/-- A VM scope's name decodes to `machine-qemu-K-instance-H.scope`. -/
theorem unescapeChars_vmScopeRawName {K H : List Char} (hKd : ∀ c ∈ K, c.isDigit = true)
    (hHx : ∀ c ∈ H, isHexDigit c = true) :
    unescapeChars (vmScopeRawName K H) = some (vmScopeName K H) := by
  have hK : '\\' ∉ K := fun h => absurd (hKd _ h) (by decide)
  have hH : '\\' ∉ H := fun h => absurd (hHx _ h) (by decide)
  simp only [vmScopeRawName, List.append_assoc]
  rw [unescapeChars_append _ (show unescapeChars "machine-qemu\\x2d".toList =
      some "machine-qemu-".toList from rfl), unescapeChars_append _ (unescapeChars_of_not_mem hK),
    unescapeChars_append _ (show unescapeChars "\\x2dinstance-".toList = some "-instance-".toList from rfl),
    unescapeChars_append _ (unescapeChars_of_not_mem hH),
    show unescapeChars ".scope".toList = some ".scope".toList from rfl]
  simp only [Option.map_some', vmScopeName, List.append_assoc]

theorem slash_not_mem_vmScopeRawName {K H : List Char} (hKd : ∀ c ∈ K, c.isDigit = true)
    (hHx : ∀ c ∈ H, isHexDigit c = true) : '/' ∉ vmScopeRawName K H := by
  intro h
  simp only [vmScopeRawName, List.mem_append] at h
  rcases h with (((h | h) | h) | h) | h
  · revert h; decide
  · exact absurd (hKd _ h) (by decide)
  · revert h; decide
  · exact absurd (hHx _ h) (by decide)
  · revert h; decide

/-- The child test of libvirt. -/
def libvirtChildTest (p : String) : Bool :=
  containsStr p "/libvirt" || containsStr p "/emulator" || containsStr p "/vcpu"

/-- libvirt's layout. -/
def libvirtLayout : UnitLayout where
  unitID := libvirtVMID
  isChildDir m := "libvirt".toList.isPrefixOf m.toList || "emulator".toList.isPrefixOf m.toList ||
    "vcpu".toList.isPrefixOf m.toList
  parentOK p :=
    match unescapeString p with
    | some s => decide ('\n' ∉ s.toList) && !libvirtChildTest p
    | none => false
  tailOK t := decide ('\n' ∉ t.toList) && (libvirtMatch t.toList).isNone

/-- `libvirtCgroupPathRegex` on a path without newline that `libvirtMatch`
matches. -/
theorem libvirtCgroupPathRegex_eq {s : String} {id : List Char} (hn : '\n' ∉ s.toList)
    (hm : libvirtMatch s.toList = some id) : libvirtCgroupPathRegex s = [s, ⟨id⟩] := by
  simp only [libvirtCgroupPathRegex, if_neg hn, hm]

/-- The libvirt regex on a VM's path and the paths below it. -/
theorem libvirtCgroupPathRegex_vm {a K H t : List Char} (hK : K ≠ []) (hKd : ∀ c ∈ K, c.isDigit = true)
    (hH : H ≠ []) (hHx : ∀ c ∈ H, isHexDigit c = true) (hn : '\n' ∉ a)
    (ht : libvirtMatch t = none) (htn : '\n' ∉ t) :
    libvirtCgroupPathRegex ⟨a ++ '/' :: (vmScopeName K H ++ t)⟩ =
      [⟨a ++ '/' :: (vmScopeName K H ++ t)⟩, ⟨"instance-".toList ++ H⟩] := by
  refine libvirtCgroupPathRegex_eq ?_ (libvirtMatch_vm hK hKd hH hHx ht a)
  show '\n' ∉ a ++ '/' :: (vmScopeName K H ++ t)
  simp only [List.mem_append, List.mem_cons, not_or]
  exact ⟨hn, by decide, not_mem_vmScopeName hKd hHx rfl rfl (by decide), htn⟩

theorem isSpace_instance {H : List Char} (hHx : ∀ c ∈ H, isHexDigit c = true) :
    ∀ ch ∈ (⟨"instance-".toList ++ H⟩ : String).toList, isSpace ch = false := by
  have hlit : ∀ ch ∈ "instance-".toList, isSpace ch = false := by decide
  intro ch h
  rcases List.mem_append.mp h with h | h
  · exact hlit ch h
  · exact isSpace_eq_false (.inr (by rcases toNat_of_isHexDigit (hHx ch h) with h' | h' <;> omega))

/-- What the parent of a VM scope satisfies. -/
theorem libvirtLayout_parentOK {p : String} (h : libvirtLayout.parentOK p = true) :
    ∃ a, unescapeChars p.toList = some a ∧ '\n' ∉ a ∧ libvirtChildTest p = false := by
  simp only [libvirtLayout] at h
  split at h
  · rename_i s hs
    simp only [Bool.and_eq_true, decide_eq_true_eq, Bool.not_eq_true'] at h
    exact ⟨s.toList, unescapeString_eq_some hs, h.1, h.2⟩
  · cases h

/-- **libvirt's regex and child test do what its layout asks.** -/
theorem libvirtLayout_sound {c : CgroupManager} (hre : c.idRegex = libvirtCgroupPathRegex)
    (hch : ∀ p, c.isChild p = libvirtChildTest p) :
    libvirtLayout.Sound unescapeString c where
  root {p n id} hp hu := by
    obtain ⟨a, ha, han, hchild⟩ := libvirtLayout_parentOK hp
    obtain ⟨K, H, hn, hK, hKd, hH, hHx, rfl⟩ := libvirtVMID_eq_some hu
    have hdec := unescapeString_slash_append ha (hn ▸ unescapeChars_vmScopeRawName hKd hHx)
      (show unescapeChars ("" : String).toList = some [] from rfl)
    rw [String.append_empty] at hdec
    have hslash : '/' ∉ n.toList := hn ▸ slash_not_mem_vmScopeRawName hKd hHx
    refine ⟨⟨_, cgroupID_of_regex hdec ?_ (isSpace_instance hHx) (by simp [String.ext_iff])⟩, ?_⟩
    · rw [hre, libvirtCgroupPathRegex_vm hK hKd hH hHx han (show libvirtMatch [] = none from rfl)
        (List.not_mem_nil _)]
    · simp only [libvirtChildTest, Bool.or_eq_false_iff] at hchild
      rw [hch, libvirtChildTest, containsStr_slash "/libvirt" rfl (by decide) p hslash,
        containsStr_slash "/emulator" rfl (by decide) p hslash,
        containsStr_slash "/vcpu" rfl (by decide) p hslash, hchild.1.1, hchild.1.2, hchild.2, hn]
      rfl
  child {p n id m x dt} hp hu hm hdt ht := by
    obtain ⟨a, ha, han, -⟩ := libvirtLayout_parentOK hp
    obtain ⟨K, H, hn, hK, hKd, hH, hHx, rfl⟩ := libvirtVMID_eq_some hu
    simp only [libvirtLayout, Bool.and_eq_true, decide_eq_true_eq, Option.isNone_iff_eq_none] at ht hm
    have hdec := unescapeString_slash_append ha (hn ▸ unescapeChars_vmScopeRawName hKd hHx)
      (unescapeString_eq_some hdt)
    refine ⟨⟨_, cgroupID_of_regex hdec ?_ (isSpace_instance hHx) (by simp [String.ext_iff])⟩, ?_⟩
    · rw [hre, libvirtCgroupPathRegex_vm hK hKd hH hHx han ht.2 ht.1]
    · rw [hch, libvirtChildTest]
      simp only [Bool.or_eq_true] at hm ⊢
      rcases hm with (hm | hm) | hm
      · exact .inl (.inl (containsStr_child p n m x (List.isPrefixOf_iff_prefix.mp hm).choose_spec))
      · exact .inl (.inr (containsStr_child p n m x (List.isPrefixOf_iff_prefix.mp hm).choose_spec))
      · exact .inr (containsStr_child p n m x (List.isPrefixOf_iff_prefix.mp hm).choose_spec)

/-! ### The managers `NewCgroupManager` builds -/

@[simp] theorem setMountPoint_manager (c : CgroupManager) : (setMountPoint c).manager = c.manager := by
  unfold setMountPoint; split_ifs <;> rfl

@[simp] theorem setMountPoint_idRegex (c : CgroupManager) : (setMountPoint c).idRegex = c.idRegex := by
  unfold setMountPoint; split_ifs <;> rfl

@[simp] theorem setMountPoint_isChild (c : CgroupManager) : (setMountPoint c).isChild = c.isChild := by
  unfold setMountPoint; split_ifs <;> rfl

/-- The layout of the manager's resource manager. -/
def managerLayout (c : CgroupManager) : UnitLayout :=
  if c.manager = "slurm" then slurmLayout else libvirtLayout

/-- The manager `NewCgroupManager` builds finds its units in its layout. -/
theorem newCgroupManager_sound {name forceCgroupsVersion : String} {hostMode : CGMode}
    {cgroupfsPath activeController : String} {c : CgroupManager}
    (h : newCgroupManager name forceCgroupsVersion hostMode cgroupfsPath activeController = .ok c) :
    (managerLayout c).Sound unescapeString c := by
  unfold newCgroupManager at h
  split_ifs at h
  · cases h
    rw [managerLayout, if_pos (by simp [slurmCgroupManager])]
    exact slurmLayout_sound (by simp [slurmCgroupManager]) fun p => by simp [slurmCgroupManager]
  · cases h
    rw [managerLayout, if_neg (by simp [libvirtCgroupManager])]
    exact libvirtLayout_sound (by simp [libvirtCgroupManager])
      fun p => by simp [libvirtCgroupManager, libvirtChildTest]

/-! #### Where the managers mount -/

theorem relElems_join_singleton (p : String) : relElems (Filepath.join [p]) = relElems p := by
  by_cases hp : p = ""
  · subst hp; rfl
  · rw [show Filepath.join [p] = clean p by simp [Filepath.join, hp]; rfl, relElems_clean]

/-- A mount point joined from elements that end in a plain one, below a root
whose elements those before it extend by plain elements, lies below the
root. -/
theorem mountBelowRoot_of {c : CgroupManager} {xs : List String} {n : String} (hn : PlainElem n)
    (hm : c.mountPoint = Filepath.join (xs ++ [n])) {k : List String} (hk : ∀ e ∈ k, PlainElem e)
    (hr : relElems (Filepath.join xs) = relElems c.root ++ k) : MountBelowRoot c := by
  refine ⟨hm ▸ isClean_join_snoc xs hn, k ++ [n], by simp, fun e he => ?_,
    by rw [hm, relElems_join_snoc xs hn, hr, List.append_assoc]⟩
  rcases List.mem_append.mp he with he | he
  exacts [hk e he, List.mem_singleton.mp he ▸ hn]

/-- **The managers mount below the root.** Whatever the cgroup file system's
path and the active controller, the mount point of a manager
`NewCgroupManager` builds is clean and lies below its root. -/
theorem newCgroupManager_mountBelowRoot {name forceCgroupsVersion : String} {hostMode : CGMode}
    {cgroupfsPath activeController : String} {c : CgroupManager}
    (h : newCgroupManager name forceCgroupsVersion hostMode cgroupfsPath activeController = .ok c) :
    MountBelowRoot c := by
  have hlib : ¬("libvirt" = "slurm") := by decide
  unfold newCgroupManager at h
  split_ifs at h <;> cases h
  · unfold slurmCgroupManager setMountPoint
    by_cases hm : cgroupMode forceCgroupsVersion hostMode = .unified
    · -- `system.slice/slurmstepd.scope`
      simp only [hm, if_true]
      exact @mountBelowRoot_of _ [cgroupfsPath, "system.slice"] "slurmstepd.scope" (by decide) rfl
        ["system.slice"] (by simp; decide)
        ((relElems_join_snoc [cgroupfsPath] (by decide)).trans (by rw [relElems_join_singleton]))
    · -- `<controller>/slurm`, the root shifted to the controller
      simp only [hm, if_false, if_true]
      exact @mountBelowRoot_of _ [cgroupfsPath, activeController] "slurm" (by decide) rfl [] (by simp)
        (List.append_nil _).symm
  · unfold libvirtCgroupManager setMountPoint
    by_cases hm : cgroupMode forceCgroupsVersion hostMode = .unified
    · -- `machine.slice`
      simp only [hm, hlib, if_true, if_false]
      exact @mountBelowRoot_of _ [cgroupfsPath] "machine.slice" (by decide) rfl [] (by simp)
        (by rw [relElems_join_singleton, List.append_nil])
    · -- `<controller>/machine.slice`, the root shifted to the controller
      simp only [hm, hlib, if_true, if_false]
      exact @mountBelowRoot_of _ [cgroupfsPath, activeController] "machine.slice" (by decide) rfl []
        (by simp) (List.append_nil _).symm

/-- **Discovery on the spec's layouts.** For the manager `NewCgroupManager`
builds, on every tree below its mount point every directory of which can be
listed, every name of which is a plain path element and which is laid out as
its resource manager lays out units, with pairwise distinct unit ids,
`discover` returns one cgroup per unit root, in walk order, with id and uuid
the job's `N` (the VM's `instance-H`), the root's path, and as children and
processes those of every directory at or below the root. -/
theorem newCgroupManager_discover (name forceCgroupsVersion : String) (hostMode : CGMode)
    (cgroupfsPath activeController : String) (c : CgroupManager)
    (hc : newCgroupManager name forceCgroupsVersion hostMode cgroupfsPath activeController = .ok c)
    (host : Host) (e : Entry) (hl : listable e = true) (hn : plainNames e = true)
    (hlay : layoutOK (managerLayout c) unescapeString c c.mountPoint e = true)
    (hnd : ((units (managerLayout c) c.mountPoint e).map UnitDirs.id).Nodup) :
    discover unescapeString c host (.ok e) =
      .ok ((units (managerLayout c) c.mountPoint e).map (unitCgroup unescapeString c host)) :=
  discover_units _ _ _ (newCgroupManager_sound hc) (newCgroupManager_mountBelowRoot hc) host e hl hn
    hlay hnd

/-- Two Slurm jobs with their steps, and a directory `system` of no job, below
`slurmstepd.scope` (cgroups v2). -/
def twoJobsTree : Entry :=
  .dir "slurmstepd.scope" (.ok [
    .dir "job_1" (.ok [.file "cgroup.procs", .dir "step_0" (.ok [.dir "user" (.ok [])]),
      .dir "step_batch" (.ok [])]),
    .dir "job_2" (.ok [.dir "step_extern" (.ok [])]),
    .dir "system" (.ok [])])

/-- A Slurm job of user `1000` below `cpuacct/slurm` (cgroups v1). -/
def uidJobTree : Entry :=
  .dir "slurm" (.ok [.dir "uid_1000" (.ok [
    .dir "job_5" (.ok [.dir "step_0" (.ok [.dir "task_0" (.ok [])]), .dir "step_batch" (.ok [])])])])

/-- Two VMs below `cpuacct/machine.slice` (cgroups v1), their `emulator` and
`vcpu*` cgroups flat in their scopes, as in the spec's second scenario. -/
def twoVMsTree : Entry :=
  .dir "machine.slice" (.ok [
    .dir "machine-qemu\\x2d1\\x2dinstance-0000000a.scope" (.ok [.dir "emulator" (.ok []),
      .dir "vcpu0" (.ok []), .dir "vcpu1" (.ok [])]),
    .dir "machine-qemu\\x2d2\\x2dinstance-0000000b.scope" (.ok [.dir "vcpu0" (.ok [])])])

/-- The Slurm v2 manager on `twoJobsTree`, the Slurm v1 manager on
`uidJobTree` and the libvirt v1 manager on `twoVMsTree`. -/
theorem newCgroupManager_discover_two_jobs :
    (newCgroupManager "slurm" "" .unified "/sys/fs/cgroup" "" =
        .ok (slurmCgroupManager .unified "/sys/fs/cgroup" "") ∧
      listable twoJobsTree = true ∧ plainNames twoJobsTree = true ∧
      layoutOK (managerLayout (slurmCgroupManager .unified "/sys/fs/cgroup" "")) unescapeString
        (slurmCgroupManager .unified "/sys/fs/cgroup" "")
        (slurmCgroupManager .unified "/sys/fs/cgroup" "").mountPoint twoJobsTree = true ∧
      ((units (managerLayout (slurmCgroupManager .unified "/sys/fs/cgroup" ""))
        (slurmCgroupManager .unified "/sys/fs/cgroup" "").mountPoint twoJobsTree).map UnitDirs.id).Nodup ∧
      discover unescapeString (slurmCgroupManager .unified "/sys/fs/cgroup" "")
          ⟨fun _ => none, fun _ => none, 64, .inr rfl⟩ (.ok twoJobsTree) =
        .ok ((units (managerLayout (slurmCgroupManager .unified "/sys/fs/cgroup" ""))
          (slurmCgroupManager .unified "/sys/fs/cgroup" "").mountPoint twoJobsTree).map
          (unitCgroup unescapeString (slurmCgroupManager .unified "/sys/fs/cgroup" "")
            ⟨fun _ => none, fun _ => none, 64, .inr rfl⟩))) ∧
    (newCgroupManager "slurm" "v1" .unified "/sys/fs/cgroup" "cpuacct" =
        .ok (slurmCgroupManager .legacy "/sys/fs/cgroup" "cpuacct") ∧
      listable uidJobTree = true ∧ plainNames uidJobTree = true ∧
      layoutOK (managerLayout (slurmCgroupManager .legacy "/sys/fs/cgroup" "cpuacct")) unescapeString
        (slurmCgroupManager .legacy "/sys/fs/cgroup" "cpuacct")
        (slurmCgroupManager .legacy "/sys/fs/cgroup" "cpuacct").mountPoint uidJobTree = true ∧
      ((units (managerLayout (slurmCgroupManager .legacy "/sys/fs/cgroup" "cpuacct"))
        (slurmCgroupManager .legacy "/sys/fs/cgroup" "cpuacct").mountPoint uidJobTree).map
          UnitDirs.id).Nodup ∧
      discover unescapeString (slurmCgroupManager .legacy "/sys/fs/cgroup" "cpuacct")
          ⟨fun _ => none, fun _ => none, 64, .inr rfl⟩ (.ok uidJobTree) =
        .ok ((units (managerLayout (slurmCgroupManager .legacy "/sys/fs/cgroup" "cpuacct"))
          (slurmCgroupManager .legacy "/sys/fs/cgroup" "cpuacct").mountPoint uidJobTree).map
          (unitCgroup unescapeString (slurmCgroupManager .legacy "/sys/fs/cgroup" "cpuacct")
            ⟨fun _ => none, fun _ => none, 64, .inr rfl⟩))) ∧
    (newCgroupManager "libvirt" "v1" .unified "/sys/fs/cgroup" "cpuacct" =
        .ok (libvirtCgroupManager .legacy "/sys/fs/cgroup" "cpuacct") ∧
      listable twoVMsTree = true ∧ plainNames twoVMsTree = true ∧
      layoutOK (managerLayout (libvirtCgroupManager .legacy "/sys/fs/cgroup" "cpuacct")) unescapeString
        (libvirtCgroupManager .legacy "/sys/fs/cgroup" "cpuacct")
        (libvirtCgroupManager .legacy "/sys/fs/cgroup" "cpuacct").mountPoint twoVMsTree = true ∧
      ((units (managerLayout (libvirtCgroupManager .legacy "/sys/fs/cgroup" "cpuacct"))
        (libvirtCgroupManager .legacy "/sys/fs/cgroup" "cpuacct").mountPoint twoVMsTree).map
          UnitDirs.id).Nodup ∧
      discover unescapeString (libvirtCgroupManager .legacy "/sys/fs/cgroup" "cpuacct")
          ⟨fun _ => none, fun _ => none, 64, .inr rfl⟩ (.ok twoVMsTree) =
        .ok ((units (managerLayout (libvirtCgroupManager .legacy "/sys/fs/cgroup" "cpuacct"))
          (libvirtCgroupManager .legacy "/sys/fs/cgroup" "cpuacct").mountPoint twoVMsTree).map
          (unitCgroup unescapeString (libvirtCgroupManager .legacy "/sys/fs/cgroup" "cpuacct")
            ⟨fun _ => none, fun _ => none, 64, .inr rfl⟩))) :=
  ⟨⟨rfl, by decide, by decide, by decide, by decide,
      newCgroupManager_discover "slurm" "" .unified "/sys/fs/cgroup" "" _ rfl _ twoJobsTree
        (by decide) (by decide) (by decide) (by decide)⟩,
    ⟨rfl, by decide, by decide, by decide, by decide,
      newCgroupManager_discover "slurm" "v1" .unified "/sys/fs/cgroup" "cpuacct" _ rfl _ uidJobTree
        (by decide) (by decide) (by decide) (by decide)⟩,
    ⟨rfl, by decide, by decide, by decide, by decide,
      newCgroupManager_discover "libvirt" "v1" .unified "/sys/fs/cgroup" "cpuacct" _ rfl _ twoVMsTree
        (by decide) (by decide) (by decide) (by decide)⟩⟩

/-- A job `1` whose step holds a directory `slurm/job_2`: that directory lies
below job `1`'s root but carries id `2` and is a child, so job `1` does not get
it and no cgroup does. -/
theorem discover_nested_job :
    (discover unescapeString (slurmCgroupManager .unified "/sys/fs/cgroup" "")
        ⟨fun _ => none, fun _ => none, 64, .inr rfl⟩
        (.ok (.dir "slurmstepd.scope" (.ok [.dir "job_1" (.ok [.dir "step_0" (.ok [
          .dir "slurm" (.ok [.dir "job_2" (.ok [])])])])])))).toOption.map
      (·.map fun cg => (cg.id, cg.children.map CgroupPath.rel)) =
    some [("1", ["system.slice/slurmstepd.scope/job_1", "system.slice/slurmstepd.scope/job_1/step_0",
      "system.slice/slurmstepd.scope/job_1/step_0/slurm"])] := by
  decide

end Collector
end Ceems
