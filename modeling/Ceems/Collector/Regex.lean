import Ceems.Collector.Manager

/-!
# The id regexes on the paths of units

What `unescapeString`, `slurmCgroupPathRegex` and `libvirtCgroupPathRegex`
return on the paths the resource managers' layouts produce.

Every pattern the matchers look for (`/slurm`, `/job_`, the `/` before a
`-qemu-` name, and the `isChild` substrings) starts with `/` and holds no
other `/`, and the pieces a path is built from all start with `/`. So no match
straddles the end of one piece and the start of the next
(`prefix_of_prefix_append`), and each matcher distributes over the pieces:

* `unescapeChars_append` — decoding a path decodes its pieces one after the
  other, once the first one decodes;
* `isInfixOf_append` — a substring test over pieces is the test on each;
* `slurmMatch_job` — on `pre ++ /job_N ++ tail`, where `pre` holds `/slurm`
  and matches nothing and `tail` matches nothing on its own, the greedy
  `^.*/slurm` and lazy `(?:.*?)/job_` capture `N`;
* `libvirtMatch_vm` — on `pre ++ /machine-qemu-K-instance-H.scope ++ tail`,
  where `tail` matches nothing on its own, the libvirt regex captures
  `instance-H` whatever `pre` is.
-/

namespace Ceems
namespace Collector

/-! ### Pieces that start with `/` -/

/-- The list is empty or starts with `/`: the shape of each piece a path is
built from. -/
def SlashFirst (l : List Char) : Prop := ∀ c ∈ l.head?, c = '/'

@[simp] theorem slashFirst_nil : SlashFirst [] := fun _ h => nomatch h

@[simp] theorem slashFirst_cons {l : List Char} : SlashFirst ('/' :: l) :=
  fun _ h => (Option.mem_some_iff.mp h).symm

/-- **No straddling.** A pattern with no `/` after its first character that
is a prefix of `xs ++ ys`, where `ys` starts with `/`, is a prefix of `xs`. -/
theorem prefix_of_prefix_append {pat xs ys : List Char} (hpat : '/' ∉ pat.tail)
    (hxs : xs ≠ []) (hys : SlashFirst ys) (h : pat <+: xs ++ ys) : pat <+: xs := by
  induction xs generalizing pat with
  | nil => exact absurd rfl hxs
  | cons x xs ih =>
    cases pat with
    | nil => exact List.nil_prefix
    | cons a pat =>
      rw [List.cons_append, List.cons_prefix_cons] at h
      refine List.cons_prefix_cons.mpr ⟨h.1, ?_⟩
      cases xs with
      | cons x' xs => exact ih (fun h' => hpat (List.mem_of_mem_tail h')) (List.cons_ne_nil _ _) h.2
      | nil =>
        cases pat with
        | nil => exact List.nil_prefix
        | cons b pat =>
          cases ys with
          | nil => exact absurd h.2 (by simp)
          | cons y ys =>
            have hb : b = y := (List.cons_prefix_cons.mp h.2).1
            exact absurd (hys y rfl ▸ hb ▸ List.mem_cons_self b pat) hpat

theorem isPrefixOf_append {pat xs ys : List Char} (hpat : '/' ∉ pat.tail) (hxs : xs ≠ [])
    (hys : SlashFirst ys) : pat.isPrefixOf (xs ++ ys) = pat.isPrefixOf xs := by
  rw [Bool.eq_iff_iff, List.isPrefixOf_iff_prefix, List.isPrefixOf_iff_prefix]
  exact ⟨prefix_of_prefix_append hpat hxs hys, fun h => h.trans (List.prefix_append _ _)⟩

/-- A substring test over two pieces is the test on each. -/
theorem isInfixOf_append {pat xs ys : List Char} (hpat : '/' ∉ pat.tail)
    (hys : SlashFirst ys) : isInfixOf pat (xs ++ ys) = (isInfixOf pat xs || isInfixOf pat ys) := by
  induction xs with
  | nil => cases pat <;> cases ys <;> simp [isInfixOf]
  | cons x xs ih =>
    rw [List.cons_append, isInfixOf, isInfixOf, ← List.cons_append,
      isPrefixOf_append hpat (List.cons_ne_nil x xs) hys, ih, Bool.or_assoc]

/-- A pattern starting with `/` does not occur in a piece without `/`. -/
theorem isInfixOf_of_not_mem {pat l : List Char} (hpat : pat.head? = some '/') (hl : '/' ∉ l) :
    isInfixOf pat l = false := by
  obtain ⟨pat, rfl⟩ : ∃ t, pat = '/' :: t := by
    cases pat with
    | nil => exact nomatch hpat
    | cons a t => exact ⟨t, by simpa using hpat⟩
  induction l with
  | nil => rfl
  | cons x l ih =>
    have hx : x ≠ '/' := fun h => hl (h ▸ List.mem_cons_self _ _)
    simp [isInfixOf, List.isPrefixOf, Ne.symm hx, ih (fun h => hl (List.mem_cons_of_mem _ h))]

theorem takeWhile_append_of_slashFirst {p : Char → Bool} (hp : p '/' = false) {ys : List Char}
    (hys : SlashFirst ys) (xs : List Char) : (xs ++ ys).takeWhile p = xs.takeWhile p := by
  induction xs with
  | nil =>
    cases ys with
    | nil => rfl
    | cons y ys => simp [List.takeWhile_cons, hys y rfl, hp]
  | cons x xs ih => simp only [List.cons_append, List.takeWhile_cons, ih]

/-! ### `trimSpace` on ids -/

theorem dropWhile_of_forall {p : Char → Bool} {l : List Char} (h : ∀ c ∈ l, p c = false) :
    l.dropWhile p = l := by
  cases l with
  | nil => rfl
  | cons c l => simp [List.dropWhile_cons, h c (List.mem_cons_self c l)]

/-- An id with no white space is its own `trimSpace`. -/
theorem trimSpace_of_forall {s : String} (h : ∀ c ∈ s.toList, isSpace c = false) :
    trimSpace s = s := by
  have h' : ∀ c ∈ s.toList.reverse, isSpace c = false := fun c hc => h c (List.mem_reverse.mp hc)
  simp only [trimSpace, dropWhile_of_forall h, dropWhile_of_forall h', List.reverse_reverse]
  rfl

/-! ### Decoding -/

theorem unescapeChars_cons_of_ne {c : Char} (rest : List Char) (h : c ≠ '\\') :
    unescapeChars (c :: rest) = (unescapeChars rest).map (c :: ·) :=
  unescapeChars.eq_4 c rest (fun _ _ _ hc => absurd hc h) h

/-- A piece without backslashes decodes to itself. -/
theorem unescapeChars_of_not_mem {l : List Char} (h : '\\' ∉ l) : unescapeChars l = some l := by
  induction l with
  | nil => rfl
  | cons c l ih =>
    rw [List.mem_cons, not_or] at h
    rw [unescapeChars_cons_of_ne _ (Ne.symm h.1), ih h.2]
    rfl

/-- **Decoding is piecewise.** Once `xs` decodes, `xs ++ ys` decodes to its
decoding followed by that of `ys`. -/
theorem unescapeChars_append {xs a : List Char} (ys : List Char) (h : unescapeChars xs = some a) :
    unescapeChars (xs ++ ys) = (unescapeChars ys).map (a ++ ·) := by
  induction xs using unescapeChars.induct generalizing a with
  | case1 => cases h; simp
  | case2 h₁ h₂ rest x y hy hx ih =>
    simp only [unescapeChars, hx, hy, Option.map_eq_some'] at h
    obtain ⟨a', ha', rfl⟩ := h
    simp [unescapeChars, hx, hy, ih ha', Option.map_map, Function.comp_def]
  | case3 h₁ h₂ rest hne =>
    cases h₁' : hexVal h₁ <;> cases h₂' : hexVal h₂ <;> simp_all [unescapeChars]
  | case4 tail hne =>
    rw [unescapeChars.eq_3 tail hne] at h
    cases h
  | case5 c rest _ hc ih =>
    rw [unescapeChars_cons_of_ne _ hc, Option.map_eq_some'] at h
    obtain ⟨a', ha', rfl⟩ := h
    rw [List.cons_append, unescapeChars_cons_of_ne _ hc, ih ha', Option.map_map]
    rfl

/-! ### `slurmCgroupPathRegex` -/

theorem jobDigits_eq (l : List Char) :
    jobDigits l = if ['/', 'j', 'o', 'b', '_'] <+: l then
      (if ((l.drop 5).takeWhile Char.isDigit).isEmpty then none
       else some ((l.drop 5).takeWhile Char.isDigit))
    else none := by
  unfold jobDigits
  split
  · simp
  · rename_i hne
    rw [if_neg]
    rintro ⟨t, rfl⟩
    exact hne t rfl

theorem jobDigits_append {xs ys : List Char} (hxs : xs ≠ []) (hys : SlashFirst ys) :
    jobDigits (xs ++ ys) = jobDigits xs := by
  have hp : ['/', 'j', 'o', 'b', '_'] <+: xs ++ ys ↔ ['/', 'j', 'o', 'b', '_'] <+: xs :=
    ⟨prefix_of_prefix_append (by decide) hxs hys, fun h => h.trans (List.prefix_append _ _)⟩
  simp only [jobDigits_eq, hp]
  split
  · rename_i h
    rw [List.drop_append_of_le_length (by simpa using h.length_le),
      takeWhile_append_of_slashFirst (show Char.isDigit '/' = false from rfl) hys]
  · rfl

theorem firstJob_append {ys : List Char} (hys : SlashFirst ys) (xs : List Char) :
    firstJob (xs ++ ys) = (firstJob xs).orElse fun _ => firstJob ys := by
  induction xs with
  | nil => rfl
  | cons x xs ih =>
    rw [List.cons_append, firstJob, ← List.cons_append, jobDigits_append (List.cons_ne_nil x xs) hys,
      ih, firstJob]
    cases jobDigits (x :: xs) <;> rfl

/-- The digits of `/job_N`, when `N` is a run of digits that the next piece
does not extend. -/
theorem jobDigits_job {N tail : List Char} (hN : N ≠ []) (hd : ∀ c ∈ N, c.isDigit = true)
    (htail : SlashFirst tail) : jobDigits ("/job_".toList ++ N ++ tail) = some N := by
  have htw : (N ++ tail).takeWhile Char.isDigit = N := by
    rw [takeWhile_append_of_slashFirst (show Char.isDigit '/' = false from rfl) htail,
      List.takeWhile_eq_self_iff.mpr hd]
  rw [List.append_assoc, jobDigits_eq, if_pos ⟨N ++ tail, rfl⟩]
  simp only [show ("/job_".toList ++ (N ++ tail)).drop 5 = N ++ tail from rfl, htw]
  cases N with
  | nil => exact absurd rfl hN
  | cons c N => rfl

theorem slurmMatch_append {xs ys : List Char} (hxs : isInfixOf "/slurm".toList xs = false)
    (hys : SlashFirst ys) : slurmMatch (xs ++ ys) = slurmMatch ys := by
  induction xs with
  | nil => rfl
  | cons x xs ih =>
    simp only [isInfixOf, Bool.or_eq_false_iff] at hxs
    rw [List.cons_append, slurmMatch, ← List.cons_append,
      isPrefixOf_append (by decide) (List.cons_ne_nil x xs) hys, hxs.1, ih hxs.2]
    exact Option.orElse_none _

/-- Past `/job_N`, the Slurm regex sees only what follows. -/
theorem slurmMatch_jobTail {N tail : List Char} (hd : ∀ c ∈ N, c.isDigit = true)
    (htail : SlashFirst tail) : slurmMatch ("/job_".toList ++ N ++ tail) = slurmMatch tail := by
  have hN : '/' ∉ "job_".toList ++ N := by
    intro h
    rcases List.mem_append.mp h with h | h
    · revert h; decide
    · exact absurd (hd _ h) (by decide)
  have hslurm : isInfixOf "/slurm".toList ("/job_".toList ++ N) = false := by
    rw [show "/job_".toList ++ N = '/' :: ("job_".toList ++ N) from rfl, isInfixOf,
      isInfixOf_of_not_mem (show "/slurm".toList.head? = some '/' from rfl) hN]
    rfl
  rw [List.append_assoc, ← List.append_assoc, slurmMatch_append hslurm htail]

theorem orElse_eq_none {α : Type} {a : Option α} {f : Unit → Option α} :
    a.orElse f = none ↔ a = none ∧ f () = none := by
  cases a <;> simp [Option.orElse]

/-- **The Slurm regex on a job's path.** Below a path `pre` that holds
`/slurm` and does not match, the path of `job_N`, followed by a part that does
not match on its own, captures `N`: a later `/slurm` would need a `/job_`
after it, and the lazy group stops at the first `/job_`, which is `N`'s. -/
theorem slurmMatch_job {N tail : List Char} (hN : N ≠ []) (hd : ∀ c ∈ N, c.isDigit = true)
    (htail : SlashFirst tail) (htail' : slurmMatch tail = none) :
    ∀ pre : List Char, slurmMatch pre = none → isInfixOf "/slurm".toList pre = true →
      slurmMatch (pre ++ ("/job_".toList ++ N ++ tail)) = some N
  | [], _, hsl => absurd hsl (by decide)
  | x :: xs, hpre, hsl => by
    have hR : SlashFirst ("/job_".toList ++ N ++ tail) := by simp [List.append_assoc]
    rw [slurmMatch, orElse_eq_none] at hpre
    rw [List.cons_append, slurmMatch]
    by_cases hin : isInfixOf "/slurm".toList xs = true
    · rw [slurmMatch_job hN hd htail htail' xs hpre.1 hin]; rfl
    · have hx : "/slurm".toList.isPrefixOf (x :: xs) = true := by
        rw [isInfixOf, Bool.or_eq_true] at hsl
        exact hsl.resolve_right hin
      rw [hx, if_pos rfl] at hpre
      have hlen : 6 ≤ (x :: xs).length := by
        simpa using (List.isPrefixOf_iff_prefix.mp hx).length_le
      have hjob : firstJob ("/job_".toList ++ N ++ tail) = some N := by
        show (jobDigits ("/job_".toList ++ N ++ tail)).orElse
          (fun _ => firstJob ("job_".toList ++ N ++ tail)) = some N
        rw [jobDigits_job hN hd htail]
        rfl
      rw [slurmMatch_append (by simpa using hin) hR, slurmMatch_jobTail hd htail, htail',
        ← List.cons_append, isPrefixOf_append (by decide) (List.cons_ne_nil x xs) hR, hx, if_pos rfl,
        List.drop_append_of_le_length hlen, firstJob_append hR, hpre.2, hjob]
      rfl

/-! ### `libvirtCgroupPathRegex` -/

theorem qemuTail_cons_of_ne {c : Char} (cs : List Char) (h : c ≠ '-') : qemuTail (c :: cs) = none :=
  qemuTail.eq_2 _ fun _ hc => h (List.cons.inj hc).1

theorem firstQemu_cons_of_ne {c : Char} (cs : List Char) (h : c ≠ '-') :
    firstQemu (c :: cs) = firstQemu cs := by
  rw [firstQemu, qemuTail_cons_of_ne cs h]
  rfl

theorem firstQemu_of_qemuTail {l v : List Char} (h : qemuTail l = some v) : firstQemu l = some v := by
  cases l with
  | nil => cases h
  | cons c l => rw [firstQemu, h]; rfl

theorem libvirtMatch_append_of_some {ys : List Char} {v : List Char} (h : libvirtMatch ys = some v) :
    ∀ xs : List Char, libvirtMatch (xs ++ ys) = some v
  | [] => h
  | x :: xs => by rw [List.cons_append, libvirtMatch, libvirtMatch_append_of_some h xs]; rfl

theorem libvirtMatch_append_of_not_mem {xs ys : List Char} (hxs : '/' ∉ xs) :
    libvirtMatch (xs ++ ys) = libvirtMatch ys := by
  induction xs with
  | nil => rfl
  | cons x xs ih =>
    rw [List.mem_cons, not_or] at hxs
    rw [List.cons_append, libvirtMatch, ih hxs.2, if_neg (Ne.symm hxs.1)]
    exact Option.orElse_none _

/-- A lower-case hexadecimal digit is no `/`, `.` or white space. -/
theorem toNat_of_isHexDigit {c : Char} (h : isHexDigit c = true) :
    (48 ≤ c.toNat ∧ c.toNat ≤ 57) ∨ (97 ≤ c.toNat ∧ c.toNat ≤ 102) := by
  simp only [isHexDigit, Char.isDigit, Bool.or_eq_true, Bool.and_eq_true, decide_eq_true_eq] at h
  simp only [Char.le_def] at h
  rcases h with ⟨h₁, h₂⟩ | ⟨h₁, h₂⟩
  · exact .inl ⟨h₁, h₂⟩
  · exact .inr ⟨h₁, h₂⟩

/-- The decoded name of a VM's scope. -/
def vmScopeName (K H : List Char) : List Char :=
  "machine-qemu-".toList ++ K ++ "-instance-".toList ++ H ++ ".scope".toList

/-- A character that is no digit, no hex digit and none of the scope name's
fixed characters does not occur in it. -/
theorem not_mem_vmScopeName {K H : List Char} {d : Char} (hKd : ∀ c ∈ K, c.isDigit = true)
    (hHx : ∀ c ∈ H, isHexDigit c = true) (hd : d.isDigit = false) (hh : isHexDigit d = false)
    (hlit : d ∉ "machine-qemu-".toList ++ "-instance-".toList ++ ".scope".toList) :
    d ∉ vmScopeName K H := by
  intro h
  simp only [vmScopeName, List.mem_append, not_or] at h hlit
  rcases h with (((h | h) | h) | h) | h
  · exact hlit.1.1 h
  · exact absurd (hKd _ h) (by simp [hd])
  · exact hlit.1.2 h
  · exact absurd (hHx _ h) (by simp [hh])
  · exact hlit.2 h

theorem qemuTail_vm {K H rest : List Char} (hK : K ≠ []) (hKd : ∀ c ∈ K, c.isDigit = true)
    (hH : H ≠ []) (hHx : ∀ c ∈ H, isHexDigit c = true) :
    qemuTail ("-qemu-".toList ++ (K ++ ("-instance-".toList ++ (H ++ '.' :: rest)))) =
      some ("instance-".toList ++ H) := by
  have htK : (K ++ ("-instance-".toList ++ (H ++ '.' :: rest))).takeWhile Char.isDigit = K := by
    rw [List.takeWhile_append_of_pos hKd,
      show ("-instance-".toList ++ (H ++ '.' :: rest)).takeWhile Char.isDigit = [] from rfl,
      List.append_nil]
  have hdK : (K ++ ("-instance-".toList ++ (H ++ '.' :: rest))).dropWhile Char.isDigit =
      "-instance-".toList ++ (H ++ '.' :: rest) := by
    rw [List.dropWhile_append_of_pos hKd]; rfl
  have htH : (H ++ '.' :: rest).takeWhile isHexDigit = H := by
    rw [List.takeWhile_append_of_pos hHx,
      show ('.' :: rest).takeWhile isHexDigit = [] from rfl, List.append_nil]
  have hKe : K.isEmpty = false := List.isEmpty_eq_false.mpr hK
  have hHe : H.isEmpty = false := List.isEmpty_eq_false.mpr hH
  rw [show "-qemu-".toList ++ (K ++ ("-instance-".toList ++ (H ++ '.' :: rest))) =
      '-' :: 'q' :: 'e' :: 'm' :: 'u' :: '-' :: (K ++ ("-instance-".toList ++ (H ++ '.' :: rest)))
      from rfl, qemuTail.eq_1, htK, hdK, hKe, if_neg Bool.false_ne_true]
  show (if (List.takeWhile isHexDigit (H ++ '.' :: rest)).isEmpty = true then none
    else some ("instance-".toList ++ List.takeWhile isHexDigit (H ++ '.' :: rest))) = _
  rw [htH, hHe, if_neg Bool.false_ne_true]

/-- **The libvirt regex on a VM's path.** Whatever the path `pre` above it,
the path of a VM's scope, followed by a part that does not match on its own,
captures `instance-H`: the greedy `^.*/` can only stop at the `/` before the
scope's name, and from there the lazy group stops at its `-qemu-`. -/
theorem libvirtMatch_vm {K H tail : List Char} (hK : K ≠ []) (hKd : ∀ c ∈ K, c.isDigit = true)
    (hH : H ≠ []) (hHx : ∀ c ∈ H, isHexDigit c = true) (htail : libvirtMatch tail = none)
    (pre : List Char) :
    libvirtMatch (pre ++ '/' :: (vmScopeName K H ++ tail)) = some ("instance-".toList ++ H) := by
  refine libvirtMatch_append_of_some ?_ pre
  rw [libvirtMatch, libvirtMatch_append_of_not_mem (not_mem_vmScopeName hKd hHx rfl rfl (by decide)),
    htail, if_pos rfl]
  simp only [vmScopeName, List.append_assoc]
  show firstQemu ('a' :: 'c' :: 'h' :: 'i' :: 'n' :: 'e' ::
    ("-qemu-".toList ++ (K ++ ("-instance-".toList ++ (H ++ '.' :: ("scope".toList ++ tail)))))) = _
  rw [firstQemu_cons_of_ne _ (by decide), firstQemu_cons_of_ne _ (by decide),
    firstQemu_cons_of_ne _ (by decide), firstQemu_cons_of_ne _ (by decide),
    firstQemu_cons_of_ne _ (by decide), firstQemu_cons_of_ne _ (by decide)]
  exact firstQemu_of_qemuTail (qemuTail_vm hK hKd hH hHx)

end Collector
end Ceems
