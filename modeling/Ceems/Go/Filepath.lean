import Mathlib.Logic.Basic
import Ceems.Go.Strings

/-!
# `filepath.WalkDir` over a directory tree, and lexical paths

`cgroupManager.discover` enumerates the cgroup hierarchy with
`filepath.WalkDir(root, fn)`. The walk visits `root` and then, recursively,
every entry of every directory in lexical pre-order: it calls `fn` on the
directory first, then lists it with `os.ReadDir`; a listing that fails is
reported to `fn` in a second call on the same directory, and whatever error
`fn` returns stops the walk and becomes the walk's result. The path of an
entry is `filepath.Join` of its directory's path and its name.

An `Entry` is the file system below `root` as the walk finds it: a file, or a
directory together with the outcome of listing it (its entries in the order
`os.ReadDir` returns them, or the error it fails with). A directory that
disappears after its parent was listed is a `dir` whose listing fails with
`notExist`. The callback is modelled as a state-passing function, the state
being what the Go closure captures.

The lexical functions of `path/filepath` on Unix (`Clean`, `Join`, `Dir`,
`Rel`) are modelled from their documented behaviour, element by element:

* `Filepath.join_snoc` — joining ends in a plain element appended to the join
  of the rest;
* `Filepath.IsClean.join` — on a clean path, `Join` with a plain element is
  the path, `/` and the element;
* `Filepath.rel_below` — a target whose elements are the base's followed by
  `k` is `k` relative to the base;
* `Filepath.join_dir_join` — `Dir` and `Join` undo each other.

On the walk:

* `walkDir` / `walkDir.list` — Go's `walkDir` and its loop over the listing;
* `WalkDir` — the entry point, which first `Lstat`s the root;
* `visits` — the pre-order list of the paths and entries the walk reaches
  when every directory can be listed (`listable`);
* `walkDir_eq_foldlM` — on such a tree the walk is the callback folded over
  `visits`;
* `walkDir_ok_iff`, `walkDir_eq_error` — with a callback that fails exactly
  when it is handed an error, the walk succeeds exactly on trees whose every
  directory can be listed, and otherwise fails with the error of the first
  directory, in walk order, whose listing fails (`firstListingError`).

`SkipDir`, which the collector's callback never returns, and the partial
listing `os.ReadDir` returns alongside an error, which such a callback never
looks at, are not modelled.
-/

namespace Ceems

/-- The error a file-system call fails with. -/
inductive FsError where
  | notExist
  | permission
  deriving DecidableEq, Repr

/-- What the walk callback learns of an entry (`fs.DirEntry`). -/
structure DirEntry where
  name : String
  isDir : Bool
  deriving DecidableEq, Repr

/-- The file system below the walk's root: a file, or a directory with the
outcome of listing it. -/
inductive Entry where
  | file (name : String)
  | dir (name : String) (listing : Except FsError (List Entry))

namespace Entry

/-- The entry's name in its parent's listing. -/
def name : Entry → String
  | file n => n
  | dir n _ => n

/-- The `fs.DirEntry` the callback receives. -/
def toDirEntry : Entry → DirEntry
  | file n => ⟨n, false⟩
  | dir n _ => ⟨n, true⟩

end Entry

/-! ### Lexical paths: `Clean`, `Join`, `Dir` and `Rel` -/

namespace Filepath

/-- Whether a path starts at the root. -/
def rooted (path : String) : Bool := path.toList.head? == some '/'

/-- One element in `Clean`'s elimination, with the elements kept so far last
first: empty and `.` elements go, `..` takes the element before it along
(at the root it goes alone, and after leading `..` elements of a relative
path it stays), and any other element stays. -/
def cleanStep (root : Bool) (out : List String) (e : String) : List String :=
  if e = "" ∨ e = "." then out
  else if e = ".." then
    match out with
    | d :: rest => if d = ".." then e :: out else rest
    | [] => if root then [] else [e]
  else e :: out

/-- The elements `Clean` keeps of a path, last first. -/
def cleanOut (path : String) : List String :=
  (split path '/').foldl (cleanStep (rooted path)) []

/-- A path of elements, from the root or not. -/
def render (root : Bool) (elems : List String) : String :=
  (if root then "/" else "") ++ "/".intercalate elems

/-- `filepath.Clean` on Unix, as its documentation states it: runs of
separators become one, `.` elements go, each `..` goes along with the element
before it, a `..` at the root goes alone, and the empty result is `.`. -/
def clean (path : String) : String :=
  let s := render (rooted path) (cleanOut path).reverse
  if s = "" then "." else s

/-- `filepath.Join`: the elements from the first non-empty one on, joined by
`/` and cleaned; `""` when every element is empty. -/
def join (elem : List String) : String :=
  match elem.dropWhile (· == "") with
  | [] => ""
  | es => clean ("/".intercalate es)

/-- `filepath.Dir`: the path up to its last separator, cleaned. -/
def dir (path : String) : String :=
  clean ⟨(path.toList.reverse.dropWhile (· != '/')).reverse⟩

/-- The elements `Rel` steps through on a path it has cleaned: the empty
element before the separator of a rooted path, then the elements `Clean`
keeps, first to last; `.` has none. -/
def relElems (path : String) : List String :=
  (if rooted path then [""] else []) ++ (cleanOut path).reverse

/-- The loop of `Rel` that positions the base and the target at their first
differing elements: what is left of each. -/
def dropCommon : List String → List String → List String × List String
  | b :: bs, t :: ts => if b = t then dropCommon bs ts else (b :: bs, t :: ts)
  | bs, ts => (bs, ts)

/-- `filepath.Rel` on Unix. Both paths are cleaned; equal paths give `.`; a
rooted and an unrooted path give an error, and so does a base whose first
element left after the shared ones is `..`; otherwise the answer is one `..`
for each element left of the base, then the elements left of the target. -/
def rel (basepath targpath : String) : Except String String :=
  let base := clean basepath
  let targ := clean targpath
  let err : Except String String :=
    .error ("Rel: can't make " ++ targpath ++ " relative to " ++ basepath)
  if targ = base then .ok "."
  else if rooted base != rooted targ then err
  else
    match dropCommon (relElems base) (if targ = "." then ["."] else relElems targ) with
    | ([], t) => .ok ("/".intercalate t)
    | (b :: bs, t) =>
      if b = ".." then err else .ok ("/".intercalate (List.replicate (bs.length + 1) ".." ++ t))

/-- A path element that `Clean` keeps as it is. -/
def PlainElem (e : String) : Prop := e ≠ "" ∧ e ≠ "." ∧ e ≠ ".." ∧ '/' ∉ e.toList

instance (e : String) : Decidable (PlainElem e) := inferInstanceAs (Decidable (_ ∧ _ ∧ _ ∧ _))

/-- What `Clean` keeps, last first: plain elements, after the `..` elements
that climb above the start of a relative path. -/
def Kept (root : Bool) (out : List String) : Prop :=
  ∃ plains k, out = plains ++ List.replicate k ".." ∧ (∀ e ∈ plains, PlainElem e) ∧
    (root = true → k = 0)

theorem cleanStep_skip {root : Bool} {e : String} (h : e = "" ∨ e = ".") (out : List String) :
    cleanStep root out e = out := by
  simp only [cleanStep, if_pos h]

theorem cleanStep_plain {root : Bool} {e : String} (he : PlainElem e) (out : List String) :
    cleanStep root out e = e :: out := by
  obtain ⟨h₁, h₂, h₃, -⟩ := he
  simp [cleanStep, h₁, h₂, h₃]

@[simp] theorem cleanStep_dotdot_cons (root : Bool) (d : String) (rest : List String) :
    cleanStep root (d :: rest) ".." = if d = ".." then ".." :: d :: rest else rest := by
  simp [cleanStep]

@[simp] theorem cleanStep_dotdot_nil (root : Bool) :
    cleanStep root [] ".." = if root then [] else [".."] := by
  simp [cleanStep]

theorem cleanStep_kept {root : Bool} {out : List String} {e : String} (hk : Kept root out)
    (he : '/' ∉ e.toList) : Kept root (cleanStep root out e) := by
  obtain ⟨plains, k, rfl, hp, hr⟩ := hk
  by_cases hskip : e = "" ∨ e = "."
  · rw [cleanStep_skip hskip]; exact ⟨plains, k, rfl, hp, hr⟩
  by_cases hdd : e = ".."
  · subst hdd
    cases plains with
    | cons d rest =>
      have hd : d ≠ ".." := (hp d (List.mem_cons_self _ _)).2.2.1
      rw [List.cons_append, cleanStep_dotdot_cons, if_neg hd]
      exact ⟨rest, k, rfl, fun e he => hp e (List.mem_cons_of_mem _ he), hr⟩
    | nil =>
      cases k with
      | zero =>
        cases root
        · exact ⟨[], 1, by simp, by simp, by simp⟩
        · exact ⟨[], 0, by simp, by simp, fun _ => rfl⟩
      | succ k =>
        cases root
        · exact ⟨[], k + 2, by simp [List.replicate_succ], by simp, by simp⟩
        · exact absurd (hr rfl) (Nat.succ_ne_zero k)
  · have he' : PlainElem e := ⟨fun h => hskip (.inl h), fun h => hskip (.inr h), hdd, he⟩
    rw [cleanStep_plain he']
    exact ⟨e :: plains, k, rfl, by simpa [he'] using hp, hr⟩

theorem foldl_cleanStep_kept {root : Bool} :
    ∀ {out : List String} {es : List String}, Kept root out → (∀ e ∈ es, '/' ∉ e.toList) →
      Kept root (es.foldl (cleanStep root) out)
  | _, [], hk, _ => hk
  | _, e :: es, hk, hes => by
    rw [List.foldl_cons]
    exact foldl_cleanStep_kept (cleanStep_kept hk (hes e (List.mem_cons_self _ _)))
      fun e' he' => hes e' (List.mem_cons_of_mem _ he')

theorem foldl_cleanStep_dotdots {root : Bool} : ∀ (j k : Nat), (root = true → j + k = 0) →
    (List.replicate k "..").foldl (cleanStep root) (List.replicate j "..") =
      List.replicate (j + k) ".."
  | j, 0, _ => rfl
  | j, k + 1, hr => by
    have hstep : cleanStep root (List.replicate j "..") ".." = List.replicate (j + 1) ".." := by
      cases j with
      | zero => cases root <;> simp_all
      | succ j => simp [List.replicate_succ]
    rw [List.replicate_succ, List.foldl_cons, hstep, foldl_cleanStep_dotdots (j + 1) k fun h => by have := hr h; omega]
    congr 1; omega

theorem foldl_cleanStep_plains {root : Bool} :
    ∀ (plains acc : List String), (∀ e ∈ plains, PlainElem e) →
      plains.reverse.foldl (cleanStep root) acc = plains ++ acc
  | [], _, _ => rfl
  | p :: ps, acc, hp => by
    rw [List.reverse_cons, List.foldl_append, foldl_cleanStep_plains ps acc
      fun e he => hp e (List.mem_cons_of_mem _ he), List.foldl_cons, List.foldl_nil,
      cleanStep_plain (hp p (List.mem_cons_self _ _)), List.cons_append]

/-- **Cleaning again keeps what was kept.** -/
theorem foldl_cleanStep_reverse {root : Bool} {out : List String} (hk : Kept root out) :
    out.reverse.foldl (cleanStep root) [] = out := by
  obtain ⟨plains, k, rfl, hp, hr⟩ := hk
  rw [List.reverse_append, List.reverse_replicate, List.foldl_append]
  have : (List.replicate k "..").foldl (cleanStep root) (List.replicate 0 "..") =
      List.replicate (0 + k) ".." := foldl_cleanStep_dotdots 0 k (by simpa using hr)
  rw [List.replicate_zero, Nat.zero_add] at this
  rw [this, foldl_cleanStep_plains plains _ hp]

/-! #### Splitting at a separator -/

theorem split_append_sep (a b : String) : split (a ++ "/" ++ b) '/' = split a '/' ++ split b '/' := by
  have h : (a ++ "/" ++ b).toList = a.toList ++ '/' :: b.toList := by
    simp only [String.toList, String.data_append, List.append_assoc]; rfl
  rw [split, h, splitOn_append_cons, List.map_append]; rfl

/-! #### Rendering and cleaning again -/

theorem Kept.elem {root : Bool} {out : List String} (hk : Kept root out) :
    ∀ e ∈ out, e ≠ "" ∧ '/' ∉ e.toList := by
  obtain ⟨plains, k, rfl, hp, -⟩ := hk
  intro e he
  rcases List.mem_append.mp he with he | he
  · exact ⟨(hp e he).1, (hp e he).2.2.2⟩
  · rw [List.eq_of_mem_replicate he]; decide

theorem rooted_append {a : String} (ha : a ≠ "") (b : String) : rooted (a ++ b) = rooted a := by
  obtain ⟨c, cs, hc⟩ := List.exists_cons_of_ne_nil (fun h => ha (String.ext h))
  simp only [rooted, String.toList, String.data_append]
  rw [show a.data = c :: cs from hc]; rfl

theorem render_append (root : Bool) {es : List String} (hes : es ≠ []) (n : String) :
    render root (es ++ [n]) = render root es ++ "/" ++ n := by
  apply String.ext
  simp only [render, String.data_append]
  rw [show ("/".intercalate (es ++ [n])).data = _ from intercalate_toList "/" _,
    show ("/".intercalate es).data = _ from intercalate_toList "/" _]
  obtain ⟨e, es', rfl⟩ := List.exists_cons_of_ne_nil hes
  simp [intercalate_cons_flatten]

theorem split_render (root : Bool) {es : List String} (hes : es ≠ [])
    (h : ∀ e ∈ es, '/' ∉ e.toList) :
    split (render root es) '/' = (if root then [""] else []) ++ es := by
  cases root
  · exact split_intercalate '/' es h hes
  · have h₁ : render true es = "" ++ "/" ++ "/".intercalate es := by simp [render]
    have h₂ : split ("/".intercalate es) '/' = es := split_intercalate '/' es h hes
    rw [h₁, split_append_sep, h₂]
    rfl

theorem rooted_render (root : Bool) {es : List String} (hes : es ≠ [])
    (h : ∀ e ∈ es, e ≠ "" ∧ '/' ∉ e.toList) : rooted (render root es) = root := by
  obtain ⟨e, es', rfl⟩ := List.exists_cons_of_ne_nil hes
  obtain ⟨he, hs⟩ := h e (List.mem_cons_self _ _)
  obtain ⟨c, cs, hc⟩ := List.exists_cons_of_ne_nil (fun h => he (String.ext h))
  have hc' : c ≠ '/' := fun h' => hs (by rw [show e.toList = c :: cs from hc, h']; exact List.mem_cons_self _ _)
  cases root
  · have : (render false (e :: es')).toList.head? = some c := by
      rw [show (render false (e :: es')).toList = ("/".intercalate (e :: es')).toList from rfl,
        intercalate_toList, List.map_cons, intercalate_cons_flatten, show e.toList = c :: cs from hc]
      rfl
    show ((render false (e :: es')).toList.head? == some '/') = false
    rw [this]; simpa using hc'
  · rfl

theorem cleanOut_append_sep {a : String} (ha : a ≠ "") {e : String} (he : '/' ∉ e.toList) :
    cleanOut (a ++ "/" ++ e) = cleanStep (rooted a) (cleanOut a) e := by
  rw [cleanOut, split_append_sep, split_eq_singleton he, String.append_assoc, rooted_append ha,
    List.foldl_append, List.foldl_cons, List.foldl_nil]
  rfl

theorem render_ne_empty (root : Bool) {es : List String} (hes : es ≠ [])
    (h : ∀ e ∈ es, e ≠ "" ∧ '/' ∉ e.toList) : render root es ≠ "" := by
  intro h0
  have hs := split_render root hes fun e he => (h e he).2
  rw [h0] at hs
  change [""] = _ at hs
  cases root
  · simp only [Bool.false_eq_true, if_false, List.nil_append] at hs
    exact (h "" (hs ▸ List.mem_singleton_self _)).1 rfl
  · exact hes (List.cons.inj hs).2.symm

theorem kept_cleanOut (a : String) : Kept (rooted a) (cleanOut a) :=
  foldl_cleanStep_kept ⟨[], 0, rfl, by simp, fun _ => rfl⟩ fun _ he => not_mem_of_mem_split he

/-- **Cleaning a cleaned path** gives back its elements. -/
theorem cleanOut_render {root : Bool} {out : List String} (hk : Kept root out) (ho : out ≠ []) :
    rooted (render root out.reverse) = root ∧ cleanOut (render root out.reverse) = out := by
  have hrev : out.reverse ≠ [] := by simpa using ho
  have helem : ∀ e ∈ out.reverse, e ≠ "" ∧ '/' ∉ e.toList :=
    fun e he => hk.elem e (List.mem_reverse.mp he)
  have hroot := rooted_render root hrev helem
  refine ⟨hroot, ?_⟩
  have hlead : ((if root then [""] else []) : List String).foldl (cleanStep root) [] = [] := by
    cases root
    · rfl
    · show cleanStep true [] "" = []
      exact cleanStep_skip (.inl rfl) []
  rw [cleanOut, hroot, split_render root hrev fun e he => (helem e he).2, List.foldl_append, hlead,
    foldl_cleanStep_reverse hk]

theorem clean_append_plain {a : String} (ha : a ≠ "") {n : String} (hn : PlainElem n) :
    clean (a ++ "/" ++ n) = render (rooted a) ((cleanOut a).reverse ++ [n]) := by
  have hne : render (rooted a) ((cleanOut a).reverse ++ [n]) ≠ "" := by
    refine render_ne_empty _ (by simp) fun e he => ?_
    rcases List.mem_append.mp he with he | he
    · exact (kept_cleanOut a).elem e (List.mem_reverse.mp he)
    · rw [List.mem_singleton.mp he]; exact ⟨hn.1, hn.2.2.2⟩
  simp only [clean]
  rw [String.append_assoc, rooted_append ha, ← String.append_assoc, cleanOut_append_sep ha hn.2.2.2,
    cleanStep_plain hn, List.reverse_cons, if_neg hne]

theorem clean_plain {n : String} (hn : PlainElem n) : clean n = n := by
  have hroot : rooted n = false := by
    cases h : n.toList with
    | nil => exact absurd (String.ext h) hn.1
    | cons c cs =>
      have : c ≠ '/' := fun hc => hn.2.2.2 (by rw [h, hc]; exact List.mem_cons_self _ _)
      show (n.toList.head? == some '/') = false
      rw [h]; simpa using this
  have hout : cleanOut n = [n] := by
    rw [cleanOut, split_eq_singleton hn.2.2.2, List.foldl_cons, List.foldl_nil, cleanStep_plain hn]
  simp only [clean, hroot, hout, List.reverse_singleton]
  rw [if_neg (show render false [n] ≠ "" from hn.1)]
  rfl

theorem dir_append_sep (a : String) {n : String} (hn : '/' ∉ n.toList) :
    dir (a ++ "/" ++ n) = clean (a ++ "/") := by
  have h : (a ++ "/" ++ n).toList.reverse = n.toList.reverse ++ '/' :: a.toList.reverse := by
    simp only [String.toList, String.data_append, List.reverse_append]; rfl
  rw [dir, h, List.dropWhile_append_of_pos fun c hc => by
      simpa using ne_of_mem_of_not_mem (List.mem_reverse.mp hc) hn,
    List.dropWhile_cons_of_neg (by simp)]
  congr 1
  apply String.ext
  simp only [List.reverse_cons, List.reverse_reverse, String.data_append]
  rfl

theorem join_pair {d : String} (hd : d ≠ "") (n : String) : join [d, n] = clean (d ++ "/" ++ n) := by
  simp [join, hd]; rfl

theorem join_empty {n : String} (hn : n ≠ "") : join ["", n] = clean n := by
  simp [join, hn]; rfl

theorem clean_render_sep {root : Bool} {out : List String} (hk : Kept root out) (ho : out ≠ []) :
    clean (render root out.reverse ++ "/") = render root out.reverse := by
  obtain ⟨hroot, hout⟩ := cleanOut_render hk ho
  have hR := render_ne_empty root (by simpa using ho) fun e he => hk.elem e (List.mem_reverse.mp he)
  have h := @cleanOut_append_sep _ hR "" (List.not_mem_nil _)
  rw [String.append_empty, hout, cleanStep_skip (.inl rfl)] at h
  simp only [clean]
  rw [rooted_append hR, hroot, h, if_neg hR]

theorem join_render {root : Bool} {out : List String} (hk : Kept root out) (ho : out ≠ [])
    {n : String} (hn : PlainElem n) :
    join [render root out.reverse, n] = render root (out.reverse ++ [n]) := by
  obtain ⟨hroot, hout⟩ := cleanOut_render hk ho
  have hR := render_ne_empty root (by simpa using ho) fun e he => hk.elem e (List.mem_reverse.mp he)
  rw [join_pair hR, clean_append_plain hR hn, hroot, hout]

/-- **`Dir` and `Join` undo each other.** Joining a plain element to the
directory of a path that ends in it gives the path back. -/
theorem join_dir_join (d : String) {n : String} (hn : PlainElem n) :
    join [dir (join [d, n]), n] = join [d, n] := by
  obtain ⟨root, out, hk, hj⟩ : ∃ root out, Kept root out ∧
      join [d, n] = render root (out.reverse ++ [n]) := by
    by_cases hd : d = ""
    · subst hd
      exact ⟨false, [], ⟨[], 0, rfl, by simp, by simp⟩, by rw [join_empty hn.1, clean_plain hn]; rfl⟩
    · exact ⟨rooted d, cleanOut d, kept_cleanOut d, by rw [join_pair hd, clean_append_plain hd hn]⟩
  rw [hj]
  by_cases ho : out = []
  · subst ho
    cases root
    · show join [dir n, n] = n
      rw [dir, List.dropWhile_eq_nil_iff.mpr fun c hc => by
        simpa using ne_of_mem_of_not_mem (List.mem_reverse.mp hc) hn.2.2.2]
      rw [show join [clean ⟨[].reverse⟩, n] = clean ("." ++ "/" ++ n) from join_pair (by decide) n,
        clean_append_plain (by decide) hn]
      rfl
    · show join [dir ("" ++ "/" ++ n), n] = "" ++ "/" ++ n
      rw [dir_append_sep _ hn.2.2.2, show clean ("" ++ "/") = "/" from rfl, join_pair (by decide) n,
        clean_append_plain (by decide) hn]
      rfl
  · have hrev : out.reverse ≠ [] := by simpa using ho
    rw [render_append root hrev, dir_append_sep _ hn.2.2.2, clean_render_sep hk ho,
      join_render hk ho hn, render_append root hrev]

/-! #### `Join` onto a clean path, and `Rel` below a base -/

theorem Kept.cons {root : Bool} {out : List String} (hk : Kept root out) {n : String}
    (hn : PlainElem n) : Kept root (n :: out) := by
  obtain ⟨plains, k, rfl, hp, hr⟩ := hk
  exact ⟨n :: plains, k, rfl, by simpa [hn] using hp, hr⟩

/-- **Cleaning keeps the elements.** -/
theorem cleanOut_clean (p : String) : rooted (clean p) = rooted p ∧ cleanOut (clean p) = cleanOut p := by
  by_cases h : cleanOut p = []
  · have hc : clean p = if rooted p then "/" else "." := by
      cases hr : rooted p <;> simp only [clean, h, hr] <;> decide
    rw [hc, h]
    cases rooted p <;> exact ⟨rfl, rfl⟩
  · have hne := render_ne_empty (rooted p) (by simpa using h)
      fun e he => (kept_cleanOut p).elem e (List.mem_reverse.mp he)
    have hc : clean p = render (rooted p) (cleanOut p).reverse := by
      simp only [clean]; rw [if_neg hne]
    rw [hc]
    exact cleanOut_render (kept_cleanOut p) h

theorem relElems_clean (p : String) : relElems (clean p) = relElems p := by
  rw [relElems, relElems, (cleanOut_clean p).1, (cleanOut_clean p).2]

theorem relElems_render {root : Bool} {out : List String} (hk : Kept root out) (ho : out ≠ []) :
    relElems (render root out.reverse) = (if root then [""] else []) ++ out.reverse := by
  rw [relElems, (cleanOut_render hk ho).1, (cleanOut_render hk ho).2]

/-- **`Join` appends a plain element.** Joining elements the last of which is
plain appends it to the join of the others. -/
theorem join_snoc (xs : List String) {n : String} (hn : PlainElem n) :
    join (xs ++ [n]) = render (rooted (join xs)) ((cleanOut (join xs)).reverse ++ [n]) := by
  rcases h : xs.dropWhile (· == "") with _ | ⟨x, es⟩
  · -- every element before `n` is empty
    have hd : (xs ++ [n]).dropWhile (· == "") = [n] := by
      rw [List.dropWhile_append, h]; simp [hn.1]
    have hj : join xs = "" := by rw [join, h]
    rw [hj, join, hd]
    exact clean_plain hn
  · have hd : (xs ++ [n]).dropWhile (· == "") = x :: es ++ [n] := by
      rw [List.dropWhile_append, h]; rfl
    have hx : x ≠ "" := by simpa [h] using List.head?_dropWhile_not (· == "") xs
    have hy : "/".intercalate (x :: es) ≠ "" := fun h0 => hx (by
      have := congrArg String.toList h0
      rw [intercalate_toList, List.map_cons, intercalate_cons_flatten] at this
      exact String.ext (List.append_eq_nil.mp this).1)
    have hi : "/".intercalate (x :: es ++ [n]) = "/".intercalate (x :: es) ++ "/" ++ n :=
      render_append false (List.cons_ne_nil _ _) n
    have hj : join xs = clean ("/".intercalate (x :: es)) := by rw [join, h]
    rw [join, hd]
    show clean ("/".intercalate (x :: es ++ [n])) = _
    rw [hi, clean_append_plain hy hn, hj, (cleanOut_clean _).1, (cleanOut_clean _).2]

/-- A path `Clean` leaves as it is, with at least one element besides the
root. -/
def IsClean (p : String) : Prop :=
  ∃ root out, Kept root out ∧ out ≠ [] ∧ p = render root out.reverse

/-- The join of elements the last of which is plain is clean. -/
theorem isClean_join_snoc (xs : List String) {n : String} (hn : PlainElem n) :
    IsClean (join (xs ++ [n])) :=
  ⟨_, n :: cleanOut (join xs), (kept_cleanOut _).cons hn, List.cons_ne_nil _ _,
    by rw [join_snoc xs hn, List.reverse_cons]⟩

theorem relElems_join_snoc (xs : List String) {n : String} (hn : PlainElem n) :
    relElems (join (xs ++ [n])) = relElems (join xs) ++ [n] := by
  rw [join_snoc xs hn, ← List.reverse_cons, relElems_render ((kept_cleanOut _).cons hn)
    (List.cons_ne_nil _ _), relElems, List.reverse_cons, List.append_assoc]

/-- **`Join` onto a clean path.** A plain element is appended with one
separator, and the result is clean. -/
theorem IsClean.join {p : String} (hp : IsClean p) {n : String} (hn : PlainElem n) :
    Filepath.join [p, n] = p ++ "/" ++ n ∧ IsClean (p ++ "/" ++ n) ∧
      relElems (p ++ "/" ++ n) = relElems p ++ [n] := by
  obtain ⟨root, out, hk, ho, rfl⟩ := hp
  have happ : render root out.reverse ++ "/" ++ n = render root (n :: out).reverse := by
    rw [List.reverse_cons, render_append root (by simpa using ho)]
  refine ⟨by rw [join_render hk ho hn, happ, List.reverse_cons],
    ⟨root, n :: out, hk.cons hn, List.cons_ne_nil _ _, happ⟩, ?_⟩
  rw [happ, relElems_render (hk.cons hn) (List.cons_ne_nil _ _), relElems_render hk ho,
    List.reverse_cons, List.append_assoc]

theorem dropCommon_append : ∀ l k : List String, dropCommon l (l ++ k) = ([], k)
  | [], _ => rfl
  | x :: l, k => by rw [List.cons_append, dropCommon, if_pos rfl, dropCommon_append l k]

/-- A path is rooted exactly when `Rel`'s first element is the empty one. -/
theorem head?_relElems (p : String) : (relElems p).head? = some "" ↔ rooted p = true := by
  cases hr : rooted p
  · simp only [relElems, hr, Bool.false_eq_true, if_false, List.nil_append, iff_false]
    intro h
    exact ((kept_cleanOut p).elem "" (List.mem_reverse.mp (List.mem_of_mem_head? h))).1 rfl
  · simp [relElems, hr]

/-- **`Rel` below the base.** A target whose elements are the base's followed
by elements `k`, none empty, is `k` relative to the base. -/
theorem rel_below {b t : String} {k : List String} (hk : k ≠ []) (hne : ∀ e ∈ k, e ≠ "")
    (h : relElems t = relElems b ++ k) : rel b t = .ok ("/".intercalate k) := by
  rw [← relElems_clean t, ← relElems_clean b] at h
  have hne' : clean t ≠ clean b := fun he => hk (by simpa [he] using h)
  have hdot : clean t ≠ "." := fun he => hk (by
    rw [he, show relElems "." = [] from rfl] at h
    exact (List.append_eq_nil.mp h.symm).2)
  have hroot : rooted (clean b) = rooted (clean t) := by
    rw [Bool.eq_iff_iff, ← head?_relElems, ← head?_relElems, h]
    cases hb : relElems (clean b) with
    | nil =>
      obtain ⟨e, k', rfl⟩ := List.exists_cons_of_ne_nil hk
      simpa using hne e (List.mem_cons_self _ _)
    | cons x l => simp
  simp only [rel, if_neg hne', hroot, bne_self_eq_false, Bool.false_eq_true, if_false, if_neg hdot, h,
    dropCommon_append]

end Filepath

section Walk

variable {σ : Type} (fn : σ → String → Option DirEntry → Option FsError → Except FsError σ)

mutual
/-- Go's `walkDir`: call `fn` on the entry, then, for a directory, list it and
walk its entries in order; an error from `fn` ends the walk. -/
def walkDir : σ → String → Entry → Except FsError σ
  | st, path, e@(.file _) => fn st path (some e.toDirEntry) none
  | st, path, e@(.dir _ (.error err)) => do
    let st ← fn st path (some e.toDirEntry) none
    fn st path (some e.toDirEntry) (some err)
  | st, path, e@(.dir _ (.ok entries)) => do
    let st ← fn st path (some e.toDirEntry) none
    walkDir.list st path entries
/-- The loop of `walkDir` over a directory's listing. -/
def walkDir.list : σ → String → List Entry → Except FsError σ
  | st, _, [] => .ok st
  | st, path, d :: ds => do
    let st ← walkDir st (Filepath.join [path, d.name]) d
    walkDir.list st path ds
end

/-- `filepath.WalkDir(root, fn)`, given the outcome of `os.Lstat(root)`. -/
def WalkDir (st : σ) (root : String) (info : Except FsError Entry) : Except FsError σ :=
  match info with
  | .error err => fn st root none (some err)
  | .ok e => walkDir fn st root e

end Walk

mutual
/-- Every directory of the tree can be listed. -/
def listable : Entry → Bool
  | .file _ => true
  | .dir _ (.error _) => false
  | .dir _ (.ok entries) => listable.list entries
/-- Every directory of every tree of the list can be listed. -/
def listable.list : List Entry → Bool
  | [] => true
  | d :: ds => listable d && listable.list ds
end

mutual
/-- The paths and entries the walk reaches, in the order it reaches them. -/
def visits : String → Entry → List (String × Entry)
  | path, e@(.file _) => [(path, e)]
  | path, e@(.dir _ (.error _)) => [(path, e)]
  | path, e@(.dir _ (.ok entries)) => (path, e) :: visits.list path entries
/-- The paths and entries reached below a directory's listing. -/
def visits.list : String → List Entry → List (String × Entry)
  | _, [] => []
  | path, d :: ds => visits (Filepath.join [path, d.name]) d ++ visits.list path ds
end

mutual
/-- The error of the first directory of the tree, in walk order, whose
listing fails. -/
def firstListingError : Entry → Option FsError
  | .file _ => none
  | .dir _ (.error err) => some err
  | .dir _ (.ok entries) => firstListingError.list entries
/-- The error of the first directory of the trees of a listing, in walk
order, whose listing fails. -/
def firstListingError.list : List Entry → Option FsError
  | [] => none
  | d :: ds => (firstListingError d).orElse fun _ => firstListingError.list ds
end

mutual
/-- Every name in every listing of the tree is a plain path element, as the
names `os.ReadDir` returns are. -/
def plainNames : Entry → Bool
  | .file _ => true
  | .dir _ (.error _) => true
  | .dir _ (.ok entries) => plainNames.list entries
/-- Every name in the listing, and in every listing of its trees, is a plain
path element. -/
def plainNames.list : List Entry → Bool
  | [] => true
  | d :: ds => decide (Filepath.PlainElem d.name) && plainNames d && plainNames.list ds
end

section Walk

variable {σ : Type} (fn : σ → String → Option DirEntry → Option FsError → Except FsError σ)

mutual
/-- **The walk is a fold.** On a tree whose directories can all be listed, the
walk folds the callback over the entries it reaches, in pre-order. -/
theorem walkDir_eq_foldlM :
    ∀ (st : σ) (path : String) (e : Entry), listable e = true →
      walkDir fn st path e =
        (visits path e).foldlM (fun st pe => fn st pe.1 (some pe.2.toDirEntry) none) st
  | st, path, .file _, _ => by simp [walkDir, visits]
  | st, path, .dir _ (.error _), h => by simp [listable] at h
  | st, path, .dir _ (.ok entries), h => by
    simp only [walkDir, visits, List.foldlM_cons]
    congr 1; funext st'
    exact walkDir.list_eq_foldlM st' path entries h
theorem walkDir.list_eq_foldlM :
    ∀ (st : σ) (path : String) (es : List Entry), listable.list es = true →
      walkDir.list fn st path es =
        (visits.list path es).foldlM (fun st pe => fn st pe.1 (some pe.2.toDirEntry) none) st
  | st, _, [], _ => rfl
  | st, path, d :: ds, h => by
    simp only [listable.list, Bool.and_eq_true] at h
    simp only [walkDir.list, visits.list, List.foldlM_append]
    rw [walkDir_eq_foldlM st _ d h.1]
    congr 1; funext st'
    exact walkDir.list_eq_foldlM st' path ds h.2
end

/-- A callback that fails exactly when it is handed an error, with that error. -/
def Propagates : Prop :=
  (∀ st path d, ∃ st', fn st path (some d) none = .ok st') ∧
    ∀ st path d err, fn st path d (some err) = .error err

variable {fn}

mutual
/-- **The walk fails exactly on an unlistable directory.** With a callback
that only propagates errors, the walk returns a state exactly when every
directory of the tree can be listed. -/
theorem walkDir_ok_iff (hfn : Propagates fn) :
    ∀ (st : σ) (path : String) (e : Entry),
      (∃ st', walkDir fn st path e = .ok st') ↔ listable e = true
  | st, path, .file _ => by simpa [walkDir, listable] using hfn.1 st path _
  | st, path, .dir n (.error err) => by
    obtain ⟨st', h⟩ := hfn.1 st path (Entry.dir n (.error err)).toDirEntry
    simp [walkDir, listable, h, hfn.2, bind, Except.bind]
  | st, path, .dir n (.ok entries) => by
    obtain ⟨st', h⟩ := hfn.1 st path (Entry.dir n (.ok entries)).toDirEntry
    simpa [walkDir, listable, h, bind, Except.bind] using walkDir.list_ok_iff hfn st' path entries
theorem walkDir.list_ok_iff (hfn : Propagates fn) :
    ∀ (st : σ) (path : String) (es : List Entry),
      (∃ st', walkDir.list fn st path es = .ok st') ↔ listable.list es = true
  | st, _, [] => by simp [walkDir.list, listable.list]
  | st, path, d :: ds => by
    simp only [walkDir.list, listable.list, Bool.and_eq_true]
    rcases hd : walkDir fn st (Filepath.join [path, d.name]) d with err | st'
    · have := (walkDir_ok_iff hfn st (Filepath.join [path, d.name]) d).not.mp (by simp [hd])
      simp [this, bind, Except.bind]
    · have h₁ := (walkDir_ok_iff hfn st (Filepath.join [path, d.name]) d).mp ⟨st', hd⟩
      simpa [h₁, bind, Except.bind] using walkDir.list_ok_iff hfn st' path ds
end

mutual
/-- **The walk fails with the first listing error.** With a callback that
only propagates errors, the walk fails with `err` exactly when `err` is the
error of the first directory, in walk order, whose listing fails. -/
theorem walkDir_eq_error (hfn : Propagates fn) :
    ∀ (st : σ) (path : String) (e : Entry) (err : FsError),
      walkDir fn st path e = .error err ↔ firstListingError e = some err
  | st, path, .file n, err => by
    obtain ⟨st', h⟩ := hfn.1 st path (Entry.file n).toDirEntry
    simp [walkDir, firstListingError, h]
  | st, path, .dir n (.error err'), err => by
    obtain ⟨st', h⟩ := hfn.1 st path (Entry.dir n (.error err')).toDirEntry
    simp [walkDir, firstListingError, h, hfn.2, bind, Except.bind]
  | st, path, .dir n (.ok entries), err => by
    obtain ⟨st', h⟩ := hfn.1 st path (Entry.dir n (.ok entries)).toDirEntry
    simpa [walkDir, firstListingError, h, bind, Except.bind] using
      walkDir.list_eq_error hfn st' path entries err
theorem walkDir.list_eq_error (hfn : Propagates fn) :
    ∀ (st : σ) (path : String) (es : List Entry) (err : FsError),
      walkDir.list fn st path es = .error err ↔ firstListingError.list es = some err
  | st, _, [], err => by simp [walkDir.list, firstListingError.list]
  | st, path, d :: ds, err => by
    simp only [walkDir.list, firstListingError.list]
    rcases hd : walkDir fn st (Filepath.join [path, d.name]) d with err' | st'
    · rw [(walkDir_eq_error hfn st _ d err').mp hd]
      simp [bind, Except.bind]
    · have hnone : firstListingError d = none := Option.eq_none_iff_forall_not_mem.mpr fun err' h =>
        absurd ((walkDir_eq_error hfn st (Filepath.join [path, d.name]) d err').mpr h) (by simp [hd])
      simpa [hnone, bind, Except.bind] using walkDir.list_eq_error hfn st' path ds err
end

end Walk


end Ceems
