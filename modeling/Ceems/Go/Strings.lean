import Mathlib.Data.List.Basic
import Mathlib.Data.List.Infix

/-!
# Go string helpers

The parts of Go's `strings` and `bufio` packages the collector and the
`sacct` parser rely on, over Lean strings (sequences of characters; Go's
byte-level view of UTF-8 only matters for invalid encodings, which no modelled
function produces or inspects).

* `strings.Split` with a one-character separator is Mathlib's `List.splitOn`
  on the characters: both split at every occurrence and keep empty fields, and
  both answer one empty field on the empty string.
* `trimSpace` — `strings.TrimSpace`, trimming what `unicode.IsSpace` calls
  white space;
* `scanLines` — the tokens of a `bufio.Scanner` with the default `ScanLines`
  split function: lines without their `\n`, a trailing `\r` dropped, and no
  final empty token after a last newline;
* `containsStr` — `strings.Contains`;
* `split` — `strings.Split` with a one-character separator, which undoes
  `String.intercalate` on fields free of the separator (`split_intercalate`);
* `trimSuffix` — `strings.TrimSuffix`;
* `fields` — `strings.Fields`, which undoes joining words free of white space
  with a white-space separator (`fields_intercalate`); `scanLines` likewise
  gives back the lines of a text that ends every line with a newline
  (`scanLines_join`).
-/

namespace Ceems

/-- `unicode.IsSpace`: the Latin-1 white space `\t \n \v \f \r`, space, U+0085
and U+00A0, and the other characters of Unicode's `White_Space` property. -/
def isSpace (c : Char) : Bool :=
  c = '\t' || c = '\n' || c.toNat = 0x0B || c.toNat = 0x0C || c = '\r' || c = ' ' ||
  c.toNat = 0x85 || c.toNat = 0xA0 || c.toNat = 0x1680 ||
  (0x2000 ≤ c.toNat && c.toNat ≤ 0x200A) || c.toNat = 0x2028 || c.toNat = 0x2029 ||
  c.toNat = 0x202F || c.toNat = 0x205F || c.toNat = 0x3000

theorem isSpace_eq_false {c : Char} (h : c.toNat < 9 ∨ (32 < c.toNat ∧ c.toNat < 0x85)) :
    isSpace c = false := by
  simp only [isSpace, Bool.or_eq_false_iff, decide_eq_false_iff_not, Bool.and_eq_false_iff]
  repeat' apply And.intro
  all_goals first | omega | (rintro rfl; revert h; decide)

theorem toNat_of_isDigit {c : Char} (h : c.isDigit = true) : 48 ≤ c.toNat ∧ c.toNat ≤ 57 := by
  simp only [Char.isDigit, Bool.and_eq_true, decide_eq_true_eq] at h
  exact ⟨h.1, h.2⟩

theorem isSpace_of_isDigit {c : Char} (h : c.isDigit = true) : isSpace c = false :=
  isSpace_eq_false (.inr (by have := toNat_of_isDigit h; omega))

/-- `strings.TrimSpace`. -/
def trimSpace (s : String) : String :=
  ⟨((s.toList.dropWhile isSpace).reverse.dropWhile isSpace).reverse⟩

/-- `dropCR` of `bufio`: a line ending in `\r` loses it. -/
def dropCR (l : List Char) : List Char :=
  if l.getLast? = some '\r' then l.dropLast else l

/-- The lines a `bufio.Scanner` with `ScanLines` yields on `data`. -/
def scanLines (data : String) : List String :=
  let parts := data.toList.splitOn '\n'
  (if parts.getLast? = some [] then parts.dropLast else parts).map fun l => ⟨dropCR l⟩

/-- Whether `sub` occurs in `s` as a contiguous block. -/
def isInfixOf (sub : List Char) : List Char → Bool
  | [] => sub.isPrefixOf []
  | c :: cs => sub.isPrefixOf (c :: cs) || isInfixOf sub cs

/-- `strings.Contains`. -/
def containsStr (s sub : String) : Bool :=
  isInfixOf sub.toList s.toList

theorem isInfixOf_iff (sub s : List Char) : isInfixOf sub s = true ↔ sub <:+: s := by
  induction s with
  | nil => simp [isInfixOf, List.isPrefixOf_iff_prefix]
  | cons c cs ih =>
    simp only [isInfixOf, Bool.or_eq_true, List.isPrefixOf_iff_prefix, ih]
    exact ⟨fun h => h.elim List.IsPrefix.isInfix (List.infix_cons ·),
      fun h => (List.infix_cons_iff.mp h).imp id id⟩

/-- Comparing a string with itself from one offset matches all the way. -/
theorem substrEq_loop_self (s : String) (off stop : String.Pos) :
    String.substrEq.loop s s off off stop = true :=
  String.substrEq.loop.induct s s (fun o₁ o₂ st => o₁ = o₂ → String.substrEq.loop s s o₁ o₂ st = true)
    (fun o₁ _ st h ih heq => by
      subst heq
      rw [String.substrEq.loop, dif_pos h]
      simpa using ih rfl)
    (fun _ _ _ h _ => by rw [String.substrEq.loop, dif_neg h]) off off stop rfl

/-- `strings.HasPrefix(s, s)`. -/
theorem isPrefixOf_self (s : String) : s.isPrefixOf s = true := by
  simp [String.isPrefixOf, String.substrEq, substrEq_loop_self]

/-- `strings.Split(s, sep)` for a one-character separator. -/
def split (s : String) (sep : Char) : List String :=
  (s.toList.splitOn sep).map String.mk

/-- `strings.TrimSuffix(s, suffix)`. -/
def trimSuffix (s suffix : String) : String :=
  if suffix.toList.isSuffixOf s.toList then ⟨s.toList.take (s.length - suffix.length)⟩ else s

theorem trimSuffix_append (s suffix : String) : trimSuffix (s ++ suffix) suffix = s := by
  obtain ⟨a⟩ := s
  obtain ⟨b⟩ := suffix
  have h : b.isSuffixOf (a ++ b) = true := List.isSuffixOf_iff_suffix.mpr (List.suffix_append _ _)
  show (if b.isSuffixOf (a ++ b) = true then String.mk ((a ++ b).take ((a ++ b).length - b.length))
    else ⟨a ++ b⟩) = ⟨a⟩
  rw [if_pos h, List.length_append, Nat.add_sub_cancel, List.take_left' rfl]

theorem intercalate_cons_flatten {α : Type} (sep x : List α) (xs : List (List α)) :
    sep.intercalate (x :: xs) = x ++ (xs.map (sep ++ ·)).flatten := by
  induction xs generalizing x with
  | nil => simp [List.intercalate]
  | cons y ys ih =>
    simp only [List.intercalate, List.intersperse_cons₂, List.flatten_cons] at ih ⊢
    rw [ih y]; simp

theorem intercalate_go_toList (acc sep : String) (ss : List String) :
    (String.intercalate.go acc sep ss).toList =
      acc.toList ++ (ss.map fun s => sep.toList ++ s.toList).flatten := by
  induction ss generalizing acc with
  | nil => simp [String.intercalate.go]
  | cons s ss ih =>
    rw [String.intercalate.go, ih]
    simp

theorem intercalate_toList (sep : String) (ss : List String) :
    (sep.intercalate ss).toList = sep.toList.intercalate (ss.map String.toList) := by
  cases ss with
  | nil => rfl
  | cons s ss =>
    rw [String.intercalate, intercalate_go_toList, List.map_cons, intercalate_cons_flatten,
      List.map_map]
    rfl

/-- **Splitting undoes joining.** `strings.Split` on the fields joined by a
separator none of them contains gives the fields back. -/
theorem split_intercalate (sep : Char) (ss : List String) (hs : ∀ s ∈ ss, sep ∉ s.toList)
    (hne : ss ≠ []) : split (String.intercalate (String.singleton sep) ss) sep = ss := by
  have : (String.singleton sep).toList = [sep] := rfl
  rw [split, intercalate_toList, this, List.splitOn_intercalate _ sep
    (show ∀ l ∈ ss.map String.toList, sep ∉ l by simpa using hs) (by simpa using hne), List.map_map]
  conv_rhs => rw [← List.map_id ss]
  rfl

theorem mem_intercalate {c : Char} {sep : String} {ss : List String}
    (h : c ∈ (sep.intercalate ss).toList) : c ∈ sep.toList ∨ ∃ s ∈ ss, c ∈ s.toList := by
  rw [intercalate_toList] at h
  cases ss with
  | nil => simp [List.intercalate] at h
  | cons s ss =>
    rw [List.map_cons, intercalate_cons_flatten] at h
    simp only [List.mem_append, List.mem_flatten, List.mem_map] at h
    rcases h with h | ⟨_, ⟨_, ⟨t, ht, rfl⟩, rfl⟩, h⟩
    · exact .inr ⟨s, List.mem_cons_self _ _, h⟩
    · rcases List.mem_append.mp h with h | h
      exacts [.inl h, .inr ⟨t, List.mem_cons_of_mem _ ht, h⟩]

theorem two_le_length_splitOn {a : Char} : ∀ {l : List Char}, a ∈ l → 2 ≤ (l.splitOn a).length
  | x :: xs, h => by
    have hne := List.splitOnP_ne_nil (· == a) xs
    rw [List.splitOn, List.splitOnP_cons]
    split
    · simpa [Nat.succ_le_succ_iff, Nat.one_le_iff_ne_zero] using hne
    · rename_i hx
      have hxs : a ∈ xs := (List.mem_cons.mp h).resolve_left fun h' => hx (by simp [h'])
      rw [List.length_modifyHead]
      exact two_le_length_splitOn hxs

/-- `strings.Split` on a separator that occurs gives at least two fields. -/
theorem two_le_length_split {s : String} {sep : Char} (h : sep ∈ s.toList) :
    2 ≤ (split s sep).length := by
  rw [split, List.length_map]
  exact two_le_length_splitOn h

theorem splitOn_append_cons (c : Char) (ys : List Char) :
    ∀ xs : List Char, (xs ++ c :: ys).splitOn c = xs.splitOn c ++ ys.splitOn c
  | [] => by simp [List.splitOn, List.splitOnP_cons]
  | x :: xs => by
    have ih := splitOn_append_cons c ys xs
    simp only [List.splitOn] at ih ⊢
    rw [List.cons_append, List.splitOnP_cons, List.splitOnP_cons, ih]
    split
    · rfl
    · obtain ⟨h, t, ht⟩ := List.exists_cons_of_ne_nil (List.splitOnP_ne_nil (· == c) xs)
      rw [ht]; rfl

theorem not_mem_of_mem_splitOn {c : Char} : ∀ {xs e : List Char}, e ∈ xs.splitOn c → c ∉ e
  | [], e, h => by simp_all [List.splitOn_nil]
  | x :: xs, e, h => by
    have ih := @not_mem_of_mem_splitOn c xs
    simp only [List.splitOn] at ih h
    rw [List.splitOnP_cons] at h
    split at h
    · rcases List.mem_cons.mp h with rfl | h
      exacts [List.not_mem_nil c, ih h]
    · rename_i hx
      obtain ⟨hd, t, ht⟩ := List.exists_cons_of_ne_nil (List.splitOnP_ne_nil (· == c) xs)
      rw [ht] at h ih
      rcases List.mem_cons.mp h with rfl | h
      · simp only [List.mem_cons, not_or]
        exact ⟨fun h' => hx (by simp [h']), ih (List.mem_cons_self _ _)⟩
      · exact ih (List.mem_cons_of_mem _ h)

theorem not_mem_of_mem_split {s e : String} {c : Char} (h : e ∈ split s c) : c ∉ e.toList := by
  obtain ⟨l, hl, rfl⟩ := List.mem_map.mp h
  exact not_mem_of_mem_splitOn hl

theorem split_eq_singleton {s : String} {c : Char} (h : c ∉ s.toList) : split s c = [s] := by
  rw [split, List.splitOn, List.splitOnP_eq_single _ _ fun x hx => by simpa using ne_of_mem_of_not_mem hx h]
  rfl

/-- `strings.Fields`: the maximal runs of characters that are not white space
in the sense of `unicode.IsSpace`. -/
def fields (s : String) : List String :=
  ((s.toList.splitOnP isSpace).filter (· ≠ [])).map String.mk

/-- Splitting at a predicate undoes joining with a separator it holds of, when
no joined part has a character it holds of. -/
theorem splitOnP_intercalate {α : Type} (p : α → Bool) {sep : α} (hsep : p sep = true) :
    ∀ (ls : List (List α)), (∀ l ∈ ls, ∀ x ∈ l, p x = false) → ls ≠ [] →
      ([sep].intercalate ls).splitOnP p = ls
  | [l], h, _ => by
    rw [show [sep].intercalate [l] = l by simp [List.intercalate]]
    exact List.splitOnP_eq_single p l fun x hx => by simp [h l (.head _) x hx]
  | l :: l' :: ls, h, _ => by
    have hcons : [sep].intercalate (l :: l' :: ls) = l ++ sep :: [sep].intercalate (l' :: ls) := by
      simp [intercalate_cons_flatten]
    rw [hcons, List.splitOnP_first p l (fun x hx => by simp [h l (.head _) x hx]) sep hsep,
      splitOnP_intercalate p hsep (l' :: ls) (fun l hl => h l (.tail _ hl)) (List.cons_ne_nil _ _)]

/-- **Fields of joined words.** Words that are not empty and have no white
space, joined by a white-space character, are what `strings.Fields` gives
back. -/
theorem fields_intercalate {sep : Char} (hsep : isSpace sep = true) (ws : List String)
    (hws : ∀ w ∈ ws, w ≠ "" ∧ ∀ c ∈ w.toList, isSpace c = false) :
    fields (String.intercalate (String.singleton sep) ws) = ws := by
  cases ws with
  | nil => rfl
  | cons w ws =>
    have hsplit := splitOnP_intercalate isSpace hsep ((w :: ws).map String.toList)
      (by simpa using fun w hw => (hws w hw).2) (by simp)
    have hne : ∀ l ∈ (w :: ws).map String.toList, l ≠ [] := by
      simp only [List.mem_map]
      rintro _ ⟨w', hw', rfl⟩ h
      exact (hws w' hw').1 (String.ext h)
    rw [fields, intercalate_toList, show (String.singleton sep).toList = [sep] from rfl, hsplit,
      List.filter_eq_self.mpr (by simpa using hne), List.map_map]
    conv_rhs => rw [← List.map_id (w :: ws)]
    rfl

theorem join_toList (ss : List String) : (String.join ss).toList = (ss.map String.toList).flatten := by
  suffices h : ∀ acc : String,
      (ss.foldl (· ++ ·) acc).toList = acc.toList ++ (ss.map String.toList).flatten from h ""
  induction ss with
  | nil => simp
  | cons s ss ih =>
    intro acc
    rw [List.foldl_cons, ih, List.map_cons, List.flatten_cons, ← List.append_assoc]
    rfl

/-- Lines free of newlines, each ended by one, split back at the newlines,
with an empty last piece. -/
theorem splitOn_flatten_newline (ls : List (List Char)) (h : ∀ l ∈ ls, '\n' ∉ l) :
    (ls.map (· ++ ['\n'])).flatten.splitOn '\n' = ls ++ [[]] := by
  induction ls with
  | nil => rfl
  | cons l ls ih =>
    rw [List.map_cons, List.flatten_cons, List.append_assoc, List.singleton_append, List.splitOn,
      List.splitOnP_first _ l (fun x hx => by simpa using ne_of_mem_of_not_mem hx (h l (.head _)))
        '\n' (by simp)]
    exact congrArg _ (ih fun l' hl' => h l' (.tail _ hl'))

/-- **Lines of a text.** A `bufio.Scanner` reads back the lines of a text
that ends each of them with a newline, when no line holds a newline or ends
with a carriage return. -/
theorem scanLines_join (ls : List String)
    (hls : ∀ l ∈ ls, '\n' ∉ l.toList ∧ l.toList.getLast? ≠ some '\r') :
    scanLines (String.join (ls.map (· ++ "\n"))) = ls := by
  have htext : (String.join (ls.map (· ++ "\n"))).toList =
      ((ls.map String.toList).map (· ++ ['\n'])).flatten := by
    rw [join_toList, List.map_map, List.map_map]
    rfl
  have hcr : ∀ l ∈ ls, String.mk (dropCR l.toList) = l := fun l hl =>
    congrArg String.mk (if_neg (hls l hl).2)
  have hsplit := splitOn_flatten_newline (ls.map String.toList) fun l hl => by
    obtain ⟨w, hw, rfl⟩ := List.mem_map.mp hl
    exact (hls w hw).1
  unfold scanLines
  rw [htext, hsplit]
  simp only [List.getLast?_append, List.getLast?_singleton, Option.or_some, if_true,
    List.dropLast_concat, List.map_map]
  conv_rhs => rw [← List.map_id ls]
  exact List.map_congr_left hcr

end Ceems
