import Mathlib.Data.List.AList

/-!
# Go maps keyed by strings

The collector and the load balancer keep their per-device counters, their
per-cluster backend lists and their discovery tables in Go maps
(`map[string]V`). A Go map is a finite map whose iteration order is
unspecified, and whose lookup `m[k]` answers the zero value of `V` on a missing
key, with the two-result form `v, ok := m[k]` telling the two apart.

We model such a map as Mathlib's association list `AList` over `String`. Its
entry list is one of the orders a `range` loop may visit the keys in; every
statement of this development that ranges over a map is a statement about all
keys at once, so it does not depend on that choice.

* `GoMap.getD` — the one-result lookup `m[k]`, answering a default on a
  missing key;
* `GoMap.append` — `m[k] = append(m[k], xs...)`, the update the discovery
  tables and the server pool perform;
* `GoMap.sum` — the sum of the values, the quantity the block-IO maps must
  preserve.
-/

namespace Ceems

/-- A Go `map[string]V`. -/
abbrev GoMap (V : Type) := AList (fun _ : String => V)

namespace GoMap

variable {V : Type}

/-- The one-result lookup `m[k]`: the stored value, or `d` (the zero value of
the map's value type at the call sites) when `k` is missing. -/
def getD (m : GoMap V) (k : String) (d : V) : V :=
  (m.lookup k).getD d

/-- `m[k] = append(m[k], xs...)` on a map of slices: a missing key reads as
the nil slice. -/
def append (m : GoMap (List V)) (k : String) (xs : List V) : GoMap (List V) :=
  m.insert k (m.getD k [] ++ xs)

/-- The values of the map, in its iteration order. -/
def values (m : GoMap V) : List V :=
  m.entries.map Sigma.snd

/-- The sum of a numeric map's values. -/
def sum [Add V] [Zero V] (m : GoMap V) : V :=
  m.values.sum

theorem lookup_getD (m : GoMap V) (k : String) (d : V) : (m.lookup k).getD d = m.getD k d :=
  rfl

@[simp] theorem getD_empty (k : String) (d : V) : getD (∅ : GoMap V) k d = d := rfl

@[simp] theorem getD_insert_self (m : GoMap V) (k : String) (v d : V) :
    getD (m.insert k v) k d = v := by
  simp [getD, AList.lookup_insert]

@[simp] theorem getD_insert_of_ne (m : GoMap V) {k k' : String} (h : k' ≠ k) (v d : V) :
    getD (m.insert k v) k' d = getD m k' d := by
  simp [getD, AList.lookup_insert_ne h]

theorem getD_append (m : GoMap (List V)) (k k' : String) (xs : List V) :
    getD (m.append k xs) k' [] = getD m k' [] ++ if k' = k then xs else [] := by
  by_cases h : k' = k
  · subst h; simp [append]
  · simp [append, h]

/-- Inserting a fresh key adds its value to the sum. -/
theorem sum_insert_of_not_mem [Add V] [Zero V] {m : GoMap V} {k : String} (h : k ∉ m)
    (v : V) : GoMap.sum (m.insert k v) = v + m.sum := by
  simp only [sum, values, AList.insert_entries_of_neg h, List.map_cons, List.sum_cons]

section Writes

variable {α : Type} (key : α → String) (val : α → V)

theorem lookup_foldl_insert_of_not_mem {k : String} :
    ∀ (es : List α) (m : GoMap V), k ∉ es.map key →
      (es.foldl (fun m e => m.insert (key e) (val e)) m).lookup k = m.lookup k
  | [], _, _ => rfl
  | e :: es, m, hk => by
    simp only [List.map_cons, List.mem_cons, not_or] at hk
    rw [List.foldl_cons, lookup_foldl_insert_of_not_mem es _ hk.2,
      AList.lookup_insert_ne hk.1]

/-- **Writes under distinct keys.** After `m[key(e)] = val(e)` for every entry
`e`, in order, under pairwise distinct keys, each key holds its entry's
value. -/
theorem lookup_foldl_insert :
    ∀ (es : List α) (m : GoMap V), (es.map key).Nodup → ∀ e ∈ es,
      (es.foldl (fun m e => m.insert (key e) (val e)) m).lookup (key e) = some (val e)
  | e :: es, m, hnd, e', he' => by
    simp only [List.map_cons, List.nodup_cons] at hnd
    rw [List.foldl_cons]
    rcases List.mem_cons.mp he' with rfl | he'
    · rw [lookup_foldl_insert_of_not_mem key val es _ hnd.1, AList.lookup_insert]
    · exact lookup_foldl_insert es _ hnd.2 e' he'

end Writes

end GoMap

end Ceems
