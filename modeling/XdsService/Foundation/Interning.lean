import Mathlib.Data.List.AList
import Mathlib.Data.List.Nodup
import Mathlib.Data.List.Perm.Basic

/-!
# Numbers for keys

Keys that are met one after another are given numbers, each key the number of
keys that were met before it.  A table numbers a list of keys if it holds every
key under its place in the list.
-/

namespace XdsService
namespace Foundation

variable {key : Type} [DecidableEq key]
variable {known known' : List key} {k : key} {n : Nat}

/-!
## Keys in the order of their first use
-/

/-- The key is added behind the known ones if it is not among them. -/
def enlist (known : List key) (k : key) : List key :=
  if k ∈ known then known else known ++ [k]

theorem enlist_of_mem (h : k ∈ known) : enlist known k = known := if_pos h

theorem enlist_of_notMem (h : k ∉ known) : enlist known k = known ++ [k] :=
  if_neg h

theorem prefix_enlist (known : List key) (k : key) :
    known <+: enlist known k := by
  unfold enlist
  split
  · exact List.prefix_refl known
  · exact List.prefix_append known [k]

theorem mem_enlist_iff {x : key} : x ∈ enlist known k <-> x ∈ known ∨ x = k := by
  by_cases h : k ∈ known
  · rw [enlist_of_mem h]
    constructor
    · exact Or.inl
    · rintro (hx | rfl)
      · exact hx
      · exact h
  · rw [enlist_of_notMem h, List.mem_append, List.mem_singleton]

/-- The number of a key does not change when more keys are met. -/
theorem idxOf_of_prefix (h : known <+: known') (hk : k ∈ known) :
    known'.idxOf k = known.idxOf k := by
  rcases h with ⟨later, rfl⟩
  exact List.idxOf_append_of_mem hk

theorem getElem?_idxOf_of_mem (h : k ∈ known) :
    known[known.idxOf k]? = some k := by
  rw [List.getElem?_eq_getElem (List.idxOf_lt_length_of_mem h)]
  simp

/-!
## Tables
-/

/-- The table holds every known key under its number, and no other key. -/
structure Numbers (table : AList fun _ : key => Nat) (known : List key) :
    Prop where
  nodup : known.Nodup
  lookup : forall k n, table.lookup k = some n <-> known[n]? = some k

variable {table : AList fun _ : key => Nat}

theorem numbers_empty : Numbers (∅ : AList fun _ : key => Nat) [] where
  nodup := List.nodup_nil
  lookup := by
    intro k n
    rw [AList.lookup_empty, List.getElem?_nil]
    simp

theorem Numbers.lookup_of_mem (h : Numbers table known) (hk : k ∈ known) :
    table.lookup k = some (known.idxOf k) :=
  (h.lookup k _).mpr (getElem?_idxOf_of_mem hk)

theorem Numbers.lookup_eq_none (h : Numbers table known) (hk : k ∉ known) :
    table.lookup k = none := by
  cases hlookup : table.lookup k with
  | none => rfl
  | some n =>
      exact absurd (List.mem_of_getElem? ((h.lookup k n).mp hlookup)) hk

theorem Numbers.mem_iff (h : Numbers table known) : k ∈ table <-> k ∈ known := by
  rw [← AList.lookup_isSome]
  by_cases hk : k ∈ known
  · rw [h.lookup_of_mem hk]
    exact iff_of_true rfl hk
  · rw [h.lookup_eq_none hk]
    exact iff_of_false Bool.false_ne_true hk

theorem Numbers.insert (h : Numbers table known) (hk : k ∉ known) :
    Numbers (table.insert k known.length) (known ++ [k]) where
  nodup := h.nodup.append (List.nodup_singleton k)
    (List.disjoint_singleton.mpr hk)
  lookup := by
    intro x n
    by_cases hx : x = k
    · rw [hx, AList.lookup_insert]
      constructor
      · intro heq
        rw [← Option.some.inj heq]
        exact List.getElem?_concat_length
      · intro hget
        by_cases hn : n < known.length
        · rw [List.getElem?_append_left hn] at hget
          exact absurd (List.mem_of_getElem? hget) hk
        · have hlt := (List.getElem?_eq_some_iff.mp hget).1
          rw [List.length_append, List.length_singleton] at hlt
          rw [Nat.le_antisymm (Nat.le_of_lt_succ hlt) (Nat.not_lt.mp hn)]
    · rw [AList.lookup_insert_ne hx, h.lookup]
      by_cases hn : n < known.length
      · rw [List.getElem?_append_left hn]
      · rw [List.getElem?_eq_none (Nat.not_lt.mp hn),
          List.getElem?_append_right (Nat.not_lt.mp hn)]
        constructor
        · intro hnone
          cases hnone
        · intro hget
          have hmem := List.mem_of_getElem? hget
          exact absurd (List.mem_singleton.mp hmem) hx

/-- The numbers in the table are those below the number of keys, once each. -/
theorem Numbers.values_perm (h : Numbers table known) :
    (table.entries.map Sigma.snd).Perm (List.range known.length) := by
  have hget : forall e, e ∈ table.entries -> known[e.2]? = some e.1 :=
    fun e he => (h.lookup e.1 e.2).mp (AList.mem_lookup_iff.mpr he)
  apply (List.perm_ext_iff_of_nodup ?_ List.nodup_range).mpr
  · intro n
    rw [List.mem_map, List.mem_range]
    constructor
    · rintro ⟨e, he, rfl⟩
      exact (List.getElem?_eq_some_iff.mp (hget e he)).1
    · intro hn
      have hlookup := (h.lookup known[n] n).mpr (List.getElem?_eq_getElem hn)
      exact ⟨⟨known[n], n⟩, AList.mem_lookup_iff.mp hlookup, rfl⟩
  · have hentries := table.nodupKeys.nodup
    refine (List.nodup_map_iff_inj_on hentries).mpr ?_
    intro e he e' he' heq
    have hkey := (hget e he).symm.trans (heq ▸ hget e' he')
    have hkey := Option.some.inj hkey
    cases e
    cases e'
    simp_all

end Foundation
end XdsService
