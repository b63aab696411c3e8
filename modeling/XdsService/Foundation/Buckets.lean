import Mathlib.Data.List.Nodup

/-!
# Items by their keys

Items that carry a key fall into one bucket for each key, in which they keep
their order.  The buckets of distinct keys, read one after another, hold the
items with these keys once each.
-/

namespace XdsService
namespace Foundation

variable {item key : Type} [DecidableEq key] {keyOf : item -> key}
variable {items : List item} {keys : List key} {x : item} {k : key}

/-- The items with the key, in their order. -/
def bucket (keyOf : item -> key) (items : List item) (k : key) : List item :=
  items.filter fun x => decide (keyOf x = k)

def buckets (keyOf : item -> key) (items : List item) (keys : List key) :
    List item :=
  keys.flatMap (bucket keyOf items)

theorem mem_bucket_iff :
    x ∈ bucket keyOf items k <-> x ∈ items ∧ keyOf x = k := by
  simp [bucket]

theorem bucket_eq_nil_iff :
    bucket keyOf items k = [] <-> forall x, x ∈ items -> keyOf x ≠ k := by
  simp [bucket, List.filter_eq_nil_iff]

theorem bucket_append (first second : List item) (k : key) :
    bucket keyOf (first ++ second) k =
      bucket keyOf first k ++ bucket keyOf second k :=
  List.filter_append first second

theorem bucket_sublist (items : List item) (k : key) :
    (bucket keyOf items k).Sublist items :=
  List.filter_sublist

theorem bucket_of_forall (h : forall x, x ∈ items -> keyOf x = k) :
    bucket keyOf items k = items :=
  List.filter_eq_self.mpr fun x hx => decide_eq_true (h x hx)

theorem buckets_cons (k : key) (keys : List key) :
    buckets keyOf items (k :: keys) =
      bucket keyOf items k ++ buckets keyOf items keys :=
  List.flatMap_cons

theorem buckets_append (first second : List key) :
    buckets keyOf items (first ++ second) =
      buckets keyOf items first ++ buckets keyOf items second :=
  List.flatMap_append

theorem buckets_singleton (k : key) :
    buckets keyOf items [k] = bucket keyOf items k := by
  rw [buckets_cons]
  exact List.append_nil _

theorem mem_buckets_iff :
    x ∈ buckets keyOf items keys <-> x ∈ items ∧ keyOf x ∈ keys := by
  unfold buckets
  rw [List.mem_flatMap]
  constructor
  · intro h
    rcases h with ⟨k, hk, hx⟩
    rcases mem_bucket_iff.mp hx with ⟨hitem, rfl⟩
    exact ⟨hitem, hk⟩
  · intro h
    exact ⟨keyOf x, h.right, mem_bucket_iff.mpr ⟨h.left, rfl⟩⟩

theorem nodup_buckets (hitems : items.Nodup) (hkeys : keys.Nodup) :
    (buckets keyOf items keys).Nodup := by
  unfold buckets
  rw [List.nodup_flatMap]
  constructor
  · intro k _
    exact hitems.filter _
  · apply hkeys.imp
    intro k k' hne x hx hx'
    exact hne ((mem_bucket_iff.mp hx).right.symm.trans
      (mem_bucket_iff.mp hx').right)

/-- A bucket is found again among the buckets of distinct keys. -/
theorem bucket_buckets (hkeys : keys.Nodup) (k : key) :
    bucket keyOf (buckets keyOf items keys) k =
      if k ∈ keys then bucket keyOf items k else [] := by
  induction keys with
  | nil => rfl
  | cons k' rest ih =>
      rcases List.nodup_cons.mp hkeys with ⟨hnotMem, hrest⟩
      rw [buckets_cons, bucket_append, ih hrest]
      by_cases hk : k = k'
      · subst hk
        have hall : bucket keyOf (bucket keyOf items k) k =
            bucket keyOf items k :=
          bucket_of_forall fun x hx => (mem_bucket_iff.mp hx).right
        rw [hall, if_neg hnotMem, if_pos List.mem_cons_self, List.append_nil]
      · have hnone : bucket keyOf (bucket keyOf items k') k = [] := by
          rw [bucket_eq_nil_iff]
          intro x hx hx'
          exact hk (hx'.symm.trans (mem_bucket_iff.mp hx).right)
        simp [hnone, hk]

theorem length_buckets (hitems : items.Nodup) (hkeys : keys.Nodup) :
    (buckets keyOf items keys).length =
      (items.filter fun x => decide (keyOf x ∈ keys)).length := by
  apply List.Perm.length_eq
  rw [List.perm_ext_iff_of_nodup (nodup_buckets hitems hkeys)
    (hitems.filter _)]
  intro x
  rw [mem_buckets_iff, List.mem_filter, decide_eq_true_eq]

end Foundation
end XdsService
