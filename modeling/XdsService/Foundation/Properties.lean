import Mathlib.Data.List.AList
import Mathlib.Data.List.Nodup

/-!
# Properties of JavaScript objects

A plain object is a finite map from names to values, together with the names
that every object inherits.  The elements of an array are the properties named
by the decimal numbers.
-/

namespace XdsService
namespace Foundation

variable {alpha : Type}

abbrev Properties (alpha : Type) : Type := AList fun _ : String => alpha

/-- The names of `Object.prototype`. -/
def objectPrototype : List String :=
  ["constructor", "hasOwnProperty", "isPrototypeOf", "propertyIsEnumerable",
    "toLocaleString", "toString", "valueOf", "__proto__", "__defineGetter__",
    "__defineSetter__", "__lookupGetter__", "__lookupSetter__"]

def Properties.inObject (obj : Properties alpha) (name : String) : Bool :=
  decide (name ∈ obj) || decide (name ∈ objectPrototype)

/-!
## Numbers as names
-/

/-- `String(n)` -/
def indexName (n : Nat) : String := toString n

theorem toList_indexName (n : Nat) :
    (indexName n).toList = Nat.toDigits 10 n := by
  simp [indexName, Nat.repr]

theorem indexName_injective : Function.Injective indexName := by
  intro m n h
  have hdigits : Nat.toDigits 10 m = Nat.toDigits 10 n := by
    rw [← toList_indexName, ← toList_indexName, h]
  have hread : forall k, Nat.ofDigitChars 10 (Nat.toDigits 10 k) 0 = k :=
    fun k => Nat.ofDigitChars_toDigits (by decide) (by decide)
  rw [← hread m, hdigits, hread]

theorem isDigit_of_mem_indexName {n : Nat} {c : Char}
    (h : c ∈ (indexName n).toList) : c.isDigit = true := by
  rw [toList_indexName] at h
  exact Nat.isDigit_of_mem_toDigits (by decide) (by decide) h

theorem indexName_ne {name : String}
    (h : (name.toList.all Char.isDigit) = false) (n : Nat) :
    indexName n ≠ name := by
  intro heq
  rw [← heq, List.all_eq_false] at h
  rcases h with ⟨c, hc, hdigit⟩
  exact hdigit (isDigit_of_mem_indexName hc)

theorem indexName_notMem_objectPrototype (n : Nat) :
    indexName n ∉ objectPrototype := by
  have hnames : objectPrototype.all
      (fun name => !(name.toList.all Char.isDigit)) = true := by
    decide
  intro hmem
  have hname := List.all_eq_true.mp hnames _ hmem
  exact indexName_ne (by simpa using hname) n rfl

theorem inObject_indexName {obj : Properties alpha} {n : Nat} :
    obj.inObject (indexName n) = true <-> indexName n ∈ obj := by
  simp [Properties.inObject, indexName_notMem_objectPrototype]

/-!
## Arrays
-/

def elementFrom (n : Nat) (name : String) : List alpha -> Option alpha
  | [] => none
  | item :: rest =>
      if indexName n = name then some item else elementFrom (n + 1) name rest

/-- `items[name]`, `none` for undefined -/
def elementNamed (items : List alpha) (name : String) : Option alpha :=
  elementFrom 0 name items

theorem elementFrom_indexName (items : List alpha) (n k : Nat) :
    elementFrom n (indexName (n + k)) items = items[k]? := by
  induction items generalizing n k with
  | nil => rfl
  | cons item rest ih =>
      unfold elementFrom
      cases k with
      | zero => simp
      | succ k =>
          have hne : ¬ indexName n = indexName (n + (k + 1)) := by
            intro h
            have heq := indexName_injective h
            omega
          rw [if_neg hne, show n + (k + 1) = n + 1 + k by omega, ih]
          rfl

theorem elementNamed_indexName (items : List alpha) (k : Nat) :
    elementNamed items (indexName k) = items[k]? := by
  have h := elementFrom_indexName items 0 k
  rw [Nat.zero_add] at h
  exact h

theorem elementNamed_eq_none {name : String}
    (h : (name.toList.all Char.isDigit) = false) (items : List alpha) :
    elementNamed items name = none := by
  have hall : forall n, elementFrom n name items = none := by
    induction items with
    | nil => exact fun n => rfl
    | cons item rest ih =>
        intro n
        rw [elementFrom, if_neg (indexName_ne h n)]
        exact ih (n + 1)
  exact hall 0

end Foundation
end XdsService
