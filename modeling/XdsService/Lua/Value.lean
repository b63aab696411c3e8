import XdsService.Foundation.JsonPlain

/-!
# Lua values

The binder turns the JSON object of an event into tables of the language.  A
leaf is a string, a number or a boolean, and JSON null is no value at all; a
float is known here by the text that `tostring` makes of it.
-/

namespace XdsService
namespace Lua

open Foundation
open Foundation.JsonText

/-- The characters of a number in the text of `tostring`, also of inf and nan. -/
def numeralChar (c : Char) : Bool :=
  c.isDigit || ['+', '-', '.', 'e', 'i', 'n', 'f', 'a'].contains c

structure Numeral where
  text : String
  numeral : forall c, c ∈ text.toList -> numeralChar c = true

inductive Leaf where
  | string (text : String)
  | integer (number : Int)
  | float (numeral : Numeral)
  | boolean (value : Bool)

inductive Key where
  | string (text : String)
  | integer (number : Int)
  deriving DecidableEq

/-- A table lists its entries in the order in which `pairs` goes through them. -/
inductive Value where
  | leaf (leaf : Leaf)
  | table (entries : List (Key × Value))

def Leaf.tostring : Leaf -> String
  | string text => text
  | integer number => toString number
  | float numeral => numeral.text
  | boolean value => if value then "true" else "false"

def Key.tostring : Key -> String
  | string text => text
  | integer number => toString number

namespace Value

def isTable : Option Value -> Bool
  | some (table _) => true
  | _ => false

def isString : Option Value -> Bool
  | some (leaf (Leaf.string _)) => true
  | _ => false

/-- All values but nil and false count as true. -/
def truthy : Option Value -> Bool
  | none => false
  | some (leaf (Leaf.boolean value)) => value
  | some _ => true

def field (entries : List (Key × Value)) (name : String) : Option Value :=
  entries.lookup (Key.string name)

/--
What a value can be indexed by.  A string has the functions of the string
library for fields, and none of their names is a field of an event.
-/
def fields? : Option Value -> Option (List (Key × Value))
  | some (table entries) => some entries
  | some (leaf (Leaf.string _)) => some []
  | _ => none

theorem exists_table {value : Option Value} (h : isTable value = true) :
    exists entries, value = some (table entries) := by
  unfold isTable at h
  split at h
  · exact ⟨_, rfl⟩
  · cases h

/-- A string counts as true and can be indexed, and it has none of the fields. -/
theorem string_fields {value : Option Value} (h : isString value = true) :
    truthy value = true ∧ fields? value = some [] := by
  unfold isString at h
  split at h
  · exact ⟨rfl, rfl⟩
  · cases h

theorem fields?_eq_none {value : Option Value} (htable : isTable value = false)
    (hstring : isString value = false) : fields? value = none := by
  unfold fields?
  split
  · cases htable
  · cases hstring
  · rfl

theorem truthy_of_ne_false {value : Value}
    (h : value ≠ leaf (Leaf.boolean false)) : truthy (some value) = true := by
  cases value with
  | table entries => rfl
  | leaf l =>
      cases l with
      | boolean b =>
          cases b with
          | false => exact absurd rfl h
          | true => rfl
      | _ => rfl

end Value

/-!
## Plain values

No table of a plain value has an integer key, and no string in it, key or
leaf, has a character that JSON escapes.
-/

def Leaf.Plain : Leaf -> Prop
  | string text => PlainText text.toList
  | _ => True

def Key.Plain : Key -> Prop
  | string text => PlainText text.toList
  | integer _ => False

mutual

def Value.Plain : Value -> Prop
  | Value.leaf leaf => leaf.Plain
  | Value.table entries => PlainEntries entries

def PlainEntries : List (Key × Value) -> Prop
  | [] => True
  | (k, v) :: rest => k.Plain ∧ v.Plain ∧ PlainEntries rest

end

theorem plainChar_of_numeralChar {c : Char} (h : numeralChar c = true) :
    PlainChar c := by
  rcases Bool.or_eq_true_iff.mp h with hdigit | hsign
  · rcases Char.isDigit_iff_toNat.mp hdigit with ⟨hlower, hupper⟩
    rw [plainChar_iff]
    constructor
    · intro hc
      subst hc
      exact absurd hlower (by decide)
    · constructor
      · intro hc
        subst hc
        exact absurd hupper (by decide)
      · exact Nat.le_trans (by decide) hlower
  · have hplain : PlainText ['+', '-', '.', 'e', 'i', 'n', 'f', 'a'] := by
      decide
    exact hplain c (List.contains_iff_mem.mp hsign)

theorem numeralChar_of_mem_repr {n : Nat} {c : Char}
    (h : c ∈ n.repr.toList) : numeralChar c = true := by
  have hdigit : c.isDigit = true := by
    rw [Nat.toList_repr] at h
    exact Nat.isDigit_of_mem_toDigits (by decide) (Nat.le_refl 10) h
  rw [numeralChar, hdigit, Bool.true_or]

theorem plainText_toString (number : Int) :
    PlainText (toString number).toList := by
  intro c hc
  apply plainChar_of_numeralChar
  rw [Int.toString_eq_repr] at hc
  cases number with
  | ofNat n => exact numeralChar_of_mem_repr hc
  | negSucc n =>
      rw [Int.repr, String.toList_append] at hc
      rcases List.mem_append.mp hc with hsign | hdigits
      · rw [List.mem_singleton.mp hsign]
        rfl
      · exact numeralChar_of_mem_repr hdigits

theorem Leaf.plain_iff {leaf : Leaf} :
    leaf.Plain <-> PlainText leaf.tostring.toList := by
  cases leaf with
  | string text => exact Iff.rfl
  | integer number => exact iff_of_true trivial (plainText_toString number)
  | float numeral =>
      exact iff_of_true trivial fun c hc =>
        plainChar_of_numeralChar (numeral.numeral c hc)
  | boolean value =>
      have hfalse : PlainText ['f', 'a', 'l', 's', 'e'] := by decide
      have htrue : PlainText ['t', 'r', 'u', 'e'] := by decide
      cases value with
      | false => exact iff_of_true trivial hfalse
      | true => exact iff_of_true trivial htrue

end Lua
end XdsService
