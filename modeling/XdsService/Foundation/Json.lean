import Mathlib.Data.List.Infix

/-!
# JSON values and C strings

The binder hands JSON objects around as pointers of the json-c library, and the
web page works on the values `JSON.parse` returns.  Both are the one tree
type below; a number written with a fraction or an exponent is its mantissa
and its decimal exponent.  json-c represents the JSON value null by the NULL
pointer, so `Json.null` is also what a pointer that was never set holds.
-/

namespace XdsService
namespace Foundation

inductive Json where
  | null
  | bool (value : Bool)
  | int (value : Int)
  | double (mantissa exponent : Int)
  | string (value : String)
  | array (items : List Json)
  | object (members : List (String × Json))

instance : Inhabited Json := ⟨Json.null⟩

namespace Json

def isNull : Json -> Bool
  | null => true
  | _ => false

def isArray : Json -> Bool
  | array _ => true
  | _ => false

def items? : Json -> Option (List Json)
  | array items => some items
  | _ => none

/--
`json_object_object_get_ex(j, key, &value)`: the member of that name, and
`none` (the answer false) where there is none or the value is no object.
-/
def getEx (key : String) : Json -> Option Json
  | object members => members.lookup key
  | _ => none

@[simp] theorem isNull_null : isNull null = true := rfl

@[simp] theorem isNull_array (items : List Json) :
    isNull (array items) = false := rfl

theorem isArray_iff_exists_items {j : Json} :
    j.isArray = true <-> exists items, j = array items := by
  cases j <;> simp [isArray]

theorem items?_eq_some_iff {j : Json} {items : List Json} :
    j.items? = some items <-> j = array items := by
  cases j <;> simp [items?]

end Json

/-!
## Substring search
-/

/-- `strstr(haystack, needle) != NULL` -/
def strstr (haystack needle : String) : Bool :=
  decide (needle.toList <:+: haystack.toList)

theorem strstr_iff {haystack needle : String} :
    strstr haystack needle = true <->
      needle.toList <:+: haystack.toList := by
  simp [strstr]

@[simp] theorem strstr_empty (haystack : String) :
    strstr haystack "" = true := by
  simp [strstr]

/-- `strncmp(text, "all", 3) == 0` for a text that may be NULL. -/
def startsWithAll : Option String -> Bool
  | none => false
  | some text => "all".toList.isPrefixOf text.toList

end Foundation
end XdsService
