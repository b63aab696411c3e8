import XdsService.Foundation.Json

/-!
# Values as texts

JavaScript turns values into strings where it needs one, for the name of a
property or behind a plus.  A value that `JSON.parse` returned has no methods
of its own, but a member of an object may hide those that it inherits.  The
members of an object are listed in the order in which a loop meets them.
-/

namespace XdsService
namespace Foundation
namespace Coercion

def undefinedText : String := "undefined"

section Text

variable (number : Int -> Int -> List Char)

mutual

/-- `String(value)`; `none` where it throws. -/
def textOf : Json -> Option String
  | Json.null => some "null"
  | Json.bool value => some (if value then "true" else "false")
  | Json.int value => some (String.ofList (number value 0))
  | Json.double mantissa exponent =>
      some (String.ofList (number mantissa exponent))
  | Json.string text => some text
  | Json.array items => (itemTexts items).map fun texts => ",".intercalate texts
  | Json.object members =>
      if (members.lookup "toString").isSome then none
      else some "[object Object]"

def itemTexts : List Json -> Option (List String)
  | [] => some []
  | Json.null :: rest => (itemTexts rest).map fun texts => "" :: texts
  | item :: rest => do
      let text <- textOf item
      let texts <- itemTexts rest
      some (text :: texts)

end

def textOf? : Option Json -> Option String
  | none => some undefinedText
  | some value => textOf number value

/-- `value == text` for a text that is no number; `none` where it throws. -/
def looselyEquals (text : String) : Option Json -> Option Bool
  | some (Json.string value) => some (decide (value = text))
  | some (Json.array items) =>
      (textOf number (Json.array items)).map fun value => decide (value = text)
  | some (Json.object members) =>
      (textOf number (Json.object members)).map fun value =>
        decide (value = text)
  | _ => some false

end Text

/--
`value.name` for a name that nothing inherits; the outer `none` where it throws,
for undefined and null.
-/
def property (name : String) : Option Json -> Option (Option Json)
  | none => none
  | some Json.null => none
  | some (Json.object members) => some (members.lookup name)
  | some _ => some none

def stringElements (text : String) : List Json :=
  text.toList.flatMap fun c =>
    List.replicate (if c.toNat < 0x10000 then 1 else 2)
      (Json.string (String.singleton c))

/-- The values that a loop over the names of a value meets. -/
def elements : Option Json -> List Json
  | some (Json.array items) => items
  | some (Json.object members) => members.map Prod.snd
  | some (Json.string text) => stringElements text
  | _ => []

end Coercion
end Foundation
end XdsService
