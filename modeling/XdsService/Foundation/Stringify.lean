import XdsService.Foundation.Json

/-!
# Writing JSON texts

`JSON.stringify` on the values that `JSON.parse` returns.  The text of a number
is that of the floating-point format, which is a parameter here.
-/

namespace XdsService
namespace Foundation
namespace Stringify

/-!
## Strings
-/

def quoteChar (c : Char) : List Char :=
  if c = '"' then ['\\', '"']
  else if c = '\\' then ['\\', '\\']
  else if c.toNat = 8 then ['\\', 'b']
  else if c = '\t' then ['\\', 't']
  else if c = '\n' then ['\\', 'n']
  else if c.toNat = 12 then ['\\', 'f']
  else if c = '\r' then ['\\', 'r']
  else if c.toNat < 32 then
    ['\\', 'u', '0', '0', Nat.digitChar (c.toNat / 16),
      Nat.digitChar (c.toNat % 16)]
  else [c]

def quote (text : String) : List Char :=
  '"' :: (text.toList.flatMap quoteChar ++ ['"'])

theorem length_quoteChar_pos (c : Char) : 0 < (quoteChar c).length := by
  unfold quoteChar
  split_ifs <;> exact Nat.succ_pos _

theorem length_le_length_flatMap_quoteChar (cs : List Char) :
    cs.length ≤ (cs.flatMap quoteChar).length := by
  induction cs with
  | nil => exact Nat.le_refl 0
  | cons c rest ih =>
      have hpos := length_quoteChar_pos c
      rw [List.flatMap_cons, List.length_append, List.length_cons]
      omega

theorem length_lt_length_quote (text : String) :
    text.toList.length < (quote text).length := by
  have hle := length_le_length_flatMap_quoteChar text.toList
  unfold quote
  rw [List.length_cons, List.length_append]
  omega

/-!
## Values
-/

/-- The parts between brackets, on lines of their own if there is a gap. -/
def bracketed (opening closing : Char) (gap indent : List Char)
    (parts : List (List Char)) : List Char :=
  if parts.isEmpty then
    [opening, closing]
  else if gap.isEmpty then
    opening :: ([','].intercalate parts ++ [closing])
  else
    opening :: '\n' :: (indent ++ gap ++
      (',' :: '\n' :: (indent ++ gap)).intercalate parts ++
        '\n' :: indent ++ [closing])

def colon (gap : List Char) : List Char :=
  if gap.isEmpty then [':'] else [':', ' ']

section Stringify

variable (number : Int -> Int -> List Char) (gap : List Char)

mutual

/-- The text of a value whose brackets stand behind `indent`. -/
def stringifyAt (indent : List Char) : Json -> List Char
  | Json.null => "null".toList
  | Json.bool value => if value then "true".toList else "false".toList
  | Json.int value => number value 0
  | Json.double mantissa exponent => number mantissa exponent
  | Json.string value => quote value
  | Json.array items =>
      bracketed '[' ']' gap indent (stringifyItems (indent ++ gap) items)
  | Json.object members =>
      bracketed '\x7b' '\x7d' gap indent
        (stringifyMembers (indent ++ gap) members)

def stringifyItems (indent : List Char) : List Json -> List (List Char)
  | [] => []
  | item :: rest => stringifyAt indent item :: stringifyItems indent rest

def stringifyMembers (indent : List Char) :
    List (String × Json) -> List (List Char)
  | [] => []
  | (name, value) :: rest =>
      (quote name ++ colon gap ++ stringifyAt indent value) ::
        stringifyMembers indent rest

end

/-- `JSON.stringify(value, undefined, n)` for a gap of `n` blanks -/
def stringify (value : Json) : List Char := stringifyAt number gap [] value

end Stringify

end Stringify
end Foundation
end XdsService
