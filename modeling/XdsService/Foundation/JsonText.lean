import XdsService.Foundation.Json

/-!
# Reading JSON texts

A decoder for the JSON grammar, over the characters of a text: each function
reads one construct and returns it with the characters behind it.
-/

namespace XdsService
namespace Foundation
namespace JsonText

/-!
## Strings

The characters of a string are read as numbers: the characters themselves,
and 16-bit units for those that are escaped, of which two may be the halves of
one character.
-/

def isSpace (c : Char) : Bool :=
  c = ' ' || c = '\t' || c = '\n' || c = '\r'

def skipSpace (cs : List Char) : List Char := cs.dropWhile isSpace

def hexDigit? (c : Char) : Option Nat :=
  if c.isDigit then some (c.toNat - 48)
  else if 97 ≤ c.toNat ∧ c.toNat ≤ 102 then some (c.toNat - 87)
  else if 65 ≤ c.toNat ∧ c.toNat ≤ 70 then some (c.toNat - 55)
  else none

def hexUnit? (a b c d : Char) : Option Nat := do
  let a <- hexDigit? a
  let b <- hexDigit? b
  let c <- hexDigit? c
  let d <- hexDigit? d
  some (((a * 16 + b) * 16 + c) * 16 + d)

/-- The unit of an escape of one letter. -/
def unescape? : Char -> Option Nat
  | '"' => some 34
  | '\\' => some 92
  | '/' => some 47
  | 'b' => some 8
  | 'f' => some 12
  | 'n' => some 10
  | 'r' => some 13
  | 't' => some 9
  | _ => none

def readUnits : List Char -> Option (List Nat × List Char)
  | [] => none
  | '"' :: rest => some ([], rest)
  | '\\' :: 'u' :: a :: b :: c :: d :: rest => do
      let unit <- hexUnit? a b c d
      let units <- readUnits rest
      some (unit :: units.1, units.2)
  | '\\' :: c :: rest => do
      let unit <- unescape? c
      let units <- readUnits rest
      some (unit :: units.1, units.2)
  | c :: rest =>
      if c.toNat < 32 ∨ c = '\\' then
        none
      else do
        let units <- readUnits rest
        some (c.toNat :: units.1, units.2)

def isHighSurrogate (unit : Nat) : Bool :=
  decide (0xD800 ≤ unit ∧ unit < 0xDC00)

def isLowSurrogate (unit : Nat) : Bool :=
  decide (0xDC00 ≤ unit ∧ unit < 0xE000)

/-- The character of one unit; half a character is replaced. -/
def unitChar (unit : Nat) : Char :=
  if isHighSurrogate unit || isLowSurrogate unit then Char.ofNat 0xFFFD
  else Char.ofNat unit

def pairChar (high low : Nat) : Char :=
  Char.ofNat (0x10000 + (high - 0xD800) * 0x400 + (low - 0xDC00))

def joinUnits : List Nat -> List Char
  | [] => []
  | [unit] => [unitChar unit]
  | high :: low :: rest =>
      if isHighSurrogate high && isLowSurrogate low then
        pairChar high low :: joinUnits rest
      else
        unitChar high :: joinUnits (low :: rest)

def readString (cs : List Char) : Option (String × List Char) :=
  (readUnits cs).map fun units => (String.ofList (joinUnits units.1), units.2)

/-!
## Numbers
-/

def digitsValue (digits : List Char) : Nat :=
  digits.foldl (fun n c => 10 * n + (c.toNat - 48)) 0

def readDigits (cs : List Char) : Option (List Char × List Char) :=
  if (cs.takeWhile Char.isDigit).isEmpty then
    none
  else
    some (cs.takeWhile Char.isDigit, cs.dropWhile Char.isDigit)

def readFraction : List Char -> Option (List Char × List Char)
  | '.' :: rest => readDigits rest
  | cs => some ([], cs)

def readSign : List Char -> Int × List Char
  | '-' :: rest => (-1, rest)
  | '+' :: rest => (1, rest)
  | cs => (1, cs)

def readExponent (cs : List Char) : Option (Int × List Char) :=
  (readDigits (readSign cs).2).map fun digits =>
    ((readSign cs).1 * digitsValue digits.1, digits.2)

def readScale : List Char -> Option (Option Int × List Char)
  | 'e' :: rest =>
      (readExponent rest).map fun exponent => (some exponent.1, exponent.2)
  | 'E' :: rest =>
      (readExponent rest).map fun exponent => (some exponent.1, exponent.2)
  | cs => some (none, cs)

def readUnsigned (sign : Int) (cs : List Char) :
    Option (Json × List Char) := do
  let whole <- readDigits cs
  if whole.1.head? = some '0' ∧ 1 < whole.1.length then
    none
  else do
    let fraction <- readFraction whole.2
    let scale <- readScale fraction.2
    if fraction.1 = [] ∧ scale.1 = none then
      some (Json.int (sign * digitsValue whole.1), scale.2)
    else
      some (Json.double (sign * digitsValue (whole.1 ++ fraction.1))
        (scale.1.getD 0 - fraction.1.length), scale.2)

def readNumber : List Char -> Option (Json × List Char)
  | '-' :: rest => readUnsigned (-1) rest
  | cs => readUnsigned 1 cs

/-!
## Values

Every call reads at least one character before the next one, so that the
number of characters bounds the depth of the calls.
-/

mutual

def readValue : Nat -> List Char -> Option (Json × List Char)
  | 0, _ => none
  | depth + 1, cs =>
      match skipSpace cs with
      | '"' :: rest =>
          (readString rest).map fun text => (Json.string text.1, text.2)
      | '\x7b' :: rest =>
          match skipSpace rest with
          | '\x7d' :: rest => some (Json.object [], rest)
          | rest =>
              (readMembers depth rest).map fun members =>
                (Json.object members.1, members.2)
      | '[' :: rest =>
          match skipSpace rest with
          | ']' :: rest => some (Json.array [], rest)
          | rest =>
              (readItems depth rest).map fun items =>
                (Json.array items.1, items.2)
      | 't' :: 'r' :: 'u' :: 'e' :: rest => some (Json.bool true, rest)
      | 'f' :: 'a' :: 'l' :: 's' :: 'e' :: rest => some (Json.bool false, rest)
      | 'n' :: 'u' :: 'l' :: 'l' :: rest => some (Json.null, rest)
      | rest => readNumber rest

/-- The members of an object up to its closing brace, of which there is one. -/
def readMembers : Nat -> List Char -> Option (List (String × Json) × List Char)
  | 0, _ => none
  | depth + 1, cs =>
      match skipSpace cs with
      | '"' :: rest => do
          let key <- readString rest
          match skipSpace key.2 with
          | ':' :: rest => do
              let value <- readValue depth rest
              match skipSpace value.2 with
              | ',' :: rest => do
                  let members <- readMembers depth rest
                  some ((key.1, value.1) :: members.1, members.2)
              | '\x7d' :: rest => some ([(key.1, value.1)], rest)
              | _ => none
          | _ => none
      | _ => none

/-- The items of an array up to its closing bracket, of which there is one. -/
def readItems : Nat -> List Char -> Option (List Json × List Char)
  | 0, _ => none
  | depth + 1, cs => do
      let value <- readValue depth cs
      match skipSpace value.2 with
      | ',' :: rest => do
          let items <- readItems depth rest
          some (value.1 :: items.1, items.2)
      | ']' :: rest => some ([value.1], rest)
      | _ => none

end

/-- The value of a text that is well-formed from its first to its last character. -/
def decode (text : String) : Option Json :=
  match readValue (text.length + 1) text.toList with
  | some (value, rest) => if (skipSpace rest).isEmpty then some value else none
  | none => none

end JsonText
end Foundation
end XdsService
