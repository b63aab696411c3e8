import XdsService.Foundation.JsonLength

/-!
# Plain strings

A string of a JSON text may stand for itself: it does if none of its
characters has to be escaped, and then it is read back as it was written.  A
string that does not is shorter than any text that is read as it.
-/

namespace XdsService
namespace Foundation
namespace JsonText

/-- The character stands for itself in a string. -/
def PlainChar (c : Char) : Prop := charLength c = 1

def PlainText (cs : List Char) : Prop := forall c, c ∈ cs -> PlainChar c

instance (c : Char) : Decidable (PlainChar c) :=
  inferInstanceAs (Decidable (_ = _))

instance (cs : List Char) : Decidable (PlainText cs) :=
  List.decidableBAll PlainChar cs

theorem plainChar_iff {c : Char} :
    PlainChar c <-> c ≠ '"' ∧ c ≠ '\\' ∧ 32 ≤ c.toNat := by
  unfold PlainChar charLength
  constructor
  · intro h
    split at h
    · cases h
    · rename_i hnot
      rw [not_or, not_or, Nat.not_lt] at hnot
      exact hnot
  · intro h
    rcases h with ⟨hquote, hescape, hcontrol⟩
    rw [if_neg]
    intro hspecial
    rcases hspecial with hc | hc | hc
    · exact hquote hc
    · exact hescape hc
    · exact absurd hc (Nat.not_lt.mpr hcontrol)

theorem plainText_cons {c : Char} {cs : List Char} :
    PlainText (c :: cs) <-> PlainChar c ∧ PlainText cs :=
  List.forall_mem_cons

/-!
## Reading
-/

theorem readUnits_cons_of_plainChar {c : Char} (h : PlainChar c)
    (cs : List Char) :
    readUnits (c :: cs) = (readUnits cs).bind fun units =>
      some (c.toNat :: units.1, units.2) := by
  rcases plainChar_iff.mp h with ⟨hquote, hescape, hcontrol⟩
  rw [readUnits.eq_def]
  split
  · rename_i heq
    cases heq
  · rename_i heq
    cases heq
    exact absurd rfl hquote
  · rename_i heq
    cases heq
    exact absurd rfl hescape
  · rename_i heq
    cases heq
    exact absurd rfl hescape
  · rename_i heq
    cases heq
    rw [if_neg]
    · rfl
    · intro hbad
      rcases hbad with hbad | hbad
      · exact absurd hbad (Nat.not_lt.mpr hcontrol)
      · exact hescape hbad

theorem readUnits_of_plainText {cs : List Char} (h : PlainText cs)
    (rest : List Char) :
    readUnits (cs ++ '"' :: rest) = some (cs.map Char.toNat, rest) := by
  induction cs with
  | nil => rfl
  | cons c cs ih =>
      rcases plainText_cons.mp h with ⟨hc, hcs⟩
      rw [List.cons_append, readUnits_cons_of_plainChar hc, ih hcs]
      rfl

theorem joinUnits_map_toNat (cs : List Char) :
    joinUnits (cs.map Char.toNat) = cs := by
  induction cs with
  | nil => rfl
  | cons c cs ih =>
      cases cs with
      | nil => exact congrArg (fun x => [x]) (unitChar_toNat c)
      | cons c' cs' =>
          have hhigh : isHighSurrogate c.toNat = false :=
            (Bool.or_eq_false_iff.mp (not_surrogate c)).1
          rw [List.map_cons, List.map_cons, joinUnits, hhigh,
            unitChar_toNat]
          exact congrArg (List.cons c) ih

/-- A plain string is read as itself. -/
theorem readString_of_plainText {text : String}
    (h : PlainText text.toList) (rest : List Char) :
    readString (text.toList ++ '"' :: rest) = some (text, rest) := by
  unfold readString
  rw [readUnits_of_plainText h, Option.map_some, joinUnits_map_toNat,
    String.ofList_toList]

/-!
## Objects without spaces
-/

theorem readValue_string {cs rest : List Char} {text : String}
    (h : readString cs = some (text, rest)) (depth : Nat) :
    readValue (depth + 1) ('"' :: cs) = some (Json.string text, rest) := by
  show (readString cs).map _ = _
  rw [h, Option.map_some]

theorem readValue_empty (depth : Nat) (rest : List Char) :
    readValue (depth + 1) ('\x7b' :: '\x7d' :: rest) =
      some (Json.object [], rest) := rfl

theorem readValue_object {depth : Nat} {cs rest : List Char}
    {members : List (String × Json)}
    (h : readMembers depth ('"' :: cs) = some (members, rest)) :
    readValue (depth + 1) ('\x7b' :: '"' :: cs) =
      some (Json.object members, rest) := by
  show (readMembers depth ('"' :: cs)).map _ = _
  rw [h, Option.map_some]

theorem readMembers_last {depth : Nat} {cs value rest : List Char}
    {key : String} {j : Json} (hkey : readString cs = some (key, ':' :: value))
    (hvalue : readValue depth value = some (j, '\x7d' :: rest)) :
    readMembers (depth + 1) ('"' :: cs) = some ([(key, j)], rest) := by
  show (readString cs).bind _ = _
  rw [hkey]
  show (readValue depth value).bind _ = _
  rw [hvalue]
  rfl

theorem readMembers_more {depth : Nat} {cs value later rest : List Char}
    {key : String} {j : Json} {members : List (String × Json)}
    (hkey : readString cs = some (key, ':' :: value))
    (hvalue : readValue depth value = some (j, ',' :: later))
    (hlater : readMembers depth later = some (members, rest)) :
    readMembers (depth + 1) ('"' :: cs) =
      some ((key, j) :: members, rest) := by
  show (readString cs).bind _ = _
  rw [hkey]
  show (readValue depth value).bind _ = _
  rw [hvalue]
  show (readMembers depth later).bind _ = _
  rw [hlater]
  rfl

theorem decode_of_readValue {text : String} {value : Json}
    (h : readValue (text.length + 1) text.toList = some (value, [])) :
    decode text = some value := by
  unfold decode
  rw [h]
  rfl

/-!
## Length
-/

theorem length_le_charsLength (cs : List Char) :
    cs.length ≤ charsLength cs := by
  induction cs with
  | nil => exact Nat.le_refl 0
  | cons c cs ih =>
      have hc := one_le_charLength c
      rw [charsLength, List.length_cons]
      omega

theorem plainText_of_charsLength_le {cs : List Char}
    (h : charsLength cs ≤ cs.length) : PlainText cs := by
  induction cs with
  | nil =>
      intro c hc
      cases hc
  | cons c cs ih =>
      have hc := one_le_charLength c
      have hcs := length_le_charsLength cs
      rw [charsLength, List.length_cons] at h
      exact plainText_cons.mpr
        ⟨Nat.le_antisymm (by omega) hc, ih (by omega)⟩

end JsonText
end Foundation
end XdsService
